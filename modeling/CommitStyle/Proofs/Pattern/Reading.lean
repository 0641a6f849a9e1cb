import CommitStyle.Pattern.Basic

/-! Readings of a text by segments. A reading gives each capture a text of one
character at least and without line feed, so that the literals and these texts,
one after the other, are the text that is read. Readings of one text are ordered
by the lengths of what their captures take, from the left; the first reading in
this order is unique. No matching is involved here. -/

namespace CommitStyle.Pattern

/-- The segments one after the other, each capture replaced by its text. -/
def weave : List Segment → List (List Char) → List Char
  | [], _ => []
  | .literal text :: rest, texts => text.toList ++ weave rest texts
  | _ :: rest, texts => texts.headD [] ++ weave rest texts.tail

def captureCount (segments : List Segment) : Nat :=
  (segments.filter fun segment => !segment.isLiteral).length

/-- What a capture may take. -/
structure Takeable (text : List Char) : Prop where
  ne_nil : text ≠ []
  noFeed : '\n' ∉ text

structure Reading (segments : List Segment) (s : List Char) (texts : List (List Char)) : Prop where
  count : texts.length = captureCount segments
  takeable : ∀ text ∈ texts, Takeable text
  weave_eq : weave segments texts = s

/-- How much each capture takes. -/
def widths (texts : List (List Char)) : List Nat := texts.map List.length

/-- The first capture that takes another amount takes less. -/
def Earlier (texts others : List (List Char)) : Prop :=
  List.Lex (· < ·) (widths texts) (widths others)

/-- A reading whose captures, from the left, take as little as any reading lets them. -/
structure FirstReading (segments : List Segment) (s : List Char) (texts : List (List Char)) :
    Prop extends Reading segments s texts where
  first : ∀ others, Reading segments s others → texts = others ∨ Earlier texts others

/-- Segments are a literal or a capture followed by segments. Which capture it is, no reading
tells. -/
@[elab_as_elim]
theorem segmentsInduction {motive : List Segment → Prop} (nil : motive [])
    (literal : ∀ text rest, motive rest → motive (.literal text :: rest))
    (capture : ∀ segment rest, segment.isLiteral = false → motive rest →
      motive (segment :: rest)) : ∀ segments, motive segments
  | [] => nil
  | .literal text :: rest => literal text rest (segmentsInduction nil literal capture rest)
  | .keyword _ _ :: rest => capture _ rest rfl (segmentsInduction nil literal capture rest)
  | .field _ :: rest => capture _ rest rfl (segmentsInduction nil literal capture rest)

theorem weave_literal (text : String) (rest : List Segment) (texts : List (List Char)) :
    weave (.literal text :: rest) texts = text.toList ++ weave rest texts := rfl

theorem weave_capture {segment : Segment} (h : segment.isLiteral = false) (rest : List Segment)
    (text : List Char) (others : List (List Char)) :
    weave (segment :: rest) (text :: others) = text ++ weave rest others := by
  cases segment with
  | literal _ => simp [Segment.isLiteral] at h
  | keyword _ _ | field _ => rfl

theorem reading_nil {s : List Char} {texts : List (List Char)} :
    Reading [] s texts ↔ s = [] ∧ texts = [] := by
  constructor
  · intro h
    exact ⟨h.weave_eq.symm, List.length_eq_zero_iff.mp h.count⟩
  · rintro ⟨rfl, rfl⟩
    exact ⟨rfl, by simp, rfl⟩

theorem reading_literal {text : String} {rest : List Segment} {s : List Char}
    {texts : List (List Char)} :
    Reading (.literal text :: rest) s texts ↔
      ∃ tail, s = text.toList ++ tail ∧ Reading rest tail texts := by
  constructor
  · intro h
    exact ⟨weave rest texts, h.weave_eq.symm, h.count, h.takeable, rfl⟩
  · rintro ⟨tail, rfl, h⟩
    exact ⟨h.count, h.takeable, by rw [weave_literal, h.weave_eq]⟩

theorem reading_capture {segment : Segment} (hc : segment.isLiteral = false)
    {rest : List Segment} {s : List Char} {texts : List (List Char)} :
    Reading (segment :: rest) s texts ↔ ∃ text others tail, texts = text :: others ∧
      Takeable text ∧ s = text ++ tail ∧ Reading rest tail others := by
  constructor
  · rintro ⟨hcount, htake, hweave⟩
    cases texts with
    | nil => simp [captureCount, hc] at hcount
    | cons text others =>
      rw [weave_capture hc] at hweave
      refine ⟨text, others, _, rfl, htake text (by simp), hweave.symm, ?_, ?_, rfl⟩
      · simpa [captureCount, hc] using hcount
      · intro t ht
        exact htake t (by simp [ht])
  · rintro ⟨text, others, tail, rfl, ht, rfl, h⟩
    refine ⟨by simpa [captureCount, hc] using h.count, ?_, by rw [weave_capture hc, h.weave_eq]⟩
    intro t hmem
    rcases List.mem_cons.mp hmem with rfl | hmem
    · exact ht
    · exact h.takeable t hmem

/-- Without captures a reading is determined. -/
theorem reading_literals {segments : List Segment} (h : segments.all Segment.isLiteral = true)
    {s : List Char} {texts : List (List Char)} :
    Reading segments s texts ↔ texts = [] ∧ s = weave segments [] := by
  have hnone : segments.filter (!·.isLiteral) = [] := by
    simpa [List.filter_eq_nil_iff] using h
  constructor
  · rintro ⟨hcount, -, hweave⟩
    have ht : texts = [] := by simpa [captureCount, hnone] using hcount
    exact ⟨ht, by rw [← hweave, ht]⟩
  · rintro ⟨rfl, rfl⟩
    exact ⟨by simp [captureCount, hnone], by simp, rfl⟩

/-- Where the empty text has a reading, no other text has one. -/
theorem Reading.eq_nil {segments : List Segment} {s : List Char} {texts others : List (List Char)}
    (h : Reading segments [] texts) (h' : Reading segments s others) : s = [] := by
  induction segments using segmentsInduction generalizing s with
  | nil => exact (reading_nil.mp h').1
  | literal text rest ih =>
    obtain ⟨tail, he, ht⟩ := reading_literal.mp h
    obtain ⟨htext, htail⟩ := List.append_eq_nil_iff.mp he.symm
    obtain ⟨tail', rfl, ht'⟩ := reading_literal.mp h'
    rw [htext, ih (htail ▸ ht) ht']
    rfl
  | capture segment rest hc ih =>
    obtain ⟨text, _, tail, -, htake, he, -⟩ := (reading_capture hc).mp h
    exact absurd (List.append_eq_nil_iff.mp he.symm).1 htake.ne_nil

theorem FirstReading.unique {segments : List Segment} {s : List Char}
    {texts others : List (List Char)} (h : FirstReading segments s texts)
    (h' : FirstReading segments s others) : texts = others := by
  rcases h.first others h'.toReading with heq | hlt
  · exact heq
  · rcases h'.first texts h.toReading with heq | hgt
    · exact heq.symm
    · exact absurd hgt (List.lex_asymm Nat.lt_asymm hlt)

/-! ## The first reading, segment by segment -/

theorem FirstReading.nil : FirstReading [] [] [] :=
  ⟨reading_nil.mpr ⟨rfl, rfl⟩, fun _ h => .inl (reading_nil.mp h).2.symm⟩

theorem FirstReading.literal {text : String} {rest : List Segment} {tail : List Char}
    {texts : List (List Char)} (h : FirstReading rest tail texts) :
    FirstReading (.literal text :: rest) (text.toList ++ tail) texts := by
  refine ⟨reading_literal.mpr ⟨tail, rfl, h.toReading⟩, ?_⟩
  intro others ho
  obtain ⟨tail', he, ht⟩ := reading_literal.mp ho
  rw [← List.append_cancel_left he] at ht
  exact h.first others ht

/-- A capture takes as little as it can when no shorter text leaves a text with a reading. -/
theorem FirstReading.capture {segment : Segment} (hc : segment.isLiteral = false)
    {rest : List Segment} {text tail : List Char} {others : List (List Char)}
    (ht : Takeable text) (h : FirstReading rest tail others)
    (hshort : ∀ k, 1 ≤ k → k < text.length →
      ¬ ∃ texts, Reading rest ((text ++ tail).drop k) texts) :
    FirstReading (segment :: rest) (text ++ tail) (text :: others) := by
  refine ⟨(reading_capture hc).mpr ⟨text, others, tail, rfl, ht, rfl, h.toReading⟩, ?_⟩
  intro texts ho
  obtain ⟨text', others', tail', rfl, ht', he, hr⟩ := (reading_capture hc).mp ho
  have hpos : 1 ≤ text'.length := List.length_pos_iff.mpr ht'.ne_nil
  rcases Nat.lt_trichotomy text.length text'.length with hlt | heq | hgt
  · exact .inr (.rel hlt)
  · obtain ⟨rfl, rfl⟩ := List.append_inj he heq
    rcases h.first others' hr with rfl | hmore
    · exact .inl rfl
    · exact .inr (.cons hmore)
  · refine absurd ⟨others', ?_⟩ (hshort text'.length hpos hgt)
    rwa [he, List.drop_left]

/-- The last capture has to take what the literals after it leave. -/
theorem FirstReading.lastCapture {segment : Segment} (hc : segment.isLiteral = false)
    {rest : List Segment} (hlast : rest.all Segment.isLiteral = true) {s : List Char}
    {texts : List (List Char)} (h : Reading (segment :: rest) s texts) :
    FirstReading (segment :: rest) s texts := by
  refine ⟨h, fun others ho => ?_⟩
  obtain ⟨text, more, tail, rfl, -, rfl, hl⟩ := (reading_capture hc).mp h
  obtain ⟨text', more', tail', rfl, -, he, hl'⟩ := (reading_capture hc).mp ho
  obtain ⟨rfl, rfl⟩ := (reading_literals hlast).mp hl
  obtain ⟨rfl, rfl⟩ := (reading_literals hlast).mp hl'
  exact .inl (by rw [List.append_cancel_right he])

end CommitStyle.Pattern
