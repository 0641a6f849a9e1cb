import CommitStyle.Pattern.Expression
import CommitStyle.Proofs.Pattern.Reading

/-! The expression of a pattern matches a text exactly when the text has a reading,
and then the groups take the first reading. A lazy group stops at the first text
after which the rest has a reading; the greedy one has no choice, because only
literals come after it. The text must not end in a line feed: before that one the
expression could end too. -/

namespace CommitStyle.Pattern

theorem dropLeading?_eq_some {leading s tail : List Char} :
    dropLeading? leading s = some tail ↔ s = leading ++ tail := by
  induction leading generalizing s with
  | nil => simp [dropLeading?]
  | cons c leading ih =>
    cases s with
    | nil => simp [dropLeading?]
    | cons d s =>
      by_cases hcd : c = d
      · subst hcd
        simp [dropLeading?, ih]
      · simp [dropLeading?, hcd, Ne.symm hcd]

section Groups

variable {α : Type} {next : List Char → Option α}

theorem Takeable.cons {c : Char} {text : List Char} (hc : c ≠ '\n') (h : '\n' ∉ text) :
    Takeable (c :: text) :=
  ⟨by simp, by simp [h, Ne.symm hc]⟩

/-- A lazy group stops at the first text after which the rest can go on. -/
theorem shortestThen_some {s taken : List Char} {found : α}
    (h : shortestThen next s = some (taken, found)) :
    ∃ tail, s = taken ++ tail ∧ Takeable taken ∧ next tail = some found ∧
      ∀ k, 1 ≤ k → k < taken.length → next (s.drop k) = none := by
  induction s generalizing taken with
  | nil => simp [shortestThen] at h
  | cons c rest ih =>
    simp only [shortestThen, beq_iff_eq] at h
    split at h
    · contradiction
    · rename_i hc
      split at h
      · rename_i hn
        cases h
        exact ⟨rest, rfl, .cons hc (by simp), hn, fun k h1 h2 => by simp at h2; omega⟩
      · rename_i hn
        obtain ⟨⟨more, _⟩, hm, he⟩ := Option.map_eq_some_iff.mp h
        cases he
        obtain ⟨tail, hs, ht, hf, hk⟩ := ih hm
        refine ⟨tail, by rw [hs]; rfl, .cons hc ht.noFeed, hf, ?_⟩
        intro k h1 h2
        cases k with
        | zero => omega
        | succ k =>
          cases k with
          | zero => exact hn
          | succ k => exact hk (k + 1) (by omega) (by simpa using h2)

theorem longestThen_some {s taken : List Char} {found : α}
    (h : longestThen next s = some (taken, found)) :
    ∃ tail, s = taken ++ tail ∧ Takeable taken ∧ next tail = some found := by
  induction s generalizing taken with
  | nil => simp [longestThen] at h
  | cons c rest ih =>
    simp only [longestThen, beq_iff_eq] at h
    split at h
    · contradiction
    · rename_i hc
      split at h
      · rename_i hm
        cases h
        obtain ⟨tail, hs, ht, hf⟩ := ih hm
        exact ⟨tail, by rw [hs]; rfl, .cons hc ht.noFeed, hf⟩
      · obtain ⟨_, hf, he⟩ := Option.map_eq_some_iff.mp h
        cases he
        exact ⟨rest, rfl, .cons hc (by simp), hf⟩

theorem groupThen_cons_none {greedy : Bool} {c : Char} {rest : List Char} (hc : c ≠ '\n')
    (h : groupThen next greedy (c :: rest) = none) :
    groupThen next greedy rest = none ∧ next rest = none := by
  have hfeed : ¬ (c == '\n') = true := by simpa using hc
  cases greedy with
  | false =>
    have hs : shortestThen next (c :: rest) = none := h
    rw [shortestThen, if_neg hfeed] at hs
    split at hs
    · cases hs
    · rename_i hn
      exact ⟨Option.map_eq_none_iff.mp hs, hn⟩
  | true =>
    have hl : longestThen next (c :: rest) = none := h
    rw [longestThen, if_neg hfeed] at hl
    split at hl
    · cases hl
    · rename_i hm
      exact ⟨hm, Option.map_eq_none_iff.mp hl⟩

/-- Whichever end it tries first, a group fails only if no text of its own lets the rest go on. -/
theorem groupThen_none {greedy : Bool} {s : List Char} (h : groupThen next greedy s = none)
    {taken tail : List Char} (hs : s = taken ++ tail) (ht : Takeable taken) :
    next tail = none := by
  induction s generalizing taken with
  | nil => exact absurd (List.append_eq_nil_iff.mp hs.symm).1 ht.ne_nil
  | cons c rest ih =>
    cases taken with
    | nil => exact absurd rfl ht.ne_nil
    | cons d more =>
      obtain ⟨rfl, hrest⟩ := List.cons.inj hs
      obtain ⟨hgroup, hnext⟩ := groupThen_cons_none (fun he => ht.noFeed (by simp [he])) h
      by_cases hm : more = []
      · have hr : rest = tail := by simpa [hm] using hrest
        exact hr ▸ hnext
      · exact ih hgroup hrest ⟨hm, fun hf => ht.noFeed (by simp [hf])⟩

end Groups

theorem atEnd_iff {s : List Char} (hs : ¬ ['\n'] <:+ s) : atEnd s = true ↔ s = [] := by
  by_cases h : s = ['\n']
  · exact absurd (h ▸ List.suffix_refl _) hs
  · simp [atEnd, h]

theorem not_feed_suffix_of_append {before tail : List Char} (h : ¬ ['\n'] <:+ before ++ tail) :
    ¬ ['\n'] <:+ tail :=
  fun hf => h (hf.trans (List.suffix_append before tail))

theorem parts_capture {segment : Segment} (hc : segment.isLiteral = false)
    (rest : List Segment) :
    parts (segment :: rest) = .group (rest.all Segment.isLiteral) :: parts rest := by
  cases segment with
  | literal _ => simp [Segment.isLiteral] at hc
  | keyword _ _ | field _ => rfl

theorem matchParts_exists {segments : List Segment} {s : List Char} {texts : List (List Char)}
    (h : Reading segments s texts) : ∃ found, matchParts (parts segments) s = some found := by
  induction segments using segmentsInduction generalizing s texts with
  | nil =>
    obtain ⟨rfl, -⟩ := reading_nil.mp h
    exact ⟨[], rfl⟩
  | literal text rest ih =>
    obtain ⟨tail, hs, ht⟩ := reading_literal.mp h
    obtain ⟨found, hf⟩ := ih ht
    exact ⟨found, by simp [parts, matchParts, dropLeading?_eq_some.mpr hs, hf]⟩
  | capture segment rest hc ih =>
    obtain ⟨text, others, tail, -, ht, hs, hr⟩ := (reading_capture hc).mp h
    obtain ⟨found, hf⟩ := ih hr
    rw [parts_capture hc]
    cases hg : groupThen (matchParts (parts rest)) (rest.all Segment.isLiteral) s with
    | none => rw [groupThen_none hg hs ht] at hf; contradiction
    | some result => exact ⟨result.1 :: result.2, by simp [matchParts, hg]⟩

/-- What is matched is a reading, and no capture could take less. -/
theorem matchParts_first {segments : List Segment} {s : List Char} {texts : List (List Char)}
    (hs : ¬ ['\n'] <:+ s) (h : matchParts (parts segments) s = some texts) :
    FirstReading segments s texts := by
  induction segments using segmentsInduction generalizing s texts with
  | nil =>
    simp only [parts, matchParts] at h
    split at h
    · rename_i he
      cases h
      rw [(atEnd_iff hs).mp he]
      exact .nil
    · contradiction
  | literal text rest ih =>
    obtain ⟨tail, hd, hm⟩ := Option.bind_eq_some_iff.mp h
    obtain rfl := dropLeading?_eq_some.mp hd
    exact .literal (ih (not_feed_suffix_of_append hs) hm)
  | capture segment rest hc ih =>
    rw [parts_capture hc] at h
    obtain ⟨⟨text, others⟩, hg, he⟩ := Option.map_eq_some_iff.mp h
    cases he
    by_cases hlast : rest.all Segment.isLiteral = true
    · rw [hlast] at hg
      obtain ⟨tail, rfl, ht, hm⟩ := longestThen_some hg
      have hr := ih (not_feed_suffix_of_append hs) hm
      exact .lastCapture hc hlast
        ((reading_capture hc).mpr ⟨text, others, tail, rfl, ht, rfl, hr.toReading⟩)
    · rw [Bool.not_eq_true] at hlast
      rw [hlast] at hg
      obtain ⟨tail, rfl, ht, hm, hk⟩ := shortestThen_some hg
      refine .capture hc ht (ih (not_feed_suffix_of_append hs) hm) ?_
      rintro k h1 h2 ⟨texts, hr⟩
      obtain ⟨found, hf⟩ := matchParts_exists hr
      rw [hk k h1 h2] at hf
      contradiction

theorem matchParts_eq_some {segments : List Segment} {s : List Char} (hs : ¬ ['\n'] <:+ s)
    {texts : List (List Char)} :
    matchParts (parts segments) s = some texts ↔ FirstReading segments s texts := by
  constructor
  · exact matchParts_first hs
  · intro h
    obtain ⟨found, hf⟩ := matchParts_exists h.toReading
    rw [hf, h.unique (matchParts_first hs hf)]

theorem matchParts_isSome {segments : List Segment} {s : List Char} (hs : ¬ ['\n'] <:+ s) :
    (matchParts (parts segments) s).isSome = true ↔ ∃ texts, Reading segments s texts := by
  constructor
  · intro h
    obtain ⟨texts, ht⟩ := Option.isSome_iff_exists.mp h
    exact ⟨texts, (matchParts_first hs ht).toReading⟩
  · rintro ⟨texts, h⟩
    obtain ⟨found, hf⟩ := matchParts_exists h
    rw [hf]
    rfl

end CommitStyle.Pattern
