import CommitStyle.Pattern.Render
import CommitStyle.Proofs.Pattern.Parsing
import CommitStyle.Proofs.Success
import CommitStyle.Proofs.Text.CaseImage

/-! Reading back what was rendered. A rendered title is its pattern with the texts of
the captures put in. Those texts are its first reading when no separator occurs
early, that is, inside the text in front of it; then every value comes back. -/

namespace CommitStyle.Pattern

/-- The texts that the captures are rendered as. -/
def written (p : Pattern) (kind : PatternKind) (values : Values) :
    Except Failure (List String) :=
  p.captures.mapM fun segment => segment.render kind values

theorem map_mapM_render (kind : PatternKind) (values : Values) (segments : List Segment) :
    (List.flatMap String.toList) <$> segments.mapM (fun segment => segment.render kind values) =
      (fun texts => weave segments (texts.map String.toList)) <$>
        (segments.filter fun segment => !segment.isLiteral).mapM
          fun segment => segment.render kind values := by
  induction segments using segmentsInduction with
  | nil => rfl
  | literal text rest ih =>
    have hput := congrArg (fun found => (text.toList ++ ·) <$> found) ih
    simp only [Functor.map_map] at hput
    rw [List.mapM_cons, List.filter_cons_of_neg (by simp [Segment.isLiteral])]
    simp only [bind_pure_comp, map_bind, Functor.map_map, List.flatMap_cons]
    exact hput
  | capture segment rest hc ih =>
    rw [List.filter_cons_of_pos (by simp [hc]), List.mapM_cons, List.mapM_cons]
    simp only [bind_pure_comp, map_bind, Functor.map_map, List.flatMap_cons, List.map_cons,
      weave_capture hc]
    congr 1
    funext text
    have hput := congrArg (fun found => (text.toList ++ ·) <$> found) ih
    simpa only [Functor.map_map] using hput

/-- Rendering is to put the written texts in, and fails as writing them does. -/
theorem render_eq (p : Pattern) (kind : PatternKind) (values : Values) :
    p.render kind values = (p.written kind values).map fun texts =>
      String.ofList (weave p.segments (texts.map String.toList)) := by
  have h := congrArg (fun found => String.ofList <$> found)
    (map_mapM_render kind values p.segments)
  simp only [Functor.map_map] at h
  refine Eq.trans ?_ h
  rw [render, bind_pure_comp]
  congr 1
  funext texts
  rw [← String.toList_join, String.ofList_toList]

theorem render_eq_ok {p : Pattern} {kind : PatternKind} {values : Values} {title : String} :
    p.render kind values = .ok title ↔ ∃ texts, p.written kind values = .ok texts ∧
      title.toList = weave p.segments (texts.map String.toList) := by
  rw [render_eq, Success.map_eq_ok]
  refine exists_congr fun texts => and_congr_right fun _ => ?_
  constructor
  · rintro rfl
    rw [String.toList_ofList]
  · intro h
    rw [← h, String.ofList_toList]

theorem render_congr {p : Pattern} {kind : PatternKind} {values again : Values}
    (h : ∀ segment ∈ p.segments, segment.render kind again = segment.render kind values) :
    p.render kind again = p.render kind values := by
  rw [render, render, Success.mapM_congr h]

/-! ## Separators -/

/-- The literal text in front of the next capture. -/
def separator : List Segment → List Char
  | .literal text :: rest => text.toList ++ separator rest
  | _ => []

/-- No separator occurs early in `s`: where another capture follows, the literal text between
the two does not occur in `s` at any place inside the text of the first, after its first
character. -/
def Separated (segments : List Segment) (s : List Char) (texts : List (List Char)) : Prop :=
  ∀ n, (h : n < segments.length) → segments[n].isLiteral = false →
    (segments.drop (n + 1)).any (fun other => !other.isLiteral) = true →
    ∀ k, 1 ≤ k → k < (texts.getD (captureCount (segments.take n)) []).length →
      ¬ separator (segments.drop (n + 1)) <+: s.drop ((weave (segments.take n) texts).length + k)

instance (segments : List Segment) (s : List Char) (texts : List (List Char)) :
    Decidable (Separated segments s texts) :=
  inferInstanceAs (Decidable (∀ n, (h : n < segments.length) → segments[n].isLiteral = false →
    (segments.drop (n + 1)).any (fun other => !other.isLiteral) = true →
    ∀ k, 1 ≤ k → k < (texts.getD (captureCount (segments.take n)) []).length →
      ¬ separator (segments.drop (n + 1)) <+:
        s.drop ((weave (segments.take n) texts).length + k)))

theorem Reading.separator_prefix {segments : List Segment} {s : List Char}
    {texts : List (List Char)} (h : Reading segments s texts) : separator segments <+: s := by
  induction segments using segmentsInduction generalizing s with
  | nil => exact List.nil_prefix
  | literal text rest ih =>
    obtain ⟨tail, rfl, ht⟩ := reading_literal.mp h
    exact (List.prefix_append_right_inj text.toList).mpr (ih ht)
  | capture segment rest hc ih =>
    cases segment with
    | literal _ => simp [Segment.isLiteral] at hc
    | keyword _ _ | field _ => exact List.nil_prefix

theorem Separated.of_literal {text : String} {rest : List Segment} {tail : List Char}
    {texts : List (List Char)}
    (h : Separated (.literal text :: rest) (text.toList ++ tail) texts) :
    Separated rest tail texts := by
  intro n hn hc hmore k h1 h2
  have hk := h (n + 1) (by simpa using hn) hc hmore k h1 h2
  rwa [List.take_succ_cons, weave_literal, List.length_append, Nat.add_assoc text.toList.length,
    List.drop_length_add_append] at hk

theorem Separated.of_capture {segment : Segment} (hseg : segment.isLiteral = false)
    {rest : List Segment} {text tail : List Char} {others : List (List Char)}
    (h : Separated (segment :: rest) (text ++ tail) (text :: others)) :
    Separated rest tail others := by
  intro n hn hc hmore k h1 h2
  have hk := h (n + 1) (by simpa using hn) hc hmore k h1
    (by simpa [captureCount, hseg] using h2)
  rwa [List.take_succ_cons, weave_capture hseg, List.length_append, Nat.add_assoc text.length,
    List.drop_length_add_append] at hk

/-- A reading without early separators is the first one: a shorter text for a capture would
have to be followed by the separator. -/
theorem Reading.first_of_separated {segments : List Segment} {s : List Char}
    {texts : List (List Char)} (h : Reading segments s texts) (hsep : Separated segments s texts) :
    FirstReading segments s texts := by
  induction segments using segmentsInduction generalizing s texts with
  | nil =>
    obtain ⟨rfl, rfl⟩ := reading_nil.mp h
    exact .nil
  | literal text rest ih =>
    obtain ⟨tail, rfl, ht⟩ := reading_literal.mp h
    exact .literal (ih ht hsep.of_literal)
  | capture segment rest hc ih =>
    by_cases hlast : rest.all Segment.isLiteral = true
    · exact .lastCapture hc hlast h
    · obtain ⟨text, others, tail, rfl, htake, rfl, ht⟩ := (reading_capture hc).mp h
      refine .capture hc htake (ih ht (hsep.of_capture hc)) ?_
      rintro k h1 h2 ⟨texts, hr⟩
      have hmore : rest.any (fun other => !other.isLiteral) = true := by
        simpa [List.any_eq_true] using hlast
      exact hsep 0 (by simp) hc hmore k h1 h2 (by simpa [weave] using hr.separator_prefix)

/-! ## Titles -/

/-- A text that a capture can take and that trimming leaves alone. -/
structure Plain (text : String) : Prop where
  ne_empty : text ≠ ""
  trimmed : Text.strip text = text
  noFeed : '\n' ∉ text.toList

instance (text : String) : Decidable (Plain text) :=
  decidable_of_iff (text ≠ "" ∧ Text.strip text = text ∧ '\n' ∉ text.toList)
    ⟨fun ⟨h, h', h''⟩ => ⟨h, h', h''⟩, fun h => ⟨h.ne_empty, h.trimmed, h.noFeed⟩⟩

theorem Plain.takeable {text : String} (h : Plain text) : Takeable text.toList :=
  ⟨fun he => h.ne_empty (String.toList_eq_nil_iff.mp he), h.noFeed⟩

theorem Plain.apply {text : String} (h : Plain text) (casing : Casing) :
    Plain (casing.apply text) := by
  have himages := Text.images_applyChars casing text.toList
  refine ⟨fun he => h.ne_empty ?_, Text.strip_eq_self.mpr ?_, ?_⟩
  · have hnil : casing.applyChars text.toList = [] := by
      rw [← String.toList_ofList (l := casing.applyChars text.toList)]
      exact String.toList_eq_nil_iff.mpr he
    exact String.toList_eq_nil_iff.mp (himages.keepsEnds.1.nil_iff.mpr hnil)
  · rw [Casing.apply, String.toList_ofList]
    exact himages.keepsEnds.1.trimmed (Text.strip_eq_self.mp h.trimmed)
  · rw [Casing.apply, String.toList_ofList, himages.mem_delimiter (by decide)]
    exact h.noFeed

theorem written_count {p : Pattern} {kind : PatternKind} {values : Values} {texts : List String}
    (h : p.written kind values = .ok texts) : texts.length = captureCount p.segments :=
  (Success.mapM_eq_ok.mp h).length_eq.symm

theorem reading_of_written {p : Pattern} {kind : PatternKind} {values : Values}
    {title : String} {texts : List String} (hrender : p.render kind values = .ok title)
    (hwritten : p.written kind values = .ok texts) (hplain : ∀ text ∈ texts, Plain text) :
    Reading p.segments title.toList (texts.map String.toList) := by
  obtain ⟨found, hf, ht⟩ := render_eq_ok.mp hrender
  rw [hwritten] at hf
  cases hf
  refine ⟨by rw [List.length_map, written_count hwritten], ?_, ht.symm⟩
  intro text hmem
  obtain ⟨original, ho, rfl⟩ := List.mem_map.mp hmem
  exact (hplain original ho).takeable

theorem capturedTexts_plain (p : Pattern) {texts : List String}
    (hplain : ∀ text ∈ texts, Plain text) :
    p.capturedTexts (texts.map String.toList) = p.captures.zip texts := by
  have hstrip : ∀ text ∈ texts, Text.strip text = text := fun text ht => (hplain text ht).trimmed
  rw [capturedTexts, List.map_map]
  congr 1
  exact (List.map_congr_left hstrip).trans (List.map_id' texts)

/-- The written texts are the first reading of what was rendered. -/
theorem firstReading_of_written {p : Pattern} {kind : PatternKind} {values : Values}
    {title : String} {texts : List String} (hrender : p.render kind values = .ok title)
    (hwritten : p.written kind values = .ok texts) (hplain : ∀ text ∈ texts, Plain text)
    (htitle : Text.strip title = title)
    (hsep : Separated p.segments title.toList (texts.map String.toList)) :
    FirstReading p.segments (Text.trim title.toList) (texts.map String.toList) := by
  rw [← Text.toList_strip, htitle]
  exact (reading_of_written hrender hwritten hplain).first_of_separated hsep

/-- **Reading back undoes rendering.** When the written texts can be captures, the title is
trimmed and no separator occurs early, each keyword and label gets its first written text. -/
theorem parse?_render {source : String} {kind : PatternKind} {values : Values} {title : String}
    {texts : List String} (hrender : (compile source).render kind values = .ok title)
    (hwritten : (compile source).written kind values = .ok texts)
    (hplain : ∀ text ∈ texts, Plain text) (htitle : Text.strip title = title)
    (hsep : Separated (compile source).segments title.toList (texts.map String.toList)) :
    ∃ read, (compile source).parse? title = some read ∧
      ReadOff ((compile source).captures.zip texts) read := by
  have hfirst := firstReading_of_written hrender hwritten hplain htitle hsep
  refine ⟨_, parse?_eq_some.mpr ⟨_, hfirst, rfl⟩, ?_⟩
  rw [capturedTexts_plain _ hplain]
  exact readOff_valuesOf _

/-- A pattern with the number of an issue in front. -/
def issueSource : String := "\x7bIssue ID\x7d - type: Description"

/-- The description may hold every separator, as it comes last. -/
def issueValues : Values := ⟨"feat", "ADD x - y: z", none, [("Issue ID", "PROJ-1")]⟩

def issueTexts : List String := ["PROJ-1", "feat", "Add x - y: z"]

def issueTitle : String := "PROJ-1 - feat: Add x - y: z"

theorem issue_render : (compile issueSource).render .commit issueValues = .ok issueTitle := by rfl

theorem issue_written : (compile issueSource).written .commit issueValues = .ok issueTexts := by
  rfl

theorem issue_plain : ∀ text ∈ issueTexts, Plain text := by decide

theorem issue_trimmed : Text.strip issueTitle = issueTitle := by decide

theorem issue_separated : Separated (compile issueSource).segments issueTitle.toList
    (issueTexts.map String.toList) := by
  decide

theorem parse?_render_issue :
    (compile issueSource).render .commit issueValues = .ok issueTitle ∧
    (compile issueSource).written .commit issueValues = .ok issueTexts ∧
    (∀ text ∈ issueTexts, Plain text) ∧ Text.strip issueTitle = issueTitle ∧
    Separated (compile issueSource).segments issueTitle.toList (issueTexts.map String.toList) ∧
    ∃ read, (compile issueSource).parse? issueTitle = some read ∧
      ReadOff ((compile issueSource).captures.zip issueTexts) read :=
  ⟨issue_render, issue_written, issue_plain, issue_trimmed, issue_separated,
    parse?_render issue_render issue_written issue_plain issue_trimmed issue_separated⟩

end CommitStyle.Pattern
