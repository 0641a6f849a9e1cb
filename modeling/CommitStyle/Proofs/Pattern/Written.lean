import CommitStyle.Proofs.Pattern.RoundTrip

/-! What is read off the texts of all captures. Every keyword and field of the pattern
has a first text. Of texts that were written it is a rendering, so a field is read
off as its value, and a keyword as its value in some casing. -/

namespace CommitStyle.Pattern

variable {p : Pattern} {values : Values} {texts : List String}

theorem firstText_exists {captured : List (Segment × String)} (passes : Segment → Prop)
    (h : ∃ capture ∈ captured, passes capture.1) : ∃ text, FirstText captured passes text := by
  induction captured with
  | nil => simp at h
  | cons capture rest ih =>
    by_cases hp : passes capture.1
    · exact ⟨capture.2, [], capture.1, rest, rfl, hp, by simp⟩
    · obtain ⟨other, hmem, ho⟩ := h
      have hrest : other ∈ rest := by
        rcases List.mem_cons.mp hmem with rfl | hr
        · exact absurd ho hp
        · exact hr
      obtain ⟨text, before, segment, after, rfl, hs, hb⟩ := ih ⟨other, hrest, ho⟩
      refine ⟨text, capture :: before, segment, after, rfl, hs, fun found hf => ?_⟩
      rcases List.mem_cons.mp hf with rfl | hf
      · exact hp
      · exact hb found hf

theorem mem_zip_captures (hcount : texts.length = captureCount p.segments) {segment : Segment}
    (hs : segment ∈ p.segments) (hc : segment.isLiteral = false) :
    ∃ text, (segment, text) ∈ p.captures.zip texts := by
  have hmem : segment ∈ p.captures := List.mem_filter.mpr ⟨hs, by simp [hc]⟩
  obtain ⟨i, hi, rfl⟩ := List.mem_iff_getElem.mp hmem
  have ht : i < texts.length := hcount ▸ hi
  exact ⟨texts[i], List.mem_iff_getElem.mpr ⟨i, by rw [List.length_zip]; omega, by simp⟩⟩

theorem keywordText?_zip (hcount : texts.length = captureCount p.segments) {name : String}
    {casing : Casing} (hs : .keyword name casing ∈ p.segments) :
    ∃ text, keywordText? (p.captures.zip texts) name = some text := by
  obtain ⟨text, hmem⟩ := mem_zip_captures hcount hs rfl
  obtain ⟨first, hf⟩ := firstText_exists (IsKeyword name) ⟨_, hmem, rfl⟩
  exact ⟨first, (isFirstText_keyword _ name first).mpr hf⟩

theorem keyword_of_hasKeyword {name : String} (h : p.hasKeyword name = true) :
    ∃ casing, .keyword name casing ∈ p.segments := by
  obtain ⟨segment, hmem, hk⟩ := List.any_eq_true.mp h
  cases segment with
  | keyword other casing =>
    obtain rfl : other = name := by simpa [Segment.keywordName?] using hk
    exact ⟨casing, hmem⟩
  | literal _ | field _ => simp [Segment.keywordName?] at hk

/-- A pattern with a scope reads one. -/
theorem parse?_scope {title : String} {read : Values} (h : p.parse? title = some read)
    (hscope : p.hasScope = true) : read.scope.isSome = true := by
  obtain ⟨found, hfirst, rfl⟩ := parse?_eq_some.mp h
  obtain ⟨casing, hmem⟩ := keyword_of_hasKeyword hscope
  have hcount : (found.map fun text => String.ofList (Text.trim text)).length =
      captureCount p.segments := by
    rw [List.length_map, hfirst.count]
  obtain ⟨text, ht⟩ := keywordText?_zip hcount hmem
  exact Option.isSome_iff_exists.mpr ⟨text, ht⟩

/-- A pattern without one reads none. -/
theorem parse?_noScope {title : String} {read : Values} (h : p.parse? title = some read)
    (hscope : p.hasScope = false) : read.scope = none := by
  obtain ⟨found, -, rfl⟩ := parse?_eq_some.mp h
  rw [Option.eq_none_iff_forall_ne_some]
  intro text htext
  obtain ⟨before, segment, after, hcaptured, hkeyword, -⟩ :=
    (isFirstText_keyword _ "scope" text).mp htext
  have hmem : segment ∈ p.captures :=
    (List.of_mem_zip (b := text) (by rw [← capturedTexts, hcaptured]; simp)).1
  have hany : p.hasScope = true := List.any_eq_true.mpr
    ⟨segment, List.mem_of_mem_filter hmem, beq_iff_eq.mpr hkeyword⟩
  rw [hscope] at hany
  cases hany

/-- The first text of some captures is the rendering of one of them. -/
theorem firstText_written (h : p.written .commit values = .ok texts)
    {passes : Segment → Prop} {text : String}
    (hf : FirstText (p.captures.zip texts) passes text) :
    ∃ segment ∈ p.segments, passes segment ∧ segment.render .commit values = .ok text := by
  obtain ⟨before, segment, after, hz, hpass, -⟩ := hf
  have hmem : (segment, text) ∈ p.captures.zip texts := by rw [hz]; simp
  exact ⟨segment, List.mem_of_mem_filter (List.of_mem_zip hmem).1, hpass,
    (List.forall₂_iff_zip.mp (Success.mapM_eq_ok.mp h)).2 hmem⟩

/-- What was written first for a keyword is its value, cased. -/
theorem keywordText?_written (h : p.written .commit values = .ok texts) {name text : String}
    (ht : keywordText? (p.captures.zip texts) name = some text) :
    ∃ casing value, .keyword name casing ∈ p.segments ∧
      keywordValue .commit values name = .ok value ∧ text = casing.apply value := by
  obtain ⟨segment, hmem, hk, hr⟩ := firstText_written h ((isFirstText_keyword _ name text).mp ht)
  cases segment with
  | keyword other casing =>
    cases hk
    obtain ⟨value, hv, rfl⟩ := Success.map_eq_ok.mp hr
    exact ⟨casing, value, hmem, hv, rfl⟩
  | literal _ | field _ => cases hk

/-- A field is written as its value wherever it stands. -/
theorem fieldTexts_written (h : p.written .commit values = .ok texts) {label : String}
    (hs : .field label ∈ p.segments) :
    (fieldTexts (p.captures.zip texts)).get? label =
      some (fieldValue .commit values label) := by
  obtain ⟨text, hmem⟩ := mem_zip_captures (written_count h) hs rfl
  obtain ⟨first, hf⟩ := firstText_exists (IsField label) ⟨_, hmem, rfl⟩
  rw [(isFirstText_fieldTexts _ label first).mpr hf]
  obtain ⟨segment, -, hl, hr⟩ := firstText_written h hf
  cases segment with
  | field other =>
    cases hl
    exact congrArg some (Except.ok.inj hr).symm
  | literal _ | keyword _ _ => cases hl

end CommitStyle.Pattern
