import CommitStyle.Pattern.Validate
import CommitStyle.Proofs.Pattern.Compiling
import CommitStyle.Proofs.Pattern.RoundTrip

/-! Which patterns can be rendered and read back, whatever plain values fill them. It
takes a pattern whose keywords all have values, and which has no white space at its
ends: a title is trimmed before it is read, so that white space there is lost. The
check of a pattern asks for neither. -/

namespace CommitStyle.Pattern

/-! ## The source between the captures -/

theorem isBlank_of_spellsLetter {letter c : Char} (hletter : Text.isBlank letter = false)
    (h : spellsLetter letter c = true) : Text.isBlank c = false := by
  by_cases hc : c ∈ lookalikes
  · have hnone : lookalikes.any Text.isBlank = false := by decide
    simpa using List.any_eq_false.mp hnone c hc
  · have hlower := toLower_of_spellsLetter h hc
    rw [← Bool.not_eq_true]
    intro hblank
    have hsame : c.toLower = c := by
      by_cases hascii : c.toNat < 0x80
      · exact (Text.isDelimiter_toLower hascii).2 (by simp [Text.isDelimiter, hblank])
      · exact Text.toLower_of_not_ascii hascii
    rw [← hlower, hsame, hblank] at hletter
    cases hletter

theorem isBlank_of_spellings {word spelling : List Char}
    (h : List.Forall₂ (fun letter c => spellsLetter letter c = true) word spelling)
    (hword : ∀ letter ∈ word, Text.isBlank letter = false) :
    ∀ c ∈ spelling, Text.isBlank c = false := by
  induction h with
  | nil => simp
  | cons hletter _ ih =>
    intro c hc
    rcases List.mem_cons.mp hc with rfl | hc
    · exact isBlank_of_spellsLetter (hword _ (by simp)) hletter
    · exact ih (fun letter hl => hword letter (by simp [hl])) c hc

/-- What a token takes begins and ends with a brace or a letter. -/
theorem tokenAt?_takes {before : Option Char} {s : List Char} {segment : Segment} {width : Nat}
    (h : tokenAt? before s = some (segment, width)) :
    segment.isLiteral = false ∧ s.take (width + 1) ≠ [] ∧ Text.Trimmed (s.take (width + 1)) := by
  rcases tokenAt?_cases h with ⟨label, rest, rfl, rfl, rfl⟩ | ⟨word, hword, hspells, rfl, rfl⟩
  · have htake : ('\x7b' :: label ++ '\x7d' :: rest).take (label.length + 1 + 1) =
        '\x7b' :: label ++ ['\x7d'] := by
      simp [List.take_append, List.take_of_length_le]
    rw [htake]
    refine ⟨rfl, by simp, ⟨fun c hc => ?_, fun c hc => ?_⟩⟩
    · cases hc
      rfl
    · rw [List.getLast?_append_of_ne_nil _ (by simp)] at hc
      cases hc
      rfl
  · obtain ⟨hpos, hletters⟩ := (by decide : ∀ word ∈ keywordSpellings, 1 ≤ word.length ∧
      word.any Text.isBlank = false) word hword
    simp only [List.any_eq_false, Bool.not_eq_true] at hletters
    have hspellings := spellings_of_spellsWord hspells
    rw [Nat.sub_add_cancel hpos]
    refine ⟨rfl, fun hnil => ?_, .of_forall (isBlank_of_spellings hspellings hletters)⟩
    have hlength := hspellings.length_eq
    rw [hnil, List.length_nil] at hlength
    omega

theorem weave_consChar (c : Char) (segments : List Segment) (texts : List (List Char)) :
    weave (consChar c segments) texts = c :: weave segments texts := by
  unfold consChar
  split <;> simp [weave]

theorem captureCount_consChar (c : Char) (segments : List Segment) :
    captureCount (consChar c segments) = captureCount segments := by
  unfold consChar
  split <;> simp [captureCount, Segment.isLiteral]

/-- Texts in place of the tokens: the ends of the whole are those of the source. -/
theorem weave_pieces {before : Option Char} {skip : Nat} {s : List Char}
    {texts : List (List Char)}
    (hcount : texts.length = captureCount (joinPieces (pieces before skip s)))
    (hne : ∀ text ∈ texts, text ≠ []) :
    let woven := weave (joinPieces (pieces before skip s)) texts
    Text.KeepsEnds woven (s.drop skip) ∧
      ((∀ text ∈ texts, Text.Trimmed text) → Text.KeepsEnds (s.drop skip) woven) := by
  induction s generalizing before skip texts with
  | nil => simp [pieces, joinPieces, weave, Text.KeepsEnds.refl]
  | cons c rest ih =>
    cases skip with
    | succ skip => exact ih hcount hne
    | zero =>
      rw [pieces] at hcount ⊢
      split
      · rename_i segment width htoken
        obtain ⟨hc, htaken, htrim⟩ := tokenAt?_takes htoken
        simp only [htoken, joinPieces] at hcount
        cases texts with
        | nil => simp [captureCount, hc] at hcount
        | cons text others =>
          have hothers : others.length =
              captureCount (joinPieces (pieces (some c) width rest)) := by
            simpa [captureCount, hc] using hcount
          obtain ⟨hwoven, hsource⟩ := ih hothers fun t ht => hne t (by simp [ht])
          simp only [joinPieces, weave_capture hc, List.drop_zero]
          rw [← List.take_append_drop (width + 1) (c :: rest), List.drop_succ_cons]
          refine ⟨.append (.of_trimmed (hne text (by simp)) htaken htrim) hwoven, fun hall => ?_⟩
          exact .append (.of_trimmed htaken (hne text (by simp)) (hall text (by simp)))
            (hsource fun t ht => hall t (by simp [ht]))
      · rename_i htoken
        simp only [htoken, joinPieces, captureCount_consChar] at hcount
        obtain ⟨hwoven, hsource⟩ := ih hcount hne
        simp only [joinPieces, weave_consChar, List.drop_zero] at hwoven hsource ⊢
        exact ⟨.append (.refl [c]) hwoven, fun hall => .append (.refl [c]) (hsource hall)⟩

theorem weave_compile {source : String} {texts : List (List Char)}
    (hcount : texts.length = captureCount (compile source).segments)
    (hne : ∀ text ∈ texts, text ≠ []) :
    Text.KeepsEnds (weave (compile source).segments texts) source.toList ∧
      ((∀ text ∈ texts, Text.Trimmed text) →
        Text.KeepsEnds source.toList (weave (compile source).segments texts)) := by
  have hpieces := weave_pieces hcount hne
  exact hpieces

/-! ## Rendering -/

/-- Plain texts for all that a pattern may ask for. -/
structure Filled (p : Pattern) (values : Values) : Prop where
  type : Plain values.type
  description : Plain values.description
  scope : ∃ scope, values.scope = some scope ∧ Plain scope
  fields : ∀ label ∈ p.fields, ∃ value, values.fields.get? label = some value ∧ Plain value

variable {p : Pattern} {kind : PatternKind} {values : Values}

theorem keywordValue_eq_error {name : String} {failure : Failure} :
    keywordValue kind values name = .error failure ↔
      failure = .unknownKeyword name ∧ name ∉ keywordNames := by
  simp only [keywordValue, keywordNames, List.mem_cons, List.not_mem_nil, or_false, not_or,
    beq_iff_eq]
  split
  · simp [*]
  · split
    · simp [*]
    · split
      · simp [*]
      · simp [*, eq_comm]

/-- Rendering fails at keywords without a value only. -/
theorem render_eq_error {failure : Failure} (h : p.render kind values = .error failure) :
    ∃ name casing, .keyword name casing ∈ p.segments ∧ name ∉ keywordNames ∧
      failure = .unknownKeyword name := by
  rcases Success.bind_eq_error.mp h with hm | ⟨texts, -, h⟩
  · obtain ⟨segment, hmem, hfail⟩ := Success.mapM_eq_error hm
    cases segment with
    | keyword name casing =>
      obtain ⟨rfl, hname⟩ := keywordValue_eq_error.mp (Success.map_eq_error.mp hfail)
      exact ⟨name, casing, hmem, hname, rfl⟩
    | literal _ | field _ => cases hfail
  · cases h

theorem render_exists_iff : (∃ title, p.render kind values = .ok title) ↔ Named p := by
  constructor
  · rintro ⟨title, h⟩ name casing hmem
    obtain ⟨texts, hm, -⟩ := Success.bind_eq_ok.mp h
    obtain ⟨text, ht⟩ := Success.ok_of_mapM hm hmem
    obtain ⟨value, hv, -⟩ := Success.map_eq_ok.mp ht
    by_contra hname
    rw [keywordValue_eq_error.mpr ⟨rfl, hname⟩] at hv
    cases hv
  · intro hnamed
    cases h : p.render kind values with
    | ok title => exact ⟨title, rfl⟩
    | error failure =>
      obtain ⟨name, casing, hmem, hname, -⟩ := render_eq_error h
      exact absurd (hnamed name casing hmem) hname

theorem Filled.keywordValue (h : Filled p values) {name value : String}
    (hvalue : keywordValue .commit values name = .ok value) : Plain value := by
  unfold CommitStyle.keywordValue at hvalue
  split at hvalue
  · cases hvalue
    exact h.type
  · split at hvalue
    · obtain ⟨scope, hscope, hplain⟩ := h.scope
      rw [hscope] at hvalue
      cases hvalue
      exact hplain
    · split at hvalue
      · cases hvalue
        exact h.description
      · cases hvalue

/-- Plain values are written as plain texts. -/
theorem Filled.written (h : Filled p values) {texts : List String}
    (hwritten : p.written .commit values = .ok texts) : ∀ text ∈ texts, Plain text := by
  intro text ht
  obtain ⟨segment, hmem, hrender⟩ := Success.exists_of_mapM hwritten ht
  obtain ⟨hsegment, hc⟩ := List.mem_filter.mp hmem
  cases segment with
  | literal _ => cases hc
  | keyword name casing =>
    obtain ⟨value, hvalue, rfl⟩ := Success.map_eq_ok.mp hrender
    exact (h.keywordValue hvalue).apply casing
  | field label =>
    have hlabel : label ∈ p.fields :=
      List.mem_eraseDups.mpr (List.mem_filterMap.mpr ⟨_, hsegment, rfl⟩)
    obtain ⟨value, hvalue, hplain⟩ := h.fields label hlabel
    obtain rfl : value = text := by
      simpa [Segment.render, fieldValue, hvalue] using hrender
    exact hplain

/-! ## Reading back -/

/-- A title that is rendered from plain values has the ends of the source. -/
theorem keepsEnds_rendered {source title : String} (hfilled : Filled (compile source) values)
    (hrender : (compile source).render .commit values = .ok title) :
    Text.KeepsEnds source.toList title.toList := by
  obtain ⟨texts, hwritten, hwoven⟩ := render_eq_ok.mp hrender
  have hplain := hfilled.written hwritten
  have hreading := reading_of_written hrender hwritten hplain
  rw [hwoven]
  refine (weave_compile hreading.count
    fun text ht => (hreading.takeable text ht).ne_nil).2 fun text ht => ?_
  obtain ⟨original, ho, rfl⟩ := List.mem_map.mp ht
  exact Text.strip_eq_self.mp (hplain original ho).trimmed

/-- A title that is rendered from plain values reads back exactly when the source is trimmed. -/
theorem parse?_rendered {source title : String} (hfilled : Filled (compile source) values)
    (hrender : (compile source).render .commit values = .ok title) :
    (compile source).parse? title ≠ none ↔ Text.strip source = source := by
  rw [(parse?_exact source title).1, Text.strip_eq_self]
  constructor
  · -- the trimmed title has the ends of the source as well
    rintro ⟨others, hreading⟩
    have hends := (weave_compile hreading.count fun text ht => (hreading.takeable text ht).ne_nil).1
    rw [hreading.weave_eq] at hends
    exact hends.trimmed (Text.trimmed_trim _)
  · intro hsource
    obtain ⟨texts, hwritten, -⟩ := render_eq_ok.mp hrender
    have hreading := reading_of_written hrender hwritten (hfilled.written hwritten)
    rw [Text.trim_of_trimmed ((keepsEnds_rendered hfilled hrender).trimmed hsource)]
    exact ⟨_, hreading⟩

/-- Without white space at its ends and without lookalikes, a pattern can be used. -/
theorem usable_of_trimmed {source : String} (hfilled : Filled (compile source) values)
    (htrim : Text.strip source = source) (hletters : ∀ c ∈ source.toList, c ∉ lookalikes) :
    ∃ title, (compile source).render .commit values = .ok title ∧
      (compile source).parse? title ≠ none := by
  obtain ⟨title, hrender⟩ := render_exists_iff.mpr (named_compile hletters)
  exact ⟨title, hrender, (parse?_rendered hfilled hrender).mpr htrim⟩

/-- **When a pattern can be used with all plain values.** It can be rendered exactly when each of
its keywords has a name with a value, and that is the only thing that can go wrong; the title can
be read back exactly when the pattern is trimmed. -/
theorem usable_iff {source : String} (hfilled : Filled (compile source) values) :
    ((∃ title, (compile source).render .commit values = .ok title) ↔ Named (compile source)) ∧
    (∀ failure, (compile source).render .commit values = .error failure →
      ∃ name, name ∉ keywordNames ∧ failure = .unknownKeyword name) ∧
    ∀ title, (compile source).render .commit values = .ok title →
      ((compile source).parse? title ≠ none ↔ Text.strip source = source) := by
  refine ⟨render_exists_iff, fun failure h => ?_, fun title h => parse?_rendered hfilled h⟩
  obtain ⟨name, _, -, hname, rfl⟩ := render_eq_error h
  exact ⟨name, hname, rfl⟩

/-- The values of a title with a scope. -/
def scopedValues : Values := ⟨"feat", "add thing", some "api", [("Issue ID", "PROJ-1")]⟩

theorem scopedValues_filled {source : String} (h : (compile source).fields ⊆ ["Issue ID"]) :
    Filled (compile source) scopedValues where
  type := by decide
  description := by decide
  scope := ⟨"api", rfl, by decide⟩
  fields := by
    intro label hlabel
    rw [List.mem_singleton.mp (h hlabel)]
    exact ⟨"PROJ-1", rfl, by decide⟩

theorem usable_iff_issue :
    Filled (compile issueSource) scopedValues ∧
    (compile issueSource).render .commit scopedValues = .ok "PROJ-1 - feat: Add thing" ∧
    (compile issueSource).parse? "PROJ-1 - feat: Add thing" ≠ none := by
  have hfilled : Filled (compile issueSource) scopedValues :=
    scopedValues_filled (by decide)
  have hrender : (compile issueSource).render .commit scopedValues =
      .ok "PROJ-1 - feat: Add thing" := by rfl
  exact ⟨hfilled, hrender, ((usable_iff hfilled).2.2 _ hrender).mpr (by decide)⟩

/-- Two patterns that pass the check and cannot be used: the title of the first one loses the
space that it begins with, and the second one has a keyword with a long s. -/
theorem valid_not_usable :
    (fault? " type: description" .commit = none ∧
      Filled (compile " type: description") scopedValues ∧
      (compile " type: description").render .commit scopedValues = .ok " feat: add thing" ∧
      (compile " type: description").parse? " feat: add thing" = none) ∧
    (fault? "type(ſcope): description" .commit = none ∧
      Filled (compile "type(ſcope): description") scopedValues ∧
      (compile "type(ſcope): description").render .commit scopedValues =
        .error (.unknownKeyword "ſcope")) := by
  refine ⟨⟨by rfl, scopedValues_filled ?_, by rfl, by rfl⟩, by rfl, scopedValues_filled ?_, by rfl⟩
  · decide
  · decide

end CommitStyle.Pattern
