import CommitStyle.Proofs.Pattern.Written
import CommitStyle.Proofs.Title.Verdict

/-! Acceptance by a pattern reads a title and composes it again. What comes out is
the pattern rendered with reworked values: the type and scope as the vocabulary
spells them, the description as it was read, and the given fields in place of
those read. A title that reads back as it was composed, and whose casing is
settled, comes out unchanged. -/

namespace CommitStyle

namespace Config

/-- The values that a title is composed of again when it is accepted. -/
def reworked? (config : Config) (p : Pattern) (title : String) (given : Entries String) :
    Option Values :=
  match p.parse? title with
  | none => none
  | some read =>
    match config.resolve read.type read.scope with
    | .error _ => none
    | .ok (type, scope) => some { read with type, scope, fields := read.fields.update given }

variable {config : Config} {p : Pattern} {title normalized : String} {given : Entries String}

theorem reworked?_eq_some {values : Values} :
    config.reworked? p title given = some values ↔ ∃ read type scope,
      p.parse? title = some read ∧ config.resolve read.type read.scope = .ok (type, scope) ∧
        values = { read with type, scope, fields := read.fields.update given } := by
  constructor
  · intro h
    unfold reworked? at h
    split at h
    · cases h
    · rename_i read hread
      split at h
      · cases h
      · rename_i type scope hres
        cases h
        exact ⟨read, type, scope, hread, hres, rfl⟩
  · rintro ⟨read, type, scope, hread, hres, rfl⟩
    simp only [reworked?, hread, hres]

/-- Given fields win over those that were read. -/
theorem reworked?_given {values : Values} (h : config.reworked? p title given = some values)
    (hdict : given.keys.Nodup) {label value : String} (hg : given.get? label = some value) :
    values.fields.get? label = some value := by
  obtain ⟨read, _, _, -, -, rfl⟩ := reworked?_eq_some.mp h
  rw [Entries.get?_update _ hdict, hg, Option.some_or]

theorem reworked?_reading {values : Values} (h : config.reworked? p title given = some values) :
    ∃ texts, Pattern.Reading p.segments (Text.strip title).toList texts := by
  obtain ⟨read, _, _, hread, -, -⟩ := reworked?_eq_some.mp h
  obtain ⟨texts, hfirst, -⟩ := Pattern.parse?_eq_some.mp hread
  exact ⟨texts, Text.toList_strip title ▸ hfirst.toReading⟩

/-- The type is of the vocabulary, and the scope of a pattern that has one is too. -/
theorem reworked?_vocabulary {values : Values}
    (h : config.reworked? p title given = some values) :
    (∃ entry ∈ config.types, values.type = entry.value) ∧
      (p.hasScope = true → ∃ entry ∈ config.scopes, values.scope = some entry.value) := by
  obtain ⟨read, type, scope, hread, hres, rfl⟩ := reworked?_eq_some.mp h
  obtain ⟨htype, hscope, hsome⟩ := resolve_eq_ok hres
  refine ⟨htype, fun hkeyword => ?_⟩
  rw [Pattern.parse?_scope hread hkeyword] at hsome
  obtain ⟨value, hvalue⟩ := Option.isSome_iff_exists.mp hsome
  obtain ⟨entry, hentry, rfl⟩ := hscope value hvalue
  exact ⟨entry, hentry, hvalue⟩

/-- Without a scope in the pattern there is none among the values. -/
theorem reworked?_noScope {values : Values} (h : config.reworked? p title given = some values)
    (hscope : p.hasScope = false) : values.scope = none := by
  obtain ⟨read, type, scope, hread, hres, rfl⟩ := reworked?_eq_some.mp h
  have hsome := (resolve_eq_ok hres).2.2
  rwa [Pattern.parse?_noScope hread hscope, Option.isSome_none, Option.isSome_eq_false_iff,
    Option.isNone_iff_eq_none] at hsome

theorem format_of_commitPattern (h : config.commitPattern = .ok (some p)) :
    config.format = .custom := by
  cases hf : config.format with
  | custom => rfl
  | builtin shape style => simp [commitPattern, hf, CommitFormat.isCustom] at h

theorem normalizeCustom_eq_ok (h : config.commitPattern = .ok (some p)) :
    config.normalizeCustom title given = .ok (.ok normalized) ↔
      ∃ values, config.reworked? p title given = some values ∧
        p.render .commit values = .ok normalized := by
  rw [normalizeCustom, h, reworked?]
  simp only [bind, Except.bind]
  cases p.parse? title with
  | none =>
    constructor
    · intro hw
      obtain ⟨_, _, hs⟩ := Success.bind_eq_ok.mp hw
      cases hs
    · rintro ⟨_, hn, _⟩
      cases hn
  | some read =>
    cases hres : config.resolve read.type read.scope with
    | error rejection => simp [pure, Except.pure, hres]
    | ok found =>
      simp only [hres, Option.some.injEq, exists_eq_left']
      constructor
      · intro hw
        obtain ⟨text, ht, hs⟩ := Success.bind_eq_ok.mp hw
        cases hs
        exact ht
      · intro ht
        exact Success.bind_eq_ok.mpr ⟨_, ht, rfl⟩

theorem parse?_strip (p : Pattern) (title : String) :
    p.parse? (Text.strip title) = p.parse? title := by
  simp only [Pattern.parse?, Text.toList_strip, Text.trim_trim]

/-- A custom title is normalized to what its reworked values render. -/
theorem normalize_custom (h : config.commitPattern = .ok (some p)) :
    config.normalize title given = .ok (.ok normalized) ↔ Text.strip title ≠ "" ∧
      ∃ values, config.reworked? p title given = some values ∧
        p.render .commit values = .ok normalized := by
  simp only [normalize, format_of_commitPattern h]
  by_cases he : Text.strip title = ""
  · simp [he, pure, Except.pure]
  · rw [if_neg (by simpa using he), normalizeCustom_eq_ok h]
    simp [he, reworked?, parse?_strip]

/-- A custom title is accepted as what its reworked values render, if that has the right
length. -/
theorem accept_eq_ok (h : config.commitPattern = .ok (some p)) :
    config.accept title given = .ok (.ok normalized) ↔ Text.strip title ≠ "" ∧
      (∃ values, config.reworked? p title given = some values ∧
        p.render .commit values = .ok normalized) ∧
      Answer.titleFault? normalized config.minLength config.maxLength = none := by
  rw [accept_eq_ok_iff, normalize_custom h, and_assoc]

end Config

/-! ## Reading back what was composed -/

namespace Pattern

variable {p : Pattern} {values : Values} {written : List String}

/-- Values that differ at most in fields that are given anyway. -/
structure Agree (given : Entries String) (one other : Values) : Prop where
  type : one.type = other.type
  description : one.description = other.description
  scope : one.scope = other.scope
  fields : ∀ label, given.get? label = none → one.fields.get? label = other.fields.get? label

/-- The first reading of the title has, for type, scope, description and each field that is not
given, the text that was written for it. -/
def ReadsBack (p : Pattern) (given : Entries String) (written : List String)
    (title : String) : Prop :=
  ∃ texts, FirstReading p.segments (Text.trim title.toList) texts ∧
    Agree given (valuesOf (p.capturedTexts texts)) (valuesOf (p.captures.zip written))

/-- Titles without early separators read back. -/
theorem readsBack_of_separated {title : String} {given : Entries String}
    (hrender : p.render .commit values = .ok title)
    (hwritten : p.written .commit values = .ok written) (hplain : ∀ text ∈ written, Plain text)
    (htitle : Text.strip title = title)
    (hsep : Separated p.segments title.toList (written.map String.toList)) :
    p.ReadsBack given written title := by
  refine ⟨_, firstReading_of_written hrender hwritten hplain htitle hsep, ?_⟩
  rw [capturedTexts_plain _ hplain]
  exact ⟨rfl, rfl, rfl, fun _ _ => rfl⟩

/-- Every keyword of that name writes the two values alike. -/
def WritesAlike (p : Pattern) (name value other : String) : Prop :=
  ∀ casing, .keyword name casing ∈ p.segments → casing.apply other = casing.apply value

end Pattern

/-- The casing of the values is settled: for the type and the scope as they are written the
vocabulary has entries that are written alike, and so is the description when it is cased
again. -/
structure Settled (config : Config) (p : Pattern) (values : Values) (written : List String) :
    Prop where
  type : ∃ entry, config.findType (Pattern.valuesOf (p.captures.zip written)).type = some entry ∧
    p.WritesAlike "type" values.type entry.value
  scope : ∀ scope, (Pattern.valuesOf (p.captures.zip written)).scope = some scope →
    ∃ entry, config.findScope scope = some entry ∧
      p.WritesAlike "scope" (values.scope.getD "") entry.value
  description : p.WritesAlike "description" values.description
    (Pattern.valuesOf (p.captures.zip written)).description

namespace Config

variable {config : Config} {p : Pattern} {values read : Values} {written : List String}
  {title : String} {given : Entries String}

/-- The vocabulary resolves what was read of a settled title to entries that are written as the
values were. -/
theorem resolve_of_settled (hwritten : p.written .commit values = .ok written)
    (hs : Settled config p values written)
    (ht : read.type = (Pattern.valuesOf (p.captures.zip written)).type)
    (hsc : read.scope = (Pattern.valuesOf (p.captures.zip written)).scope) :
    ∃ type scope, config.resolve read.type read.scope = .ok (type, scope) ∧
      p.WritesAlike "type" values.type type ∧
      p.WritesAlike "scope" (values.scope.getD "") (scope.getD "") := by
  obtain ⟨entry, he, halike⟩ := hs.type
  cases hread : read.scope with
  | none =>
    refine ⟨entry.value, none,
      resolve_eq_ok_iff.mpr ⟨entry, ht ▸ he, rfl, .inl ⟨rfl, rfl⟩⟩, halike, ?_⟩
    -- a pattern with a scope keyword would have read one
    intro casing hmem
    obtain ⟨text, hk⟩ := Pattern.keywordText?_zip (Pattern.written_count hwritten) hmem
    rw [hsc, Pattern.valuesOf, hk] at hread
    contradiction
  | some scope =>
    obtain ⟨found, hf, hfound⟩ := hs.scope scope (hsc ▸ hread)
    exact ⟨entry.value, some found.value, resolve_eq_ok_iff.mpr
      ⟨entry, ht ▸ he, rfl, .inr ⟨scope, found, rfl, hf, rfl⟩⟩, halike, hfound⟩

/-- A settled title that reads back is composed again as it was. -/
theorem reworked?_of_readsBack (hwritten : p.written .commit values = .ok written)
    (hdict : given.keys.Nodup)
    (hgiven : ∀ label value, given.get? label = some value →
      values.fields.get? label = some value)
    (hback : p.ReadsBack given written title) (hs : Settled config p values written) :
    ∃ again, config.reworked? p title given = some again ∧
      p.render .commit again = p.render .commit values := by
  obtain ⟨texts, hfirst, hagree⟩ := hback
  obtain ⟨type, scope, hres, htype, hscope⟩ :=
    resolve_of_settled hwritten hs hagree.type hagree.scope
  have hparse := Pattern.parse?_eq_some.mpr ⟨texts, hfirst, rfl⟩
  refine ⟨_, reworked?_eq_some.mpr ⟨_, type, scope, hparse, hres, rfl⟩,
    Pattern.render_congr ?_⟩
  intro segment hmem
  cases segment with
  | literal text => rfl
  | keyword name casing =>
    simp only [Segment.render, keywordValue, beq_iff_eq]
    split
    · rename_i hn
      exact congrArg Except.ok (htype casing (hn ▸ hmem))
    · split
      · rename_i hn
        exact congrArg Except.ok (hscope casing (hn ▸ hmem))
      · split
        · rename_i hn
          refine congrArg Except.ok ?_
          rw [hagree.description]
          exact hs.description casing (hn ▸ hmem)
        · rfl
  | field label =>
    refine congrArg Except.ok ?_
    simp only [fieldValue]
    rw [Entries.get?_update _ hdict]
    cases hg : given.get? label with
    | some value => rw [hgiven label value hg]; rfl
    | none =>
      have hf := hagree.fields label hg
      simp only [Pattern.valuesOf] at hf ⊢
      rw [hf, Pattern.fieldTexts_written hwritten hmem]
      rfl

end Config

end CommitStyle
