import CommitStyle.Proofs.Title.Builtin
import CommitStyle.Proofs.Title.Recomposition

/-! What the verdict on a title promises. An accepted title can be composed of an entry
of the vocabulary for its type, one for its scope where the format has a scope, a
description and the fields that were given; and its length is within bounds. A
rejection says why, and blames the length only of a title that was normalized. -/

namespace CommitStyle

namespace Config

/-- Values as an accepted title has them. -/
structure Allowed (config : Config) (given : Entries String) (values : Values) : Prop where
  type : ∃ entry ∈ config.types, values.type = entry.value
  scope : ∃ required, config.requiresScope = .ok required ∧
    if required then ∃ entry ∈ config.scopes, values.scope = some entry.value
    else values.scope = none
  description : config.format.isCustom = false →
    values.description ≠ "" ∧ Text.strip values.description = values.description
  fields : ∀ label value, given.get? label = some value → values.fields.get? label = some value

/-- The configured format composes the title of allowed values. -/
def Composable (config : Config) (given : Entries String) (title : String) : Prop :=
  ∃ pattern values, config.commitPattern = .ok pattern ∧ config.Allowed given values ∧
    config.format.compose pattern values = .ok title

/-- A title in the configured format that keeps within the lengths. -/
structure Conforms (config : Config) (given : Entries String) (title : String) : Prop where
  least : config.minLength ≤ title.length
  most : title.length ≤ config.maxLength
  composable : config.Composable given title

variable {config : Config} {title normalized : String} {given : Entries String}

/-! ## Built-in formats -/

theorem commitPattern_builtin {shape : Shape} {style : Style}
    (hformat : config.format = .builtin shape style) : config.commitPattern = .ok none := by
  simp [commitPattern, hformat, CommitFormat.isCustom]

theorem requiresScope_builtin {shape : Shape} {style : Style}
    (hformat : config.format = .builtin shape style) :
    config.requiresScope = .ok shape.hasScope := by
  simp only [requiresScope, hformat, CommitFormat.isCustom]
  rfl

/-- What is detected in a trimmed title, resolved, is allowed. -/
theorem allowed_of_detect? {shape : Shape} {style : Style} {found : TitleParts}
    {type : String} {scope : Option String} (hformat : config.format = .builtin shape style)
    (htrim : Text.Trimmed title.toList) (hfound : TitleParts.detect? title = some (shape, found))
    (hres : config.resolve found.type found.scope = .ok (type, scope)) :
    config.Allowed given ⟨type, found.message, scope, given⟩ := by
  have hfits := TitleParts.fits_of_detect? htrim hfound
  obtain ⟨htype, hentry, hsome⟩ := resolve_eq_ok hres
  obtain ⟨word, hword, -⟩ := hfits.scope
  refine ⟨htype, ⟨_, requiresScope_builtin hformat, ?_⟩,
    fun _ => ⟨hfits.message.ne_empty, hfits.message.trimmed⟩, fun _ _ h => h⟩
  rw [hword, TitleParts.scopeOf] at hsome
  split at hsome
  · obtain ⟨value, hvalue⟩ := Option.isSome_iff_exists.mp hsome
    obtain ⟨entry, hmem, rfl⟩ := hentry value hvalue
    rw [if_pos ‹_›]
    exact ⟨entry, hmem, hvalue⟩
  · rw [if_neg ‹_›]
    simpa using hsome

theorem composable_of_builtin {shape : Shape} {style : Style}
    (hformat : config.format = .builtin shape style)
    (h : config.normalize title given = .ok (.ok normalized)) :
    config.Composable given normalized := by
  obtain ⟨-, found, type, scope, hfound, hres, rfl⟩ := (normalize_builtin hformat).mp h
  refine ⟨none, _, commitPattern_builtin hformat,
    allowed_of_detect? hformat (Text.trimmed_strip title) hfound hres, ?_⟩
  rw [hformat]
  rfl

/-! ## Formats of one's own -/

theorem requiresScope_custom {p : Pattern} (hpattern : config.commitPattern = .ok (some p)) :
    config.requiresScope = .ok p.hasScope := by
  rw [requiresScope, format_of_commitPattern hpattern, hpattern]
  rfl

theorem allowed_of_reworked? {p : Pattern} {values : Values}
    (hpattern : config.commitPattern = .ok (some p)) (hdict : given.keys.Nodup)
    (h : config.reworked? p title given = some values) : config.Allowed given values := by
  obtain ⟨htype, hscope⟩ := reworked?_vocabulary h
  refine ⟨htype, ⟨_, requiresScope_custom hpattern, ?_⟩, fun hbuiltin => ?_,
    fun _ _ => reworked?_given h hdict⟩
  · split
    · exact hscope ‹_›
    · exact reworked?_noScope h (Bool.not_eq_true _ ▸ ‹_›)
  · rw [format_of_commitPattern hpattern] at hbuiltin
    cases hbuiltin

/-- Only with a pattern is there a title of a custom format. -/
theorem pattern_of_normalize (hformat : config.format = .custom)
    (h : config.normalize title given = .ok (.ok normalized)) :
    ∃ p, config.commitPattern = .ok (some p) := by
  simp only [normalize, hformat] at h
  split at h
  · cases h
  · obtain ⟨pattern, hpattern, hrest⟩ := Success.bind_eq_ok.mp h
    cases pattern with
    | none => cases hrest
    | some p => exact ⟨p, hpattern⟩

theorem composable_of_custom (hformat : config.format = .custom) (hdict : given.keys.Nodup)
    (h : config.normalize title given = .ok (.ok normalized)) :
    config.Composable given normalized := by
  obtain ⟨p, hpattern⟩ := pattern_of_normalize hformat h
  obtain ⟨-, values, hvalues, hrender⟩ := (normalize_custom hpattern).mp h
  refine ⟨some p, values, hpattern, allowed_of_reworked? hpattern hdict hvalues, ?_⟩
  rw [hformat]
  exact hrender

theorem composable_of_normalize (hdict : given.keys.Nodup)
    (h : config.normalize title given = .ok (.ok normalized)) :
    config.Composable given normalized := by
  cases hformat : config.format with
  | builtin shape style => exact composable_of_builtin hformat h
  | custom => exact composable_of_custom hformat hdict h

/-! ## The verdict -/

theorem kind_lengthViolation_iff {rejection : Rejection}
    (h : config.accept title given = .ok (.error rejection)) :
    rejection.kind = .lengthViolation ↔
      ∃ normalized, config.normalize title given = .ok (.ok normalized) := by
  rcases accept_eq_error h with hn | ⟨text, fault, hn, rfl⟩
  · exact iff_of_false (kind_of_normalize hn) (by simp [hn])
  · exact iff_of_true rfl ⟨text, hn⟩

/-- **What is accepted conforms, and what is rejected is told why.** -/
theorem accept_sound (hdict : given.keys.Nodup) :
    (∀ normalized, config.accept title given = .ok (.ok normalized) →
      config.Conforms given normalized) ∧
    ∀ rejection, config.accept title given = .ok (.error rejection) →
      rejection.message ≠ "" ∧ (rejection.kind = .lengthViolation ↔
        ∃ normalized, config.normalize title given = .ok (.ok normalized)) := by
  constructor
  · intro normalized h
    obtain ⟨hn, hlength⟩ := accept_eq_ok_iff.mp h
    obtain ⟨hleast, hmost⟩ := titleFault?_eq_none.mp hlength
    exact ⟨hleast, hmost, composable_of_normalize hdict hn⟩
  · intro rejection h
    exact ⟨message_of_rejection rejection, kind_lengthViolation_iff h⟩

/-- Settings with the pattern of an issue in front of each title. -/
def issueConfig : Config := { format := .custom, customFormat := .str (.whole Pattern.issueSource) }

theorem accept_sound_issue :
    Pattern.issueValues.fields.keys.Nodup ∧
      (issueConfig.accept "proj-9 - FEAT: ADD x - y: z" Pattern.issueValues.fields =
          .ok (.ok Pattern.issueTitle) ∧
        issueConfig.Conforms Pattern.issueValues.fields Pattern.issueTitle) ∧
      ∃ rejection, issueConfig.accept "proj-9 - style: add x" Pattern.issueValues.fields =
          .ok (.error rejection) ∧
        rejection.message ≠ "" := by
  have hdict : Pattern.issueValues.fields.keys.Nodup := by decide
  have haccept : issueConfig.accept "proj-9 - FEAT: ADD x - y: z" Pattern.issueValues.fields =
      .ok (.ok Pattern.issueTitle) := by rfl
  have hreject : issueConfig.accept "proj-9 - style: add x" Pattern.issueValues.fields =
      .ok (.error (.unknownType "style" (defaultTypes.map (·.value)))) := by rfl
  exact ⟨hdict, ⟨haccept, (accept_sound hdict).1 _ haccept⟩, _, hreject,
    ((accept_sound hdict).2 _ hreject).1⟩

end Config

end CommitStyle
