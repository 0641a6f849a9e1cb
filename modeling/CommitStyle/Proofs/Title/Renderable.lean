import CommitStyle.Proofs.Pattern.Usability
import CommitStyle.Proofs.Success
import CommitStyle.Title.Accept

/-! Configurations whose titles can be written. A built-in format needs no pattern, and a
pattern can be rendered if all of its keywords have values. There is then an example of a
title, a verdict on every title, and a text that shows the pattern. -/

namespace CommitStyle.Config

variable {config : Config}

/-- Either no pattern is needed, or all keywords of the pattern have values. -/
def Renderable (config : Config) : Prop :=
  ∃ pattern, config.commitPattern = .ok pattern ∧ ∀ p, pattern = some p → Pattern.Named p

theorem exampleTitle_exists (h : config.Renderable) (fields : Entries String) :
    ∃ sample, config.exampleTitle fields = .ok sample := by
  obtain ⟨pattern, hpattern, hnamed⟩ := h
  unfold exampleTitle
  dsimp only
  split
  · rw [hpattern]
    cases pattern with
    | none => exact ⟨_, rfl⟩
    | some p => exact Pattern.render_exists_iff.mpr (hnamed p rfl)
  · rename_i hbuiltin
    cases hformat : config.format with
    | builtin shape style => exact ⟨_, rfl⟩
    | custom => simp [hformat, CommitFormat.isCustom] at hbuiltin

theorem wrongFormat_ne_error (h : config.Renderable) {fields : Entries String}
    {failure : Failure} : config.wrongFormat fields ≠ .error failure := by
  obtain ⟨sample, hsample⟩ := exampleTitle_exists h fields
  intro hfail
  rw [wrongFormat, hsample] at hfail
  cases hfail

theorem normalizeCustom_ne_error (h : config.Renderable) {title : String}
    {fields : Entries String} {failure : Failure} :
    config.normalizeCustom title fields ≠ .error failure := by
  intro hfail
  have hwrong : config.wrongFormat fields ≠ .error failure := wrongFormat_ne_error h
  obtain ⟨pattern, hpattern, hnamed⟩ := h
  rcases Success.bind_eq_error.mp hfail with hfail | ⟨found, hfound, hfail⟩
  · rw [hpattern] at hfail
    cases hfail
  cases hpattern.symm.trans hfound
  split at hfail
  · cases hfail
  rename_i p
  split at hfail
  · exact hwrong hfail
  split at hfail
  · cases hfail
  rcases Success.bind_eq_error.mp hfail with hrender | ⟨text, -, hfail⟩
  · obtain ⟨name, casing, hmem, hname, -⟩ := Pattern.render_eq_error hrender
    exact hname (hnamed p rfl name casing hmem)
  · cases hfail

theorem normalizeBuiltin_ne_error (h : config.Renderable) {shape : Shape} {style : Style}
    {title : String} {failure : Failure} :
    config.normalizeBuiltin shape style title ≠ .error failure := by
  intro hfail
  unfold normalizeBuiltin at hfail
  split at hfail
  · exact wrongFormat_ne_error h hfail
  split at hfail
  · cases hfail
  · obtain ⟨sample, hsample⟩ := exampleTitle_exists h []
    rw [hsample] at hfail
    cases hfail

/-- There is a verdict on every title. -/
theorem accept_ne_error (h : config.Renderable) {title : String} {fields : Entries String}
    {failure : Failure} : config.accept title fields ≠ .error failure := by
  intro hfail
  rcases Success.bind_eq_error.mp hfail with hfail | ⟨verdict, -, hfail⟩
  · unfold normalize at hfail
    dsimp only at hfail
    split at hfail
    · cases hfail
    split at hfail
    · exact normalizeCustom_ne_error h hfail
    · exact normalizeBuiltin_ne_error h hfail
  · split at hfail
    · cases hfail
    split at hfail
    · cases hfail
    · cases hfail

/-- A setting that a pattern was read from is a text, or empty, and can be shown. -/
theorem displayed_of_patternOf {setting : Json} {pattern : Option Pattern}
    (h : patternOf setting = .ok pattern) : ∃ shown, setting.displayed = .ok shown := by
  cases setting with
  | null => exact ⟨_, rfl⟩
  | bool b => exact ⟨_, rfl⟩
  | str source => exact ⟨_, rfl⟩
  | float x => exact ⟨_, rfl⟩
  | int n =>
    by_cases hzero : n = 0
    · rw [hzero]
      exact ⟨"0", rfl⟩
    · simp [patternOf, Json.isTruthy, hzero] at h
  | arr items =>
    cases items with
    | nil => exact ⟨_, rfl⟩
    | cons item rest => cases h
  | obj members =>
    cases members with
    | nil => exact ⟨_, rfl⟩
    | cons member rest => cases h

theorem displayed_customFormat (h : config.Renderable) (hformat : config.format = .custom) :
    ∃ shown, config.customFormat.displayed = .ok shown := by
  obtain ⟨pattern, hpattern, -⟩ := h
  unfold commitPattern at hpattern
  rw [hformat, if_pos (by rfl)] at hpattern
  exact displayed_of_patternOf hpattern

end CommitStyle.Config
