import CommitStyle.Config.Read
import CommitStyle.Proofs.Success

/-! What reading settings fails with. A setting that will not do is refused with a fault of
the configuration, whatever kind of value it is. Three settings escape that: a mode for
version changes with too long a number in it to be shown, a number without bound where a
whole number is wanted, and settings for suggestions that are neither empty nor an
object. They end in a failure of another kind as soon as everything that is read before
them can be read, and nothing else does. -/

namespace CommitStyle

variable {α β : Type}

/-- Whatever goes wrong in reading is a fault of the configuration. -/
def OnlyRefuses (reading : Except Failure α) : Prop :=
  ∀ failure, reading = .error failure → ∃ fault, failure = .config fault

/-- A number without bound. -/
def Json.IsInfinite (value : Json) : Prop := ∃ negative, value = .float (.infinite negative)

/-! ## Settings that are refused -/

theorem OnlyRefuses.ok (a : α) : OnlyRefuses (.ok a) := by
  intro failure h
  cases h

theorem OnlyRefuses.refuse (fault : ConfigFault) :
    OnlyRefuses (refuse fault : Except Failure α) := by
  intro failure h
  cases h
  exact ⟨fault, rfl⟩

theorem OnlyRefuses.bind {reading : Except Failure α} {next : α → Except Failure β}
    (h : OnlyRefuses reading) (h' : ∀ a, OnlyRefuses (next a)) :
    OnlyRefuses (reading >>= next) := by
  intro failure hfails
  rcases Success.bind_eq_error.mp hfails with hreading | ⟨a, -, hnext⟩
  · exact h failure hreading
  · exact h' a failure hnext

theorem OnlyRefuses.mapM {items : List α} {reading : α → Except Failure β}
    (h : ∀ item, OnlyRefuses (reading item)) : OnlyRefuses (items.mapM reading) := by
  intro failure hfails
  obtain ⟨item, -, hitem⟩ := Success.mapM_eq_error hfails
  exact h item failure hitem

/-- What cannot be shown is refused as well. -/
theorem onlyRefuses_legible (shown : Except Number.WholeFault α) : OnlyRefuses (legible shown) := by
  intro failure h
  unfold legible at h
  cases shown with
  | ok text => cases h
  | error fault =>
    cases h
    exact ⟨_, rfl⟩

/-- A refusal that shows a value. -/
theorem onlyRefuses_shown (shown : Except Number.WholeFault String)
    (fault : String → ConfigFault) :
    OnlyRefuses (legible shown >>= fun text => (refuse (fault text) : Except Failure α)) :=
  (onlyRefuses_legible shown).bind fun _ => .refuse _

theorem onlyRefuses_providerOf (setting : Json) : OnlyRefuses (providerOf setting) := by
  unfold providerOf
  split
  · exact .ok _
  · exact onlyRefuses_shown _ _

/-- Only a number without bound escapes. -/
theorem wholeOf_eq_error {value : Json} {failure : Failure} (h : wholeOf value = .error failure) :
    (∃ fault, failure = .config fault) ∨ failure = .infiniteWhole ∧ value.IsInfinite := by
  unfold wholeOf at h
  split at h
  · cases h
  · cases h
  · cases h
  · rename_i negative
    cases h
    exact .inr ⟨rfl, negative, rfl⟩
  · exact .inl (OnlyRefuses.refuse _ _ h)
  · split at h
    · cases h
    · exact .inl (OnlyRefuses.refuse _ _ h)
    · exact .inl (OnlyRefuses.refuse _ _ h)
  · exact .inl (OnlyRefuses.refuse _ _ h)

theorem wholeOf_infinite {value : Json} (h : value.IsInfinite) :
    wholeOf value = .error .infiniteWhole := by
  obtain ⟨negative, rfl⟩ := h
  rfl

theorem onlyRefuses_formatCode (setting : Json) : OnlyRefuses (formatCode setting) := by
  intro failure h
  unfold formatCode at h
  split at h
  · split at h
    · rcases wholeOf_eq_error (Success.map_eq_error.mp h) with hrefused | ⟨-, negative, htext⟩
      · exact hrefused
      · cases htext
    · cases h
  · cases h

theorem onlyRefuses_formatOf (ofCode? : Json → Option α) (key : String) (setting : Json) :
    OnlyRefuses (formatOf ofCode? key setting) := by
  refine (onlyRefuses_formatCode setting).bind fun code => ?_
  split
  · exact .ok _
  · exact onlyRefuses_shown _ _

theorem onlyRefuses_choice (entry : Json) : OnlyRefuses (Choice.ofJson entry) := by
  unfold Choice.ofJson
  split
  · exact .ok _
  · dsimp only
    split
    · exact (onlyRefuses_legible _).bind fun _ => (onlyRefuses_legible _).bind fun _ => .ok _
    · exact onlyRefuses_shown _ _
  · exact onlyRefuses_shown _ _

theorem onlyRefuses_entriesOf (setting : Json) : OnlyRefuses (entriesOf setting) := by
  unfold entriesOf
  split
  · exact .ok _
  · exact .ok _
  · exact .ok _
  · exact .refuse _

theorem onlyRefuses_choicesOf (setting : Json) (fallback : List Choice) :
    OnlyRefuses (choicesOf setting fallback) := by
  unfold choicesOf
  split
  · exact (onlyRefuses_entriesOf setting).bind fun _ => .mapM onlyRefuses_choice
  · exact .ok _

/-! ## Settings that escape -/

/-- A mode that is not known escapes if it cannot be shown. -/
theorem changeVersionOf_eq_error {setting : Json} {failure : Failure}
    (h : changeVersionOf setting = .error failure) :
    (∃ fault, failure = .config fault) ∨
      ∃ fault, setting.inspect = .error fault ∧ failure = .number fault := by
  unfold changeVersionOf at h
  split at h
  · cases h
  rcases Success.bind_eq_error.mp h with hshown | ⟨shown, -, hrefused⟩
  · unfold Json.inspected at hshown
    cases hinspect : setting.inspect with
    | ok text =>
      rw [hinspect] at hshown
      cases hshown
    | error fault =>
      rw [hinspect] at hshown
      cases hshown
      exact .inr ⟨fault, rfl, rfl⟩
  · exact .inl (OnlyRefuses.refuse _ _ hrefused)

/-- What cannot be shown is no text, and so no known mode. -/
theorem changeVersionOf_unshown {setting : Json} {fault : Number.WholeFault}
    (h : setting.inspect = .error fault) : changeVersionOf setting = .error (.number fault) := by
  have hunknown : changeVersionModes.find? (fun mode => (Json.str (.whole mode)).same setting) =
      none := by
    refine List.find?_eq_none.mpr fun mode _ => ?_
    cases setting with
    | null | bool _ | float _ | str _ => cases h
    | int _ | arr _ | obj _ => simp [Json.same, Json.sameNumber, Json.asWhole?]
  rw [changeVersionOf, hunknown]
  show (setting.inspected >>= _) = _
  rw [Json.inspected, h]
  rfl

/-- How settings for suggestions fail other than by a fault of the configuration. -/
inductive AiSettings.Escapes (setting : Json) : Failure → Prop
  /-- They are something, but no object. -/
  | notAnObject (hthere : setting.isTruthy = true) (hkind : ∀ members, setting ≠ .obj members) :
      Escapes setting (.noOperation setting "get")
  /-- The provider is known, and the number of tokens is without bound. -/
  | threshold {members : List (JsonText × Json)} {provider : String × String}
      (hsetting : setting = .obj members) (hthere : setting.isTruthy = true)
      (hprovider : providerOf (setting.getD "provider" (.str "anthropic")) = .ok provider)
      (hinfinite : (setting.getD "largeDiffTokenThreshold" (.int 20000)).IsInfinite) :
      Escapes setting .infiniteWhole

theorem AiSettings.Escapes.ofJson {setting : Json} {failure : Failure}
    (h : Escapes setting failure) : AiSettings.ofJson setting = .error failure := by
  cases h with
  | notAnObject hthere hkind =>
    unfold AiSettings.ofJson
    rw [hthere]
    cases setting with
    | obj members => exact absurd rfl (hkind members)
    | null | bool _ | int _ | float _ | str _ | arr _ => rfl
  | threshold hsetting hthere hprovider hinfinite =>
    subst hsetting
    rw [AiSettings.ofJson, hthere]
    show (providerOf _ >>= _) = _
    rw [hprovider]
    show (wholeOf _ >>= _) = _
    rw [wholeOf_infinite hinfinite]
    rfl

theorem AiSettings.ofJson_eq_error {setting : Json} {failure : Failure}
    (h : AiSettings.ofJson setting = .error failure) :
    (∃ fault, failure = .config fault) ∨ Escapes setting failure := by
  unfold AiSettings.ofJson at h
  split at h
  · cases h
  rename_i hthere
  simp only [Bool.not_eq_true, Bool.not_eq_false'] at hthere
  split at h
  · rename_i members
    rcases Success.bind_eq_error.mp h with hprovider | ⟨provider, hprovider, hrest⟩
    · exact .inl (onlyRefuses_providerOf _ failure hprovider)
    · rcases Success.bind_eq_error.mp hrest with hwhole | ⟨threshold, -, hdone⟩
      · rcases wholeOf_eq_error hwhole with hrefused | ⟨rfl, hinfinite⟩
        · exact .inl hrefused
        · exact .inr (.threshold rfl hthere hprovider hinfinite)
      · cases hdone
  · rename_i hkind
    cases h
    exact .inr (.notAnObject hthere hkind)

namespace Config

/-- An object whose settings can be read, as far as they are read before the lengths. -/
structure Opens (data : Json) : Prop where
  isObject : ∃ members, data = .obj members
  changeVersion : ∃ mode, changeVersionOf (data.getD "changeVersion" (.str "ignore")) = .ok mode
  format : ∃ format,
    formatOf CommitFormat.ofCode? "format" (data.getD "format" (.int 1)) = .ok format
  branchFormat : ∃ format,
    formatOf BranchFormat.ofCode? "branchFormat" (data.getD "branchFormat" (.int 1)) = .ok format
  types : ∃ choices, choicesOf (data.getD "types" .null) defaultTypes = .ok choices
  scopes : ∃ choices, choicesOf (data.getD "scopes" .null) [] = .ok choices

/-- How settings fail other than by a fault of the configuration. -/
inductive Escapes (data : Json) : Failure → Prop
  | changeVersion {members : List (JsonText × Json)} {fault : Number.WholeFault}
      (hobject : data = .obj members)
      (hunshown : (data.getD "changeVersion" (.str "ignore")).inspect = .error fault) :
      Escapes data (.number fault)
  | minLength (hopens : Opens data) (hinfinite : (data.getD "minLength" (.int 8)).IsInfinite) :
      Escapes data .infiniteWhole
  | maxLength {least : Int} (hopens : Opens data)
      (hleast : wholeOf (data.getD "minLength" (.int 8)) = .ok least)
      (hinfinite : (data.getD "maxLength" (.int 80)).IsInfinite) : Escapes data .infiniteWhole
  | suggestions {least most : Int} {failure : Failure} (hopens : Opens data)
      (hleast : wholeOf (data.getD "minLength" (.int 8)) = .ok least)
      (hmost : wholeOf (data.getD "maxLength" (.int 80)) = .ok most)
      (hai : AiSettings.Escapes (data.getD "ai" .null) failure) : Escapes data failure

theorem Escapes.not_fault {data : Json} {failure : Failure} (h : Escapes data failure)
    (fault : ConfigFault) : failure ≠ .config fault := by
  cases h with
  | changeVersion | minLength | maxLength => simp
  | suggestions _ _ _ hai => cases hai <;> simp

/-- What is read from the lengths on. -/
def readOn (data : Json) (changeVersion : String) (format : CommitFormat)
    (branchFormat : BranchFormat) (types scopes : List Choice) : Except Failure Config := do
  let minLength ← wholeOf (data.getD "minLength" (.int 8))
  let maxLength ← wholeOf (data.getD "maxLength" (.int 80))
  let ai ← AiSettings.ofJson (data.getD "ai" .null)
  return {
    format
    customFormat := data.getD "customFormat" .null
    branchFormat
    customBranchFormat := data.getD "customBranchFormat" .null
    types
    scopes
    minLength
    maxLength
    changeVersion
    releaseBranch := settingOr (data.getD "releaseBranch" .null) (.str "main")
    showAllVersionTypes := (data.getD "showAllVersionTypes" (.bool false)).isTruthy
    stageAllChanges := (data.getD "stageAllChanges" (.bool false)).isTruthy
    ai }

theorem Opens.ofJson {data : Json} (h : Opens data) :
    ∃ mode format branchFormat types scopes,
      Config.ofJson data = readOn data mode format branchFormat types scopes := by
  obtain ⟨⟨members, rfl⟩, ⟨mode, hmode⟩, ⟨format, hformat⟩, ⟨branchFormat, hbranchFormat⟩,
    ⟨types, htypes⟩, ⟨scopes, hscopes⟩⟩ := h
  refine ⟨mode, format, branchFormat, types, scopes, ?_⟩
  rw [Config.ofJson, hmode, hformat, hbranchFormat, htypes, hscopes]
  rfl

theorem Escapes.ofJson {data : Json} {failure : Failure} (h : Escapes data failure) :
    Config.ofJson data = .error failure := by
  cases h with
  | changeVersion hobject hunshown =>
    subst hobject
    rw [Config.ofJson, changeVersionOf_unshown hunshown]
    rfl
  | minLength hopens hinfinite =>
    obtain ⟨_, _, _, _, _, hread⟩ := hopens.ofJson
    rw [hread, readOn, wholeOf_infinite hinfinite]
    rfl
  | maxLength hopens hleast hinfinite =>
    obtain ⟨_, _, _, _, _, hread⟩ := hopens.ofJson
    rw [hread, readOn, hleast, wholeOf_infinite hinfinite]
    rfl
  | suggestions hopens hleast hmost hai =>
    obtain ⟨_, _, _, _, _, hread⟩ := hopens.ofJson
    rw [hread, readOn, hleast, hmost, hai.ofJson]
    rfl

theorem readOn_eq_error {data : Json} {mode : String} {format : CommitFormat}
    {branchFormat : BranchFormat} {types scopes : List Choice} {failure : Failure}
    (hopens : Opens data) (h : readOn data mode format branchFormat types scopes = .error failure) :
    (∃ fault, failure = .config fault) ∨ Escapes data failure := by
  rcases Success.bind_eq_error.mp h with hbad | ⟨least, hleast, h⟩
  · rcases wholeOf_eq_error hbad with hrefused | ⟨rfl, hinfinite⟩
    · exact .inl hrefused
    · exact .inr (.minLength hopens hinfinite)
  rcases Success.bind_eq_error.mp h with hbad | ⟨most, hmost, h⟩
  · rcases wholeOf_eq_error hbad with hrefused | ⟨rfl, hinfinite⟩
    · exact .inl hrefused
    · exact .inr (.maxLength hopens hleast hinfinite)
  rcases Success.bind_eq_error.mp h with hbad | ⟨ai, -, h⟩
  · rcases AiSettings.ofJson_eq_error hbad with hrefused | hai
    · exact .inl hrefused
    · exact .inr (.suggestions hopens hleast hmost hai)
  · cases h

theorem ofJson_eq_error {data : Json} {failure : Failure}
    (h : Config.ofJson data = .error failure) :
    (∃ fault, failure = .config fault) ∨ Escapes data failure := by
  unfold Config.ofJson at h
  split at h
  swap
  · exact .inl (OnlyRefuses.refuse _ _ h)
  rename_i members
  rcases Success.bind_eq_error.mp h with hbad | ⟨mode, hmode, h⟩
  · rcases changeVersionOf_eq_error hbad with hrefused | ⟨fault, hunshown, rfl⟩
    · exact .inl hrefused
    · exact .inr (.changeVersion rfl hunshown)
  rcases Success.bind_eq_error.mp h with hbad | ⟨format, hformat, h⟩
  · exact .inl (onlyRefuses_formatOf _ _ _ failure hbad)
  rcases Success.bind_eq_error.mp h with hbad | ⟨branchFormat, hbranchFormat, h⟩
  · exact .inl (onlyRefuses_formatOf _ _ _ failure hbad)
  rcases Success.bind_eq_error.mp h with hbad | ⟨types, htypes, h⟩
  · exact .inl (onlyRefuses_choicesOf _ _ failure hbad)
  rcases Success.bind_eq_error.mp h with hbad | ⟨scopes, hscopes, h⟩
  · exact .inl (onlyRefuses_choicesOf _ _ failure hbad)
  exact readOn_eq_error ⟨⟨members, rfl⟩, ⟨mode, hmode⟩, ⟨format, hformat⟩,
    ⟨branchFormat, hbranchFormat⟩, ⟨types, htypes⟩, ⟨scopes, hscopes⟩⟩ h

/-- **What escapes.** Reading ends in a failure that is no fault of the configuration exactly for
the settings that escape; for all others it gives a configuration or such a fault. -/
theorem ofJson_escapes_iff (data : Json) (failure : Failure) :
    (Config.ofJson data = .error failure ∧ ∀ fault, failure ≠ .config fault) ↔
      Escapes data failure := by
  constructor
  · rintro ⟨hfails, hother⟩
    rcases ofJson_eq_error hfails with ⟨fault, rfl⟩ | hescapes
    · exact absurd rfl (hother fault)
    · exact hescapes
  · intro hescapes
    exact ⟨hescapes.ofJson, hescapes.not_fault⟩

/-- Settings for suggestions that name a provider in place of an object. -/
theorem ofJson_providerName :
    ¬ ((∃ config, Config.ofJson (.obj [("ai", .str "openai")]) = .ok config) ∨
      ∃ fault, Config.ofJson (.obj [("ai", .str "openai")]) = .error (.config fault)) := by
  have hfails : Config.ofJson (.obj [("ai", .str "openai")]) =
      .error (.noOperation (.str "openai") "get") := by rfl
  rw [hfails]
  simp

end Config

end CommitStyle
