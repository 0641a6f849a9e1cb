import CommitStyle.Flow.Title
import CommitStyle.Npm

/-! The flow of a commit. Everything is asked before the first command that
changes the repository, except that all changes may be staged before the title
is chosen. In a test the flow ends with the title. -/

namespace CommitStyle.Flow.Commit

/-- A change of the package version. -/
structure VersionChange where
  version : String
  preId : Option String := none
deriving DecidableEq, Repr

/-- The kinds of change that are always offered, with their labels. -/
def commonChanges : List (String × String) :=
  [("patch", "Bug fixes (1.0.0 → 1.0.1)"), ("minor", "New features (1.0.0 → 1.1.0)"),
    ("major", "Breaking changes (1.0.0 → 2.0.0)"), ("custom", "Enter version manually")]

/-- The kinds that are offered when all are to be shown. -/
def rareChanges : List (String × String) :=
  [("prepatch", ""), ("preminor", ""), ("premajor", ""), ("prerelease", "Pre-release version"),
    ("from-git", "Get version from git tag")]

def chooseVersion (config : Config) : Flow VersionChange := do
  let choices := commonChanges ++ if config.showAllVersionTypes then rareChanges else []
  let version ← Dialog.choose "Type of version change" choices (some "patch")
  if version == "custom" then
    let fault? (version : String) := (Answer.versionFault? version).map (·.message)
    return ⟨← Dialog.askText "Version?" (Dialog.refusing fault?), none⟩
  else if version == "prerelease" then
    let preId ← Dialog.askText "Pre-release tag?" Dialog.anything
    return ⟨version, if preId.isEmpty then none else some preId⟩
  else return ⟨version, none⟩

/-- The change of version that goes with a commit on the branch. -/
def askVersion (config : Config) (branch : String) : Flow (Option VersionChange) := do
  match config.versionPrompt branch with
  | .skip => return none
  | .required => return some (← chooseVersion config)
  | .ask =>
    if ← Dialog.confirm "Change package version?" then return some (← chooseVersion config)
    else return none

/-- What stands in the way of a commit from the start. -/
def obstacle? (config : Config) : Except Failure (Option String) := do
  let patternFault ←
    if config.format.isCustom then patternFaultOf config.customFormat .commit else .ok none
  match patternFault with
  | some fault => return some s!"Invalid custom format - {fault.message}"
  | none => return Selection.vocabularyFault? config (← config.requiresScope)

/-- All that is decided before the commit is made. -/
structure Plan where
  branch : String
  title : String
  description : String
  version : Option VersionChange
  push : Bool
deriving DecidableEq, Repr

/-- Asks for all that a commit needs. -/
def plan (config : Config) (testing : Bool) : Flow Plan := do
  let branch ← Git.currentBranch
  let fields ← Selection.askFields (← config.commitPattern) false
  if config.stageAllChanges && !testing then Git.stageAll
  let title ← Title.choose config fields
  let fault? (description : String) := (Answer.descriptionFault? description).map (·.message)
  let description ←
    Dialog.askText "Commit description?" (Dialog.refusing fault?) (some (.str ""))
  let version ← askVersion config branch
  let push ← Dialog.confirm "Push changes?"
  return { branch, title, description, version, push }

/-- Changes the version as planned. -/
def applyVersion (change : VersionChange) : Flow Unit := do
  Dialog.info "Update version..."
  let version ← Npm.changeVersion change.version change.preId
  Dialog.info s!"Package updated to {version}"

/-- Makes the commit and pushes it as planned, if something is staged. -/
def execute (plan : Plan) : Flow Unit := do
  if let some change := plan.version then applyVersion change
  if !(← Git.hasStagedChanges) then
    Dialog.error "No staged changes to commit"
  else
    let output ← Git.commit plan.title (some plan.description)
    Dialog.success "Commit successfully completed"
    Dialog.output output
    if plan.push then
      Dialog.info "Push changes..."
      Dialog.output (← Git.push plan.branch)
    Dialog.output (← Git.status)

def run (config : Config) (testing : Bool) : Flow Unit := do
  Dialog.info "New commit"
  if testing then Dialog.warning "Test mode enabled - commit will not be created"
  match ← obstacle? config with
  | some fault => Dialog.error fault
  | none =>
    if (← config.requiresScope) && config.usesPlaceholderScope then
      Dialog.warning
        s!"Scopes still use the default \"{placeholderScope}\" value - update config"
    let plan ← plan config testing
    if testing then Dialog.title plan.title else execute plan

end CommitStyle.Flow.Commit
