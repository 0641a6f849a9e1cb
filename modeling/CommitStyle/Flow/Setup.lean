import CommitStyle.Answer
import CommitStyle.Config.Store
import CommitStyle.Git
import CommitStyle.IgnoreFile
import CommitStyle.KeyFile.Store
import CommitStyle.Session.Dialog

/-! The flow of setting up a configuration. Every question offers what is set so
far. The configuration file is written last, when all answers are there. -/

namespace CommitStyle.Flow.Setup

/-- What comes out of the setup. -/
structure Outcome where
  config : Config
  /-- Whether to go on with a commit. -/
  commitAfter : Bool
deriving Repr

/-- The pattern of commits that is offered when there is none. -/
def samplePattern : String := "\x7bIssue ID\x7d - type - Description"

/-- The pattern of branches that is offered when there is none. -/
def sampleBranchPattern : String := "type/\x7bIssue ID\x7d-description"

def versionModes : List (String × String) :=
  [("ignore", "Never prompt for a version change"),
    ("never", "Ask on every commit whether to change the version"),
    ("releaseBranch", "Require a version change on the release branch"),
    ("always", "Require a version change on every commit")]

/-- The number or the name of a format, as a list of formats shows it. -/
def codeText : Json → String
  | .int number => toString number
  | .str name => name.toString
  | _ => ""

/-- A format from a list of all of its kind. -/
def chooseFormat {α : Type} (message kind : String) (all : List α) (code : α → Json)
    (label : α → String) (current : α) : Flow α := do
  let shown (format : α) := codeText (code format)
  let chosen ← Dialog.choose message (all.map fun format => (shown format, label format))
    (some (shown current))
  match all.find? fun format => shown format == chosen with
  | some format => return format
  | none => throw (.unknownFormat kind (Text.quoted chosen))

/-- A pattern without fault. -/
def askPattern (message : String) (kind : PatternKind) (current : Json) (sample : String) :
    Flow Json := do
  let fault? (source : String) := (Pattern.fault? source kind).map (·.message)
  let offered := settingOr current (.str (.whole sample))
  let source ← Dialog.askText message (Dialog.refusing fault?) (some offered)
  return .str (.whole source)

/-- A length from one up to the highest, and not below the least. -/
def askLength (message : String) (least : Int) (current : Int) : Flow Int :=
  let fault? (length : Int) := (Answer.maximumFault? least length).map (·.message)
  Dialog.askWhole message (Dialog.refusing fault?) (some current)

/-- The branch of releases that is offered. -/
def offeredReleaseBranch : Flow String :=
  tryCatch Git.currentBranch fun
    | .git _ _ => return "main"
    | failure => throw failure

/-- A text that may be anything; no default is offered for an absent setting. -/
def askSetting (message : String) (current : Json) : Flow String :=
  Dialog.askText message Dialog.anything (match current with
    | .null => none
    | value => some value)

/-- The model that is asked unless told otherwise. -/
def defaultModel (provider : String) : Json :=
  .str (.whole (((providerModels.find? fun entry => entry.1 == provider).map (·.2)).getD ""))

/-- Has the key file listed as one to ignore. -/
def hideKeyFile (path : String) : Flow Unit := do
  if !(← IgnoreFile.has path) then
    IgnoreFile.add path
    Dialog.info s!"{path} added to .gitignore"

/-- Asks for the key unless the key file has one. -/
def askKey (path : String) (name : Json) : Flow Unit := do
  if !(← KeyFile.has (.str (.whole path)) name) then
    let shown ← name.displayed
    let key ← Dialog.askSecret s!"{shown} (leave empty to add it later)?"
    if key.isEmpty then
      Dialog.warning s!"Add {shown} to {path} to use AI suggestions"
    else
      KeyFile.store (.str (.whole path)) name key
      Dialog.success s!"{shown} saved to {path}"

/-- The settings for suggestions. -/
def askSuggestions (current : AiSettings) : Flow AiSettings := do
  if !(← Dialog.confirm "Enable AI commit title suggestions?" current.enabled) then
    return { current with enabled := false }
  let provider ← Dialog.choose "AI provider" providerModels (some current.provider)
  let stays := provider == current.provider
  let model ← askSetting "AI model?" (if stays then current.model else defaultModel provider)
  let path ← askSetting "Path to .env file?" current.envPath
  let settings : AiSettings :=
    { enabled := true, provider, model := .str (.whole model), envPath := .str (.whole path),
      envKeyName := if stays then current.envKeyName else .null,
      largeDiffTokenThreshold := current.largeDiffTokenThreshold }
  hideKeyFile path
  askKey path settings.keyName
  return settings

/-- All settings, asked for one by one. Types and scopes stay as they are. -/
def askConfig (current : Config) : Flow Config := do
  let format ← chooseFormat "Commit format" "CommitFormat" CommitFormat.all CommitFormat.code
    CommitFormat.label current.format
  let customFormat ←
    if format.isCustom then
      askPattern "Custom commit format?" .commit current.customFormat samplePattern
    else pure .null
  let branchFormat ← chooseFormat "Branch format" "BranchFormat" BranchFormat.all
    BranchFormat.code BranchFormat.label current.branchFormat
  let customBranchFormat ←
    if branchFormat.isCustom then
      askPattern "Custom branch format?" .branch current.customBranchFormat sampleBranchPattern
    else pure .null
  let minLength ← askLength "Commit minimum length?" 1 current.minLength
  let maxLength ←
    askLength "Commit maximum length?" minLength (max current.maxLength minLength)
  let stageAllChanges ←
    Dialog.confirm "Stage all changes before each commit?" current.stageAllChanges
  let changeVersion ←
    Dialog.choose "Change package version" versionModes (some current.changeVersion)
  let releaseBranch ←
    if changeVersion == "releaseBranch" then do
      let offered ← offeredReleaseBranch
      pure (.str (.whole (← askSetting "Release git branch?" (.str (.whole offered)))))
    else pure current.releaseBranch
  let showAllVersionTypes ←
    Dialog.confirm "Display all npm version types?" current.showAllVersionTypes
  let ai ← askSuggestions current.ai
  return { current with
    format, customFormat, branchFormat, customBranchFormat, minLength, maxLength,
    stageAllChanges, changeVersion, releaseBranch, showAllVersionTypes, ai }

/-- Gives scopes to a configuration that needs some and has none. -/
def provideScopes (config : Config) (path : String) : Flow Config := do
  if ((← config.requiresScope) || (← config.branchRequiresScope)) && config.scopes.isEmpty then
    Dialog.warning
      s!"Default scope \"{placeholderScope}\" added - edit scopes in {path}"
    return { config with scopes := defaultScopes }
  else return config

/-- Makes or changes the configuration file. -/
def run (path : String) (offerCommit : Bool) : Flow Outcome := do
  Dialog.info "Create config file"
  let current ← if ← Flow.isThere path then Config.load path else pure {}
  let config ← provideScopes (← askConfig current) path
  let commitAfter ←
    if offerCommit then
      Dialog.confirm "Commit your changes now? (or exit the configuration without committing)"
    else pure false
  config.save path
  Dialog.success s!"Configuration written to {path}"
  return { config, commitAfter }

end CommitStyle.Flow.Setup
