import CommitStyle.Failure
import CommitStyle.Format
import CommitStyle.Pattern.Validate

/-! The settings of a project: formats and patterns, the vocabulary of types and
scopes, lengths, version changes and suggestions. Settings that are only passed
on keep whatever value the file gives them; it is when they are used that a
value of the wrong kind shows. -/

namespace CommitStyle

/-- A type or a scope, with the texts that the configuration gives. -/
structure Choice where
  name : JsonText
  note : JsonText := ""
deriving DecidableEq, Repr

/-- The word that stands in titles. -/
def Choice.value (choice : Choice) : String := choice.name.toString

def Choice.description (choice : Choice) : String := choice.note.toString

/-- The scope that stands for scopes still to be given. -/
def placeholderScope : String := "example"

def defaultTypes : List Choice :=
  [⟨"feat", "New feature(s)"⟩, ⟨"fix", "Issue(s) fixing"⟩,
    ⟨"core", "Change(s) on application core"⟩, ⟨"test", "Change(s) related to tests"⟩,
    ⟨"config", "Project configuration"⟩, ⟨"doc", "Documentation / comment(s)"⟩]

def defaultScopes : List Choice := [⟨placeholderScope, "Replace with your own scopes"⟩]

/-- The providers of suggestions, each with the model that is asked unless told otherwise. -/
def providerModels : List (String × String) :=
  [("anthropic", "claude-haiku-4-5"), ("openai", "gpt-4o-mini"), ("google", "gemini-2.0-flash")]

/-- Settings for title suggestions. -/
structure AiSettings where
  enabled : Bool := false
  provider : String := "anthropic"
  model : Json := .str "claude-haiku-4-5"
  envPath : Json := .str ".env"
  envKeyName : Json := .null
  largeDiffTokenThreshold : Int := 20000
deriving Repr

structure Config where
  format : CommitFormat := .builtin .paren .sentence
  customFormat : Json := .null
  branchFormat : BranchFormat := .typeDescription
  customBranchFormat : Json := .null
  types : List Choice := defaultTypes
  scopes : List Choice := []
  minLength : Int := 8
  maxLength : Int := 80
  changeVersion : String := "ignore"
  releaseBranch : Json := .str "main"
  showAllVersionTypes : Bool := false
  stageAllChanges : Bool := false
  ai : AiSettings := {}
deriving Repr

/-- The name of the variable that holds the key of the provider. -/
def AiSettings.keyName (ai : AiSettings) : Json :=
  if ai.envKeyName.isTruthy then ai.envKeyName
  else .str (.whole (Text.upper ai.provider ++ "_API_KEY"))

/-- The pattern that a setting spells, if it spells one. -/
def patternOf (setting : Json) : Except Failure (Option Pattern) :=
  if !setting.isTruthy then .ok none
  else match setting with
    | .str source => .ok (some (Pattern.compile source.toString))
    | value => .error (.notText value)

/-- What is wrong with the pattern that a setting spells. -/
def patternFaultOf (setting : Json) (kind : PatternKind) : Except Failure (Option PatternFault) :=
  if !setting.isTruthy then .ok (some .empty)
  else match setting with
    | .str source => .ok (Pattern.fault? source.toString kind)
    | value => .error (.noOperation value "strip")

namespace Config

/-- The pattern of commit titles; only a custom format has one. -/
def commitPattern (config : Config) : Except Failure (Option Pattern) :=
  if config.format.isCustom then patternOf config.customFormat else .ok none

/-- The pattern of branch names; only a custom format has one. -/
def branchPattern (config : Config) : Except Failure (Option Pattern) :=
  if config.branchFormat.isCustom then patternOf config.customBranchFormat else .ok none

def requiresScope (config : Config) : Except Failure Bool :=
  if config.format.isCustom then return (← config.commitPattern).any Pattern.hasScope
  else return config.format.hasScope

def branchRequiresScope (config : Config) : Except Failure Bool :=
  if config.branchFormat.isCustom then return (← config.branchPattern).any Pattern.hasScope
  else return config.branchFormat.hasScope

def usesPlaceholderScope (config : Config) : Bool :=
  config.scopes.any fun scope => scope.value == placeholderScope

/-- The first entry that is the value up to case. -/
def findChoice (choices : List Choice) (value : String) : Option Choice :=
  choices.find? fun choice => Text.lower choice.value == Text.lower value

def findType (config : Config) (value : String) : Option Choice := findChoice config.types value

def findScope (config : Config) (value : String) : Option Choice := findChoice config.scopes value

end Config

/-- How a commit asks about a change of version. -/
inductive VersionPrompt
  | required
  | ask
  | skip
deriving DecidableEq, Repr

def VersionPrompt.name : VersionPrompt → String
  | .required => "required"
  | .ask => "ask"
  | .skip => "skip"

/-- On the release branch a change may be required that is only asked about elsewhere. -/
def Config.versionPrompt (config : Config) (branch : String) : VersionPrompt :=
  if config.changeVersion == "always" then .required
  else if config.changeVersion == "releaseBranch" then
    if config.releaseBranch.same (.str (.whole branch)) then .required else .ask
  else if config.changeVersion == "never" then .ask
  else .skip

end CommitStyle
