import CommitStyle.Config.Basic
import CommitStyle.Json.Writer

/-! Writing settings as a JSON value. What is empty and has no default to fall
back on is left out, so that reading gives the same settings again. -/

namespace CommitStyle

def Choice.toJson (choice : Choice) : Json :=
  .obj [("value", .str choice.name), ("description", .str choice.note)]

/-- A member that is left out when its value is empty. -/
def optionalMember (name : String) (value : Json) : List (JsonText × Json) :=
  if value.isTruthy then [(.whole name, value)] else []

/-- The settings for suggestions that are always written. -/
def AiSettings.members (ai : AiSettings) : List (JsonText × Json) :=
  [("enabled", .bool ai.enabled), ("provider", .str (.whole ai.provider)), ("model", ai.model),
    ("envPath", ai.envPath), ("largeDiffTokenThreshold", .int ai.largeDiffTokenThreshold)]

def AiSettings.toJson (ai : AiSettings) : Json :=
  .obj (ai.members ++ optionalMember "envKeyName" ai.envKeyName)

/-- The settings that are always written. -/
def Config.members (config : Config) : List (JsonText × Json) :=
  [("format", config.format.code), ("branchFormat", config.branchFormat.code),
    ("types", .arr (config.types.map Choice.toJson)),
    ("minLength", .int config.minLength), ("maxLength", .int config.maxLength),
    ("changeVersion", .str (.whole config.changeVersion)),
    ("releaseBranch", config.releaseBranch),
    ("showAllVersionTypes", .bool config.showAllVersionTypes),
    ("stageAllChanges", .bool config.stageAllChanges), ("ai", config.ai.toJson)]

def Config.toJson (config : Config) : Json :=
  .obj (config.members ++
    optionalMember "customFormat" config.customFormat ++
    optionalMember "customBranchFormat" config.customBranchFormat ++
    optionalMember "scopes" (.arr (config.scopes.map Choice.toJson)))

/-- The text of a configuration file. -/
def Config.fileText (config : Config) : String := config.toJson.pretty ++ "\n"

/-- Whether two settings are the same. -/
def AiSettings.same (ai other : AiSettings) : Bool :=
  ai.enabled == other.enabled && ai.provider == other.provider && ai.model.same other.model &&
    ai.envPath.same other.envPath && ai.envKeyName.same other.envKeyName &&
    ai.largeDiffTokenThreshold == other.largeDiffTokenThreshold

def Config.same (config other : Config) : Bool :=
  config.format == other.format && config.customFormat.same other.customFormat &&
    config.branchFormat == other.branchFormat &&
    config.customBranchFormat.same other.customBranchFormat &&
    config.types == other.types && config.scopes == other.scopes &&
    config.minLength == other.minLength && config.maxLength == other.maxLength &&
    config.changeVersion == other.changeVersion &&
    config.releaseBranch.same other.releaseBranch &&
    config.showAllVersionTypes == other.showAllVersionTypes &&
    config.stageAllChanges == other.stageAllChanges && config.ai.same other.ai

end CommitStyle
