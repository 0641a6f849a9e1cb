import CommitStyle.Config.Basic
import CommitStyle.Text.Digit

/-! Reading settings from a JSON value. Settings that are absent take their
defaults; those of the wrong kind are refused, the first of them in the order of
reading. Numbers may be given as text. -/

namespace CommitStyle

def refuse {α : Type} (fault : ConfigFault) : Except Failure α := .error (.config fault)

/-- What is shown or written of a setting; one that has too long a number in it is refused. -/
def legible {α : Type} (shown : Except Number.WholeFault α) : Except Failure α :=
  shown.mapError fun fault => .config (.badValue (.number fault))

def changeVersionModes : List String := ["ignore", "never", "releaseBranch", "always"]

/-- A whole number: of a fraction its whole part, of a text the number that it spells. -/
def wholeOf : Json → Except Failure Int
  | .int n => .ok n
  | .bool b => .ok (if b then 1 else 0)
  | .float (.finite negative m e) => .ok (Number.Binary64.truncate negative m e)
  | .float (.infinite _) => .error .infiniteWhole
  | .float .nan => refuse (.badValue .notWholeNan)
  | .str s => match Number.readWhole s.toString with
    | .ok n => .ok n
    | .error (.notWhole _) => refuse (.badValue (.notWhole s))
    | .error fault => refuse (.badValue (.number fault))
  | value => refuse (.badValue (.notANumber value))

/-- The value that a format setting stands for: digits in a text are a number. -/
def formatCode : Json → Except Failure Json
  | .str s => if Text.allDigits s.toString then (wholeOf (.str s)).map .int else .ok (.str s)
  | value => .ok value

/-- Reads a format setting by the codes of its kind. -/
def formatOf {α : Type} (ofCode? : Json → Option α) (key : String) (setting : Json) :
    Except Failure α := do
  let code ← formatCode setting
  match ofCode? code with
  | some format => return format
  | none => refuse (.format key (← legible code.inspect))

/-- An entry of the vocabulary: its value, or an object with a value and a description. -/
def Choice.ofJson : Json → Except Failure Choice
  | .str value => .ok { name := value }
  | .obj members =>
    let value := (Json.obj members).getD "value" .null
    if value.isTruthy then do
      let name ← legible value.asText
      let note ← legible ((Json.obj members).getD "description" (.str "")).asText
      return { name, note }
    else do refuse (.entry (← legible (Json.obj members).inspect))
  | value => do refuse (.entry (← legible value.inspect))

/-- What a list of entries holds. A text counts as the list of its characters, an object as
that of its names. -/
def entriesOf : Json → Except Failure (List Json)
  | .arr items => .ok items
  | .str s => .ok (s.characters.map .str)
  | .obj members => .ok (members.map fun member => .str member.1)
  | value => refuse (.badValue (.notIterable value))

/-- A vocabulary; one that is absent or empty is the default. -/
def choicesOf (setting : Json) (fallback : List Choice) : Except Failure (List Choice) :=
  if setting.isTruthy then do (← entriesOf setting).mapM Choice.ofJson
  else .ok fallback

/-- The setting, unless it counts as absent. -/
def settingOr (setting fallback : Json) : Json := if setting.isTruthy then setting else fallback

/-- A provider that is known, with its default model. -/
def providerOf (setting : Json) : Except Failure (String × String) :=
  match providerModels.find? fun provider => (Json.str (.whole provider.1)).same setting with
  | some provider => .ok provider
  | none => do refuse (.provider (← legible setting.display))

def AiSettings.ofJson (setting : Json) : Except Failure AiSettings :=
  if !setting.isTruthy then .ok {}
  else match setting with
    | .obj _ => do
      let (provider, defaultModel) ← providerOf (setting.getD "provider" (.str "anthropic"))
      return {
        enabled := (setting.getD "enabled" (.bool false)).isTruthy
        provider
        model := settingOr (setting.getD "model" .null) (.str (.whole defaultModel))
        envPath := setting.getD "envPath" (.str ".env")
        envKeyName := setting.getD "envKeyName" .null
        largeDiffTokenThreshold :=
          ← wholeOf (setting.getD "largeDiffTokenThreshold" (.int 20000)) }
    | value => .error (.noOperation value "get")

/-- The mode is looked at before the other settings, and one that cannot be shown is not refused
like them. -/
def changeVersionOf (setting : Json) : Except Failure String :=
  match changeVersionModes.find? fun mode => (Json.str (.whole mode)).same setting with
  | some mode => .ok mode
  | none => do refuse (.changeVersion (← setting.inspected))

def Config.ofJson (data : Json) : Except Failure Config :=
  match data with
  | .obj _ => do
    let changeVersion ← changeVersionOf (data.getD "changeVersion" (.str "ignore"))
    return {
      format := ← formatOf CommitFormat.ofCode? "format" (data.getD "format" (.int 1))
      customFormat := data.getD "customFormat" .null
      branchFormat :=
        ← formatOf BranchFormat.ofCode? "branchFormat" (data.getD "branchFormat" (.int 1))
      customBranchFormat := data.getD "customBranchFormat" .null
      types := ← choicesOf (data.getD "types" .null) defaultTypes
      scopes := ← choicesOf (data.getD "scopes" .null) []
      minLength := ← wholeOf (data.getD "minLength" (.int 8))
      maxLength := ← wholeOf (data.getD "maxLength" (.int 80))
      changeVersion
      releaseBranch := settingOr (data.getD "releaseBranch" .null) (.str "main")
      showAllVersionTypes := (data.getD "showAllVersionTypes" (.bool false)).isTruthy
      stageAllChanges := (data.getD "stageAllChanges" (.bool false)).isTruthy
      ai := ← AiSettings.ofJson (data.getD "ai" .null) }
  | _ => refuse .notAnObject

end CommitStyle
