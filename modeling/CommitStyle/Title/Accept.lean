import CommitStyle.Answer
import CommitStyle.Config.Basic
import CommitStyle.Pattern.Parse
import CommitStyle.Title.Compose
import CommitStyle.Title.Detect

/-! Accepting titles. A title is read by the configured format, its type and scope
are looked up in the vocabulary, and it is composed again, so that its casing is
that of the format. What comes out is a title of the right length or a reason
why there is none. -/

namespace CommitStyle

inductive RejectionKind
  | patternInvalid
  | formatMismatch
  | unknownVocabulary
  | lengthViolation
deriving DecidableEq, Repr

def RejectionKind.name : RejectionKind → String
  | .patternInvalid => "pattern_invalid"
  | .formatMismatch => "format_mismatch"
  | .unknownVocabulary => "unknown_vocabulary"
  | .lengthViolation => "length_violation"

/-- Why a title is not accepted. -/
inductive Rejection
  | emptyTitle
  | noPattern
  /-- The title does not have the format of the example. -/
  | wrongFormat (sample : String)
  | wrongShape (found expected : Shape) (sample : String)
  | unknownType (type : String) (known : List String)
  | scopeWithoutVocabulary (scope : String)
  | unknownScope (scope : String) (known : List String)
  | length (fault : AnswerFault)
deriving DecidableEq, Repr

namespace Rejection

def kind : Rejection → RejectionKind
  | .emptyTitle | .wrongFormat _ | .wrongShape .. => .formatMismatch
  | .noPattern => .patternInvalid
  | .unknownType .. | .scopeWithoutVocabulary _ | .unknownScope .. => .unknownVocabulary
  | .length _ => .lengthViolation

def message : Rejection → String
  | .emptyTitle => "Commit title cannot be empty"
  | .noPattern => "No custom format pattern is configured"
  | .wrongFormat sample => s!"Wrong format. Expected something like: \"{sample}\""
  | .wrongShape found expected sample =>
    s!"Wrong format: title uses \"{found.sketch}\" but the configured format is " ++
      s!"\"{expected.sketch}\". Expected something like: \"{sample}\""
  | .unknownType type known =>
    s!"Invalid type \"{type}\". Valid types: " ++ ", ".intercalate known
  | .scopeWithoutVocabulary scope =>
    s!"Scope \"{scope}\" found in title but no scopes are configured"
  | .unknownScope scope known =>
    s!"Invalid scope \"{scope}\". Valid scopes: " ++ ", ".intercalate known
  | .length fault => fault.message

end Rejection

/-- A title in the configured format, or the reason why there is none. -/
abbrev Verdict := Except Rejection String

namespace Config

def exampleDescription : String := "example change description"

/-- A title with the first type and scope. Fields without a value show their label. -/
def exampleTitle (config : Config) (fields : Entries String) : Except Failure String := do
  let type := (config.types.head?.map (·.value)).getD "type"
  let scope := (config.scopes.head?.map (·.value)).getD "scope"
  let values : Values := { type, description := exampleDescription, scope := some scope }
  if config.format.isCustom then
    match ← config.commitPattern with
    | none => return exampleDescription
    | some p =>
      let samples := p.fields.map fun label => (label, "\x7b" ++ label ++ "\x7d")
      p.render .commit { values with fields := Entries.update samples fields }
  else config.format.compose none values

/-- The type and scope as the vocabulary spells them. -/
def resolve (config : Config) (type : String) (scope : Option String) :
    Except Rejection (String × Option String) :=
  match config.findType type with
  | none => .error (.unknownType type (config.types.map (·.value)))
  | some foundType =>
    match scope with
    | none => .ok (foundType.value, none)
    | some scope =>
      if config.scopes.isEmpty then .error (.scopeWithoutVocabulary scope)
      else match config.findScope scope with
        | none => .error (.unknownScope scope (config.scopes.map (·.value)))
        | some foundScope => .ok (foundType.value, some foundScope.value)

def wrongFormat (config : Config) (fields : Entries String) : Except Failure Verdict := do
  return .error (.wrongFormat (← config.exampleTitle fields))

/-- Reads a title by the pattern. Values collected before win over those in the title. -/
def normalizeCustom (config : Config) (title : String) (fields : Entries String) :
    Except Failure Verdict := do
  match ← config.commitPattern with
  | none => return .error .noPattern
  | some p =>
    match p.parse? title with
    | none => config.wrongFormat fields
    | some values =>
      match config.resolve values.type values.scope with
      | .error rejection => return .error rejection
      | .ok (type, scope) =>
        return .ok (← p.render .commit
          { values with type, scope, fields := Entries.update values.fields fields })

/-- Reads a title by its built-in shape, which has to be the expected one. -/
def normalizeBuiltin (config : Config) (expected : Shape) (style : Style) (title : String) :
    Except Failure Verdict :=
  match TitleParts.detect? title with
  | none => config.wrongFormat []
  | some (found, parts) =>
    if found == expected then
      return (config.resolve parts.type parts.scope).map fun (type, scope) =>
        expected.compose type scope (style.apply parts.message)
    else return .error (.wrongShape found expected (← config.exampleTitle []))

/-- The title in the configured format, whatever its length. -/
def normalize (config : Config) (title : String) (fields : Entries String) :
    Except Failure Verdict :=
  let title := Text.strip title
  if title.isEmpty then return .error .emptyTitle
  else match config.format with
    | .custom => config.normalizeCustom title fields
    | .builtin shape style => config.normalizeBuiltin shape style title

/-- The title in the configured format, if its length is within bounds. -/
def accept (config : Config) (title : String) (fields : Entries String) :
    Except Failure Verdict := do
  match ← config.normalize title fields with
  | .error rejection => return .error rejection
  | .ok normalized =>
    match Answer.titleFault? normalized config.minLength config.maxLength with
    | some fault => return .error (.length fault)
    | none => return .ok normalized

/-- The shape that a title has in place of the configured one. -/
def foreignShape? (config : Config) (title : String) : Option (Shape × Shape) := do
  let expected ← config.format.shape?
  let (found, _) ← TitleParts.detect? (Text.strip title)
  if found == expected then none else return (found, expected)

end Config

end CommitStyle
