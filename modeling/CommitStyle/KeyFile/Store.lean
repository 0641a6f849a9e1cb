import CommitStyle.KeyFile.Statements
import CommitStyle.KeyFile.Variables
import CommitStyle.Session.Basic

/-! Keys in a key file. A key is looked up among the variables of the file; storing
one replaces every statement on it, or adds a statement at the end, and leaves
all other text as it is. -/

namespace CommitStyle.KeyFile

/-- A byte order mark at the start is no part of the text. -/
def withoutMark : List Char → List Char
  | '\uFEFF' :: rest => rest
  | s => s

/-- The lines on which statements begin that could not be read; the first begins on `line`. -/
def faultLines (line : Nat) : List Binding → List Nat
  | [] => []
  | binding :: rest =>
    (if binding.wellFormed then [] else [line]) ++
      faultLines (line + binding.source.count '\n') rest

/-- Whether a statement is on the key. -/
def Binding.isOn (name : Json) (binding : Binding) : Bool :=
  ((binding.name.map fun key => Json.str (.whole key)).getD .null).same name

def endsLine (s : List Char) : Bool := s.getLast? == some '\n'

/-- The text with a key stored in it; `line` is the statement that stores it. -/
def withKey (name : Json) (line : List Char) (bindings : List Binding) : List Char :=
  let text := bindings.flatMap fun binding => if binding.isOn name then line else binding.source
  if bindings.any (Binding.isOn name) then text
  else if bindings.isEmpty || endsLine text then text ++ line
  else text ++ '\n' :: line

/-- The value of a key; a list or object can be no key. -/
def Variables.find (known : Variables) : Json → Except Failure (Option (Option String))
  | .str (.whole name) => .ok (known.get? name)
  | .arr items => .error (.notAKey (.arr items))
  | .obj members => .error (.notAKey (.obj members))
  | _ => .ok none

def pathOf : Json → Except Failure String
  | .str path => .ok path.toString
  | value => .error (.notAPath value)

/-- Reads the statements of a text, and warns of those that could not be read. -/
def readStatements (text : String) : Flow (List Binding) := do
  let statements := bindings (withoutMark text.toList)
  (faultLines 1 statements).forM fun line =>
    Flow.log .warning s!"python-dotenv could not parse statement starting at line {line}"
  return statements

/-- The variables of a file. What is no file counts as an empty one. -/
def readVariables (path : String) (announce : Bool) : Flow Variables := do
  if (← get).files.isFile path then
    let statements ← readStatements (← Flow.readText path)
    return variablesOf (← get).environment statements
  else
    if announce then
      let shown := if path.isEmpty then ".env" else path
      Flow.log .info s!"python-dotenv could not find configuration file {shown}."
    return []

/-- The value of a key, without white space around it. An empty value is none. -/
def get? (path name : Json) : Flow (Option String) := do
  let path ← pathOf path
  if !(← Flow.isThere (Path.collapse path)) then return none
  let known ← readVariables path true
  match ← known.find name with
  | some value =>
    return value.bind fun text => if text.isEmpty then none else some (Text.strip text)
  | none =>
    Flow.logOn .warning name fun key => s!"Key {key} not found in {path}."
    return none

/-- Whether a file has the key, with or without a value. -/
def has (path name : Json) : Flow Bool := do
  let path ← pathOf path
  if !(← Flow.isThere (Path.collapse path)) then return false
  let known ← readVariables path false
  return (← known.find name).isSome

/-- Stores a key in a file, which is made if it is not there. -/
def store (path name : Json) (value : String) : Flow Unit := do
  let path := Path.collapse (← pathOf path)
  Flow.touch path
  let statements ← readStatements (← Flow.readText path)
  let key ← name.displayed
  let line := s!"{key}={value}\n"
  Flow.writeText path (String.ofList (withKey name line.toList statements))
  Flow.debug s!"Stored {key} in {path}"

end CommitStyle.KeyFile
