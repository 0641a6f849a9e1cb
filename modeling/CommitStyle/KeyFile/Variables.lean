import CommitStyle.Entries
import CommitStyle.KeyFile.Binding

/-! The variables that a key file gives. A value may refer to other variables: to
those of earlier statements, or else to those of the environment. A later
statement on the same variable wins. -/

namespace CommitStyle.KeyFile

/-- Variables with their values; one that is only named has none. -/
abbrev Variables := Entries (Option String)

/-- A reference to a variable, with the text that stands in where there is no such variable. -/
structure Reference where
  name : String
  fallback : String
  /-- How many characters the reference takes up. -/
  width : Nat
deriving DecidableEq, Repr

/-- The reference that begins here: `${NAME}` or `${NAME:-fallback}`. -/
def reference? : List Char → Option Reference
  | '$' :: '{' :: s =>
    let name := s.takeWhile fun c => c != '}' && c != ':'
    match s.drop name.length with
    | '}' :: _ => some ⟨String.ofList name, "", name.length + 3⟩
    | ':' :: '-' :: rest =>
      let fallback := rest.takeWhile (· != '}')
      if fallback.length < rest.length then
        some ⟨String.ofList name, String.ofList fallback, name.length + fallback.length + 5⟩
      else none
    | _ => none
  | _ => none

/-- Fills in references; `skip` characters still belong to the reference last seen. -/
def fillFrom (valueOf : Reference → String) : (skip : Nat) → List Char → List Char
  | _, [] => []
  | skip + 1, _ :: rest => fillFrom valueOf skip rest
  | 0, c :: rest =>
    match reference? (c :: rest) with
    | some reference => (valueOf reference).toList ++ fillFrom valueOf (reference.width - 1) rest
    | none => c :: fillFrom valueOf 0 rest

def fill (valueOf : Reference → String) (text : String) : String :=
  String.ofList (fillFrom valueOf 0 text.toList)

/-- What a reference stands for. A variable without a value counts as empty. -/
def Variables.valueOf (known : Variables) (environment : Entries String)
    (reference : Reference) : String :=
  match known.get? reference.name, environment.get? reference.name with
  | some value, _ => value.getD ""
  | none, some value => value
  | none, none => reference.fallback

/-- The variables with one statement more. -/
def Variables.extend (environment : Entries String) (known : Variables) (binding : Binding) :
    Variables :=
  match binding.name with
  | none => known
  | some name =>
    known.insert name (binding.value.map (fill (known.valueOf environment)))

def variablesOf (environment : Entries String) (bindings : List Binding) : Variables :=
  bindings.foldl (Variables.extend environment) []

end CommitStyle.KeyFile
