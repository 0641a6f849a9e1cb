import CommitStyle.Json.Reader
import CommitStyle.Suggestion.Instructions
import CommitStyle.Title.Examine

/-! Titles from what the suggestion service wrote. The titles are a list between the
first opening and the last closing bracket; those that are not accepted are
dropped, and so are repeated ones. -/

namespace CommitStyle.Suggestion

/-- The part from the first opening bracket to the last closing one. -/
def bracketed? (s : List Char) : Option (List Char) :=
  let opened := s.dropWhile (· != '[')
  let kept := (opened.reverse.dropWhile (· != ']')).reverse
  if kept.isEmpty then none else some kept

/-- The texts of a list of titles of the right length. -/
def titlesOf? : Json → Option (List JsonText)
  | .arr items =>
    if items.length == titleCount then
      items.mapM fun
        | .str title => some title
        | _ => none
    else none
  | _ => none

/-- The titles in an answer. -/
def extract (text : String) : Except Failure (List JsonText) :=
  match bracketed? text.toList with
  | none => .error (.service .noArray)
  | some part =>
    match Json.read (String.ofList part) with
    | .error (.number fault) => .error (.number fault)
    | .error error => .error (.service (.notParsed error))
    | .ok value =>
      match titlesOf? value with
      | some titles => .ok titles
      | none => .error (.service .wrongFormat)

/-- Takes up one suggestion: an accepted title that is new. -/
def takeUp (config : Config) (fields : Entries String) (accepted : List String)
    (suggestion : JsonText) : Flow (List String) := do
  match ← config.examine suggestion.toString fields with
  | .ok title => return if accepted.contains title then accepted else accepted ++ [title]
  | .error rejection =>
    Flow.debug s!"Rejected AI suggestion {suggestion.quoted}: {rejection.message}"
    return accepted

/-- The accepted titles among suggestions, each once. -/
def acceptable (config : Config) (suggestions : List JsonText) (fields : Entries String) :
    Flow (List String) :=
  suggestions.foldlM (takeUp config fields) []

end CommitStyle.Suggestion
