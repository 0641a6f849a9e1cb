import CommitStyle.Session.Basic
import CommitStyle.Text.Blank

/-! The list of paths that are kept out of the repository. A path counts as listed
when a line is the path, or the path after a slash; patterns are not looked at. -/

namespace CommitStyle.IgnoreFile

/-- The list of a directory. -/
def pathIn (directory : String) : String := Path.within directory ".gitignore"

/-- A path without the dot and slash in front of it. -/
def plain (path : String) : String :=
  match path.toList with
  | '.' :: '/' :: rest => String.ofList rest
  | _ => path

/-- Whether a line lists the path. Blank lines and comments list nothing. -/
def listsPath (path : String) (line : List Char) : Bool :=
  let entry := Text.trim line
  !entry.isEmpty && entry.head? != some '#' && (entry == path.toList || entry == '/' :: path.toList)

/-- Whether a text lists the path. -/
def lists (text path : String) : Bool := (Text.lines text.toList).any (listsPath (plain path))

/-- The text with a line more. -/
def withPath (text path : String) : String :=
  let text := if text.isEmpty || text.toList.getLast? == some '\n' then text else text ++ "\n"
  text ++ plain path ++ "\n"

/-- Whether the list of a directory has the path. -/
def has (path : String) (directory : String := "") : Flow Bool := do
  let file := pathIn directory
  if ← Flow.isThere file then return lists (← Flow.readText file) path
  else return false

/-- Adds a path to the list of a directory. -/
def add (path : String) (directory : String := "") : Flow Unit := do
  let file := pathIn directory
  let text ← if ← Flow.isThere file then Flow.readText file else pure ""
  Flow.writeText file (withPath text path)
  Flow.debug s!"Added {path} to {file}"

end CommitStyle.IgnoreFile
