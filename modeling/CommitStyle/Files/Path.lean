import CommitStyle.Text.Pieces

/-! Paths as text. A path in its collapsed form has no empty parts and no parts
that stay in place; where it leads is not changed by collapsing. -/

namespace CommitStyle.Path

/-- The pieces between the slashes. -/
def pieces (path : String) : List String := (Text.pieces '/' path.toList).map String.ofList

/-- A part that leads nowhere: an empty one or a single dot. -/
def isIdle (part : String) : Bool := part.isEmpty || part == "."

/-- The parts that lead somewhere. -/
def parts (path : String) : List String := (pieces path).filter (!isIdle ·)

/-- What an absolute path starts with. Two slashes are kept apart from one, three are one. -/
def anchor (path : String) : String :=
  match path.toList with
  | '/' :: '/' :: '/' :: _ => "/"
  | '/' :: '/' :: _ => "//"
  | '/' :: _ => "/"
  | _ => ""

/-- The path without its idle parts. One that leads nowhere is a single dot. -/
def collapse (path : String) : String :=
  let collapsed := anchor path ++ "/".intercalate (parts path)
  if collapsed.isEmpty then "." else collapsed

def isAbsolute (path : String) : Bool := path.toList.head? == some '/'

/-- The path of a file in a directory. -/
def within (directory name : String) : String :=
  anchor directory ++ "/".intercalate (parts directory ++ [name])

end CommitStyle.Path
