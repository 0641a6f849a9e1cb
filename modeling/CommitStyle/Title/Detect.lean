import CommitStyle.Format
import CommitStyle.Text.Blank

/-! Finding the built-in shape of a title. A type ends at white space, at a
parenthesis or at a colon; a scope, and a type in parentheses, may hold anything
but parentheses; the message is the rest of the one line that remains. -/

namespace CommitStyle

/-- The parts of a title of a built-in shape. -/
structure TitleParts where
  type : String
  scope : Option String := none
  message : String
deriving DecidableEq, Repr

namespace TitleParts

/-- A line of one character at least, that ends the text or has only a line feed after it. -/
def line? (s : List Char) : Option (List Char) :=
  let line := s.takeWhile (· != '\n')
  let after := s.drop line.length
  if !line.isEmpty && (after.isEmpty || after == ['\n']) then some line else none

/-- The line after any white space. Where nothing else is left, white space is the line. -/
def lineAfterBlanks? : List Char → Option (List Char)
  | [] => none
  | c :: rest =>
    if Text.isBlank c then (lineAfterBlanks? rest).or (line? (c :: rest)) else line? (c :: rest)

/-- The line after white space of one character at least. -/
def lineAfterBlank? : List Char → Option (List Char)
  | [] => none
  | c :: rest => if Text.isBlank c then lineAfterBlanks? rest else none

def isTypeChar (c : Char) : Bool := !Text.isBlank c && c != '(' && c != ')' && c != ':'

def isEnclosedChar (c : Char) : Bool := c != '(' && c != ')'

/-- The leading characters of a class, one at least, and the rest. -/
def run? (ofClass : Char → Bool) (s : List Char) : Option (List Char × List Char) :=
  let run := s.takeWhile ofClass
  if run.isEmpty then none else some (run, s.drop run.length)

/-- A text in parentheses, and the rest. -/
def enclosed? : List Char → Option (List Char × List Char)
  | '(' :: s => do
    let (inner, rest) ← run? isEnclosedChar s
    match rest with
    | ')' :: rest => return (inner, rest)
    | _ => none
  | _ => none

def parts (type : List Char) (scope : Option (List Char)) (message : List Char) : TitleParts :=
  let trimmed (s : List Char) := String.ofList (Text.trim s)
  ⟨trimmed type, scope.map trimmed, trimmed message⟩

/-- The parts of a title, if it has the shape. -/
def ofShape? (shape : Shape) (s : List Char) : Option TitleParts :=
  match shape with
  | .paren => do
    let (type, rest) ← enclosed? s
    return parts type none (← lineAfterBlank? rest)
  | .colon => do
    let (type, rest) ← run? isTypeChar s
    match rest with
    | ':' :: rest => return parts type none (← lineAfterBlanks? rest)
    | _ => none
  | .scope => do
    let (type, rest) ← run? isTypeChar s
    let (scope, rest) ← enclosed? rest
    return parts type (some scope) (← lineAfterBlank? rest)
  | .scopeColon => do
    let (type, rest) ← run? isTypeChar s
    let (scope, rest) ← enclosed? rest
    match rest with
    | ':' :: rest => return parts type (some scope) (← lineAfterBlanks? rest)
    | _ => none

/-- The shapes in the order in which they are tried. -/
def shapesTried : List Shape := [.scopeColon, .scope, .colon, .paren]

def detectIn (shapes : List Shape) (title : String) : Option (Shape × TitleParts) :=
  shapes.findSome? fun shape => (ofShape? shape title.toList).map (shape, ·)

/-- The shape of a title with its parts. -/
def detect? (title : String) : Option (Shape × TitleParts) := detectIn shapesTried title

end TitleParts

end CommitStyle
