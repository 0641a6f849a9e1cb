import CommitStyle.Markup.Definition
import CommitStyle.Markup.Emoji
import CommitStyle.Text.Control

/-! Text with tags for its style. A tag stands in brackets and begins with a small
letter, a slash or one of two signs. A tag with a slash closes the last open tag
of its name, or the last of all if it has none. A backslash before a tag makes
it plain text; two backslashes are one that stands for itself. Tags that stay
open do no harm, but a tag that closes nothing is a fault. The parameters of a
tag are not looked at. -/

namespace CommitStyle.Markup

/-! ## Pieces -/

/-- A part of a text with tags. -/
inductive Piece
  | plain (content : List Char)
  /-- Text that has lost its backslashes. -/
  | literal (content : List Char)
  /-- What stands in the brackets of a tag, and where the tag begins. -/
  | tag (position : Nat) (content : List Char)
deriving DecidableEq, Repr

def startsTag (c : Char) : Bool := ('a' ≤ c && c ≤ 'z') || c == '/' || c == '#' || c == '@'

/-- What stands in the brackets of the tag that a text begins with. -/
def tagContent? : List Char → Option (List Char)
  | '[' :: c :: rest =>
    let inner := rest.takeWhile fun c => c != '[' && c != ']'
    if startsTag c && rest[inner.length]? == some ']' then some (c :: inner) else none
  | _ => none

def consPlain (c : Char) : List Piece → List Piece
  | .plain content :: rest => .plain (c :: content) :: rest
  | pieces => .plain [c] :: pieces

/-- What a tag is, with the backslashes before it; the first of them stands at `position`. -/
def tagPieces (position backslashes : Nat) (content : List Char) : List Piece :=
  let kept := backslashes / 2
  .literal (List.replicate kept '\\') ::
    if backslashes % 2 == 1 then [.literal ('[' :: content ++ [']'])]
    else [.tag (position + 2 * kept) content]

/-- Cuts a text that begins at `position`; `skip` characters belong to a tag already found. -/
def piecesFrom (position : Nat) : (skip : Nat) → List Char → List Piece
  | _, [] => []
  | skip + 1, _ :: rest => piecesFrom (position + 1) skip rest
  | 0, c :: rest =>
    let backslashes := ((c :: rest).takeWhile (· == '\\')).length
    match tagContent? ((c :: rest).drop backslashes) with
    | some content =>
      tagPieces position backslashes content ++
        piecesFrom (position + 1) (backslashes + content.length + 1) rest
    | none => consPlain c (piecesFrom (position + 1) 0 rest)

/-! ## Tags -/

inductive Fault
  /-- A tag closes none of the open tags. -/
  | unopened (content : String) (position : Nat)
  | nothingToClose (position : Nat)
  /-- A colour lacks a number. -/
  | number (fault : Number.WholeFault)
deriving DecidableEq, Repr

def Fault.message : Fault → String
  | .unopened content position =>
    s!"closing tag '[{content}]' at position {position} doesn't match any open tag"
  | .nothingToClose position => s!"closing tag '[/]' at position {position} has nothing to close"
  | .number fault => fault.message

def normalName (name : List Char) : Except Fault String :=
  (normalForm (String.ofList name)).mapError .number

/-- The open tags after one tag more; the last one opened comes first. -/
def afterTag (position : Nat) (content : List Char) (opened : List String) :
    Except Fault (List String) := do
  match content.takeWhile (· != '=') with
  | '/' :: name =>
    if Text.isBlankText (String.ofList name) then
      match opened with
      | [] => throw (.nothingToClose position)
      | _ :: others => return others
    else
      let name ← normalName (Text.trim name)
      if opened.contains name then return opened.erase name
      else throw (.unopened (String.ofList content) position)
  | name => return (← normalName name) :: opened

/-! ## Plain text -/

/-- Leaves out the backslash before a bracket. -/
def unescaped : List Char → List Char
  | '\\' :: '[' :: rest => '[' :: unescaped rest
  | c :: rest => c :: unescaped rest
  | [] => []

/-- The text of pieces, with the tags that are open before them. -/
def textOf (opened : List String) : List Piece → Except Fault (List Char)
  | [] => .ok []
  | .plain content :: rest => (textOf opened rest).map (withEmoji (unescaped content) ++ ·)
  | .literal content :: rest => (textOf opened rest).map (withEmoji content ++ ·)
  | .tag position content :: rest => do
    let opened ← afterTag position content opened
    textOf opened rest

/-- The text without its tags. -/
def plain (markup : String) : Except Fault String := do
  return Text.undisrupted (String.ofList (← textOf [] (piecesFrom 0 0 markup.toList)))

end CommitStyle.Markup
