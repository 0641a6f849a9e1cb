import CommitStyle.Pattern.Basic
import CommitStyle.Text.Word

/-! Compiling a pattern. The text is cut, from the left, into tokens and the
literals between them. A token is a label in braces that holds no brace itself,
or a keyword in any case that stands as a word of its own. Nothing is lost and
nothing fails: a brace without partner is literal text. -/

namespace CommitStyle.Pattern

def isBrace (c : Char) : Bool := c == '{' || c == '}'

/-- Whether `c` spells the lower case letter `letter` in some case. A long s counts as an s, an
i without dot and one that keeps its dot as an i. -/
def spellsLetter (letter c : Char) : Bool :=
  c.toLower == letter || (letter == 's' && c == 'ſ') ||
    (letter == 'i' && (c == 'ı' || c == 'İ'))

/-- Whether the text begins with the word, in some case. -/
def spellsWord : (word text : List Char) → Bool
  | [], _ => true
  | _ :: _, [] => false
  | letter :: word, c :: text => spellsLetter letter c && spellsWord word text

def keywordSpellings : List (List Char) :=
  ["type".toList, "scope".toList, "description".toList]

/-- A segment that is no literal, and how many characters it takes after its first one. -/
abbrev Token := Segment × Nat

/-- A field whose opening brace has just been read. -/
def fieldAfterBrace? (s : List Char) : Option Token :=
  let label := s.takeWhile fun c => !isBrace c
  if (s.drop label.length).head? == some '}' then
    some (.field (String.ofList label), label.length + 1)
  else none

/-- A keyword at the front of `s`; no word character may stand before or after it. -/
def keywordAt? (before : Option Char) (s : List Char) : Option Token :=
  if before.any Text.isWord then none
  else
    (keywordSpellings.find? fun word =>
      spellsWord word s && !(s.drop word.length).head?.any Text.isWord).map fun word =>
        let spelling := String.ofList (s.take word.length)
        (.keyword (Text.lower spelling) (Casing.detect spelling), word.length - 1)

/-- The token at the front of `s`, if one starts there. -/
def tokenAt? (before : Option Char) (s : List Char) : Option Token :=
  match s with
  | [] => none
  | '{' :: rest => fieldAfterBrace? rest
  | _ => keywordAt? before s

/-- A pattern while it is read: characters that are literal, and tokens. -/
inductive Piece
  | char (c : Char)
  | token (segment : Segment)
deriving DecidableEq, Repr

/-- Reads on after `before`; the next `skip` characters belong to the token last read. -/
def pieces (before : Option Char) : (skip : Nat) → List Char → List Piece
  | _, [] => []
  | skip + 1, c :: rest => pieces (some c) skip rest
  | 0, c :: rest =>
    match tokenAt? before (c :: rest) with
    | some (segment, width) => .token segment :: pieces (some c) width rest
    | none => .char c :: pieces (some c) 0 rest

/-- Puts a literal character before the segments, into the literal that they begin with. -/
def consChar (c : Char) : List Segment → List Segment
  | .literal text :: rest => .literal (String.ofList (c :: text.toList)) :: rest
  | segments => .literal (String.ofList [c]) :: segments

/-- Joins the literal characters that stand together. -/
def joinPieces : List Piece → List Segment
  | [] => []
  | .char c :: rest => consChar c (joinPieces rest)
  | .token segment :: rest => segment :: joinPieces rest

def segmentsOf (s : List Char) : List Segment := joinPieces (pieces none 0 s)

def compile (source : String) : Pattern := ⟨source, segmentsOf source.toList⟩

end CommitStyle.Pattern
