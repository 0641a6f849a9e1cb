import CommitStyle.Json.Basic
import CommitStyle.Text.Hex

/-! JSON text in ASCII: what is not ASCII is written as an escape of four
hexadecimal digits, or as two of them past the first plane. Values are written
either on one line, or with two spaces of indent for each level. -/

namespace CommitStyle.Json

/-- The code units of a character in UTF-16. -/
def codeUnits (c : Char) : List Nat :=
  if c.toNat < 0x10000 then [c.toNat]
  else [0xD800 + (c.toNat - 0x10000) / 0x400, 0xDC00 + (c.toNat - 0x10000) % 0x400]

def escapeUnit (n : Nat) : List Char := '\\' :: 'u' :: Text.hexDigits n 4

def escapeChar (c : Char) : List Char :=
  if c == '"' then ['\\', '"']
  else if c == '\\' then ['\\', '\\']
  else if c == '\n' then ['\\', 'n']
  else if c == '\r' then ['\\', 'r']
  else if c == '\t' then ['\\', 't']
  else if c == '\x08' then ['\\', 'b']
  else if c == '\x0c' then ['\\', 'f']
  else if 0x20 ≤ c.toNat && c.toNat ≤ 0x7E then [c]
  else (codeUnits c).flatMap escapeUnit

/-- Half of a surrogate pair is written as the escape that it was read from. -/
def escapePoint : CodePoint → List Char
  | .char c => escapeChar c
  | .half unit => escapeUnit unit

def writeText : JsonText → List Char
  | .whole text => '"' :: text.toList.flatMap escapeChar ++ ['"']
  | .broken points => '"' :: points.flatMap escapePoint ++ ['"']

/-- Numbers that are none, or not finite, have names of their own. -/
def writeFloat (x : Number.Binary64) : List Char :=
  match x with
  | .nan => ['N', 'a', 'N']
  | .infinite negative => (if negative then ['-'] else []) ++ "Infinity".toList
  | .finite .. => x.text.toList

def writeWhole (n : Int) : List Char := (toString n).toList

def writeBool (b : Bool) : List Char := if b then "true".toList else "false".toList

/-- Where a writer breaks its lines: `newline` is what follows an opening bracket or a comma. -/
structure Layout where
  /-- What separates the items at a depth. -/
  comma : Nat → List Char
  /-- What follows an opening bracket and comes before the first item. -/
  opening : Nat → List Char
  /-- What comes between the last item and the closing bracket. -/
  closing : Nat → List Char

def onOneLine : Layout := ⟨fun _ => [',', ' '], fun _ => [], fun _ => []⟩

def lineBreak (depth : Nat) : List Char := '\n' :: List.replicate (2 * depth) ' '

def indented : Layout :=
  ⟨fun depth => ',' :: lineBreak (depth + 1), fun depth => lineBreak (depth + 1), lineBreak⟩

mutual

/-- Writes a value that stands `depth` brackets deep. -/
def writeAt (layout : Layout) (depth : Nat) : Json → List Char
  | .null => "null".toList
  | .bool b => writeBool b
  | .int n => writeWhole n
  | .float x => writeFloat x
  | .str s => writeText s
  | .arr [] => ['[', ']']
  | .arr (item :: rest) =>
    '[' :: layout.opening depth ++ writeAt layout (depth + 1) item ++
      writeItems layout depth rest ++ layout.closing depth ++ [']']
  | .obj [] => ['{', '}']
  | .obj ((key, value) :: rest) =>
    '{' :: layout.opening depth ++ writeText key ++ [':', ' '] ++
      writeAt layout (depth + 1) value ++
      writeMembers layout depth rest ++ layout.closing depth ++ ['}']

def writeItems (layout : Layout) (depth : Nat) : List Json → List Char
  | [] => []
  | item :: rest =>
    layout.comma depth ++ writeAt layout (depth + 1) item ++ writeItems layout depth rest

def writeMembers (layout : Layout) (depth : Nat) : List (JsonText × Json) → List Char
  | [] => []
  | (key, value) :: rest =>
    layout.comma depth ++ writeText key ++ [':', ' '] ++ writeAt layout (depth + 1) value ++
      writeMembers layout depth rest

end

/-- On one line. -/
def compact (value : Json) : String := String.ofList (writeAt onOneLine 0 value)

/-- Over several lines, two spaces for each level. -/
def pretty (value : Json) : String := String.ofList (writeAt indented 0 value)

end CommitStyle.Json
