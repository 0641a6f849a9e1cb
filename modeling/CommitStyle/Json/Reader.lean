import CommitStyle.Json.Basic
import CommitStyle.Number.Whole
import CommitStyle.Text.Hex

/-! Reading JSON text. The reader stops at the first place that is wrong and
names it by line, column and offset. It accepts the names of the numbers that
are not finite; of several members of one name the last counts, at the place of
the first. An escape may spell half of a surrogate pair. -/

namespace CommitStyle.Json

/-- What is wrong with a JSON text. -/
inductive Flaw
  | value
  | propertyName
  | colon
  | comma
  | extraData
  | unterminatedText
  | controlCharacter
  | badEscape
  | badUnicodeEscape
  | byteOrderMark
deriving DecidableEq, Repr

def Flaw.message : Flaw → String
  | .value => "Expecting value"
  | .propertyName => "Expecting property name enclosed in double quotes"
  | .colon => "Expecting ':' delimiter"
  | .comma => "Expecting ',' delimiter"
  | .extraData => "Extra data"
  | .unterminatedText => "Unterminated string starting at"
  | .controlCharacter => "Invalid control character at"
  | .badEscape => "Invalid \\escape"
  | .badUnicodeEscape => "Invalid \\uXXXX escape"
  | .byteOrderMark => "Unexpected UTF-8 BOM (decode using utf-8-sig)"

/-- Why reading stopped: a flaw at an offset, or a whole number with too many digits. -/
inductive Stop
  | flaw (flaw : Flaw) (offset : Nat)
  | number (fault : Number.WholeFault)
deriving DecidableEq, Repr

/-- A place in a text that is being read. -/
structure Cursor where
  offset : Nat
  rest : List Char
deriving DecidableEq, Repr

def Cursor.skip (here : Cursor) (n : Nat) : Cursor := ⟨here.offset + n, here.rest.drop n⟩

def isSpace (c : Char) : Bool := c == ' ' || c == '\t' || c == '\n' || c == '\r'

def Cursor.skipSpace (here : Cursor) : Cursor :=
  here.skip (here.rest.takeWhile isSpace).length

/-! ## Texts -/

def unescape? : Char → Option Char
  | '"' => some '"'
  | '\\' => some '\\'
  | '/' => some '/'
  | 'b' => some '\x08'
  | 'f' => some '\x0c'
  | 'n' => some '\n'
  | 'r' => some '\r'
  | 't' => some '\t'
  | _ => none

/-- The code unit of an escape whose digits come next. One more character has to follow them. -/
def codeUnit? (s : List Char) : Option Nat :=
  if (s.drop 4).isEmpty then none else Text.ofHex? (s.take 4)

def isHighSurrogate (n : Nat) : Bool := 0xD800 ≤ n && n < 0xDC00

def isLowSurrogate (n : Nat) : Bool := 0xDC00 ≤ n && n < 0xE000

def unitPoint (n : Nat) : CodePoint :=
  if 0xD800 ≤ n && n < 0xE000 then .half n else .char (Char.ofNat n)

/-- The code point that an escape stands for, and how many characters it takes after the backslash
and the letter; `s` starts with its digits, at `offset`. -/
def unicodeEscape (offset : Nat) (s : List Char) : Except Stop (CodePoint × Nat) :=
  match codeUnit? s with
  | none => .error (.flaw .badUnicodeEscape (offset - 1))
  | some high =>
    match s.drop 4 with
    | '\\' :: 'u' :: digits =>
      if isHighSurrogate high && !(digits.drop 4).isEmpty then
        match codeUnit? digits with
        | none => .error (.flaw .badUnicodeEscape (offset + 5))
        | some low =>
          if isLowSurrogate low then
            .ok (.char (Char.ofNat (0x10000 + (high - 0xD800) * 0x400 + (low - 0xDC00))), 10)
          else .ok (unitPoint high, 4)
      else .ok (unitPoint high, 4)
    | _ => .ok (unitPoint high, 4)

/-- Reads the inside of a text that was opened at `start`, up to and with its closing quote.
`skip` characters belong to an escape already read. -/
def readTextFrom (start offset : Nat) : (skip : Nat) → List Char →
    Except Stop (List CodePoint × Cursor)
  | _, [] => .error (.flaw .unterminatedText start)
  | skip + 1, _ :: rest => readTextFrom start (offset + 1) skip rest
  | 0, '"' :: rest => .ok ([], ⟨offset + 1, rest⟩)
  | 0, '\\' :: rest =>
    match rest with
    | [] => .error (.flaw .unterminatedText start)
    | 'u' :: digits => do
      let (point, width) ← unicodeEscape (offset + 2) digits
      let (points, next) ← readTextFrom start (offset + 1) (width + 1) rest
      return (point :: points, next)
    | e :: _ =>
      match unescape? e with
      | none => .error (.flaw .badEscape offset)
      | some c => do
        let (points, next) ← readTextFrom start (offset + 1) 1 rest
        return (.char c :: points, next)
  | 0, c :: rest =>
    if c.toNat < 0x20 then .error (.flaw .controlCharacter offset)
    else do
      let (points, next) ← readTextFrom start (offset + 1) 0 rest
      return (.char c :: points, next)

/-- Reads a text; the cursor stands after its opening quote. -/
def readText (here : Cursor) : Except Stop (JsonText × Cursor) := do
  let (points, next) ← readTextFrom (here.offset - 1) here.offset 0 here.rest
  return (.ofPoints points, next)

/-! ## Numbers -/

/-- The parts of a number as they are written. -/
structure NumberText where
  negative : Bool
  whole : List Char
  fraction : List Char
  exponent : List Char

def wholePart? : List Char → Option (List Char)
  | '0' :: _ => some ['0']
  | s =>
    let digits := s.takeWhile Text.isAsciiDigit
    if digits.isEmpty then none else some digits

/-- A point and the digits after it, if there is one digit at least. -/
def fractionPart : List Char → List Char
  | '.' :: s =>
    let digits := s.takeWhile Text.isAsciiDigit
    if digits.isEmpty then [] else '.' :: digits
  | _ => []

/-- A letter, a sign and the digits of an exponent, if there is one digit at least. -/
def exponentPart : List Char → List Char
  | e :: s =>
    if e == 'e' || e == 'E' then
      let sign := match s with
        | '+' :: _ => ['+']
        | '-' :: _ => ['-']
        | _ => []
      let digits := (s.drop sign.length).takeWhile Text.isAsciiDigit
      if digits.isEmpty then [] else e :: sign ++ digits
    else []
  | [] => []

def numberText? (s : List Char) : Option NumberText :=
  let sign := if s.head? == some '-' then 1 else 0
  let s := s.drop sign
  (wholePart? s).map fun whole =>
    let fraction := fractionPart (s.drop whole.length)
    { negative := sign == 1, whole, fraction,
      exponent := exponentPart (s.drop (whole.length + fraction.length)) }

def NumberText.length (n : NumberText) : Nat :=
  (if n.negative then 1 else 0) + n.whole.length + n.fraction.length + n.exponent.length

def digitsValue (s : List Char) : Nat := Number.ofDigits (s.filterMap Text.decimalValue?)

def NumberText.power (n : NumberText) : Int :=
  let exponent : Int := digitsValue n.exponent
  (if n.exponent.contains '-' then -exponent else exponent) - (n.fraction.drop 1).length

/-- A number without point and exponent is a whole one. -/
def NumberText.value (n : NumberText) : Except Stop Json :=
  if n.fraction.isEmpty && n.exponent.isEmpty then
    if n.whole.length > Number.digitLimit then
      .error (.number (.tooManyDigits n.whole.length))
    else
      let value : Int := digitsValue n.whole
      .ok (.int (if n.negative then -value else value))
  else
    .ok (.float (.ofDecimal n.negative (digitsValue (n.whole ++ n.fraction)) n.power))

def readNumber (here : Cursor) : Except Stop (Json × Cursor) :=
  match numberText? here.rest with
  | none => .error (.flaw .value here.offset)
  | some n => n.value.map fun value => (value, here.skip n.length)

/-! ## Values -/

/-- Values that are spelled out. -/
def names : List (List Char × Json) :=
  [("null".toList, .null), ("true".toList, .bool true), ("false".toList, .bool false),
    ("NaN".toList, .float .nan), ("Infinity".toList, .float (.infinite false)),
    ("-Infinity".toList, .float (.infinite true))]

def readName? (here : Cursor) : Option (Json × Cursor) :=
  (names.find? fun name => name.1.isPrefixOf here.rest).map
    fun name => (name.2, here.skip name.1.length)

mutual

/-- Reads a value at the cursor. The fuel bounds how many brackets, items and members may still
be opened. A bracket takes a character and is followed by an item or a member that may take none,
so twice the length of the text and two more are enough. -/
def readValue : (fuel : Nat) → Cursor → Except Stop (Json × Cursor)
  | 0, here => .error (.flaw .value here.offset)
  | fuel + 1, here =>
    match here.rest with
    | '"' :: _ => (readText (here.skip 1)).map fun (s, next) => (.str s, next)
    | '{' :: _ => do
      let here := (here.skip 1).skipSpace
      if here.rest.head? == some '}' then return (.obj [], here.skip 1)
      let (members, next) ← readMembers fuel [] here
      return (.obj members, next)
    | '[' :: _ => do
      let here := (here.skip 1).skipSpace
      if here.rest.head? == some ']' then return (.arr [], here.skip 1)
      let (items, next) ← readItems fuel here
      return (.arr items, next)
    | _ =>
      match readName? here with
      | some found => .ok found
      | none => readNumber here

/-- Reads the items of an array up to its closing bracket. -/
def readItems : (fuel : Nat) → Cursor → Except Stop (List Json × Cursor)
  | 0, here => .error (.flaw .value here.offset)
  | fuel + 1, here => do
    let (item, next) ← readValue fuel here
    let next := next.skipSpace
    match next.rest with
    | ']' :: _ => return ([item], next.skip 1)
    | ',' :: _ =>
      let (items, last) ← readItems fuel (next.skip 1).skipSpace
      return (item :: items, last)
    | _ => .error (.flaw .comma next.offset)

/-- Reads the members of an object up to its closing bracket; `members` are those before. -/
def readMembers : (fuel : Nat) → Entries Json JsonText → Cursor →
    Except Stop (Entries Json JsonText × Cursor)
  | 0, _, here => .error (.flaw .propertyName here.offset)
  | fuel + 1, members, here => do
    if here.rest.head? != some '"' then throw (.flaw .propertyName here.offset)
    let (key, next) ← readText (here.skip 1)
    let next := next.skipSpace
    if next.rest.head? != some ':' then throw (.flaw .colon next.offset)
    let (value, next) ← readValue fuel (next.skip 1).skipSpace
    let members := members.insert key value
    let next := next.skipSpace
    match next.rest with
    | '}' :: _ => return (members, next.skip 1)
    | ',' :: _ => readMembers fuel members (next.skip 1).skipSpace
    | _ => .error (.flaw .comma next.offset)

end

/-- Reads a text that is one value, with white space around it. -/
def readAll (s : List Char) : Except Stop Json := do
  if s.head? == some '\uFEFF' then throw (.flaw .byteOrderMark 0)
  let (value, next) ← readValue (2 * s.length + 2) (Cursor.mk 0 s).skipSpace
  let next := next.skipSpace
  if !next.rest.isEmpty then throw (.flaw .extraData next.offset)
  return value

/-! ## Places -/

/-- Why a text could not be read. -/
inductive ReadError
  | malformed (flaw : Flaw) (line column offset : Nat)
  | number (fault : Number.WholeFault)
deriving DecidableEq, Repr

def ReadError.message : ReadError → String
  | .malformed what line column offset =>
    s!"{what.message}: line {line} column {column} (char {offset})"
  | .number fault => fault.message

/-- Lines and columns count from one. -/
def Stop.inText (s : List Char) : Stop → ReadError
  | .number fault => .number fault
  | .flaw what offset =>
    let before := s.take offset
    .malformed what (before.count '\n' + 1)
      ((before.reverse.takeWhile (· != '\n')).length + 1) offset

def read (text : String) : Except ReadError Json :=
  (readAll text.toList).mapError (Stop.inText text.toList)

end CommitStyle.Json
