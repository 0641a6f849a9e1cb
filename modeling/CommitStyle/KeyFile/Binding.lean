import CommitStyle.Text.Blank

/-! The statements of a key file. A statement names a variable and may give it a
value, bare or in quotes; blank lines before it belong to it, and so does the
comment at its end. A line that is no statement is skipped. However a text is
cut, the pieces make up the whole text. -/

namespace CommitStyle.KeyFile

/-- One statement of a key file. -/
structure Binding where
  /-- A comment or blank lines have no name. -/
  name : Option String
  /-- The value before other variables are filled in. -/
  value : Option String
  /-- The text that the statement takes up. -/
  source : List Char
  wellFormed : Bool
deriving DecidableEq, Repr

def skipInline (s : List Char) : List Char := s.dropWhile Text.isInlineBlank

/-- What follows the line. -/
def afterLine (s : List Char) : List Char := (s.dropWhile (· != '\n')).drop 1

/-- Skips the word that marks a variable for export; white space has to follow it. -/
def skipExport (s : List Char) : List Char :=
  if "export".toList.isPrefixOf s then
    let rest := skipInline (s.drop 6)
    if rest.length < (s.drop 6).length then rest else s
  else s

def isNameChar (c : Char) : Bool := c != '=' && c != '#' && !Text.isBlank c

/-- A run of one character at least, and the rest. -/
def run? (ofClass : Char → Bool) (s : List Char) : Option (List Char × List Char) :=
  let run := s.takeWhile ofClass
  if run.isEmpty then none else some (run, s.drop run.length)

/-- A name, bare or in single quotes. A comment has none. -/
def name? : List Char → Option (Option (List Char) × List Char)
  | '#' :: rest => some (none, '#' :: rest)
  | '\x27' :: rest =>
    match run? (· != '\x27') rest with
    | some (name, '\x27' :: rest) => some (some name, rest)
    | _ => none
  | s => (run? isNameChar s).map fun (name, rest) => (some name, rest)

/-- The text up to the closing quote. A character after a backslash closes nothing. -/
def upToQuote? (quote : Char) : List Char → Option (List Char × List Char)
  | [] => none
  | c :: rest =>
    if c == quote then some ([], rest)
    else if c == '\\' then
      match rest with
      | [] => none
      | d :: rest => (upToQuote? quote rest).map fun (text, rest) => (c :: d :: text, rest)
    else (upToQuote? quote rest).map fun (text, rest) => (c :: text, rest)

/-- Replaces a backslash and a character that stands for another; other backslashes stay. -/
def unescape (escapes : List (Char × Char)) : List Char → List Char
  | [] => []
  | '\\' :: d :: rest =>
    match escapes.lookup d with
    | some meant => meant :: unescape escapes rest
    | none => '\\' :: unescape escapes (d :: rest)
  | c :: rest => c :: unescape escapes rest

def singleQuoteEscapes : List (Char × Char) := [('\\', '\\'), ('\x27', '\x27')]

def doubleQuoteEscapes : List (Char × Char) :=
  [('\\', '\\'), ('\x27', '\x27'), ('"', '"'), ('a', '\x07'), ('b', '\x08'), ('f', '\x0c'),
    ('n', '\n'), ('r', '\r'), ('t', '\t'), ('v', '\x0b')]

/-- Whether white space and then a comment begin here. -/
def startsComment (s : List Char) : Bool :=
  s.head?.any Text.isBlank && (s.dropWhile Text.isBlank).head? == some '#'

/-- A bare value ends where white space and a comment begin. -/
def withoutComment : List Char → List Char
  | [] => []
  | c :: rest => if startsComment (c :: rest) then [] else c :: withoutComment rest

/-- A value, bare or in quotes. -/
def value? : List Char → Option (List Char × List Char)
  | '\x27' :: rest =>
    (upToQuote? '\x27' rest).map fun (text, rest) => (unescape singleQuoteEscapes text, rest)
  | '"' :: rest =>
    (upToQuote? '"' rest).map fun (text, rest) => (unescape doubleQuoteEscapes text, rest)
  | s =>
    let line := s.takeWhile (· != '\n')
    some (Text.trimEnd (withoutComment line), s.drop line.length)

/-- The value after an equals sign. After white space, a comment leaves it empty. -/
def assigned? (s : List Char) : Option (List Char × List Char) :=
  let here := skipInline s
  if here.head? == some '#' && here.length < s.length then some ([], here) else value? here

def skipComment (s : List Char) : List Char :=
  let here := skipInline s
  if here.head? == some '#' then here.dropWhile (· != '\n') else s

/-- What follows the statement: nothing but white space and a comment may stand before the end
of the line. -/
def lineEnd? (s : List Char) : Option (List Char) :=
  match skipInline (skipComment s) with
  | [] => some []
  | '\n' :: rest => some rest
  | _ => none

/-- The value, if there is an equals sign; or else the place where reading stopped. -/
def valuePart : List Char → Except (List Char) (Option (List Char) × List Char)
  | '=' :: rest =>
    match assigned? rest with
    | some (value, rest) => .ok (some value, rest)
    | none => .error (skipInline rest)
  | s => .ok (none, s)

/-- The name and the value of a statement, and what follows it; or else the place where
reading stopped. -/
def statement (s : List Char) :
    Except (List Char) (Option (List Char) × Option (List Char) × List Char) :=
  match name? (skipExport s) with
  | none => .error (skipExport s)
  | some (name, here) =>
    match valuePart (skipInline here) with
    | .error stop => .error stop
    | .ok (value, here) =>
      match lineEnd? here with
      | none => .error here
      | some rest => .ok (name, value, rest)

/-- Reads one statement. Where reading stops, the rest of that line is skipped. -/
def Binding.read (s : List Char) : Binding × List Char :=
  let source (rest : List Char) := s.take (s.length - rest.length)
  let start := Text.trimStart s
  if start.isEmpty then (⟨none, none, s, true⟩, [])
  else match statement start with
    | .ok (name, value, rest) =>
      (⟨name.map String.ofList, value.map String.ofList, source rest, true⟩, rest)
    | .error here => (⟨none, none, source (afterLine here), false⟩, afterLine here)

end CommitStyle.KeyFile
