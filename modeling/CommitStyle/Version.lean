import CommitStyle.Text.Digit
import CommitStyle.Text.Pieces

/-! Semantic versions: three numbers, then identifiers of a pre-release after a
dash and identifiers of a build after a plus. Numbers have no leading zero. A
line feed at the end is not looked at. -/

namespace CommitStyle.Version

/-- The text before the first such character, and the text after it, if there is one. -/
def cutAt (c : Char) (s : List Char) : List Char × Option (List Char) :=
  let front := s.takeWhile (· != c)
  (front, if front.length < s.length then some (s.drop (front.length + 1)) else none)

/-- The pieces between the dots; one at least. -/
def identifiers (s : List Char) : List (List Char) := Text.pieces '.' s

def isIdentifierChar (c : Char) : Bool := c.isAlphanum || c == '-'

/-- Zero, or digits of which the first is an ASCII one and no zero. -/
def isNumber : List Char → Bool
  | ['0'] => true
  | c :: rest => '1' ≤ c && c ≤ '9' && rest.all Text.isDecimal
  | [] => false

/-- Digits of any script, then a letter or dash, then characters of identifiers. -/
def isMixed (s : List Char) : Bool :=
  match s.dropWhile Text.isDecimal with
  | [] => false
  | c :: rest => (c.isAlpha || c == '-') && rest.all isIdentifierChar

def isPreRelease (s : List Char) : Bool := isNumber s || isMixed s

def isBuild (s : List Char) : Bool := !s.isEmpty && s.all isIdentifierChar

def dropFinalLineFeed (s : List Char) : List Char :=
  if s.getLast? == some '\n' then s.dropLast else s

def isVersionText (s : List Char) : Bool :=
  let (numbered, build) := cutAt '+' s
  let (core, preRelease) := cutAt '-' numbered
  let numbers := identifiers core
  numbers.length == 3 && numbers.all isNumber &&
    preRelease.all (fun s => (identifiers s).all isPreRelease) &&
    build.all (fun s => (identifiers s).all isBuild)

def isVersion (version : String) : Bool := isVersionText (dropFinalLineFeed version.toList)

end CommitStyle.Version
