/-! Texts of JSON values. An escape may spell half of a surrogate pair, which is no
character, so a text of a value is a string or, where some half stands alone, a
list of code points. Such a text is compared, shown and written with its halves;
where a string is needed, each half counts as U+FFFD. -/

namespace CommitStyle

/-- A code point of a text. -/
inductive CodePoint
  | char (c : Char)
  /-- Half of a surrogate pair, without its other half. -/
  | half (unit : Nat)
deriving DecidableEq, Repr

namespace CodePoint

def char? : CodePoint → Option Char
  | .char c => some c
  | .half _ => none

/-- The character that stands in for the code point in a string. -/
def toChar : CodePoint → Char
  | .char c => c
  | .half _ => '\uFFFD'

end CodePoint

inductive JsonText
  | whole (text : String)
  /-- A text with half of a surrogate pair somewhere. -/
  | broken (points : List CodePoint)
deriving DecidableEq, Repr

instance : Coe String JsonText := ⟨.whole⟩

namespace JsonText

/-- The text of code points. It is broken only if one of them is no character. -/
def ofPoints (points : List CodePoint) : JsonText :=
  match points.mapM CodePoint.char? with
  | some characters => .whole (String.ofList characters)
  | none => .broken points

def points : JsonText → List CodePoint
  | .whole text => text.toList.map .char
  | .broken points => points

def isEmpty : JsonText → Bool
  | .whole text => text.isEmpty
  | .broken points => points.isEmpty

/-- The text as a string. -/
def toString : JsonText → String
  | .whole text => text
  | .broken points => String.ofList (points.map CodePoint.toChar)

/-- The code points, each as a text of its own. -/
def characters (text : JsonText) : List JsonText := text.points.map fun point => ofPoints [point]

end JsonText

end CommitStyle
