import CommitStyle.Text.Case

/-! The casing of a keyword says how its value is written. It is read off the way
the keyword itself is spelled in a pattern. -/

namespace CommitStyle

inductive Casing
  | lower
  | upper
  | capitalize
  | asProvided
deriving DecidableEq, Repr

namespace Casing

/-- What is neither all lower case nor all upper case counts as capitalized. -/
def detect (word : String) : Casing :=
  if word == Text.lower word then .lower
  else if word == Text.upper word then .upper
  else .capitalize

def applyChars : Casing → List Char → List Char
  | .lower, s => Text.lowerChars s
  | .upper, s => Text.upperChars s
  | .capitalize, [] => []
  | .capitalize, c :: rest => Text.upperChar c ++ Text.lowerChars rest
  | .asProvided, s => s

/-- Cases a whole value: only the first of several words is capitalized. -/
def apply (casing : Casing) (value : String) : String :=
  String.ofList (casing.applyChars value.toList)

end Casing

end CommitStyle
