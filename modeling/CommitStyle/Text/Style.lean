/-! Control sequences of terminals: an escape and an opening bracket, then
parameters, then intermediate signs, and one final sign. Each of the three is a
range of ASCII, and the ranges are apart, so where a sequence ends is never in
doubt. They set the style of a text and are no part of it. -/

namespace CommitStyle.Text

/-- Digits, the signs that separate them, and the marks of private sequences. -/
def isParameterSign (c : Char) : Bool := '0' ≤ c && c ≤ '?'

def isIntermediateSign (c : Char) : Bool := ' ' ≤ c && c ≤ '/'

/-- Letters and the signs about them. -/
def isFinalSign (c : Char) : Bool := '@' ≤ c && c ≤ '~'

/-- The length of the control sequence that a text begins with. -/
def sequenceLength? : List Char → Option Nat
  | '\x1b' :: '[' :: rest =>
    let parameters := rest.takeWhile isParameterSign
    let rest := rest.drop parameters.length
    let intermediates := rest.takeWhile isIntermediateSign
    match rest.drop intermediates.length with
    | c :: _ =>
      if isFinalSign c then some (parameters.length + intermediates.length + 3) else none
    | [] => none
  | _ => none

/-- Leaves out `skip` characters and, after them, all control sequences. -/
def unstyledFrom : (skip : Nat) → List Char → List Char
  | _, [] => []
  | skip + 1, _ :: rest => unstyledFrom skip rest
  | 0, c :: rest =>
    match sequenceLength? (c :: rest) with
    | some length => unstyledFrom (length - 1) rest
    | none => c :: unstyledFrom 0 rest

/-- The text without control sequences. -/
def unstyled (text : String) : String := String.ofList (unstyledFrom 0 text.toList)

end CommitStyle.Text
