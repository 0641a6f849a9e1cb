import CommitStyle.Text.Blank
import CommitStyle.Text.Digit
import CommitStyle.Text.Quoted

/-! Whole numbers read from text and written as text. A text may have white space
around, one sign, decimal digits of any script and single underscores between
digits. Texts of more than 4300 digits are refused before anything else after the
digits is looked at, and numbers of more than 4300 digits are not written. -/

namespace CommitStyle.Number

inductive WholeFault
  | notWhole (text : String)
  | tooManyDigits (count : Nat)
  /-- A number has too many digits to be written. -/
  | tooLong
deriving DecidableEq, Repr

def digitLimit : Nat := 4300

/-- The message for a text that is no number. It is shown, in quotes, up to its two hundredth
character. -/
def notWholeMessage (quoted : String) : String :=
  s!"invalid literal for int() with base 10: {String.ofList (quoted.toList.take 200)}"

def WholeFault.message : WholeFault → String
  | .notWhole text => notWholeMessage (Text.quoted text)
  | .tooManyDigits count =>
    s!"Exceeds the limit ({digitLimit} digits) for integer string conversion: value has {count} " ++
      "digits; use sys.set_int_max_str_digits() to increase the limit"
  | .tooLong =>
    s!"Exceeds the limit ({digitLimit} digits) for integer string conversion; use " ++
      "sys.set_int_max_str_digits() to increase the limit"

/-- White space that may surround a number: of the ASCII controls, only the five that move
the cursor. -/
def isNumberBlank (c : Char) : Bool :=
  if c.toNat < 0x7F then (0x09 ≤ c.toNat && c.toNat ≤ 0x0D) || c == ' ' else Text.isBlank c

def ofDigits (digits : List Nat) : Nat := digits.foldl (fun n d => 10 * n + d) 0

/-- Digits with single underscores between them, and what follows; `none` when two underscores
meet or one stands last. `pending` tells that an underscore waits for its digit. -/
def spanDigits (pending : Bool) : List Char → Option (List Nat × List Char)
  | [] => if pending then none else some ([], [])
  | c :: rest =>
    match Text.decimalValue? c with
    | some d => (spanDigits false rest).map fun (ds, r) => (d :: ds, r)
    | none =>
      if c == '_' then (if pending then none else spanDigits true rest)
      else if pending then none
      else some ([], c :: rest)

def splitSign : List Char → Bool × List Char
  | '-' :: rest => (true, rest)
  | '+' :: rest => (false, rest)
  | s => (false, s)

def readWhole (text : String) : Except WholeFault Int :=
  let (negative, s) := splitSign (text.toList.dropWhile isNumberBlank)
  match if s.head? == some '_' then none else spanDigits false s with
  | none => .error (.notWhole text)
  | some (digits, rest) =>
    if digits.length > digitLimit then .error (.tooManyDigits digits.length)
    else if digits.isEmpty || !rest.all isNumberBlank then .error (.notWhole text)
    else .ok (if negative then -(ofDigits digits : Int) else ofDigits digits)

/-- The digits of a number, with its sign. -/
def writeWhole (n : Int) : Except WholeFault String :=
  if (toString n.natAbs).length > digitLimit then .error .tooLong else .ok (toString n)

end CommitStyle.Number
