import CommitStyle.Text.CaseTable
import CommitStyle.Text.Ranges

/-! Lower and upper case of whole texts. A mapping may change the length of a
text, and the lower case of a capital sigma depends on its neighbours: it is the
final form after a cased letter and before none. -/

namespace CommitStyle.Text

/-- Where a table maps a code point. -/
def mapCase (runs : List CaseRun) (extras : List (Nat × List Nat)) (n : Nat) : List Char :=
  match runs.find? fun (first, last, step, _) => first ≤ n && n ≤ last && (n - first) % step == 0 with
  | some (_, _, _, shift) => [Char.ofNat (n + shift).toNat]
  | none =>
    match extras.find? fun extra => extra.1 == n with
    | some (_, image) => image.map Char.ofNat
    | none => [Char.ofNat n]

def lowerChar (c : Char) : List Char :=
  if c.toNat < 0x80 then [c.toLower] else mapCase lowerRuns lowerExtras c.toNat

def upperChar (c : Char) : List Char :=
  if c.toNat < 0x80 then [c.toUpper] else mapCase upperRuns upperExtras c.toNat

def isCased (c : Char) : Bool :=
  if c.toNat < 0x80 then c.isAlpha else inRanges casedRanges c.toNat

def isCaseIgnorable (c : Char) : Bool :=
  if c.toNat < 0x80 then ['\x27', '.', ':', '^', '\x60'].contains c
  else inRanges caseIgnorableRanges c.toNat

/-- Whether the first character that case mappings do not look through is cased. -/
def meetsCased (s : List Char) : Bool :=
  match s.dropWhile isCaseIgnorable with
  | [] => false
  | c :: _ => isCased c

/-- The lower case of `c` between the characters `before`, nearest first, and `after`. -/
def lowerBetween (before : List Char) (c : Char) (after : List Char) : List Char :=
  if c == 'Σ' then
    if meetsCased before && !meetsCased after then ['ς'] else ['σ']
  else lowerChar c

def lowerAfter (before : List Char) : List Char → List Char
  | [] => []
  | c :: rest => lowerBetween before c rest ++ lowerAfter (c :: before) rest

def lowerChars (s : List Char) : List Char := lowerAfter [] s

def upperChars (s : List Char) : List Char := s.flatMap upperChar

def lower (s : String) : String := String.ofList (lowerChars s.toList)

def upper (s : String) : String := String.ofList (upperChars s.toList)

end CommitStyle.Text
