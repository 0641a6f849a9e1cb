import CommitStyle.Text.Hex

/-! Reading bytes as UTF-8. Where the bytes are no text, the reader says which
byte stops it and why: a byte that starts nothing, a byte that does not continue
what was started, or an end too early. -/

namespace CommitStyle.Text

inductive Utf8Fault
  | invalidStart
  | invalidContinuation
  | unexpectedEnd
deriving DecidableEq, Repr

def Utf8Fault.message : Utf8Fault → String
  | .invalidStart => "invalid start byte"
  | .invalidContinuation => "invalid continuation byte"
  | .unexpectedEnd => "unexpected end of data"

/-- Why and where decoding stopped: `width` bytes from `position` on, the first of them `byte`. -/
structure Utf8Error where
  fault : Utf8Fault
  byte : Nat
  position : Nat
  width : Nat
deriving DecidableEq, Repr

def Utf8Error.message (e : Utf8Error) : String :=
  let place :=
    if e.width == 1 then
      s!"byte 0x{String.ofList (hexDigits e.byte 2)} in position {e.position}"
    else
      s!"bytes in position {e.position}-{e.position + e.width - 1}"
  s!"'utf-8' codec can't decode {place}: {e.fault.message}"

def isContinuation (b : Nat) : Bool := 0x80 ≤ b && b < 0xC0

/-- What the bytes after a first byte have to look like: how many there are, and
the range of the first of them. `none` if the byte starts no character. -/
def continuation? (first : Nat) : Option (Nat × Nat × Nat) :=
  if first < 0x80 then some (0, 0, 0)
  else if first < 0xC2 then none
  else if first < 0xE0 then some (1, 0x80, 0xC0)
  else if first == 0xE0 then some (2, 0xA0, 0xC0)
  else if first == 0xED then some (2, 0x80, 0xA0)
  else if first < 0xF0 then some (2, 0x80, 0xC0)
  else if first == 0xF0 then some (3, 0x90, 0xC0)
  else if first < 0xF4 then some (3, 0x80, 0xC0)
  else if first == 0xF4 then some (3, 0x80, 0x90)
  else none

/-- The value bits that a first byte contributes. -/
def leadBits (first count : Nat) : Nat :=
  if count == 0 then first else first % Nat.pow 2 (6 - count)

/-- Takes `count` continuation bytes, the next one between `low` and `high`. A
failure tells how many bytes were good, and its cause. -/
def takeContinuation (value : Nat) (taken low high : Nat) :
    (count : Nat) → List Nat → Except (Utf8Fault × Nat) Nat
  | 0, _ => .ok value
  | _ + 1, [] => .error (.unexpectedEnd, taken)
  | count + 1, b :: rest =>
    if low ≤ b && b < high then
      takeContinuation (value * 64 + b % 64) (taken + 1) 0x80 0xC0 count rest
    else .error (.invalidContinuation, taken)

/-- Reads from `position` on; `skip` bytes still belong to the character last read. -/
def decodeFrom (position : Nat) : (skip : Nat) → List Nat → Except Utf8Error (List Char)
  | _, [] => .ok []
  | skip + 1, _ :: rest => decodeFrom (position + 1) skip rest
  | 0, b :: rest =>
    match continuation? b with
    | none => .error ⟨.invalidStart, b, position, 1⟩
    | some (count, low, high) =>
      match takeContinuation (leadBits b count) 1 low high count rest with
      | .error (fault, taken) => .error ⟨fault, b, position, taken⟩
      | .ok value => (decodeFrom (position + 1) count rest).map (Char.ofNat value :: ·)

def decodeUtf8 (bytes : List Nat) : Except Utf8Error String :=
  (decodeFrom 0 0 bytes).map String.ofList

end CommitStyle.Text
