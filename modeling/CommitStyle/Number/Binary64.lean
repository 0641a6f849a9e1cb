/-! Floating point numbers of 64 bits as exact values: a sign, a whole
coefficient below `2 ^ 53` and a power of two. A decimal is rounded to the nearest
such value, and of two equally near ones to the one with the even coefficient; a
value is written with the fewest decimal digits that round back to it. All the
arithmetic is on whole numbers. -/

namespace CommitStyle.Number

/-- `finite negative m e` stands for `± m * 2 ^ e`. -/
inductive Binary64
  | finite (negative : Bool) (coefficient : Nat) (exponent : Int)
  | infinite (negative : Bool)
  | nan
deriving DecidableEq, Repr

namespace Binary64

/-- The nearest whole number to `num / den`; a half goes to the even neighbour. -/
def roundQuotient (num den : Nat) : Nat :=
  let q := num / den
  let r := num % den
  if 2 * r < den then q
  else if den < 2 * r then q + 1
  else if q % 2 == 0 then q else q + 1

/-- The quotient `num * 2 ^ (-e) / den`, rounded. -/
def scaled (num den : Nat) (e : Int) : Nat :=
  if e < 0 then roundQuotient (num * Nat.pow 2 (-e).toNat) den
  else roundQuotient num (den * Nat.pow 2 e.toNat)

/-- Whether `num / den` is below `2 ^ (52 + e)`. -/
def isShort (num den : Nat) (e : Int) : Bool :=
  num * Nat.pow 2 (-e).toNat < Nat.pow 2 52 * den * Nat.pow 2 e.toNat

/-- The power of two at which `num / den` has a coefficient of 53 bits. The lengths of the two
numbers tell it up to one. -/
def binaryExponent (num den : Nat) : Int :=
  let e := (Nat.log2 num : Int) - (Nat.log2 den : Int) - 52
  if isShort num den e then e - 1 else e

/-- The value nearest to `num / den`. Rounding may carry into a 54th bit; past the largest
exponent there is only infinity. -/
def ofQuotient (negative : Bool) (num den : Nat) : Binary64 :=
  if num == 0 then .finite negative 0 (-1074)
  else
    let e := max (binaryExponent num den) (-1074)
    let m := scaled num den e
    let (m, e) := if m == Nat.pow 2 53 then (Nat.pow 2 52, e + 1) else (m, e)
    if 971 < e then .infinite negative else .finite negative m e

/-- The value nearest to `digits * 10 ^ power`. Powers far out of range are decided without
forming them. -/
def ofDecimal (negative : Bool) (digits : Nat) (power : Int) : Binary64 :=
  let magnitude : Int := (Nat.log2 digits : Int) / 4 + power
  if digits == 0 then .finite negative 0 (-1074)
  else if 400 < magnitude then .infinite negative
  else if (Nat.log2 digits : Int) / 3 + 1 + power < -400 then .finite negative 0 (-1074)
  else if 0 ≤ power then ofQuotient negative (digits * Nat.pow 10 power.toNat) 1
  else ofQuotient negative digits (Nat.pow 10 (-power).toNat)

/-- The whole part, with the sign. -/
def truncate (negative : Bool) (m : Nat) (e : Int) : Int :=
  let n := if 0 ≤ e then m * Nat.pow 2 e.toNat else m / Nat.pow 2 (-e).toNat
  if negative then -(n : Int) else n

/-- Whether a finite value is the given whole number. -/
def isWhole (negative : Bool) (m : Nat) (e : Int) (n : Int) : Bool :=
  truncate negative m e == n && (0 ≤ e || m % Nat.pow 2 (-e).toNat == 0)

/-- Equality of the values: the zeros are equal, and what is no number equals nothing. -/
def same : Binary64 → Binary64 → Bool
  | .finite _ 0 _, .finite _ 0 _ => true
  | .finite s m e, .finite s' m' e' => s == s' && m == m' && e == e'
  | .infinite s, .infinite s' => s == s'
  | _, _ => false

/-! ## Decimal digits -/

/-- The values that round to `m * 2 ^ e` lie between two bounds, here as numerators over the
denominator `den`; the bounds belong to it iff `m` is even. -/
structure Basin where
  low : Nat
  value : Nat
  high : Nat
  den : Nat
  closed : Bool

/-- Below a power of two the neighbour is only half as far. -/
def basin (m : Nat) (e : Int) : Basin :=
  let below := if m == Nat.pow 2 52 && -1074 < e then 1 else 2
  let up := Nat.pow 2 e.toNat
  let den := 4 * Nat.pow 2 (-e).toNat
  { low := (4 * m - below) * up, value := 4 * m * up, high := (4 * m + 2) * up,
    den, closed := m % 2 == 0 }

/-- Whether `n * 10 ^ k` rounds back to the value. -/
def Basin.holds (b : Basin) (n : Nat) (k : Int) : Bool :=
  let x := n * Nat.pow 10 k.toNat * b.den
  let scale := Nat.pow 10 (-k).toNat
  if b.closed then b.low * scale ≤ x && x ≤ b.high * scale
  else b.low * scale < x && x < b.high * scale

/-- The multiple of `10 ^ k` below the value. -/
def Basin.floor (b : Basin) (k : Int) : Nat :=
  b.value * Nat.pow 10 (-k).toNat / (b.den * Nat.pow 10 k.toNat)

/-- Whether the value lies nearer to the multiple above than to the one below. A tie goes to
the even one. -/
def Basin.nearerUp (b : Basin) (n : Nat) (k : Int) : Bool :=
  let twice := 2 * b.value * Nat.pow 10 (-k).toNat
  let middle := (2 * n + 1) * b.den * Nat.pow 10 k.toNat
  if twice == middle then n % 2 == 1 else middle < twice

/-- The neighbour of the value on the grid of `10 ^ k` that rounds back to it, if one does. -/
def Basin.onGrid? (b : Basin) (k : Int) : Option Nat :=
  let n := b.floor k
  match b.holds n k && n != 0, b.holds (n + 1) k with
  | true, true => some (if b.nearerUp n k then n + 1 else n)
  | true, false => some n
  | false, true => some (n + 1)
  | false, false => none

/-- Tries finer and finer grids. -/
def Basin.search (b : Basin) : (tries : Nat) → (k : Int) → Nat × Int
  | 0, k => (b.floor k, k)
  | tries + 1, k =>
    match b.onGrid? k with
    | some n => (n, k)
    | none => b.search tries (k - 1)

/-- The number of decimal digits of `n`. -/
def decimalLength (n : Nat) : Nat := (Nat.toDigits 10 n).length

/-- The power of ten that the coarsest grid worth trying has. -/
def Basin.top (b : Basin) : Int :=
  let whole := b.value / b.den
  if whole != 0 then decimalLength whole
  else 2 - (decimalLength (b.den / b.value) : Int)

/-- The fewest digits that round back, and the power of ten that goes with them. -/
def shortest (m : Nat) (e : Int) : Nat × Int :=
  let b := basin m e
  b.search 20 b.top

/-- Drops zeros at the end, counting them into the power. -/
def dropZeros : (fuel : Nat) → Nat → Int → Nat × Int
  | 0, n, k => (n, k)
  | fuel + 1, n, k => if n != 0 && n % 10 == 0 then dropZeros fuel (n / 10) (k + 1) else (n, k)

/-- Decimals are written out when their point falls within sixteen digits after the first and
no more than three zeros before it; others have one digit before the point and an exponent of
at least two digits. -/
def layout (digits : List Char) (power : Int) : List Char :=
  let point : Int := digits.length + power
  if -4 < point && point ≤ 16 then
    if point ≤ 0 then '0' :: '.' :: List.replicate (-point).toNat '0' ++ digits
    else if digits.length ≤ point.toNat then
      digits ++ List.replicate (point.toNat - digits.length) '0' ++ ['.', '0']
    else digits.take point.toNat ++ '.' :: digits.drop point.toNat
  else
    let exponent := point - 1
    let size := Nat.toDigits 10 exponent.natAbs
    let mantissa := match digits with
      | [d] => [d]
      | d :: others => d :: '.' :: others
      | [] => ['0']
    mantissa ++ ['e', if exponent < 0 then '-' else '+'] ++
      (if size.length < 2 then '0' :: size else size)

def text : Binary64 → String
  | .nan => "nan"
  | .infinite negative => if negative then "-inf" else "inf"
  | .finite negative m e =>
    let body := if m == 0 then ['0', '.', '0'] else
      let (n, k) := shortest m e
      let (n, k) := dropZeros 400 n k
      layout (Nat.toDigits 10 n) k
    String.ofList (if negative then '-' :: body else body)

end Binary64

end CommitStyle.Number
