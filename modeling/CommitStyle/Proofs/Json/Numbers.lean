import CommitStyle.Json.Reader
import CommitStyle.Json.Writer
import Mathlib.Data.List.Basic
import Mathlib.Data.Nat.ModEq

/-! A whole number that was written is read back, up to the number of digits that may be
read. It ends where a character stands that no number goes on with. -/

namespace CommitStyle.Json

/-- No number goes on with what comes next. -/
def EndsNumber (rest : List Char) : Prop :=
  ∀ c ∈ rest.head?, Text.isAsciiDigit c = false ∧ c ∉ ['.', 'e', 'E']

/-- The digits of a number as they are written. -/
def digitsOf (n : Nat) : List Char := Nat.toDigits 10 n

/-! ## Digits -/

theorem isAsciiDigit_of_mem_digitsOf {n : Nat} {c : Char} (h : c ∈ digitsOf n) :
    Text.isAsciiDigit c = true :=
  Nat.isDigit_of_mem_toDigits (by decide) (by decide) h

theorem digitsOf_ne_nil (n : Nat) : digitsOf n ≠ [] := Nat.toDigits_ne_nil

/-- Only zero begins with a zero. -/
theorem head_digitsOf {n : Nat} (h : n ≠ 0) : (digitsOf n).head? ≠ some '0' := by
  induction n using Nat.strongRecOn with
  | ind n ih =>
    rw [digitsOf, Nat.toDigits_eq_if (by decide)]
    split
    · rename_i hsmall
      have hdigit := (by decide : ∀ n < 10, n ≠ 0 → n.digitChar ≠ '0') n hsmall h
      simpa using hdigit
    · rw [List.head?_append_of_ne_nil _ Nat.toDigits_ne_nil]
      exact ih (n / 10) (by omega) (by omega)

theorem decimalValue?_of_isAsciiDigit {c : Char} (h : Text.isAsciiDigit c = true) :
    Text.decimalValue? c = some (c.toNat - '0'.toNat) := if_pos h

theorem digitsValue_digitsOf (n : Nat) : digitsValue (digitsOf n) = n := by
  have hvalues : (digitsOf n).filterMap Text.decimalValue? =
      (digitsOf n).map fun c => c.toNat - '0'.toNat := by
    rw [← List.filterMap_eq_map]
    exact List.filterMap_congr fun c hc =>
      decimalValue?_of_isAsciiDigit (isAsciiDigit_of_mem_digitsOf hc)
  rw [digitsValue, hvalues, Number.ofDigits, List.foldl_map, digitsOf,
    ← Nat.ofDigitChars_eq_foldl, Nat.ofDigitChars_toDigits (by decide) (by decide)]

theorem length_digitsOf_le {n : Nat} (h : n < 10 ^ Number.digitLimit) :
    (digitsOf n).length ≤ Number.digitLimit :=
  (Nat.length_toDigits_le_iff (by decide) (by decide)).mpr h

/-! ## Reading -/

/-- A class of characters is read up to the first that is not of it. -/
theorem takeWhile_ends {ofClass : Char → Bool} {s rest : List Char}
    (hs : ∀ c ∈ s, ofClass c = true) (hrest : ∀ c ∈ rest.head?, ofClass c = false) :
    (s ++ rest).takeWhile ofClass = s := by
  rw [List.takeWhile_append_of_pos hs]
  cases rest with
  | nil => simp
  | cons c rest => simp [hrest c rfl]

theorem wholePart?_digitsOf (n : Nat) {rest : List Char} (hrest : EndsNumber rest) :
    wholePart? (digitsOf n ++ rest) = some (digitsOf n) := by
  by_cases hn : n = 0
  · rw [hn]
    rfl
  · have htake := takeWhile_ends (fun c => isAsciiDigit_of_mem_digitsOf (n := n))
      fun c hc => (hrest c hc).1
    unfold wholePart?
    split
    · rename_i heq
      have hhead := head_digitsOf hn
      rw [← List.head?_append_of_ne_nil _ (digitsOf_ne_nil n), heq] at hhead
      exact absurd rfl hhead
    · simp only [htake]
      rw [if_neg (by simpa using digitsOf_ne_nil n)]

theorem fractionPart_ends {rest : List Char} (hrest : EndsNumber rest) :
    fractionPart rest = [] := by
  unfold fractionPart
  split
  · exact absurd (by simp) (hrest '.' rfl).2
  · rfl

theorem exponentPart_ends {rest : List Char} (hrest : EndsNumber rest) :
    exponentPart rest = [] := by
  cases rest with
  | nil => rfl
  | cons c rest =>
    have hc := (hrest c rfl).2
    simp only [List.mem_cons, List.not_mem_nil, or_false, not_or] at hc
    unfold exponentPart
    simp [hc.2.1, hc.2.2]

theorem head_digitsOf_ne_sign (n : Nat) : (digitsOf n).head? ≠ some '-' := fun h =>
  absurd (isAsciiDigit_of_mem_digitsOf (List.mem_of_head? h)) (by decide)

/-- The parts of a whole number that was written. -/
theorem numberText?_digitsOf (negative : Bool) (n : Nat) {rest : List Char}
    (hrest : EndsNumber rest) :
    numberText? ((if negative then ['-'] else []) ++ digitsOf n ++ rest) =
      some ⟨negative, digitsOf n, [], []⟩ := by
  have hhead := head_digitsOf_ne_sign n
  have hparts := wholePart?_digitsOf n hrest
  cases negative with
  | true => simp [numberText?, hparts, fractionPart_ends hrest, exponentPart_ends hrest]
  | false =>
    obtain ⟨digit, digits, heq⟩ := List.exists_cons_of_ne_nil (digitsOf_ne_nil n)
    rw [heq] at hhead hparts ⊢
    simp only [List.head?_cons, ne_eq, Option.some.injEq] at hhead
    simp only [List.cons_append] at hparts
    simp [numberText?, hhead, hparts, fractionPart_ends hrest, exponentPart_ends hrest]

theorem writeWhole_eq (n : Int) :
    writeWhole n = (if decide (n < 0) then ['-'] else []) ++ digitsOf n.natAbs := by
  cases n with
  | ofNat n =>
    show (Nat.repr n).toList = _
    rw [Nat.repr_eq_ofList_toDigits, String.toList_ofList]
    rfl
  | negSucc n =>
    show ("-" ++ Nat.repr (n + 1)).toList = _
    rw [String.toList_append, Nat.repr_eq_ofList_toDigits, String.toList_ofList,
      String.toList_ofList, decide_eq_true (Int.negSucc_lt_zero n)]
    rfl

/-- A whole number that was written is read back. -/
theorem readNumber_writeWhole {n : Int} (h : n.natAbs < 10 ^ Number.digitLimit) (offset : Nat)
    {rest : List Char} (hrest : EndsNumber rest) :
    readNumber ⟨offset, writeWhole n ++ rest⟩ =
      .ok (.int n, ⟨offset + (writeWhole n).length, rest⟩) := by
  have hvalue : (if decide (n < 0) then -(n.natAbs : Int) else n.natAbs) = n := by
    by_cases hnegative : n < 0
    · rw [decide_eq_true hnegative, if_pos rfl]
      omega
    · rw [decide_eq_false hnegative, if_neg Bool.false_ne_true]
      omega
  have hshort : ¬(digitsOf n.natAbs).length > Number.digitLimit := by
    have := length_digitsOf_le h
    omega
  have hskip : Cursor.skip ⟨offset, writeWhole n ++ rest⟩ (writeWhole n).length =
      ⟨offset + (writeWhole n).length, rest⟩ := by simp [Cursor.skip]
  have hlength : NumberText.length ⟨decide (n < 0), digitsOf n.natAbs, [], []⟩ =
      (writeWhole n).length := by
    simp [NumberText.length, writeWhole_eq]
    split <;> simp
  have htext : numberText? (writeWhole n ++ rest) =
      some ⟨decide (n < 0), digitsOf n.natAbs, [], []⟩ := by
    rw [writeWhole_eq, numberText?_digitsOf _ _ hrest]
  have hread : NumberText.value ⟨decide (n < 0), digitsOf n.natAbs, [], []⟩ = .ok (.int n) := by
    simp only [NumberText.value, List.isEmpty_nil, Bool.and_self, if_true, if_neg hshort,
      digitsValue_digitsOf, hvalue]
  rw [readNumber, htext]
  simp only [hread, hlength, hskip]
  rfl

end CommitStyle.Json
