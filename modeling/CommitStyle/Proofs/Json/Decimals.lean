import CommitStyle.Proofs.Json.Numbers
import CommitStyle.Proofs.Number.Shortest

/-! A floating number that was written is read back. Each layout of digits is taken apart into
the parts of a number, and however the digits stand around the point, the parts have the
value of the digits times their power of ten. -/

namespace CommitStyle.Json

open CommitStyle.Number

/-! ## The value of digits -/

/-- ASCII digits only. -/
def AreDigits (s : List Char) : Prop := ∀ c ∈ s, Text.isAsciiDigit c = true

theorem ofDigits_append (ds es : List ℕ) :
    ofDigits (ds ++ es) = ofDigits ds * 10 ^ es.length + ofDigits es := by
  have hstart (start : ℕ) :
      es.foldl (fun n d => 10 * n + d) start = start * 10 ^ es.length + ofDigits es := by
    induction es generalizing start with
    | nil => simp [ofDigits]
    | cons e es ih =>
      have hrest := ih (10 * 0 + e)
      rw [ofDigits, List.foldl_cons, List.foldl_cons, ih, hrest, List.length_cons, pow_succ]
      ring
  rw [ofDigits, List.foldl_append, hstart]
  rfl

theorem length_values {s : List Char} (h : AreDigits s) :
    (s.filterMap Text.decimalValue?).length = s.length := by
  induction s with
  | nil => rfl
  | cons c rest ih =>
    rw [List.filterMap_cons, decimalValue?_of_isAsciiDigit (h c (by simp))]
    simp [ih fun d hd => h d (by simp [hd])]

theorem digitsValue_append (s : List Char) {t : List Char} (ht : AreDigits t) :
    digitsValue (s ++ t) = digitsValue s * 10 ^ t.length + digitsValue t := by
  rw [digitsValue, List.filterMap_append, ofDigits_append, length_values ht]
  rfl

/-- What is no digit counts for nothing. -/
theorem digitsValue_skip (s : List Char) {c : Char} (h : Text.decimalValue? c = none)
    (t : List Char) : digitsValue (s ++ c :: t) = digitsValue (s ++ t) := by
  simp [digitsValue, List.filterMap_append, h]

theorem areDigits_zeros (count : ℕ) : AreDigits (List.replicate count '0') := by
  intro c hc
  rw [List.eq_of_mem_replicate hc]
  rfl

theorem digitsValue_zeros (count : ℕ) : digitsValue (List.replicate count '0') = 0 := by
  induction count with
  | zero => rfl
  | succ count ih =>
    have hzero : Text.decimalValue? '0' = some 0 := rfl
    rw [digitsValue] at ih ⊢
    rw [List.replicate_succ, List.filterMap_cons, hzero]
    exact ih

theorem areDigits_digitsOf (n : ℕ) : AreDigits (digitsOf n) :=
  fun _ hc => isAsciiDigit_of_mem_digitsOf hc

/-! ## The parts of a number -/

/-- The text of a number in parts. -/
def NumberText.text (n : NumberText) : List Char :=
  (if n.negative then ['-'] else []) ++ n.whole ++ n.fraction ++ n.exponent

/-- The value of a number that is not whole, but for its sign. -/
def NumberText.decimal (n : NumberText) : ℚ := digitsValue (n.whole ++ n.fraction) * 10 ^ n.power

/-- Parts as they can be written: no zero before other digits, and digits behind a point or a
sign. -/
structure NumberText.WellFormed (n : NumberText) : Prop where
  whole : n.whole = ['0'] ∨ (AreDigits n.whole ∧ ∃ c rest, n.whole = c :: rest ∧ c ≠ '0')
  fraction : n.fraction = [] ∨ ∃ ds, n.fraction = '.' :: ds ∧ AreDigits ds ∧ ds ≠ []
  exponent : n.exponent = [] ∨
    ∃ sign ds, n.exponent = 'e' :: sign :: ds ∧ sign ∈ ['+', '-'] ∧ AreDigits ds ∧ ds ≠ []

section Parts

variable {n : NumberText} {rest : List Char}

/-- What comes behind the digits of the whole part is no digit. -/
def EndsDigits (s : List Char) : Prop := ∀ c ∈ s.head?, Text.isAsciiDigit c = false

theorem EndsNumber.endsDigits (h : EndsNumber rest) : EndsDigits rest := fun c hc => (h c hc).1

theorem wholePart?_append (h : n.WellFormed) (hrest : EndsDigits rest) :
    wholePart? (n.whole ++ rest) = some n.whole := by
  rcases h.whole with hzero | ⟨hdigits, c, more, hcons, hc⟩
  · rw [hzero]
    rfl
  · have htake := takeWhile_ends hdigits hrest
    rw [hcons] at htake ⊢
    unfold wholePart?
    split
    · rename_i heq
      cases heq
      exact absurd rfl hc
    · simp only [htake]
      rw [if_neg (by simp)]

theorem fractionPart_append (h : n.WellFormed) (hrest : EndsDigits rest)
    (hpoint : rest.head? ≠ some '.') : fractionPart (n.fraction ++ rest) = n.fraction := by
  rcases h.fraction with hnone | ⟨ds, heq, hdigits, hne⟩
  · rw [hnone, List.nil_append]
    unfold fractionPart
    split
    · simp at hpoint
    · rfl
  · rw [heq, List.cons_append, fractionPart, takeWhile_ends hdigits hrest]
    exact if_neg (by simpa using hne)

theorem exponentPart_append (h : n.WellFormed) (hrest : EndsNumber rest) :
    exponentPart (n.exponent ++ rest) = n.exponent := by
  rcases h.exponent with hnone | ⟨sign, ds, heq, hsign, hdigits, hne⟩
  · rw [hnone, List.nil_append]
    exact exponentPart_ends hrest
  · have htake := takeWhile_ends hdigits hrest.endsDigits
    simp only [List.mem_cons, List.not_mem_nil, or_false] at hsign
    rw [heq]
    rcases hsign with rfl | rfl
    · simp [exponentPart, htake, hne]
    · simp [exponentPart, htake, hne]

/-- An exponent, or what comes behind it, begins with neither a digit nor a point. -/
theorem exponent_head (h : n.WellFormed) (hrest : EndsNumber rest) :
    EndsDigits (n.exponent ++ rest) ∧ (n.exponent ++ rest).head? ≠ some '.' := by
  rcases h.exponent with hnone | ⟨sign, ds, heq, -⟩
  · rw [hnone, List.nil_append]
    exact ⟨hrest.endsDigits, fun hpoint => (hrest '.' hpoint).2 (by simp)⟩
  · rw [heq]
    exact ⟨fun c hc => by cases hc; rfl, by simp⟩

theorem fraction_head (h : n.WellFormed) (hrest : EndsNumber rest) :
    EndsDigits (n.fraction ++ (n.exponent ++ rest)) := by
  rcases h.fraction with hnone | ⟨ds, heq, -⟩
  · rw [hnone, List.nil_append]
    exact (exponent_head h hrest).1
  · rw [heq]
    exact fun c hc => by cases hc; rfl

theorem whole_head (h : n.WellFormed) (rest : List Char) : (n.whole ++ rest).head? ≠ some '-' := by
  rcases h.whole with hzero | ⟨hdigits, c, more, hcons, -⟩
  · simp [hzero]
  · rw [hcons]
    rintro ⟨⟩
    exact absurd (hdigits '-' (by simp [hcons])) (by decide)

/-- Parts that were written are found again. -/
theorem numberText?_text (h : n.WellFormed) (hrest : EndsNumber rest) :
    numberText? (n.text ++ rest) = some n := by
  have hsplit : n.text ++ rest = (if n.negative then ['-'] else []) ++
      (n.whole ++ (n.fraction ++ (n.exponent ++ rest))) := by simp [NumberText.text]
  have hunsigned : (n.text ++ rest).drop (if n.negative then 1 else 0) =
      n.whole ++ (n.fraction ++ (n.exponent ++ rest)) := by
    rw [hsplit]
    split <;> rfl
  have hsign : ((n.text ++ rest).head? == some '-') = n.negative := by
    rw [hsplit]
    cases n.negative with
    | true => rfl
    | false => exact beq_eq_false_iff_ne.mpr (whole_head h _)
  have hwhole := wholePart?_append h (fraction_head h hrest)
  have hfraction := fractionPart_append h (exponent_head h hrest).1 (exponent_head h hrest).2
  have hexponent := exponentPart_append h hrest
  have hbehind : (n.whole ++ (n.fraction ++ (n.exponent ++ rest))).drop
      (n.whole.length + n.fraction.length) = n.exponent ++ rest := by
    rw [← List.append_assoc]
    exact List.drop_left' List.length_append
  unfold numberText?
  simp only [hsign, hunsigned, hwhole, Option.map_some, List.drop_left, hfraction, hbehind,
    hexponent]
  cases n with
  | mk negative => cases negative <;> rfl

/-- A number with point or exponent that was written is read as its value, rounded. -/
theorem readNumber_text (h : n.WellFormed) (hreal : n.fraction ≠ [] ∨ n.exponent ≠ [])
    (hrest : EndsNumber rest) (offset : ℕ) :
    readNumber ⟨offset, n.text ++ rest⟩ =
      .ok (.float (.ofDecimal n.negative (digitsValue (n.whole ++ n.fraction)) n.power),
        ⟨offset + n.text.length, rest⟩) := by
  have hlength : n.length = n.text.length := by
    simp only [NumberText.length, NumberText.text, List.length_append]
    split <;> rfl
  have hskip : Cursor.skip ⟨offset, n.text ++ rest⟩ n.text.length =
      ⟨offset + n.text.length, rest⟩ := by simp [Cursor.skip]
  have hfloat : (n.fraction.isEmpty && n.exponent.isEmpty) = false := by
    rw [Bool.and_eq_false_iff]
    simpa using hreal
  rw [readNumber, numberText?_text h hrest]
  simp only [NumberText.value, hfloat, Bool.false_eq_true, if_false, hlength, hskip]
  rfl

end Parts

/-! ## Layouts of digits -/

section Layouts

variable {n : ℕ} {k : ℤ}

/-- The text as the parts of a number with this value. -/
structure Spells (negative : Bool) (n : ℕ) (k : ℤ) (s : List Char) (parts : NumberText) : Prop where
  wellFormed : parts.WellFormed
  real : parts.fraction ≠ [] ∨ parts.exponent ≠ []
  sign : parts.negative = negative
  text : parts.whole ++ parts.fraction ++ parts.exponent = s
  decimal : parts.decimal = n * 10 ^ k

/-- Without an exponent the digits behind the point are the power. -/
theorem decimal_pointed (negative : Bool) (whole ds : List Char) :
    (NumberText.mk negative whole ('.' :: ds) []).decimal =
      digitsValue (whole ++ ds) * 10 ^ (-(ds.length : ℤ)) := by
  have hpoint : Text.decimalValue? '.' = none := rfl
  have hpower : (NumberText.mk negative whole ('.' :: ds) []).power = -(ds.length : ℤ) := by
    simp [NumberText.power, digitsValue, ofDigits]
  rw [NumberText.decimal, hpower]
  dsimp only
  rw [digitsValue_skip whole hpoint]

/-- A decimal without exponent is well formed. -/
theorem wellFormed_pointed {negative : Bool} {whole ds : List Char}
    (hwhole : whole = ['0'] ∨ (AreDigits whole ∧ ∃ c rest, whole = c :: rest ∧ c ≠ '0'))
    (hdigits : AreDigits ds) (hne : ds ≠ []) :
    (NumberText.mk negative whole ('.' :: ds) []).WellFormed :=
  ⟨hwhole, .inr ⟨ds, rfl, hdigits, hne⟩, .inl rfl⟩

theorem AreDigits.append {s t : List Char} (hs : AreDigits s) (ht : AreDigits t) :
    AreDigits (s ++ t) := fun c hc => (List.mem_append.mp hc).elim (hs c) (ht c)

/-- Zeros between the point and the digits. -/
theorem spells_small (negative : Bool) (n zeros : ℕ) :
    Spells negative n (-(zeros + (digitsOf n).length : ℤ))
      ('0' :: '.' :: List.replicate zeros '0' ++ digitsOf n)
      ⟨negative, ['0'], '.' :: (List.replicate zeros '0' ++ digitsOf n), []⟩ := by
  have hdigits := (areDigits_zeros zeros).append (areDigits_digitsOf n)
  refine ⟨wellFormed_pointed (.inl rfl) hdigits (by simp [digitsOf_ne_nil]), .inl (by simp), rfl,
    by simp, ?_⟩
  have hvalue : digitsValue (['0'] ++ (List.replicate zeros '0' ++ digitsOf n)) = n := by
    rw [← List.append_assoc, digitsValue_append _ (areDigits_digitsOf n), digitsValue_digitsOf]
    have hzeros := digitsValue_zeros (zeros + 1)
    rw [List.replicate_succ] at hzeros
    rw [List.singleton_append, hzeros, Nat.zero_mul, Nat.zero_add]
  rw [decimal_pointed, hvalue]
  simp

/-- The first digit of a number is no zero. -/
theorem digitsOf_cons (hn : n ≠ 0) : ∃ c rest, digitsOf n = c :: rest ∧ c ≠ '0' := by
  obtain ⟨c, rest, hcons⟩ := List.exists_cons_of_ne_nil (digitsOf_ne_nil n)
  refine ⟨c, rest, hcons, ?_⟩
  rintro rfl
  exact head_digitsOf hn (by rw [hcons]; rfl)

/-- Zeros between the digits and the point. -/
theorem spells_large (negative : Bool) (hn : n ≠ 0) (zeros : ℕ) :
    Spells negative n zeros (digitsOf n ++ List.replicate zeros '0' ++ ['.', '0'])
      ⟨negative, digitsOf n ++ List.replicate zeros '0', ['.', '0'], []⟩ := by
  have hwhole := (areDigits_digitsOf n).append (areDigits_zeros zeros)
  have hzero : AreDigits ['0'] := areDigits_zeros 1
  obtain ⟨c, rest, hcons, hc⟩ := digitsOf_cons hn
  refine ⟨wellFormed_pointed (.inr ⟨hwhole, c, rest ++ List.replicate zeros '0',
    by simp [hcons], hc⟩) hzero (by simp), .inl (by simp), rfl, by simp, ?_⟩
  have hvalue : digitsValue (digitsOf n ++ List.replicate zeros '0' ++ ['0']) =
      n * 10 ^ zeros * 10 := by
    have hone : digitsValue ['0'] = 0 := rfl
    rw [digitsValue_append _ hzero, digitsValue_append _ (areDigits_zeros zeros),
      digitsValue_zeros, digitsValue_digitsOf, hone, List.length_replicate]
    rfl
  rw [decimal_pointed, hvalue]
  simp

/-- The point among the digits. -/
theorem spells_split (negative : Bool) (hn : n ≠ 0) (place : ℕ) (hplace : 0 < place)
    (hless : place < (digitsOf n).length) :
    Spells negative n (place - (digitsOf n).length)
      ((digitsOf n).take place ++ '.' :: (digitsOf n).drop place)
      ⟨negative, (digitsOf n).take place, '.' :: (digitsOf n).drop place, []⟩ := by
  have hdigits := areDigits_digitsOf n
  have hfraction : AreDigits ((digitsOf n).drop place) := fun c hc =>
    hdigits c (List.mem_of_mem_drop hc)
  obtain ⟨c, rest, hcons, hc⟩ := digitsOf_cons hn
  have hwhole : (digitsOf n).take place = c :: rest.take (place - 1) := by
    rw [hcons, List.take_cons hplace]
  refine ⟨wellFormed_pointed (.inr ⟨fun c hc => hdigits c (List.mem_of_mem_take hc), c, _, hwhole,
    hc⟩) hfraction ?_, .inl (by simp), rfl, by simp, ?_⟩
  · simpa using hless
  · rw [decimal_pointed, List.take_append_drop, digitsValue_digitsOf,
      List.length_drop]
    congr 2
    omega

/-- The digits behind the sign of an exponent. -/
def exponentDigits (size : List Char) : List Char := if size.length < 2 then '0' :: size else size

theorem areDigits_exponentDigits (n : ℕ) : AreDigits (exponentDigits (digitsOf n)) := by
  unfold exponentDigits
  split
  · exact (areDigits_zeros 1).append (areDigits_digitsOf n)
  · exact areDigits_digitsOf n

theorem digitsValue_exponentDigits (n : ℕ) : digitsValue (exponentDigits (digitsOf n)) = n := by
  unfold exponentDigits
  split
  · have hzero : digitsValue ['0'] = 0 := rfl
    rw [← List.singleton_append, digitsValue_append _ (areDigits_digitsOf n), hzero,
      digitsValue_digitsOf]
    simp
  · exact digitsValue_digitsOf n

/-- The letter, the sign and the digits of an exponent. -/
def exponentText (exponent : ℤ) : List Char :=
  'e' :: (if exponent < 0 then '-' else '+') :: exponentDigits (digitsOf exponent.natAbs)

/-- An exponent is read with its sign. -/
theorem exponent_value (exponent : ℤ) :
    (if (exponentText exponent).contains '-' then -(digitsValue (exponentText exponent) : ℤ)
      else digitsValue (exponentText exponent)) = exponent := by
  have hdigits : '-' ∉ exponentDigits (digitsOf exponent.natAbs) := fun hmem =>
    absurd (areDigits_exponentDigits _ _ hmem) (by decide)
  have hletter : Text.decimalValue? 'e' = none := rfl
  have hplus : Text.decimalValue? '+' = none := rfl
  have hminus : Text.decimalValue? '-' = none := rfl
  have hvalue : digitsValue (exponentText exponent) = exponent.natAbs := by
    have hskip (sign : Char) (hsign : Text.decimalValue? sign = none) :
        digitsValue ('e' :: sign :: exponentDigits (digitsOf exponent.natAbs)) =
          exponent.natAbs :=
      calc digitsValue ('e' :: sign :: exponentDigits (digitsOf exponent.natAbs))
        _ = digitsValue ('e' :: exponentDigits (digitsOf exponent.natAbs)) :=
          digitsValue_skip ['e'] hsign _
        _ = digitsValue (exponentDigits (digitsOf exponent.natAbs)) := digitsValue_skip [] hletter _
        _ = exponent.natAbs := digitsValue_exponentDigits _
    unfold exponentText
    split
    · exact hskip '-' hminus
    · exact hskip '+' hplus
  rw [hvalue]
  by_cases hnegative : exponent < 0
  · rw [if_pos (by simp [exponentText, hnegative])]
    omega
  · rw [if_neg (by simp [exponentText, hnegative, hdigits])]
    omega

/-- One digit before the point, and an exponent. -/
theorem spells_exponent (negative : Bool) {c : Char} {rest : List Char}
    (hcons : digitsOf n = c :: rest) (hc : c ≠ '0') (exponent : ℤ) :
    Spells negative n (exponent - rest.length)
      ((c :: if rest = [] then [] else '.' :: rest) ++ exponentText exponent)
      ⟨negative, [c], if rest = [] then [] else '.' :: rest, exponentText exponent⟩ := by
  have hdigits := areDigits_digitsOf n
  rw [hcons] at hdigits
  have hrest : AreDigits rest := fun d hd => hdigits d (by simp [hd])
  have hexponent := areDigits_exponentDigits exponent.natAbs
  refine ⟨⟨.inr ⟨fun d hd => hdigits d (by simp at hd; simp [hd]), c, [], rfl, hc⟩, ?_,
    .inr ⟨_, _, rfl, ?_, hexponent, ?_⟩⟩, .inr (by simp [exponentText]), rfl, rfl, ?_⟩
  · dsimp only
    split
    · exact .inl rfl
    · exact .inr ⟨rest, rfl, hrest, ‹_›⟩
  · split <;> simp
  · unfold exponentDigits
    split
    · simp
    · exact digitsOf_ne_nil _
  · have hpoint : Text.decimalValue? '.' = none := rfl
    have hn : digitsValue (c :: rest) = n := by rw [← hcons, digitsValue_digitsOf]
    have hvalue : digitsValue ([c] ++ if rest = [] then [] else '.' :: rest) = n := by
      split
      · rename_i hnone
        rwa [hnone] at hn
      · rw [digitsValue_skip _ hpoint]
        exact hn
    have hpower : (NumberText.mk negative [c] (if rest = [] then [] else '.' :: rest)
        (exponentText exponent)).power = exponent - rest.length := by
      rw [NumberText.power]
      dsimp only
      rw [exponent_value]
      split
      · rename_i hnone
        simp [hnone]
      · rfl
    rw [NumberText.decimal, hpower, hvalue]

/-- Every layout of digits spells their value. -/
theorem spells_layout (negative : Bool) (hn : n ≠ 0) (k : ℤ) :
    ∃ parts, Spells negative n k (Binary64.layout (digitsOf n) k) parts := by
  unfold Binary64.layout
  dsimp only
  split
  · split
    · rename_i hsmall
      have hparts := spells_small negative n (-((digitsOf n).length + k)).toNat
      have hk : -(((-((digitsOf n).length + k)).toNat + (digitsOf n).length : ℕ) : ℤ) = k := by
        omega
      push_cast at hk
      exact ⟨_, by rwa [hk] at hparts⟩
    rename_i hlarge
    split
    · rename_i hfits
      have hparts := spells_large negative hn
        (((digitsOf n).length + k).toNat - (digitsOf n).length)
      have hk : ((((digitsOf n).length + k).toNat - (digitsOf n).length : ℕ) : ℤ) = k := by
        omega
      exact ⟨_, by rwa [hk] at hparts⟩
    · rename_i hsplit
      have hparts := spells_split negative hn ((digitsOf n).length + k).toNat
        (by omega) (by omega)
      have hk : ((((digitsOf n).length + k).toNat : ℕ) : ℤ) - (digitsOf n).length = k := by
        omega
      exact ⟨_, by rwa [hk] at hparts⟩
  · obtain ⟨c, rest, hcons, hc⟩ := digitsOf_cons hn
    have hparts := spells_exponent negative hcons hc ((digitsOf n).length + k - 1)
    have hlength : (digitsOf n).length = rest.length + 1 := by rw [hcons, List.length_cons]
    have hk : ((digitsOf n).length : ℤ) + k - 1 - rest.length = k := by omega
    rw [hk] at hparts
    refine ⟨_, hparts.wellFormed, hparts.real, hparts.sign, hparts.text.trans ?_, hparts.decimal⟩
    rw [hcons]
    cases rest with
    | nil => rfl
    | cons d rest =>
      rw [if_neg (List.cons_ne_nil d rest)]
      simp [exponentText, exponentDigits, digitsOf]

end Layouts

/-! ## Floating numbers -/

/-- The parts of a finite number as it is written. -/
theorem writeFloat_parts {negative : Bool} {m : ℕ} {e : ℤ}
    (hstored : Binary64.IsStored (.finite negative m e)) :
    ∃ parts : NumberText, parts.WellFormed ∧ (parts.fraction ≠ [] ∨ parts.exponent ≠ []) ∧
      writeFloat (.finite negative m e) = parts.text ∧
      Binary64.ofDecimal parts.negative (digitsValue (parts.whole ++ parts.fraction)) parts.power =
        .finite negative m e := by
  have htext (body : List Char) : (String.ofList (if negative then '-' :: body else body)).toList =
      (if negative then ['-'] else []) ++ body := by
    rw [String.toList_ofList]
    split <;> rfl
  by_cases hm : m = 0
  · obtain ⟨-, -, -, hexponent⟩ := hstored
    obtain rfl : e = -1074 := by omega
    refine ⟨⟨negative, ['0'], ['.', '0'], []⟩, wellFormed_pointed (.inl rfl) (areDigits_zeros 1)
      (by simp), .inl (by simp), ?_, ?_⟩
    · rw [hm]
      exact (htext ['0', '.', '0']).trans (by simp [NumberText.text])
    · rw [hm]
      rfl
  · obtain ⟨n, k, hn, hnear, hlayout⟩ :=
      Binary64.text_eq negative (Nat.pos_of_ne_zero hm) hstored.1 e
    obtain ⟨parts, hparts⟩ := spells_layout negative hn k
    refine ⟨parts, hparts.wellFormed, hparts.real, ?_, ?_⟩
    · rw [writeFloat, hlayout, htext, NumberText.text, hparts.sign, List.append_assoc,
        List.append_assoc, ← List.append_assoc parts.whole, hparts.text]
      rfl
    · have hvalue : (digitsValue (parts.whole ++ parts.fraction) : ℚ) * 10 ^ parts.power =
          n * 10 ^ k := hparts.decimal
      rw [hparts.sign]
      exact Binary64.ofDecimal_of_isNear (Nat.pos_of_ne_zero hm) hstored (hvalue ▸ hnear)

/-- A finite number that was written is read back. -/
theorem readNumber_writeFloat {negative : Bool} {m : ℕ} {e : ℤ}
    (hstored : Binary64.IsStored (.finite negative m e)) (offset : ℕ) {rest : List Char}
    (hrest : EndsNumber rest) :
    readNumber ⟨offset, writeFloat (.finite negative m e) ++ rest⟩ =
      .ok (.float (.finite negative m e),
        ⟨offset + (writeFloat (.finite negative m e)).length, rest⟩) := by
  obtain ⟨parts, hformed, hreal, htext, hvalue⟩ := writeFloat_parts hstored
  rw [htext, readNumber_text hformed hreal hrest, hvalue]

/-- A finite number begins with a sign or a digit. -/
theorem writeFloat_head {negative : Bool} {m : ℕ} {e : ℤ}
    (hstored : Binary64.IsStored (.finite negative m e)) :
    ∃ c rest, writeFloat (.finite negative m e) = c :: rest ∧
      (Text.isAsciiDigit c = true ∨ (c = '-' ∧ ∃ d more, rest = d :: more ∧
        Text.isAsciiDigit d = true)) := by
  obtain ⟨parts, hformed, -, htext, -⟩ := writeFloat_parts hstored
  have hwhole : ∃ d more, parts.whole = d :: more ∧ Text.isAsciiDigit d = true := by
    rcases hformed.whole with hzero | ⟨hdigits, d, more, hcons, -⟩
    · exact ⟨'0', [], hzero, rfl⟩
    · exact ⟨d, more, hcons, hdigits d (by simp [hcons])⟩
  obtain ⟨d, more, hcons, hd⟩ := hwhole
  rw [htext, NumberText.text, hcons]
  cases parts.negative with
  | true => exact ⟨'-', _, rfl, .inr ⟨rfl, d, _, rfl, hd⟩⟩
  | false => exact ⟨d, _, rfl, .inl hd⟩

end CommitStyle.Json
