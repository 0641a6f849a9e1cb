import CommitStyle.Number.Binary64
import Mathlib.Algebra.Order.Field.Basic
import Mathlib.Algebra.Order.Field.Power
import Mathlib.Algebra.Order.Field.Rat
import Mathlib.Tactic.FieldSimp
import Mathlib.Tactic.Linarith
import Mathlib.Tactic.NormNum
import Mathlib.Tactic.Ring

/-! Rounding a quotient to a floating number. Whole coefficients and powers of two are read as
rational numbers here. What is near enough to a number of the format is rounded to it,
and rounding gives nothing but numbers of the format. -/

namespace CommitStyle.Number.Binary64

/-- The numbers of the format, each in the one way that it is stored: the coefficient has 53
bits, unless the exponent is the least. -/
def IsStored : Binary64 → Prop
  | .finite _ m e => m < 2 ^ 53 ∧ -1074 ≤ e ∧ e ≤ 971 ∧ (2 ^ 52 ≤ m ∨ e = -1074)
  | .infinite _ => True
  | .nan => True

/-! ## Whole numbers near a rational one -/

/-- The whole number is nearest to the rational one; of two equally near ones it is even. -/
structure Nearest (x : ℚ) (n : ℕ) : Prop where
  low : n - 1 / 2 ≤ x
  high : x ≤ n + 1 / 2
  odd : n % 2 = 1 → n - 1 / 2 < x ∧ x < n + 1 / 2

theorem Nearest.unique {x : ℚ} {n n' : ℕ} (h : Nearest x n) (h' : Nearest x n') : n = n' := by
  -- two numbers that are equally near are neighbours, and one of them is odd
  have hapart {a b : ℕ} (ha : Nearest x a) (hb : Nearest x b) : ¬ a < b := by
    intro hlt
    have hlow := ha.high
    have hhigh := hb.low
    have hle : (a : ℚ) + 1 ≤ b := by exact_mod_cast hlt
    have hnext : (b : ℚ) = a + 1 := by linarith
    have hbound : b = a + 1 := by exact_mod_cast hnext
    rcases Nat.mod_two_eq_zero_or_one a with heven | hodd
    · have := (hb.odd (by omega)).1
      linarith
    · have := (ha.odd hodd).2
      linarith
  exact le_antisymm (not_lt.mp (hapart h' h)) (not_lt.mp (hapart h h'))

/-- A fraction of one is rounded up from a half on, a half itself to the even side. -/
theorem nearest_add {x rest : ℚ} {n : ℕ} (hx : x = n + rest) (hlow : 0 ≤ rest) (hhigh : rest < 1) :
    (rest < 1 / 2 → Nearest x n) ∧ (1 / 2 < rest → Nearest x (n + 1)) ∧
      (rest = 1 / 2 → Nearest x (if n % 2 = 0 then n else n + 1)) := by
  refine ⟨fun hless => ?_, fun hmore => ?_, fun hhalf => ?_⟩
  · exact ⟨by linarith, by linarith, fun _ => ⟨by linarith, by linarith⟩⟩
  · refine ⟨?_, ?_, fun _ => ⟨?_, ?_⟩⟩
    all_goals
      push_cast
      linarith
  · split
    · exact ⟨by linarith, by linarith, fun hodd => by omega⟩
    · refine ⟨?_, ?_, fun hodd => by omega⟩
      all_goals
        push_cast
        linarith

theorem nearest_roundQuotient (num : ℕ) {den : ℕ} (hden : 0 < den) :
    Nearest (num / den) (roundQuotient num den) := by
  have hpos : (0 : ℚ) < den := by exact_mod_cast hden
  have hsum : (num : ℚ) = den * (num / den : ℕ) + (num % den : ℕ) := by
    exact_mod_cast (Nat.div_add_mod num den).symm
  have hsplit : (num : ℚ) / den = (num / den : ℕ) + ((num % den : ℕ) : ℚ) / den := by
    rw [div_eq_iff hpos.ne', add_mul, div_mul_cancel₀ _ hpos.ne']
    linarith
  have hrest : ((num % den : ℕ) : ℚ) < den := by exact_mod_cast Nat.mod_lt num hden
  obtain ⟨hless, hmore, hhalf⟩ := nearest_add hsplit
    (div_nonneg (Nat.cast_nonneg _) hpos.le) ((div_lt_one hpos).mpr hrest)
  unfold roundQuotient
  dsimp only
  split
  · refine hless ((div_lt_div_iff₀ hpos two_pos).mpr ?_)
    exact_mod_cast (by omega : num % den * 2 < 1 * den)
  split
  · refine hmore ((div_lt_div_iff₀ two_pos hpos).mpr ?_)
    exact_mod_cast (by omega : 1 * den < num % den * 2)
  · simpa using hhalf ((div_eq_div_iff hpos.ne' two_ne_zero).mpr
      (by exact_mod_cast (by omega : num % den * 2 = 1 * den)))

/-! ## Powers -/

/-- A power with a whole exponent as the two whole numbers that the arithmetic works with. -/
theorem zpow_eq_div (b : ℚ) (k : ℤ) : b ^ k = b ^ k.toNat / b ^ (-k).toNat := by
  rcases le_total 0 k with h | h
  · have hneg : (-k).toNat = 0 := by omega
    rw [hneg, pow_zero, div_one, ← zpow_natCast, Int.toNat_of_nonneg h]
  · have hpos : k.toNat = 0 := by omega
    rw [hpos, pow_zero, one_div, ← zpow_natCast, Int.toNat_of_nonneg (by omega), zpow_neg, inv_inv]

theorem two_zpow_pos (e : ℤ) : (0 : ℚ) < 2 ^ e := zpow_pos two_pos e

theorem two_zpow_succ (e : ℤ) : (2 : ℚ) ^ (e + 1) = 2 * 2 ^ e := by
  rw [zpow_add_one₀ two_ne_zero, mul_comm]

section Quotients

variable {num den : ℕ}

/-- Scaling and rounding is rounding the quotient of the powers. -/
theorem nearest_scaled (num : ℕ) (hden : 0 < den) (e : ℤ) :
    Nearest ((num : ℚ) / den / 2 ^ e) (scaled num den e) := by
  have hsame : scaled num den e =
      roundQuotient (num * 2 ^ (-e).toNat) (den * 2 ^ e.toNat) := by
    unfold scaled
    split
    · have hpos : e.toNat = 0 := by omega
      rw [hpos, pow_zero, mul_one]
      rfl
    · have hneg : (-e).toNat = 0 := by omega
      rw [hneg, pow_zero, mul_one]
      rfl
  have hvalue : (num : ℚ) / den / 2 ^ e =
      (num * 2 ^ (-e).toNat : ℕ) / (den * 2 ^ e.toNat : ℕ) := by
    have hpos : (0 : ℚ) < den := by exact_mod_cast hden
    rw [zpow_eq_div]
    push_cast
    field_simp
  rw [hsame, hvalue]
  exact nearest_roundQuotient _ (by positivity)

/-- The quotient lies in the range of numbers with 53 bits at this exponent. -/
def InBinade (x : ℚ) (e : ℤ) : Prop := 2 ^ 52 * 2 ^ e ≤ x ∧ x < 2 ^ 53 * (2 : ℚ) ^ e

theorem InBinade.unique {x : ℚ} {e e' : ℤ} (h : InBinade x e) (h' : InBinade x e') : e = e' := by
  have hle {a b : ℤ} (ha : InBinade x a) (hb : InBinade x b) : a ≤ b := by
    have hlt : (2 : ℚ) ^ (52 + a) < 2 ^ (53 + b) := by
      rw [zpow_add₀ two_ne_zero, zpow_add₀ two_ne_zero]
      exact lt_of_le_of_lt (by exact_mod_cast ha.1) (by exact_mod_cast hb.2)
    have := (zpow_lt_zpow_iff_right₀ one_lt_two).mp hlt
    omega
  exact le_antisymm (hle h h') (hle h' h)

theorem isShort_iff (num : ℕ) (hden : 0 < den) (e : ℤ) :
    isShort num den e = true ↔ (num : ℚ) / den < 2 ^ 52 * 2 ^ e := by
  have hpos : (0 : ℚ) < den := by exact_mod_cast hden
  rw [isShort, decide_eq_true_eq, zpow_eq_div, div_lt_iff₀ hpos, mul_div_assoc',
    div_mul_eq_mul_div, lt_div_iff₀ (by positivity)]
  constructor
  · intro h
    have hcast : ((num * 2 ^ (-e).toNat : ℕ) : ℚ) < (2 ^ 52 * den * 2 ^ e.toNat : ℕ) := by
      exact_mod_cast h
    push_cast at hcast
    linarith
  · intro h
    have hcast : ((num * 2 ^ (-e).toNat : ℕ) : ℚ) < (2 ^ 52 * den * 2 ^ e.toNat : ℕ) := by
      push_cast
      linarith
    exact_mod_cast hcast

/-- The lengths of two numbers tell their quotient up to a factor of two on either side. -/
theorem quotient_bounds (hnum : 0 < num) (hden : 0 < den) :
    2 ^ 51 * (2 : ℚ) ^ ((Nat.log2 num : ℤ) - Nat.log2 den - 52) < num / den ∧
      (num : ℚ) / den < 2 ^ 53 * 2 ^ ((Nat.log2 num : ℤ) - Nat.log2 den - 52) := by
  have hbounds {n : ℕ} (hn : 0 < n) :
      (2 : ℚ) ^ Nat.log2 n ≤ n ∧ (n : ℚ) < 2 * 2 ^ Nat.log2 n := by
    refine ⟨by exact_mod_cast Nat.log2_self_le hn.ne', ?_⟩
    have hlt : n < 2 * 2 ^ Nat.log2 n := by
      rw [← pow_succ']
      exact Nat.lt_log2_self
    exact_mod_cast hlt
  obtain ⟨hnumLow, hnumHigh⟩ := hbounds hnum
  obtain ⟨hdenLow, hdenHigh⟩ := hbounds hden
  have hpos : (0 : ℚ) < den := by exact_mod_cast hden
  have hpower : (2 : ℚ) ^ ((Nat.log2 num : ℤ) - Nat.log2 den - 52) =
      2 ^ Nat.log2 num / 2 ^ Nat.log2 den / 2 ^ 52 := by
    rw [zpow_sub₀ two_ne_zero, zpow_sub₀ two_ne_zero, zpow_natCast, zpow_natCast]
    rfl
  rw [hpower]
  generalize (2 : ℚ) ^ Nat.log2 den = d at *
  generalize (2 : ℚ) ^ Nat.log2 num = n at *
  have hd : 0 < d := by linarith
  have hn : 0 < n := by
    have : (0 : ℚ) < num := by exact_mod_cast hnum
    linarith
  constructor
  · calc 2 ^ 51 * (n / d / 2 ^ 52) = n / (2 * d) := by ring
      _ < n / den := div_lt_div_of_pos_left hn hpos hdenHigh
      _ ≤ num / den := div_le_div_of_nonneg_right hnumLow hpos.le
  · calc (num : ℚ) / den < 2 * n / den := div_lt_div_of_pos_right hnumHigh hpos
      _ ≤ 2 * n / d := div_le_div_of_nonneg_left (by linarith) hd hdenLow
      _ = 2 ^ 53 * (n / d / 2 ^ 52) := by ring

theorem inBinade_binaryExponent (hnum : 0 < num) (hden : 0 < den) :
    InBinade (num / den) (binaryExponent num den) := by
  obtain ⟨hlow, hhigh⟩ := quotient_bounds hnum hden
  unfold binaryExponent
  dsimp only
  generalize (Nat.log2 num : ℤ) - Nat.log2 den - 52 = e at *
  split
  · rename_i hshort
    have hless := (isShort_iff num hden e).mp hshort
    have hhalf := two_zpow_succ (e - 1)
    rw [sub_add_cancel] at hhalf
    rw [hhalf] at hlow hless
    constructor
    · linarith
    · linarith
  · rename_i hlong
    have hmore := mt (isShort_iff num hden e).mpr hlong
    exact ⟨not_lt.mp hmore, hhigh⟩

/-! ## Rounding to the format -/

/-- How far below a number, in units of its last place, those lie that are rounded to it. Below a
power of two the neighbour is only half as far. -/
def below (m : ℕ) (e : ℤ) : ℚ := if m = 2 ^ 52 ∧ -1074 < e then 1 / 4 else 1 / 2

/-- What is rounded to `m * 2 ^ e`; the bounds belong to it iff `m` is even. -/
structure IsNear (m : ℕ) (e : ℤ) (x : ℚ) : Prop where
  low : (m - below m e) * 2 ^ e ≤ x
  high : x ≤ (m + 1 / 2) * 2 ^ e
  odd : m % 2 = 1 → (m - below m e) * 2 ^ e < x ∧ x < (m + 1 / 2) * 2 ^ e

/-- A coefficient that was rounded up into a 54th bit, or not. -/
def carried (negative : Bool) (m : ℕ) (e : ℤ) : Binary64 :=
  let (m, e) := if m == 2 ^ 53 then (2 ^ 52, e + 1) else (m, e)
  if 971 < e then .infinite negative else .finite negative m e

theorem ofQuotient_eq (negative : Bool) (hnum : 0 < num) (den : ℕ) :
    ofQuotient negative num den =
      carried negative (scaled num den (max (binaryExponent num den) (-1074)))
        (max (binaryExponent num den) (-1074)) := by
  rw [ofQuotient, if_neg (by simpa using hnum.ne')]
  rfl

theorem below_le (m : ℕ) (e : ℤ) : below m e ≤ 1 / 2 := by
  unfold below
  split
  · norm_num
  · exact le_rfl

/-- At the exponent of a number, what is near to it is rounded to its coefficient. -/
theorem IsNear.nearest {m : ℕ} {e : ℤ} {x : ℚ} (h : IsNear m e x) : Nearest (x / 2 ^ e) m := by
  have hpos := two_zpow_pos e
  have hbelow := below_le m e
  refine ⟨?_, (div_le_iff₀ hpos).mpr h.high,
    fun hodd => ⟨?_, (div_lt_iff₀ hpos).mpr (h.odd hodd).2⟩⟩
  · have := (le_div_iff₀ hpos).mpr h.low
    linarith
  · have := (lt_div_iff₀ hpos).mpr (h.odd hodd).1
    linarith

theorem scaled_of_nearest {m : ℕ} (hden : 0 < den) {e : ℤ}
    (h : Nearest ((num : ℚ) / den / 2 ^ e) m) : scaled num den e = m :=
  (nearest_scaled num hden e).unique h

theorem carried_eq {m : ℕ} {e : ℤ} (negative : Bool) (hm : m < 2 ^ 53) (he : e ≤ 971) :
    carried negative m e = .finite negative m e := by
  rw [carried, beq_eq_false_iff_ne.mpr hm.ne]
  exact if_neg (by omega)

/-- Just below a power of two there is one bit more, and rounding carries it away. -/
theorem ofQuotient_below_power {negative : Bool} {e : ℤ} (hnum : 0 < num) (hden : 0 < den)
    (hleast : -1074 < e) (hmost : e ≤ 971) (hlow : (2 ^ 52 - 1 / 4) * 2 ^ e ≤ (num : ℚ) / den)
    (hhigh : (num : ℚ) / den < 2 ^ 52 * 2 ^ e) :
    ofQuotient negative num den = .finite negative (2 ^ 52) e := by
  have hhalf := two_zpow_succ (e - 1)
  have hpos := two_zpow_pos (e - 1)
  rw [sub_add_cancel] at hhalf
  rw [hhalf] at hlow hhigh
  have hbinade : InBinade (num / den) (e - 1) := by
    constructor
    · linarith
    · linarith
  have hnearest : Nearest ((num : ℚ) / den / 2 ^ (e - 1)) (2 ^ 53) := by
    refine ⟨(le_div_iff₀ hpos).mpr ?_, (div_le_iff₀ hpos).mpr ?_, by simp⟩
    all_goals
      push_cast
      linarith
  rw [ofQuotient_eq negative hnum, (inBinade_binaryExponent hnum hden).unique hbinade,
    max_eq_left (by omega), scaled_of_nearest hden hnearest, carried]
  simp only [beq_self_eq_true, if_true, sub_add_cancel]
  exact if_neg (by omega)

/-- What is near to a number of the format is rounded to it. -/
theorem ofQuotient_of_isNear {negative : Bool} {m : ℕ} {e : ℤ} (hden : 0 < den) (hm : 0 < m)
    (hstored : IsStored (.finite negative m e)) (h : IsNear m e (num / den)) :
    ofQuotient negative num den = .finite negative m e := by
  obtain ⟨hsize, hleast, hmost, hlong⟩ := hstored
  have hpos := two_zpow_pos e
  have hbelow := below_le m e
  have hpositive : (1 : ℚ) ≤ m := by exact_mod_cast hm
  have hless : (m : ℚ) + 1 ≤ 2 ^ 53 := by exact_mod_cast hsize
  have hnum : 0 < num := by
    have hlow : 0 < (m - below m e) * 2 ^ e := mul_pos (by linarith) hpos
    by_contra hzero
    have hquotient : (num : ℚ) / den = 0 := by simp [Nat.eq_zero_of_not_pos hzero]
    have := h.low
    linarith
  have hbinade := inBinade_binaryExponent hnum hden
  have hexponent (hsame : max (binaryExponent num den) (-1074) = e) :
      ofQuotient negative num den = .finite negative m e := by
    rw [ofQuotient_eq negative hnum, hsame, scaled_of_nearest hden h.nearest,
      carried_eq negative hsize hmost]
  by_cases hinside : 2 ^ 52 * 2 ^ e ≤ (num : ℚ) / den
  · have hhere : InBinade (num / den) e := by
      refine ⟨hinside, lt_of_le_of_lt h.high ?_⟩
      exact mul_lt_mul_of_pos_right (by linarith) hpos
    exact hexponent (by rw [hbinade.unique hhere, max_eq_left hleast])
  · have houtside := not_le.mp hinside
    rcases eq_or_lt_of_le hleast with heq | hlt
    · -- there is no smaller exponent to go to
      have hscale : (2 : ℚ) ^ binaryExponent num den < 2 ^ e := by
        have := lt_of_le_of_lt hbinade.1 houtside
        exact lt_of_mul_lt_mul_left this (by positivity)
      have := (zpow_lt_zpow_iff_right₀ one_lt_two).mp hscale
      exact hexponent (by omega)
    · have hpower : m = 2 ^ 52 := by
        have hroom : ((m : ℚ) - below m e) * 2 ^ e < 2 ^ 52 * 2 ^ e := lt_of_le_of_lt h.low houtside
        have hcoefficient := lt_of_mul_lt_mul_right hroom hpos.le
        have hbound : (m : ℚ) < 2 ^ 52 + 1 := by linarith
        have : m < 2 ^ 52 + 1 := by exact_mod_cast hbound
        omega
      have hlow := h.low
      rw [below, if_pos ⟨hpower, hlt⟩, hpower] at hlow
      rw [hpower]
      exact ofQuotient_below_power hnum hden hlt hmost (by exact_mod_cast hlow) houtside

/-- A coefficient that was rounded from one with at most 53 bits. -/
theorem isStored_carried (negative : Bool) {m : ℕ} {e : ℤ} (hm : m ≤ 2 ^ 53) (hleast : -1074 ≤ e)
    (hlong : 2 ^ 52 ≤ m ∨ e = -1074) : IsStored (carried negative m e) := by
  unfold carried
  by_cases hcarry : m = 2 ^ 53
  · simp only [hcarry, beq_self_eq_true, if_true]
    split
    · exact trivial
    · exact ⟨by norm_num, by omega, by omega, .inl le_rfl⟩
  · simp only [beq_eq_false_iff_ne.mpr hcarry, Bool.false_eq_true, if_false]
    split
    · exact trivial
    · exact ⟨by omega, hleast, by omega, hlong⟩

/-- Rounding gives nothing but numbers of the format. -/
theorem isStored_ofQuotient (negative : Bool) (num : ℕ) (hden : 0 < den) :
    IsStored (ofQuotient negative num den) := by
  rcases Nat.eq_zero_or_pos num with rfl | hnum
  · exact ⟨by norm_num, le_rfl, by norm_num, .inr rfl⟩
  rw [ofQuotient_eq negative hnum]
  have hbinade := inBinade_binaryExponent hnum hden
  generalize binaryExponent num den = e at *
  have hnearest := nearest_scaled num hden (max e (-1074))
  have hpos := two_zpow_pos (max e (-1074))
  have hsize : (num : ℚ) / den / 2 ^ max e (-1074) < 2 ^ 53 := by
    have hscale : (2 : ℚ) ^ e ≤ 2 ^ max e (-1074) :=
      zpow_le_zpow_right₀ one_le_two (le_max_left e (-1074))
    rw [div_lt_iff₀ hpos]
    exact hbinade.2.trans_le (mul_le_mul_of_nonneg_left hscale (by positivity))
  refine isStored_carried negative ?_ (le_max_right _ _) ?_
  · have hlow := hnearest.low
    have hbound : (scaled num den (max e (-1074)) : ℚ) < 2 ^ 53 + 1 := by linarith
    have : scaled num den (max e (-1074)) < 2 ^ 53 + 1 := by exact_mod_cast hbound
    omega
  · rcases le_or_gt e (-1074) with hsmall | hlarge
    · exact .inr (max_eq_right hsmall)
    · left
      have hlong : (2 : ℚ) ^ 52 ≤ num / den / 2 ^ max e (-1074) := by
        rw [le_div_iff₀ hpos, max_eq_left hlarge.le]
        exact hbinade.1
      have hhigh := hnearest.high
      have hbound : (2 : ℚ) ^ 52 < scaled num den (max e (-1074)) + 1 := by linarith
      have : 2 ^ 52 < scaled num den (max e (-1074)) + 1 := by exact_mod_cast hbound
      omega

end Quotients

/-! ## Decimals -/

section Decimals

variable {negative : Bool} {digits : ℕ} {power : ℤ}

theorem ten_zpow_pos (k : ℤ) : (0 : ℚ) < 10 ^ k := zpow_pos (by norm_num) k

theorem isStored_ofDecimal (negative : Bool) (digits : ℕ) (power : ℤ) :
    IsStored (ofDecimal negative digits power) := by
  have hzero : IsStored (.finite negative 0 (-1074)) :=
    ⟨by norm_num, le_rfl, by norm_num, .inr rfl⟩
  unfold ofDecimal
  dsimp only
  split
  · exact hzero
  split
  · exact trivial
  split
  · exact hzero
  split
  · exact isStored_ofQuotient _ _ one_pos
  · exact isStored_ofQuotient _ _ (Nat.pow_pos (by decide))

/-- The length of a number in bits tells how large a power of ten it is above. -/
theorem ten_pow_le_of_log2 (hdigits : 0 < digits) : 10 ^ (Nat.log2 digits / 4) ≤ digits :=
  calc 10 ^ (Nat.log2 digits / 4) ≤ 16 ^ (Nat.log2 digits / 4) := Nat.pow_le_pow_left (by decide) _
    _ = 2 ^ (4 * (Nat.log2 digits / 4)) := (pow_mul 2 4 _).symm
    _ ≤ 2 ^ Nat.log2 digits := Nat.pow_le_pow_right (by decide) (by omega)
    _ ≤ digits := Nat.log2_self_le hdigits.ne'

theorem lt_ten_pow_of_log2 (digits : ℕ) : digits < 10 ^ (Nat.log2 digits / 3 + 1) :=
  calc digits < 2 ^ (Nat.log2 digits + 1) := Nat.lt_log2_self
    _ ≤ 2 ^ (3 * (Nat.log2 digits / 3 + 1)) := Nat.pow_le_pow_right (by decide) (by omega)
    _ = 8 ^ (Nat.log2 digits / 3 + 1) := pow_mul 2 3 _
    _ ≤ 10 ^ (Nat.log2 digits / 3 + 1) := Nat.pow_le_pow_left (by decide) _

theorem two_zpow_lt_ten_zpow : (2 : ℚ) ^ (1200 : ℤ) < 10 ^ (400 : ℤ) :=
  calc (2 : ℚ) ^ (1200 : ℤ) = (2 ^ (3 : ℤ)) ^ (400 : ℤ) := zpow_mul 2 3 400
    _ < 10 ^ (400 : ℤ) := zpow_lt_zpow_left₀ (by norm_num) (by norm_num) (by norm_num)

/-- What is near to a number of the format is neither too small nor too large for it. -/
theorem IsNear.bounds {m : ℕ} {e : ℤ} {x : ℚ} (hm : 0 < m)
    (hstored : IsStored (.finite negative m e)) (h : IsNear m e x) :
    (10 : ℚ) ^ (-400 : ℤ) < x ∧ x < (10 : ℚ) ^ (400 : ℤ) := by
  obtain ⟨hsize, hleast, hmost, -⟩ := hstored
  have hpos := two_zpow_pos e
  have hbelow := below_le m e
  have hpositive : (1 : ℚ) ≤ m := by exact_mod_cast hm
  have hless : (m : ℚ) + 1 ≤ 2 ^ 53 := by exact_mod_cast hsize
  have hten := two_zpow_lt_ten_zpow
  constructor
  · calc (10 : ℚ) ^ (-400 : ℤ) < 2 ^ (-1200 : ℤ) := by
          rw [zpow_neg, zpow_neg]
          exact (inv_lt_inv₀ (ten_zpow_pos _) (two_zpow_pos _)).mpr hten
      _ ≤ 2 ^ (e - 1) := zpow_le_zpow_right₀ one_le_two (by omega)
      _ = 1 / 2 * 2 ^ e := by rw [zpow_sub_one₀ two_ne_zero]; ring
      _ ≤ (m - below m e) * 2 ^ e := mul_le_mul_of_nonneg_right (by linarith) hpos.le
      _ ≤ x := h.low
  · calc x ≤ (m + 1 / 2) * 2 ^ e := h.high
      _ ≤ 2 ^ 53 * 2 ^ e := mul_le_mul_of_nonneg_right (by linarith) hpos.le
      _ = 2 ^ (53 + e) := by rw [zpow_add₀ two_ne_zero]; rfl
      _ ≤ 2 ^ (1200 : ℤ) := zpow_le_zpow_right₀ one_le_two (by omega)
      _ < 10 ^ (400 : ℤ) := hten

/-- The shortcuts for decimals far out of range are not taken within the bounds. -/
theorem not_out_of_range (hdigits : 0 < digits)
    (hlow : (10 : ℚ) ^ (-400 : ℤ) < digits * 10 ^ power)
    (hhigh : digits * 10 ^ power < (10 : ℚ) ^ (400 : ℤ)) :
    ¬ 400 < (Nat.log2 digits : ℤ) / 4 + power ∧
      ¬ (Nat.log2 digits : ℤ) / 3 + 1 + power < -400 := by
  have hpos := ten_zpow_pos power
  have hpowers (n : ℕ) : ((10 ^ n : ℕ) : ℚ) * 10 ^ power = 10 ^ (n + power) := by
    rw [zpow_add₀ (by norm_num), zpow_natCast]
    push_cast
    rfl
  constructor
  · intro hover
    have hmany : (10 : ℚ) ^ ((Nat.log2 digits / 4 : ℕ) + power) ≤ digits * 10 ^ power := by
      rw [← hpowers]
      exact mul_le_mul_of_nonneg_right (by exact_mod_cast ten_pow_le_of_log2 hdigits) hpos.le
    have := (zpow_lt_zpow_iff_right₀ (by norm_num)).mp (hmany.trans_lt hhigh)
    omega
  · intro hunder
    have hfew : digits * (10 : ℚ) ^ power < 10 ^ ((Nat.log2 digits / 3 + 1 : ℕ) + power) := by
      rw [← hpowers]
      exact mul_lt_mul_of_pos_right (by exact_mod_cast lt_ten_pow_of_log2 digits) hpos
    have := (zpow_lt_zpow_iff_right₀ (by norm_num)).mp (hlow.trans hfew)
    omega

/-- A decimal that is near to a number of the format is rounded to it. -/
theorem ofDecimal_of_isNear {m : ℕ} {e : ℤ} (hm : 0 < m)
    (hstored : IsStored (.finite negative m e)) (h : IsNear m e (digits * 10 ^ power)) :
    ofDecimal negative digits power = .finite negative m e := by
  obtain ⟨hlow, hhigh⟩ := h.bounds hm hstored
  have hdigits : 0 < digits := by
    by_contra hzero
    rw [Nat.eq_zero_of_not_pos hzero, Nat.cast_zero, zero_mul] at hlow
    exact absurd hlow (not_lt.mpr (ten_zpow_pos _).le)
  obtain ⟨hlarge, hsmall⟩ := not_out_of_range hdigits hlow hhigh
  unfold ofDecimal
  rw [if_neg (by simpa using hdigits.ne'), if_neg hlarge, if_neg hsmall]
  rw [zpow_eq_div] at h
  split
  · refine ofQuotient_of_isNear one_pos hm hstored ?_
    have hneg : (-power).toNat = 0 := by omega
    rw [hneg, pow_zero, div_one] at h
    rw [Nat.cast_one, div_one]
    exact_mod_cast h
  · refine ofQuotient_of_isNear (Nat.pow_pos (by decide)) hm hstored ?_
    have hneg : power.toNat = 0 := by omega
    rw [hneg, pow_zero, mul_one_div] at h
    exact_mod_cast h

end Decimals

end CommitStyle.Number.Binary64
