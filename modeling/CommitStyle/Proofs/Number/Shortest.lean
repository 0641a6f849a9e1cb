import CommitStyle.Proofs.Number.Rounding
import Mathlib.Data.Nat.Cast.Order.Field

/-! The digits that a floating number is written with round back to it. The search goes to
grids so fine that the multiple next above the number is nearer to it than half a unit in
its last place, so it finds digits at the latest there; and whatever it finds is near to
the number by its own test. -/

namespace CommitStyle.Number.Binary64

/-! ## The bounds of a basin -/

section Bounds

variable {a d n : ℕ} {k : ℤ}

/-- The tests on whole numbers compare a quotient with a decimal. -/
theorem quotient_le_decimal (hd : 0 < d) :
    a * 10 ^ (-k).toNat ≤ n * 10 ^ k.toNat * d ↔ (a : ℚ) / d ≤ n * 10 ^ k := by
  have hpos : (0 : ℚ) < d := by exact_mod_cast hd
  rw [zpow_eq_div, div_le_iff₀ hpos, mul_div_assoc', div_mul_eq_mul_div,
    le_div_iff₀ (by positivity)]
  exact_mod_cast Iff.rfl

theorem decimal_le_quotient (hd : 0 < d) :
    n * 10 ^ k.toNat * d ≤ a * 10 ^ (-k).toNat ↔ (n : ℚ) * 10 ^ k ≤ a / d := by
  have hpos : (0 : ℚ) < d := by exact_mod_cast hd
  rw [zpow_eq_div, le_div_iff₀ hpos, mul_div_assoc', div_mul_eq_mul_div,
    div_le_iff₀ (by positivity)]
  exact_mod_cast Iff.rfl

end Bounds

section Basins

variable {m : ℕ} {e : ℤ}

theorem basin_den_pos (m : ℕ) (e : ℤ) : 0 < (basin m e).den :=
  Nat.mul_pos (by decide) (Nat.pow_pos (by decide))

/-- A count of quarters of the last place, over the denominator of the basin. -/
theorem quarters (m : ℕ) (e : ℤ) (a : ℕ) :
    ((a * 2 ^ e.toNat : ℕ) : ℚ) / (basin m e).den = a / 4 * 2 ^ e := by
  have hden : ((basin m e).den : ℚ) = 4 * 2 ^ (-e).toNat := by
    show ((4 * 2 ^ (-e).toNat : ℕ) : ℚ) = _
    push_cast
    rfl
  rw [hden, zpow_eq_div 2 e]
  push_cast
  field_simp

theorem basin_value (m : ℕ) (e : ℤ) : ((basin m e).value : ℚ) / (basin m e).den = m * 2 ^ e := by
  show ((4 * m * 2 ^ e.toNat : ℕ) : ℚ) / _ = _
  rw [quarters]
  push_cast
  ring

theorem basin_high (m : ℕ) (e : ℤ) :
    ((basin m e).high : ℚ) / (basin m e).den = (m + 1 / 2) * 2 ^ e := by
  show (((4 * m + 2) * 2 ^ e.toNat : ℕ) : ℚ) / _ = _
  rw [quarters]
  push_cast
  ring

theorem basin_low (hm : 0 < m) (e : ℤ) :
    ((basin m e).low : ℚ) / (basin m e).den = (m - below m e) * 2 ^ e := by
  have hcut (cut : ℕ) (hcut : cut ≤ 4 * m)
      (hlow : (basin m e).low = (4 * m - cut) * 2 ^ e.toNat) :
      ((basin m e).low : ℚ) / (basin m e).den = (m - cut / 4) * 2 ^ e := by
    rw [hlow, quarters, Nat.cast_sub hcut]
    push_cast
    ring
  unfold below
  by_cases hpower : m = 2 ^ 52 ∧ -1074 < e
  · rw [if_pos hpower, hcut 1 (by omega) (by simp [basin, hpower])]
    norm_num
  · have hstep : (m == Nat.pow 2 52 && -1074 < e) = false := by
      rw [Bool.eq_false_iff]
      intro h
      rw [Bool.and_eq_true, beq_iff_eq, decide_eq_true_eq] at h
      exact hpower h
    rw [if_neg hpower, hcut 2 (by omega) (by rw [basin, hstep]; rfl)]
    norm_num

/-- What the basin holds is near to the number. -/
theorem isNear_of_holds {n : ℕ} {k : ℤ} (hm : 0 < m) (h : (basin m e).holds n k = true) :
    IsNear m e (n * 10 ^ k) := by
  have hden := basin_den_pos m e
  have hclosed : (basin m e).closed = (m % 2 == 0) := rfl
  unfold Basin.holds at h
  rw [hclosed] at h
  by_cases heven : m % 2 = 0
  · simp only [heven, beq_self_eq_true, if_true, Bool.and_eq_true, decide_eq_true_eq] at h
    have hlow := (quotient_le_decimal hden).mp h.1
    have hhigh := (decimal_le_quotient hden).mp h.2
    rw [basin_low hm] at hlow
    rw [basin_high] at hhigh
    exact ⟨hlow, hhigh, fun hodd => by omega⟩
  · simp only [beq_eq_false_iff_ne.mpr heven, Bool.false_eq_true, if_false, Bool.and_eq_true,
      decide_eq_true_eq] at h
    have hlow := not_le.mp (mt (decimal_le_quotient hden).mpr (not_le.mpr h.1))
    have hhigh := not_le.mp (mt (quotient_le_decimal hden).mpr (not_le.mpr h.2))
    rw [basin_low hm] at hlow
    rw [basin_high] at hhigh
    exact ⟨hlow.le, hhigh.le, fun _ => ⟨hlow, hhigh⟩⟩

/-- What is strictly between the bounds is held. -/
theorem holds_of_between {n : ℕ} {k : ℤ} (hm : 0 < m) (hlow : (m - below m e) * 2 ^ e < n * 10 ^ k)
    (hhigh : n * 10 ^ k < ((m : ℚ) + 1 / 2) * 2 ^ e) : (basin m e).holds n k = true := by
  have hden := basin_den_pos m e
  rw [← basin_low hm] at hlow
  rw [← basin_high] at hhigh
  have hless := not_le.mp (mt (decimal_le_quotient hden).mp (not_le.mpr hlow))
  have hmore := not_le.mp (mt (quotient_le_decimal hden).mp (not_le.mpr hhigh))
  unfold Basin.holds
  dsimp only
  split
  · rw [Bool.and_eq_true, decide_eq_true_eq, decide_eq_true_eq]
    exact ⟨hless.le, hmore.le⟩
  · rw [Bool.and_eq_true, decide_eq_true_eq, decide_eq_true_eq]
    exact ⟨hless, hmore⟩

/-! ## The search -/

theorem onGrid?_eq_some {b : Basin} {k : ℤ} {n : ℕ} (h : b.onGrid? k = some n) :
    n ≠ 0 ∧ b.holds n k = true := by
  unfold Basin.onGrid? at h
  dsimp only at h
  split at h
  · rename_i hfloor hnext
    rw [Bool.and_eq_true, bne_iff_ne] at hfloor
    cases h
    split
    · exact ⟨by omega, hnext⟩
    · exact ⟨hfloor.2, hfloor.1⟩
  · rename_i hfloor hnext
    rw [Bool.and_eq_true, bne_iff_ne] at hfloor
    cases h
    exact ⟨hfloor.2, hfloor.1⟩
  · rename_i hfloor hnext
    cases h
    exact ⟨by omega, hnext⟩
  · cases h

/-- Where the next multiple is held, there is something on the grid. -/
theorem onGrid?_isSome {b : Basin} {k : ℤ} (h : b.holds (b.floor k + 1) k = true) :
    (b.onGrid? k).isSome = true := by
  unfold Basin.onGrid?
  dsimp only
  rw [h]
  split <;> simp_all

/-- A search that comes to a grid with something on it has found something by then. -/
theorem search_found {b : Basin} {tries : ℕ} {k : ℤ} {j : ℕ} (hj : j < tries)
    (h : (b.onGrid? (k - j)).isSome = true) :
    b.onGrid? (b.search tries k).2 = some (b.search tries k).1 := by
  induction tries generalizing k j with
  | zero => omega
  | succ tries ih =>
    rw [Basin.search]
    cases hgrid : b.onGrid? k with
    | some n => exact hgrid
    | none =>
      cases j with
      | zero =>
        rw [Nat.cast_zero, sub_zero, hgrid] at h
        cases h
      | succ j =>
        have hshift : k - 1 - (j : ℤ) = k - (j + 1 : ℕ) := by omega
        exact ih (j := j) (by omega) (by rwa [hshift])

/-! ## How far the search goes -/

/-- The multiple next above a number is above it by no more than the width of the grid. -/
theorem floor_bounds (m : ℕ) (e k : ℤ) :
    (m : ℚ) * 2 ^ e < ((basin m e).floor k + 1 : ℕ) * 10 ^ k ∧
      ((basin m e).floor k : ℚ) * 10 ^ k ≤ m * 2 ^ e := by
  have hvalue := basin_value m e
  have hden := basin_den_pos m e
  unfold Basin.floor
  generalize (basin m e).value = v at *
  generalize (basin m e).den = d at *
  have hpos : 0 < d * 10 ^ k.toNat := Nat.mul_pos hden (Nat.pow_pos (by decide))
  rw [← hvalue]
  constructor
  · have hlt := Nat.lt_mul_div_succ (v * 10 ^ (-k).toNat) hpos
    rw [← not_le, ← decimal_le_quotient hden, not_le]
    calc v * 10 ^ (-k).toNat < _ := hlt
      _ = (v * 10 ^ (-k).toNat / (d * 10 ^ k.toNat) + 1) * 10 ^ k.toNat * d := by ring
  · have hle := Nat.mul_div_le (v * 10 ^ (-k).toNat) (d * 10 ^ k.toNat)
    rw [← decimal_le_quotient hden]
    calc v * 10 ^ (-k).toNat / (d * 10 ^ k.toNat) * 10 ^ k.toNat * d = _ := by ring
      _ ≤ v * 10 ^ (-k).toNat := hle

theorem decimalLength_bounds {n : ℕ} (hn : 0 < n) :
    (10 : ℚ) ^ ((decimalLength n : ℤ) - 1) ≤ n ∧ (n : ℚ) < 10 ^ (decimalLength n : ℤ) := by
  have hlength : 0 < decimalLength n := Nat.length_toDigits_pos
  have hlt {size : ℕ} (hsize : 0 < size) : decimalLength n ≤ size ↔ n < 10 ^ size :=
    Nat.length_toDigits_le_iff (by decide) hsize
  constructor
  · have hpred : (decimalLength n : ℤ) - 1 = (decimalLength n - 1 : ℕ) := by omega
    rw [hpred, zpow_natCast]
    rcases Nat.eq_zero_or_pos (decimalLength n - 1) with hone | hmany
    · rw [hone, pow_zero]
      exact_mod_cast hn
    · have hle := not_lt.mp (mt (hlt hmany).mpr (by omega))
      exact_mod_cast hle
  · rw [zpow_natCast]
    exact_mod_cast (hlt hlength).mp le_rfl

/-- The search begins no more than two powers of ten above the number. -/
theorem top_le (hm : 0 < m) (e : ℤ) : (10 : ℚ) ^ ((basin m e).top - 2) ≤ m * 2 ^ e := by
  have hvalue := basin_value m e
  have hden := basin_den_pos m e
  have hpositive : 0 < (m : ℚ) * 2 ^ e := mul_pos (by exact_mod_cast hm) (two_zpow_pos e)
  unfold Basin.top
  rw [← hvalue] at hpositive ⊢
  generalize (basin m e).value = v at *
  generalize (basin m e).den = d at *
  have hpos : (0 : ℚ) < d := by exact_mod_cast hden
  dsimp only
  split
  · rename_i hwhole
    rw [bne_iff_ne] at hwhole
    calc (10 : ℚ) ^ ((decimalLength (v / d) : ℤ) - 2) ≤ 10 ^ ((decimalLength (v / d) : ℤ) - 1) :=
          zpow_le_zpow_right₀ (by norm_num) (by omega)
      _ ≤ (v / d : ℕ) := (decimalLength_bounds (Nat.pos_of_ne_zero hwhole)).1
      _ ≤ v / d := Nat.cast_div_le
  · rename_i hwhole
    rw [bne_iff_ne, not_not] at hwhole
    have hv : 0 < v := by
      have := (div_pos_iff_of_pos_right hpos).mp hpositive
      exact_mod_cast this
    have hless : v < d := (Nat.div_eq_zero_iff_lt hden).mp hwhole
    have hinverse : d / v < 10 ^ decimalLength (d / v) := by
      have := (decimalLength_bounds (Nat.div_pos hless.le hv)).2
      rw [zpow_natCast] at this
      exact_mod_cast this
    have hbound : d ≤ 10 ^ decimalLength (d / v) * v :=
      calc d ≤ v * (d / v + 1) := (Nat.lt_mul_div_succ d hv).le
        _ ≤ v * 10 ^ decimalLength (d / v) := Nat.mul_le_mul_left v hinverse
        _ = 10 ^ decimalLength (d / v) * v := Nat.mul_comm _ _
    have hexponent : 2 - (decimalLength (d / v) : ℤ) - 2 = -(decimalLength (d / v) : ℤ) := by ring
    rw [hexponent, zpow_neg, zpow_natCast, le_div_iff₀ hpos, inv_mul_le_iff₀ (by positivity)]
    exact_mod_cast hbound

theorem below_pos (m : ℕ) (e : ℤ) : 0 < below m e := by
  unfold below
  split <;> norm_num

/-- The nineteenth grid below the first has a multiple between the number and its bound. -/
theorem holds_next (hm : 0 < m) (hsize : m < 2 ^ 53) (e : ℤ) :
    (basin m e).holds ((basin m e).floor ((basin m e).top - 19) + 1) ((basin m e).top - 19) =
      true := by
  obtain ⟨hnext, hfloor⟩ := floor_bounds m e ((basin m e).top - 19)
  have hpos := two_zpow_pos e
  have hsmall : (m : ℚ) < 2 ^ 53 := by exact_mod_cast hsize
  have hfine : (10 : ℚ) ^ ((basin m e).top - 19) < 1 / 2 * 2 ^ e :=
    calc (10 : ℚ) ^ ((basin m e).top - 19) = 10 ^ ((basin m e).top - 2) * 10 ^ (-17 : ℤ) := by
          rw [← zpow_add₀ (by norm_num)]
          congr 1
          ring
      _ ≤ m * 2 ^ e * 10 ^ (-17 : ℤ) :=
          mul_le_mul_of_nonneg_right (top_le hm e) (ten_zpow_pos _).le
      _ = m * 10 ^ (-17 : ℤ) * 2 ^ e := by ring
      _ < 1 / 2 * 2 ^ e := by
          refine mul_lt_mul_of_pos_right ?_ hpos
          norm_num
          linarith
  refine holds_of_between hm ?_ ?_
  · have hbelow := below_pos m e
    refine lt_trans ?_ hnext
    exact mul_lt_mul_of_pos_right (by linarith) hpos
  · push_cast
    linarith

/-- The digits that are found are near to the number. -/
theorem shortest_isNear (hm : 0 < m) (hsize : m < 2 ^ 53) (e : ℤ) :
    (shortest m e).1 ≠ 0 ∧ IsNear m e ((shortest m e).1 * 10 ^ (shortest m e).2) := by
  have hfound : (basin m e).onGrid? (shortest m e).2 = some (shortest m e).1 :=
    search_found (j := 19) (by decide) (onGrid?_isSome (holds_next hm hsize e))
  obtain ⟨hne, hholds⟩ := onGrid?_eq_some hfound
  exact ⟨hne, isNear_of_holds hm hholds⟩

/-- Dropping zeros changes neither the value nor that there is one. -/
theorem dropZeros_value (fuel : ℕ) {n : ℕ} (hn : n ≠ 0) (k : ℤ) :
    (dropZeros fuel n k).1 ≠ 0 ∧
      ((dropZeros fuel n k).1 : ℚ) * 10 ^ (dropZeros fuel n k).2 = n * 10 ^ k := by
  induction fuel generalizing n k with
  | zero => exact ⟨hn, rfl⟩
  | succ fuel ih =>
    rw [dropZeros]
    split
    · rename_i hzero
      rw [Bool.and_eq_true, bne_iff_ne, beq_iff_eq] at hzero
      obtain ⟨hne, hvalue⟩ := ih (n := n / 10) (by omega) (k + 1)
      refine ⟨hne, ?_⟩
      have hten : (n : ℚ) = 10 * (n / 10 : ℕ) := by
        exact_mod_cast (by omega : n = 10 * (n / 10))
      rw [hvalue, zpow_add_one₀ (by norm_num), hten]
      ring
    · exact ⟨hn, rfl⟩

/-- What a number is written with is a layout of digits that are near to it. -/
theorem text_eq (negative : Bool) (hm : 0 < m) (hsize : m < 2 ^ 53) (e : ℤ) :
    ∃ (n : ℕ) (k : ℤ), n ≠ 0 ∧ IsNear m e (n * 10 ^ k) ∧ text (.finite negative m e) =
      String.ofList (if negative then '-' :: layout (Nat.toDigits 10 n) k
        else layout (Nat.toDigits 10 n) k) := by
  obtain ⟨hne, hnear⟩ := shortest_isNear hm hsize e
  obtain ⟨hdropped, hvalue⟩ := dropZeros_value 400 hne (shortest m e).2
  refine ⟨_, _, hdropped, hvalue ▸ hnear, ?_⟩
  rw [text, beq_eq_false_iff_ne.mpr hm.ne']
  rfl

end Basins

end CommitStyle.Number.Binary64
