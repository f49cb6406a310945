import Mathlib.Algebra.Order.Field.Power
import NightWatcher.Lib.Rounding

/-!
# Doubles

A double is the exact rational it stands for, and an operation on doubles is the exact one followed
by rounding to the nearest of them, ties to even (`nearest`). Doubles too small for all their bits
are there; numbers too large for one are not told apart from the others, so a result here is one of
a program only where nothing overflows.

What an operation loses is bounded by its result (`abs_nearest_sub_le`); for numbers up to ten
million it is less than a part in a hundred million (`near_nearest`).
-/

namespace Doubles

open Rounding

/-- The smallest double above zero. -/
def smallest : ℚ := 2 ^ (-1074 : ℤ)

theorem smallest_pos : 0 < smallest := by
  unfold smallest
  positivity

theorem smallest_le : smallest ≤ 1 / 2 ^ 100 := by
  have hmono : (2 : ℚ) ^ (-1074 : ℤ) ≤ 2 ^ (-100 : ℤ) :=
    zpow_le_zpow_right₀ (by norm_num) (by decide)
  unfold smallest
  rw [zpow_neg (2 : ℚ) 100, ← one_div] at hmono
  exact_mod_cast hmono

/-- The exponent of the last bit. -/
def lastBit (q : ℚ) : ℤ := max (Int.log 2 |q| - 52) (-1074)

/-- The double nearest to `q`. -/
def nearest (q : ℚ) : ℚ := roundHalfEven (q / 2 ^ lastBit q) * 2 ^ lastBit q

theorem abs_nearest_sub_le_unit (q : ℚ) : |nearest q - q| ≤ 2 ^ lastBit q / 2 := by
  have hunit : (0 : ℚ) < 2 ^ lastBit q := by positivity
  have hsplit : nearest q - q =
      (roundHalfEven (q / 2 ^ lastBit q) - q / 2 ^ lastBit q) * 2 ^ lastBit q := by
    unfold nearest
    rw [sub_mul, div_mul_cancel₀ _ hunit.ne']
  rw [hsplit, abs_mul, abs_of_pos hunit]
  have hround := abs_roundHalfEven_sub_le (q / 2 ^ lastBit q)
  calc |(roundHalfEven (q / 2 ^ lastBit q) : ℚ) - q / 2 ^ lastBit q| * 2 ^ lastBit q
      ≤ 1 / 2 * 2 ^ lastBit q := mul_le_mul_of_nonneg_right hround hunit.le
    _ = 2 ^ lastBit q / 2 := by ring

/-- A number with no more bits than a double has is one. -/
theorem nearest_eq {q : ℚ} {m : ℤ} (h : q = m * 2 ^ lastBit q) : nearest q = q := by
  have hunit : (2 : ℚ) ^ lastBit q ≠ 0 := by positivity
  have hdiv : q / 2 ^ lastBit q = m := by
    rw [div_eq_iff hunit]
    exact h
  unfold nearest
  rw [hdiv, roundHalfEven_intCast]
  exact h.symm

/-- An operation loses half of the last of 53 bits, or of the last bit there is. -/
theorem abs_nearest_sub_le (q : ℚ) : |nearest q - q| ≤ |q| / 2 ^ 53 + smallest / 2 := by
  rcases eq_or_ne q 0 with rfl | hq
  · have hzero : nearest 0 = 0 := nearest_eq (m := 0) (by simp)
    rw [hzero, sub_zero, abs_zero, zero_div, zero_add]
    exact (half_pos smallest_pos).le
  have hlow : (2 : ℚ) ^ Int.log 2 |q| ≤ |q| := by
    have h := Int.zpow_log_le_self (R := ℚ) (b := 2) (by decide) (abs_pos.mpr hq)
    exact_mod_cast h
  have hpos : (0 : ℚ) ≤ |q| / 2 ^ 53 := by positivity
  refine (abs_nearest_sub_le_unit q).trans ?_
  rcases max_choice (Int.log 2 |q| - 52) (-1074) with hmax | hmax
  · -- all 53 bits are there, the first of them not zero
    have hexponent : Int.log 2 |q| - 52 = Int.log 2 |q| + -(52 : ℤ) := rfl
    have hunit : (2 : ℚ) ^ lastBit q / 2 = 2 ^ Int.log 2 |q| / 2 ^ 53 := by
      unfold lastBit
      rw [hmax, hexponent, zpow_add₀ (by norm_num), zpow_neg]
      norm_num
      ring
    rw [hunit]
    have hle : (2 : ℚ) ^ Int.log 2 |q| / 2 ^ 53 ≤ |q| / 2 ^ 53 :=
      div_le_div_of_nonneg_right hlow (by positivity)
    have hsmall := smallest_pos
    linarith
  · have hunit : (2 : ℚ) ^ lastBit q = smallest := congrArg (2 ^ ·) hmax
    rw [hunit]
    linarith

/-- A whole number of at most 52 bits is a double. -/
theorem nearest_intCast {i : ℤ} (h : |i| ≤ 2 ^ 52) : nearest (i : ℚ) = i := by
  rcases eq_or_ne i 0 with rfl | hi
  · exact nearest_eq (m := 0) (by simp)
  have habs : |(i : ℚ)| ≤ 2 ^ 52 := by exact_mod_cast h
  have hpos : (0 : ℚ) < |(i : ℚ)| := abs_pos.mpr (by exact_mod_cast hi)
  have hlog : Int.log 2 |(i : ℚ)| ≤ 52 := by
    have hmono := Int.log_mono_right (b := 2) hpos habs
    have hpow : Int.log 2 ((2 : ℚ) ^ 52) = 52 := by
      have hz := Int.log_zpow (R := ℚ) (b := 2) (by decide) 52
      exact_mod_cast hz
    exact hpow ▸ hmono
  have hbit : lastBit (i : ℚ) ≤ 0 := max_le (by omega) (by decide)
  obtain ⟨k, hk⟩ := Int.exists_eq_neg_ofNat hbit
  refine nearest_eq (m := i * 2 ^ k) ?_
  rw [hk, zpow_neg]
  push_cast
  field_simp
  rw [zpow_natCast]

/-! ## Chains of operations -/

/-- Up to ten million an operation loses less than a part in a hundred million. -/
theorem near_nearest {x y e : ℚ} (h : |x - y| ≤ e) (hx : |x| ≤ 10000000) :
    |nearest x - y| ≤ e + 1 / 100000000 := by
  have hround := abs_nearest_sub_le x
  have hloss : |x| / 2 ^ 53 + smallest / 2 ≤ 1 / 100000000 := by
    have hle : |x| / 2 ^ 53 ≤ 10000000 / 2 ^ 53 := div_le_div_of_nonneg_right hx (by positivity)
    have hnum : (10000000 : ℚ) / 2 ^ 53 + 1 / 2 ^ 100 ≤ 1 / 100000000 := by norm_num
    have hsmall := smallest_le
    linarith
  have htriangle := abs_sub_le (nearest x) x y
  linarith

/-- A constant of at most two digits before the point is off by less than `10⁻¹⁴`. -/
theorem near_constant {k : ℚ} (h : |k| ≤ 40) : |nearest k - k| ≤ 1 / 100000000000000 := by
  have hround := abs_nearest_sub_le k
  have hle : |k| / 2 ^ 53 ≤ 40 / 2 ^ 53 := div_le_div_of_nonneg_right h (by positivity)
  have hnum : (40 : ℚ) / 2 ^ 53 + 1 / 2 ^ 100 ≤ 1 / 100000000000000 := by norm_num
  have hsmall := smallest_le
  linarith

/-- A product with a constant. -/
theorem near_mul {v k x : ℚ} (hv : |v| ≤ 1000000) (hk : |k| ≤ 40) (hx : v * k = x)
    (hbound : |x| ≤ 1000000) :
    |nearest (v * nearest k) - x| ≤ 1 / 10000000 := by
  have hconst := near_constant hk
  have hoff : |v * nearest k - x| ≤ 1 / 100000000 := by
    rw [← hx, ← mul_sub, abs_mul]
    have hprod : |v| * |nearest k - k| ≤ 1000000 * (1 / 100000000000000) :=
      mul_le_mul hv hconst (abs_nonneg _) (by norm_num)
    linarith
  have hsize : |v * nearest k| ≤ 10000000 := by
    have htriangle := abs_sub_abs_le_abs_sub (v * nearest k) x
    linarith
  have hnear := near_nearest hoff hsize
  linarith

/-- A quotient by a constant. -/
theorem near_div {v k x : ℚ} (hk : 1 ≤ k ∧ k ≤ 40) (hx : x * k = v) (hbound : |x| ≤ 1000000) :
    |nearest (v / nearest k) - x| ≤ 1 / 10000000 := by
  have hconst := near_constant (abs_le.mpr ⟨by linarith [hk.1], hk.2⟩)
  have hlarge : 1 / 2 ≤ nearest k := by
    have hlow := (abs_le.mp hconst).1
    linarith [hk.1]
  have hpos : (0 : ℚ) < nearest k := by linarith
  have hoff : |v / nearest k - x| ≤ 1 / 10000000 / 2 := by
    have hsplit : v / nearest k - x = x * (k - nearest k) / nearest k := by
      rw [← hx]
      field_simp
    rw [hsplit, abs_div, abs_mul, abs_of_pos hpos, div_le_iff₀ hpos, abs_sub_comm k]
    have hprod : |x| * |nearest k - k| ≤ 1000000 * (1 / 100000000000000) :=
      mul_le_mul hbound hconst (abs_nonneg _) (by norm_num)
    linarith
  have hsize : |v / nearest k| ≤ 10000000 := by
    have htriangle := abs_sub_abs_le_abs_sub (v / nearest k) x
    linarith
  have hnear := near_nearest hoff hsize
  linarith

end Doubles
