import Mathlib.Data.Int.Log
import Mathlib.Data.Rat.Floor
import Mathlib.Tactic.FieldSimp
import Mathlib.Tactic.Linarith
import Mathlib.Tactic.Positivity
import Mathlib.Tactic.Ring

/-!
# Rounding exact decimals

Numbers are exact rationals here, and the conversions that print them round to
the nearest printable value, ties to even: `toDecimals` is `%.nf`,
`toSignificant` is the default format of an output stream.
-/

namespace Rounding

/-- The nearest integer, of two the even one. -/
def roundHalfEven (q : ℚ) : Int :=
  let f := ⌊q⌋
  if q - f < 1 / 2 then f
  else if 1 / 2 < q - f then f + 1
  else if f % 2 = 0 then f else f + 1

/-- `q` to `n` decimals. -/
def toDecimals (n : Nat) (q : ℚ) : ℚ := roundHalfEven (q * 10 ^ n) / 10 ^ n

/-- `q` to `p` significant digits. -/
def toSignificant (p : Nat) (q : ℚ) : ℚ :=
  if q = 0 then 0
  else
    let unit : ℚ := 10 ^ (Int.log 10 |q| + 1 - p)
    roundHalfEven (q / unit) * unit

/-- Rounding moves a number by at most a half. -/
theorem abs_roundHalfEven_sub_le (q : ℚ) : |(roundHalfEven q : ℚ) - q| ≤ 1 / 2 := by
  have h0 := Int.floor_le q
  have h1 := Int.lt_floor_add_one q
  unfold roundHalfEven
  rw [abs_le]
  simp only
  split
  next h => constructor <;> linarith
  next h =>
    split
    next h' => push_cast; constructor <;> linarith
    next h' =>
      split
      next => constructor <;> linarith
      next => push_cast; constructor <;> linarith

/-- An integer is rounded to itself. -/
theorem roundHalfEven_intCast (n : Int) : roundHalfEven n = n := by
  unfold roundHalfEven
  rw [Int.floor_intCast]
  norm_num

/-- Rounding keeps the sign. -/
theorem roundHalfEven_nonneg {q : ℚ} (h : 0 ≤ q) : 0 ≤ roundHalfEven q := by
  have hfloor : 0 ≤ ⌊q⌋ := Int.floor_nonneg.mpr h
  unfold roundHalfEven
  dsimp only
  split
  · exact hfloor
  · split
    · omega
    · split <;> omega

/-- Rounding does not depend on the sign. -/
theorem roundHalfEven_neg (q : ℚ) : roundHalfEven (-q) = -roundHalfEven q := by
  have h0 := Int.floor_le q
  have h1 := Int.lt_floor_add_one q
  by_cases hint : q = ⌊q⌋
  · rw [hint, ← Int.cast_neg, roundHalfEven_intCast, roundHalfEven_intCast]
  · have hfloor : ⌊-q⌋ = -⌊q⌋ - 1 := by
      have hlt : (⌊q⌋ : ℚ) < q := lt_of_le_of_ne h0 fun h => hint h.symm
      rw [Int.floor_eq_iff]
      push_cast
      constructor <;> linarith
    unfold roundHalfEven
    rw [hfloor]
    push_cast
    rcases lt_trichotomy (q - ⌊q⌋) (1 / 2) with hlow | hhalf | hhigh
    · rw [if_neg (by linarith), if_pos (by linarith), if_pos hlow]
      omega
    · rw [if_neg (show ¬-q - (-(⌊q⌋ : ℚ) - 1) < 1 / 2 by linarith),
        if_neg (show ¬1 / 2 < -q - (-(⌊q⌋ : ℚ) - 1) by linarith),
        if_neg (show ¬q - (⌊q⌋ : ℚ) < 1 / 2 by linarith),
        if_neg (show ¬1 / 2 < q - (⌊q⌋ : ℚ) by linarith)]
      split <;> split <;> omega
    · rw [if_pos (by linarith), if_neg (by linarith), if_pos hhigh]
      omega

/-- Rounding to decimals is symmetric. -/
theorem toDecimals_neg (n : Nat) (q : ℚ) : toDecimals n (-q) = -toDecimals n q := by
  unfold toDecimals
  rw [neg_mul, roundHalfEven_neg, Int.cast_neg, neg_div]

/-- So is rounding to significant digits. -/
theorem toSignificant_neg (p : Nat) (q : ℚ) : toSignificant p (-q) = -toSignificant p q := by
  unfold toSignificant
  dsimp only
  rw [abs_neg]
  by_cases hq : q = 0
  · simp [hq]
  · rw [if_neg hq, if_neg (neg_ne_zero.mpr hq), neg_div, roundHalfEven_neg, Int.cast_neg, neg_mul]

/-! ## Significant digits of a number of a scale -/

/-- A number of at most `p` digits, with zeros behind them perhaps. -/
def Significant (p n : Nat) : Prop := ∃ m < 10 ^ p, ∃ k, n = m * 10 ^ k

/-- How many places of `n` are behind the first `p`. -/
def excess (p n : Nat) : Nat := Nat.log 10 n + 1 - p

/-- What is left of `n` where it is rounded to `p` significant digits. -/
def keptDigits (p n : Nat) : Int := roundHalfEven ((n : ℚ) / 10 ^ excess p n) * 10 ^ excess p n

/-- A number of at most `p` digits has `p` significant ones. -/
theorem significant_of_lt {p n : Nat} (h : n < 10 ^ p) : Significant p n :=
  ⟨n, h, 0, (Nat.mul_one n).symm⟩

/-- The digits in excess of `p` are zeros. -/
theorem significant_iff_dvd {p n : Nat} : Significant p n ↔ 10 ^ excess p n ∣ n := by
  unfold excess
  rcases Nat.eq_zero_or_pos n with rfl | hn
  · exact ⟨fun _ => dvd_zero _, fun _ => significant_of_lt (by positivity)⟩
  constructor
  · rintro ⟨m, hm, k, rfl⟩
    have hlt : m * 10 ^ k < 10 ^ (p + k) := by
      rw [Nat.pow_add]
      exact Nat.mul_lt_mul_of_pos_right hm (by positivity)
    have hlog := Nat.log_lt_of_lt_pow hn.ne' hlt
    exact (Nat.pow_dvd_pow 10 (by omega)).mul_left m
  · rintro ⟨m, hm⟩
    generalize hk : Nat.log 10 n + 1 - p = k at hm
    refine ⟨m, ?_, k, by rw [Nat.mul_comm]; exact hm⟩
    have hlt : n < 10 ^ (p + k) :=
      (Nat.lt_pow_succ_log_self (by decide) n).trans_le (Nat.pow_le_pow_right (by decide) (by omega))
    rw [Nat.pow_add, Nat.mul_comm] at hlt
    rw [hm] at hlt
    exact Nat.lt_of_mul_lt_mul_left hlt

/-- Keeping `p` digits keeps the number exactly when no other is needed. -/
theorem keptDigits_eq_iff {p n : Nat} : keptDigits p n = n ↔ Significant p n := by
  rw [significant_iff_dvd]
  unfold keptDigits
  constructor
  · intro h
    refine Int.natCast_dvd_natCast.mp ⟨roundHalfEven ((n : ℚ) / 10 ^ excess p n), ?_⟩
    rw [← h]
    push_cast
    ring
  · rintro ⟨m, hm⟩
    have hdiv : (n : ℚ) / 10 ^ excess p n = (m : ℤ) := by
      generalize excess p n = k at hm
      rw [hm]
      push_cast
      field_simp
    rw [hdiv, roundHalfEven_intCast, Int.mul_comm]
    exact_mod_cast hm.symm

/-- The order of magnitude of a number with decimals. -/
theorem log_scaled {n : Nat} (hn : 0 < n) (s : Nat) :
    Int.log 10 ((n : ℚ) / 10 ^ s) = Nat.log 10 n - s := by
  have hpow : (0 : ℚ) < 10 ^ s := by positivity
  have hq : (0 : ℚ) < n / 10 ^ s := by positivity
  have hlow : (10 : ℚ) ^ Nat.log 10 n ≤ n := by exact_mod_cast Nat.pow_log_le_self 10 hn.ne'
  have hhigh : (n : ℚ) < 10 ^ (Nat.log 10 n + 1) := by
    exact_mod_cast Nat.lt_pow_succ_log_self (by decide) n
  have hle : (Nat.log 10 n : ℤ) - s ≤ Int.log 10 ((n : ℚ) / 10 ^ s) := by
    rw [← Int.zpow_le_iff_le_log (by decide) hq, Nat.cast_ofNat, zpow_sub₀ (by norm_num), zpow_natCast,
      zpow_natCast]
    exact div_le_div_of_nonneg_right hlow hpow.le
  have hlt : Int.log 10 ((n : ℚ) / 10 ^ s) < (Nat.log 10 n + 1 : ℕ) - s := by
    rw [← Int.lt_zpow_iff_log_lt (by decide) hq, Nat.cast_ofNat, zpow_sub₀ (by norm_num), zpow_natCast,
      zpow_natCast]
    exact div_lt_div_of_pos_right hhigh hpow
  omega

/-- Which digits are kept does not depend on where the point is. -/
theorem toSignificant_scaled (p n s : Nat) :
    toSignificant p ((n : ℚ) / 10 ^ s) = keptDigits p n / 10 ^ s := by
  unfold toSignificant keptDigits
  dsimp only
  rcases Nat.eq_zero_or_pos n with rfl | hn
  · simp [roundHalfEven]
  have hq : (0 : ℚ) < n / 10 ^ s := by positivity
  rw [if_neg hq.ne', abs_of_pos hq, log_scaled hn]
  unfold excess
  rcases Nat.le_total (Nat.log 10 n + 1) p with hle | hge
  · -- all places are among the first
    obtain ⟨k, rfl⟩ := Nat.exists_eq_add_of_le hle
    have hunit : (10 : ℚ) ^ ((Nat.log 10 n : ℤ) - s + 1 - (Nat.log 10 n + 1 + k : ℕ))
        = 1 / (10 ^ s * 10 ^ k) := by
      have hexponent : (Nat.log 10 n : ℤ) - s + 1 - (Nat.log 10 n + 1 + k : ℕ) =
          -((s + k : ℕ) : ℤ) := by
        push_cast
        ring
      rw [hexponent, zpow_neg, zpow_natCast, pow_add, one_div]
    have hscaled : (n : ℚ) / 10 ^ s / (1 / (10 ^ s * 10 ^ k)) = ((n * 10 ^ k : ℕ) : ℤ) := by
      push_cast
      field_simp
    rw [hunit, hscaled, roundHalfEven_intCast, Nat.sub_eq_zero_of_le hle, pow_zero, div_one,
      ← Int.cast_natCast (R := ℚ) n, roundHalfEven_intCast]
    push_cast
    field_simp
  · obtain ⟨k, hk⟩ := Nat.exists_eq_add_of_le hge
    have hexcess : Nat.log 10 n + 1 - p = k := by omega
    have hunit : (10 : ℚ) ^ ((Nat.log 10 n : ℤ) - s + 1 - p) = 10 ^ k / 10 ^ s := by
      have hexponent : (Nat.log 10 n : ℤ) - s + 1 - p = (k : ℤ) - s := by omega
      rw [hexponent, zpow_sub₀ (by norm_num), zpow_natCast, zpow_natCast]
    have hscaled : (n : ℚ) / 10 ^ s / (10 ^ k / 10 ^ s) = n / 10 ^ k := by field_simp
    rw [hexcess, hunit, hscaled]
    push_cast
    ring

/-- Rounding up does not double a number. -/
theorem abs_keptDigits_le {p : Nat} (hp : 0 < p) (n : Nat) : |keptDigits p n| ≤ 2 * n := by
  rcases Nat.eq_zero_or_pos n with rfl | hn
  · have hzero : keptDigits p 0 = 0 := keptDigits_eq_iff.mpr (significant_of_lt (by positivity))
    rw [hzero]
    rfl
  have hunit : 10 ^ excess p n ≤ n :=
    (Nat.pow_le_pow_right (by decide) (by unfold excess; omega)).trans (Nat.pow_log_le_self 10 hn.ne')
  unfold keptDigits
  generalize excess p n = k at hunit ⊢
  have hpos : (0 : ℚ) < 10 ^ k := by positivity
  have hge : (1 : ℚ) ≤ n / 10 ^ k := by
    rw [le_div_iff₀ hpos, one_mul]
    exact_mod_cast hunit
  have hround := (abs_le.mp (abs_roundHalfEven_sub_le ((n : ℚ) / 10 ^ k))).2
  have hnonneg : 0 ≤ roundHalfEven ((n : ℚ) / 10 ^ k) := roundHalfEven_nonneg (by linarith)
  have htwice : (roundHalfEven ((n : ℚ) / 10 ^ k) : ℚ) ≤ 2 * n / 10 ^ k := by
    rw [mul_div_assoc]
    linarith
  rw [le_div_iff₀ hpos] at htwice
  rw [abs_of_nonneg (mul_nonneg hnonneg (by positivity))]
  exact_mod_cast htwice

end Rounding
