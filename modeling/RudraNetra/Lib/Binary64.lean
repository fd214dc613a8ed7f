/-
Numbers of 53 significant bits.

The result of an operation on binary64 numbers is the exact one, rounded to the nearest such
number, and from the middle between two of them to the even one (`nearest`).  Numbers are rational
here and have no upper limit.

A rounded number is a multiple of the distance `ulp` of the numbers around the exact one, it is
off by half of that at most (`nearest_error`), and rounding passes no integer that is not too large
(`le_nearest_of_int_le`, `nearest_le_of_le_int`).
-/
import Mathlib

namespace Binary64

/-- The nearest integer, and of two that are as near the even one. -/
def roundEven (x : ℚ) : ℤ :=
  if x - ⌊x⌋ < 1 / 2 ∨ x - ⌊x⌋ = 1 / 2 ∧ ⌊x⌋ % 2 = 0 then ⌊x⌋ else ⌊x⌋ + 1

/-- The distance of the numbers around `x`, whose least is `2 ^ (-1074)`. -/
def ulp (x : ℚ) : ℚ := 2 ^ max (Int.log 2 |x| - 52) (-1074)

/-- The number nearest to `x`. -/
def nearest (x : ℚ) : ℚ := roundEven (x / ulp x) * ulp x

example : nearest (1 / 10) = 3602879701896397 / 2 ^ 55 := by decide +kernel

/-! ### The nearest integer -/

theorem roundEven_error (x : ℚ) : |roundEven x - x| ≤ 1 / 2 := by
  have hlow := Int.floor_le x
  have hhigh := Int.lt_floor_add_one x
  unfold roundEven
  split
  · rename_i h
    rw [abs_le]
    rcases h with h | ⟨h, -⟩ <;> constructor <;> linarith
  · rename_i h
    have hmiddle : 1 / 2 ≤ x - ⌊x⌋ := not_lt.mp fun hlt => h (.inl hlt)
    rw [abs_le]
    push_cast
    constructor <;> linarith

theorem le_roundEven {n : ℤ} {x : ℚ} (h : n ≤ x) : n ≤ roundEven x := by
  have hfloor := Int.le_floor.mpr h
  unfold roundEven
  split <;> omega

theorem roundEven_le {n : ℤ} {x : ℚ} (h : x ≤ n) : roundEven x ≤ n := by
  unfold roundEven
  split
  · exact_mod_cast (Int.floor_le x).trans h
  · rename_i hup
    have hne : x ≠ n := by
      rintro rfl
      simp at hup
    exact Int.floor_lt.mpr (lt_of_le_of_ne h hne)

theorem roundEven_intCast (n : ℤ) : roundEven n = n :=
  le_antisymm (roundEven_le le_rfl) (le_roundEven le_rfl)

theorem roundEven_neg (x : ℚ) : roundEven (-x) = -roundEven x := by
  by_cases hint : x = ⌊x⌋
  · rw [hint]
    rw [← Int.cast_neg, roundEven_intCast, roundEven_intCast]
  · have hlow : (⌊x⌋ : ℚ) < x := lt_of_le_of_ne (Int.floor_le x) (Ne.symm hint)
    have hfloor : ⌊-x⌋ = -⌊x⌋ - 1 := by
      rw [Int.floor_eq_iff]
      push_cast
      constructor <;> linarith [Int.lt_floor_add_one x]
    unfold roundEven
    rw [hfloor]
    push_cast
    split_ifs <;> grind

/-! ### Rounding -/

theorem ulp_pos (x : ℚ) : 0 < ulp x := by
  unfold ulp
  positivity

@[simp] theorem ulp_neg (x : ℚ) : ulp (-x) = ulp x := by simp [ulp]

@[simp] theorem nearest_neg (x : ℚ) : nearest (-x) = -nearest x := by
  rw [nearest, ulp_neg, neg_div, roundEven_neg, nearest]
  push_cast
  ring

/-- The distance is known from the powers of two around a number. -/
theorem ulp_eq {k : ℤ} {x : ℚ} (hk : -1022 ≤ k) (hlow : 2 ^ k ≤ |x|) (hhigh : |x| < 2 ^ (k + 1)) :
    ulp x = 2 ^ (k - 52) := by
  have hpos : 0 < |x| := lt_of_lt_of_le (by positivity) hlow
  have hge : k ≤ Int.log 2 |x| :=
    (Int.zpow_le_iff_le_log (by norm_num) hpos).mp (by exact_mod_cast hlow)
  have hlt : Int.log 2 |x| < k + 1 :=
    (Int.lt_zpow_iff_log_lt (by norm_num) hpos).mp (by exact_mod_cast hhigh)
  rw [ulp, show max (Int.log 2 |x| - 52) (-1074) = k - 52 by omega]

theorem ulp_le {k : ℤ} {x : ℚ} (hk : -1022 ≤ k) (hx : x ≠ 0) (hhigh : |x| < 2 ^ (k + 1)) :
    ulp x ≤ 2 ^ (k - 52) := by
  have hlt : Int.log 2 |x| < k + 1 :=
    (Int.lt_zpow_iff_log_lt (by norm_num) (abs_pos.mpr hx)).mp (by exact_mod_cast hhigh)
  exact zpow_le_zpow_right₀ (by norm_num) (by omega)

theorem nearest_error (x : ℚ) : |nearest x - x| ≤ ulp x / 2 := by
  have hpos := ulp_pos x
  have herror : nearest x - x = (roundEven (x / ulp x) - x / ulp x) * ulp x := by
    rw [nearest, sub_mul, div_mul_cancel₀ x hpos.ne']
  rw [herror, abs_mul, abs_of_pos hpos]
  calc |roundEven (x / ulp x) - x / ulp x| * ulp x ≤ 1 / 2 * ulp x :=
        mul_le_mul_of_nonneg_right (roundEven_error _) hpos.le
    _ = ulp x / 2 := by ring

/-- Around numbers that are not too large, integers are multiples of the distance. -/
theorem exists_intCast_eq_mul_ulp (n : ℤ) {x : ℚ} (hx : |x| < 2 ^ 53) :
    ∃ m : ℤ, (n : ℚ) = m * ulp x := by
  have hlog : Int.log 2 |x| < 53 := by
    by_cases h0 : x = 0
    · simp [h0]
    · exact (Int.lt_zpow_iff_log_lt (by norm_num) (abs_pos.mpr h0)).mp (by exact_mod_cast hx)
  obtain ⟨j, hj⟩ : ∃ j : ℕ, max (Int.log 2 |x| - 52) (-1074) = -j :=
    ⟨(-max (Int.log 2 |x| - 52) (-1074)).toNat, by omega⟩
  refine ⟨n * 2 ^ j, ?_⟩
  rw [ulp, hj, zpow_neg, zpow_natCast]
  push_cast
  field_simp

theorem le_nearest_of_int_le {n : ℤ} {x : ℚ} (hx : |x| < 2 ^ 53) (h : n ≤ x) : n ≤ nearest x := by
  obtain ⟨m, hm⟩ := exists_intCast_eq_mul_ulp n hx
  have hpos := ulp_pos x
  have hle : m ≤ roundEven (x / ulp x) := le_roundEven ((le_div_iff₀ hpos).mpr (hm ▸ h))
  rw [hm, nearest]
  exact mul_le_mul_of_nonneg_right (by exact_mod_cast hle) hpos.le

theorem nearest_le_of_le_int {n : ℤ} {x : ℚ} (hx : |x| < 2 ^ 53) (h : x ≤ n) : nearest x ≤ n := by
  rw [← neg_le_neg_iff, ← nearest_neg]
  exact_mod_cast le_nearest_of_int_le (n := -n) (by rwa [abs_neg]) (by push_cast; linarith)

/-- Integers are not rounded. -/
theorem nearest_intCast {n : ℤ} (hn : |(n : ℚ)| < 2 ^ 53) : nearest n = n :=
  le_antisymm (nearest_le_of_le_int hn le_rfl) (le_nearest_of_int_le hn le_rfl)

/-! ### Close to an integer -/

section Close

variable {n : ℤ} {k : ℕ} {x : ℚ}

theorem zpow_sub_52 (k : ℕ) : (2 : ℚ) ^ ((k : ℤ) - 52) = 2 ^ k / 2 ^ 52 := by
  rw [zpow_sub₀ two_ne_zero, zpow_natCast]
  norm_num

theorem ulp_eq_of_between (hlow : 2 ^ k ≤ x) (hhigh : x < 2 ^ (k + 1)) :
    ulp x = 2 ^ k / 2 ^ 52 := by
  have hpos : 0 ≤ x := le_trans (by positivity) hlow
  rw [ulp_eq (k := k) (by omega), zpow_sub_52]
  · rwa [abs_of_nonneg hpos, zpow_natCast]
  · rw [abs_of_nonneg hpos]
    exact_mod_cast hhigh

theorem ulp_le_of_lt (hx : 0 ≤ x) (hhigh : x < 2 ^ (k + 1)) : ulp x ≤ 2 ^ k / 2 ^ 52 := by
  rcases hx.eq_or_lt with rfl | hpos
  · have hone : (1 : ℚ) ≤ 2 ^ k := one_le_pow₀ (by norm_num)
    norm_num [ulp]
    linarith
  · rw [← zpow_sub_52]
    refine ulp_le (by omega) hpos.ne' ?_
    rw [abs_of_pos hpos]
    exact_mod_cast hhigh

/-- A rounded number below an integer is so by the distance at least. -/
theorem nearest_le_of_lt (hk : k ≤ 52) (hlow : 2 ^ k ≤ x) (hhigh : x < 2 ^ (k + 1))
    (hlt : nearest x < n) : nearest x ≤ n - 2 ^ k / 2 ^ 52 := by
  have hpow : (2 : ℚ) ^ (k + 1) ≤ 2 ^ 53 := pow_le_pow_right₀ (by norm_num) (by omega)
  have habs : |x| < 2 ^ 53 := by
    rw [abs_of_nonneg (le_trans (by positivity) hlow)]
    exact hhigh.trans_le hpow
  obtain ⟨m, hm⟩ := exists_intCast_eq_mul_ulp n habs
  have hulp := ulp_eq_of_between hlow hhigh
  have hpos := ulp_pos x
  rw [hm, nearest] at hlt
  have hint : roundEven (x / ulp x) + 1 ≤ m := by
    exact_mod_cast lt_of_mul_lt_mul_right hlt hpos.le
  have hint' : ((roundEven (x / ulp x) : ℚ) + 1) * ulp x ≤ m * ulp x :=
    mul_le_mul_of_nonneg_right (by exact_mod_cast hint) hpos.le
  rw [hm, nearest, ← hulp]
  linarith

/-- From less than half the distance below an integer, it is the nearest. -/
theorem nearest_eq_intCast (hk : k ≤ 50) (hlow : 2 ^ k < n) (hhigh : n < 2 ^ (k + 1)) (hx : x ≤ n)
    (hclose : n - 2 ^ k / 2 ^ 53 < x) : nearest x = n := by
  have hpow : (2 : ℚ) ^ k ≤ 2 ^ 50 := pow_le_pow_right₀ (by norm_num) hk
  have hlow' : (2 : ℚ) ^ k + 1 ≤ n := by exact_mod_cast hlow
  have hhigh' : (n : ℚ) < 2 ^ (k + 1) := by exact_mod_cast hhigh
  have hlowx : 2 ^ k ≤ x := by linarith
  have hhighx : x < 2 ^ (k + 1) := hx.trans_lt hhigh'
  have herror := abs_le.mp (nearest_error x)
  rw [ulp_eq_of_between hlowx hhighx] at herror
  refine le_antisymm (nearest_le_of_le_int ?_ hx) (not_lt.mp fun hlt => ?_)
  · rw [abs_of_nonneg (le_trans (by positivity) hlowx)]
    rw [pow_succ] at hhighx
    linarith
  · have hle := nearest_le_of_lt (hk.trans (by norm_num)) hlowx hhighx hlt
    linarith [herror.1]

/-- From further below, a number below it is. -/
theorem nearest_le_sub_ulp (hk : k ≤ 50) (hlow : 2 ^ k < n) (hhigh : n < 2 ^ (k + 1)) (hx : 0 ≤ x)
    (hfar : x < n - 2 ^ k / 2 ^ 53) : nearest x ≤ n - 2 ^ k / 2 ^ 52 := by
  have hpow : (2 : ℚ) ^ k ≤ 2 ^ 50 := pow_le_pow_right₀ (by norm_num) hk
  have hpos : (0 : ℚ) < 2 ^ k := by positivity
  have hlow' : (2 : ℚ) ^ k + 1 ≤ n := by exact_mod_cast hlow
  have hhigh' : (n : ℚ) < 2 ^ (k + 1) := by exact_mod_cast hhigh
  have hhighx : x < 2 ^ (k + 1) := by linarith
  have herror := abs_le.mp (nearest_error x)
  have hulp := ulp_le_of_lt hx hhighx
  by_cases hlowx : 2 ^ k ≤ x
  · refine nearest_le_of_lt (hk.trans (by norm_num)) hlowx hhighx ?_
    linarith [herror.2]
  · linarith [herror.2]

end Close

end Binary64
