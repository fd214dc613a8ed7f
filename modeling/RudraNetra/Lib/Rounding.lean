/-
Rounding to whole numbers, halves away from zero.

Numbers that are rounded one by one need not add up: the difference of two numbers rounds to
the difference of the rounded ones exactly if their errors differ by little enough
(`roundAway_sub_iff`), and their sum to the sum if the errors add up to little enough
(`roundAway_add_iff`).
-/
import Mathlib

/-- The nearest whole number, and of two that are as near the one further from zero. -/
def roundAway (x : ℚ) : ℤ := if 0 ≤ x then ⌊x + 1 / 2⌋ else -⌊-x + 1 / 2⌋

/-- The rounding error. -/
def roundingError (x : ℚ) : ℚ := x - roundAway x

theorem roundAway_eq_iff {x : ℚ} {n : ℤ} : roundAway x = n ↔
    if 0 ≤ x then -(1 / 2) ≤ x - n ∧ x - n < 1 / 2 else -(1 / 2) < x - n ∧ x - n ≤ 1 / 2 := by
  unfold roundAway
  split
  · rw [Int.floor_eq_iff]
    constructor
    · rintro ⟨hle, hlt⟩
      constructor <;> linarith
    · rintro ⟨hle, hlt⟩
      constructor <;> linarith
  · rw [neg_eq_iff_eq_neg, Int.floor_eq_iff]
    push_cast
    constructor
    · rintro ⟨hle, hlt⟩
      constructor <;> linarith
    · rintro ⟨hle, hlt⟩
      constructor <;> linarith

@[simp] theorem roundAway_intCast (n : ℤ) : roundAway n = n := by
  rw [roundAway_eq_iff]
  split <;> norm_num

theorem roundingError_intCast (n : ℤ) : roundingError n = 0 := by simp [roundingError]

theorem roundingError_bounds {x : ℚ} (hx : 0 ≤ x) :
    -(1 / 2) ≤ roundingError x ∧ roundingError x < 1 / 2 := by
  have h := roundAway_eq_iff.mp (rfl : roundAway x = roundAway x)
  rwa [if_pos hx] at h

theorem roundAway_nonneg {x : ℚ} (hx : 0 ≤ x) : 0 ≤ roundAway x := by
  rw [roundAway, if_pos hx]
  exact Int.floor_nonneg.mpr (by linarith)

/-- The errors of two numbers differ by less than one half, or by one half towards zero. -/
def ErrorsClose (x y : ℚ) : Prop :=
  if 0 ≤ x - y then
    -(1 / 2) ≤ roundingError x - roundingError y ∧ roundingError x - roundingError y < 1 / 2
  else
    -(1 / 2) < roundingError x - roundingError y ∧ roundingError x - roundingError y ≤ 1 / 2

/-- **A difference rounds to the difference of the rounded numbers exactly if the errors are close.** -/
theorem roundAway_sub_iff (x y : ℚ) :
    roundAway (x - y) = roundAway x - roundAway y ↔ ErrorsClose x y := by
  have herror : x - y - ((roundAway x - roundAway y : ℤ) : ℚ) =
      roundingError x - roundingError y := by
    unfold roundingError
    push_cast
    ring
  rw [roundAway_eq_iff, herror, ErrorsClose]

/-- The errors of two numbers add up to less than one half, or to one half towards zero. -/
def ErrorsFit (x y : ℚ) : Prop :=
  if 0 ≤ x + y then
    -(1 / 2) ≤ roundingError x + roundingError y ∧ roundingError x + roundingError y < 1 / 2
  else
    -(1 / 2) < roundingError x + roundingError y ∧ roundingError x + roundingError y ≤ 1 / 2

/-- **A sum rounds to the sum of the rounded numbers exactly if the errors fit.** -/
theorem roundAway_add_iff (x y : ℚ) :
    roundAway (x + y) = roundAway x + roundAway y ↔ ErrorsFit x y := by
  have herror : x + y - ((roundAway x + roundAway y : ℤ) : ℚ) =
      roundingError x + roundingError y := by
    unfold roundingError
    push_cast
    ring
  rw [roundAway_eq_iff, herror, ErrorsFit]

/-- A multiple that is not negative rounds to the multiple of the rounded number exactly if the
error is still small when it is multiplied. -/
theorem roundAway_mul_iff (n : ℤ) {x : ℚ} (h : 0 ≤ n * x) :
    roundAway (n * x) = n * roundAway x ↔
      -(1 / 2) ≤ n * roundingError x ∧ n * roundingError x < 1 / 2 := by
  have herror : n * x - ((n * roundAway x : ℤ) : ℚ) = n * roundingError x := by
    unfold roundingError
    push_cast
    ring
  rw [roundAway_eq_iff, herror, if_pos h]

/-- Taking a number that is not negative from a whole number goes wrong only at a half above zero. -/
theorem roundAway_int_sub_iff (n : ℤ) {x : ℚ} (hx : 0 ≤ x) :
    roundAway (n - x) = n - roundAway x ↔ roundingError x ≠ -(1 / 2) ∨ n - x < 0 := by
  have h := roundAway_sub_iff n x
  rw [roundAway_intCast, ErrorsClose, roundingError_intCast, zero_sub] at h
  rw [h]
  obtain ⟨hlow, hhigh⟩ := roundingError_bounds hx
  split
  · rename_i hsign
    constructor
    · rintro ⟨-, hlt⟩
      exact .inl fun hhalf => by rw [hhalf] at hlt; norm_num at hlt
    · rintro (hne | hneg)
      · exact ⟨by linarith, by linarith [lt_of_le_of_ne hlow (Ne.symm hne)]⟩
      · exact absurd hsign (not_le.2 hneg)
  · rename_i hsign
    exact iff_of_true ⟨by linarith, by linarith⟩ (.inr (not_le.1 hsign))

/-- Adding a number that is not negative goes wrong only at a half with a sum below zero. -/
theorem roundAway_int_add_iff (n : ℤ) {x : ℚ} (hx : 0 ≤ x) :
    roundAway (n + x) = n + roundAway x ↔ roundingError x ≠ -(1 / 2) ∨ 0 ≤ n + x := by
  obtain ⟨hlow, hhigh⟩ := roundingError_bounds hx
  have herror : n + x - ((n + roundAway x : ℤ) : ℚ) = roundingError x := by
    unfold roundingError
    push_cast
    ring
  rw [roundAway_eq_iff, herror]
  split
  · rename_i hsign
    exact iff_of_true ⟨hlow, hhigh⟩ (.inr hsign)
  · rename_i hsign
    rw [or_iff_left hsign]
    constructor
    · exact fun h => h.1.ne'
    · exact fun hne => ⟨lt_of_le_of_ne hlow hne.symm, hhigh.le⟩
