/-
Go's durations in hours, as `float64`, and the whole days of such a number.

The hours of almost `n` days come out as `24 * n` if no more is missing than `slack n`, half the
distance of the numbers there.  So a duration that lacks only that much counts a day that is not
over (`wholeDays_eq`), and the time from an instant to a date counts the days between the dates
only at some times of a day (`wholeDays_sub_iff`).
-/
import RudraNetra.Lib.Binary64
import RudraNetra.Lib.GoTime

namespace Go

open Binary64

/-- `time.Hour` -/
def hour : Int := 3600 * 10 ^ 9

def day : Int := 24 * hour

/-- `d.Hours()` -/
def hours (d : Int) : ℚ :=
  nearest (nearest (d.tdiv hour) + nearest (nearest (d.tmod hour) / hour))

/-- `int(x)` -/
def truncate (x : ℚ) : Int := if 0 ≤ x then ⌊x⌋ else ⌈x⌉

/-- `int(d.Hours() / 24)` -/
def wholeDays (d : Int) : Int := truncate (nearest (hours d / 24))

/-- What may be missing to `n` days. -/
def slack (n : Int) : Int := hour * 2 ^ (24 * n).toNat.log2 / 2 ^ 53

example : slack 170 = 0 ∧ slack 171 = 1 ∧ slack 106752 = 838 := by decide

/-! ### The sign -/

theorem truncate_neg (x : ℚ) : truncate (-x) = -truncate x := by
  unfold truncate
  rcases lt_trichotomy x 0 with h | rfl | h
  · rw [if_pos (by linarith), if_neg (by linarith), Int.floor_neg]
  · simp
  · rw [if_neg (by linarith), if_pos h.le, Int.ceil_neg]

theorem hours_neg (d : Int) : hours (-d) = -hours d := by
  unfold hours
  rw [Int.neg_tdiv, Int.neg_tmod]
  push_cast
  rw [nearest_neg, nearest_neg, neg_div, nearest_neg, ← neg_add, nearest_neg]

theorem wholeDays_neg (d : Int) : wholeDays (-d) = -wholeDays d := by
  rw [wholeDays, hours_neg, neg_div, nearest_neg, truncate_neg, wholeDays]

/-! ### Almost `n` days -/

theorem slack_bounds {e : ℕ} (hlow : 4 ≤ e) (hhigh : e < 22) :
    ((hour * 2 ^ e / 2 ^ 53 : Int) : ℚ) / hour + 1 / 2 ^ 54 < 2 ^ e / 2 ^ 53 ∧
      (2 ^ e / 2 ^ 53 : ℚ) < ((hour * 2 ^ e / 2 ^ 53 : Int) + 1) / hour - 1 / 2 ^ 54 := by
  unfold hour
  interval_cases e <;> norm_num

/-- The fraction of an hour, rounded. -/
theorem nearest_fraction {r : Int} (hr : 0 ≤ r) (hr' : r < hour) :
    ∃ q : ℚ, nearest (nearest r / hour) = q ∧ |q - r / hour| ≤ 1 / 2 ^ 54 ∧ 0 ≤ q ∧ q ≤ 1 ∧
      (r = 0 → q = 0) := by
  have hhour : (0 : ℚ) < hour := by norm_num [hour]
  have hrq : (0 : ℚ) ≤ r := by exact_mod_cast hr
  have hrq' : (r : ℚ) < hour := by exact_mod_cast hr'
  have hsmall : (hour : ℚ) < 2 ^ 53 := by norm_num [hour]
  have hlt : (r : ℚ) / hour < 1 := (div_lt_one hhour).mpr hrq'
  have hge : (0 : ℚ) ≤ r / hour := div_nonneg hrq hhour.le
  have hexact : nearest (r : ℚ) = r :=
    nearest_intCast (by rw [abs_of_nonneg hrq]; linarith)
  have habs : |(r : ℚ) / hour| < 2 ^ 53 := by
    rw [abs_of_nonneg hge]
    linarith
  rw [hexact]
  refine ⟨_, rfl, ?_, by exact_mod_cast le_nearest_of_int_le (n := 0) habs (by simpa using hge),
    by exact_mod_cast nearest_le_of_le_int (n := 1) habs (by simpa using hlt.le), ?_⟩
  · rcases hge.eq_or_lt with h0 | hpos
    · rw [← h0]
      norm_num [nearest, roundEven]
    · have hulp := ulp_le (k := -1) (by norm_num) hpos.ne' (by
        rw [abs_of_pos hpos]
        simpa using hlt)
      have herror := nearest_error ((r : ℚ) / hour)
      norm_num at hulp herror ⊢
      linarith
  · rintro rfl
    norm_num [nearest, roundEven]

/-- The hours are rounded from a sum that passes no integer. -/
theorem exists_hours {d : Int} (hd : 0 ≤ d) (hd' : d < 2 ^ 22 * hour) :
    ∃ x : ℚ, hours d = nearest x ∧ |x - d / hour| ≤ 1 / 2 ^ 54 ∧
      ∀ k : ℤ, (k * hour ≤ d → k ≤ x) ∧ (d ≤ k * hour → x ≤ k) := by
  have hhour : 0 < hour := by decide
  have hdiv := Int.emod_add_mul_ediv d hour
  have hmod := Int.emod_nonneg d hhour.ne'
  have hmod' := Int.emod_lt_of_pos d hhour
  obtain ⟨q, hq, herror, hq0, hq1, hzero⟩ := nearest_fraction hmod hmod'
  have hquot : 0 ≤ d / hour := Int.ediv_nonneg hd hhour.le
  have hquot' : d / hour < 2 ^ 22 := Int.ediv_lt_of_lt_mul hhour hd'
  have hexact : nearest ((d / hour : Int) : ℚ) = (d / hour : Int) := by
    refine nearest_intCast ?_
    rw [abs_of_nonneg (by exact_mod_cast hquot)]
    exact_mod_cast hquot'.trans (by norm_num)
  refine ⟨(d / hour : Int) + q, ?_, ?_, fun k => ⟨fun hk => ?_, fun hk => ?_⟩⟩
  · rw [hours, Int.tdiv_eq_ediv_of_nonneg hd, Int.tmod_eq_emod_of_nonneg hd, hexact, hq]
  · have hsplit : (d : ℚ) / hour = (d / hour : Int) + ((d % hour : Int) : ℚ) / hour := by
      have hhour' : (hour : ℚ) ≠ 0 := by exact_mod_cast hhour.ne'
      field_simp
      exact_mod_cast (by linarith : d = hour * (d / hour) + d % hour)
    rw [hsplit, add_sub_add_left_eq_sub]
    exact herror
  · have hle : k ≤ d / hour := (Int.le_ediv_iff_mul_le hhour).mpr hk
    have hle' : (k : ℚ) ≤ (d / hour : Int) := by exact_mod_cast hle
    linarith
  · by_cases h0 : d % hour = 0
    · have hle : d / hour ≤ k := Int.ediv_le_of_le_mul hhour hk
      have hle' : ((d / hour : Int) : ℚ) ≤ k := by exact_mod_cast hle
      rw [hzero h0]
      linarith
    · have hlt : d / hour < k := by
        by_contra hnot
        have hmul := mul_le_mul_of_nonneg_right (not_lt.mp hnot) hhour.le
        have hcomm := mul_comm hour (d / hour)
        omega
      have hle' : ((d / hour : Int) : ℚ) + 1 ≤ k := by exact_mod_cast hlt
      linarith

theorem truncate_nearest_days {n : Int} (hn : 1 ≤ n) (hn' : 24 * n < 2 ^ 22) :
    truncate (nearest (((24 * n : Int) : ℚ) / 24)) = n := by
  have hnq : (0 : ℚ) ≤ n := by exact_mod_cast (by omega : 0 ≤ n)
  have hexact : nearest (n : ℚ) = n := by
    refine nearest_intCast ?_
    rw [abs_of_nonneg hnq]
    exact_mod_cast (by omega : n < 2 ^ 53)
  rw [show ((24 * n : Int) : ℚ) / 24 = n by push_cast; ring, hexact, truncate, if_pos hnq,
    Int.floor_intCast]

/-- A number of hours that is less than `24 * n` is that of less than `n` days. -/
theorem truncate_of_le {n : Int} {k : ℕ} {s : ℚ} (hk : 4 ≤ k) (hk' : k ≤ 50)
    (hhigh : 24 * n < 2 ^ (k + 1)) (hn : 1 ≤ n) (hlow : 24 * (n - 1) ≤ s)
    (hle : s ≤ 24 * n - 2 ^ k / 2 ^ 52) : truncate (nearest (s / 24)) = n - 1 := by
  have hpow : (2 : ℚ) ^ k ≤ 2 ^ 50 := pow_le_pow_right₀ (by norm_num) hk'
  have hpow' : (2 : ℚ) ^ k = 16 * 2 ^ (k - 4) := by
    rw [show k = 4 + (k - 4) by omega, pow_add]
    norm_num
  have hpos : (0 : ℚ) < 2 ^ (k - 4) := by positivity
  have hnq : (1 : ℚ) ≤ n := by exact_mod_cast hn
  have hhighq : (24 * n : ℚ) < 2 ^ (k + 1) := by exact_mod_cast hhigh
  rw [pow_succ] at hhighq
  have habs : |s / 24| < 2 ^ 53 := by
    rw [abs_of_nonneg (by linarith)]
    linarith
  have hge : n - 1 ≤ nearest (s / 24) := by
    exact_mod_cast le_nearest_of_int_le (n := n - 1) habs (by push_cast; linarith)
  have hlt : nearest (s / 24) < n := by
    have hulp := ulp_le_of_lt (x := s / 24) (k := k - 4) (by linarith) (by
      rw [pow_succ]
      linarith)
    have herror := (abs_le.mp (nearest_error (s / 24))).2
    linarith
  rw [truncate, if_pos (by linarith), Int.floor_eq_iff]
  push_cast
  exact ⟨hge, by linarith⟩

/-- The powers of two around the hours of `n` days, which are none themselves. -/
theorem exists_log2 {n : Int} (hn : 1 ≤ n) (hn' : 24 * n < 2 ^ 22) :
    ∃ e, e = (24 * n).toNat.log2 ∧ 2 ^ e < 24 * n ∧ 24 * n < 2 ^ (e + 1) ∧ 4 ≤ e ∧ e < 22 := by
  have hne : (24 * n).toNat ≠ 0 := by omega
  have hcast : ((24 * n).toNat : Int) = 24 * n := Int.toNat_of_nonneg (by omega)
  refine ⟨_, rfl, ?_, ?_, (Nat.le_log2 hne).mpr (by omega), (Nat.log2_lt hne).mpr (by omega)⟩
  · have hle : (2 : Int) ^ (24 * n).toNat.log2 ≤ 24 * n := by
      rw [← hcast]
      exact_mod_cast Nat.log2_self_le hne
    refine lt_of_le_of_ne hle fun h => ?_
    have hthree : (3 : Int) ∣ 2 :=
      Int.prime_three.dvd_of_dvd_pow (n := (24 * n).toNat.log2) ⟨8 * n, by rw [h]; ring⟩
    omega
  · have hlt : ((24 * n).toNat : Int) < 2 ^ ((24 * n).toNat.log2 + 1) := by
      exact_mod_cast Nat.lt_log2_self
    rwa [hcast] at hlt

/-- **Of a time that is missing to `n` days, only more than `slack n` shows.** -/
theorem wholeDays_eq {n t : Int} (hn : 1 ≤ n) (hn' : 24 * n < 2 ^ 22) (ht : 0 ≤ t) (ht' : t ≤ day) :
    wholeDays (n * day - t) = if t ≤ slack n then n else n - 1 := by
  have hday : day = 24 * hour := rfl
  have hhour : 0 < hour := by decide
  have hhourq : (0 : ℚ) < hour := by exact_mod_cast hhour
  obtain ⟨x, hhours, herror, hints⟩ := exists_hours (d := n * day - t) (by nlinarith) (by nlinarith)
  have hvalue : ((n * day - t : Int) : ℚ) / hour = 24 * n - t / hour := by
    rw [hday]
    push_cast
    field_simp
  rw [hvalue] at herror
  obtain ⟨herror, herror'⟩ := abs_le.mp herror
  obtain ⟨e, he, hlow, hhigh, he4, he22⟩ := exists_log2 hn hn'
  obtain ⟨hin, hout⟩ := slack_bounds he4 he22
  have hx : x ≤ (24 * n : Int) := (hints (24 * n)).2 (by rw [hday]; linarith)
  have hx' : ((24 * (n - 1) : Int) : ℚ) ≤ x :=
    (hints (24 * (n - 1))).1 (by rw [hday] at ht' ⊢; linarith)
  have hslack : slack n = hour * 2 ^ e / 2 ^ 53 := by rw [slack, he]
  rw [wholeDays, hhours]
  split
  · rename_i hle
    have hle' : (t : ℚ) / hour ≤ (hour * 2 ^ e / 2 ^ 53 : Int) / hour :=
      div_le_div_of_nonneg_right (by exact_mod_cast hslack ▸ hle) hhourq.le
    rw [nearest_eq_intCast (k := e) (by omega) hlow hhigh hx (by push_cast; linarith)]
    exact truncate_nearest_days hn hn'
  · rename_i hgt
    have hgt' : ((hour * 2 ^ e / 2 ^ 53 : Int) + 1 : ℚ) / hour ≤ t / hour :=
      div_le_div_of_nonneg_right (by exact_mod_cast hslack ▸ not_le.mp hgt) hhourq.le
    have hxpos : 0 ≤ x := le_trans (by exact_mod_cast (by omega : 0 ≤ 24 * (n - 1))) hx'
    have hxlt : x < 2 ^ 53 := hx.trans_lt (by exact_mod_cast hn'.trans (by norm_num))
    have hge : ((24 * (n - 1) : Int) : ℚ) ≤ nearest x :=
      le_nearest_of_int_le (by rwa [abs_of_nonneg hxpos]) hx'
    have hle := nearest_le_sub_ulp (k := e) (by omega) hlow hhigh hxpos (by push_cast; linarith)
    push_cast at hge hle
    exact truncate_of_le he4 (by omega) hhigh hn hge hle

/-! ### Differences of dates -/

/-- The days that a duration has room for. -/
def maxDays : Int := 106751

/-- The longest durations have that many days. -/
theorem wholeDays_longest {d : Int} (hlow : maxDays * day ≤ d) (hhigh : d ≤ -minDuration) :
    wholeDays d = maxDays := by
  have hday : day = 86400000000000 := by decide
  have hslack : slack (maxDays + 1) = 838 := by decide
  have hd : d = (maxDays + 1) * day - ((maxDays + 1) * day - d) := by ring
  unfold maxDays minDuration at *
  rw [hd, wholeDays_eq (by omega) (by omega) (by omega) (by omega), if_neg (by omega)]
  omega

variable {n t due now : Int}

/-- A date in the future, when `t` of the day has passed. -/
theorem wholeDays_sub_of_pos (hn : 0 < n) (ht : 0 ≤ t) (ht' : t < day)
    (hnow : due - now = n * day - t) :
    wholeDays (sub due now) = n ↔ n ≤ maxDays ∧ t ≤ slack n := by
  have hday : day = 86400000000000 := by decide
  have hmul : n * day = 86400000000000 * n := by rw [hday, mul_comm]
  rw [sub, hnow]
  by_cases hfits : n ≤ maxDays
  · have hclamp : max minDuration (min maxDuration (n * day - t)) = n * day - t := by
      unfold minDuration maxDuration
      unfold maxDays at hfits
      omega
    rw [hclamp, wholeDays_eq (by omega) (by unfold maxDays at hfits; omega) ht ht'.le]
    split <;> omega
  · have hlongest := wholeDays_longest (d := max minDuration (min maxDuration (n * day - t)))
      (by unfold minDuration maxDuration maxDays at *; omega)
      (by unfold minDuration maxDuration at *; omega)
    rw [hlongest]
    omega

/-- A date in the past, or of the day itself. -/
theorem wholeDays_sub_of_nonpos (hn : n ≤ 0) (ht : 0 ≤ t) (ht' : t < day)
    (hnow : due - now = n * day - t) :
    wholeDays (sub due now) = n ↔ -maxDays ≤ n ∧ (n = -maxDays ∨ slack (1 - n) < day - t) := by
  have hday : day = 86400000000000 := by decide
  have hmul : n * day = 86400000000000 * n := by rw [hday, mul_comm]
  have hmul' : (1 - n) * day = day - n * day := by ring
  have hsub : sub due now = -min (-minDuration) ((1 - n) * day - (day - t)) := by
    rw [sub, hnow]
    unfold minDuration maxDuration
    omega
  rw [hsub, wholeDays_neg]
  by_cases hfits : -maxDays < n
  · have hclamp : min (-minDuration) ((1 - n) * day - (day - t)) = (1 - n) * day - (day - t) := by
      unfold minDuration
      unfold maxDays at hfits
      omega
    rw [hclamp, wholeDays_eq (by omega) (by unfold maxDays at hfits; omega) (by omega) (by omega)]
    split <;> omega
  · have hlongest := wholeDays_longest (d := min (-minDuration) ((1 - n) * day - (day - t)))
      (by unfold minDuration maxDays at *; omega) (by omega)
    rw [hlongest]
    omega

/-- The date is `n` days ahead and `t` of the day has passed: the time does not show in the hours
of a future date, and what is left of the day does in those of any other. -/
def CountsDays (n t : Int) : Prop :=
  -maxDays ≤ n ∧ n ≤ maxDays ∧
    if 0 < n then t ≤ slack n else n = -maxDays ∨ slack (1 - n) < day - t

/-- **The time to the start of a date counts the days between the dates exactly then.** -/
theorem wholeDays_sub_iff (due now : Int) :
    wholeDays (sub (due * day) now) = due - now / day ↔
      CountsDays (due - now / day) (now % day) := by
  have hday : (0 : Int) < day := by decide
  have hmod := Int.emod_nonneg now hday.ne'
  have hmod' := Int.emod_lt_of_pos now hday
  have hnow : due * day - now = (due - now / day) * day - now % day := by
    rw [sub_mul, sub_sub, Int.ediv_mul_add_emod]
  unfold CountsDays
  split
  · rename_i hpos
    rw [wholeDays_sub_of_pos hpos hmod hmod' hnow]
    unfold maxDays
    omega
  · rename_i hpos
    rw [wholeDays_sub_of_nonpos (not_lt.mp hpos) hmod hmod' hnow]
    unfold maxDays
    omega

end Go
