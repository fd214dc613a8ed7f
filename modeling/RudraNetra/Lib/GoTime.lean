/-
Go's instants and durations, in nanoseconds.

A reading of the clock is a number of nanoseconds since the Unix epoch, and the zero
`time.Time` lies almost two thousand years before it.  A duration is an `int64`: `Sub`
gives the nearest one if the difference does not fit, and arithmetic wraps around.
-/
import RudraNetra.Lib.GoSlice

namespace Go

/-- The zero `time.Time`. -/
def zeroInstant : Int := -62135596800 * 10 ^ 9

def maxDuration : Int := 2 ^ 63 - 1
def minDuration : Int := -2 ^ 63

/-- `time.Minute` -/
def minute : Int := 60 * 10 ^ 9

/-- `t.Sub(u)` -/
def sub (t u : Int) : Int := max minDuration (min maxDuration (t - u))

/-- `time.Duration(n) * time.Minute` -/
def minutes (n : Int) : Int := int64 (n * minute)

/-- `t.Unix()` -/
def unix (t : Int) : Int := t / 10 ^ 9

/-- The year of an instant, in UTC: the calendar repeats after 400 years of 146097 days. -/
def year (t : Int) : Int :=
  let days := t / (86400 * 10 ^ 9) + 719468
  let era := days / 146097
  let day := days % 146097
  let yearOfEra := (day - day / 1460 + day / 36524 - day / 146096) / 365
  let dayOfYear := day - (365 * yearOfEra + yearOfEra / 4 - yearOfEra / 100)
  -- Years begin in March here; January and February belong to the next one.
  era * 400 + yearOfEra + if dayOfYear < 306 then 0 else 1

/-- A duration is exceeded by the difference if it is by what `Sub` makes of it. -/
theorem lt_sub_iff {d t u : Int} (hmin : minDuration ≤ d) (hmax : d < maxDuration) :
    d < sub t u ↔ d < t - u := by
  unfold sub
  rw [lt_max_iff, lt_min_iff]
  omega

theorem le_sub_iff {d t u : Int} (hmin : minDuration < d) (hmax : d ≤ maxDuration) :
    d ≤ sub t u ↔ d ≤ t - u := by
  unfold sub
  rw [le_max_iff, le_min_iff]
  omega

/-- A reading of the clock is further from the zero instant than a duration reaches. -/
theorem sub_zeroInstant (now : Nat) : sub now zeroInstant = maxDuration := by
  unfold sub zeroInstant maxDuration minDuration
  omega

/-- The longest idle time that fits: `minutes` is right up to here. -/
def maxMinutes : Int := 153722867

theorem minutes_eq {n : Int} (hpos : 0 < n) (hle : n ≤ maxMinutes) : minutes n = n * minute := by
  unfold minutes int64 signed minute
  unfold maxMinutes at hle
  rw [Int.bmod_eq_of_le (by omega) (by omega)]

/-- Any more minutes come out less. -/
theorem minutes_lt {n : Int} (h : maxMinutes < n) : minutes n < n * minute := by
  have hlt := Int.bmod_lt (x := n * minute) (m := 2 ^ 64) (by decide)
  unfold maxMinutes at h
  unfold minutes int64 signed
  unfold minute at hlt ⊢
  omega

theorem minutes_le_maxDuration (n : Int) : minutes n ≤ maxDuration := by
  have hlt := Int.bmod_lt (x := n * minute) (m := 2 ^ 64) (by decide)
  unfold minutes int64 signed maxDuration
  omega

end Go
