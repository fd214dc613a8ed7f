/-
Numbers that pass through a `float64`, and `strconv.ParseInt`.

JSON numbers of unknown type are decoded as `float64`.  Its significand has 53 bits, so a
larger integer comes back as the nearest multiple of a power of two (`float64`).
-/
import RudraNetra.Lib.GoSlice

namespace Go

/-- The multiple of `unit` nearest to `n`; from the middle, the even one. -/
def nearestMultiple (unit n : Nat) : Nat :=
  if 2 * (n % unit) < unit ∨ 2 * (n % unit) = unit ∧ n / unit % 2 = 0 then n / unit * unit
  else (n / unit + 1) * unit

/-- An integer as a `float64` has it. -/
def float64 (n : Int) : Int := n.sign * nearestMultiple (2 ^ (n.natAbs.log2 - 52)) n.natAbs

example : float64 (2 ^ 53 + 1) = 2 ^ 53 ∧ float64 (2 ^ 53 + 3) = 2 ^ 53 + 4 := by decide

theorem float64_of_lt {n : Int} (h : n.natAbs < 2 ^ 53) : float64 n = n := by
  have hlog : n.natAbs.log2 - 52 = 0 := by
    rcases Nat.eq_zero_or_pos n.natAbs with hzero | hpos
    · rw [hzero]
      rfl
    · have := (Nat.log2_lt (Nat.pos_iff_ne_zero.mp hpos)).mpr h
      omega
  rw [float64, hlog, Nat.pow_zero, nearestMultiple, if_pos (.inl (by omega)), Nat.div_one,
    Nat.mul_one, Int.sign_mul_natAbs]

theorem int64_of_lt {n : Int} (h : n.natAbs < 2 ^ 53) : int64 n = n := by
  unfold int64 signed
  exact Int.bmod_eq_of_le (by omega) (by omega)

/-- The digits of `strconv.ParseUint`, behind those that make `n`; nothing if one is no digit. -/
def parseUint (n : Nat) : List Char → Option Nat
  | [] => some n
  | c :: cs =>
    if !c.isDigit then none
    else
      let n := n * 10 + (c.toNat - '0'.toNat)
      -- Out of range: the largest value, and the rest of the text is not looked at.
      if 2 ^ 64 ≤ n then some (2 ^ 64 - 1) else parseUint n cs

/-- The value of `strconv.ParseInt(s, 10, 64)`, which it also has if there is an error. -/
def parseInt (s : String) : Int :=
  let (negative, digits) := match s.toList with
    | '-' :: digits => (true, digits)
    | '+' :: digits => (false, digits)
    | digits => (false, digits)
  match if digits = [] then none else parseUint 0 digits with
  | none => 0
  | some n => if negative then max (-2 ^ 63) (-n) else min (2 ^ 63 - 1) n

/-- `strconv.Atoi`, if there is no error. -/
def atoi (s : String) : Option Int :=
  let (negative, digits) := match s.toList with
    | '-' :: digits => (true, digits)
    | '+' :: digits => (false, digits)
    | digits => (false, digits)
  match if digits = [] then none else parseUint 0 digits with
  | none => none
  | some n =>
    let value : Int := if negative then -n else n
    if -2 ^ 63 ≤ value ∧ value < 2 ^ 63 then some value else none

example : parseInt "-42" = -42 ∧ parseInt "4x" = 0 ∧
    parseInt "9223372036854775808" = 9223372036854775807 := by
  decide

end Go
