/-
Go's slices, errors and integer conversions.

A Go function over a byte slice can end in three ways: it returns, it returns with
an error, or it panics because an index is out of range.  `Result` keeps the last
two apart, so that a proof about a decoder says which of them cannot happen;
`Outcome` is for functions that return a value even together with an error.

`slice` is `data[lo:hi]` and `uintAt` reads a big-endian number at an offset.  Both
succeed exactly where the field lies inside the data, and then with the bytes that
lie there (`uintAt_of_at`, `uintAt_ok`).
-/
import RudraNetra.Lib.Wire

namespace Go

open Wire

variable {α β ε : Type}

/-- Why a function did not return a value. -/
inductive Fault (ε : Type) where
  | error (e : ε)
  | panic

/-- A value, an error, or a panic. -/
abbrev Result (ε α : Type) : Type := Except (Fault ε) α

/-- A function that returns a value together with an error, or panics. -/
inductive Outcome (ε α : Type) where
  | returns (value : α) (err : Option ε)
  | panics

/-- Wrapping the error of a call into the error of the caller. -/
def wrap (f : ε → ε) : Result ε α → Result ε α
  | .ok a => .ok a
  | .error (.error e) => .error (.error (f e))
  | .error .panic => .error .panic

@[simp] theorem wrap_ok (f : ε → ε) (a : α) : wrap f (.ok a) = .ok a := rfl

theorem wrap_eq_ok {f : ε → ε} {x : Result ε α} {a : α} : wrap f x = .ok a ↔ x = .ok a := by
  rcases x with (e | _) | b
  · exact ⟨nofun, nofun⟩
  · exact ⟨nofun, nofun⟩
  · exact Iff.rfl

@[simp] theorem ok_bind (a : α) (f : α → Result ε β) : (Except.ok a >>= f) = f a := rfl

/-- A sequence of two calls succeeds if both do. -/
theorem bind_eq_ok {x : Result ε α} {f : α → Result ε β} {b : β} :
    (x >>= f) = .ok b ↔ ∃ a, x = .ok a ∧ f a = .ok b := by
  rcases x with e | a
  · exact ⟨nofun, by intro ⟨_, h, _⟩; exact nomatch h⟩
  · exact ⟨fun h => ⟨a, rfl, h⟩, by intro ⟨_, h, hf⟩; cases h; exact hf⟩

/-! ### Slices -/

/-- `data[lo:hi]`. -/
def slice (data : List α) (lo hi : Nat) : Result ε (List α) :=
  if lo ≤ hi ∧ hi ≤ data.length then .ok ((data.drop lo).take (hi - lo)) else .error .panic

/-- The big-endian unsigned number in the `w` bytes at `off`. -/
def uintAt (data : List UInt8) (off w : Nat) : Result ε Nat :=
  (slice data off (off + w)).map beNat

/-- `data[lo:]`. -/
theorem slice_from {data : List α} {lo : Nat} (h : lo ≤ data.length) :
    slice (ε := ε) data lo data.length = .ok (data.drop lo) := by
  rw [slice, if_pos ⟨h, Nat.le_refl _⟩, List.take_of_length_le (by rw [List.length_drop])]

theorem slice_of_at {data bs : List α} {off n : Nat} (h : At data off bs) (hn : bs.length = n) :
    slice (ε := ε) data off (off + n) = .ok bs := by
  have hle := h.le
  rw [slice, if_pos (by omega), Nat.add_sub_cancel_left, ← hn, h.slice]

theorem slice_ok {data bs : List α} {lo hi : Nat} (h : slice (ε := ε) data lo hi = .ok bs) :
    lo ≤ hi ∧ At data lo bs ∧ bs.length = hi - lo := by
  unfold slice at h
  split at h
  · rename_i hrange
    simp only [Except.ok.injEq] at h
    subst h
    refine ⟨hrange.1, At.of_le (by omega), ?_⟩
    rw [List.length_take, List.length_drop]
    omega
  · exact nomatch h

theorem uintAt_of_at {data bs : List UInt8} {off w : Nat} (h : At data off bs)
    (hw : bs.length = w) : uintAt (ε := ε) data off w = .ok (beNat bs) := by
  rw [uintAt, slice_of_at h hw]
  rfl

theorem uintAt_ok {data : List UInt8} {off w n : Nat} (h : uintAt (ε := ε) data off w = .ok n) :
    ∃ bs : List UInt8, bs.length = w ∧ At data off bs ∧ beNat bs = n := by
  unfold uintAt at h
  rcases hs : slice (ε := ε) data off (off + w) with e | bs
  · rw [hs] at h
    exact nomatch h
  · rw [hs] at h
    obtain ⟨-, hat, hlen⟩ := slice_ok hs
    refine ⟨bs, by omega, hat, ?_⟩
    simpa [Except.map] using h

/-- `slice` cuts a field out exactly where it lies. -/
theorem slice_eq_ok {data bs : List α} {off n : Nat} :
    slice (ε := ε) data off (off + n) = .ok bs ↔ At data off bs ∧ bs.length = n := by
  constructor
  · intro h
    obtain ⟨-, hat, hlen⟩ := slice_ok h
    exact ⟨hat, by omega⟩
  · intro ⟨hat, hlen⟩
    exact slice_of_at hat hlen

/-- `uintAt` reads a number exactly where it is written. -/
theorem uintAt_eq_ok {data : List UInt8} {off w n : Nat} :
    uintAt (ε := ε) data off w = .ok n ↔ n < 256 ^ w ∧ At data off (beBytes w n) := by
  constructor
  · intro h
    obtain ⟨bs, rfl, hat, rfl⟩ := uintAt_ok h
    rw [beBytes_beNat]
    exact ⟨beNat_lt bs, hat⟩
  · intro ⟨hlt, hat⟩
    rw [uintAt_of_at hat (beBytes_length w n), beNat_beBytes_of_lt hlt]

/-! ### No panics -/

/-- The call returns, with or without an error. -/
def NoPanic (x : Result ε α) : Prop := x ≠ .error .panic

theorem NoPanic.bind {x : Result ε α} {f : α → Result ε β} (hx : NoPanic x)
    (hf : ∀ a, x = .ok a → NoPanic (f a)) : NoPanic (x >>= f) := by
  rcases x with (e | _) | a
  · exact nofun
  · exact absurd rfl hx
  · exact hf a rfl

theorem NoPanic.wrap {x : Result ε α} (f : ε → ε) (hx : NoPanic x) : NoPanic (wrap f x) := by
  rcases x with (e | _) | a
  · exact nofun
  · exact absurd rfl hx
  · exact nofun

theorem NoPanic.ok (a : α) : NoPanic (.ok a : Result ε α) := nofun

theorem NoPanic.failed (e : ε) : NoPanic (.error (.error e) : Result ε α) := nofun

/-- A check that returns an error, in front of a call. -/
theorem NoPanic.guard {c : Prop} [Decidable c] {e : ε} {x : Result ε α} (h : ¬ c → NoPanic x) :
    NoPanic (if c then .error (.error e) else x) := by
  by_cases hc : c
  · rw [if_pos hc]
    exact nofun
  · rw [if_neg hc]
    exact h hc

/-- A slice inside the data. -/
theorem slice_noPanic {data : List α} {lo hi : Nat} (hlo : lo ≤ hi) (hhi : hi ≤ data.length) :
    NoPanic (slice (ε := ε) data lo hi) := by
  rw [slice, if_pos ⟨hlo, hhi⟩]
  exact nofun

theorem uintAt_noPanic {data : List UInt8} {off w : Nat} (h : off + w ≤ data.length) :
    NoPanic (uintAt (ε := ε) data off w) := by
  obtain ⟨n, hn, hat⟩ := At.exists_number data off w h
  rw [uintAt_eq_ok.mpr ⟨hn, hat⟩]
  exact nofun

/-! ### Integer conversions -/

/-- The value of a signed integer of `w` bits made from any integer. -/
def signed (w : Nat) (v : Int) : Int := v.bmod (2 ^ w)

def int16 (v : Int) : Int := signed 16 v
def int32 (v : Int) : Int := signed 32 v
def int64 (v : Int) : Int := signed 64 v

end Go
