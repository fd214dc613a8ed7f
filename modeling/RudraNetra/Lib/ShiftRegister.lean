/-
Shift registers with feedback.

A register is shifted towards its low end, and when the bit that falls out is one, the taps
are added to it.  A bit string is fed in at the low end, one bit before each shift; what it
leaves in the register is its checksum.

Shifting is linear, and if the highest bit is a tap it loses nothing: that bit tells whether
the taps were added.  So a register that has read two strings of one length has them apart
as long as it is wide enough to hold what they differ in, and whatever follows does not bring
them together again.
-/
import Mathlib

namespace ShiftRegister

variable {n : Nat} {taps : BitVec n}

/-! ### One shift -/

def shift (taps c : BitVec n) : BitVec n :=
  if c.getLsbD 0 then (c >>> 1) ^^^ taps else c >>> 1

theorem shift_xor (a b : BitVec n) : shift taps (a ^^^ b) = shift taps a ^^^ shift taps b := by
  ext i hi
  unfold shift
  cases ha : a.getLsbD 0 <;> cases hb : b.getLsbD 0 <;>
    simp [ha, hb, Bool.xor_comm, Bool.xor_left_comm]

/-- Only the empty register is shifted to the empty one. -/
theorem shift_eq_zero (htaps : taps.msb = true) {c : BitVec n} (h : shift taps c = 0) : c = 0 := by
  -- the highest bit of the result is one if the lowest bit was
  have hlow : c.getLsbD 0 = false := by
    by_contra hone
    rw [Bool.not_eq_false] at hone
    have hmsb := congrArg BitVec.msb h
    rw [shift, if_pos hone] at hmsb
    simp [htaps, BitVec.msb_ushiftRight] at hmsb
  have hrest : c >>> 1 = 0 := by
    rw [shift, if_neg (by simp [hlow])] at h
    exact h
  ext i hi
  rw [← BitVec.getLsbD_eq_getElem]
  cases i with
  | zero => simpa using hlow
  | succ i =>
      have hbit := congrArg (BitVec.getLsbD · i) hrest
      simpa [Nat.add_comm] using hbit

theorem shift_injective (htaps : taps.msb = true) : Function.Injective (shift taps) := by
  intro a b h
  have hzero : shift taps (a ^^^ b) = 0 := by
    rw [shift_xor, h]
    exact BitVec.xor_self
  exact BitVec.xor_eq_zero_iff.mp (shift_eq_zero htaps hzero)

/-- Where the lowest bit is zero a shift only moves the bits. -/
theorem shift_shiftLeft {c : BitVec n} (h : c.msb = false) : shift taps (c <<< 1) = c := by
  have hlow : (c <<< 1).getLsbD 0 = false := by simp
  rw [shift, if_neg (by simp [hlow])]
  ext i hi
  simp only [BitVec.getElem_ushiftRight, BitVec.getLsbD_shiftLeft]
  by_cases hlast : 1 + i < n
  · simp [hlast, BitVec.getLsbD_eq_getElem hi]
  · have hi' : i = n - 1 := by omega
    rw [BitVec.msb_eq_getLsbD_last, ← hi'] at h
    simp [hlast, ← BitVec.getLsbD_eq_getElem hi, h]

/-! ### Feeding bits -/

/-- A bit string in the register, its first bit at the low end. -/
def load (n : Nat) (bits : List Bool) : BitVec n := (BitVec.ofBoolListLE bits).setWidth n

@[simp] theorem getElem_load (bits : List Bool) (i : Nat) (hi : i < n) :
    (load n bits)[i] = bits.getD i false := by
  simp [load]

theorem load_nil : load n [] = 0 := by
  ext i hi
  simp

/-- Strings that fit are told apart by the registers that hold them. -/
theorem load_injective {xs ys : List Bool} (hlen : xs.length = ys.length) (hle : xs.length ≤ n)
    (h : load n xs = load n ys) : xs = ys := by
  refine List.ext_getElem hlen fun i hx hy => ?_
  have hbit := congrArg (BitVec.getLsbD · i) h
  simpa [BitVec.getLsbD_eq_getElem (show i < n by omega), hx, hy] using hbit

/-- Adds a bit at the low end and shifts. -/
def feed (taps c : BitVec n) (b : Bool) : BitVec n := shift taps (c ^^^ load n [b])

def feeds (taps c : BitVec n) (bits : List Bool) : BitVec n := bits.foldl (feed taps) c

@[simp] theorem feeds_nil (c : BitVec n) : feeds taps c [] = c := rfl

@[simp] theorem feeds_cons (c : BitVec n) (b : Bool) (bits : List Bool) :
    feeds taps c (b :: bits) = feeds taps (feed taps c b) bits := rfl

theorem feeds_append (c : BitVec n) (xs ys : List Bool) :
    feeds taps c (xs ++ ys) = feeds taps (feeds taps c xs) ys :=
  List.foldl_append

theorem feeds_injective (htaps : taps.msb = true) (bits : List Bool) :
    Function.Injective (feeds taps · bits) := by
  induction bits with
  | nil => exact fun a b h => h
  | cons b bits ih =>
      intro c c' h
      exact BitVec.xor_left_inj _ |>.mp (shift_injective htaps (ih h))

theorem load_cons (b : Bool) (bits : List Bool) :
    load n (b :: bits) = load n [b] ^^^ (load n bits <<< 1) := by
  ext i hi
  cases i with
  | zero => simp
  | succ i => simp

/-- A string that fits may be added to the register at once, before its shifts. -/
theorem feeds_eq_iterate {bits : List Bool} (hle : bits.length ≤ n) (c : BitVec n) :
    feeds taps c bits = (shift taps)^[bits.length] (c ^^^ load n bits) := by
  induction bits generalizing c with
  | nil => simp [load_nil]
  | cons b bits ih =>
      rw [List.length_cons] at hle
      have hmsb : (load n bits).msb = false := by
        rw [BitVec.msb_eq_getLsbD_last]
        simp [load, List.getElem?_eq_none (show bits.length ≤ n - 1 by omega)]
      have hstep : shift taps (c ^^^ load n (b :: bits)) = feed taps c b ^^^ load n bits := by
        rw [load_cons, ← BitVec.xor_assoc, shift_xor, shift_shiftLeft hmsb, feed]
      rw [feeds_cons, ih (by omega), List.length_cons, Function.iterate_succ_apply, hstep]

/-- A string as long as the register empties it only if it is what the register holds. -/
theorem feeds_eq_zero_iff (htaps : taps.msb = true) {bits : List Bool} (hle : bits.length ≤ n)
    (c : BitVec n) : feeds taps c bits = 0 ↔ c = load n bits := by
  have hzero : (shift taps)^[bits.length] 0 = 0 :=
    Function.iterate_fixed (by simp [shift]) _
  rw [feeds_eq_iterate hle]
  constructor
  · intro h
    exact BitVec.xor_eq_zero_iff.mp ((shift_injective htaps).iterate _ (h.trans hzero.symm))
  · intro h
    rw [h, BitVec.xor_self]
    exact hzero

/-! ### Bursts -/

/-- All places at which two strings differ are within `w` of each other. -/
def DifferWithin {α : Type} (w : Nat) (xs ys : List α) : Prop :=
  ∃ start, ∀ i, xs[i]? ≠ ys[i]? → start ≤ i ∧ i < start + w

/-- Then the strings have the same beginning and the same end, and between these `w` at most. -/
theorem DifferWithin.split {α : Type} {w : Nat} {xs ys : List α} (hlen : xs.length = ys.length)
    (h : DifferWithin w xs ys) : ∃ pre us vs post, xs = pre ++ (us ++ post) ∧
      ys = pre ++ (vs ++ post) ∧ us.length = vs.length ∧ us.length ≤ w := by
  obtain ⟨start, hwindow⟩ := h
  have hsame : ∀ i, i < start ∨ start + w ≤ i → xs[i]? = ys[i]? := by
    intro i hi
    by_contra hne
    have := hwindow i hne
    omega
  have hpre : ys.take start = xs.take start := by
    refine List.ext_getElem? fun i => ?_
    rw [List.getElem?_take, List.getElem?_take]
    by_cases hi : i < start
    · rw [if_pos hi, if_pos hi, hsame i (.inl hi)]
    · rw [if_neg hi, if_neg hi]
  have hpost : (ys.drop start).drop w = (xs.drop start).drop w := by
    refine List.ext_getElem? fun i => ?_
    rw [List.drop_drop, List.drop_drop, List.getElem?_drop, List.getElem?_drop,
      hsame _ (.inr (Nat.le_add_right _ i))]
  refine ⟨xs.take start, (xs.drop start).take w, (ys.drop start).take w, (xs.drop start).drop w,
    ?_, ?_, ?_, List.length_take_le _ _⟩
  · rw [List.take_append_drop, List.take_append_drop]
  · rw [← hpre, ← hpost, List.take_append_drop, List.take_append_drop]
  · rw [List.length_take, List.length_take, List.length_drop, List.length_drop, hlen]

/-- Strings that differ in a part of `w` differ within `w`. -/
theorem DifferWithin.append {α : Type} {w : Nat} {us vs : List α} (hlen : us.length = vs.length)
    (hle : us.length ≤ w) (pre post : List α) :
    DifferWithin w (pre ++ (us ++ post)) (pre ++ (vs ++ post)) := by
  refine ⟨pre.length, fun i hne => ?_⟩
  by_contra hout
  refine hne ?_
  rcases Nat.lt_or_ge i pre.length with hi | hi
  · rw [List.getElem?_append_left hi, List.getElem?_append_left hi]
  · rw [List.getElem?_append_right hi, List.getElem?_append_right hi,
      List.getElem?_append_right (by omega), List.getElem?_append_right (by omega), hlen]

/-- **The register tells apart what differs in no more bits in a row than it has.** -/
theorem feeds_ne_of_differWithin (htaps : taps.msb = true) (c : BitVec n) {xs ys : List Bool}
    (hlen : xs.length = ys.length) (hne : xs ≠ ys) (h : DifferWithin n xs ys) :
    feeds taps c xs ≠ feeds taps c ys := by
  obtain ⟨pre, us, vs, post, rfl, rfl, hwindow, hle⟩ := h.split hlen
  intro hsame
  rw [feeds_append, feeds_append, feeds_append, feeds_append] at hsame
  have hread : feeds taps (feeds taps c pre) us = feeds taps (feeds taps c pre) vs :=
    feeds_injective htaps post hsame
  have hle' : vs.length ≤ n := by rwa [← hwindow]
  rw [feeds_eq_iterate hle (feeds taps c pre), feeds_eq_iterate hle' (feeds taps c pre),
    ← hwindow] at hread
  have hload := BitVec.xor_right_inj _ |>.mp ((shift_injective htaps).iterate _ hread)
  exact hne (by rw [load_injective hwindow hle hload])

end ShiftRegister
