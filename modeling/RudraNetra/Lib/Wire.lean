/-
Numbers and fields in byte strings.

Two things a binary format is made of.  A number written in a fixed count of
bytes, most significant first, which `beBytes` writes and `beNat` reads; and a
field that lies at an offset of a longer string, which `At` says without
cutting the string up.

A decoder that walks an offset along its input is proved with `At` alone: a
string at an offset is its first part there and the rest behind it, so one
`At` fact for a whole message gives one for every field the walk meets.
-/
import Mathlib

namespace Wire

/-! ### Big-endian numbers -/

/-- The low `w` bytes of `n`, most significant first. -/
def beBytes : Nat → Nat → List UInt8
  | 0, _ => []
  | w + 1, n => UInt8.ofNat (n / 256 ^ w) :: beBytes w n

/-- The number a byte string writes, most significant byte first. -/
def beNat : List UInt8 → Nat
  | [] => 0
  | b :: bs => b.toNat * 256 ^ bs.length + beNat bs

@[simp] theorem beBytes_length (w n : Nat) : (beBytes w n).length = w := by
  induction w with
  | zero => rfl
  | succ w ih => simp [beBytes, ih]

theorem beNat_lt : ∀ bs : List UInt8, beNat bs < 256 ^ bs.length := by
  intro bs
  induction bs with
  | nil => simp [beNat]
  | cons b bs ih =>
      have hb : b.toNat + 1 ≤ 256 := b.toNat_lt
      have hmul := Nat.mul_le_mul_right (256 ^ bs.length) hb
      rw [Nat.add_mul, Nat.one_mul] at hmul
      simp only [beNat, List.length_cons, Nat.pow_succ, Nat.mul_comm _ 256]
      omega

/-- Writing a number and reading it back keeps its low bytes. -/
theorem beNat_beBytes (w n : Nat) : beNat (beBytes w n) = n % 256 ^ w := by
  induction w with
  | zero => simp [beBytes, beNat, Nat.mod_one]
  | succ w ih =>
      simp only [beBytes, beNat, beBytes_length, ih, UInt8.toNat_ofNat']
      have hmod : n % 256 ^ (w + 1) = n % 256 ^ w + 256 ^ w * (n / 256 ^ w % 256) := by
        rw [Nat.pow_succ, Nat.mod_mul]
      rw [hmod, Nat.mul_comm (256 ^ w), Nat.add_comm]

theorem beNat_beBytes_of_lt {w n : Nat} (h : n < 256 ^ w) : beNat (beBytes w n) = n := by
  rw [beNat_beBytes, Nat.mod_eq_of_lt h]

/-- Byte strings of one length are told apart by their numbers. -/
theorem beNat_inj {a b : List UInt8} (hlen : a.length = b.length) (h : beNat a = beNat b) :
    a = b := by
  induction a generalizing b with
  | nil => exact (List.length_eq_zero_iff.mp hlen.symm).symm
  | cons x xs ih =>
      obtain _ | ⟨y, ys⟩ := b
      · exact nomatch hlen
      · have hlen' : xs.length = ys.length := Nat.succ.inj hlen
        have hx := beNat_lt xs
        have hy := beNat_lt ys
        rw [beNat, beNat, hlen', Nat.mul_comm x.toNat, Nat.mul_comm y.toNat] at h
        rw [hlen'] at hx
        have hpos : 0 < 256 ^ ys.length := Nat.pow_pos (by omega)
        have hhead : x.toNat = y.toNat := by
          have hdiv := congrArg (· / 256 ^ ys.length) h
          simpa only [Nat.mul_add_div hpos, Nat.div_eq_of_lt hx, Nat.div_eq_of_lt hy,
            Nat.add_zero] using hdiv
        have htail : beNat xs = beNat ys := by
          rw [hhead] at h
          omega
        rw [UInt8.toNat_inj.mp hhead, ih hlen' htail]

/-- A byte string is its number, written in its own length. -/
theorem beBytes_beNat (bs : List UInt8) : beBytes bs.length (beNat bs) = bs := by
  refine beNat_inj (beBytes_length _ _) ?_
  exact beNat_beBytes_of_lt (beNat_lt bs)

/-- The leading bytes of a number are the number without its low bytes. -/
theorem beBytes_take {w m : Nat} (n : Nat) (h : m ≤ w) :
    (beBytes w n).take m = beBytes m (n / 256 ^ (w - m)) := by
  induction w generalizing m with
  | zero =>
      obtain rfl : m = 0 := by omega
      rfl
  | succ w ih =>
      obtain _ | m := m
      · rfl
      · rw [beBytes, List.take_succ_cons, ih (by omega), beBytes, Nat.div_div_eq_div_mul,
          ← Nat.pow_add]
        rw [show w + 1 - (m + 1) = w - m by omega, show w - m + m = w by omega]

/-- The trailing bytes of a number are its low bytes. -/
theorem beBytes_drop {w m : Nat} (n : Nat) (h : m ≤ w) :
    (beBytes w n).drop m = beBytes (w - m) n := by
  induction w generalizing m with
  | zero =>
      obtain rfl : m = 0 := by omega
      rfl
  | succ w ih =>
      obtain _ | m := m
      · rfl
      · rw [beBytes, List.drop_succ_cons, ih (by omega), show w + 1 - (m + 1) = w - m by omega]

theorem beNat_replicate_append (k : Nat) (bs : List UInt8) :
    beNat (List.replicate k 0 ++ bs) = beNat bs := by
  induction k with
  | zero => rfl
  | succ k ih => simpa [List.replicate_succ, beNat] using ih

/-! ### Fields at an offset -/

variable {α : Type}

/-- `bs` lies in `data` at offset `off`. -/
def At (data : List α) (off : Nat) (bs : List α) : Prop :=
  ∃ pre post, data = pre ++ bs ++ post ∧ pre.length = off

theorem At.start (bs post : List α) : At (bs ++ post) 0 bs := ⟨[], post, by simp, rfl⟩

theorem At.whole (bs : List α) : At bs 0 bs := ⟨[], [], by simp, rfl⟩

theorem At.empty {data : List α} {off : Nat} (h : off ≤ data.length) : At data off [] :=
  ⟨data.take off, data.drop off, by simp, by rw [List.length_take]; omega⟩

theorem At.le {data bs : List α} {off : Nat} (h : At data off bs) :
    off + bs.length ≤ data.length := by
  obtain ⟨pre, post, rfl, rfl⟩ := h
  simp only [List.length_append]
  omega

/-- Bytes behind the data move nothing in it. -/
theorem At.extend {data bs : List α} {off : Nat} (h : At data off bs) (more : List α) :
    At (data ++ more) off bs := by
  obtain ⟨pre, post, rfl, rfl⟩ := h
  exact ⟨pre, post ++ more, by simp, rfl⟩

/-- Bytes in front of the data move all of it. -/
theorem At.shift {data bs : List α} {off : Nat} (h : At data off bs) (front : List α) :
    At (front ++ data) (front.length + off) bs := by
  obtain ⟨pre, post, rfl, rfl⟩ := h
  exact ⟨front ++ pre, post, by simp, by simp⟩

/-- A concatenation at an offset is its first part there and its second behind it. -/
theorem At.append_iff {data a b : List α} {off : Nat} :
    At data off (a ++ b) ↔ At data off a ∧ At data (off + a.length) b := by
  constructor
  · intro h
    obtain ⟨pre, post, rfl, rfl⟩ := h
    exact ⟨⟨pre, b ++ post, by simp, rfl⟩, ⟨pre ++ a, post, by simp, by simp⟩⟩
  · intro h
    obtain ⟨⟨pre, post, hdata, rfl⟩, ⟨pre', post', hdata', hlen⟩⟩ := h
    have hpre : pre' = pre ++ a := by
      have hsame : pre' ++ (b ++ post') = (pre ++ a) ++ post := by
        rw [← List.append_assoc, ← hdata', hdata]
      exact (List.append_inj hsame (by simpa using hlen)).1
    exact ⟨pre, post', by rw [hdata', hpre]; simp, rfl⟩

theorem At.left {data a b : List α} {off : Nat} (h : At data off (a ++ b)) : At data off a :=
  (At.append_iff.mp h).1

theorem At.right {data a b : List α} {off : Nat} (h : At data off (a ++ b)) :
    At data (off + a.length) b :=
  (At.append_iff.mp h).2

/-- Cutting the field out at its offset gives the field. -/
theorem At.slice {data bs : List α} {off : Nat} (h : At data off bs) :
    (data.drop off).take bs.length = bs := by
  obtain ⟨pre, post, rfl, rfl⟩ := h
  simp

/-- Wherever `n` elements fit, some field of length `n` lies. -/
theorem At.of_le {data : List α} {off n : Nat} (h : off + n ≤ data.length) :
    At data off ((data.drop off).take n) := by
  refine ⟨data.take off, (data.drop off).drop n, ?_, ?_⟩
  · rw [List.append_assoc, List.take_append_drop, List.take_append_drop]
  · rw [List.length_take]
    omega

/-- A field at the start is what the data begins with. -/
theorem At.zero_iff {data bs : List α} : At data 0 bs ↔ ∃ rest, data = bs ++ rest := by
  constructor
  · intro h
    obtain ⟨pre, post, rfl, hlen⟩ := h
    obtain rfl := List.length_eq_zero_iff.mp hlen
    exact ⟨post, rfl⟩
  · intro h
    obtain ⟨rest, rfl⟩ := h
    exact At.start bs rest

/-- Of blocks of one length, each lies at its index times that length. -/
theorem At.flatMap {β : Type} {f : β → List α} {w : Nat} {xs : List β}
    (hlen : ∀ x ∈ xs, (f x).length = w) {k : Nat} {x : β} (hx : xs[k]? = some x) :
    At (xs.flatMap f) (w * k) (f x) := by
  induction xs generalizing k with
  | nil => exact nomatch hx
  | cons y ys ih =>
      rw [List.flatMap_cons]
      obtain _ | k := k
      · obtain rfl : y = x := by simpa using hx
        exact At.start _ _
      · have hrest := (ih (fun z hz => hlen z (List.mem_cons_of_mem y hz)) hx).shift (f y)
        rwa [hlen y List.mem_cons_self, Nat.add_comm, ← Nat.mul_succ] at hrest

/-- Wherever `w` bytes fit, some number is written. -/
theorem At.exists_number (data : List UInt8) (off w : Nat) (h : off + w ≤ data.length) :
    ∃ n, n < 256 ^ w ∧ At data off (beBytes w n) := by
  have hat := At.of_le h
  have hlen : ((data.drop off).take w).length = w := by
    rw [List.length_take, List.length_drop]
    omega
  refine ⟨beNat ((data.drop off).take w), ?_, ?_⟩
  · have hlt := beNat_lt ((data.drop off).take w)
    rwa [hlen] at hlt
  · have hbytes := beBytes_beNat ((data.drop off).take w)
    rw [hlen] at hbytes
    rwa [hbytes]

end Wire
