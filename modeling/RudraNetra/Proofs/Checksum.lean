/-
What the checksum of a frame detects.

`crc16` is what a shift register of 16 bits with the taps `0xA001` holds after the payload
was fed to it, the low bit of each byte first, so it changes with every burst of at most
16 bits (`crc16_ne_of_burst`).

`crcValid` compares it with both halves of the checksum field, and only one of them carries
a checksum: the other is zero, which is a checksum too.  A payload damaged into one with the
checksum zero is therefore taken for intact, whatever was sent.  These are the payloads that
end in their own checksum (`crc16_eq_zero_iff`).
-/
import RudraNetra.Codec.Framing
import RudraNetra.Lib.ShiftRegister

namespace RudraNetra

open Wire ShiftRegister

/-! ### The register -/

/-- The taps of the checksum, as bits. -/
def crcTaps : BitVec 16 := 0xA001#16

/-- A byte in the order in which it is sent. -/
def byteBits (b : UInt8) : List Bool := (List.range 8).map b.toBitVec.getLsbD

/-- A byte string in the order in which it is sent. -/
def bitsOf (data : List UInt8) : List Bool := data.flatMap byteBits

theorem crcShift_toBitVec (c : UInt16) : (crcShift c).toBitVec = shift crcTaps c.toBitVec := by
  have hlow : (c &&& 1 ≠ 0) ↔ c.toBitVec.getLsbD 0 = true := by
    rw [Ne, ← UInt16.toBitVec_inj, UInt16.toBitVec_and]
    have h := BitVec.and_one_eq_setWidth_ofBool_getLsbD (x := c.toBitVec)
    cases hbit : c.toBitVec.getLsbD 0 <;> rw [hbit] at h <;> simp [h]
  unfold crcShift shift
  by_cases hc : c &&& 1 ≠ 0
  · rw [if_pos hc, if_pos (hlow.mp hc)]
    rfl
  · rw [if_neg hc, if_neg (fun h => hc (hlow.mpr h))]
    rfl

theorem load_byteBits (b : UInt8) : load 16 (byteBits b) = b.toUInt16.toBitVec := by
  ext i hi
  rw [getElem_load, byteBits]
  by_cases h : i < 8
  · simp [h]
  · simp [h, BitVec.getLsbD_of_ge b.toBitVec i (by omega)]

theorem crcByte_toBitVec (c : UInt16) (b : UInt8) :
    (crcByte c b).toBitVec = feeds crcTaps c.toBitVec (byteBits b) := by
  have hshifts : ∀ k (c : UInt16), (Nat.iterate crcShift k c).toBitVec =
      (shift crcTaps)^[k] c.toBitVec := by
    intro k
    induction k with
    | zero => intro c; rfl
    | succ k ih =>
        intro c
        rw [Function.iterate_succ_apply, ih, crcShift_toBitVec, Function.iterate_succ_apply]
  rw [crcByte, hshifts, UInt16.toBitVec_xor, ← load_byteBits, feeds_eq_iterate (by simp [byteBits])]
  simp [byteBits]

/-- The checksum is what the bits of the data leave in the register. -/
theorem crc16_toBitVec (data : List UInt8) :
    (crc16 data).toBitVec = feeds crcTaps 0 (bitsOf data) := by
  have hloop : ∀ (data : List UInt8) (c : UInt16), (data.foldl crcByte c).toBitVec =
      feeds crcTaps c.toBitVec (bitsOf data) := by
    intro data
    induction data with
    | nil => intro c; rfl
    | cons b data ih =>
        intro c
        rw [List.foldl_cons, ih, crcByte_toBitVec, bitsOf, bitsOf, List.flatMap_cons, feeds_append]
  exact hloop data 0

theorem bitsOf_append (p q : List UInt8) : bitsOf (p ++ q) = bitsOf p ++ bitsOf q :=
  List.flatMap_append

@[simp] theorem byteBits_length (b : UInt8) : (byteBits b).length = 8 := by
  simp [byteBits]

theorem byteBits_injective : Function.Injective byteBits := by
  intro b b' h
  have hload : load 16 (byteBits b) = load 16 (byteBits b') := by rw [h]
  rw [load_byteBits, load_byteBits, UInt16.toBitVec_inj] at hload
  have hnat := congrArg UInt16.toNat hload
  rw [UInt8.toNat_toUInt16, UInt8.toNat_toUInt16] at hnat
  exact UInt8.toNat_inj.mp hnat

/-- The bits of byte strings of one length differ if the strings do. -/
theorem bitsOf_injective {p p' : List UInt8} (hlen : p.length = p'.length)
    (h : bitsOf p = bitsOf p') : p = p' := by
  induction p generalizing p' with
  | nil => exact (List.length_eq_zero_iff.mp hlen.symm).symm
  | cons b p ih =>
      cases p' with
      | nil => simp at hlen
      | cons b' p' =>
          obtain ⟨hhead, htail⟩ := List.append_inj h (by simp)
          rw [byteBits_injective hhead, ih (Nat.succ.inj hlen) htail]

theorem bitsOf_length (p : List UInt8) : (bitsOf p).length = 8 * p.length := by
  induction p with
  | nil => rfl
  | cons b p ih =>
      rw [bitsOf, List.flatMap_cons, List.length_append, byteBits_length, ← bitsOf, ih,
        List.length_cons]
      omega

/-! ### Bursts -/

/-- Two payloads of one length that differ in 16 bits in a row at most. -/
structure Burst (p p' : List UInt8) : Prop where
  length_eq : p.length = p'.length
  ne : p ≠ p'
  within : DifferWithin 16 (bitsOf p) (bitsOf p')

/-- The register comes out of a burst changed, whatever was in it. -/
theorem Burst.feeds_ne {p p' : List UInt8} (h : Burst p p') (c : BitVec 16) :
    feeds crcTaps c (bitsOf p) ≠ feeds crcTaps c (bitsOf p') := by
  refine feeds_ne_of_differWithin (by decide) c ?_ ?_ h.within
  · rw [bitsOf_length, bitsOf_length, h.length_eq]
  · intro hbits
    exact h.ne (bitsOf_injective h.length_eq hbits)

/-- **The checksum changes with every burst of at most 16 bits.** -/
theorem crc16_ne_of_burst {p p' : List UInt8} (h : Burst p p') : crc16 p ≠ crc16 p' := by
  intro hsame
  refine h.feeds_ne 0 ?_
  rw [← crc16_toBitVec, ← crc16_toBitVec, hsame]

/-- Damage to two bytes behind each other is a burst. -/
theorem Burst.of_append {pre us vs post : List UInt8} (hlen : us.length = vs.length)
    (hle : us.length ≤ 2) (hne : us ≠ vs) : Burst (pre ++ (us ++ post)) (pre ++ (vs ++ post)) where
  length_eq := by simp [hlen]
  ne := by simpa using hne
  within := by
    rw [bitsOf_append, bitsOf_append, bitsOf_append, bitsOf_append]
    apply DifferWithin.append
    · rw [bitsOf_length, bitsOf_length, hlen]
    · rw [bitsOf_length]
      omega

theorem crc16_ne_of_burst_digits : crc16 ([0x31, 0x32] ++ ([0x33, 0x34] ++ [0x35])) ≠
    crc16 ([0x31, 0x32] ++ ([0xB3, 0x35] ++ [0x35])) :=
  crc16_ne_of_burst (.of_append rfl (by decide) (by decide))

/-! ### Payloads with the checksum zero -/

/-- A checksum in its first layout, the low byte first. -/
def littleEndian (c : UInt16) : List UInt8 := (beBytes 2 c.toNat).reverse

@[simp] theorem littleEndian_length (c : UInt16) : (littleEndian c).length = 2 := by
  simp [littleEndian]

/-- Fed to the register a checksum stands where it came from. -/
theorem load_littleEndian (c : UInt16) : load 16 (bitsOf (littleEndian c)) = c.toBitVec := by
  have hbytes : bitsOf (littleEndian c) =
      byteBits (UInt8.ofNat c.toNat) ++ byteBits (UInt8.ofNat (c.toNat / 256)) := by
    simp [bitsOf, littleEndian, beBytes]
  have hbit : ∀ (n i : Nat), i < 8 → (byteBits (UInt8.ofNat n))[i]? = some (n.testBit i) := by
    intro n i hi
    rw [byteBits, List.getElem?_map, List.getElem?_range hi, Option.map_some, UInt8.toBitVec_ofNat',
      BitVec.getLsbD_ofNat]
    simp [hi]
  ext i hi
  rw [getElem_load, ← BitVec.getLsbD_eq_getElem, hbytes, List.getD_eq_getElem?_getD]
  rcases Nat.lt_or_ge i 8 with hlow | hhigh
  · rw [List.getElem?_append_left (by simpa using hlow), hbit _ _ hlow]
    rfl
  · rw [List.getElem?_append_right (by simpa using hhigh), byteBits_length, hbit _ _ (by omega),
      Option.getD_some, show 256 = 2 ^ 8 from rfl, Nat.testBit_div_two_pow,
      Nat.sub_add_cancel hhigh]
    rfl

/-- The single byte zero, or data behind which its own checksum stands. -/
def EndsInChecksum (data : List UInt8) : Prop :=
  data = [0] ∨ ∃ q, data = q ++ littleEndian (crc16 q)

theorem crc16_append_eq_zero_iff {q t : List UInt8} (ht : t.length = 2) :
    crc16 (q ++ t) = 0 ↔ t = littleEndian (crc16 q) := by
  have hfit : (bitsOf t).length ≤ 16 := by rw [bitsOf_length, ht]
  rw [← UInt16.toBitVec_inj, crc16_toBitVec, bitsOf_append, feeds_append, ← crc16_toBitVec]
  refine (feeds_eq_zero_iff (by decide) hfit _).trans ?_
  rw [← load_littleEndian]
  constructor
  · intro h
    refine bitsOf_injective (by simp [ht]) (load_injective ?_ hfit h.symm)
    rw [bitsOf_length, bitsOf_length, ht, littleEndian_length]
  · intro h
    rw [← h]

/-- The data whose checksum is zero. -/
theorem crc16_eq_zero_iff {data : List UInt8} (hne : data ≠ []) :
    crc16 data = 0 ↔ EndsInChecksum data := by
  unfold EndsInChecksum
  by_cases htwo : 2 ≤ data.length
  · have hlast : (data.drop (data.length - 2)).length = 2 := by
      rw [List.length_drop]
      omega
    have hsplit := List.take_append_drop (data.length - 2) data
    constructor
    · intro h
      rw [← hsplit, crc16_append_eq_zero_iff hlast] at h
      exact Or.inr ⟨data.take (data.length - 2), by rw [← h, hsplit]⟩
    · rintro (rfl | ⟨q, hq⟩)
      · simp at htwo
      · rw [hq, crc16_append_eq_zero_iff (littleEndian_length _)]
  · -- a single byte
    obtain ⟨b, rfl⟩ : ∃ b, data = [b] := by
      rw [← List.length_eq_one_iff]
      have := List.length_pos_iff.mpr hne
      omega
    have hnone : ¬ ∃ q, [b] = q ++ littleEndian (crc16 q) := by
      rintro ⟨q, hq⟩
      have hlen := congrArg List.length hq
      simp at hlen
    rw [or_iff_left hnone, ← UInt16.toBitVec_inj, crc16_toBitVec]
    refine (feeds_eq_zero_iff (by decide) (by simp [bitsOf_length]) 0).trans ?_
    have hload : load 16 (bitsOf [b]) = b.toUInt16.toBitVec := by
      rw [← load_byteBits]
      simp [bitsOf]
    rw [hload, List.singleton_inj]
    constructor
    · intro h
      have hnat : 0 = b.toUInt16.toNat := congrArg BitVec.toNat h
      rw [UInt8.toNat_toUInt16] at hnat
      exact UInt8.toNat_inj.mp hnat.symm
    · rintro rfl
      rfl

/-! ### The checksum field -/

/-- The checksum field of a device: the checksum little-endian in front of two zero bytes, or
big-endian behind them. -/
inductive Carries (c : UInt16) : List UInt8 → Prop where
  | little : Carries c (littleEndian c ++ [0, 0])
  | big : Carries c ([0, 0] ++ beBytes 2 c.toNat)

theorem beNat_crc (c : UInt16) : beNat (beBytes 2 c.toNat) = c.toNat :=
  beNat_beBytes_of_lt c.toNat_lt

/-- Against such a field two checksums are accepted, the one it carries and zero. -/
theorem crcValid_of_carries {c : UInt16} {data fieldBytes : List UInt8}
    (hfield : Carries c fieldBytes) (hne : data ≠ []) :
    (Frame.mk data fieldBytes).crcValid = true ↔ crc16 data = c ∨ crc16 data = 0 := by
  have hzero : beNat [0, 0] = 0 := rfl
  have hlittle : (littleEndian c).reverse = beBytes 2 c.toNat := List.reverse_reverse _
  have htake : (beBytes 2 c.toNat).take 2 = beBytes 2 c.toNat := List.take_of_length_le (by simp)
  rw [← UInt16.toNat_inj, ← UInt16.toNat_inj (b := 0), UInt16.toNat_zero]
  unfold Frame.crcValid
  cases hfield with
  | little =>
      rw [if_neg (by simp [hne])]
      simp [hlittle, beNat_crc, hzero]
  | big =>
      rw [if_neg (by simp [hne])]
      simp [htake, beNat_crc, hzero, or_comm]

/-- **A burst is detected unless the damaged payload ends in its own checksum.** -/
theorem crcValid_detects_iff {p p' fieldBytes : List UInt8} (hp : p ≠ [])
    (hfield : Carries (crc16 p) fieldBytes) (h : Burst p p') :
    (Frame.mk p' fieldBytes).crcValid = false ↔ ¬EndsInChecksum p' := by
  have hp' : p' ≠ [] := by
    intro hnil
    have hlen := h.length_eq
    rw [hnil, List.length_nil, List.length_eq_zero_iff] at hlen
    exact hp hlen
  have hother : crc16 p' ≠ crc16 p := by
    intro hsame
    refine h.feeds_ne 0 ?_
    rw [← crc16_toBitVec, ← crc16_toBitVec, hsame]
  rw [← crc16_eq_zero_iff hp', ← Bool.not_eq_true, crcValid_of_carries hfield hp',
    or_iff_right hother]

/-- The Codec 8 payload without records. -/
def noRecords : List UInt8 := [0x08] ++ ([0, 0] ++ [])

/-- The same codec id, and its checksum. -/
def damagedNoRecords : List UInt8 := [0x08] ++ ([0x01, 0xC6] ++ [])

/-- The damage is not seen. -/
theorem damagedNoRecords_missed : ¬∀ p p' fieldBytes : List UInt8, p ≠ [] →
    Carries (crc16 p) fieldBytes → Burst p p' → (Frame.mk p' fieldBytes).crcValid = false := by
  intro hdetected
  have hfalse := hdetected noRecords damagedNoRecords _ (by decide) .little
    (.of_append rfl (by decide) (by decide))
  have hzero : crc16 damagedNoRecords = 0 := by decide +kernel
  have htrue := (crcValid_of_carries (.little (c := crc16 noRecords))
    (show damagedNoRecords ≠ [] by decide)).mpr (.inr hzero)
  simp [hfalse] at htrue

theorem noRecords_detects : (Frame.mk [0x08, 0, 1] (littleEndian (crc16 noRecords) ++
    [0, 0])).crcValid = false ↔ ¬EndsInChecksum [0x08, 0, 1] :=
  crcValid_detects_iff (show noRecords ≠ [] by decide) .little
    (Burst.of_append (show [0, 0].length = [0, 1].length from rfl) (by decide) (by decide))

end RudraNetra
