/-
The handshake on a byte stream.

The packet is taken from a single read.  If the read returns less, the connection is
rejected; if it returns more, what comes behind the packet is not seen again.
-/
import RudraNetra.Proofs.Connection
import RudraNetra.Proofs.FrameStream

namespace RudraNetra

open Wire Go

/-- The handshake packet of an IMEI: its length in two bytes, and the IMEI. -/
def handshakePacket (imei : List UInt8) : List UInt8 := beBytes 2 imei.length ++ imei

/-- A read is taken for a handshake exactly if it starts with a whole packet. -/
theorem parseIMEI_eq_ok {data imei : List UInt8} :
    parseIMEI data = .ok imei ↔
      15 ≤ imei.length ∧ imei.length < 256 ^ 2 ∧ handshakePacket imei <+: data := by
  have hat : handshakePacket imei <+: data ↔
      At data 0 (beBytes 2 imei.length) ∧ At data 2 imei := by
    have happend := @At.append_iff _ data (beBytes 2 imei.length) imei 0
    rw [beBytes_length, Nat.zero_add, At.zero_iff] at happend
    rw [← happend]
    exact ⟨fun ⟨more, h⟩ => ⟨more, h.symm⟩, fun ⟨more, h⟩ => ⟨more, h.symm⟩⟩
  constructor
  · intro h
    unfold parseIMEI at h
    split_ifs at h with hshort
    obtain ⟨imeiLen, hlen, h⟩ := bind_eq_ok.mp h
    split_ifs at h with hincomplete
    obtain ⟨imei', hslice, h⟩ := bind_eq_ok.mp h
    split_ifs at h with h15
    obtain rfl := Except.ok.inj h
    obtain ⟨hlt, hnumber⟩ := uintAt_eq_ok.mp hlen
    obtain ⟨himei, rfl⟩ := slice_eq_ok.mp hslice
    exact ⟨by omega, hlt, hat.mpr ⟨hnumber, himei⟩⟩
  · intro ⟨h15, hlt, hpart⟩
    obtain ⟨hnumber, himei⟩ := hat.mp hpart
    have hle := himei.le
    rw [parseIMEI, if_neg (by omega), uintAt_eq_ok.mpr ⟨hlt, hnumber⟩, ok_bind,
      if_neg (by omega), slice_of_at himei rfl, ok_bind, if_neg (by omega)]
    rfl

@[simp] theorem handshakePacket_length (imei : List UInt8) :
    (handshakePacket imei).length = 2 + imei.length := by
  rw [handshakePacket, List.length_append, beBytes_length]

/-- No part of a packet is taken for a packet. -/
theorem handshakePacket_unique {imei imei' : List UInt8} (h : imei.length < 256 ^ 2)
    (h' : imei'.length < 256 ^ 2) (hpart : handshakePacket imei' <+: handshakePacket imei) :
    imei' = imei := by
  obtain ⟨more, hmore⟩ := hpart
  rw [handshakePacket, handshakePacket, List.append_assoc] at hmore
  obtain ⟨hlength, himei⟩ := List.append_inj hmore (by simp)
  have hsame : imei'.length = imei.length := by
    rw [← beNat_beBytes_of_lt h', hlength, beNat_beBytes_of_lt h]
  exact (List.append_inj (himei.trans (List.append_nil imei).symm) hsame).1

/-! ### Connections -/

/-- The connection is accepted, and its frames are the same as if the packet came alone. -/
def SameAsAlone (env : ConnEnv) (redis : Bool) (answer : List UInt8 → Option DeviceAnswer)
    (w : ConnWorld) (imei s : List UInt8) (reads : List (List UInt8)) : Prop :=
  ∃ r alone, handleDeviceConnection env redis answer reads w = some r ∧
    handleDeviceConnection env redis answer [handshakePacket imei, s] w = some alone ∧
    r.session.isSome ∧ r.handled.map (·.input) = alone.handled.map (·.input)

variable {env : ConnEnv} {redis : Bool} {answer : List UInt8 → Option DeviceAnswer} {w : ConnWorld}
  {imei : List UInt8} {d : DeviceAnswer}

variable (env redis answer w imei) in
/-- A first read with the whole packet in it is accepted, and the rest of it is lost. -/
theorem connection_of_packet (hanswer : answer imei = some d) (h15 : 15 ≤ imei.length)
    (hlt : imei.length < 256 ^ 2) (more : List UInt8) (rest : List (List UInt8)) :
    ∃ r, handleDeviceConnection env redis answer ((handshakePacket imei ++ more) :: rest) w = some r ∧
      r.Served env redis ⟨imei, d.deviceID, d.companyID, d.regNumber⟩ rest.flatten w := by
  have hparse : parseIMEI (handshakePacket imei ++ more) = .ok imei :=
    parseIMEI_eq_ok.mpr ⟨h15, hlt, List.prefix_append _ _⟩
  obtain ⟨r, hr, ⟨-, hno⟩ | ⟨packet, rest', imei', d', hreads, himei, hd, hserved⟩⟩ :=
    handleDeviceConnection_cases env redis answer ((handshakePacket imei ++ more) :: rest) w
  · have hnone := hno _ _ _ rfl hparse
    rw [hanswer] at hnone
    cases hnone
  · obtain ⟨rfl, rfl⟩ := List.cons.inj hreads
    obtain rfl := Except.ok.inj (hparse.symm.trans himei)
    obtain rfl := Option.some.inj (hanswer.symm.trans hd)
    exact ⟨r, hr, hserved⟩

variable (env redis answer w) in
/-- A first read with less than the packet in it is rejected. -/
theorem connection_of_part {c : List UInt8} (hlt : imei.length < 256 ^ 2)
    (hpart : c <+: handshakePacket imei) (hshort : c.length < (handshakePacket imei).length)
    (rest : List (List UInt8)) :
    ∃ r, handleDeviceConnection env redis answer (c :: rest) w = some r ∧ r.session = none := by
  obtain ⟨r, hr, ⟨hrejected, -⟩ | ⟨packet, rest', imei', d', hreads, himei, -, -⟩⟩ :=
    handleDeviceConnection_cases env redis answer (c :: rest) w
  · exact ⟨r, hr, hrejected.1⟩
  · obtain ⟨rfl, rfl⟩ := List.cons.inj hreads
    obtain ⟨-, hlt', hpacket⟩ := parseIMEI_eq_ok.mp himei
    obtain rfl := handshakePacket_unique hlt hlt' (hpacket.trans hpart)
    have hle := hpacket.length_le
    omega

/-- What a division of the stream makes of a connection. -/
theorem sameAsAlone_iff_frames (hanswer : answer imei = some d) (h15 : 15 ≤ imei.length)
    (hlt : imei.length < 256 ^ 2) {s c : List UInt8} {rest : List (List UInt8)}
    (hdivision : c ++ rest.flatten = handshakePacket imei ++ s) :
    SameAsAlone env redis answer w imei s (c :: rest) ↔
      (handshakePacket imei).length ≤ c.length ∧ (env.writeOk w.written.length = true →
        framesOf (s.drop (c.length - (handshakePacket imei).length)) = framesOf s) := by
  obtain ⟨alone, halone, hserved⟩ :=
    connection_of_packet env redis answer w imei hanswer h15 hlt [] [s]
  rw [List.append_nil] at halone
  rw [List.flatten_singleton] at hserved
  by_cases hle : (handshakePacket imei).length ≤ c.length
  · rw [and_iff_right hle]
    obtain ⟨more, rfl⟩ : handshakePacket imei <+: c :=
      List.prefix_of_prefix_length_le ⟨s, rfl⟩ ⟨rest.flatten, hdivision⟩ hle
    rw [List.append_assoc, List.append_cancel_left_eq] at hdivision
    obtain ⟨r, hr, hserved'⟩ :=
      connection_of_packet env redis answer w imei hanswer h15 hlt more rest
    have hdrop : s.drop ((handshakePacket imei ++ more).length - (handshakePacket imei).length) =
        rest.flatten := by
      rw [List.length_append, Nat.add_sub_cancel_left, ← hdivision, List.drop_left]
    rw [hdrop]
    constructor
    · intro ⟨r₁, alone₁, hr₁, halone₁, _, hsame⟩ hok
      obtain rfl := Option.some.inj (hr.symm.trans hr₁)
      obtain rfl := Option.some.inj (halone.symm.trans halone₁)
      rw [hserved.handled, hserved'.handled, if_pos hok, if_pos hok] at hsame
      exact hsame
    · intro hsame
      refine ⟨r, alone, hr, halone, ?_, ?_⟩
      · rw [hserved'.session]
        rfl
      · rw [hserved.handled, hserved'.handled]
        split_ifs with hok
        · exact hsame hok
        · rfl
  · have hpart : c <+: handshakePacket imei :=
      List.prefix_of_prefix_length_le ⟨rest.flatten, hdivision⟩ ⟨s, rfl⟩ (by omega)
    obtain ⟨r, hr, hnone⟩ :=
      connection_of_part env redis answer w hlt hpart (by omega) rest
    refine ⟨fun ⟨r₁, _, hr₁, _, hsome, _⟩ => ?_, fun h => absurd h.1 hle⟩
    obtain rfl := Option.some.inj (hr.symm.trans hr₁)
    rw [hnone] at hsome
    cases hsome

/-! ### Which first reads do no harm -/

/-- Nothing fails, and no command is delivered. -/
def calmEnv : ConnEnv :=
  ⟨⟨fun _ => true, fun _ => true, fun _ => true, fun _ => 0, fun _ => 0⟩, fun _ => none⟩

/-- Nothing has happened. -/
def freshWorld : ConnWorld :=
  ⟨⟨⟨[], [], []⟩, ⟨0, 0, 0, 0, 0⟩, 0, 0, [], []⟩, ⟨0, 0, 0, 0⟩, 0, 0, []⟩

theorem noCRC_length : ([0, 0, 0, 0] : List UInt8).length = frameCRCSize := rfl

/-- The smallest frame. -/
def smallFrame : SentFrame where
  payload := [0x0C]
  crc := [0, 0, 0, 0]
  payload_pos := Nat.one_pos
  payload_le := Nat.le_of_ble_eq_true rfl
  known := rfl
  crc_length := noCRC_length

theorem framesOf_frameStream (frames : List SentFrame) :
    framesOf (frameStream frames) = frames.map (·.toFrame) :=
  (follows_frameStream frames List.flatten_singleton).outs.trans (taken_frames frames)

theorem smallFrames_length (k : Nat) :
    (frameStream (List.replicate k smallFrame)).length = 13 * k := by
  rw [frameStream, List.length_flatMap, List.map_replicate, List.sum_replicate, smul_eq_mul,
    Nat.mul_comm]
  rfl

/-- Without some of its bytes a stream of frames is too short for them all. -/
theorem framesOf_drop_ne {k lost : Nat} (hk : 0 < k) (hlost : 0 < lost) :
    framesOf ((frameStream (List.replicate k smallFrame)).drop lost) ≠
      framesOf (frameStream (List.replicate k smallFrame)) := by
  intro hsame
  have hle := framesOf_length_le ((frameStream (List.replicate k smallFrame)).drop lost)
  rw [hsame, framesOf_frameStream, List.length_map, List.length_replicate, List.length_drop,
    smallFrames_length] at hle
  omega

/-- **The handshake does no harm exactly if the first read returns the packet and nothing else.**
A read that returns less is rejected; after one that returns more the frames are those of what is
left, and these are not always the same. -/
theorem sameAsAlone_iff (imei : List UInt8) (h15 : 15 ≤ imei.length)
    (hpacket : (handshakePacket imei).length ≤ 256) :
    (∀ env redis answer d w s c rest, answer imei = some d →
      c ++ rest.flatten = handshakePacket imei ++ s →
      (SameAsAlone env redis answer w imei s (c :: rest) ↔
        (handshakePacket imei).length ≤ c.length ∧ (env.writeOk w.written.length = true →
          framesOf (s.drop (c.length - (handshakePacket imei).length)) = framesOf s))) ∧
    ∀ k > 0, ((∀ env redis answer d w s c rest, answer imei = some d → c.length = k →
      (∀ chunk ∈ rest, chunk ≠ []) → c ++ rest.flatten = handshakePacket imei ++ s →
      SameAsAlone env redis answer w imei s (c :: rest)) ↔ k = (handshakePacket imei).length) := by
  have hlt : imei.length < 256 ^ 2 := by
    rw [handshakePacket_length] at hpacket
    omega
  refine ⟨fun env redis answer d w s c rest hanswer hdivision =>
    sameAsAlone_iff_frames hanswer h15 hlt hdivision, fun k hk => ⟨fun hall => ?_, ?_⟩⟩
  · rcases Nat.lt_trichotomy k (handshakePacket imei).length with hless | heq | hmore
    · -- the packet in two reads, and nothing behind it
      have hdivision : (handshakePacket imei).take k ++ [(handshakePacket imei).drop k].flatten =
          handshakePacket imei ++ [] := by simp
      have hlength : ((handshakePacket imei).take k).length = k := by
        rw [List.length_take]
        omega
      have hsame := hall calmEnv true (fun _ => some ⟨1, 1, ""⟩) _ freshWorld [] _ _ rfl hlength ?_
        hdivision
      · have hle := ((sameAsAlone_iff_frames rfl h15 hlt hdivision).mp hsame).1
        omega
      · intro chunk hchunk
        obtain rfl := List.mem_singleton.mp hchunk
        rw [ne_eq, List.drop_eq_nil_iff]
        omega
    · exact heq
    · -- the rest of the first read is lost, and with it a frame at least
      obtain ⟨n, rfl⟩ := Nat.exists_eq_add_of_lt hmore
      have hne := framesOf_drop_ne (Nat.succ_pos n) (Nat.succ_pos n)
      have hlong := smallFrames_length (n + 1)
      generalize frameStream (List.replicate (n + 1) smallFrame) = s at hne hlong
      have hdivision : (handshakePacket imei ++ s.take (n + 1)) ++ [s.drop (n + 1)].flatten =
          handshakePacket imei ++ s := by simp
      have hlength : (handshakePacket imei ++ s.take (n + 1)).length =
          (handshakePacket imei).length + n + 1 := by
        rw [List.length_append, List.length_take]
        omega
      have hsame := hall calmEnv true (fun _ => some ⟨1, 1, ""⟩) _ freshWorld s _ _ rfl hlength ?_
        hdivision
      · have hframes := ((sameAsAlone_iff_frames rfl h15 hlt hdivision).mp hsame).2 rfl
        rw [hlength, Nat.add_assoc, Nat.add_sub_cancel_left] at hframes
        exact absurd hframes hne
      · intro chunk hchunk
        obtain rfl := List.mem_singleton.mp hchunk
        rw [ne_eq, List.drop_eq_nil_iff]
        omega
  · rintro rfl env redis answer d w s c rest hanswer hlength - hdivision
    rw [sameAsAlone_iff_frames hanswer h15 hlt hdivision, hlength, Nat.sub_self, List.drop_zero]
    exact ⟨Nat.le_refl _, fun _ => rfl⟩

/-- An IMEI of fifteen digits. -/
def onesIMEI : List UInt8 := List.replicate 15 0x31

/-- Its packet comes in a read of its own, and a frame in two. -/
theorem sameAsAlone_iff_ones :
    SameAsAlone calmEnv true (fun _ => some ⟨7, 1, "GJ-01"⟩) freshWorld onesIMEI
      [0, 0, 0, 0, 0, 0, 0, 1, 0x0C, 0, 0, 0, 0]
      [handshakePacket onesIMEI, [0, 0, 0, 0, 0], [0, 0, 1, 0x0C, 0, 0, 0, 0]] :=
  ((sameAsAlone_iff onesIMEI (by decide) (by decide)).1 _ _ _ _ _ _ _ _ rfl rfl).mpr
    ⟨Nat.le_refl _, fun _ => rfl⟩

/-- The packet is cut behind its first byte, and the connection is rejected; or a frame comes with
it, and is lost. -/
theorem cutPacket_rejected :
    ¬ SameAsAlone calmEnv true (fun _ => some ⟨7, 1, "GJ-01"⟩) freshWorld onesIMEI []
      [[0x00], 0x0F :: onesIMEI] ∧
    ¬ SameAsAlone calmEnv true (fun _ => some ⟨7, 1, "GJ-01"⟩) freshWorld onesIMEI smallFrame.encode
      [handshakePacket onesIMEI ++ smallFrame.encode] := by
  constructor
  · intro h
    refine absurd ((sameAsAlone_iff_frames (d := ⟨7, 1, "GJ-01"⟩) ?_ ?_ ?_ ?_).mp h).1 (by decide)
    · rfl
    · decide
    · decide
    · rfl
  · intro h
    have hencode : smallFrame.encode = frameStream (List.replicate 1 smallFrame) := rfl
    rw [hencode] at h
    refine absurd (((sameAsAlone_iff_frames (d := ⟨7, 1, "GJ-01"⟩) ?_ ?_ ?_ ?_).mp h).2 rfl)
      (framesOf_drop_ne Nat.one_pos (by decide))
    · rfl
    · decide
    · decide
    · rfl

end RudraNetra
