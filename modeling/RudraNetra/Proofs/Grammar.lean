/-
The decoders read exactly the layouts of `Codec/AVLLayout.lean`.

Each level has one theorem, an equivalence: the decoder returns a result precisely
where an encoding lies, and the result is what that encoding stands for.  An element,
a group and the X group are readers, so their languages come from `Lib/Reader.lean`.
The groups of a section are read one after the other until the data ends where a count
should be; `ReadsGroups` is that, and its two equations follow the two loops.

For a whole section this says: the data begins with an encoded section, and if that
lacks groups, then fewer bytes are left than a count takes.
-/
import RudraNetra.Codec.AVLLayout
import RudraNetra.Lib.Reader

namespace RudraNetra

open Wire Go

/-! ### Elements -/

theorem readUnsigned_of_length {bytes : List UInt8} {width : Nat} (hw : width ∈ groupWidths)
    (hlen : bytes.length = width) : readUnsigned bytes width = .ok (int64 (beNat bytes)) := by
  have hread : uintAt (ε := ParseError) bytes 0 width = .ok (beNat bytes) :=
    uintAt_of_at (At.whole bytes) hlen
  simp only [groupWidths, List.mem_cons, List.not_mem_nil, or_false] at hw
  rcases hw with rfl | rfl | rfl | rfl
  all_goals
    rw [readUnsigned, hread]
    rfl

/-- One turn of `elementLoop`. -/
def fixedElement (idWidth width : Nat) : Reader ParseError UInt8 IOState := fun data offset st =>
  if offset + idWidth + width > data.length then failed (.truncatedElement width)
  else do
    let ioID ← uintAt data offset idWidth
    let bytes ← slice data (offset + idWidth) (offset + idWidth + width)
    let value ← readUnsigned bytes width
    let st := recordIO st ioID value
    return (st, offset + idWidth + width)

theorem elementLoop_eq_times (idWidth width : Nat) (data : List UInt8) (n : Nat) :
    ∀ offset st, elementLoop idWidth width data n offset st =
      (fixedElement idWidth width).times n data offset st := by
  induction n with
  | zero => exact fun _ _ => rfl
  | succ n ih =>
      intro offset st
      rw [Reader.times_succ, elementLoop, fixedElement]
      split
      · rfl
      · simp only [ih, bind_assoc, pure_bind]

theorem fixedElement_exact {idWidth width : Nat} (hw : width ∈ groupWidths) :
    (fixedElement idWidth width).Exact (Element.Fits idWidth (.fixed width))
      (Element.encode idWidth (.fixed width)) (Element.store (.fixed width)) := by
  intro data off st r hoff
  rw [fixedElement]
  constructor
  · intro h
    split at h
    · exact nomatch h
    · obtain ⟨id, hid, h⟩ := bind_eq_ok.mp h
      obtain ⟨bytes, hbytes, h⟩ := bind_eq_ok.mp h
      obtain ⟨hid_lt, hat_id⟩ := uintAt_eq_ok.mp hid
      obtain ⟨hat_bytes, hlen⟩ := slice_eq_ok.mp hbytes
      rw [readUnsigned_of_length hw hlen] at h
      refine ⟨⟨id, bytes⟩, ⟨hid_lt, hlen⟩, At.append_iff.mpr ⟨hat_id, ?_⟩, ?_⟩
      · rw [beBytes_length]
        exact hat_bytes
      · cases h
        simp only [Element.encode, Element.store, recordIO, GroupKind.header, GroupKind.rawValue,
          List.nil_append, List.length_append, beBytes_length, hlen, Nat.add_assoc]
  · intro h
    obtain ⟨e, ⟨hid_lt, hlen⟩, hat, rfl⟩ := h
    have hle := hat.le
    obtain ⟨hat_id, hat_bytes⟩ := At.append_iff.mp hat
    simp only [Element.encode, GroupKind.header, List.nil_append, List.length_append,
      beBytes_length] at hle hat_bytes
    simp only [GroupKind.Holds] at hlen
    rw [if_neg (by omega), uintAt_eq_ok.mpr ⟨hid_lt, hat_id⟩, ok_bind,
      slice_eq_ok.mpr ⟨hat_bytes, hlen⟩, ok_bind, readUnsigned_of_length hw hlen, ok_bind]
    simp only [Element.encode, Element.store, recordIO, GroupKind.header, GroupKind.rawValue,
      List.nil_append, List.length_append, beBytes_length, hlen, Nat.add_assoc]
    rfl

/-- One turn of `xLoop`. -/
def xElement : Reader ParseError UInt8 IOState := fun data offset st =>
  if offset + 4 > data.length then failed .truncatedXHeader
  else do
    let ioID ← uintAt data offset 2
    let length ← uintAt data (offset + 2) 2
    if offset + 4 + length > data.length then failed .truncatedXValue
    else do
      let value ← slice data (offset + 4) (offset + 4 + length)
      return ({ st with raw := st.raw.insert (toString ioID) (.hex (hexEncode value)) },
        offset + 4 + length)

theorem xLoop_eq_times (data : List UInt8) (n : Nat) :
    ∀ offset st, xLoop data n offset st = xElement.times n data offset st := by
  induction n with
  | zero => exact fun _ _ => rfl
  | succ n ih =>
      intro offset st
      rw [Reader.times_succ, xLoop, xElement]
      split
      · rfl
      · simp only [ih, bind_assoc]
        congr
        funext ioID
        congr
        funext length
        split
        · rfl
        · simp only [bind_assoc, pure_bind]

theorem xElement_exact : xElement.Exact (Element.Fits 2 .x) (Element.encode 2 .x)
    (Element.store .x) := by
  intro data off st r hoff
  rw [xElement]
  constructor
  · intro h
    split at h
    · exact nomatch h
    · obtain ⟨id, hid, h⟩ := bind_eq_ok.mp h
      obtain ⟨length, hlength, h⟩ := bind_eq_ok.mp h
      split at h
      · exact nomatch h
      · obtain ⟨bytes, hbytes, h⟩ := bind_eq_ok.mp h
        obtain ⟨hid_lt, hat_id⟩ := uintAt_eq_ok.mp hid
        obtain ⟨hlen_lt, hat_len⟩ := uintAt_eq_ok.mp hlength
        obtain ⟨hat_bytes, rfl⟩ := slice_eq_ok.mp hbytes
        refine ⟨⟨id, bytes⟩, ⟨hid_lt, hlen_lt⟩, ?_, ?_⟩
        · refine At.append_iff.mpr ⟨hat_id, At.append_iff.mpr ⟨?_, ?_⟩⟩
          · rw [beBytes_length]
            exact hat_len
          · rw [GroupKind.header, beBytes_length, beBytes_length]
            exact hat_bytes
        · cases h
          simp only [Element.encode, Element.store, GroupKind.header, GroupKind.rawValue,
            List.length_append, beBytes_length]
          congr 1
          omega
  · intro h
    obtain ⟨e, ⟨hid_lt, hlen_lt⟩, hat, rfl⟩ := h
    have hle := hat.le
    obtain ⟨hat_id, hat_rest⟩ := At.append_iff.mp hat
    obtain ⟨hat_len, hat_bytes⟩ := At.append_iff.mp hat_rest
    simp only [Element.encode, GroupKind.header, List.length_append,
      beBytes_length] at hle hat_len hat_bytes
    rw [if_neg (by omega), uintAt_eq_ok.mpr ⟨hid_lt, hat_id⟩, ok_bind,
      uintAt_eq_ok.mpr ⟨hlen_lt, hat_len⟩, ok_bind, if_neg (by omega),
      slice_eq_ok.mpr ⟨hat_bytes, rfl⟩, ok_bind]
    simp only [Element.encode, Element.store, GroupKind.header, GroupKind.rawValue,
      List.length_append, beBytes_length]
    rw [show off + 4 + e.bytes.length = off + (2 + (2 + e.bytes.length)) by omega]
    rfl

/-! ### Groups -/

variable {idWidth : Nat}

/-- The groups of the given kinds from `off` on, as far as the data goes: the data may end
where a count should be. -/
def ReadsGroups (idWidth : Nat) (data : List UInt8) (kinds : List GroupKind) (off : Nat)
    (st : IOState) (r : IOState × Nat) : Prop :=
  ∃ gs : List (Group idWidth), gs.map (·.kind) <+: kinds ∧
    At data off (gs.flatMap Group.encode) ∧
    (gs.map (·.kind) = kinds ∨
      data.length < off + (gs.flatMap Group.encode).length + idWidth) ∧
    r = (gs.foldl Group.store st, off + (gs.flatMap Group.encode).length)

theorem readsGroups_nil {data : List UInt8} {off : Nat} {st : IOState} {r : IOState × Nat}
    (hoff : off ≤ data.length) : ReadsGroups idWidth data [] off st r ↔ r = (st, off) := by
  constructor
  · intro h
    obtain ⟨gs, hkinds, -, -, rfl⟩ := h
    obtain rfl : gs = [] := List.map_eq_nil_iff.mp (List.prefix_nil.mp hkinds)
    rfl
  · rintro rfl
    exact ⟨[], List.nil_prefix, At.empty hoff, .inl rfl, rfl⟩

theorem readsGroups_cons {data : List UInt8} {kind : GroupKind} {kinds : List GroupKind}
    {off : Nat} {st : IOState} {r : IOState × Nat} (hoff : off ≤ data.length) :
    ReadsGroups idWidth data (kind :: kinds) off st r ↔
      (data.length < off + idWidth ∧ r = (st, off)) ∨
      ∃ g : Group idWidth, g.kind = kind ∧ At data off g.encode ∧
        ReadsGroups idWidth data kinds (off + g.encode.length) (Group.store st g) r := by
  constructor
  · intro h
    obtain ⟨_ | ⟨g, gs⟩, hkinds, hat, hend, rfl⟩ := h
    · rcases hend with hend | hend
      · exact nomatch hend
      · exact .inl ⟨hend, rfl⟩
    · rw [List.map_cons, List.cons_prefix_cons] at hkinds
      rw [List.flatMap_cons] at hat
      refine .inr ⟨g, hkinds.1, hat.left, gs, hkinds.2, hat.right, ?_, ?_⟩
      · rcases hend with hend | hend
        · exact .inl (List.cons.inj hend).2
        · refine .inr ?_
          rw [List.flatMap_cons, List.length_append] at hend
          omega
      · rw [List.flatMap_cons, List.length_append, List.foldl_cons, Nat.add_assoc]
  · intro h
    obtain ⟨hend, rfl⟩ | ⟨g, rfl, hat, gs, hkinds, hats, hend, rfl⟩ := h
    · exact ⟨[], List.nil_prefix, At.empty hoff, .inr hend, rfl⟩
    · refine ⟨g :: gs, List.cons_prefix_cons.mpr ⟨rfl, hkinds⟩, ?_, ?_, ?_⟩
      · rw [List.flatMap_cons]
        exact At.append_iff.mpr ⟨hat, hats⟩
      · rcases hend with hend | hend
        · exact .inl (congrArg (g.kind :: ·) hend)
        · refine .inr ?_
          rw [List.flatMap_cons, List.length_append]
          omega
      · rw [List.flatMap_cons, List.length_append, List.foldl_cons, Nat.add_assoc]

/-- Reading no groups. -/
theorem noGroups_eq_ok {data : List UInt8} {off : Nat} {st : IOState} {r : IOState × Nat}
    (hoff : off ≤ data.length) :
    (.ok (st, off) : Result ParseError (IOState × Nat)) = .ok r ↔
      ReadsGroups idWidth data [] off st r := by
  rw [readsGroups_nil hoff, Except.ok.injEq, eq_comm]

/-- A reader of elements of one kind makes a reader of groups of that kind. -/
theorem counted_eq_ok {read : Reader ParseError UInt8 IOState} {kind : GroupKind}
    (h : read.Exact (Element.Fits idWidth kind) (Element.encode idWidth kind)
      (Element.store kind)) {data : List UInt8} {off : Nat} {st : IOState} {r : IOState × Nat}
    (hoff : off ≤ data.length) :
    Reader.counted idWidth read data off st = .ok r ↔ ∃ g : Group idWidth, g.kind = kind ∧
      At data off g.encode ∧ r = (Group.store st g, off + g.encode.length) := by
  rw [h.counted idWidth data off st r hoff]
  constructor
  · intro h
    obtain ⟨es, ⟨hcount, hfits⟩, hat, rfl⟩ := h
    exact ⟨⟨kind, es, hcount, hfits⟩, rfl, hat, rfl⟩
  · intro h
    obtain ⟨g, rfl, hat, rfl⟩ := h
    exact ⟨g.elements, ⟨g.count_lt, g.fits⟩, hat, rfl⟩

/-- Reading a group, unless the data ends, and then the groups behind it. -/
theorem group_eq_ok {read : Reader ParseError UInt8 IOState} {kind : GroupKind}
    {kinds : List GroupKind} {data : List UInt8}
    {next : Nat → IOState → Result ParseError (IOState × Nat)}
    (hread : read.Exact (Element.Fits idWidth kind) (Element.encode idWidth kind)
      (Element.store kind))
    (hnext : ∀ off st r, off ≤ data.length →
      (next off st = .ok r ↔ ReadsGroups idWidth data kinds off st r))
    {off : Nat} {st : IOState} {r : IOState × Nat} (hoff : off ≤ data.length) :
    (if off + idWidth > data.length then .ok (st, off)
      else Reader.counted idWidth read data off st >>= fun r => next r.2 r.1) = .ok r ↔
      ReadsGroups idWidth data (kind :: kinds) off st r := by
  rw [readsGroups_cons hoff]
  by_cases hend : off + idWidth > data.length
  · have hnone : ¬ ∃ g : Group idWidth, g.kind = kind ∧ At data off g.encode ∧
        ReadsGroups idWidth data kinds (off + g.encode.length) (Group.store st g) r := by
      intro h
      obtain ⟨g, -, hat, -⟩ := h
      have hle := hat.left.le
      rw [beBytes_length] at hle
      omega
    rw [if_pos hend, or_iff_left hnone, and_iff_right (by omega), Except.ok.injEq, eq_comm]
  · rw [if_neg hend, or_iff_right (fun h => hend (by omega)), bind_eq_ok]
    constructor
    · intro ⟨r', hgroup, hrest⟩
      obtain ⟨g, hkind, hat, rfl⟩ := (counted_eq_ok hread hoff).mp hgroup
      exact ⟨g, hkind, hat, (hnext _ _ _ hat.le).mp hrest⟩
    · intro ⟨g, hkind, hat, hrest⟩
      exact ⟨_, (counted_eq_ok hread hoff).mpr ⟨g, hkind, hat, rfl⟩,
        (hnext _ _ _ hat.le).mpr hrest⟩

theorem xGroup_eq_ok {data : List UInt8} {off : Nat} {st : IOState} {r : IOState × Nat}
    (hoff : off ≤ data.length) :
    xGroup data off st = .ok r ↔ ReadsGroups 2 data [.x] off st r := by
  rw [← group_eq_ok xElement_exact (fun _ _ _ hoff => noGroups_eq_ok hoff) hoff]
  · have hpure : (fun r : IOState × Nat => (.ok (r.1, r.2) : Result ParseError _)) = pure := rfl
    simp only [xGroup, xLoop_eq_times, Reader.counted, hpure, bind_pure]

theorem groupLoop_eq_ok {data : List UInt8} {kinds : List GroupKind}
    {after : Nat → IOState → Result ParseError (IOState × Nat)}
    (hafter : ∀ off st r, off ≤ data.length →
      (after off st = .ok r ↔ ReadsGroups idWidth data kinds off st r)) :
    ∀ widths : List Nat, (∀ w ∈ widths, w ∈ groupWidths) → ∀ off st r, off ≤ data.length →
      (groupLoop idWidth data after widths off st = .ok r ↔
        ReadsGroups idWidth data (widths.map .fixed ++ kinds) off st r) := by
  intro widths
  induction widths with
  | nil => exact fun _ => hafter
  | cons width widths ih =>
      intro hw off st r hoff
      have hrest := ih fun w h => hw w (List.mem_cons_of_mem _ h)
      rw [List.map_cons, List.cons_append,
        ← group_eq_ok (fixedElement_exact (hw width List.mem_cons_self)) hrest hoff]
      simp only [groupLoop, elementLoop_eq_times, Reader.counted, bind_assoc]

/-! ### Sections -/

variable {layout : Layout}

theorem IOSection.encode_length (io : IOSection layout) :
    io.encode.length =
      layout.eventWidth + layout.idWidth + (io.groups.flatMap Group.encode).length := by
  simp only [IOSection.encode, List.length_append, beBytes_length, Nat.add_assoc]

/-- A header and the groups behind it are a section. -/
theorem readsGroups_header {data : List UInt8} {st : IOState} {r : IOState × Nat} :
    (layout.eventWidth + layout.idWidth ≤ data.length ∧ ReadsGroups layout.idWidth data
      layout.kinds (layout.eventWidth + layout.idWidth) st r) ↔
    ∃ (io : IOSection layout) (rest : List UInt8), data = io.encode ++ rest ∧
      (io.Complete ∨ rest.length < layout.idWidth) ∧ r = (io.decode st, io.encode.length) := by
  constructor
  · intro h
    obtain ⟨hlen, gs, hkinds, hat, hend, rfl⟩ := h
    obtain ⟨event, hevent, hat_event⟩ :=
      At.exists_number data 0 layout.eventWidth (by omega)
    obtain ⟨total, htotal, hat_total⟩ :=
      At.exists_number data layout.eventWidth layout.idWidth (by omega)
    let io : IOSection layout := ⟨event, total, gs, hevent, htotal, hkinds⟩
    have hlen_io : io.encode.length =
        layout.eventWidth + layout.idWidth + (gs.flatMap Group.encode).length := io.encode_length
    have hat_io : At data 0 io.encode := by
      refine At.append_iff.mpr ⟨hat_event, At.append_iff.mpr ⟨?_, ?_⟩⟩
      · rwa [beBytes_length, Nat.zero_add]
      · rwa [beBytes_length, beBytes_length, Nat.zero_add]
    obtain ⟨rest, hdata⟩ := At.zero_iff.mp hat_io
    refine ⟨io, rest, hdata, ?_, ?_⟩
    · rcases hend with hend | hend
      · exact .inl hend
      · refine .inr ?_
        rw [hdata, List.length_append, hlen_io] at hend
        omega
    · rw [hlen_io]
      rfl
  · intro h
    obtain ⟨io, rest, rfl, hend, rfl⟩ := h
    have hat : At (io.encode ++ rest) 0 io.encode := At.start _ _
    obtain ⟨-, hat_groups⟩ := At.append_iff.mp hat
    have hat_groups := hat_groups.right
    rw [beBytes_length, beBytes_length, Nat.zero_add] at hat_groups
    rw [List.length_append, io.encode_length]
    refine ⟨by omega, io.groups, io.in_order, hat_groups, ?_, rfl⟩
    rcases hend with hend | hend
    · exact .inl hend
    · refine .inr ?_
      rw [List.length_append, io.encode_length]
      omega

/-- **The IO decoder reads exactly the sections of its layout.**  A section that lacks groups is
only read where fewer bytes are left than a count takes. -/
theorem parseIOElements_eq_ok {data : List UInt8} {st : IOState} {extended : Bool}
    {r : IOState × Nat} :
    parseIOElements data st extended = .ok r ↔
      ∃ (io : IOSection (layoutOf extended)) (rest : List UInt8), data = io.encode ++ rest ∧
        (io.Complete ∨ rest.length < (layoutOf extended).idWidth) ∧
        r = (io.decode st, io.encode.length) := by
  rw [← readsGroups_header]
  obtain _ | _ := extended
  · rw [parseIOElements, if_neg Bool.false_ne_true, parseIOElementsCodec8]
    by_cases hlen : data.length < 2
    · rw [if_pos hlen]
      exact ⟨nofun, fun h => absurd h.1 (by show ¬ 2 ≤ data.length; omega)⟩
    · rw [if_neg hlen, groupLoop_eq_ok (fun _ _ _ hoff => noGroups_eq_ok hoff) groupWidths (fun _ h => h) 2 st r
        (by omega),
        List.append_nil]
      exact (and_iff_right (show 2 ≤ data.length by omega)).symm
  · rw [parseIOElements, if_pos rfl, parseIOElementsExtended]
    by_cases hlen : data.length < 3
    · rw [if_pos hlen]
      exact ⟨nofun, fun h => absurd h.1 (by show ¬ 3 ≤ data.length; omega)⟩
    · rw [if_neg hlen, groupLoop_eq_ok (fun _ _ _ hoff => xGroup_eq_ok hoff) groupWidths (fun _ h => h) 3 st r
        (by omega)]
      exact (and_iff_right (show 3 ≤ data.length by omega)).symm

/-! ### Records -/

theorem int32_toUInt32 (v : Int32) : int32 (v.toUInt32.toNat : Int) = v.toInt := by
  have hbits : v.toUInt32.toNat = v.toBitVec.toNat := rfl
  rw [int32, signed, hbits, ← Int32.toInt_toBitVec, BitVec.toInt_eq_toNat_bmod]

theorem int16_toNat (v : UInt8) : int16 (v.toNat : Int) = v.toNat := by
  have hlt := v.toNat_lt
  unfold int16 signed
  rw [Int.bmod_eq_of_le (by omega) (by omega)]

/-- The fields of a GPS part and their offsets. -/
theorem GPSPart.at_iff {data : List UInt8} {g : GPSPart} :
    At data 0 g.encode ↔ At data 0 (beBytes 8 g.timestamp.toNat) ∧
      At data 8 (beBytes 1 g.priority.toNat) ∧ At data 9 (beBytes 4 g.longitude.toUInt32.toNat) ∧
      At data 13 (beBytes 4 g.latitude.toUInt32.toNat) ∧ At data 17 (beBytes 2 g.altitude.toNat) ∧
      At data 19 (beBytes 2 g.heading.toNat) ∧ At data 21 (beBytes 1 g.satellites.toNat) ∧
      At data 22 (beBytes 2 g.speed.toNat) := by
  simp only [GPSPart.encode, At.append_iff, beBytes_length, Nat.reduceAdd]

/-- Any 24 bytes are a GPS part. -/
theorem GPSPart.exists_encode {data : List UInt8} (h : 24 ≤ data.length) :
    ∃ (g : GPSPart) (rest : List UInt8), data = g.encode ++ rest := by
  obtain ⟨ts, hts, hat_ts⟩ := At.exists_number data 0 8 (by omega)
  obtain ⟨prio, hprio, hat_prio⟩ := At.exists_number data 8 1 (by omega)
  obtain ⟨lng, hlng, hat_lng⟩ := At.exists_number data 9 4 (by omega)
  obtain ⟨lat, hlat, hat_lat⟩ := At.exists_number data 13 4 (by omega)
  obtain ⟨alt, halt, hat_alt⟩ := At.exists_number data 17 2 (by omega)
  obtain ⟨hdg, hhdg, hat_hdg⟩ := At.exists_number data 19 2 (by omega)
  obtain ⟨sat, hsat, hat_sat⟩ := At.exists_number data 21 1 (by omega)
  obtain ⟨spd, hspd, hat_spd⟩ := At.exists_number data 22 2 (by omega)
  refine ⟨⟨.ofNat ts, .ofNat prio, (UInt32.ofNat lng).toInt32, (UInt32.ofNat lat).toInt32,
    .ofNat alt, .ofNat hdg, .ofNat sat, .ofNat spd⟩, ?_⟩
  apply At.zero_iff.mp
  apply GPSPart.at_iff.mpr
  simp only [UInt32.toUInt32_toInt32, UInt64.toNat_ofNat_of_lt' hts, UInt8.toNat_ofNat_of_lt' hprio,
    UInt32.toNat_ofNat_of_lt' hlng, UInt32.toNat_ofNat_of_lt' hlat, UInt16.toNat_ofNat_of_lt' halt,
    UInt16.toNat_ofNat_of_lt' hhdg, UInt8.toNat_ofNat_of_lt' hsat, UInt16.toNat_ofNat_of_lt' hspd]
  exact ⟨hat_ts, hat_prio, hat_lng, hat_lat, hat_alt, hat_hdg, hat_sat, hat_spd⟩

/-- Behind the GPS part a record is its IO section. -/
theorem parseAVLRecord_gps (g : GPSPart) (ioData : List UInt8) (deviceID : Int) (extended : Bool) :
    parseAVLRecord (g.encode ++ ioData) deviceID extended =
      wrap .ioElements (parseIOElements ioData ⟨g.position deviceID, ∅⟩ extended) >>=
        fun r => pure (r.1.position, 24 + r.2) := by
  obtain ⟨hts, -, hlng, hlat, halt, hhdg, hsat, hspd⟩ := GPSPart.at_iff.mp (At.start g.encode ioData)
  have hio : slice (ε := ParseError) (g.encode ++ ioData) 24 (g.encode ++ ioData).length =
      .ok ioData := by
    have hat : At (g.encode ++ ioData) 24 ioData := ⟨g.encode, [], by simp, g.encode_length⟩
    rw [List.length_append, g.encode_length]
    exact slice_of_at hat rfl
  have hlen : ¬ (g.encode ++ ioData).length < 24 := by
    rw [List.length_append, g.encode_length]
    omega
  rw [parseAVLRecord, if_neg hlen, uintAt_eq_ok.mpr ⟨g.timestamp.toNat_lt, hts⟩, ok_bind,
    uintAt_eq_ok.mpr ⟨g.longitude.toUInt32.toNat_lt, hlng⟩, ok_bind,
    uintAt_eq_ok.mpr ⟨g.latitude.toUInt32.toNat_lt, hlat⟩, ok_bind,
    uintAt_eq_ok.mpr ⟨g.altitude.toNat_lt, halt⟩, ok_bind,
    uintAt_eq_ok.mpr ⟨g.heading.toNat_lt, hhdg⟩, ok_bind,
    uintAt_eq_ok.mpr ⟨g.satellites.toNat_lt, hsat⟩, ok_bind,
    uintAt_eq_ok.mpr ⟨g.speed.toNat_lt, hspd⟩, ok_bind, hio, ok_bind,
    int32_toUInt32, int32_toUInt32, int16_toNat]
  rfl

theorem AVLRecord.encode_length (r : AVLRecord layout) :
    r.encode.length = 24 + r.io.encode.length := by
  rw [AVLRecord.encode, List.length_append, r.gps.encode_length]

/-- **The record decoder reads exactly the records of its layout.** -/
theorem parseAVLRecord_eq_ok {data : List UInt8} {deviceID : Int} {extended : Bool}
    {r : Position × Nat} :
    parseAVLRecord data deviceID extended = .ok r ↔
      ∃ (a : AVLRecord (layoutOf extended)) (rest : List UInt8), data = a.encode ++ rest ∧
        (a.io.Complete ∨ rest.length < (layoutOf extended).idWidth) ∧
        r = (a.decode deviceID, a.encode.length) := by
  constructor
  · intro h
    by_cases hlen : data.length < 24
    · rw [parseAVLRecord, if_pos hlen] at h
      exact nomatch h
    · obtain ⟨g, ioData, rfl⟩ := GPSPart.exists_encode (Nat.le_of_not_lt hlen)
      rw [parseAVLRecord_gps] at h
      obtain ⟨r', hio, hr⟩ := bind_eq_ok.mp h
      obtain ⟨io, rest, rfl, hend, rfl⟩ := parseIOElements_eq_ok.mp (wrap_eq_ok.mp hio)
      refine ⟨⟨g, io⟩, rest, by rw [AVLRecord.encode, List.append_assoc], hend, ?_⟩
      rw [AVLRecord.encode_length]
      exact (Except.ok.inj hr).symm
  · intro h
    obtain ⟨a, rest, rfl, hend, rfl⟩ := h
    have hio : parseIOElements (a.io.encode ++ rest) ⟨a.gps.position deviceID, ∅⟩ extended =
        .ok (a.io.decode ⟨a.gps.position deviceID, ∅⟩, a.io.encode.length) :=
      parseIOElements_eq_ok.mpr ⟨a.io, rest, rfl, hend, rfl⟩
    rw [AVLRecord.encode, List.append_assoc, parseAVLRecord_gps, hio, wrap_ok, ok_bind,
      List.length_append, a.gps.encode_length]
    rfl

end RudraNetra
