/-
The formats as Teltonika publishes them, against the formats of this repository.

Two of them differ.  A published Codec 12 payload carries a type byte in front of the
size, and its checksum is one big-endian number of four bytes; `BuildCommandFrame`
writes no type and puts the checksum into the first two bytes, low byte first, and
`ParseCommandPayload` reads the type as the leading byte of the size.

A published Codec 8 Extended record has an event id of two bytes where the decoder
steps over one.  Everything behind it is read one byte too early: the low byte of
the total and the high byte of the first count are taken for the first count, so a
record with any elements starts with elements nobody sent.  A record without
elements is all zeros there, and comes out right, but it leaves a byte behind which
the next record starts with.
-/
import RudraNetra.Proofs.RoundTrip

namespace RudraNetra

open Wire Go

/-! ### Codec 12 -/

/-- The data field of a published Codec 12 frame. -/
def publishedPayload (type : UInt8) (text : List UInt8) : List UInt8 :=
  [codec12, 1, type] ++ (beBytes 4 text.length ++ (text ++ [1]))

/-- A published Codec 12 command. -/
def publishedCommandFrame (text : List UInt8) : List UInt8 :=
  let data := publishedPayload 0x05 text
  beBytes 4 0 ++ (beBytes 4 data.length ++ (data ++ beBytes 4 (crc16 data).toNat))

/-- The data field of a published Codec 12 response. -/
def publishedResponse (text : List UInt8) : List UInt8 := publishedPayload 0x06 text

/-- Without the type byte a command frame is one byte short. -/
theorem buildCommandFrame_ne (text : List UInt8) :
    buildCommandFrame text ≠ publishedCommandFrame text := by
  intro h
  have hlen := congrArg List.length h
  simp only [buildCommandFrame, publishedCommandFrame, publishedPayload, List.length_append,
    List.length_cons, List.length_nil, List.length_reverse, beBytes_length] at hlen
  omega

/-- A list that moves up by one behind `c` and stays what it was has only `c` in it. -/
theorem eq_replicate_of_take_cons {α : Type} {rest : List α} :
    ∀ (l : List α) (c : α), (c :: (l ++ rest)).take l.length = l → l = List.replicate l.length c := by
  intro l
  induction l with
  | nil => exact fun _ _ => rfl
  | cons x xs ih =>
      intro c h
      rw [List.length_cons, List.take_succ_cons, List.cons_append] at h
      obtain ⟨rfl, htail⟩ := List.cons.inj h
      rw [List.length_cons, List.replicate_succ, ← ih c htail]

/-- The size that is read from a response: the type byte, and the size without its low byte. -/
def misreadSize (n : Nat) : Nat := 6 * 256 ^ 3 + n / 256

theorem uintAt_publishedResponse (text : List UInt8) (hlen : text.length < 2 ^ 32) :
    uintAt (ε := ParseError) (publishedResponse text) 2 4 = .ok (misreadSize text.length) ∧
      At (publishedResponse text) 6 (UInt8.ofNat text.length :: (text ++ [1])) := by
  have hsplit : publishedResponse text = [codec12, 1] ++ ((0x06 :: beBytes 3 (text.length / 256)) ++
      (UInt8.ofNat text.length :: (text ++ [1]))) := by
    have htake := beBytes_take (w := 4) (m := 3) text.length (by omega)
    have hdrop := beBytes_drop (w := 4) (m := 3) text.length (by omega)
    have hone : beBytes 1 text.length = [UInt8.ofNat text.length] := by simp [beBytes]
    rw [publishedResponse, publishedPayload, ← List.take_append_drop 3 (beBytes 4 text.length),
      htake, hdrop, hone]
    simp
  have hat : At (publishedResponse text) 2 ((0x06 :: beBytes 3 (text.length / 256)) ++
      (UInt8.ofNat text.length :: (text ++ [1]))) :=
    ⟨[codec12, 1], [], by rw [hsplit, List.append_nil], rfl⟩
  obtain ⟨hsize, htext⟩ := At.append_iff.mp hat
  refine ⟨?_, ?_⟩
  · rw [uintAt_of_at hsize (by simp), beNat, beBytes_length,
      beNat_beBytes_of_lt (by omega)]
    rfl
  · rwa [List.length_cons, beBytes_length] at htext

/-- A response is read back only if the misread size is its size and all its bytes are the low
byte of that size. -/
theorem parseCommandPayload_publishedResponse (text : List UInt8) (hlen : text.length < 2 ^ 32) :
    parseCommandPayload (publishedResponse text) = .returns [text] none ↔
      text = List.replicate 101058054 0x06 := by
  obtain ⟨hsize, htext⟩ := uintAt_publishedResponse text hlen
  have htotal : (publishedResponse text).length = text.length + 8 := by
    simp only [publishedResponse, publishedPayload, List.length_append, List.length_cons,
      List.length_nil, beBytes_length]
    omega
  have hloop : parseCommandPayload (publishedResponse text) =
      commandLoop (publishedResponse text) 1 2 [] := by
    have hcons : publishedResponse text = codec12 :: 1 :: (0x06 :: (beBytes 4 text.length ++
        (text ++ [1]))) := rfl
    rw [hcons, parseCommandPayload, if_neg (fun h => h rfl), UInt8.toNat_one]
  have hpos : misreadSize text.length ≠ 0 := by
    unfold misreadSize
    omega
  have hbyte : UInt8.ofNat 101058054 = 0x06 := by decide
  rw [hloop, commandLoop, if_neg (by omega), hsize]
  dsimp only
  by_cases hfits : 6 + misreadSize text.length ≤ text.length + 8
  · have hslice : slice (ε := ParseError) (publishedResponse text) (2 + 4)
        (2 + 4 + misreadSize text.length) =
        .ok ((UInt8.ofNat text.length :: (text ++ [1])).take (misreadSize text.length)) := by
      have htake := List.take_append_drop (misreadSize text.length)
        (UInt8.ofNat text.length :: (text ++ [1]))
      rw [← htake] at htext
      refine slice_of_at htext.left ?_
      rw [List.length_take, List.length_cons, List.length_append, List.length_singleton]
      omega
    rw [if_neg (by omega), hslice]
    dsimp only
    rw [commandLoop, List.nil_append, Outcome.returns.injEq, and_iff_left rfl, List.singleton_inj]
    constructor
    · intro h
      have hsame : misreadSize text.length = text.length := by
        have hlen' := congrArg List.length h
        rw [List.length_take, List.length_cons, List.length_append, List.length_singleton] at hlen'
        omega
      -- a size that is its own misreading
      have hn : text.length = 101058054 := by
        unfold misreadSize at hsame
        omega
      rw [hsame] at h
      have hrep := eq_replicate_of_take_cons text _ h
      rwa [hn, hbyte] at hrep
    · intro h
      have hn : text.length = 101058054 := by rw [h, List.length_replicate]
      have hmisread : misreadSize 101058054 = 101058054 := by decide
      have hcons : UInt8.ofNat 101058054 :: (text ++ [1]) = text ++ [0x06, 1] := by
        rw [h, hbyte, ← List.cons_append, ← List.replicate_succ, List.replicate_succ', List.append_assoc]
        rfl
      rw [hn, hmisread, hcons, List.take_left' hn]
  · rw [if_pos (by omega)]
    constructor
    · intro h
      exact nomatch h
    · intro h
      have hn : text.length = 101058054 := by rw [h, List.length_replicate]
      rw [hn] at hfits
      exact absurd (by decide) hfits

/-- **No command is built as published, and but for one text no response is read back.** -/
theorem codec12_not_published (command response : List UInt8) (hlen : response.length < 2 ^ 32) :
    buildCommandFrame command ≠ publishedCommandFrame command ∧
      (parseCommandPayload (publishedResponse response) = .returns [response] none ↔
        response = List.replicate 101058054 0x06) :=
  ⟨buildCommandFrame_ne command, parseCommandPayload_publishedResponse response hlen⟩

/-- The command `getver`. -/
def getverCommand : List UInt8 := [0x67, 0x65, 0x74, 0x76, 0x65, 0x72]

/-- The response `OK`. -/
def okResponse : List UInt8 := [0x4F, 0x4B]

theorem codec12_not_published_getver : okResponse.length < 2 ^ 32 ∧
    buildCommandFrame getverCommand ≠ publishedCommandFrame getverCommand ∧
      (parseCommandPayload (publishedResponse okResponse) = .returns [okResponse] none ↔
        okResponse = List.replicate 101058054 0x06) :=
  ⟨by decide, codec12_not_published getverCommand okResponse (by decide)⟩

/-- `getver` is not built as published, and `OK` is not read back. -/
theorem codec12_getver_ok :
    buildCommandFrame getverCommand ≠ publishedCommandFrame getverCommand ∧
      parseCommandPayload (publishedResponse okResponse) ≠ .returns [okResponse] none := by
  refine ⟨buildCommandFrame_ne getverCommand, ?_⟩
  rw [Ne, parseCommandPayload_publishedResponse _ (by decide)]
  intro h
  have hlen := congrArg List.length h
  rw [List.length_replicate] at hlen
  exact absurd hlen (by decide)

/-! ### Codec 8 Extended -/

/-- The frame of published records decodes into exactly these records. -/
def DecodesPublished (records : List (SentRecord publishedLayout)) (deviceID : Int) : Prop :=
  ∃ ps, parseFrame (avlPayload codec8E (records.map (·.toAVLRecord))) deviceID = .returns ps none ∧
    List.Forall₂ (fun r pos => Decodes r.toAVLRecord deviceID pos) records ps

/-- How many IO elements each record has. -/
def elementCounts (records : List (SentRecord publishedLayout)) : List Nat :=
  records.map (·.io.elements.length)

/-- Groups without elements are their counts, all zero. -/
theorem groups_encode_of_no_elements {idWidth : Nat} (gs : List (Group idWidth))
    (h : gs.flatMap (fun g => g.elements.map (g.kind, ·)) = []) :
    gs.flatMap Group.encode = List.replicate (gs.length * idWidth) 0 := by
  have hzero : ∀ w, beBytes w 0 = List.replicate w 0 := by
    intro w
    induction w with
    | zero => rfl
    | succ w ih => rw [beBytes, ih, Nat.zero_div]; rfl
  induction gs with
  | nil => simp
  | cons g gs ih =>
      rw [List.flatMap_cons, List.append_eq_nil_iff, List.map_eq_nil_iff] at h
      rw [List.flatMap_cons, ih h.2, Group.encode, h.1, List.flatMap_nil, List.append_nil,
        List.length_nil, hzero, List.replicate_append_replicate, List.length_cons]
      congr 1
      rw [Nat.succ_mul, Nat.add_comm]

/-- Five empty groups, as the decoder's layout has them. -/
def emptyGroups : List (Group (layoutOf true).idWidth) :=
  (layoutOf true).kinds.map fun kind =>
    ⟨kind, [], Nat.pow_pos (Nat.succ_pos 255), fun _ h => absurd h List.not_mem_nil⟩

/-- The section the decoder sees in a published section without elements. -/
def misreadEmpty (io : IOSection publishedLayout) : IOSection (layoutOf true) where
  event := io.event / 256
  total := io.event % 256 * 256
  groups := emptyGroups
  event_lt := by
    have hlt : io.event < 256 ^ 2 := io.event_lt
    show _ < 256 ^ 1
    omega
  total_lt := by
    show _ < 256 ^ 2
    omega
  in_order := by decide

/-- A published record without elements is read as one without elements, and leaves a zero. -/
theorem encode_of_no_elements (r : SentRecord publishedLayout) (h : r.io.elements = []) :
    r.toAVLRecord.encode =
      (⟨r.gps, misreadEmpty r.io⟩ : AVLRecord (layoutOf true)).encode ++ [0] := by
  have hgroups : r.io.groups.length = 5 := by
    have hcomplete := congrArg List.length r.complete
    rw [List.length_map] at hcomplete
    exact hcomplete
  have htotal : r.io.total = 0 := by
    rw [r.total_eq, h]
    rfl
  have hempty : r.io.groups.flatMap Group.encode = List.replicate 10 0 := by
    rw [groups_encode_of_no_elements r.io.groups h, hgroups]
    rfl
  have hevent : beBytes 2 r.io.event =
      beBytes 1 (r.io.event / 256) ++ [UInt8.ofNat r.io.event] := by simp [beBytes]
  have hmisread : beBytes 2 (r.io.event % 256 * 256) = [UInt8.ofNat r.io.event, 0] := by
    have hhigh : UInt8.ofNat (r.io.event % 256) = UInt8.ofNat r.io.event := by
      apply UInt8.toNat_inj.mp
      simp
    have hlow : UInt8.ofNat (r.io.event % 256 * 256) = 0 := by
      apply UInt8.toNat_inj.mp
      simp
    simp [beBytes, hhigh, hlow]
  rw [AVLRecord.encode, AVLRecord.encode, IOSection.encode, IOSection.encode, hempty, htotal]
  show _ ++ (beBytes 2 r.io.event ++ (beBytes 2 0 ++ _)) =
    _ ++ (beBytes 1 (r.io.event / 256) ++ (beBytes 2 (r.io.event % 256 * 256) ++ _)) ++ [0]
  rw [hevent, hmisread]
  simp only [List.append_assoc]
  rfl

/-- A single published record without elements decodes. -/
theorem decodesPublished_of_no_elements (r : SentRecord publishedLayout)
    (h : r.io.elements = []) (deviceID : Int) : DecodesPublished [r] deviceID := by
  let a : AVLRecord (layoutOf true) := ⟨r.gps, misreadEmpty r.io⟩
  have ha : a.io.elements = [] := rfl
  refine ⟨[a.decode deviceID], ?_, ?_⟩
  · show parseFrame (codecOf true :: _) deviceID = _
    rw [parseFrame_codecOf true _ _ (List.cons_ne_nil _ _)]
    apply parseRecords_eq_returns.mpr
    refine ⟨[a], [0, 1], by simp, ?_, ⟨.inl rfl, trivial⟩, rfl⟩
    rw [List.map_singleton, List.flatMap_singleton, List.flatMap_singleton,
      encode_of_no_elements r h, List.append_assoc]
    rfl
  · have hdecodes := a.decodes (by rw [ha]; exact List.nodup_nil) deviceID
    refine .cons { hdecodes with raw_iff := ?_ } .nil
    rw [h, ← ha]
    exact hdecodes.raw_iff

/-! The other numbers of records and elements fail. -/

/-- The numbers in order, without one of them. -/
def numberBeside (skip i : Nat) : Nat := if i < skip then i else i + 1

theorem numberBeside_ne (skip i : Nat) : numberBeside skip i ≠ skip := by
  unfold numberBeside
  split <;> omega

theorem numberBeside_le (skip i : Nat) : numberBeside skip i ≤ i + 1 := by
  unfold numberBeside
  split <;> omega

theorem numberBeside_injective (skip : Nat) : Function.Injective (numberBeside skip) := by
  intro i j h
  unfold numberBeside at h
  split at h <;> split at h <;> omega

/-- The id the decoder takes its first element to have, if `n` elements are sent in the first
group: the low byte of `n`, and the high byte of the first id. -/
def misreadID (n : Nat) : Nat := n % 256 * 256

/-- Elements of one byte, none of them with the id that will be misread. -/
def crowdedElements (n : Nat) : List Element :=
  (List.range n).map fun i => ⟨numberBeside (misreadID n) i, [0]⟩

theorem crowdedElements_length (n : Nat) : (crowdedElements n).length = n := by
  rw [crowdedElements, List.length_map, List.length_range]

theorem crowdedElements_fits {n : Nat} (h : n ≤ 65535) :
    ∀ e ∈ crowdedElements n, e.Fits 2 (.fixed 1) := by
  intro e he
  obtain ⟨i, hi, rfl⟩ := List.mem_map.mp he
  have hlt := List.mem_range.mp hi
  have hle := numberBeside_le (misreadID n) i
  refine ⟨?_, rfl⟩
  show numberBeside (misreadID n) i < 256 ^ 2
  omega

theorem crowdedElements_ids (n : Nat) :
    (crowdedElements n).map (·.id) = (List.range n).map (numberBeside (misreadID n)) := by
  rw [crowdedElements, List.map_map]
  rfl

/-- A published section with `n` elements, all in the first group. -/
def crowdedSection (n : Nat) (h : n ≤ 65535) : IOSection publishedLayout where
  event := 0
  total := n
  groups :=
    [⟨.fixed 1, crowdedElements n,
        by rw [crowdedElements_length]; exact Nat.lt_succ_of_le h, crowdedElements_fits h⟩,
      ⟨.fixed 2, [], by decide, nofun⟩, ⟨.fixed 4, [], by decide, nofun⟩,
      ⟨.fixed 8, [], by decide, nofun⟩, ⟨.x, [], by decide, nofun⟩]
  event_lt := by decide
  total_lt := Nat.lt_succ_of_le h
  in_order := List.prefix_refl _

theorem crowdedSection_elements (n : Nat) (h : n ≤ 65535) :
    (crowdedSection n h).elements = (crowdedElements n).map (GroupKind.fixed 1, ·) := by
  simp [IOSection.elements, crowdedSection]

theorem crowdedSection_elements_length (n : Nat) (h : n ≤ 65535) :
    (crowdedSection n h).elements.length = n := by
  rw [crowdedSection_elements, List.length_map, crowdedElements_length]

/-- The bytes of the section up to the first id. -/
theorem crowdedSection_encode (n : Nat) (h : n + 1 ≤ 65535) :
    ∃ rest, (crowdedSection (n + 1) h).encode = [0, 0, UInt8.ofNat ((n + 1) / 256)] ++
      ([UInt8.ofNat (n + 1), UInt8.ofNat ((n + 1) / 256)] ++ ([UInt8.ofNat (n + 1), 0] ++ rest)) := by
  have hid : UInt8.ofNat (numberBeside (misreadID (n + 1)) 0 / 256) = 0 := by
    have hle := numberBeside_le (misreadID (n + 1)) 0
    rw [Nat.div_eq_of_lt (by omega)]
    rfl
  have helements : ∃ es, crowdedElements (n + 1) =
      ⟨numberBeside (misreadID (n + 1)) 0, [0]⟩ :: es := by
    rw [crowdedElements, List.range_succ_eq_map, List.map_cons]
    exact ⟨_, rfl⟩
  obtain ⟨es, hes⟩ := helements
  have hencode : ∃ rest, (crowdedSection (n + 1) h).encode = beBytes 2 0 ++ (beBytes 2 (n + 1) ++
      (beBytes 2 (crowdedElements (n + 1)).length ++
        ((crowdedElements (n + 1)).flatMap (Element.encode 2 (.fixed 1)) ++ rest))) := by
    rw [IOSection.encode, crowdedSection, List.flatMap_cons, Group.encode, List.append_assoc]
    exact ⟨_, rfl⟩
  obtain ⟨rest, hrest⟩ := hencode
  rw [hrest, crowdedElements_length, hes, List.flatMap_cons, Element.encode]
  simp only [beBytes, hid, Nat.pow_one, Nat.pow_zero, Nat.div_one, List.cons_append,
    List.nil_append, List.append_assoc]
  exact ⟨_, rfl⟩

/-- A published record with that section and the last of all timestamps. -/
def crowdedRecord (n : Nat) (h : n ≤ 65535) : SentRecord publishedLayout where
  gps := ⟨0xFFFFFFFFFFFFFFFF, 0, 0, 0, 0, 0, 0, 0⟩
  io := crowdedSection n h
  complete := rfl
  total_eq := by
    rw [crowdedSection_elements_length]
    exact (Nat.mod_eq_of_lt (Nat.lt_succ_of_le h)).symm
  distinct := by
    rw [crowdedSection_elements, List.map_map]
    show ((crowdedElements n).map (·.id)).Nodup
    rw [crowdedElements_ids]
    exact List.nodup_range.map (numberBeside_injective _)

/-- The decoder finds an element in a crowded record that was not sent. -/
theorem crowdedRecord_misread {n : Nat} {h : n + 1 ≤ 65535} {a : AVLRecord (layoutOf true)}
    {rest rest' : List UInt8}
    (hdata : (crowdedRecord (n + 1) h).encode ++ rest = a.encode ++ rest')
    (hend : a.io.Complete ∨ rest'.length < (layoutOf true).idWidth) :
    ∃ e ∈ a.io.elements, e.2.id = misreadID (n + 1) := by
  obtain ⟨more, hmore⟩ := crowdedSection_encode n h
  -- the sections begin at the same byte
  have hio : (crowdedSection (n + 1) h).encode ++ rest = a.io.encode ++ rest' := by
    rw [AVLRecord.encode, AVLRecord.encode, List.append_assoc, List.append_assoc] at hdata
    exact (List.append_inj hdata (by rw [GPSPart.encode_length, GPSPart.encode_length])).2
  have hsent : At (a.io.encode ++ rest') 0 (crowdedSection (n + 1) h).encode := by
    rw [← hio]
    exact At.start _ _
  rw [hmore] at hsent
  obtain ⟨hcount_sent, hid_sent⟩ := At.append_iff.mp hsent.right
  have hat : At (a.io.encode ++ rest') 0 a.io.encode := At.start _ _
  have hgroups := (At.append_iff.mp (At.append_iff.mp hat).2).2
  rw [beBytes_length, beBytes_length] at hgroups
  rcases hg : a.io.groups with _ | ⟨g, gs⟩
  · -- a section without groups is too short
    exfalso
    have hshort : rest'.length < 2 := by
      rcases hend with hend | hend
      · rw [IOSection.Complete, hg] at hend
        exact absurd (congrArg List.length hend) (by decide)
      · exact hend
    have hle := hid_sent.le
    have hlen := a.io.encode_length
    rw [hg] at hlen
    have hheader : (layoutOf true).eventWidth + (layoutOf true).idWidth = 3 := rfl
    simp only [List.length_append, List.length_cons, List.length_nil, List.flatMap_nil] at hle hlen
    omega
  · rw [hg, List.flatMap_cons] at hgroups
    obtain ⟨hcount, helements⟩ := At.append_iff.mp hgroups.left
    rw [beBytes_length] at helements
    have hread_count := uintAt_eq_ok (ε := ParseError).mpr ⟨g.count_lt, hcount⟩
    have hread_count' := uintAt_of_at (ε := ParseError) (w := 2) hcount_sent rfl
    have hcount_eq : g.elements.length =
        beNat [UInt8.ofNat (n + 1), UInt8.ofNat ((n + 1) / 256)] :=
      Except.ok.inj (hread_count.symm.trans hread_count')
    rcases he : g.elements with _ | ⟨e, es⟩
    · -- neither byte of the total is zero unless the total is
      exfalso
      rw [he] at hcount_eq
      simp only [beNat, List.length_cons, List.length_nil, UInt8.toNat_ofNat'] at hcount_eq
      omega
    · rw [he, List.flatMap_cons] at helements
      have hread_id := uintAt_eq_ok (ε := ParseError).mpr
        ⟨(g.fits e (by rw [he]; exact List.mem_cons_self)).1, helements.left.left⟩
      have hread_id' := uintAt_of_at (ε := ParseError) (w := 2) hid_sent.left rfl
      have hid_eq : e.id = beNat [UInt8.ofNat (n + 1), 0] :=
        Except.ok.inj (hread_id.symm.trans hread_id')
      refine ⟨(g.kind, e), ?_, ?_⟩
      · rw [IOSection.elements, hg, List.flatMap_cons, he]
        exact List.mem_cons_self
      · rw [hid_eq]
        simp [beNat, misreadID]

theorem elementCounts_crowded (counts : List Nat) (h : ∀ n ∈ counts, n ≤ 65535) :
    elementCounts (counts.pmap crowdedRecord h) = counts := by
  induction counts with
  | nil => rfl
  | cons n rest ih =>
      rw [List.pmap_cons, elementCounts, List.map_cons, ← elementCounts, ih]
      exact congrArg (· :: rest) (crowdedSection_elements_length n (h n List.mem_cons_self))

/-- If a frame decodes, the decoder's records lie where the published ones do. -/
theorem DecodesPublished.records {records : List (SentRecord publishedLayout)} {deviceID : Int}
    (h : DecodesPublished records deviceID) :
    ∃ (as : List (AVLRecord (layoutOf true))) (tail : List UInt8),
      (records.map (·.toAVLRecord)).flatMap AVLRecord.encode ++ [UInt8.ofNat records.length] =
        as.flatMap AVLRecord.encode ++ tail ∧ Tight as tail ∧
      List.Forall₂ (fun r a => Decodes r.toAVLRecord deviceID (a.decode deviceID)) records as := by
  obtain ⟨ps, hparse, hdecodes⟩ := h
  have hcodec : avlPayload codec8E (records.map (·.toAVLRecord)) = codecOf true ::
      UInt8.ofNat records.length :: ((records.map (·.toAVLRecord)).flatMap AVLRecord.encode ++
        [UInt8.ofNat records.length]) := by
    rw [avlPayload, List.length_map]
    rfl
  rw [hcodec, parseFrame_codecOf true _ _ (List.cons_ne_nil _ _)] at hparse
  obtain ⟨as, tail, -, hdata, htight, rfl⟩ := parseRecords_eq_returns.mp hparse
  exact ⟨as, tail, (List.cons.inj hdata).2, htight, List.forall₂_map_right_iff.mp hdecodes⟩

/-- A first record with elements brings in one that was not sent. -/
theorem not_decodes_of_elements {n : Nat} {h : n + 1 ≤ 65535}
    {records : List (SentRecord publishedLayout)} {deviceID : Int} :
    ¬ DecodesPublished (crowdedRecord (n + 1) h :: records) deviceID := by
  intro hdecodes
  obtain ⟨as, tail, hdata, htight, hrecords⟩ := hdecodes.records
  obtain _ | ⟨hfirst, -⟩ := hrecords
  rename_i a as
  rw [List.map_cons, List.flatMap_cons, List.flatMap_cons, List.append_assoc,
    List.append_assoc] at hdata
  obtain ⟨e, he, hid⟩ := crowdedRecord_misread hdata htight.1
  obtain ⟨value, hraw⟩ := AVLRecord.decode_raw_of_mem he deviceID
  obtain ⟨e', he', hkey, -⟩ := (hfirst.raw_iff _ _).mp hraw
  -- the id is none of those that were sent
  have hids : e'.2.id ∈ (crowdedElements (n + 1)).map (·.id) := by
    obtain ⟨e'', he'', rfl⟩ := List.mem_map.mp
      ((crowdedSection_elements (n + 1) h) ▸ he' : e' ∈ (crowdedElements (n + 1)).map _)
    exact List.mem_map_of_mem he''
  rw [crowdedElements_ids, ← toString_injective hkey, hid] at hids
  obtain ⟨i, -, hi⟩ := List.mem_map.mp hids
  exact numberBeside_ne _ _ hi

/-- A record behind one without elements is read one byte too early. -/
theorem not_decodes_of_two {r : SentRecord publishedLayout} (hempty : r.io.elements = []) {m : Nat}
    {h : m ≤ 65535} {records : List (SentRecord publishedLayout)} {deviceID : Int} :
    ¬ DecodesPublished (r :: crowdedRecord m h :: records) deviceID := by
  intro hdecodes
  obtain ⟨as, tail, hdata, htight, hrecords⟩ := hdecodes.records
  rcases hrecords with _ | @⟨_, a, _, _, -, _ | @⟨_, b, _, as, hsecond, -⟩⟩
  simp only [List.map_cons, List.flatMap_cons, List.append_assoc] at hdata
  rw [encode_of_no_elements r hempty, List.append_assoc] at hdata
  have htight := htight.1
  rw [List.flatMap_cons, List.append_assoc] at htight
  have hrest := AVLRecord.encode_unique hdata (.inl rfl) htight
  -- the second record begins with the byte left behind by the first
  have hsent : At (b.encode ++ (as.flatMap AVLRecord.encode ++ tail)) 0
      [0, 0xFF, 0xFF, 0xFF, 0xFF, 0xFF, 0xFF, 0xFF] := by
    have hbytes : ∃ more, (crowdedRecord m h).encode =
        [0xFF, 0xFF, 0xFF, 0xFF, 0xFF, 0xFF, 0xFF] ++ more := by
      have htimestamp : beBytes 8 (crowdedRecord m h).gps.timestamp.toNat =
          [0xFF, 0xFF, 0xFF, 0xFF, 0xFF, 0xFF, 0xFF] ++ [0xFF] := by
        show beBytes 8 (0xFFFFFFFFFFFFFFFF : UInt64).toNat = _
        decide
      rw [AVLRecord.encode, GPSPart.encode, htimestamp, List.append_assoc, List.append_assoc]
      exact ⟨_, rfl⟩
    obtain ⟨more, hmore⟩ := hbytes
    rw [← hrest, hmore, List.append_assoc, ← List.append_assoc]
    exact At.start _ _
  have hread' := uintAt_of_at (ε := ParseError) (w := 8) hsent rfl
  have hgps : At (b.encode ++ (as.flatMap AVLRecord.encode ++ tail)) 0 b.gps.encode := by
    rw [AVLRecord.encode, List.append_assoc]
    exact At.start _ _
  have hread := uintAt_eq_ok (ε := ParseError).mpr
    ⟨b.gps.timestamp.toNat_lt, (GPSPart.at_iff.mp hgps).1⟩
  have hts := Except.ok.inj (hread.symm.trans hread')
  have htime : (b.decode deviceID).time = int64 b.gps.timestamp.toNat := by
    have hfields := b.decode_gpsFields deviceID
    simp only [Position.gpsFields, GPSPart.position, Prod.mk.injEq] at hfields
    exact hfields.2.1
  rw [hts] at htime
  have hbad : int64 (0xFFFFFFFFFFFFFFFF : UInt64).toNat =
      int64 (beNat [0, 0xFF, 0xFF, 0xFF, 0xFF, 0xFF, 0xFF, 0xFF]) :=
    hsecond.time_eq.symm.trans htime
  exact absurd hbad (by decide)

/-- **Of published frames only a single record without IO elements decodes.**  For any other
number of records or elements some frame of that kind does not. -/
theorem decodesPublished_iff (counts : List Nat) (deviceID : Int) (hne : counts ≠ [])
    (hle : ∀ n ∈ counts, n ≤ 65535) :
    (∀ records, elementCounts records = counts → DecodesPublished records deviceID) ↔
      counts = [0] := by
  constructor
  · intro hall
    have hdecodes := hall (counts.pmap crowdedRecord hle) (elementCounts_crowded counts hle)
    obtain _ | ⟨_ | n, _ | ⟨m, rest⟩⟩ := counts
    · exact absurd rfl hne
    · rfl
    · exact absurd hdecodes (not_decodes_of_two rfl)
    · exact absurd hdecodes not_decodes_of_elements
    · exact absurd hdecodes not_decodes_of_elements
  · intro h records hcounts
    rw [h, elementCounts, List.map_eq_singleton_iff] at hcounts
    obtain ⟨r, rfl, hlen⟩ := hcounts
    exact decodesPublished_of_no_elements r (List.length_eq_zero_iff.mp hlen) deviceID

theorem decodesPublished_iff_single : [0] ≠ [] ∧ (∀ n ∈ [0], n ≤ 65535) ∧
    ((∀ records, elementCounts records = [0] → DecodesPublished records 7) ↔ [0] = [0]) :=
  ⟨by decide, by decide, decodesPublished_iff [0] 7 (by decide) (by decide)⟩

/-- A published record with a single element: the ignition is on. -/
def ignitionRecord : SentRecord publishedLayout where
  gps := ⟨1700000000000, 0, 772090000, 286139000, 216, 90, 12, 40⟩
  io :=
    { event := 0
      total := 1
      groups :=
        [⟨.fixed 1, [⟨239, [1]⟩], by decide, by decide⟩, ⟨.fixed 2, [], by decide, nofun⟩,
          ⟨.fixed 4, [], by decide, nofun⟩, ⟨.fixed 8, [], by decide, nofun⟩,
          ⟨.x, [], by decide, nofun⟩]
      event_lt := by decide
      total_lt := by decide
      in_order := by decide }
  complete := rfl
  total_eq := rfl
  distinct := by decide

/-- The total of one and the first count are read as a count of 256. -/
theorem not_decodesPublished_ignitionRecord : ¬ DecodesPublished [ignitionRecord] 7 := by
  intro ⟨ps, hparse, _⟩
  have hread : parseFrame (avlPayload codec8E ([ignitionRecord].map (·.toAVLRecord))) 7 =
      .returns [] (some (.record 0 (.ioElements (.truncatedElement 1)))) := rfl
  exact nomatch hread.symm.trans hparse

end RudraNetra
