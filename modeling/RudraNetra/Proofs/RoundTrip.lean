/-
Decoding undoes encoding.

An encoder writes complete records whose elements have different ids.  The decoder
accepts the payload, because it reads its grammar, and each position then carries the
GPS fields of its record unchanged, because no IO element is mapped onto one of them.
The raw data is a map filled with one insertion per element; as the ids differ, and
decimal texts of different numbers differ, no insertion undoes another.
-/
import RudraNetra.Proofs.Payload

namespace RudraNetra

open Wire Go

variable {layout : Layout}

/-! ### Filling a map -/

section InsertAll

variable {κ ν : Type} [DecidableEq κ]

/-- The map with all pairs inserted, one after the other. -/
def insertAll (m : Finmap fun _ : κ => ν) (pairs : List (κ × ν)) : Finmap fun _ : κ => ν :=
  pairs.foldl (fun m pair => m.insert pair.1 pair.2) m

theorem lookup_insertAll_of_notMem {pairs : List (κ × ν)} {key : κ}
    (h : key ∉ pairs.map Prod.fst) (m : Finmap fun _ : κ => ν) :
    (insertAll m pairs).lookup key = m.lookup key := by
  induction pairs generalizing m with
  | nil => rfl
  | cons pair rest ih =>
      rw [List.map_cons, List.mem_cons, not_or] at h
      rw [insertAll, List.foldl_cons, ← insertAll, ih h.2, Finmap.lookup_insert_of_ne _ h.1]

/-- With different keys, the map holds exactly the pairs. -/
theorem lookup_insertAll_iff {pairs : List (κ × ν)} (h : (pairs.map Prod.fst).Nodup) (key : κ)
    (value : ν) : ∀ m : Finmap fun _ : κ => ν, m.lookup key = none →
    ((insertAll m pairs).lookup key = some value ↔ (key, value) ∈ pairs) := by
  induction pairs with
  | nil =>
      intro m hm
      rw [insertAll, List.foldl_nil, hm]
      exact ⟨nofun, nofun⟩
  | cons pair rest ih =>
      intro m hm
      rw [List.map_cons, List.nodup_cons] at h
      rw [insertAll, List.foldl_cons, ← insertAll, List.mem_cons]
      by_cases hkey : key = pair.1
      · rw [← hkey] at h ⊢
        have hrest : (key, value) ∉ rest := fun hmem => h.1 (List.mem_map_of_mem hmem)
        rw [lookup_insertAll_of_notMem h.1, Finmap.lookup_insert, or_iff_left hrest,
          Option.some.injEq, Prod.ext_iff, and_iff_right hkey, eq_comm]
      · have hpair : (key, value) ≠ pair := fun hp => hkey (congrArg Prod.fst hp)
        rw [ih h.2 _ (by rw [Finmap.lookup_insert_of_ne _ hkey, hm]), or_iff_right hpair]

/-- Every key that was inserted has a value. -/
theorem lookup_insertAll_of_mem {pairs : List (κ × ν)} {key : κ} (h : key ∈ pairs.map Prod.fst) :
    ∀ m : Finmap fun _ : κ => ν, ∃ value, (insertAll m pairs).lookup key = some value := by
  induction pairs with
  | nil => exact nomatch h
  | cons pair rest ih =>
      intro m
      rw [insertAll, List.foldl_cons, ← insertAll]
      by_cases hrest : key ∈ rest.map Prod.fst
      · exact ih hrest _
      · obtain rfl : key = pair.1 := by
          rw [List.map_cons, List.mem_cons] at h
          exact h.resolve_right hrest
        exact ⟨pair.2, by rw [lookup_insertAll_of_notMem hrest, Finmap.lookup_insert]⟩

end InsertAll

/-- Decimal texts tell numbers apart. -/
theorem toString_injective {m n : Nat} (h : toString m = toString n) : m = n := by
  have hdigits : Nat.toDigits 10 m = Nat.toDigits 10 n := by
    have htext := congrArg String.toList h
    simpa [toString, Nat.repr] using htext
  rw [← Nat.ofDigitChars_ten_toDigits (n := m), hdigits, Nat.ofDigitChars_ten_toDigits]

/-! ### What the elements leave alone and what they fill in -/

/-- The fields of a position that come from the GPS part. -/
def Position.gpsFields (pos : Position) : Int × Int × ℚ × ℚ × ℚ × ℚ × ℚ × Int :=
  (pos.deviceID, pos.time, pos.longitude, pos.latitude, pos.altitude, pos.heading, pos.speed,
    pos.satellites)

theorem applyIOValue_gpsFields (pos : Position) (ioID : Nat) (value : Int) :
    (applyIOValue pos ioID value).gpsFields = pos.gpsFields := by
  have hite : ∀ (c : Prop) [Decidable c] (p q : Position),
      (if c then p else q).gpsFields = if c then p.gpsFields else q.gpsFields :=
    fun c _ p q => apply_ite Position.gpsFields c p q
  simp only [applyIOValue, hite]
  simp only [Position.gpsFields, ite_self]

/-- Storing the elements of all groups, one after the other. -/
def storeAll (st : IOState) (es : List (GroupKind × Element)) : IOState :=
  es.foldl (fun st e => e.2.store e.1 st) st

theorem IOSection.decode_eq_storeAll (io : IOSection layout) (st : IOState) :
    io.decode st = storeAll st io.elements := by
  rw [storeAll, IOSection.elements, List.foldl_flatMap, IOSection.decode]
  congr
  funext st g
  rw [List.foldl_map, Group.store]

/-- What mapping a number onto the position keeps, storing all elements keeps. -/
theorem storeAll_keeps {γ : Type} {field : Position → γ}
    (h : ∀ pos ioID value, field (applyIOValue pos ioID value) = field pos)
    (es : List (GroupKind × Element)) :
    ∀ st : IOState, field (storeAll st es).pos = field st.pos := by
  induction es with
  | nil => exact fun _ => rfl
  | cons e rest ih =>
      intro st
      rw [storeAll, List.foldl_cons, ← storeAll, ih]
      obtain ⟨_ | _, e⟩ := e
      · exact h _ _ _
      · rfl

/-- The key and the value an element has in the raw map. -/
def rawPair (e : GroupKind × Element) : String × RawValue :=
  (toString e.2.id, e.1.rawValue e.2.bytes)

theorem storeAll_raw (es : List (GroupKind × Element)) :
    ∀ st : IOState, (storeAll st es).raw = insertAll st.raw (es.map rawPair) := by
  induction es with
  | nil => exact fun _ => rfl
  | cons e rest ih =>
      intro st
      rw [storeAll, List.foldl_cons, ← storeAll, ih, List.map_cons, insertAll, insertAll,
        List.foldl_cons]
      rfl

theorem IOState.position_gpsFields (st : IOState) : st.position.gpsFields = st.pos.gpsFields := by
  unfold IOState.position
  split_ifs <;> rfl

theorem applyIOValue_rawData (pos : Position) (ioID : Nat) (value : Int) :
    (applyIOValue pos ioID value).rawData = pos.rawData := by
  simp only [applyIOValue, apply_ite Position.rawData, ite_self]

/-- The raw data of a position is its raw map, whether it is written down or absent. -/
theorem IOState.position_raw {st : IOState} (h : st.pos.rawData = none) (key : String) :
    st.position.raw key = st.raw.lookup key := by
  unfold IOState.position Position.raw
  by_cases hraw : st.raw = ∅
  · rw [if_pos hraw, h, hraw, Finmap.lookup_empty]
    rfl
  · rw [if_neg hraw]
    rfl

/-! ### The round trip -/

/-- The position carries the GPS fields and the IO elements of the record, and no others. -/
structure Decodes (a : AVLRecord layout) (deviceID : Int) (pos : Position) : Prop where
  deviceID_eq : pos.deviceID = deviceID
  time_eq : pos.time = int64 a.gps.timestamp.toNat
  longitude_eq : pos.longitude = (a.gps.longitude.toInt : ℚ) / 10 ^ 7
  latitude_eq : pos.latitude = (a.gps.latitude.toInt : ℚ) / 10 ^ 7
  altitude_eq : pos.altitude = (a.gps.altitude.toNat : ℚ)
  heading_eq : pos.heading = (a.gps.heading.toNat : ℚ)
  speed_eq : pos.speed = (a.gps.speed.toNat : ℚ)
  satellites_eq : pos.satellites = a.gps.satellites.toNat
  raw_iff : ∀ key value, pos.raw key = some value ↔
    ∃ e ∈ a.io.elements, key = toString e.2.id ∧ value = e.1.rawValue e.2.bytes

theorem AVLRecord.decode_gpsFields (a : AVLRecord layout) (deviceID : Int) :
    (a.decode deviceID).gpsFields = (a.gps.position deviceID).gpsFields := by
  rw [AVLRecord.decode, IOState.position_gpsFields, IOSection.decode_eq_storeAll,
    storeAll_keeps applyIOValue_gpsFields]

/-- The raw data of a record is a map filled with its elements. -/
theorem AVLRecord.decode_raw (a : AVLRecord layout) (deviceID : Int) (key : String) :
    (a.decode deviceID).raw key = (insertAll ∅ (a.io.elements.map rawPair)).lookup key := by
  have hnone : (a.io.decode ⟨a.gps.position deviceID, ∅⟩).pos.rawData = none := by
    rw [IOSection.decode_eq_storeAll, storeAll_keeps applyIOValue_rawData]
    rfl
  rw [AVLRecord.decode, IOState.position_raw hnone, IOSection.decode_eq_storeAll, storeAll_raw]

/-- Every element that was decoded has a raw value. -/
theorem AVLRecord.decode_raw_of_mem {a : AVLRecord layout} {e : GroupKind × Element}
    (he : e ∈ a.io.elements) (deviceID : Int) :
    ∃ value, (a.decode deviceID).raw (toString e.2.id) = some value := by
  simp only [AVLRecord.decode_raw]
  apply lookup_insertAll_of_mem
  rw [List.map_map]
  exact List.mem_map_of_mem (f := Prod.fst ∘ rawPair) he

theorem AVLRecord.decodes (a : AVLRecord layout) (h : (a.io.elements.map (·.2.id)).Nodup)
    (deviceID : Int) : Decodes a deviceID (a.decode deviceID) := by
  have hfields := a.decode_gpsFields deviceID
  simp only [Position.gpsFields, GPSPart.position, Prod.mk.injEq] at hfields
  obtain ⟨hdevice, htime, hlng, hlat, halt, hhdg, hspd, hsat⟩ := hfields
  refine ⟨hdevice, htime, hlng, hlat, halt, hhdg, hspd, hsat, ?_⟩
  intro key value
  have hkeys : ((a.io.elements.map rawPair).map Prod.fst).Nodup := by
    rw [List.map_map]
    have hnodup := h.map (f := fun n : Nat => toString n) fun _ _ => toString_injective
    rwa [List.map_map] at hnodup
  rw [AVLRecord.decode_raw, lookup_insertAll_iff hkeys key value _ (Finmap.lookup_empty key),
    List.mem_map]
  simp only [rawPair, Prod.mk.injEq, eq_comm]

/-- Records that have all their groups are decoded one by one. -/
theorem parseFrame_of_complete {extended : Bool} {as : List (AVLRecord (layoutOf extended))}
    (deviceID : Int) (hcount : as.length ≤ 255) (hcomplete : ∀ a ∈ as, a.io.Complete) :
    parseFrame (avlPayload (codecOf extended) as) deviceID =
      .returns (as.map (·.decode deviceID)) none := by
  rw [avlPayload, parseFrame_codecOf _ _ _ (List.cons_ne_nil _ _)]
  apply parseRecords_eq_returns.mpr
  exact ⟨as, [_], hcount, rfl, tight_of_complete _ hcomplete, rfl⟩

/-- **What an encoder writes is decoded.**  There is one position for each record, in order, with
the record's GPS fields and IO elements and no others. -/
theorem parseFrame_avlPayload (extended : Bool) (records : List (SentRecord (layoutOf extended)))
    (deviceID : Int) (hcount : records.length ≤ 255) :
    ∃ ps, parseFrame (avlPayload (codecOf extended) (records.map (·.toAVLRecord))) deviceID =
        .returns ps none ∧
      List.Forall₂ (fun r pos => Decodes r.toAVLRecord deviceID pos) records ps := by
  have hcomplete : ∀ a ∈ records.map (·.toAVLRecord), a.io.Complete := by
    intro a ha
    obtain ⟨r, -, rfl⟩ := List.mem_map.mp ha
    exact r.complete
  refine ⟨_, parseFrame_of_complete deviceID (by simpa using hcount) hcomplete, ?_⟩
  rw [List.map_map, List.forall₂_map_right_iff, List.forall₂_same]
  exact fun r _ => r.toAVLRecord.decodes r.distinct deviceID

/-- A Codec 8 Extended record of a parked vehicle: ignition off, and a text in the X group. -/
def parkedRecord : SentRecord (layoutOf true) where
  gps := ⟨1700000000000, 0, 772090000, 286139000, 216, 90, 12, 0⟩
  io :=
    { event := 0
      total := 2
      groups :=
        [⟨.fixed 1, [⟨239, [0]⟩], by decide, by decide⟩, ⟨.fixed 2, [], by decide, nofun⟩,
          ⟨.fixed 4, [], by decide, nofun⟩, ⟨.fixed 8, [], by decide, nofun⟩,
          ⟨.x, [⟨256, [0x56, 0x49, 0x4E]⟩], by decide, by decide⟩]
      event_lt := by decide
      total_lt := by decide
      in_order := by decide }
  complete := rfl
  total_eq := rfl
  distinct := by decide

theorem parseFrame_parkedRecord : [parkedRecord].length ≤ 255 ∧
    ∃ ps, parseFrame (avlPayload (codecOf true) ([parkedRecord].map (·.toAVLRecord))) 7 =
        .returns ps none ∧
      List.Forall₂ (fun r pos => Decodes r.toAVLRecord 7 pos) [parkedRecord] ps :=
  ⟨by decide, parseFrame_avlPayload true [parkedRecord] 7 (by decide)⟩

/-! ### Small records -/

/-- A group without elements. -/
def Group.bare {idWidth : Nat} (kind : GroupKind) : Group idWidth :=
  ⟨kind, [], Nat.pow_pos (by omega), fun e he => absurd he List.not_mem_nil⟩

/-- A Codec 8 record of a vehicle that stands, with these groups. -/
def standingRecord (event total : UInt8) (groups : List (Group 1))
    (h : groups.map (·.kind) <+: (layoutOf false).kinds) : AVLRecord (layoutOf false) where
  gps := ⟨1700000000000, 0, 772090000, 286139000, 216, 90, 12, 0⟩
  io :=
    { event := event.toNat
      total := total.toNat
      groups := groups
      event_lt := event.toNat_lt
      total_lt := total.toNat_lt
      in_order := h }

end RudraNetra
