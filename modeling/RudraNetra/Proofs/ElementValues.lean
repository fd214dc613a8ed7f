/-
The numbers a device sends and the numbers that are kept.

A device sends unsigned numbers of 1, 2, 4 or 8 bytes, and `readUnsigned` makes an `int64`
of each.  That keeps the numbers below `2 ^ 63`, so all numbers of up to four bytes; the
upper half of the eight-byte numbers turns negative, in the raw data and in the RFID tag.
-/
import RudraNetra.Proofs.Fields

namespace RudraNetra

open Wire Go

variable {layout : Layout}

/-- An `int64` holds the unsigned numbers below `2 ^ 63`, and no others. -/
theorem int64_eq_iff {v : Nat} : int64 v = v ↔ v < 2 ^ 63 := by
  unfold int64 signed
  constructor
  · intro h
    have hlt := Int.bmod_lt (x := (v : Int)) (m := 2 ^ 64) (by decide)
    rw [h] at hlt
    omega
  · intro h
    exact Int.bmod_eq_of_le (by omega) (by omega)

theorem toString_natCast (v : Nat) : toString (v : Int) = toString v := rfl

/-- The elements around the only one with its id. -/
theorem split_of_filter {es : List (GroupKind × Element)} {e : GroupKind × Element} {id : Nat}
    (h : es.filter (·.2.id = id) = [e]) :
    ∃ before after, es = before ++ e :: after ∧ e.2.id = id ∧ ∀ x ∈ after, x.2.id ≠ id := by
  obtain ⟨before, after, rfl, -, he, hafter⟩ := List.filter_eq_cons_iff.mp h
  refine ⟨before, after, rfl, by simpa using he, ?_⟩
  simpa using List.filter_eq_nil_iff.mp hafter

/-- The raw data has the number of the only element with its id, as an `int64`. -/
theorem AVLRecord.decode_raw_once {a : AVLRecord layout} {width id : Nat} {bytes : List UInt8}
    (honce : a.io.elements.filter (·.2.id = id) = [(.fixed width, ⟨id, bytes⟩)]) (deviceID : Int) :
    (a.decode deviceID).raw (toString id) = some (.num (int64 (beNat bytes))) := by
  obtain ⟨before, after, hsplit, -, hafter⟩ := split_of_filter honce
  have hkey : toString id ∉ (after.map rawPair).map Prod.fst := by
    intro hmem
    simp only [List.map_map, List.mem_map, Function.comp_apply, rawPair] at hmem
    obtain ⟨x, hx, hid⟩ := hmem
    exact hafter x hx (toString_injective hid)
  rw [AVLRecord.decode_raw, hsplit, List.map_append, List.map_cons, insertAll, List.foldl_append,
    List.foldl_cons, ← insertAll, lookup_insertAll_of_notMem hkey]
  exact Finmap.lookup_insert _

theorem applyIOValue_rfidTag (pos : Position) (i : Nat) (v : Int) :
    (applyIOValue pos i v).rfidTag = (ownRule ioRFID toString i v).getD pos.rfidTag :=
  applyIOValue_own (fun _ => rfl) (fun _ _ _ => rfl) pos i v

theorem AVLRecord.decode_rfidTag {a : AVLRecord layout} {width : Nat} {bytes : List UInt8}
    (honce : a.io.elements.filter (·.2.id = ioRFID) = [(.fixed width, ⟨ioRFID, bytes⟩)])
    (deviceID : Int) : (a.decode deviceID).rfidTag = toString (int64 (beNat bytes)) := by
  have hwrites : written (ownRule ioRFID toString) (.fixed width, ⟨ioRFID, bytes⟩) =
      some (toString (int64 (beNat bytes))) := by
    rw [written, ownRule, if_pos rfl]
  rw [a.decode_last applyIOValue_rfidTag (fun _ _ => rfl), ← filterMap_ownRule, honce,
    List.filterMap_cons_some hwrites, List.filterMap_nil, List.getLast?_singleton, Option.getD_some]

/-- **A number that a device sends is kept exactly if it is below `2 ^ 63`.** -/
theorem value_kept_iff {extended : Bool} (a : AVLRecord (layoutOf extended)) (rest : List UInt8)
    (deviceID : Int) (hend : a.io.Complete ∨ rest.length < (layoutOf extended).idWidth)
    (width v id : Nat) (hv : v < 2 ^ (8 * width))
    (honce : a.io.elements.filter (·.2.id = id) = [(.fixed width, ⟨id, beBytes width v⟩)]) :
    (∃ pos n, parseAVLRecord (a.encode ++ rest) deviceID extended = .ok (pos, n) ∧
      pos.raw (toString id) = some (.num v) ∧ (id = ioRFID → pos.rfidTag = toString v)) ↔
      v < 2 ^ 63 := by
  have hread : parseAVLRecord (a.encode ++ rest) deviceID extended =
      .ok (a.decode deviceID, a.encode.length) :=
    parseAVLRecord_eq_ok.mpr ⟨a, rest, rfl, hend, rfl⟩
  have hbytes : beNat (beBytes width v) = v := by
    rw [Nat.pow_mul] at hv
    exact beNat_beBytes_of_lt hv
  have hraw := a.decode_raw_once honce deviceID
  rw [hbytes] at hraw
  constructor
  · rintro ⟨pos, n, hparse, hnum, -⟩
    rw [hread, Except.ok.injEq, Prod.mk.injEq] at hparse
    rw [← hparse.1, hraw, Option.some.injEq, RawValue.num.injEq] at hnum
    exact int64_eq_iff.mp hnum
  · intro hlt
    have hkept := int64_eq_iff.mpr hlt
    refine ⟨_, _, hread, by rw [hraw, hkept], ?_⟩
    rintro rfl
    rw [AVLRecord.decode_rfidTag honce, hbytes, hkept, toString_natCast]

/-- A record with one element, the given number of eight bytes as the tag of an RFID reader. -/
def taggedRecord (v : Nat) : AVLRecord (layoutOf false) :=
  standingRecord 207 1
    [.bare (.fixed 1), .bare (.fixed 2), .bare (.fixed 4),
      ⟨.fixed 8, [⟨207, beBytes 8 v⟩], show 1 < 256 ^ 1 by decide, fun e he => by
        obtain rfl := List.mem_singleton.mp he
        exact ⟨show 207 < 256 ^ 1 by decide, beBytes_length 8 v⟩⟩]
    (List.prefix_refl _)

/-- The tag `2 ^ 64 - 1` is kept as -1. -/
theorem taggedRecord_negative : ∃ pos n,
    parseAVLRecord ((taggedRecord (2 ^ 64 - 1)).encode ++ []) 7 false = .ok (pos, n) ∧
      pos.raw (toString 207) = some (.num (-1)) ∧ pos.rfidTag = "-1" := by
  have honce : (taggedRecord (2 ^ 64 - 1)).io.elements.filter (·.2.id = ioRFID) =
      [(.fixed 8, ⟨ioRFID, beBytes 8 (2 ^ 64 - 1)⟩)] := rfl
  have hminus : int64 (beNat (beBytes 8 (2 ^ 64 - 1))) = -1 := by decide
  refine ⟨_, _, parseAVLRecord_eq_ok.mpr ⟨_, _, rfl, .inl rfl, rfl⟩, ?_, ?_⟩
  · have hraw := AVLRecord.decode_raw_once honce 7
    rwa [hminus] at hraw
  · rw [AVLRecord.decode_rfidTag honce, hminus]
    rfl

theorem taggedRecord_not_kept : ¬ ∃ pos n,
    parseAVLRecord ((taggedRecord (2 ^ 64 - 1)).encode ++ []) 7 false = .ok (pos, n) ∧
      pos.raw (toString 207) = some (.num (2 ^ 64 - 1 : Nat)) ∧
      (207 = ioRFID → pos.rfidTag = toString (2 ^ 64 - 1)) := by
  rintro ⟨pos, n, hparse, hraw, -⟩
  obtain ⟨pos', n', hparse', hraw', -⟩ := taggedRecord_negative
  rw [hparse, Except.ok.injEq, Prod.mk.injEq] at hparse'
  rw [hparse'.1, hraw', Option.some.injEq, RawValue.num.injEq] at hraw
  exact absurd hraw (by decide)

theorem value_kept_tag : (∃ pos n,
    parseAVLRecord ((taggedRecord 81985529216486895).encode ++ []) 7 false = .ok (pos, n) ∧
      pos.raw (toString 207) = some (.num (81985529216486895 : Nat)) ∧
      (207 = ioRFID → pos.rfidTag = toString 81985529216486895)) ↔ 81985529216486895 < 2 ^ 63 :=
  value_kept_iff (taggedRecord 81985529216486895) [] 7 (.inl rfl) 8 81985529216486895 207
    (by decide) rfl

end RudraNetra
