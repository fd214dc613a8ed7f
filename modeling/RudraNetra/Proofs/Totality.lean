/-
No input makes a decoder index out of range.

Each decoder checks the bytes it is about to read, so every slice lies inside the
data; the lemmas follow the decoders' own checks.  The record loop slices at an offset
it has added up, and that stays inside the data because a decoded record is never
longer than the data it was decoded from.

`Decoded` is what the loop has done when it stops: records that were decoded one behind
the other, and the offset behind the last of them.  So whatever ends the loop, it returns
the positions of exactly the records in front (`decoders_withstand`).
-/
import RudraNetra.Proofs.Grammar

namespace RudraNetra

open Wire Go

theorem parseIMEI_noPanic (data : List UInt8) : NoPanic (parseIMEI data) := by
  unfold parseIMEI
  apply NoPanic.guard
  intro hshort
  refine (uintAt_noPanic (by omega)).bind fun imeiLen _ => ?_
  apply NoPanic.guard
  intro hlen
  refine (slice_noPanic (by omega) (by omega)).bind fun imei _ => ?_
  apply NoPanic.guard
  exact fun _ => NoPanic.ok _

/-! ### IO elements -/

theorem elementLoop_noPanic {idWidth width : Nat} (hw : width ∈ groupWidths) (data : List UInt8) :
    ∀ n offset st, NoPanic (elementLoop idWidth width data n offset st) := by
  intro n
  induction n with
  | zero => exact fun _ _ => nofun
  | succ n ih =>
      intro offset st
      rw [elementLoop]
      apply NoPanic.guard
      intro hend
      refine (uintAt_noPanic (by omega)).bind fun ioID _ => ?_
      refine (slice_noPanic (by omega) (by omega)).bind fun bytes hbytes => ?_
      rw [readUnsigned_of_length hw (slice_eq_ok.mp hbytes).2, ok_bind]
      exact ih _ _

theorem groupLoop_noPanic {idWidth : Nat} {data : List UInt8}
    {after : Nat → IOState → Result ParseError (IOState × Nat)}
    (hafter : ∀ offset st, NoPanic (after offset st)) :
    ∀ widths : List Nat, (∀ w ∈ widths, w ∈ groupWidths) → ∀ offset st,
      NoPanic (groupLoop idWidth data after widths offset st) := by
  intro widths
  induction widths with
  | nil => exact fun _ => hafter
  | cons width widths ih =>
      intro hw offset st
      rw [groupLoop]
      by_cases hend : offset + idWidth > data.length
      · rw [if_pos hend]
        exact NoPanic.ok _
      · rw [if_neg hend]
        refine (uintAt_noPanic (by omega)).bind fun count _ => ?_
        refine (elementLoop_noPanic (hw width List.mem_cons_self) data _ _ _).bind fun r _ => ?_
        exact ih (fun w h => hw w (List.mem_cons_of_mem _ h)) _ _

theorem xLoop_noPanic (data : List UInt8) : ∀ n offset st, NoPanic (xLoop data n offset st) := by
  intro n
  induction n with
  | zero => exact fun _ _ => nofun
  | succ n ih =>
      intro offset st
      rw [xLoop]
      apply NoPanic.guard
      intro hend
      refine (uintAt_noPanic (by omega)).bind fun ioID _ => ?_
      refine (uintAt_noPanic (by omega)).bind fun length _ => ?_
      apply NoPanic.guard
      intro hvalue
      refine (slice_noPanic (by omega) (by omega)).bind fun value _ => ?_
      exact ih _ _

theorem xGroup_noPanic (data : List UInt8) (offset : Nat) (st : IOState) :
    NoPanic (xGroup data offset st) := by
  rw [xGroup]
  by_cases hend : offset + 2 > data.length
  · rw [if_pos hend]
    exact NoPanic.ok _
  · rw [if_neg hend]
    exact (uintAt_noPanic (by omega)).bind fun count _ => xLoop_noPanic data _ _ _

theorem parseIOElements_noPanic (data : List UInt8) (st : IOState) (extended : Bool) :
    NoPanic (parseIOElements data st extended) := by
  obtain _ | _ := extended
  · rw [parseIOElements, if_neg Bool.false_ne_true, parseIOElementsCodec8]
    apply NoPanic.guard
    exact fun _ => groupLoop_noPanic (fun _ _ => NoPanic.ok _) groupWidths (fun _ h => h) _ _
  · rw [parseIOElements, if_pos rfl, parseIOElementsExtended]
    apply NoPanic.guard
    exact fun _ => groupLoop_noPanic (xGroup_noPanic data) groupWidths (fun _ h => h) _ _

/-! ### Records and frames -/

theorem parseAVLRecord_noPanic (data : List UInt8) (deviceID : Int) (extended : Bool) :
    NoPanic (parseAVLRecord data deviceID extended) := by
  by_cases hshort : data.length < 24
  · rw [parseAVLRecord, if_pos hshort]
    exact NoPanic.failed _
  · obtain ⟨g, ioData, rfl⟩ := GPSPart.exists_encode (Nat.le_of_not_lt hshort)
    rw [parseAVLRecord_gps]
    exact ((parseIOElements_noPanic ioData _ extended).wrap _).bind fun _ _ => NoPanic.ok _

/-- A decoded record is no longer than its data. -/
theorem parseAVLRecord_le {data : List UInt8} {deviceID : Int} {extended : Bool} {pos : Position}
    {bytesRead : Nat} (h : parseAVLRecord data deviceID extended = .ok (pos, bytesRead)) :
    bytesRead ≤ data.length := by
  obtain ⟨a, rest, rfl, -, hr⟩ := parseAVLRecord_eq_ok.mp h
  rw [(Prod.mk.inj hr).2, List.length_append]
  exact Nat.le_add_right _ _

/-- A decoded record has its GPS part, an event id and a count at least. -/
theorem parseAVLRecord_ge {data : List UInt8} {deviceID : Int} {extended : Bool} {pos : Position}
    {bytesRead : Nat} (h : parseAVLRecord data deviceID extended = .ok (pos, bytesRead)) :
    26 ≤ bytesRead := by
  obtain ⟨a, rest, -, -, hr⟩ := parseAVLRecord_eq_ok.mp h
  have hheader : 2 ≤ (layoutOf extended).eventWidth + (layoutOf extended).idWidth := by
    cases extended <;> decide
  rw [(Prod.mk.inj hr).2, AVLRecord.encode_length, IOSection.encode_length]
  omega

/-- From an offset on, records that decode to these positions, up to another offset. -/
inductive Decoded (data : List UInt8) (deviceID : Int) (extended : Bool) :
    Nat → List Position → Nat → Prop
  | none (offset : Nat) : Decoded data deviceID extended offset [] offset
  | record {offset bytesRead stop : Nat} {pos : Position} {ps : List Position}
      (h : parseAVLRecord (data.drop offset) deviceID extended = .ok (pos, bytesRead))
      (t : Decoded data deviceID extended (offset + bytesRead) ps stop) :
      Decoded data deviceID extended offset (pos :: ps) stop

/-- The loop decodes records until it has all of them or one is no record. -/
theorem recordLoop_decoded (data : List UInt8) (deviceID : Int) (extended : Bool) :
    ∀ n i offset positions, offset ≤ data.length →
      ∃ ps stop, Decoded data deviceID extended offset ps stop ∧ stop ≤ data.length ∧
        ((ps.length = n ∧ recordLoop data deviceID extended n i offset positions =
            .returns (positions ++ ps) none) ∨
          ∃ e, parseAVLRecord (data.drop stop) deviceID extended = .error (.error e) ∧
            recordLoop data deviceID extended n i offset positions =
              .returns (positions ++ ps) (some (.record (i + ps.length) e))) := by
  intro n
  induction n with
  | zero =>
      intro i offset positions hoff
      exact ⟨[], offset, .none offset, hoff, .inl ⟨rfl, by rw [recordLoop, List.append_nil]⟩⟩
  | succ n ih =>
      intro i offset positions hoff
      have hparse := parseAVLRecord_noPanic (data.drop offset) deviceID extended
      rw [recordLoop, slice_from hoff]
      dsimp only
      rcases hrecord : parseAVLRecord (data.drop offset) deviceID extended with
        (e | _) | ⟨pos, bytesRead⟩
      · exact ⟨[], offset, .none offset, hoff, .inr ⟨e, hrecord, by simp⟩⟩
      · exact absurd hrecord hparse
      · have hle := parseAVLRecord_le hrecord
        rw [List.length_drop] at hle
        obtain ⟨ps, stop, hrun, hstop, hend⟩ :=
          ih (i + 1) (offset + bytesRead) (positions ++ [pos]) (by omega)
        refine ⟨pos :: ps, stop, .record hrecord hrun, hstop, ?_⟩
        have hlist : positions ++ [pos] ++ ps = positions ++ pos :: ps := by simp
        rcases hend with ⟨hlen, hloop⟩ | ⟨e, herr, hloop⟩
        · exact .inl ⟨by rw [List.length_cons, hlen], by rw [← hlist]; exact hloop⟩
        · refine .inr ⟨e, herr, ?_⟩
          have hindex : i + (pos :: ps).length = i + 1 + ps.length := by
            rw [List.length_cons]
            omega
          rw [← hlist, hindex]
          exact hloop

theorem recordLoop_ne_panics (data : List UInt8) (deviceID : Int) (extended : Bool)
    (n i offset : Nat) (positions : List Position) (hoff : offset ≤ data.length) :
    recordLoop data deviceID extended n i offset positions ≠ .panics := by
  obtain ⟨ps, stop, -, -, ⟨-, hloop⟩ | ⟨e, -, hloop⟩⟩ :=
    recordLoop_decoded data deviceID extended n i offset positions hoff
  · exact hloop ▸ nofun
  · exact hloop ▸ nofun

/-- What the record array decodes to, and where it stops. -/
theorem parseRecords_decoded {data : List UInt8} (deviceID : Int) (extended : Bool)
    (h : data ≠ []) :
    ∃ ps stop, Decoded data deviceID extended 1 ps stop ∧ stop ≤ data.length ∧
      (parseRecords data deviceID extended = .returns ps none ∨
        ∃ e, parseAVLRecord (data.drop stop) deviceID extended = .error (.error e) ∧
          parseRecords data deviceID extended = .returns ps (some (.record ps.length e))) := by
  obtain ⟨count, rest, rfl⟩ := List.exists_cons_of_ne_nil h
  obtain ⟨ps, stop, hrun, hstop, hend⟩ :=
    recordLoop_decoded (count :: rest) deviceID extended count.toNat 0 1 [] (by simp)
  refine ⟨ps, stop, hrun, hstop, ?_⟩
  rcases hend with ⟨-, hloop⟩ | ⟨e, herr, hloop⟩
  · exact .inl hloop
  · exact .inr ⟨e, herr, by rw [Nat.zero_add] at hloop; exact hloop⟩

theorem parseRecords_ne_panics (data : List UInt8) (deviceID : Int) (extended : Bool) :
    parseRecords data deviceID extended ≠ .panics := by
  obtain _ | ⟨count, rest⟩ := data
  · exact nofun
  · exact recordLoop_ne_panics _ _ _ _ _ _ _ (by simp)

theorem parseFrame_ne_panics (payload : List UInt8) (deviceID : Int) :
    parseFrame payload deviceID ≠ .panics := by
  obtain _ | ⟨codec, _ | ⟨count, rest⟩⟩ := payload
  · exact nofun
  · exact nofun
  · rw [parseFrame]
    by_cases h8 : codec = codec8
    · rw [if_pos h8]
      exact parseRecords_ne_panics _ _ _
    · by_cases h8E : codec = codec8E
      · rw [if_neg h8, if_pos h8E]
        exact parseRecords_ne_panics _ _ _
      · rw [if_neg h8, if_neg h8E]
        split
        · exact nofun
        · exact nofun

theorem commandLoop_ne_panics (payload : List UInt8) :
    ∀ n offset out, commandLoop payload n offset out ≠ .panics := by
  intro n
  induction n with
  | zero => exact fun _ _ => nofun
  | succ n ih =>
      intro offset out
      rw [commandLoop]
      split_ifs with hsize
      · exact nofun
      · obtain ⟨size, hlt, hat⟩ := At.exists_number payload offset 4 (by omega)
        rw [uintAt_eq_ok.mpr ⟨hlt, hat⟩]
        dsimp only
        split_ifs with hbad
        · exact nofun
        · rw [slice, if_pos (by omega)]
          exact ih _ _

theorem parseCommandPayload_ne_panics (payload : List UInt8) :
    parseCommandPayload payload ≠ .panics := by
  obtain _ | ⟨codec, _ | ⟨quantity, rest⟩⟩ := payload
  · exact nofun
  · exact nofun
  · rw [parseCommandPayload]
    split_ifs
    · exact nofun
    · exact commandLoop_ne_panics _ _ _ _

theorem parseData_cases (data : List UInt8) (deviceID : Int) :
    (∃ e, (∀ i e', e ≠ .record i e') ∧ parseData data deviceID = .returns [] (some e)) ∨
      ∃ payload, At data 8 payload ∧ parseData data deviceID = parseFrame payload deviceID := by
  unfold parseData framePreambleSize frameLengthSize
  split_ifs with hshort hpre
  · exact .inl ⟨.packetTooShort data.length, fun _ _ => nofun, rfl⟩
  · dsimp only
    split_ifs with hbad
    · exact .inl ⟨.invalidDataLength (dataLenOf data), fun _ _ => nofun, rfl⟩
    · have hat : At data 8 ((data.drop 8).take (dataLenOf data)) := At.of_le (by omega)
      have hcut : ((data.drop 8).take (dataLenOf data)).length = dataLenOf data := by
        rw [List.length_take, List.length_drop]
        omega
      rw [slice_of_at hat hcut]
      exact .inr ⟨_, hat, rfl⟩
  · exact .inl ⟨.invalidPreamble, fun _ _ => nofun, rfl⟩

theorem parseData_ne_panics (data : List UInt8) (deviceID : Int) :
    parseData data deviceID ≠ .panics := by
  obtain ⟨e, -, hdata⟩ | ⟨payload, -, hdata⟩ := parseData_cases data deviceID
  · exact hdata ▸ nofun
  · exact hdata ▸ parseFrame_ne_panics payload deviceID

/-! ### Records in front of an error -/

/-- The positions are those of the records in front of record `i`, which is none. -/
structure FailsAt (data : List UInt8) (deviceID : Int) (extended : Bool) (ps : List Position)
    (i : Nat) (e : ParseError) : Prop where
  count : ps.length = i
  run : ∃ stop ≤ data.length, Decoded data deviceID extended 1 ps stop ∧
    parseAVLRecord (data.drop stop) deviceID extended = .error (.error e)

theorem parseRecords_failsAt {data : List UInt8} {deviceID : Int} {extended : Bool}
    {ps : List Position} {i : Nat} {e : ParseError} (hne : data ≠ [])
    (h : parseRecords data deviceID extended = .returns ps (some (.record i e))) :
    FailsAt data deviceID extended ps i e := by
  obtain ⟨ps', stop, hrun, hstop, hend⟩ := parseRecords_decoded deviceID extended hne
  rcases hend with hok | ⟨e', herr, hfail⟩
  · exact nomatch hok.symm.trans h
  · cases hfail.symm.trans h
    exact ⟨rfl, stop, hstop, hrun, herr⟩

theorem parseFrame_failsAt {payload : List UInt8} {deviceID : Int} {ps : List Position} {i : Nat}
    {e : ParseError} (h : parseFrame payload deviceID = .returns ps (some (.record i e))) :
    ∃ extended data, payload = codecOf extended :: data ∧
      FailsAt data deviceID extended ps i e := by
  obtain _ | ⟨codec, _ | ⟨count, rest⟩⟩ := payload
  · exact nomatch h
  · exact nomatch h
  · have hne : count :: rest ≠ [] := List.cons_ne_nil _ _
    rw [parseFrame] at h
    by_cases h8 : codec = codec8
    · rw [if_pos h8] at h
      exact ⟨false, count :: rest, by rw [h8]; rfl, parseRecords_failsAt hne h⟩
    · by_cases h8E : codec = codec8E
      · rw [if_neg h8, if_pos h8E] at h
        exact ⟨true, count :: rest, by rw [h8E]; rfl, parseRecords_failsAt hne h⟩
      · rw [if_neg h8, if_neg h8E] at h
        split at h
        · exact nomatch h
        · exact nomatch h

/--
**Hostile bytes do not crash the decoders.**  No decoder indexes out of range, the record
offset stays inside the data, and an error at a record comes with the positions of exactly
the records in front of it.
-/
theorem decoders_withstand :
    (∀ data, NoPanic (parseIMEI data)) ∧
      (∀ data deviceID, parseData data deviceID ≠ .panics) ∧
      (∀ payload deviceID, parseFrame payload deviceID ≠ .panics) ∧
      (∀ payload, parseCommandPayload payload ≠ .panics) ∧
      (∀ data deviceID extended pos bytesRead,
        parseAVLRecord data deviceID extended = .ok (pos, bytesRead) →
          26 ≤ bytesRead ∧ bytesRead ≤ data.length) ∧
      (∀ data deviceID extended, data ≠ [] →
        ∃ ps stop, Decoded data deviceID extended 1 ps stop ∧ stop ≤ data.length ∧
          (parseRecords data deviceID extended = .returns ps none ∨
            ∃ e, parseAVLRecord (data.drop stop) deviceID extended = .error (.error e) ∧
              parseRecords data deviceID extended = .returns ps (some (.record ps.length e)))) ∧
      (∀ payload deviceID ps i e, parseFrame payload deviceID = .returns ps (some (.record i e)) →
        ∃ extended data, payload = codecOf extended :: data ∧
          FailsAt data deviceID extended ps i e) ∧
      ∀ data deviceID ps i e, parseData data deviceID = .returns ps (some (.record i e)) →
        ∃ payload, At data 8 payload ∧
          parseFrame payload deviceID = .returns ps (some (.record i e)) := by
  refine ⟨parseIMEI_noPanic, parseData_ne_panics, parseFrame_ne_panics,
    parseCommandPayload_ne_panics, ?_, ?_, ?_, ?_⟩
  · intro data deviceID extended pos bytesRead h
    exact ⟨parseAVLRecord_ge h, parseAVLRecord_le h⟩
  · intro data deviceID extended hne
    exact parseRecords_decoded deviceID extended hne
  · intro payload deviceID ps i e h
    exact parseFrame_failsAt h
  · intro data deviceID ps i e h
    obtain ⟨e', hother, hdata⟩ | ⟨payload, hat, hdata⟩ := parseData_cases data deviceID
    · cases hdata.symm.trans h
      exact absurd rfl (hother i e)
    · exact ⟨payload, hat, hdata.symm.trans h⟩

end RudraNetra
