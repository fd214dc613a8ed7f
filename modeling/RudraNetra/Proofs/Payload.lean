/-
What a payload has to be for its records to be decoded.

`parseRecords` reads records until it has as many as the count says, and never looks
at what is behind them.  So it accepts a payload exactly if it begins with the count
and so many records.  A record that lacks groups takes the rest of the data for
itself, up to one byte less than a count, and no further record fits there: only the
last record can be such a one.

The total count of a section is not compared with its groups, and neither is the
count behind the records compared with the one in front; nor need it be there.
-/
import RudraNetra.Proofs.Grammar

namespace RudraNetra

open Wire Go

variable {layout : Layout}

/-- Each record is complete, or the data behind it is too short for another count. -/
def Tight : List (AVLRecord layout) → List UInt8 → Prop
  | [], _ => True
  | a :: as, tail =>
    (a.io.Complete ∨ (as.flatMap AVLRecord.encode ++ tail).length < layout.idWidth) ∧
      Tight as tail

theorem tight_of_complete {as : List (AVLRecord layout)} (tail : List UInt8)
    (h : ∀ a ∈ as, a.io.Complete) : Tight as tail := by
  induction as with
  | nil => exact trivial
  | cons a as ih =>
      exact ⟨.inl (h a List.mem_cons_self), ih fun b hb => h b (List.mem_cons_of_mem _ hb)⟩

/-- No record fits where a count does not, so only the last record may lack groups. -/
theorem tight_iff (hwidth : layout.idWidth ≤ 24) (tail : List UInt8) :
    ∀ as : List (AVLRecord layout), Tight as tail ↔
      (∀ a ∈ as.dropLast, a.io.Complete) ∧
      ∀ a ∈ as.getLast?, a.io.Complete ∨ tail.length < layout.idWidth := by
  intro as
  induction as with
  | nil => exact ⟨fun _ => ⟨nofun, nofun⟩, fun _ => trivial⟩
  | cons a as ih =>
      rw [Tight, ih]
      obtain _ | ⟨b, bs⟩ := as
      · simp
      · have hlong : ¬ ((b :: bs).flatMap AVLRecord.encode ++ tail).length < layout.idWidth := by
          rw [List.flatMap_cons, List.length_append, List.length_append, b.encode_length]
          omega
        rw [or_iff_left hlong, List.dropLast_cons_cons, List.getLast?_cons_cons, List.forall_mem_cons,
          and_assoc]

theorem recordLoop_cons {data : List UInt8} {deviceID : Int} {extended : Bool} {n i offset : Nat}
    {positions ps : List Position} (hoff : offset ≤ data.length) :
    recordLoop data deviceID extended (n + 1) i offset positions = .returns ps none ↔
      ∃ pos bytesRead, parseAVLRecord (data.drop offset) deviceID extended = .ok (pos, bytesRead) ∧
        recordLoop data deviceID extended n (i + 1) (offset + bytesRead) (positions ++ [pos]) =
          .returns ps none := by
  rw [recordLoop, slice_from hoff]
  dsimp only
  rcases parseAVLRecord (data.drop offset) deviceID extended with (e | _) | ⟨pos, bytesRead⟩
  · exact ⟨nofun, by intro ⟨_, _, h, _⟩; exact nomatch h⟩
  · exact ⟨nofun, by intro ⟨_, _, h, _⟩; exact nomatch h⟩
  · constructor
    · intro h
      exact ⟨pos, bytesRead, rfl, h⟩
    · intro ⟨pos', bytesRead', h, hrest⟩
      cases h
      exact hrest

/-- No data begins with two records of different lengths. -/
theorem AVLRecord.encode_unique {extended : Bool} {a b : AVLRecord (layoutOf extended)}
    {rest rest' : List UInt8} (h : a.encode ++ rest = b.encode ++ rest')
    (ha : a.io.Complete ∨ rest.length < (layoutOf extended).idWidth)
    (hb : b.io.Complete ∨ rest'.length < (layoutOf extended).idWidth) : rest = rest' := by
  have hread : ∀ deviceID, parseAVLRecord (a.encode ++ rest) deviceID extended =
      .ok (a.decode deviceID, a.encode.length) :=
    fun deviceID => parseAVLRecord_eq_ok.mpr ⟨a, rest, rfl, ha, rfl⟩
  have hread' : parseAVLRecord (a.encode ++ rest) 0 extended = .ok (b.decode 0, b.encode.length) :=
    parseAVLRecord_eq_ok.mpr ⟨b, rest', h, hb, rfl⟩
  rw [hread 0, Except.ok.injEq, Prod.mk.injEq] at hread'
  exact (List.append_inj h hread'.2).2

/-- Going past what lies at an offset. -/
theorem drop_past {α : Type} {data a rest : List α} {offset : Nat} (hoff : offset ≤ data.length)
    (h : data.drop offset = a ++ rest) :
    offset + a.length ≤ data.length ∧ data.drop (offset + a.length) = rest := by
  have hlen := congrArg List.length h
  rw [List.length_drop, List.length_append] at hlen
  refine ⟨by omega, ?_⟩
  rw [← List.drop_drop, h, List.drop_left]

/-- The loop returns exactly if as many records as it is to read lie at its offset. -/
theorem recordLoop_eq_returns {data : List UInt8} {deviceID : Int} {extended : Bool}
    {ps : List Position} : ∀ n i offset positions, offset ≤ data.length →
    (recordLoop data deviceID extended n i offset positions = .returns ps none ↔
      ∃ (as : List (AVLRecord (layoutOf extended))) (tail : List UInt8), as.length = n ∧
        data.drop offset = as.flatMap AVLRecord.encode ++ tail ∧ Tight as tail ∧
        ps = positions ++ as.map (·.decode deviceID)) := by
  intro n
  induction n with
  | zero =>
      intro i offset positions hoff
      constructor
      · intro h
        cases h
        exact ⟨[], data.drop offset, rfl, rfl, trivial, by simp⟩
      · intro ⟨as, tail, hlen, _, _, hps⟩
        obtain rfl := List.length_eq_zero_iff.mp hlen
        rw [hps, recordLoop, List.map_nil, List.append_nil]
  | succ n ih =>
      intro i offset positions hoff
      rw [recordLoop_cons hoff]
      constructor
      · intro ⟨pos, bytesRead, hparse, hloop⟩
        obtain ⟨a, rest, hdata, hend, hr⟩ := parseAVLRecord_eq_ok.mp hparse
        obtain ⟨rfl, rfl⟩ := Prod.mk.inj hr
        obtain ⟨hle, hpast⟩ := drop_past hoff hdata
        obtain ⟨as, tail, hn, hdrop, htight, hps⟩ := (ih _ _ _ hle).mp hloop
        have hrest : rest = as.flatMap AVLRecord.encode ++ tail := hpast.symm.trans hdrop
        refine ⟨a :: as, tail, congrArg (· + 1) hn, ?_, ⟨?_, htight⟩, ?_⟩
        · rw [hdata, hrest, List.flatMap_cons, List.append_assoc]
        · rwa [hrest] at hend
        · rw [hps, List.map_cons, List.append_assoc, List.singleton_append]
      · intro ⟨as, tail, hn, hdata, htight, hps⟩
        obtain _ | ⟨a, as⟩ := as
        · exact nomatch hn
        · rw [List.flatMap_cons, List.append_assoc] at hdata
          obtain ⟨hle, hpast⟩ := drop_past hoff hdata
          refine ⟨a.decode deviceID, a.encode.length, ?_, ?_⟩
          · exact parseAVLRecord_eq_ok.mpr ⟨a, _, hdata, htight.1, rfl⟩
          · apply (ih _ _ _ hle).mpr
            refine ⟨as, tail, Nat.succ.inj hn, hpast, htight.2, ?_⟩
            rw [hps, List.map_cons, List.append_assoc, List.singleton_append]

/-- The record array is accepted exactly if it is a count and so many records, whatever follows. -/
theorem parseRecords_eq_returns {data : List UInt8} {deviceID : Int} {extended : Bool}
    {ps : List Position} :
    parseRecords data deviceID extended = .returns ps none ↔
      ∃ (as : List (AVLRecord (layoutOf extended))) (tail : List UInt8), as.length ≤ 255 ∧
        data = UInt8.ofNat as.length :: (as.flatMap AVLRecord.encode ++ tail) ∧ Tight as tail ∧
        ps = as.map (·.decode deviceID) := by
  obtain _ | ⟨count, rest⟩ := data
  · exact ⟨nofun, by intro ⟨_, _, _, h, _⟩; exact nomatch h⟩
  · rw [parseRecords, recordLoop_eq_returns _ _ _ _ (by simp)]
    constructor
    · intro ⟨as, tail, hn, hdrop, htight, hps⟩
      have hcount := count.toNat_lt
      refine ⟨as, tail, by omega, ?_, htight, by simpa using hps⟩
      rw [hn, UInt8.ofNat_toNat]
      exact congrArg (count :: ·) hdrop
    · intro ⟨as, tail, hle, hdata, htight, hps⟩
      obtain ⟨rfl, rfl⟩ := List.cons.inj hdata
      refine ⟨as, tail, ?_, rfl, htight, by simpa using hps⟩
      rw [UInt8.toNat_ofNat_of_lt' (show as.length < 2 ^ 8 by omega)]

theorem parseFrame_codecOf (extended : Bool) (data : List UInt8) (deviceID : Int)
    (h : data ≠ []) :
    parseFrame (codecOf extended :: data) deviceID = parseRecords data deviceID extended := by
  obtain ⟨count, rest, rfl⟩ := List.exists_cons_of_ne_nil h
  obtain _ | _ := extended
  · rfl
  · rfl

/-- Any other codec id is refused. -/
theorem parseFrame_returns_codecOf {payload : List UInt8} {deviceID : Int} {ps : List Position}
    (h : parseFrame payload deviceID = .returns ps none) :
    ∃ (extended : Bool) (data : List UInt8), payload = codecOf extended :: data ∧ data ≠ [] := by
  obtain _ | ⟨codec, _ | ⟨count, rest⟩⟩ := payload
  · exact nomatch h
  · exact nomatch h
  · rw [parseFrame] at h
    by_cases h8 : codec = codec8
    · exact ⟨false, count :: rest, by rw [h8]; rfl, List.cons_ne_nil _ _⟩
    · by_cases h8E : codec = codec8E
      · exact ⟨true, count :: rest, by rw [h8E]; rfl, List.cons_ne_nil _ _⟩
      · rw [if_neg h8, if_neg h8E] at h
        split at h
        · exact nomatch h
        · exact nomatch h

/-- **A payload is accepted exactly if it is a codec id, a count and so many records, whatever
follows them.**  Every record but the last is complete; the last may lack groups if the payload
ends before another count. -/
theorem parseFrame_accepts (payload : List UInt8) (deviceID : Int) (ps : List Position) :
    parseFrame payload deviceID = .returns ps none ↔
      ∃ (extended : Bool) (as : List (AVLRecord (layoutOf extended))) (tail : List UInt8),
        as.length ≤ 255 ∧
        payload = codecOf extended :: UInt8.ofNat as.length ::
          (as.flatMap AVLRecord.encode ++ tail) ∧
        (∀ a ∈ as.dropLast, a.io.Complete) ∧
        (∀ a ∈ as.getLast?, a.io.Complete ∨ tail.length < (layoutOf extended).idWidth) ∧
        ps = as.map (·.decode deviceID) := by
  have hwidth : ∀ extended, (layoutOf extended).idWidth ≤ 24 := by decide
  constructor
  · intro h
    obtain ⟨extended, data, rfl, hne⟩ := parseFrame_returns_codecOf h
    rw [parseFrame_codecOf extended data deviceID hne] at h
    obtain ⟨as, tail, hle, rfl, htight, hps⟩ := parseRecords_eq_returns.mp h
    obtain ⟨hinit, hlast⟩ := (tight_iff (hwidth extended) tail as).mp htight
    exact ⟨extended, as, tail, hle, rfl, hinit, hlast, hps⟩
  · intro ⟨extended, as, tail, hle, hdata, hinit, hlast, hps⟩
    rw [hdata, parseFrame_codecOf extended _ deviceID (List.cons_ne_nil _ _)]
    apply parseRecords_eq_returns.mpr
    exact ⟨as, tail, hle, rfl, (tight_iff (hwidth extended) tail as).mpr ⟨hinit, hlast⟩, hps⟩

/-- A payload whose counts agree: nothing but the records stands between two equal counts, and
the total of each section is the number of its elements. -/
def CountsAgree (payload : List UInt8) : Prop :=
  ∃ (extended : Bool) (as : List (AVLRecord (layoutOf extended))), as.length ≤ 255 ∧
    payload = avlPayload (codecOf extended) as ∧ ∀ a ∈ as, a.io.total = a.io.elements.length

theorem IOSection.elements_length_le (hwidth : 0 < layout.idWidth) (io : IOSection layout) :
    io.elements.length ≤ (io.groups.flatMap Group.encode).length := by
  have helement : ∀ (kind : GroupKind) (es : List Element),
      es.length ≤ (es.flatMap (Element.encode layout.idWidth kind)).length := by
    intro kind es
    induction es with
    | nil => exact Nat.le_refl 0
    | cons e es ih =>
        rw [List.flatMap_cons, List.length_append, Element.encode, List.length_append,
          beBytes_length, List.length_cons]
        omega
  unfold IOSection.elements
  induction io.groups with
  | nil => exact Nat.le_refl 0
  | cons g gs ih =>
      have hg := helement g.kind g.elements
      rw [List.flatMap_cons, List.flatMap_cons, List.length_append, List.length_append,
        List.length_map, Group.encode, List.length_append]
      omega

theorem count_of_byte {c : UInt8} {n : Nat} (hn : n ≤ 255) (h : c = UInt8.ofNat n) :
    n = c.toNat := by
  rw [h, UInt8.toNat_ofNat_of_lt' (show n < 2 ^ 8 by omega)]

theorem IOSection.at_total (io : IOSection layout) :
    At io.encode layout.eventWidth (beBytes layout.idWidth io.total) := by
  have hat := (At.append_iff.mp (At.whole io.encode)).2.left
  rwa [beBytes_length, Nat.zero_add] at hat

/-- A record of zeros with the total 5 and four empty groups. -/
def emptyRecordOfFive : List UInt8 := List.replicate 25 0 ++ [5, 0, 0, 0, 0]

/-- Payloads whose counts disagree are accepted: one without a second count, one with a wrong
count and a byte behind it, and one whose record has a wrong total. -/
theorem parseFrame_accepts_disagreeing :
    (parseFrame [0x08, 0] 1 = .returns [] none ∧ ¬ CountsAgree [0x08, 0]) ∧
    (parseFrame [0x08, 0, 3, 0xFF] 1 = .returns [] none ∧ ¬ CountsAgree [0x08, 0, 3, 0xFF]) ∧
    (∃ ps, parseFrame (0x08 :: 1 :: (emptyRecordOfFive ++ [1])) 1 = .returns ps none) ∧
      ¬ CountsAgree (0x08 :: 1 :: (emptyRecordOfFive ++ [1])) := by
  have hcodec : ∀ (extended : Bool) (rest : List UInt8) (as : List (AVLRecord (layoutOf extended))),
      0x08 :: rest = avlPayload (codecOf extended) as → extended = false := by
    intro extended rest as h
    obtain _ | _ := extended
    · rfl
    · exact absurd (List.cons.inj h).1 (by decide)
  refine ⟨⟨rfl, ?_⟩, ⟨rfl, ?_⟩, ⟨_, rfl⟩, ?_⟩
  · intro ⟨extended, as, _, h, _⟩
    have hlen := congrArg List.length h
    simp only [avlPayload, List.length_cons, List.length_append, List.length_nil] at hlen
    omega
  · intro ⟨extended, as, hle, h, _⟩
    obtain ⟨-, h⟩ := List.cons.inj h
    obtain ⟨hcount, h⟩ := List.cons.inj h
    obtain rfl := List.length_eq_zero_iff.mp (count_of_byte hle hcount)
    exact nomatch (List.cons.inj h).2
  · intro ⟨extended, as, hle, h, htotal⟩
    obtain rfl := hcodec extended _ as h
    obtain ⟨-, h⟩ := List.cons.inj h
    obtain ⟨hcount, h⟩ := List.cons.inj h
    obtain ⟨a, rfl⟩ := List.length_eq_one_iff.mp (count_of_byte hle hcount)
    have hrecord : a.encode = emptyRecordOfFive := by
      rw [List.flatMap_singleton] at h
      exact (List.append_inj_left' h rfl).symm
    have hio : a.io.encode = [0, 5, 0, 0, 0, 0] := by
      have hdrop : a.encode.drop 24 = a.io.encode := List.drop_left' a.gps.encode_length
      rw [← hdrop, hrecord]
      rfl
    have hfive : a.io.total = 5 := by
      have hread := uintAt_eq_ok (ε := ParseError).mpr ⟨a.io.total_lt, a.io.at_total⟩
      rw [hio] at hread
      exact (Except.ok.inj hread).symm
    -- six bytes hold the header and the four counts, and no element
    have hle := a.io.elements_length_le (by decide)
    have hlen := a.io.encode_length
    rw [hio, List.length_cons] at hlen
    have hheader : (layoutOf false).eventWidth + (layoutOf false).idWidth = 2 := rfl
    have helements := htotal a (List.mem_singleton_self a)
    simp only [List.length_cons, List.length_nil] at hlen
    omega

end RudraNetra
