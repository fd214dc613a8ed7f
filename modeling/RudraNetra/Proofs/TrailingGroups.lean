/-
Groups that are left out at the end of a Codec 8 record.

Devices omit the empty groups at the end of a record, and the decoder means to let them:
data that ends where a count should be ends the section.  What it looks at is the end of
the whole payload, though, and the payload ends with the record count.  So where a group
is left out the record count is read as the count of its elements, and these elements are
not there.  Nothing is left out of a record but the whole frame is lost.

At the very end of the data the tolerance works (`parseFrame_bare`): then what is left
out is what it stands for, namely nothing.
-/
import RudraNetra.Proofs.RoundTrip

namespace RudraNetra

open Wire Go

variable {layout : Layout} {idWidth : Nat}

/-! ### Leaving groups out -/

/-- The section without its last `k` groups. -/
def IOSection.leaveOut (io : IOSection layout) (k : Nat) : IOSection layout :=
  { io with
    groups := io.groups.take (io.groups.length - k)
    in_order := by
      rw [List.map_take]
      exact (List.take_prefix _ _).trans io.in_order }

/-- The record without its last `k` groups. -/
def AVLRecord.leaveOut (a : AVLRecord layout) (k : Nat) : AVLRecord layout :=
  { a with io := a.io.leaveOut k }

/-- The last `k` groups hold no element. -/
def AVLRecord.EmptyAtEnd (a : AVLRecord layout) (k : Nat) : Prop :=
  ∀ g ∈ a.io.groups.drop (a.io.groups.length - k), g.elements = []

theorem Group.store_of_empty {g : Group idWidth} (h : g.elements = []) (st : IOState) :
    Group.store st g = st := by
  rw [Group.store, h, List.foldl_nil]

theorem foldl_store_of_empty {gs : List (Group idWidth)} (h : ∀ g ∈ gs, g.elements = [])
    (st : IOState) : gs.foldl Group.store st = st := by
  induction gs generalizing st with
  | nil => rfl
  | cons g gs ih =>
      rw [List.foldl_cons, Group.store_of_empty (h g List.mem_cons_self)]
      exact ih (fun g' hg' => h g' (List.mem_cons_of_mem _ hg')) st

/-- A record means the same without its empty groups. -/
theorem AVLRecord.decode_leaveOut {a : AVLRecord layout} {k : Nat} (h : a.EmptyAtEnd k)
    (deviceID : Int) : (a.leaveOut k).decode deviceID = a.decode deviceID := by
  have hgroups := List.take_append_drop (a.io.groups.length - k) a.io.groups
  unfold AVLRecord.decode IOSection.decode
  conv_rhs => rw [← hgroups, List.foldl_append, foldl_store_of_empty h]
  rfl

@[simp] theorem AVLRecord.leaveOut_zero (a : AVLRecord layout) : a.leaveOut 0 = a := by
  unfold AVLRecord.leaveOut IOSection.leaveOut
  simp

/-! ### What the loops do -/

/-- The record loop goes over complete records and decodes each. -/
theorem recordLoop_complete {data tail : List UInt8} {deviceID : Int} (extended : Bool) (n : Nat)
    (as : List (AVLRecord (layoutOf extended))) (hcomplete : ∀ a ∈ as, a.io.Complete) :
    ∀ i offset positions, offset ≤ data.length →
      data.drop offset = as.flatMap AVLRecord.encode ++ tail →
      recordLoop data deviceID extended (as.length + n) i offset positions =
        recordLoop data deviceID extended n (i + as.length)
          (offset + (as.flatMap AVLRecord.encode).length)
          (positions ++ as.map (·.decode deviceID)) := by
  induction as with
  | nil => simp
  | cons a as ih =>
      intro i offset positions hoff hdata
      rw [List.flatMap_cons, List.append_assoc] at hdata
      obtain ⟨hle, hpast⟩ := drop_past hoff hdata
      have hread : parseAVLRecord (data.drop offset) deviceID extended =
          .ok (a.decode deviceID, a.encode.length) :=
        parseAVLRecord_eq_ok.mpr ⟨a, _, hdata, .inl (hcomplete a List.mem_cons_self), rfl⟩
      have hrest := ih (fun b hb => hcomplete b (List.mem_cons_of_mem _ hb)) (i + 1) _
        (positions ++ [a.decode deviceID]) hle hpast
      rw [List.length_cons, Nat.add_right_comm, recordLoop, slice_from hoff]
      simp only [hread, hrest, List.flatMap_cons, List.length_append, List.map_cons,
        List.append_assoc, List.singleton_append, Nat.add_assoc, Nat.add_comm 1]

/-- It stops at a record that is refused. -/
theorem recordLoop_refused {data rest : List UInt8} {deviceID : Int} {extended : Bool}
    {offset : Nat} {e : ParseError} (hoff : offset ≤ data.length) (hdata : data.drop offset = rest)
    (hread : parseAVLRecord rest deviceID extended = failed e) (n i : Nat)
    (positions : List Position) :
    recordLoop data deviceID extended (n + 1) i offset positions =
      .returns positions (some (.record i e)) := by
  rw [recordLoop, slice_from hoff, hdata]
  simp only [hread]

/-- The group loop goes over groups of its widths and stores each. -/
theorem groupLoop_groups {data : List UInt8}
    (after : Nat → IOState → Result ParseError (IOState × Nat)) (gs : List (Group idWidth)) :
    ∀ (widths more : List Nat), (∀ w ∈ widths, w ∈ groupWidths) →
      gs.map (·.kind) = widths.map .fixed → ∀ offset st,
      At data offset (gs.flatMap Group.encode) →
      groupLoop idWidth data after (widths ++ more) offset st =
        groupLoop idWidth data after more (offset + (gs.flatMap Group.encode).length)
          (gs.foldl Group.store st) := by
  induction gs with
  | nil =>
      intro widths more _ hkinds offset st _
      obtain rfl : widths = [] := List.map_eq_nil_iff.mp hkinds.symm
      rfl
  | cons g gs ih =>
      intro widths more hw hkinds offset st hat
      obtain _ | ⟨width, widths⟩ := widths
      · exact absurd hkinds (List.cons_ne_nil _ _)
      · rw [List.map_cons, List.map_cons, List.cons.injEq] at hkinds
        rw [List.flatMap_cons] at hat
        obtain ⟨hat_g, hat_gs⟩ := At.append_iff.mp hat
        have hoff : offset ≤ data.length := Nat.le_trans (Nat.le_add_right _ _) hat_g.le
        have hread : Reader.counted idWidth (fixedElement idWidth width) data offset st =
            .ok (Group.store st g, offset + g.encode.length) :=
          (counted_eq_ok (fixedElement_exact (hw width List.mem_cons_self)) hoff).mpr
            ⟨g, hkinds.1, hat_g, rfl⟩
        have hcount := hat_g.left.le
        rw [beBytes_length] at hcount
        have hturn : groupLoop idWidth data after (width :: (widths ++ more)) offset st =
            Reader.counted idWidth (fixedElement idWidth width) data offset st >>= fun r =>
              groupLoop idWidth data after (widths ++ more) r.2 r.1 := by
          rw [groupLoop, if_neg (by omega)]
          simp only [elementLoop_eq_times, Reader.counted, bind_assoc]
        have hrest := ih widths more (fun w h => hw w (List.mem_cons_of_mem _ h)) hkinds.2 _
          (Group.store st g) hat_gs
        rw [List.cons_append, hturn, hread, ok_bind, hrest, List.flatMap_cons, List.length_append,
          List.foldl_cons, Nat.add_assoc]

/-- Where only one byte is left, and it is not zero, a group cannot be read. -/
theorem groupLoop_lastByte {data : List UInt8}
    {after : Nat → IOState → Result ParseError (IOState × Nat)} {count : UInt8} {offset : Nat}
    (hat : At data offset [count]) (hend : data.length = offset + 1) (hcount : 0 < count.toNat)
    (width : Nat) (widths : List Nat) (st : IOState) :
    groupLoop 1 data after (width :: widths) offset st = failed (.truncatedElement width) := by
  have hread : uintAt (ε := ParseError) data offset 1 = .ok count.toNat := by
    have hone : beNat [count] = count.toNat := by simp [beNat]
    rw [← hone]
    exact uintAt_of_at hat rfl
  obtain ⟨n, hn⟩ : ∃ n, count.toNat = n + 1 := Nat.exists_eq_succ_of_ne_zero (by omega)
  rw [groupLoop, if_neg (by omega), hread, ok_bind, hn, elementLoop, if_pos (by omega)]
  rfl

/-! ### The last record -/

theorem IOSection.leaveOut_kinds {io : IOSection (layoutOf false)} (hcomplete : io.Complete) (k : Nat) :
    (io.leaveOut k).groups.map (·.kind) = (groupWidths.take (4 - k)).map .fixed := by
  have hlen : io.groups.length = 4 := by
    have hkinds := congrArg List.length hcomplete
    simpa [layoutOf, codec8Layout, groupWidths] using hkinds
  rw [IOSection.leaveOut, List.map_take, hcomplete, hlen, List.map_take]
  rfl

/-- The groups of a section, and what is behind them. -/
theorem IOSection.at_groups (io : IOSection layout) (rest : List UInt8) :
    At (io.encode ++ rest) (layout.eventWidth + layout.idWidth)
      (io.groups.flatMap Group.encode ++ rest) := by
  have hat : At (io.encode ++ rest) 0 (io.encode ++ rest) := At.whole _
  conv at hat => rhs; rw [IOSection.encode, List.append_assoc, List.append_assoc]
  have hat := hat.right.right
  rwa [beBytes_length, beBytes_length, Nat.zero_add] at hat

/-- A record that lacks groups is not read in front of the last byte of the data. -/
theorem parseAVLRecord_leaveOut {last : AVLRecord (layoutOf false)} (hcomplete : last.io.Complete)
    {k : Nat} (hk : 0 < k) {count : UInt8} (hcount : 0 < count.toNat) (deviceID : Int) :
    ∃ width, parseAVLRecord ((last.leaveOut k).encode ++ [count]) deviceID false =
      failed (.ioElements (.truncatedElement width)) := by
  obtain ⟨width, widths, hsplit⟩ : ∃ width widths, groupWidths.drop (4 - k) = width :: widths := by
    apply List.exists_cons_of_ne_nil
    intro h
    have hlen := congrArg List.length h
    simp [groupWidths] at hlen
    omega
  have hkinds := last.io.leaveOut_kinds hcomplete k
  have hgroups : groupWidths = groupWidths.take (4 - k) ++ width :: widths := by
    rw [← hsplit, List.take_append_drop]
  refine ⟨width, ?_⟩
  have hread : ∀ st : IOState, parseIOElements ((last.leaveOut k).io.encode ++ [count]) st false =
      failed (.truncatedElement width) := by
    intro st
    obtain ⟨hat_groups, hat_count⟩ :=
      At.append_iff.mp ((last.leaveOut k).io.at_groups [count])
    have hend : ((last.leaveOut k).io.encode ++ [count]).length =
        2 + ((last.leaveOut k).io.groups.flatMap Group.encode).length + 1 := by
      rw [List.length_append, (last.leaveOut k).io.encode_length]
      rfl
    have hall := groupLoop_groups (fun offset st => .ok (st, offset)) _ _
      (width :: widths) (fun w hw => List.mem_of_mem_take hw) hkinds 2 st hat_groups
    rw [← hgroups] at hall
    rw [parseIOElements, if_neg Bool.false_ne_true, parseIOElementsCodec8, if_neg (by omega)]
    exact hall.trans (groupLoop_lastByte hat_count hend hcount width widths _)
  rw [AVLRecord.encode, List.append_assoc, parseAVLRecord_gps, hread]
  rfl

/-! ### The frame -/

/-- **A frame whose last record lacks groups is refused.**  The records in front of it are
decoded, and it is not. -/
theorem parseFrame_leaveOut {init : List (AVLRecord (layoutOf false))} {last : AVLRecord (layoutOf false)}
    {k : Nat} (deviceID : Int) (hinit : ∀ a ∈ init, a.io.Complete) (hlast : last.io.Complete)
    (hk : 0 < k) (hcount : init.length + 1 ≤ 255) :
    ∃ width, parseFrame (avlPayload codec8 (init ++ [last.leaveOut k])) deviceID =
      .returns (init.map (·.decode deviceID))
        (some (.record init.length (.ioElements (.truncatedElement width)))) := by
  have hcount_byte : (UInt8.ofNat (init.length + 1)).toNat = init.length + 1 :=
    UInt8.toNat_ofNat_of_lt' (show init.length + 1 < 2 ^ 8 by omega)
  obtain ⟨width, hlost⟩ := parseAVLRecord_leaveOut hlast hk
    (show 0 < (UInt8.ofNat (init.length + 1)).toNat by omega) deviceID
  have hdata : avlPayload codec8 (init ++ [last.leaveOut k]) =
      codecOf false :: UInt8.ofNat (init.length + 1) :: (init.flatMap AVLRecord.encode ++
        ((last.leaveOut k).encode ++ [UInt8.ofNat (init.length + 1)])) := by
    simp [avlPayload, codecOf]
  refine ⟨width, ?_⟩
  rw [hdata, parseFrame_codecOf _ _ _ (List.cons_ne_nil _ _), parseRecords, hcount_byte,
    recordLoop_complete false 1 init hinit 0 1 [] (by simp) rfl,
    recordLoop_refused ?_ ?_ hlost, Nat.zero_add, List.nil_append]
  · simp only [List.length_cons, List.length_append]
    omega
  · rw [Nat.add_comm 1, List.drop_succ_cons, List.drop_left]

/-- At the end of the data groups may be left out: without the second count the frame is read,
and means what it would mean with the groups. -/
theorem parseFrame_bare {init : List (AVLRecord (layoutOf false))}
    {last : AVLRecord (layoutOf false)} {k : Nat} (deviceID : Int)
    (hinit : ∀ a ∈ init, a.io.Complete) (hempty : last.EmptyAtEnd k)
    (hcount : init.length + 1 ≤ 255) :
    parseFrame (codecOf false :: UInt8.ofNat (init.length + 1) ::
      (init ++ [last.leaveOut k]).flatMap AVLRecord.encode) deviceID =
      .returns ((init ++ [last]).map (·.decode deviceID)) none := by
  rw [parseFrame_codecOf _ _ _ (List.cons_ne_nil _ _)]
  apply parseRecords_eq_returns.mpr
  refine ⟨init ++ [last.leaveOut k], [], ?_, ?_, ?_, ?_⟩
  · simpa using hcount
  · simp
  · rw [tight_iff (by decide)]
    refine ⟨fun a ha => hinit a (by simpa using ha), fun a _ => .inr (by decide)⟩
  · simp only [List.map_append, List.map_cons, List.map_nil, AVLRecord.decode_leaveOut hempty]

/-- **Leaving groups out is never harmless.** -/
theorem leaveOut_harmless_iff (init : List (AVLRecord (layoutOf false)))
    (last : AVLRecord (layoutOf false)) (k : Nat) (deviceID : Int)
    (hinit : ∀ a ∈ init, a.io.Complete) (hlast : last.io.Complete) (_hempty : last.EmptyAtEnd k)
    (hcount : init.length + 1 ≤ 255) :
    (∃ ps, parseFrame (avlPayload codec8 (init ++ [last])) deviceID = .returns ps none ∧
      parseFrame (avlPayload codec8 (init ++ [last.leaveOut k])) deviceID = .returns ps none) ↔
      k = 0 := by
  constructor
  · rintro ⟨ps, -, hshort⟩
    by_contra hk
    obtain ⟨width, hrefused⟩ :=
      parseFrame_leaveOut deviceID hinit hlast (Nat.pos_of_ne_zero hk) hcount
    rw [hrefused] at hshort
    simp at hshort
  · rintro rfl
    have hcomplete : ∀ a ∈ init ++ [last], a.io.Complete := by
      intro a ha
      simp only [List.mem_append, List.mem_singleton] at ha
      rcases ha with ha | rfl
      · exact hinit a ha
      · exact hlast
    have hread := @parseFrame_of_complete false _ deviceID (by simp; omega) hcomplete
    rw [AVLRecord.leaveOut_zero]
    exact ⟨_, hread, hread⟩

/-- A record with one element, the ignition, and its three other groups empty. -/
def sparseRecord : AVLRecord (layoutOf false) :=
  standingRecord 239 1
    [⟨.fixed 1, [⟨239, [1]⟩], by decide, by decide⟩, .bare (.fixed 2), .bare (.fixed 4),
      .bare (.fixed 8)]
    (by decide)

theorem sparseRecord_empty (k : Nat) (hk : k ≤ 3) : sparseRecord.EmptyAtEnd k := by
  intro g hg
  have hmem : g ∈ sparseRecord.io.groups.drop 1 :=
    List.drop_subset_drop_left _ (show 1 ≤ 4 - k by omega) hg
  fin_cases hmem <;> rfl

/-- With its three empty groups left out the record is lost, and so is the frame. -/
theorem sparseRecord_lost : sparseRecord.io.Complete ∧ sparseRecord.EmptyAtEnd 3 ∧
    ¬ ∃ ps, parseFrame (avlPayload codec8 [sparseRecord]) 7 = .returns ps none ∧
      parseFrame (avlPayload codec8 [sparseRecord.leaveOut 3]) 7 = .returns ps none := by
  refine ⟨rfl, sparseRecord_empty 3 (by decide), ?_⟩
  rintro ⟨ps, -, hshort⟩
  have hnone : ∀ a ∈ ([] : List (AVLRecord (layoutOf false))), a.io.Complete := nofun
  obtain ⟨width, hrefused⟩ := parseFrame_leaveOut 7 hnone
    (show sparseRecord.io.Complete from rfl) (show 0 < 3 by decide) (by decide)
  rw [List.nil_append] at hrefused
  rw [hrefused] at hshort
  simp at hshort

theorem sparseRecord_kept : (∃ ps,
    parseFrame (avlPayload codec8 ([sparseRecord] ++ [sparseRecord])) 7 = .returns ps none ∧
      parseFrame (avlPayload codec8 ([sparseRecord] ++ [sparseRecord.leaveOut 0])) 7 =
        .returns ps none) ↔ 0 = 0 :=
  leaveOut_harmless_iff [sparseRecord] sparseRecord 0 7
    (fun a ha => by obtain rfl := List.mem_singleton.mp ha; rfl) rfl
    (sparseRecord_empty 0 (by decide)) (by decide)

end RudraNetra
