/-
Which element settles a field of the position.

The IO elements are stored one after the other, and each writes at most one field.  So
a field is settled by the elements that write it: where a write replaces the value, by the
last of them (`storeAll_last`), and the voltage, which is only written where it is still
zero, by the first that is not zero (`storeAll_voltage`).

What an element writes to a field is a function of its id and its number, and a lemma for
each field says that this function is what `applyIOValue` does.
-/
import RudraNetra.Proofs.RoundTrip

namespace RudraNetra

open Wire Go

variable {layout : Layout}

/-! ### Elements that write a field -/

/-- What an element writes by a rule for ids and numbers; texts of the X group write nothing. -/
def written {γ : Type} (rule : Nat → Int → Option γ) (e : GroupKind × Element) : Option γ :=
  match e.1 with
  | .fixed _ => rule e.2.id (int64 (beNat e.2.bytes))
  | .x => none

theorem Element.store_fixed (width : Nat) (st : IOState) (e : Element) :
    (e.store (.fixed width) st).pos = applyIOValue st.pos e.id (int64 (beNat e.bytes)) := rfl

section Last

variable {γ : Type} {field : Position → γ} {rule : Nat → Int → Option γ}

/-- A field that every write replaces has the value that was written last. -/
theorem storeAll_last
    (h : ∀ pos i v, field (applyIOValue pos i v) = (rule i v).getD (field pos))
    (es : List (GroupKind × Element)) (st : IOState) :
    field (storeAll st es).pos = (es.filterMap (written rule)).getLast?.getD (field st.pos) := by
  induction es generalizing st with
  | nil => rfl
  | cons e es ih =>
      have hstore : field (e.2.store e.1 st).pos = (written rule e).getD (field st.pos) := by
        obtain ⟨_ | _, e⟩ := e
        · rw [Element.store_fixed, h]
          rfl
        · rfl
      rw [storeAll, List.foldl_cons, ← storeAll, ih, hstore, List.filterMap_cons]
      rcases written rule e with _ | x
      · rw [Option.getD_none]
      · rw [List.getLast?_cons, Option.getD_some, Option.getD_some]

/-- The raw data aside, a record's position is what its elements were stored to. -/
theorem IOState.position_field (h : ∀ pos raw, field { pos with rawData := raw } = field pos)
    (st : IOState) : field st.position = field st.pos := by
  unfold IOState.position
  split_ifs
  · rfl
  · exact h _ _

theorem AVLRecord.decode_last
    (h : ∀ pos i v, field (applyIOValue pos i v) = (rule i v).getD (field pos))
    (hraw : ∀ pos raw, field { pos with rawData := raw } = field pos)
    (a : AVLRecord layout) (deviceID : Int) :
    field (a.decode deviceID) =
      (a.io.elements.filterMap (written rule)).getLast?.getD (field (a.gps.position deviceID)) := by
  rw [AVLRecord.decode, IOState.position_field hraw, IOSection.decode_eq_storeAll,
    storeAll_last h]

end Last

/-! ### The fields with one id -/

/-- The position without the two fields that have two ids. -/
def Position.others (pos : Position) : Position := { pos with ignition := false, voltage := 0 }

/-- What an element writes to the other fields: each has one id. -/
def Position.writeOthers (pos : Position) (i : Nat) (v : Int) : Position :=
  { pos.others with
    doorOpen := if i = ioInput2 then some (v == 1) else pos.doorOpen
    gsmSignal := if i = ioGSM then int16 v else pos.gsmSignal
    backupBatteryV := if i = ioBatteryVoltage then some ((v : ℚ) / 1000) else pos.backupBatteryV
    temperature := if i = ioTemperature then (int16 v : ℚ) / 10 else pos.temperature
    odometer := if i = ioOdometer then v else pos.odometer
    rfidTag := if i = ioRFID then toString v else pos.rfidTag
    fuelLevelPct := if i = ioFuelLevel then some (v : ℚ) else pos.fuelLevelPct }

theorem applyIOValue_others (pos : Position) (i : Nat) (v : Int) :
    (applyIOValue pos i v).others = pos.writeOthers i v := by
  unfold applyIOValue
  split_ifs with h1 h2 h3 h4 _ h6 h7 h8 h9 h10
  · rcases h1 with rfl | rfl <;> rfl
  · subst h2; rfl
  · subst h3; rfl
  · rcases h4 with rfl | rfl <;> rfl
  · rcases h4 with rfl | rfl <;> rfl
  · subst h6; rfl
  · subst h7; rfl
  · subst h8; rfl
  · subst h9; rfl
  · subst h10; rfl
  · simp only [Position.writeOthers, if_neg h2, if_neg h3, if_neg h6, if_neg h7, if_neg h8,
      if_neg h9, if_neg h10]
    rfl

/-- The rule of a field with one id. -/
def ownRule {γ : Type} (key : Nat) (value : Int → γ) (i : Nat) (v : Int) : Option γ :=
  if i = key then some (value v) else none

/-- A field of its own has the value of the last element with its id. -/
theorem applyIOValue_own {γ : Type} {field : Position → γ} {key : Nat} {value : Int → γ}
    (hothers : ∀ pos : Position, field pos.others = field pos)
    (hown : ∀ (pos : Position) i v,
      field (pos.writeOthers i v) = if i = key then value v else field pos)
    (pos : Position) (i : Nat) (v : Int) :
    field (applyIOValue pos i v) = (ownRule key value i v).getD (field pos) := by
  rw [← hothers, applyIOValue_others, hown, ownRule]
  split_ifs
  · rfl
  · rfl

/-- Only the elements with its id write a field. -/
theorem filterMap_ownRule {γ : Type} (key : Nat) (value : Int → γ)
    (es : List (GroupKind × Element)) :
    (es.filter (·.2.id = key)).filterMap (written (ownRule key value)) =
      es.filterMap (written (ownRule key value)) := by
  rw [List.filterMap_filter]
  congr 1
  funext e
  by_cases hid : e.2.id = key
  · simp only [hid, decide_true, if_true]
  · obtain ⟨_ | _, e⟩ := e
    · simp [written, ownRule, hid]
    · simp [written]

/-! ### The ignition and the voltage -/

/-- What an element says about the ignition. -/
def ignitionRule (i : Nat) (v : Int) : Option Bool :=
  if i = ioACC ∨ i = ioIgnition then some (v == 1) else none

/-- The voltage an element sets where none is set: a zero sets none. -/
def voltageRule (i : Nat) (v : Int) : Option ℚ :=
  if (i = ioVoltage ∨ i = ioExternalVoltage) ∧ v ≠ 0 then some ((v : ℚ) / 1000) else none

theorem applyIOValue_ignition (pos : Position) (i : Nat) (v : Int) :
    (applyIOValue pos i v).ignition = (ignitionRule i v).getD pos.ignition := by
  unfold applyIOValue ignitionRule
  split_ifs <;> rfl

theorem applyIOValue_voltage (pos : Position) (i : Nat) (v : Int) :
    (applyIOValue pos i v).voltage =
      if pos.voltage = 0 then (voltageRule i v).getD 0 else pos.voltage := by
  by_cases hi : i = ioVoltage ∨ i = ioExternalVoltage
  · have hwrite : applyIOValue pos i v =
        if pos.voltage = 0 then { pos with voltage := (v : ℚ) / 1000 } else pos := by
      rcases hi with rfl | rfl <;> rfl
    rw [hwrite, voltageRule]
    by_cases hpos : pos.voltage = 0
    · by_cases hv : v = 0
      · simp [hpos, hv]
      · simp [hpos, hi, hv]
    · simp only [if_neg hpos]
  · have hkeep : (applyIOValue pos i v).voltage = pos.voltage := by
      unfold applyIOValue
      rw [if_neg hi]
      split_ifs <;> rfl
    have hnone : voltageRule i v = none := if_neg fun h => hi h.1
    rw [hkeep, hnone, Option.getD_none]
    by_cases hpos : pos.voltage = 0
    · rw [if_pos hpos, hpos]
    · rw [if_neg hpos]

theorem written_voltage_ne_zero {e : GroupKind × Element} {x : ℚ}
    (h : written voltageRule e = some x) : x ≠ 0 := by
  obtain ⟨_ | _, e⟩ := e
  · simp only [written, voltageRule, Option.ite_none_right_eq_some, Option.some.injEq] at h
    obtain ⟨⟨-, hv⟩, rfl⟩ := h
    exact div_ne_zero (Int.cast_ne_zero.mpr hv) (by norm_num)
  · simp [written] at h

/-- Of the elements that set a voltage the first is believed. -/
theorem storeAll_voltage (es : List (GroupKind × Element)) (st : IOState) :
    (storeAll st es).pos.voltage =
      if st.pos.voltage = 0 then (es.filterMap (written voltageRule)).head?.getD 0
      else st.pos.voltage := by
  induction es generalizing st with
  | nil => simp [storeAll]
  | cons e es ih =>
      have hstore : (e.2.store e.1 st).pos.voltage =
          if st.pos.voltage = 0 then (written voltageRule e).getD 0 else st.pos.voltage := by
        obtain ⟨_ | _, e⟩ := e
        · rw [Element.store_fixed, applyIOValue_voltage]
          rfl
        · rw [show written voltageRule (.x, e) = none from rfl, Option.getD_none]
          by_cases hst : st.pos.voltage = 0
          · rw [if_pos hst, ← hst]
            rfl
          · rw [if_neg hst]
            rfl
      rw [storeAll, List.foldl_cons, ← storeAll, ih, hstore, List.filterMap_cons]
      by_cases hst : st.pos.voltage = 0
      · rcases hv : written voltageRule e with _ | x
        · simp only [hst, if_true, Option.getD_none]
        · simp only [hst, if_true, Option.getD_some, if_neg (written_voltage_ne_zero hv),
            List.head?_cons]
      · simp only [hst, if_false]

theorem AVLRecord.decode_ignition (a : AVLRecord layout) (deviceID : Int) :
    (a.decode deviceID).ignition =
      (a.io.elements.filterMap (written ignitionRule)).getLast?.getD false :=
  a.decode_last applyIOValue_ignition (fun _ _ => rfl) deviceID

theorem AVLRecord.decode_voltage (a : AVLRecord layout) (deviceID : Int) :
    (a.decode deviceID).voltage = (a.io.elements.filterMap (written voltageRule)).head?.getD 0 := by
  have hzero : (a.gps.position deviceID).voltage = 0 := rfl
  have hpos : ∀ st : IOState, st.position.voltage = st.pos.voltage :=
    IOState.position_field fun _ _ => rfl
  rw [AVLRecord.decode, hpos, IOSection.decode_eq_storeAll, storeAll_voltage, if_pos hzero]

end RudraNetra
