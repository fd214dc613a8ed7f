/-
When a sensor's value is stored and published.

A reading of a sensor is an IO element with the sensor's id.  The fuel level, the backup
battery and the door are pointers in the source, nil until an element sets them, and they
stay pointers in the row and in the live event.  So these three are there exactly if the
device reported them.

The temperature and the voltage are plain numbers that start at zero.  A row has both in any
case, so a sensor that does not exist is stored as zero; and the event leaves out a zero,
so a reading of zero is not published.
-/
import RudraNetra.Proofs.Fields
import RudraNetra.Proofs.LiveStored

namespace RudraNetra

open Wire Go

variable {layout : Layout}

/-! ### Readings -/

inductive Sensor where
  | temperature
  | voltage
  | fuel
  | battery
  | door

/-- What an element reads of the sensor, scaled. -/
def Sensor.rule : Sensor → Nat → Int → Option Value
  | .temperature => ownRule ioTemperature fun v => .real ((int16 v : ℚ) / 10)
  | .voltage => fun i v =>
    if i = ioVoltage ∨ i = ioExternalVoltage then some (.real ((v : ℚ) / 1000)) else none
  | .fuel => ownRule ioFuelLevel fun v => .real (v : ℚ)
  | .battery => ownRule ioBatteryVoltage fun v => .real ((v : ℚ) / 1000)
  | .door => ownRule ioInput2 fun v => .bool (v == 1)

/-- The readings of the sensor that a record contains. -/
def Sensor.readings (s : Sensor) (a : AVLRecord layout) : List Value :=
  a.io.elements.filterMap (written s.rule)

def Sensor.column : Sensor → String
  | .temperature => "temperature"
  | .voltage => "voltage"
  | .fuel => "fuel_level_pct"
  | .battery => "backup_battery_v"
  | .door => "door_open"

def Sensor.inRow (s : Sensor) (row : PositionRow) : Option Value := row.lookup s.column

def Sensor.inEvent (s : Sensor) (event : LiveEvent) : Option Value :=
  match s with
  | .temperature => event.temperature.map .real
  | .voltage => event.voltage.map .real
  | .fuel => event.fuelPct.map .real
  | .battery => event.batteryV.map .real
  | .door => event.doorOpen.map .bool

/-- The sensor is null in the row and absent from the event if the record has no reading of it,
and else both have a reading of it. -/
def Sensor.Shown (s : Sensor) (a : AVLRecord layout) (row : PositionRow) (event : LiveEvent) :
    Prop :=
  (s.readings a = [] → s.inRow row = some .null ∧ s.inEvent event = none) ∧
    (s.readings a ≠ [] → ∃ x ∈ s.readings a, s.inRow row = some x ∧ s.inEvent event = some x)

/-- For the temperature the last reading is not zero, for the voltage some reading is not. -/
def Sensor.Told (s : Sensor) (a : AVLRecord layout) : Prop :=
  match s with
  | .temperature => ∃ x, (s.readings a).getLast? = some x ∧ x ≠ .real 0
  | .voltage => ∃ x ∈ s.readings a, x ≠ .real 0
  | .fuel | .battery | .door => True

/-! ### The three pointers -/

theorem written_map {γ δ : Type} {rule : Nat → Int → Option γ} {rule' : Nat → Int → Option δ}
    {f : γ → δ} (h : ∀ i v, rule' i v = (rule i v).map f) (e : GroupKind × Element) :
    written rule' e = (written rule e).map f := by
  obtain ⟨_ | _, e⟩ := e
  · exact h _ _
  · rfl

theorem ownRule_map {γ δ : Type} (key : Nat) (value : Int → γ) (f : γ → δ) (i : Nat) (v : Int) :
    ownRule key (fun v => f (value v)) i v = (ownRule key value i v).map f := by
  unfold ownRule
  split_ifs
  · rfl
  · rfl

theorem filterMap_written_map {γ δ : Type} {rule : Nat → Int → Option γ}
    {rule' : Nat → Int → Option δ} {f : γ → δ} (h : ∀ i v, rule' i v = (rule i v).map f)
    (es : List (GroupKind × Element)) :
    es.filterMap (written rule') = (es.filterMap (written rule)).map f := by
  rw [List.map_filterMap]
  congr 1
  funext e
  exact written_map h e

/-- A field that is nil until its sensor is read. -/
structure PointerField (γ : Type) where
  field : Position → Option γ
  key : Nat
  value : Int → γ
  of_others : ∀ pos : Position, field pos.others = field pos
  of_write : ∀ (pos : Position) i v,
    field (pos.writeOthers i v) = if i = key then some (value v) else field pos
  of_raw : ∀ pos raw, field { pos with rawData := raw } = field pos
  nil : ∀ (g : GPSPart) deviceID, field (g.position deviceID) = none

/-- It has the last reading, if there is one. -/
theorem PointerField.decode {γ : Type} (f : PointerField γ) (a : AVLRecord layout)
    (deviceID : Int) : f.field (a.decode deviceID) =
      (a.io.elements.filterMap (written (ownRule f.key f.value))).getLast? := by
  have hrule : ∀ pos i v, f.field (applyIOValue pos i v) =
      (ownRule f.key (fun v => some (f.value v)) i v).getD (f.field pos) :=
    applyIOValue_own f.of_others f.of_write
  rw [a.decode_last hrule f.of_raw, f.nil, filterMap_written_map (ownRule_map f.key f.value some),
    List.getLast?_map]
  rcases (a.io.elements.filterMap (written (ownRule f.key f.value))).getLast? with _ | x
  · rfl
  · rfl

def fuelField : PointerField ℚ where
  field := (·.fuelLevelPct)
  key := ioFuelLevel
  value v := (v : ℚ)
  of_others _ := rfl
  of_write _ _ _ := rfl
  of_raw _ _ := rfl
  nil _ _ := rfl

def batteryField : PointerField ℚ where
  field := (·.backupBatteryV)
  key := ioBatteryVoltage
  value v := (v : ℚ) / 1000
  of_others _ := rfl
  of_write _ _ _ := rfl
  of_raw _ _ := rfl
  nil _ _ := rfl

def doorField : PointerField Bool where
  field := (·.doorOpen)
  key := ioInput2
  value v := v == 1
  of_others _ := rfl
  of_write _ _ _ := rfl
  of_raw _ _ := rfl
  nil _ _ := rfl

/-- A pointer is passed on to the row and to the event as it is. -/
theorem Sensor.shown_of_pointer {γ : Type} {s : Sensor} {a : AVLRecord layout} {row : PositionRow}
    {event : LiveEvent} (f : PointerField γ) (toValue : γ → Value) (deviceID : Int)
    (hrule : ∀ i v, s.rule i v = (ownRule f.key f.value i v).map toValue)
    (hrow : s.inRow row = some (.ofOption toValue (f.field (a.decode deviceID))))
    (hevent : s.inEvent event = (f.field (a.decode deviceID)).map toValue) :
    s.Shown a row event := by
  have hreadings := filterMap_written_map hrule a.io.elements
  rw [f.decode] at hrow hevent
  unfold Sensor.Shown Sensor.readings
  rw [hreadings, hrow, hevent]
  rcases hlast : (a.io.elements.filterMap (written (ownRule f.key f.value))).getLast? with _ | x
  · rw [List.getLast?_eq_none_iff] at hlast
    rw [hlast]
    exact ⟨fun _ => ⟨rfl, rfl⟩, fun h => absurd rfl h⟩
  · have hmem := List.mem_of_getLast? hlast
    exact ⟨fun h => absurd (List.map_eq_nil_iff.mp h) (List.ne_nil_of_mem hmem),
      fun _ => ⟨toValue x, List.mem_map_of_mem hmem, rfl, rfl⟩⟩

/-! ### The two numbers -/

theorem applyIOValue_temperature (pos : Position) (i : Nat) (v : Int) :
    (applyIOValue pos i v).temperature =
      (ownRule ioTemperature (fun v => (int16 v : ℚ) / 10) i v).getD pos.temperature :=
  applyIOValue_own (fun _ => rfl) (fun _ _ _ => rfl) pos i v

/-- A number is stored as it is, and published unless it is zero. -/
theorem Sensor.shown_iff_of_number {s : Sensor} {a : AVLRecord layout} {row : PositionRow}
    {event : LiveEvent} {x : ℚ} (hrow : s.inRow row = some (.real x))
    (hevent : s.inEvent event = (if x ≠ 0 then some x else none).map .real) :
    s.Shown a row event ↔ x ≠ 0 ∧ .real x ∈ s.readings a := by
  unfold Sensor.Shown
  rw [hrow, hevent]
  by_cases hx : x = 0
  · simp [hx]
  · simp only [ne_eq, hx, not_false_eq_true, if_true, Option.map_some, Option.some.injEq,
      reduceCtorEq, and_self, imp_false, true_and]
    constructor
    · rintro ⟨hne, hshown⟩
      obtain ⟨y, hy, rfl⟩ := hshown hne
      exact hy
    · intro hmem
      exact ⟨List.ne_nil_of_mem hmem, fun _ => ⟨_, hmem, rfl⟩⟩

theorem Sensor.temperature_told_iff {a : AVLRecord layout} {x : ℚ} (deviceID : Int)
    (hx : (a.decode deviceID).temperature = x) :
    (x ≠ 0 ∧ .real x ∈ Sensor.temperature.readings a) ↔ Sensor.temperature.Told a := by
  have hfield := a.decode_last applyIOValue_temperature (fun _ _ => rfl) deviceID
  have hreadings := filterMap_written_map
    (ownRule_map ioTemperature (fun v => (int16 v : ℚ) / 10) Value.real) a.io.elements
  have hzero : (a.gps.position deviceID).temperature = 0 := rfl
  change Sensor.temperature.readings a = _ at hreadings
  rw [hx, hzero] at hfield
  unfold Sensor.Told
  dsimp only
  rw [hreadings, List.getLast?_map, hfield]
  rcases hlast : (a.io.elements.filterMap (written _)).getLast? with _ | y
  · simp
  · have hmem := List.mem_map_of_mem (f := Value.real) (List.mem_of_getLast? hlast)
    simp [hmem]

theorem written_voltage_iff (e : GroupKind × Element) (y : Value) :
    (written Sensor.voltage.rule e = some y ∧ y ≠ .real 0) ↔
      ∃ x, y = .real x ∧ written voltageRule e = some x := by
  obtain ⟨_ | _, e⟩ := e
  · unfold written Sensor.rule voltageRule
    dsimp only
    generalize int64 (beNat e.bytes) = v
    by_cases hid : e.id = ioVoltage ∨ e.id = ioExternalVoltage
    · by_cases hv : v = 0
      · simp [hid, hv]
        rintro rfl
        rfl
      · simp only [hid, hv, if_true, true_and, ne_eq, not_false_eq_true, Option.some.injEq]
        constructor
        · rintro ⟨rfl, -⟩
          exact ⟨_, rfl, rfl⟩
        · rintro ⟨x, rfl, rfl⟩
          exact ⟨rfl, by simpa using hv⟩
    · simp [hid]
  · simp [written]

/-- The readings that are not zero are what sets a voltage. -/
theorem Sensor.voltage_reading_iff {a : AVLRecord layout} {y : Value} :
    (y ∈ Sensor.voltage.readings a ∧ y ≠ .real 0) ↔
      ∃ x, y = .real x ∧ x ∈ a.io.elements.filterMap (written voltageRule) := by
  unfold Sensor.readings
  simp only [List.mem_filterMap]
  constructor
  · rintro ⟨⟨e, he, hwritten⟩, hne⟩
    obtain ⟨x, rfl, hx⟩ := (written_voltage_iff e y).mp ⟨hwritten, hne⟩
    exact ⟨x, rfl, e, he, hx⟩
  · rintro ⟨x, rfl, e, he, hx⟩
    obtain ⟨hwritten, hne⟩ := (written_voltage_iff e (.real x)).mpr ⟨x, rfl, hx⟩
    exact ⟨⟨e, he, hwritten⟩, hne⟩

theorem Sensor.voltage_told_iff {a : AVLRecord layout} {x : ℚ} (deviceID : Int)
    (hx : (a.decode deviceID).voltage = x) :
    (x ≠ 0 ∧ .real x ∈ Sensor.voltage.readings a) ↔ Sensor.voltage.Told a := by
  rw [AVLRecord.decode_voltage] at hx
  constructor
  · rintro ⟨hne, hmem⟩
    exact ⟨.real x, hmem, by simpa using hne⟩
  · rintro ⟨y, hmem, hne⟩
    obtain ⟨z, -, hz⟩ := Sensor.voltage_reading_iff.mp ⟨hmem, hne⟩
    obtain ⟨w, rest, hset⟩ := List.exists_cons_of_ne_nil (List.ne_nil_of_mem hz)
    rw [hset, List.head?_cons, Option.getD_some] at hx
    subst hx
    obtain ⟨hreading, hzero⟩ := Sensor.voltage_reading_iff.mpr
      ⟨w, rfl, hset ▸ List.mem_cons_self⟩
    exact ⟨by simpa using hzero, hreading⟩

/-! ### From the record to the row and the event -/

theorem Normalised.fields {pos stored : Position} (h : Normalised pos stored) :
    ∃ time, stored = { pos with time := time } := by
  unfold Normalised at h
  split_ifs at h
  · exact h
  · exact ⟨pos.time, h⟩

/-- **A sensor is shown exactly if it is told.** -/
theorem Sensor.shown_iff_told (s : Sensor) (a : AVLRecord layout) (sess : DeviceSession)
    {deviceID : Int} {pos : Position} (h : Normalised (a.decode deviceID) pos) :
    s.Shown a (positionRow pos) (liveEvent sess pos) ↔ s.Told a := by
  obtain ⟨time, rfl⟩ := h.fields
  cases s with
  | temperature =>
      rw [Sensor.shown_iff_of_number rfl rfl]
      exact Sensor.temperature_told_iff deviceID rfl
  | voltage =>
      rw [Sensor.shown_iff_of_number rfl rfl]
      exact Sensor.voltage_told_iff deviceID rfl
  | fuel =>
      exact iff_of_true (Sensor.shown_of_pointer fuelField .real deviceID
        (ownRule_map _ _ _) rfl rfl) trivial
  | battery =>
      exact iff_of_true (Sensor.shown_of_pointer batteryField .real deviceID
        (ownRule_map _ _ _) rfl rfl) trivial
  | door =>
      exact iff_of_true (Sensor.shown_of_pointer doorField .bool deviceID
        (ownRule_map _ _ _) rfl rfl) trivial

/-- The rows that a frame adds and the events it publishes. -/
theorem handleAVLFrame_rows_events (env : Env) (sess : DeviceSession) {payload : List UInt8}
    {ps qs : List Position} {k : Nat} {w w₁ : World}
    (h : parseFrame payload sess.deviceID = .returns ps none)
    (hbatch : batched env ps w = (qs, k, w₁)) :
    ∃ w', handleAVLFrame env true sess payload w = some w' ∧
      w'.db.positions = w.db.positions ++ (qs.take k).map positionRow ∧
      w'.published.map Prod.fst =
        w.published.map Prod.fst ++ (if k > 0 then qs.map (liveEvent sess) else []) := by
  have hrows := (batched_spec env ps w).2.2
  have hpublished := batched_published env ps w
  rw [hbatch] at hrows hpublished
  dsimp only at hrows hpublished
  refine ⟨_, handleAVLFrame_eq env true sess h hbatch, ?_, ?_⟩
  · rw [afterBatch_positions, hrows]
  · rw [(afterBatch_counts env true sess _ k w₁).2, hpublished, if_pos rfl]
    split_ifs
    · rfl
    · rfl

/-- **In the rows and the events of a frame each sensor is shown exactly if it is told.**  The fuel
level, the backup battery and the door always are; the temperature if its last reading is not
zero; and the voltage if some reading of it is not. -/
theorem sensors_shown_iff (env : Env) (sess : DeviceSession) {payload : List UInt8}
    {as : List (AVLRecord layout)} (w : World)
    (h : parseFrame payload sess.deviceID = .returns (as.map (·.decode sess.deviceID)) none) :
    ∃ w' ps k, handleAVLFrame env true sess payload w = some w' ∧
      w'.db.positions = w.db.positions ++ (ps.take k).map positionRow ∧
      w'.published.map Prod.fst =
        w.published.map Prod.fst ++ (if k > 0 then ps.map (liveEvent sess) else []) ∧
      List.Forall₂ (fun a pos => ∀ s : Sensor,
        s.Shown a (positionRow pos) (liveEvent sess pos) ↔ s.Told a) as ps := by
  have hnormal := (batched_spec env (as.map (·.decode sess.deviceID)) w).1
  rcases hbatch : batched env (as.map (·.decode sess.deviceID)) w with ⟨qs, k, w₁⟩
  obtain ⟨w', hhandle, hrows, hevents⟩ := handleAVLFrame_rows_events env sess h hbatch
  rw [hbatch, List.forall₂_map_left_iff] at hnormal
  exact ⟨w', qs, k, hhandle, hrows, hevents,
    hnormal.imp fun a pos hpos s => s.shown_iff_told a sess hpos⟩

/-- A vehicle without a probe is stored with a temperature of zero. -/
theorem bareRecord_not_shown : ∃ w' row event,
    handleAVLFrame (failingAt []) true ⟨[], 7, 1, "GJ-01"⟩ (bareFrame 1) emptyWorld = some w' ∧
      w'.db.positions = [row] ∧ w'.published.map Prod.fst = [event] ∧
      ¬ Sensor.temperature.Shown bareRecord row event := by
  have hparse := bareFrame_returns (show 1 ≤ 255 by decide) 7
  rw [show (List.replicate 1 bareRecord).map (·.decode 7) = [bareRecord.decode 7] from rfl] at hparse
  have hcount := batched_count (failingAt []) emptyWorld hparse
  have hnormal := (batched_spec (failingAt []) [bareRecord.decode 7] emptyWorld).1
  rcases hbatch : batched (failingAt []) [bareRecord.decode 7] emptyWorld with ⟨qs, k, w₁⟩
  obtain ⟨w', hhandle, hrows, hevents⟩ :=
    handleAVLFrame_rows_events (failingAt []) ⟨[], 7, 1, "GJ-01"⟩ hparse hbatch
  rw [hbatch] at hcount hnormal
  obtain rfl : k = 1 := hcount
  obtain ⟨pos, rest, hpos, hrest, rfl⟩ := List.forall₂_cons_left_iff.mp hnormal
  obtain rfl := List.forall₂_nil_left_iff.mp hrest
  refine ⟨w', _, _, hhandle, hrows, hevents, fun hshown => ?_⟩
  obtain ⟨x, hx, -⟩ := (Sensor.shown_iff_told .temperature bareRecord _ hpos).mp hshown
  have hnone : bareRecord.io.elements = [] := rfl
  exact absurd hx (by simp [Sensor.readings, hnone])

/-- Nothing is read of a bare record, so its three pointers are null and absent. -/
theorem bareRecord_shown : ∃ w' ps k,
    handleAVLFrame (failingAt []) true ⟨[], 7, 1, "GJ-01"⟩ (bareFrame 1) emptyWorld = some w' ∧
      w'.db.positions = emptyWorld.db.positions ++ (ps.take k).map positionRow ∧
      w'.published.map Prod.fst = emptyWorld.published.map Prod.fst ++
        (if k > 0 then ps.map (liveEvent ⟨[], 7, 1, "GJ-01"⟩) else []) ∧
      List.Forall₂ (fun a pos => ∀ s : Sensor,
        s.Shown a (positionRow pos) (liveEvent ⟨[], 7, 1, "GJ-01"⟩ pos) ↔ s.Told a)
        (List.replicate 1 bareRecord) ps :=
  sensors_shown_iff (failingAt []) ⟨[], 7, 1, "GJ-01"⟩ emptyWorld (bareFrame_returns (by decide) 7)

end RudraNetra
