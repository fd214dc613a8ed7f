/-
Which vehicle a path with an id answers for, and where its playback ends.

The lookups compare one text with several columns, and any row that has it in one of them may
come first.  So a lookup is right exactly if all rows that it may find are
(`lookups_iff`): a registration number may look like an id, and for the log view so may the id
of a device.

The playback takes the oldest 500 positions of a device, and the latest one is among them
exactly if there are no more (`playback_ends_iff`).
-/
import RudraNetra.Api.Playback
import RudraNetra.Proofs.Status

namespace RudraNetra

open SQL

variable {tables : ReportTables} {companyID : Int}

/-! ### The lookups -/

theorem mem_namedVehicle {param : String} {v : VehicleRecord} :
    v ∈ tables.namedVehicle companyID param ↔
      v ∈ tables.ofCompany companyID ∧ (toString v.id = param ∨ v.regNumber = param) := by
  simp [Fleet.namedVehicle]

theorem mem_loggedVehicle {n : Int} {v : VehicleRecord} :
    v ∈ tables.loggedVehicle companyID (toString n) ↔
      v ∈ tables.ofCompany companyID ∧
        (v.id = n ∨ v.regNumber = toString n ∨ v.deviceID = some n) := by
  simp [Fleet.loggedVehicle, Option.map_eq_some_iff]

/-- The playback answers for what the lookup finds. -/
theorem history_forall {param : String} {P : Int → Prop} :
    (∀ tie, ∃ answer, getHistoryHandler tables tie companyID param = some answer ∧
      P answer.vehicleID) ↔
        tables.namedVehicle companyID param ≠ [] ∧
          ∀ v ∈ tables.namedVehicle companyID param, P v.id := by
  rw [← TieBreak.forall_first (P := fun v : VehicleRecord => P v.id)]
  refine forall_congr' fun tie => ?_
  cases hfirst : tie.first (tables.namedVehicle companyID param) with
  | none => simp [getHistoryHandler, hfirst]
  | some v => simp [getHistoryHandler, hfirst]

/-- So does the log view. -/
theorem logs_forall {param limit : String} {P : Int → Int → Prop} :
    (∀ tie, ∃ logs, getVehicleLogsHandler tables tie companyID param limit = some logs ∧
      P logs.vehicleID logs.deviceID) ↔
        tables.loggedVehicle companyID param ≠ [] ∧
          ∀ v ∈ tables.loggedVehicle companyID param, P v.id (v.deviceID.getD 0) := by
  rw [← TieBreak.forall_first (P := fun v : VehicleRecord => P v.id (v.deviceID.getD 0))]
  refine forall_congr' fun tie => ?_
  cases hfirst : tie.first (tables.loggedVehicle companyID param) with
  | none => simp [getVehicleLogsHandler, hfirst]
  | some v => simp [getVehicleLogsHandler, hfirst]

/-- No other vehicle of the company has the id as its registration number. -/
def Fleet.NamedAlone (fleet : Fleet) (companyID : Int) (v : VehicleRecord) : Prop :=
  ∀ w ∈ fleet.ofCompany companyID, w.id ≠ v.id → w.regNumber ≠ toString v.id

/-- Nor does another one carry the device of that id. -/
def Fleet.LoggedAlone (fleet : Fleet) (companyID : Int) (v : VehicleRecord) : Prop :=
  fleet.NamedAlone companyID v ∧
    ∀ w ∈ fleet.ofCompany companyID, w.id ≠ v.id → w.deviceID ≠ some v.id

/-- The company has a vehicle that the id of the device may mean, and each of them carries the
device. -/
def Fleet.CarriedAlone (fleet : Fleet) (companyID deviceID : Int) : Prop :=
  (∃ v ∈ fleet.ofCompany companyID,
    v.id = deviceID ∨ v.regNumber = toString deviceID ∨ v.deviceID = some deviceID) ∧
  ∀ w ∈ fleet.ofCompany companyID, w.id = deviceID ∨ w.regNumber = toString deviceID →
    w.deviceID.getD 0 = deviceID

/--
**A path with an id answers for what has it exactly if no other vehicle of the company may be
meant.**  The playback of a vehicle, its log, and the log of a device, each for every row that the
database may put first.
-/
theorem lookups_iff (tables : ReportTables) (companyID : Int) (limit : String) :
    (∀ v ∈ tables.ofCompany companyID,
      ((∀ tie, ∃ answer, getHistoryHandler tables tie companyID (toString v.id) = some answer ∧
        answer.vehicleID = v.id) ↔ tables.NamedAlone companyID v) ∧
      ((∀ tie, ∃ logs, getVehicleLogsHandler tables tie companyID (toString v.id) limit =
        some logs ∧ logs.vehicleID = v.id) ↔ tables.LoggedAlone companyID v)) ∧
    ∀ d ∈ tables.devices, d.companyID = some companyID →
      (∃ v ∈ tables.vehicles, v.deviceID = some d.id) →
      ((∀ tie, ∃ logs, getVehicleLogsHandler tables tie companyID (toString d.id) limit =
        some logs ∧ logs.deviceID = d.id) ↔ tables.CarriedAlone companyID d.id) := by
  refine ⟨fun v hv => ⟨?_, ?_⟩, fun d _ _ _ => ?_⟩
  · rw [history_forall (P := (· = v.id))]
    have hfound : v ∈ tables.namedVehicle companyID (toString v.id) :=
      mem_namedVehicle.mpr ⟨hv, .inl rfl⟩
    simp only [List.ne_nil_of_mem hfound, ne_eq, not_false_eq_true, true_and, mem_namedVehicle]
    constructor
    · exact fun h w hw hne hreg => hne (h w ⟨hw, .inr hreg⟩)
    · rintro h w ⟨hw, hmeant⟩
      by_contra hne
      rcases hmeant with hid | hreg
      · exact hne (Int.repr_inj.mp hid)
      · exact h w hw hne hreg
  · rw [logs_forall (P := fun vehicleID _ => vehicleID = v.id)]
    have hfound : v ∈ tables.loggedVehicle companyID (toString v.id) :=
      mem_loggedVehicle.mpr ⟨hv, .inl rfl⟩
    simp only [List.ne_nil_of_mem hfound, ne_eq, not_false_eq_true, true_and, mem_loggedVehicle]
    constructor
    · intro h
      exact ⟨fun w hw hne hreg => hne (h w ⟨hw, .inr (.inl hreg)⟩),
        fun w hw hne hdev => hne (h w ⟨hw, .inr (.inr hdev)⟩)⟩
    · rintro ⟨hnamed, hcarried⟩ w ⟨hw, hmeant⟩
      by_contra hne
      rcases hmeant with hid | hreg | hdev
      · exact hne hid
      · exact hnamed w hw hne hreg
      · exact hcarried w hw hne hdev
  · rw [logs_forall (P := fun _ deviceID => deviceID = d.id)]
    refine and_congr ?_ ?_
    · simp only [ne_eq, List.eq_nil_iff_forall_not_mem, not_forall, not_not, mem_loggedVehicle]
    · simp only [mem_loggedVehicle]
      constructor
      · rintro h w hw (hid | hreg)
        · exact h w ⟨hw, .inl hid⟩
        · exact h w ⟨hw, .inr (.inl hreg)⟩
      · rintro h w ⟨hw, hid | hreg | hdev⟩
        · exact h w hw (.inl hid)
        · exact h w hw (.inr hreg)
        · simp [hdev]

/-- A vehicle registered as `6` has the id of one device and carries another. -/
def crossed : ReportTables where
  vehicles := [
    { (default : VehicleRecord) with
      id := 9, companyID := 1, deviceID := some 5, regNumber := "6" },
    { (default : VehicleRecord) with
      id := 5, companyID := 1, deviceID := some 9, regNumber := "A" },
    { (default : VehicleRecord) with
      id := 6, companyID := 1, deviceID := none, regNumber := "B" }]
  drivers := []
  devices := [⟨5, some 1, [], none⟩, ⟨9, some 1, [], none⟩]
  positions := []
  alerts := []
  ids_nodup := by decide
  settings := []
  deviceIDs_nodup := by decide
  times_nodup := by decide

/-- That vehicle answers for the log of vehicle 5, for the playback of vehicle 6 and for the log of
device 9. -/
theorem crossed_lookups :
    (¬∀ v ∈ crossed.ofCompany 1, ∀ tie, ∃ logs,
      getVehicleLogsHandler crossed tie 1 (toString v.id) "" = some logs ∧
        logs.vehicleID = v.id) ∧
    (¬∀ v ∈ crossed.ofCompany 1, ∀ tie, ∃ answer,
      getHistoryHandler crossed tie 1 (toString v.id) = some answer ∧ answer.vehicleID = v.id) ∧
    ¬∀ d ∈ crossed.devices, d.companyID = some 1 →
      (∃ v ∈ crossed.vehicles, v.deviceID = some d.id) → ∀ tie, ∃ logs,
        getVehicleLogsHandler crossed tie 1 (toString d.id) "" = some logs ∧
          logs.deviceID = d.id := by
  have hlog : (getVehicleLogsHandler crossed .stored 1 (toString (5 : Int)) "").map (·.vehicleID) =
      some 9 := by
    decide +kernel
  have hhistory : (getHistoryHandler crossed .stored 1 (toString (6 : Int))).map (·.vehicleID) =
      some 9 := by
    decide +kernel
  have hdevice : (getVehicleLogsHandler crossed .stored 1 (toString (9 : Int)) "").map
      (·.deviceID) = some 5 := by
    decide +kernel
  refine ⟨fun h => ?_, fun h => ?_, fun h => ?_⟩
  · obtain ⟨logs, hlogs, hid⟩ := h _ (.tail _ (.head _)) .stored
    rw [hlogs] at hlog
    simp [hid] at hlog
  · obtain ⟨answer, hanswer, hid⟩ := h _ (.tail _ (.tail _ (.head _))) .stored
    rw [hanswer] at hhistory
    simp [hid] at hhistory
  · obtain ⟨logs, hlogs, hid⟩ := h ⟨9, some 1, [], none⟩ (.tail _ (.head _)) rfl
      ⟨_, .tail _ (.head _), rfl⟩ .stored
    rw [hlogs] at hdevice
    simp [hid] at hdevice

/-! ### The end of the playback -/

variable {v : VehicleRecord} {d : Int}

theorem positionsOf_eq (hd : v.deviceID = some d) :
    tables.positionsOf v = tables.positionsOfDevice d := by
  refine List.filter_congr fun p _ => ?_
  simp [hd, beq_eq_decide]

/-- The positions of one device have different times. -/
theorem times_nodup_of_device (tables : ReportTables) (d : Int) :
    ((tables.positionsOfDevice d).map (·.time)).Nodup := by
  have hpairs : ((tables.positionsOfDevice d).map fun p => (p.deviceID, p.time)).Nodup :=
    tables.times_nodup.sublist (List.filter_sublist.map _)
  have hsame : ((tables.positionsOfDevice d).map fun p => (p.deviceID, p.time)) =
      ((tables.positionsOfDevice d).map (·.time)).map fun t => (d, t) := by
    rw [List.map_map]
    refine List.map_congr_left fun p hp => ?_
    simp [show p.deviceID = d by simpa using (List.mem_filter.mp hp).2]
  rw [hsame] at hpairs
  exact hpairs.of_map _

/-- The positions of a device, the oldest first. -/
def Fleet.track (fleet : Fleet) (deviceID : Int) : List PositionRecord :=
  (fleet.positionsOfDevice deviceID).mergeSort fun p q => p.time ≤ q.time

theorem lastPosition_eq_getLast? (hd : v.deviceID = some d) (tie : TieBreak PositionRecord) :
    tables.lastPosition tie v = (tables.track d).getLast? := by
  rw [Fleet.lastPosition, positionsOf_eq hd]
  exact TieBreak.newest_eq_getLast? (times_nodup_of_device tables d)

/-- A prefix of the track ends at the time of the track only if it is all of it. -/
theorem take_getLast?_iff {last : PositionRecord} (hlast : (tables.track d).getLast? = some last)
    {n : Nat} (hn : 0 < n) :
    ((tables.track d).take n).getLast?.map (·.time) = some last.time ↔
      (tables.track d).length ≤ n := by
  constructor
  · intro htime
    by_contra hlong
    have htimes : ((tables.track d).map (·.time)).Nodup :=
      ((List.mergeSort_perm _ _).map _).nodup_iff.mpr (times_nodup_of_device tables d)
    have hn' : n - 1 < (tables.track d).length := by omega
    have hend : ((tables.track d).map (·.time))[(tables.track d).length - 1]? = some last.time := by
      rw [List.getElem?_map, ← List.getLast?_eq_getElem?, hlast, Option.map_some]
    rw [List.getLast?_take, if_neg hn.ne', List.getElem?_eq_getElem hn', Option.some_or,
      ← List.getElem?_eq_getElem hn', ← List.getElem?_map] at htime
    have hindex := (List.getElem?_inj (by simpa using hn') htimes).mp (htime.trans hend.symm)
    omega
  · intro hshort
    rw [List.take_of_length_le hshort, hlast, Option.map_some]

/-- The data of a playback. -/
theorem getHistoryHandler_eq {lookup : TieBreak VehicleRecord} {param : String}
    (hfound : lookup.first (tables.namedVehicle companyID param) = some v)
    (hd : v.deviceID = some d) :
    ∃ history, getHistoryHandler tables lookup companyID param = some history ∧
      history.data = if 0 < d then ((tables.track d).take 500).map historyPoint else [] := by
  refine ⟨_, by rw [getHistoryHandler, hfound]; rfl, ?_⟩
  simp only [hd, Option.getD_some]
  split_ifs <;> rfl

/-- What a report says of a position. -/
structure PositionRecord.ReportedAs (p : PositionRecord) (time : Option Int)
    (lat lng speed : Option ℚ) : Prop where
  time : time = some p.time
  lat : lat = some p.lat
  lng : lng = some p.lng
  speed : speed = p.speed

/-- What the handler of a device answers is about its latest position. -/
theorem getDevicePositionHandler_reports {tie : TieBreak PositionRecord} {last : PositionRecord}
    (hlast : (tables.track d).getLast? = some last) {answer : DevicePosition}
    (h : getDevicePositionHandler tables tie d companyID = some answer) :
    last.ReportedAs answer.timestamp answer.lat answer.lng answer.speed := by
  obtain ⟨row, hrow, hanswer⟩ := List.mem_flatMap.mp (List.mem_of_head? h)
  obtain ⟨v, -, rfl⟩ := List.mem_map.mp hanswer
  have hid : row.id = d := by
    simp only [List.mem_filter, decide_eq_true_eq] at hrow
    exact hrow.2.1
  have hnewest : tie.newest (·.time) (tables.positionsOfDevice row.id) = some last := by
    rw [hid, TieBreak.newest_eq_getLast? (times_nodup_of_device tables d)]
    exact hlast
  constructor <;> simp [devicePosition, hnewest]

/--
**The playback of a vehicle with a device that has reported ends at its latest position exactly if
the device has at most 500 of them.**
-/
theorem playback_ends_iff (tables : ReportTables) (v : VehicleRecord) (d : Int)
    (hv : v ∈ tables.vehicles) (hd : v.deviceID = some d) (hreported : tables.positionsOf v ≠ [])
    (lookup : TieBreak VehicleRecord) (param : String)
    (hfound : lookup.first (tables.namedVehicle v.companyID param) = some v)
    (tie tie' : TieBreak PositionRecord) (now : Int) :
    (∃ history, ∃ p ∈ tables.latest v,
      getHistoryHandler tables lookup v.companyID param = some history ∧
        history.data.getLast? = some (historyPoint p) ∧
        (∃ x, tables.getByID tie now v.id v.companyID = some x ∧
          p.ReportedAs x.timestamp x.lat x.lng x.speed) ∧
        ∀ x, getDevicePositionHandler tables tie' d v.companyID = some x →
          p.ReportedAs x.timestamp x.lat x.lng x.speed) ↔
      0 < d ∧ (tables.positionsOf v).length ≤ 500 := by
  have htrack : tables.track d ≠ [] := by
    rw [ne_eq, ← List.length_eq_zero_iff, Fleet.track, List.length_mergeSort,
      List.length_eq_zero_iff, ← positionsOf_eq hd]
    exact hreported
  obtain ⟨last, hlast⟩ := Option.ne_none_iff_exists'.mp (mt List.getLast?_eq_none_iff.mp htrack)
  have hlatest : tables.lastPosition tie v = some last := by
    rw [lastPosition_eq_getLast? hd, hlast]
  have hcount : (tables.positionsOf v).length = (tables.track d).length := by
    rw [positionsOf_eq hd, Fleet.track, List.length_mergeSort]
  obtain ⟨history, hhistory, hdata⟩ := getHistoryHandler_eq hfound hd
  have hmem : v ∈ tables.ofCompany v.companyID := List.mem_filter.mpr ⟨hv, by simp⟩
  obtain ⟨driver, hvehicle⟩ := tables.getByID_eq tie now hmem
  rw [hcount]
  constructor
  · rintro ⟨history', p, -, hhistory', hends, ⟨x, hx, hreport⟩, -⟩
    obtain rfl : history = history' := Option.some.inj (hhistory.symm.trans hhistory')
    have hpositive : 0 < d := by
      by_contra hnot
      simp [hdata, hnot] at hends
    obtain rfl := Option.some.inj (hvehicle.symm.trans hx)
    have htime : some last.time = some p.time := by
      simpa [telemetry, hlatest] using hreport.time
    refine ⟨hpositive, (take_getLast?_iff hlast (n := 500) (by omega)).mp ?_⟩
    rw [hdata, if_pos hpositive, List.getLast?_map] at hends
    obtain ⟨q, hq, hpoint⟩ := Option.map_eq_some_iff.mp hends
    rw [hq, Option.map_some, htime, ← show (historyPoint q).time = q.time from rfl, hpoint]
    rfl
  · rintro ⟨hpositive, hshort⟩
    refine ⟨history, last, Fleet.lastPosition_mem hlatest, hhistory, ?_, ⟨_, hvehicle, ?_⟩,
      fun x hx => getDevicePositionHandler_reports hlast hx⟩
    · rw [hdata, if_pos hpositive, List.getLast?_map, List.take_of_length_le hshort, hlast]
      rfl
    · constructor <;> simp [telemetry, hlatest]

def trackedTruck : VehicleRecord :=
  { (default : VehicleRecord) with id := 1, companyID := 1, deviceID := some 7, regNumber := "A" }

def reportAt (i : Nat) : PositionRecord := { towed with time := (i : Int) }

/-- A truck whose device has reported `n` times. -/
def tracked (n : Nat) : ReportTables where
  vehicles := [trackedTruck]
  drivers := []
  devices := [⟨7, some 1, [], none⟩]
  positions := (List.range n).map reportAt
  alerts := []
  ids_nodup := by decide
  settings := []
  deviceIDs_nodup := by decide
  times_nodup := by
    rw [List.map_map]
    exact List.nodup_range.map fun i j h => by simpa [reportAt] using h

theorem tracked_positions (n : Nat) :
    (tracked n).positionsOfDevice 7 = (List.range n).map reportAt := by
  simp [Fleet.positionsOfDevice, tracked, reportAt, towed]

theorem tracked_track (n : Nat) : (tracked n).track 7 = (List.range n).map reportAt := by
  rw [Fleet.track, tracked_positions]
  refine List.mergeSort_of_pairwise ?_
  simp only [reportAt, List.pairwise_map, decide_eq_true_eq, Nat.cast_le]
  exact List.pairwise_le_range

theorem tracked_named (n : Nat) : (tracked n).namedVehicle 1 "A" = [trackedTruck] := by
  simp [Fleet.namedVehicle, Fleet.ofCompany, tracked, trackedTruck]

theorem tracked_first (n : Nat) :
    TieBreak.stored.first ((tracked n).namedVehicle 1 "A") = some trackedTruck := by
  rw [tracked_named]
  rfl

/-- After two reports the playback ends where the truck is. -/
theorem playback_ends_iff_tracked : ∃ history, ∃ p ∈ (tracked 2).latest trackedTruck,
    getHistoryHandler (tracked 2) .stored 1 "A" = some history ∧
      history.data.getLast? = some (historyPoint p) ∧
      (∃ x, (tracked 2).getByID .stored 0 1 1 = some x ∧
        p.ReportedAs x.timestamp x.lat x.lng x.speed) ∧
      ∀ x, getDevicePositionHandler (tracked 2) .stored 7 1 = some x →
        p.ReportedAs x.timestamp x.lat x.lng x.speed := by
  have hpositions : (tracked 2).positionsOf trackedTruck = (List.range 2).map reportAt := by
    rw [positionsOf_eq rfl, tracked_positions]
  refine (playback_ends_iff (tracked 2) trackedTruck 7 (.head _) rfl ?_ .stored "A"
    (tracked_first 2) .stored .stored 0).mpr ?_ <;> simp [hpositions]

/-- After 501 reports it ends at the last but one. -/
theorem playback_ends_early :
    (getHistoryHandler (tracked 501) .stored 1 "A").map (·.data.getLast?.map (·.time)) =
        some (some 499) ∧
      ((tracked 501).getByID .stored 0 1 1).map (·.timestamp) = some (some 500) ∧
      (getDevicePositionHandler (tracked 501) .stored 7 1).map (·.timestamp) =
        some (some 500) := by
  have hlast : ((tracked 501).track 7).getLast? = some (reportAt 500) := by
    simp [tracked_track, List.getLast?_range]
  refine ⟨?_, ?_, ?_⟩
  · obtain ⟨history, hhistory, hdata⟩ := getHistoryHandler_eq (tracked_first 501) rfl
    rw [hhistory, Option.map_some, hdata, if_pos (by decide), tracked_track, ← List.map_take,
      List.take_range]
    simp [historyPoint, reportAt, List.getLast?_range]
  · have hmem : trackedTruck ∈ (tracked 501).ofCompany 1 := List.mem_filter.mpr ⟨.head _, rfl⟩
    obtain ⟨driver, hvehicle⟩ := (tracked 501).getByID_eq .stored 0 hmem
    rw [show trackedTruck.id = 1 from rfl] at hvehicle
    rw [hvehicle, Option.map_some, lastPosition_eq_getLast? rfl, hlast]
    rfl
  · have hnewest : TieBreak.stored.newest (·.time) ((tracked 501).positionsOfDevice 7) =
        some (reportAt 500) := by
      rw [TieBreak.newest_eq_getLast? (times_nodup_of_device _ 7)]
      exact hlast
    have hcarriers : (tracked 501).carriersOf 7 = [some trackedTruck] := by
      simp [Fleet.carriersOf, tracked, trackedTruck]
    have hdevices : (tracked 501).devices = [⟨7, some 1, [], none⟩] := rfl
    simp [getDevicePositionHandler, hdevices, devicePosition, hcarriers, hnewest, reportAt]

end RudraNetra
