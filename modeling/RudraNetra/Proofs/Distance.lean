/-
The distance report and the distance matrix.

Both add up what a vehicle drove between two rows of a window, the report for each vehicle and
the matrix for each day and registration number.  So each total is a sum over a list of
legs, and the totals agree whatever the distance of two places is exactly if the lists
hold the same legs.

The windows end differently: the matrix goes on after the anchor, where no leg counts, and it
knows no offset.  So the lists differ for yesterday (`totals_eq_iff`).
-/
import RudraNetra.Api.Reports
import RudraNetra.Proofs.Status

namespace RudraNetra

open SQL

/-- What counts of some points for the vehicles of a kind. -/
def legsOf (points : List Tracked) (kind : VehicleRecord → Bool) : List (Place × Place) :=
  (points.filter fun row => kind row.2).filterMap (leg points)

/-- The total of a vehicle in the report. -/
def reportTotal (rows : List DistanceRow) (v : VehicleRecord) : ℚ :=
  ((rows.filter (·.vehicleID = v.id)).map (·.distanceKm)).sum

/-- The total over the days in the matrix, which lists a vehicle under its registration number. -/
def matrixTotal (rows : List MatrixRow) (v : VehicleRecord) : ℚ :=
  ((rows.filter (·.regNumber = v.regNumber)).map (·.distanceKm)).sum

/-- No other vehicle drove under the vehicle's registration number; or, for yesterday, what it
drove the day before is what was driven under the number on the last day. -/
def ReportTables.SameLegs (tables : ReportTables) (companyID : Int) (range : String)
    (v : VehicleRecord) : Prop :=
  if lowerCase range = "yesterday" then
    (legsOf (tables.pointsOf companyID ⟨24, 24⟩) (·.id = v.id)).Perm
      (legsOf (tables.recentPoints companyID 24) (·.regNumber = v.regNumber))
  else ∀ w ∈ tables.ofCompany companyID, w.regNumber = v.regNumber → w.id ≠ v.id →
    legsOf (tables.pointsOf companyID (reportWindowFrom range)) (·.id = w.id) = []

/-! ### Sums over lists -/

theorem sum_div_map {α : Type} (l : List α) (f : α → ℚ) (c : ℚ) :
    (l.map f).sum / c = (l.map fun x => f x / c).sum := by
  induction l with
  | nil => simp
  | cons x rest ih => simp [add_div, ih]

theorem sum_metersOf (distance : Place → Place → ℚ) (points rows : List Tracked) :
    (rows.map (metersOf distance points)).sum =
      ((rows.filterMap (leg points)).map fun x => distance x.1 x.2).sum := by
  induction rows with
  | nil => rfl
  | cons row rest ih =>
      cases hleg : leg points row with
      | none => simp [metersOf, hleg, ← ih]
      | some x => simp [metersOf, hleg, ← ih]

/-- A row without a leg adds nothing. -/
theorem sum_counted (points rows : List Tracked) {distance : Place → Place → ℚ} :
    ((rows.filter fun row => (leg points row).isSome).map fun row =>
        metersOf distance points row / 1000).sum =
      (rows.map fun row => metersOf distance points row / 1000).sum := by
  induction rows with
  | nil => rfl
  | cons row rest ih =>
      cases hleg : leg points row with
      | none =>
          have hzero : metersOf distance points row = 0 := by simp [metersOf, hleg]
          simp [hleg, hzero, ih]
      | some x => simp [hleg, ih]

/-- Lists of legs give the same sum for all distances only if they hold the same legs. -/
theorem perm_iff_sum (legs legs' : List (Place × Place)) :
    legs.Perm legs' ↔ ∀ distance : Place → Place → ℚ,
      (legs.map fun x => distance x.1 x.2).sum = (legs'.map fun x => distance x.1 x.2).sum := by
  constructor
  · intro hperm distance
    exact (hperm.map _).sum_eq
  · intro hsum
    rw [List.perm_iff_count]
    intro x
    have hcount : ∀ l : List (Place × Place),
        (l.map fun y => if (y.1, y.2) = x then (1 : ℚ) else 0).sum = l.count x := by
      intro l
      induction l with
      | nil => simp
      | cons y rest ih =>
          by_cases hy : y = x
          · simp [hy, ih, add_comm]
          · simp [hy, ih, List.count_cons_of_ne hy]
    have := hsum fun a b => if (a, b) = x then 1 else 0
    rw [hcount, hcount] at this
    exact_mod_cast this

theorem map_fst_pairs {α β : Type} (l : List α) (g : α → List β)
    (h : ∀ a ∈ l, (g a).length = 1) :
    (l.flatMap fun a => (g a).map fun b => (a, b)).map Prod.fst = l := by
  induction l with
  | nil => rfl
  | cons a rest ih =>
      obtain ⟨b, hb⟩ := List.length_eq_one_iff.mp (h a (by simp))
      rw [List.flatMap_cons, List.map_append, ih fun x hx => h x (by simp [hx]), hb]
      rfl

/-- Only one element has a value that no two share. -/
theorem filter_eq_singleton {α β : Type} [DecidableEq β] {l : List α} {f : α → Option β} {a : α}
    {b : β} (hnodup : (l.filterMap f).Nodup) (ha : a ∈ l) (hb : f a = some b) :
    l.filter (fun x => f x = some b) = [a] := by
  induction l with
  | nil => simp at ha
  | cons x rest ih =>
      have hrest : (rest.filterMap f).Nodup := by
        cases hx : f x <;> simp_all
      rcases List.mem_cons.mp ha with rfl | htail
      · have hnone : rest.filter (fun x => f x = some b) = [] := by
          rw [List.filter_eq_nil_iff]
          intro y hy hfy
          rw [List.filterMap_cons_some hb, List.nodup_cons] at hnodup
          exact hnodup.1 (List.mem_filterMap.mpr ⟨y, hy, by simpa using hfy⟩)
        simp [hb, hnone]
      · have hne : f x ≠ some b := by
          intro hfx
          rw [List.filterMap_cons_some hfx, List.nodup_cons] at hnodup
          exact hnodup.1 (List.mem_filterMap.mpr ⟨a, htail, hb⟩)
        simp [hne, ih hrest htail]

variable {tables : ReportTables} {companyID : Int} {distance : Place → Place → ℚ}
  {row : Tracked}

theorem mem_tracked : row ∈ tables.tracked companyID ↔ row.1 ∈ tables.positions ∧
    row.2 ∈ tables.ofCompany companyID ∧ row.2.deviceID = some row.1.deviceID := by
  obtain ⟨p, v⟩ := row
  simp [Fleet.tracked]

/-- The device of a tracked position is carried by no other vehicle. -/
theorem carriers_eq (hrow : row ∈ tables.tracked companyID) :
    tables.vehicles.filter (·.deviceID = some row.1.deviceID) = [row.2] := by
  obtain ⟨-, hv, hdevice⟩ := mem_tracked.mp hrow
  exact filter_eq_singleton tables.deviceIDs_nodup (List.mem_filter.mp hv).1 hdevice

/-- A vehicle of the company is known by its id. -/
theorem eq_of_id {v w : VehicleRecord} (hv : v ∈ tables.ofCompany companyID)
    (hw : w ∈ tables.ofCompany companyID) (h : v.id = w.id) : v = w :=
  List.inj_on_of_nodup_map tables.ids_nodup (List.mem_filter.mp hv).1 (List.mem_filter.mp hw).1 h

theorem mem_pointsOf {win : ReportWindow} (hrow : row ∈ tables.pointsOf companyID win) :
    row ∈ tables.tracked companyID := (List.mem_filter.mp hrow).1

theorem mem_recentPoints {n : Int} (hrow : row ∈ tables.recentPoints companyID n) :
    row ∈ tables.tracked companyID := (List.mem_filter.mp hrow).1

/-! ### The totals as sums over legs -/

theorem sum_legsOf (points : List Tracked) (kind : VehicleRecord → Bool) :
    ((points.filter fun row => kind row.2).map fun row => metersOf distance points row / 1000).sum =
      ((legsOf points kind).map fun x => distance x.1 x.2).sum / 1000 := by
  rw [legsOf, ← sum_metersOf, sum_div_map]

/-- The total of the report is over the legs of the vehicle, if no vehicle has two drivers. -/
theorem reportTotal_eq (range : String) (v : VehicleRecord)
    (hdrivers : ∀ w ∈ tables.ofCompany companyID, (tables.driversOf w).length = 1) :
    reportTotal (tables.reportDistance distance companyID range) v =
      ((legsOf (tables.pointsOf companyID (reportWindowFrom range)) (·.id = v.id)).map
        fun x => distance x.1 x.2).sum / 1000 := by
  let points := tables.pointsOf companyID (reportWindowFrom range)
  let driven := points.flatMap fun row => (tables.driversOf row.2).map fun driver => (row, driver)
  have hdriven : driven.map Prod.fst = points := map_fst_pairs _ _ fun row hrow =>
    hdrivers _ (mem_tracked.mp (mem_pointsOf hrow)).2.1
  calc reportTotal (tables.reportDistance distance companyID range) v
      = (((groups DrivenPoint.key driven).filter fun g => decide (g.1.1 = v.id)).map fun g =>
          (g.2.map fun x => metersOf distance points x.1 / 1000).sum).sum := by
        rw [reportTotal, Fleet.reportDistance, List.filter_map, List.map_map]
        congr 2
        funext g
        simp [distanceRow, sum_div_map, points]
    _ = ((driven.filter fun x => decide (x.1.2.id = v.id)).map fun x =>
          metersOf distance points x.1 / 1000).sum :=
        sum_groups DrivenPoint.key driven (fun x => metersOf distance points x.1 / 1000)
          fun k => decide (k.1 = v.id)
    _ = ((points.filter fun row => decide (row.2.id = v.id)).map fun row =>
          metersOf distance points row / 1000).sum := by
        rw [← hdriven, List.filter_map, List.map_map]
        rfl
    _ = _ := sum_legsOf points fun w => decide (w.id = v.id)

/-- The total of the matrix is over the legs under the registration number. -/
theorem matrixTotal_eq (dayOf : Int → Int) (range days : String) (v : VehicleRecord) :
    matrixTotal (tables.reportDistanceMatrix distance dayOf companyID range days) v =
      ((legsOf (tables.recentPoints companyID (matrixHours range days))
        (·.regNumber = v.regNumber)).map fun x => distance x.1 x.2).sum / 1000 := by
  let points := tables.recentPoints companyID (matrixHours range days)
  let legs := points.filter fun row => (leg points row).isSome
  let named := legs.flatMap fun row =>
    (tables.vehicles.filter (·.deviceID = some row.1.deviceID)).map fun v => (row, v.regNumber)
  have hnamed : named = legs.map fun row => (row, row.2.regNumber) := by
    rw [List.map_eq_flatMap]
    refine List.flatMap_congr fun row hrow => ?_
    rw [carriers_eq (mem_recentPoints (List.mem_filter.mp hrow).1)]
    rfl
  calc matrixTotal (tables.reportDistanceMatrix distance dayOf companyID range days) v
      = (((groups (fun x : Tracked × String => (x.2, dayOf x.1.1.time)) named).filter fun g =>
          decide (g.1.1 = v.regNumber)).map fun g =>
          (g.2.map fun x => metersOf distance points x.1 / 1000).sum).sum := by
        rw [matrixTotal, Fleet.reportDistanceMatrix, List.filter_map, List.map_map]
        congr 2
        funext g
        simp [sum_div_map, points]
    _ = ((named.filter fun x => decide (x.2 = v.regNumber)).map fun x =>
          metersOf distance points x.1 / 1000).sum :=
        sum_groups (fun x : Tracked × String => (x.2, dayOf x.1.1.time)) named
          (fun x => metersOf distance points x.1 / 1000) fun k => decide (k.1 = v.regNumber)
    _ = ((legs.filter fun row => decide (row.2.regNumber = v.regNumber)).map fun row =>
          metersOf distance points row / 1000).sum := by
        rw [hnamed, List.filter_map, List.map_map]
        rfl
    _ = ((points.filter fun row => decide (row.2.regNumber = v.regNumber)).map fun row =>
          metersOf distance points row / 1000).sum := by
        rw [List.filter_comm]
        exact sum_counted points _
    _ = _ := sum_legsOf points fun w => decide (w.regNumber = v.regNumber)

/-! ### The windows without an offset -/

theorem reportWindowFrom_yesterday {range : String} (h : lowerCase range = "yesterday") :
    reportWindowFrom range = ⟨24, 24⟩ := by
  simp [reportWindowFrom, h]

theorem reportWindowFrom_offset {range : String} (h : lowerCase range ≠ "yesterday") :
    (reportWindowFrom range).offset = 0 ∧ 0 ≤ (reportWindowFrom range).hours := by
  unfold reportWindowFrom
  split
  · contradiction
  · simp
  · simp
  · simp

/-- The anchor is the time of a row, and no row that follows another within two hours is later. -/
theorem anchor_spec {rows : List Tracked} {deviceID a : Int} (h : anchor rows deviceID = some a) :
    (∃ r ∈ rows, r.1.deviceID = deviceID ∧ r.1.time = a) ∧
      ∀ r ∈ rows, r.1.deviceID = deviceID → (gap rows r).all (· ≤ hours 2) → r.1.time ≤ a := by
  obtain ⟨hmem, hmax⟩ := List.max?_eq_some_iff.mp h
  constructor
  · obtain ⟨r, hr, rfl⟩ := List.mem_map.mp hmem
    have hdevice := (List.mem_filter.mp hr).2
    simp only [decide_eq_true_eq] at hdevice
    exact ⟨r, (List.mem_filter.mp hr).1, hdevice.1, rfl⟩
  · intro r hr hdevice hgap
    exact hmax _ (List.mem_map.mpr ⟨r, List.mem_filter.mpr ⟨hr, by simp [hdevice, hgap]⟩, rfl⟩)

/-- After the anchor no leg counts: each row comes more than two hours after the one before. -/
theorem leg_of_after {n a : Int} (hn : 0 ≤ n) (hrow : row ∈ tables.tracked companyID)
    (hanchor : anchor (tables.tracked companyID) row.1.deviceID = some a) (hafter : a < row.1.time) :
    leg (tables.recentPoints companyID n) row = none := by
  obtain ⟨⟨r, hr, hdevice, htime⟩, hlast⟩ := anchor_spec hanchor
  cases hprev : before (tables.tracked companyID) row with
  | none => exact absurd (hlast row hrow rfl (by simp [gap, hprev])) (not_le.2 hafter)
  | some prev =>
      have hlong : ¬row.1.time - prev.1.time ≤ hours 2 := by
        intro hshort
        exact absurd (hlast row hrow rfl (by simp [gap, hprev, hshort])) (not_le.2 hafter)
      have hle : a ≤ prev.1.time := by
        have hbefore : r.1.time < row.1.time := by omega
        have hlag : lag (·.1.deviceID) (·.1.time) (tables.tracked companyID) row = some prev := hprev
        have hnewest := lag_newest hlag hr hdevice hbefore
        omega
      have hin : (anchor (tables.tracked companyID) prev.1.deviceID).any
          (fun last => last - hours n ≤ prev.1.time) = true := by
        rw [(lag_mem hprev).2.1, hanchor]
        rw [Option.any_some, decide_eq_true_eq, hours]
        omega
      have hbefore : before (tables.recentPoints companyID n) row = some prev :=
        lag_filter_of_mem hprev (by simpa using hin)
      rw [leg, hbefore]
      exact if_neg hlong

/-- Without an offset the points of the report are those of the matrix up to the anchor. -/
theorem pointsOf_eq (n : Int) : tables.pointsOf companyID ⟨n, 0⟩ =
    (tables.recentPoints companyID n).filter fun row =>
      (anchor (tables.tracked companyID) row.1.deviceID).any (row.1.time ≤ ·) := by
  unfold Fleet.pointsOf Fleet.recentPoints
  rw [List.filter_filter]
  refine List.filter_congr fun row _ => ?_
  cases anchor (tables.tracked companyID) row.1.deviceID with
  | none => rfl
  | some last => simp [hours, and_comm]

/-- Up to the anchor the two queries have the same legs. -/
theorem leg_of_upto {n a : Int}
    (hanchor : anchor (tables.tracked companyID) row.1.deviceID = some a) (hupto : row.1.time ≤ a) :
    leg (tables.pointsOf companyID ⟨n, 0⟩) row = leg (tables.recentPoints companyID n) row := by
  have hbefore : before (tables.pointsOf companyID ⟨n, 0⟩) row =
      before (tables.recentPoints companyID n) row := by
    rw [pointsOf_eq]
    refine lag_filter fun r _ hdevice htime => ?_
    rw [hdevice, hanchor]
    simp only [Option.any_some, decide_eq_true_eq]
    omega
  rw [leg, leg, hbefore]

/-- Without an offset both queries count the same. -/
theorem legsOf_recentPoints {n : Int} (hn : 0 ≤ n) (kind : VehicleRecord → Bool) :
    legsOf (tables.recentPoints companyID n) kind =
      legsOf (tables.pointsOf companyID ⟨n, 0⟩) kind := by
  conv_rhs => rw [legsOf, pointsOf_eq, List.filter_comm, List.filterMap_filter]
  refine List.filterMap_congr fun row hrow => ?_
  have hmem := (List.mem_filter.mp hrow).1
  have hwindow := (List.mem_filter.mp hmem).2
  cases hanchor : anchor (tables.tracked companyID) row.1.deviceID with
  | none => simp [hanchor] at hwindow
  | some a =>
      rw [Option.any_some]
      by_cases hupto : row.1.time ≤ a
      · rw [if_pos (by simpa using hupto), ← pointsOf_eq]
        exact (leg_of_upto hanchor hupto).symm
      · rw [if_neg (by simpa using hupto)]
        exact leg_of_after hn (mem_recentPoints hmem) hanchor (not_le.1 hupto)

/-! ### The same legs -/

theorem legsOf_eq_nil {points : List Tracked} {kind : VehicleRecord → Bool} :
    legsOf points kind = [] ↔ ∀ row ∈ points, kind row.2 = true → leg points row = none := by
  simp only [legsOf, List.filterMap_eq_nil_iff, List.mem_filter, and_imp]

/-- A vehicle has the legs of a kind that it is of exactly if the others of the kind have none. -/
theorem perm_legsOf_iff {points : List Tracked} {own kind : VehicleRecord → Bool}
    (hown : ∀ row ∈ points, own row.2 = true → kind row.2 = true) :
    (legsOf points own).Perm (legsOf points kind) ↔
      ∀ row ∈ points, kind row.2 = true → own row.2 = false → leg points row = none := by
  let others := (points.filter fun row => kind row.2).filter fun row => !own row.2
  have hfilter : (points.filter fun row => kind row.2).filter (fun row => own row.2) =
      points.filter fun row => own row.2 := by
    rw [List.filter_filter]
    refine List.filter_congr fun row hrow => ?_
    cases h : own row.2 with
    | false => rfl
    | true => simp [hown row hrow h]
  have hsplit : (legsOf points own ++ others.filterMap (leg points)).Perm (legsOf points kind) := by
    have h := (List.filter_append_perm (fun row => own row.2)
      (points.filter fun row => kind row.2)).filterMap (leg points)
    rwa [List.filterMap_append, hfilter] at h
  have hnone : others.filterMap (leg points) = [] ↔
      ∀ row ∈ points, kind row.2 = true → own row.2 = false → leg points row = none := by
    simp only [others, List.filterMap_eq_nil_iff, List.mem_filter, and_imp, Bool.not_eq_true']
  rw [← hnone]
  constructor
  · intro hperm
    have hlength := (hperm.trans hsplit.symm).length_eq
    rw [List.length_append] at hlength
    exact List.length_eq_zero_iff.mp (by omega)
  · intro hnil
    rwa [hnil, List.append_nil] at hsplit

/-- The totals agree for every distance exactly if the legs are the same. -/
theorem totals_eq_iff_perm (range days : String) (v : VehicleRecord)
    (hdrivers : ∀ w ∈ tables.ofCompany companyID, (tables.driversOf w).length = 1) :
    (∀ (distance : Place → Place → ℚ) (dayOf : Int → Int),
      reportTotal (tables.reportDistance distance companyID range) v =
        matrixTotal (tables.reportDistanceMatrix distance dayOf companyID range days) v) ↔
      (legsOf (tables.pointsOf companyID (reportWindowFrom range)) (·.id = v.id)).Perm
        (legsOf (tables.recentPoints companyID (matrixHours range days))
          (·.regNumber = v.regNumber)) := by
  rw [perm_iff_sum]
  constructor
  · intro h distance
    have := h distance id
    rw [reportTotal_eq range v hdrivers, matrixTotal_eq] at this
    exact (div_left_inj' (by norm_num)).mp this
  · intro h distance dayOf
    rw [reportTotal_eq range v hdrivers, matrixTotal_eq, h]

/-- A vehicle with at most one driver has one row in the join. -/
theorem driversOf_length {v : VehicleRecord}
    (h : (tables.drivers.filter (·.assignedVehicleID = some v.id)).length ≤ 1) :
    (tables.driversOf v).length = 1 := by
  rw [driversOf_length_eq]
  exact max_eq_left h

/-- **The report and the matrix give a vehicle the same total, whatever the distance, exactly if no
other vehicle drove under its registration number; for yesterday, only if the legs of the two
days happen to be the same.** -/
theorem totals_eq_iff (tables : ReportTables) (companyID : Int) (range : String)
    (v : VehicleRecord) (hv : v ∈ tables.ofCompany companyID)
    (hdrivers : ∀ w ∈ tables.ofCompany companyID,
      (tables.drivers.filter (·.assignedVehicleID = some w.id)).length ≤ 1) :
    (∀ (distance : Place → Place → ℚ) (dayOf : Int → Int),
      reportTotal (tables.reportDistance distance companyID range) v =
        matrixTotal (tables.reportDistanceMatrix distance dayOf companyID range "") v) ↔
      tables.SameLegs companyID range v := by
  rw [totals_eq_iff_perm range "" v fun w hw => driversOf_length (hdrivers w hw)]
  have hhours : matrixHours range "" = (reportWindowFrom range).hours := rfl
  rw [hhours, ReportTables.SameLegs]
  by_cases hyesterday : lowerCase range = "yesterday"
  · rw [if_pos hyesterday, reportWindowFrom_yesterday hyesterday]
  · obtain ⟨hoffset, hn⟩ := reportWindowFrom_offset hyesterday
    have hwin : (⟨(reportWindowFrom range).hours, 0⟩ : ReportWindow) = reportWindowFrom range := by
      rw [← hoffset]
    rw [if_neg hyesterday, legsOf_recentPoints hn, hwin, perm_legsOf_iff]
    · simp only [legsOf_eq_nil, decide_eq_true_eq, decide_eq_false_iff_not]
      constructor
      · intro h w hw hreg hne row hrow hid
        have hvehicle := eq_of_id (mem_tracked.mp (mem_pointsOf hrow)).2.1 hw hid
        exact h row hrow (hvehicle ▸ hreg) (hvehicle ▸ hne)
      · intro h row hrow hreg hne
        exact h row.2 (mem_tracked.mp (mem_pointsOf hrow)).2.1 hreg hne row hrow rfl
    · intro row hrow hid
      simp only [decide_eq_true_eq] at hid ⊢
      rw [eq_of_id (mem_tracked.mp (mem_pointsOf hrow)).2.1 hv hid]

/-- A vehicle at a place and a time in hours, with nothing measured. -/
def positionAt (time : Int) (lng : ℚ) : PositionRecord :=
  ⟨hours time, 7, 0, lng, none, none, none, none, none, none, none, none, none, none, none, none,
    none, none⟩

def reportedVehicle : VehicleRecord :=
  { (default : VehicleRecord) with id := 1, companyID := 1, deviceID := some 7, regNumber := "GJ-01" }

/-- A vehicle that drove for an hour. -/
def drivenOnce : ReportTables where
  vehicles := [reportedVehicle]
  drivers := []
  devices := []
  positions := [positionAt 0 0, positionAt 1 1]
  alerts := []
  ids_nodup := by simp
  settings := []
  deviceIDs_nodup := by simp [reportedVehicle]
  times_nodup := by simp [positionAt, hours]

theorem totals_eq_iff_drivenOnce :
    reportTotal (drivenOnce.reportDistance (fun _ _ => 1) 1 "week") reportedVehicle =
      matrixTotal (drivenOnce.reportDistanceMatrix (fun _ _ => 1) (· / 86400000) 1 "week" "")
        reportedVehicle := by
  refine (totals_eq_iff drivenOnce 1 "week" reportedVehicle ?_ ?_).2 ?_ _ _
  · simp [Fleet.ofCompany, drivenOnce, reportedVehicle]
  · simp [drivenOnce]
  · rw [ReportTables.SameLegs, if_neg (by decide +kernel)]
    intro w hw _ hne
    obtain rfl : w = reportedVehicle := by
      simpa [drivenOnce] using (List.mem_filter.mp hw).1
    exact absurd rfl hne

/-- For yesterday the report has nothing, and the matrix what was driven on the last day. -/
theorem totals_ne_yesterday : ¬∀ (distance : Place → Place → ℚ) (dayOf : Int → Int),
    reportTotal (drivenOnce.reportDistance distance 1 "yesterday") reportedVehicle =
      matrixTotal (drivenOnce.reportDistanceMatrix distance dayOf 1 "yesterday" "")
        reportedVehicle := by
  have hdrivers : ∀ w ∈ drivenOnce.ofCompany 1, (drivenOnce.driversOf w).length = 1 :=
    fun w _ => driversOf_length (by simp [drivenOnce])
  have hreport : legsOf (drivenOnce.pointsOf 1 (reportWindowFrom "yesterday"))
      (·.id = reportedVehicle.id) = [] := by
    decide +kernel
  have hmatrix : legsOf (drivenOnce.recentPoints 1 (matrixHours "yesterday" ""))
      (·.regNumber = reportedVehicle.regNumber) = [((1, 0), (0, 0))] := by
    decide +kernel
  rw [totals_eq_iff_perm _ _ _ hdrivers, hreport, hmatrix]
  simp

end RudraNetra
