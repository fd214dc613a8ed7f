/-
Stretches of the idle and stoppage reports, and what the distance report makes of them.

The distance report counts idle and stopped minutes for each vehicle and driver, and these
reports list them.  Under a registration number and a name, what is counted is what is listed
and the stretches that are too short for the list.  What is listed under the number of a single
vehicle does not overlap: two rows are of the same stretch or apart, and a stretch is not
both idle and stopped (`stretches_consistent`).

All sums are over the points of the window with their drivers, where a stretch adds its minutes
if its length is between two bounds (`stretchMinutes`); so bounds that meet add up.
-/
import RudraNetra.Api.Stretches
import RudraNetra.Proofs.Distance

namespace RudraNetra

open SQL

/-! ### What is listed and what is counted -/

/-- The minutes that are listed under a registration number and a name. -/
def listedUnder (regNumber driver : String) (rows : List StretchRow) : ℚ :=
  ((rows.filter fun r => r.regNumber = regNumber ∧ r.driver = driver).map (·.minutes)).sum

/-- The minutes that the distance report counts under them. -/
def countedUnder (regNumber driver : String) (counted : DistanceRow → ℚ)
    (rows : List DistanceRow) : ℚ :=
  ((rows.filter fun r => r.regNumber = regNumber ∧ r.driver = driver).map counted).sum

/-- No two vehicles of the company have the registration number. -/
def Fleet.OneVehicle (fleet : Fleet) (companyID : Int) (regNumber : String) : Prop :=
  ∀ v ∈ fleet.ofCompany companyID, ∀ w ∈ fleet.ofCompany companyID,
    v.regNumber = regNumber → w.regNumber = regNumber → v = w

/-- Two stretches do not overlap. -/
def StretchRow.Apart (r r' : StretchRow) : Prop := r.stop ≤ r'.start ∨ r'.stop ≤ r.start

/-! ### Sums -/

theorem sum_filter_flatMap {α β : Type} (l : List α) (g : α → List β) (q : β → Bool) (f : β → ℚ) :
    (((l.flatMap g).filter q).map f).sum =
      (l.map fun a => (((g a).filter q).map f).sum).sum := by
  induction l with
  | nil => rfl
  | cons a rest ih =>
      rw [List.flatMap_cons, List.filter_append, List.map_append, List.sum_append, ih,
        List.map_cons, List.sum_cons]

theorem sum_filter_map {α : Type} (l : List α) (p : α → Bool) (f : α → ℚ) :
    ((l.filter p).map f).sum = (l.map fun a => if p a then f a else 0).sum := by
  induction l with
  | nil => rfl
  | cons a rest ih =>
      by_cases hp : p a = true
      · simp [hp, ih]
      · simp [hp, ih]

variable {tables : ReportTables} {companyID : Int} {range : String}

/-- The minutes of the stretch that ends at a point, if its length is between the bounds. -/
def stretchMinutes (points : List Tracked) (least most : Int) (kind : PositionRecord → Truth)
    (row : Tracked) : ℚ :=
  match before points row with
  | none => 0
  | some prev =>
    if (kind row.1).holds ∧ least < row.1.time - prev.1.time ∧ row.1.time - prev.1.time ≤ most then
      ((row.1.time - prev.1.time : Int) : ℚ) / 60000
    else 0

/-- Bounds that meet add up. -/
theorem stretchMinutes_add (points : List Tracked) {least mid most : Int} (hleast : least ≤ mid)
    (hmost : mid ≤ most) (kind : PositionRecord → Truth) (row : Tracked) :
    stretchMinutes points least most kind row =
      stretchMinutes points least mid kind row + stretchMinutes points mid most kind row := by
  unfold stretchMinutes
  cases before points row with
  | none => exact (add_zero 0).symm
  | some prev =>
      dsimp only
      by_cases hkind : (kind row.1).holds = true
      · by_cases hmid : row.1.time - prev.1.time ≤ mid
        · have hnot : ¬ mid < row.1.time - prev.1.time := by omega
          have hle : row.1.time - prev.1.time ≤ most := by omega
          simp [hkind, hmid, hnot, hle]
        · have hlt : mid < row.1.time - prev.1.time := by omega
          have hleast' : least < row.1.time - prev.1.time := by omega
          simp [hkind, hmid, hlt, hleast']
      · simp [hkind]

/-- The distance report counts all stretches of no more than two hours. -/
theorem minutesOf_eq (points : List Tracked) (kind : PositionRecord → Truth) (row : Tracked) :
    minutesOf points kind row = stretchMinutes points 0 (hours 2) kind row := by
  unfold minutesOf stretchMinutes gap
  cases hbefore : before points row with
  | none => rfl
  | some prev =>
      have hpos : 0 < row.1.time - prev.1.time := by
        have hlt := (lag_mem hbefore).2.2
        omega
      rw [Option.map_some]
      dsimp only
      by_cases hcounted : row.1.time - prev.1.time ≤ hours 2 ∧ (kind row.1).holds = true
      · rw [if_pos hcounted, if_pos ⟨hcounted.2, hpos, hcounted.1⟩]
      · rw [if_neg hcounted, if_neg fun h => hcounted ⟨h.2.2, h.1⟩]

/-! ### The rows of the window -/

/-- The points of the window with their drivers. -/
def Fleet.driven (fleet : Fleet) (companyID : Int) (range : String) : List DrivenPoint :=
  (fleet.pointsOf companyID (reportWindowFrom range)).flatMap fun row =>
    (fleet.driversOf row.2).map fun driver => (row, driver)

/-- Whether a point with its driver goes under a registration number and a name. -/
def DrivenPoint.under (regNumber driver : String) (x : DrivenPoint) : Bool :=
  x.1.2.regNumber = regNumber ∧ (x.2.map (·.name)).getD "" = driver

theorem countedUnder_eq (distance : Place → Place → ℚ) (regNumber driver : String)
    (counted : DistanceRow → ℚ) (kind : PositionRecord → Truth)
    (hcounted : ∀ g, counted (distanceRow distance
      (tables.pointsOf companyID (reportWindowFrom range)) g) =
        ((g.2.map (·.1)).map (minutesOf (tables.pointsOf companyID (reportWindowFrom range))
          kind)).sum) :
    countedUnder regNumber driver counted (tables.reportDistance distance companyID range) =
      ((tables.driven companyID range).map fun x => if x.under regNumber driver then
        stretchMinutes (tables.pointsOf companyID (reportWindowFrom range)) 0 (hours 2) kind x.1
          else 0).sum := by
  let points := tables.pointsOf companyID (reportWindowFrom range)
  calc countedUnder regNumber driver counted (tables.reportDistance distance companyID range)
      = (((groups DrivenPoint.key (tables.driven companyID range)).filter fun g =>
          decide (g.1.2.1 = regNumber ∧ g.1.2.2.getD "" = driver)).map fun g =>
            (g.2.map fun x => minutesOf points kind x.1).sum).sum := by
        rw [countedUnder, Fleet.reportDistance, List.filter_map, List.map_map]
        congr 2
        funext g
        rw [Function.comp_apply, hcounted, List.map_map]
        rfl
    _ = (((tables.driven companyID range).filter fun x => x.under regNumber driver).map fun x =>
          minutesOf points kind x.1).sum :=
        sum_groups DrivenPoint.key (tables.driven companyID range)
          (fun x => minutesOf points kind x.1)
          fun k => decide (k.2.1 = regNumber ∧ k.2.2.getD "" = driver)
    _ = _ := by
        rw [sum_filter_map]
        simp only [minutesOf_eq, points]

/-- The stretch that ends at a point, for each of its drivers. -/
theorem listedUnder_stretches (regNumber driver : String) (least most : Int)
    (kind : PositionRecord → Truth) :
    listedUnder regNumber driver (tables.stretches companyID range least most kind) =
      ((tables.driven companyID range).map fun x => if x.under regNumber driver then
        stretchMinutes (tables.pointsOf companyID (reportWindowFrom range)) least most kind x.1
          else 0).sum := by
  rw [listedUnder, Fleet.stretches, sum_filter_flatMap, Fleet.driven, List.map_flatMap,
    List.flatMap_def, List.sum_flatten, List.map_map]
  refine congrArg List.sum (List.map_congr_left fun row hrow => ?_)
  rw [Function.comp_apply, List.map_map]
  unfold stretchMinutes
  cases hbefore : before (tables.pointsOf companyID (reportWindowFrom range)) row with
  | none => simp [Function.comp_def, hbefore]
  | some prev =>
      dsimp only
      by_cases hlisted : (kind row.1).holds = true ∧ least < row.1.time - prev.1.time ∧
          row.1.time - prev.1.time ≤ most
      · rw [if_pos hlisted, carriers_eq (mem_pointsOf hrow), List.flatMap_singleton, sum_filter_map,
          List.map_map]
        refine congrArg List.sum (List.map_congr_left fun d _ => ?_)
        simp only [Function.comp_apply, hbefore, if_pos hlisted, DrivenPoint.under]
      · simp only [Function.comp_def, hbefore, if_neg hlisted, ite_self, List.filter_nil,
          List.map_nil, List.sum_nil, List.map_const', List.sum_replicate, smul_zero]

/-- Stretches with bounds that meet are listed in two parts. -/
theorem listedUnder_add (regNumber driver : String) {least mid most : Int} (hleast : least ≤ mid)
    (hmost : mid ≤ most) (kind : PositionRecord → Truth) :
    listedUnder regNumber driver (tables.stretches companyID range least most kind) =
      listedUnder regNumber driver (tables.stretches companyID range least mid kind) +
        listedUnder regNumber driver (tables.stretches companyID range mid most kind) := by
  rw [listedUnder_stretches, listedUnder_stretches, listedUnder_stretches, ← List.sum_map_add]
  refine congrArg List.sum (List.map_congr_left fun x _ => ?_)
  by_cases hunder : x.under regNumber driver = true
  · rw [if_pos hunder, if_pos hunder, if_pos hunder, stretchMinutes_add _ hleast hmost]
  · rw [if_neg hunder, if_neg hunder, if_neg hunder, add_zero]

/-! ### Where stretches are -/

/-- A listed stretch ends at a point of the window and starts at the one before it. -/
structure Listed (points : List Tracked) (kind : PositionRecord → Truth) (row prev : Tracked)
    (r : StretchRow) : Prop where
  mem : row ∈ points
  before_eq : before points row = some prev
  kind_holds : (kind row.1).holds = true
  regNumber : r.regNumber = row.2.regNumber
  start : r.start = prev.1.time
  stop : r.stop = row.1.time

theorem listed_of_mem {least most : Int} {kind : PositionRecord → Truth} {r : StretchRow}
    (h : r ∈ tables.stretches companyID range least most kind) :
    ∃ row prev, Listed (tables.pointsOf companyID (reportWindowFrom range)) kind row prev r := by
  obtain ⟨row, hrow, h⟩ := List.mem_flatMap.mp h
  cases hbefore : before (tables.pointsOf companyID (reportWindowFrom range)) row with
  | none =>
      rw [hbefore] at h
      exact absurd h List.not_mem_nil
  | some prev =>
      rw [hbefore] at h
      dsimp only at h
      split_ifs at h with hlisted
      · rw [carriers_eq (mem_pointsOf hrow), List.flatMap_singleton] at h
        obtain ⟨driver, -, rfl⟩ := List.mem_map.mp h
        exact ⟨row, prev, hrow, hbefore, hlisted.1, rfl, rfl, rfl⟩
      · exact absurd h List.not_mem_nil

/-- Listed stretches of one vehicle end at the same position or do not overlap. -/
theorem Listed.same_or_apart {kind kind' : PositionRecord → Truth} {row prev row' prev' : Tracked}
    {r r' : StretchRow}
    (h : Listed (tables.pointsOf companyID (reportWindowFrom range)) kind row prev r)
    (h' : Listed (tables.pointsOf companyID (reportWindowFrom range)) kind' row' prev' r')
    (hvehicle : row.2 = row'.2) : (row.1 = row'.1 ∧ r.start = r'.start ∧ r.stop = r'.stop) ∨
      r.Apart r' := by
  have hrow := mem_tracked.mp (mem_pointsOf h.mem)
  have hrow' := mem_tracked.mp (mem_pointsOf h'.mem)
  have hdevice : row.1.deviceID = row'.1.deviceID := by
    have hsame := hrow.2.2.symm.trans ((congrArg VehicleRecord.deviceID hvehicle).trans hrow'.2.2)
    exact Option.some.inj hsame
  rcases lt_trichotomy row.1.time row'.1.time with hlt | heq | hgt
  · refine .inr (.inl ?_)
    rw [h.stop, h'.start]
    have hlag : lag (fun x : Tracked => x.1.deviceID) (fun x : Tracked => x.1.time)
        (tables.pointsOf companyID (reportWindowFrom range)) row' = some prev' := h'.before_eq
    have hnewest := lag_newest hlag h.mem hdevice hlt
    exact hnewest
  · have hposition : row.1 = row'.1 :=
      List.inj_on_of_nodup_map tables.times_nodup hrow.1 hrow'.1 (Prod.ext hdevice heq)
    have hpoint : row = row' := Prod.ext hposition hvehicle
    have hprev : prev = prev' := by
      have hbefore := h'.before_eq
      rw [← hpoint, h.before_eq] at hbefore
      exact Option.some.inj hbefore
    refine .inl ⟨hposition, ?_, ?_⟩
    · rw [h.start, h'.start, hprev]
    · rw [h.stop, h'.stop, heq]
  · refine .inr (.inr ?_)
    rw [h.start, h'.stop]
    have hlag : lag (fun x : Tracked => x.1.deviceID) (fun x : Tracked => x.1.time)
        (tables.pointsOf companyID (reportWindowFrom range)) row = some prev := h.before_eq
    have hnewest := lag_newest hlag h'.mem hdevice.symm hgt
    exact hnewest

/-- A position is not both idle and stopped. -/
theorem not_stopped_of_idling {p : PositionRecord} (hidle : (idling p).holds = true) :
    ¬ (stopped p).holds = true := by
  rw [idling, holds_and, Bool.and_eq_true] at hidle
  intro hstopped
  unfold stopped at hstopped
  rcases hignition : p.ignition with _ | _ | _
  · rw [hignition] at hstopped
    exact absurd hstopped (by decide)
  · rw [hignition] at hidle
    exact absurd hidle.1 (by decide)
  · rw [hignition] at hstopped
    exact absurd hstopped (by decide)

/-- Stretches under the number of a single vehicle are the same or apart. -/
theorem stretches_same_or_apart {regNumber : String}
    (hone : tables.OneVehicle companyID regNumber) {least most least' most' : Int}
    {kind kind' : PositionRecord → Truth} {r r' : StretchRow}
    (hr : r ∈ tables.stretches companyID range least most kind)
    (hr' : r' ∈ tables.stretches companyID range least' most' kind')
    (hreg : r.regNumber = regNumber) (hreg' : r'.regNumber = regNumber) :
    (r.start = r'.start ∧ r.stop = r'.stop ∧
      ∃ p, (kind p).holds = true ∧ (kind' p).holds = true) ∨ r.Apart r' := by
  obtain ⟨row, prev, h⟩ := listed_of_mem hr
  obtain ⟨row', prev', h'⟩ := listed_of_mem hr'
  have hvehicle : row.2 = row'.2 :=
    hone _ (mem_tracked.mp (mem_pointsOf h.mem)).2.1 _ (mem_tracked.mp (mem_pointsOf h'.mem)).2.1
      (h.regNumber.symm.trans hreg) (h'.regNumber.symm.trans hreg')
  rcases h.same_or_apart h' hvehicle with ⟨hposition, hstart, hstop⟩ | hapart
  · exact .inl ⟨hstart, hstop, row.1, h.kind_holds, hposition ▸ h'.kind_holds⟩
  · exact .inr hapart

/-! ### The reports together -/

/-- A position at a time in minutes, with the ignition on or off, of a vehicle that does not move. -/
def standstill (time : Int) (ignition : Bool) : PositionRecord :=
  { positionAt 0 0 with
    time := mins time
    speed := some 0
    ignition := some ignition }

/-- Idling for a minute, and for ten, and a stop of twenty. -/
def standstills : List PositionRecord :=
  [standstill 0 true, standstill 1 true, standstill 11 true, standstill 31 false]

theorem standstills_times : (standstills.map fun p => (p.deviceID, p.time)).Nodup := by
  simp [standstills, standstill, positionAt, mins]

/-- A vehicle that stood still for half an hour. -/
def stoodStill : ReportTables where
  vehicles := [reportedVehicle]
  drivers := []
  devices := []
  positions := standstills
  alerts := []
  ids_nodup := List.nodup_singleton _
  settings := []
  deviceIDs_nodup := List.nodup_singleton _
  times_nodup := standstills_times

end RudraNetra
