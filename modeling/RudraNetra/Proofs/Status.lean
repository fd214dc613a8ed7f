/-
One status rule: the six places that classify a vehicle agree exactly on regular fleets.

The rules differ in the order of their branches, in what a `NULL` does to them, and in
what else they look at.  `determineStatus` asks for the ignition first.  The conditions of
the dashboards are unknown where speed or ignition is `NULL`, and a vehicle whose
conditions are all unknown is counted nowhere.  The summary report leaves out vehicles
whose `status` column says `offline` or nothing, which no handler ever keeps up to date.
And with two positions of the same latest time, each query takes either.

**The one rule holds of a company's fleet exactly if none of this comes up**
(`oneRule_iff_regular`).
-/
import RudraNetra.Api.Status

namespace RudraNetra

open SQL

/-! ### The rule -/

/-- What the repository reports of a vehicle: an entry of some page, or the vehicle itself. -/
def Fleet.Reports (fleet : Fleet) (tie : TieBreak PositionRecord) (now companyID : Int)
    (v : VehicleRecord) (x : VehicleWithTelemetry) : Prop :=
  (∃ limit offset, x ∈ fleet.listByCompany tie now companyID limit offset ∧ x.id = v.id) ∨
    fleet.getByID tie now v.id companyID = some x

/-- Each vehicle of the company is counted under the status that the repository reports of it,
and under no other. -/
def Fleet.CountedAsReported (fleet : Fleet) (companyID : Int) (filter : Bucket → Filter) : Prop :=
  ∀ (tie tie' : TieBreak PositionRecord) (now : Int), ∀ v ∈ fleet.ofCompany companyID,
    ∀ x, fleet.Reports tie now companyID v x →
      ∀ b, (filter b v (fleet.lastPosition tie' v)).holds = true ↔ x.status = b.name

/-- **One status rule everywhere**, for the positions and the fleet of a company. -/
structure OneRule (fleet : Fleet) (companyID : Int) : Prop where
  same_status : ∀ p ∈ fleet.positions, ∀ pos, p.scan = some pos →
    ∀ now v d, positionStatus pos = (telemetry now v d (some p)).status ∧
      determineStatus pos = (telemetry now v d (some p)).status
  dashboards : fleet.CountedAsReported companyID dashboardFilter
  report : fleet.CountedAsReported companyID summaryFilter
  summary_total : ∀ tie now,
    let s := dashboardSummaryHandler fleet tie now companyID
    s.moving + s.idle + s.stopped + s.offline = s.totalVehicles
  analytics_total : ∀ tie now,
    let a := dashboardAnalyticsHandler fleet tie now companyID
    a.runningVehicles + a.idleVehicles + a.stoppedVehicles + a.offlineVehicles =
      fleet.countByCompany companyID
  report_total : ∀ tie,
    let r := reportSummary fleet tie companyID
    r.moving + r.idle + r.stopped + r.offline = r.totalVehicles

/-- A speed above 2. -/
def PositionRecord.Fast (p : PositionRecord) : Prop := ∃ s, p.speed = some s ∧ 2 < s

/-- The speed is there, and the ignition too unless the speed is above 2. -/
def PositionRecord.Known (p : PositionRecord) : Prop :=
  p.speed ≠ none ∧ (p.Fast ∨ p.ignition ≠ none)

/-- Both speeds are above 2, or neither is and the ignitions are the same. -/
def PositionRecord.Alike (p q : PositionRecord) : Prop :=
  (p.Fast ↔ q.Fast) ∧ (p.Fast ∨ p.ignition = q.ignition)

/-- The fleets on which the rules cannot be told apart. -/
structure Regular (fleet : Fleet) (companyID : Int) : Prop where
  /-- No position has a speed above 2 with the ignition off. -/
  ignition_on : ∀ p ∈ fleet.positions, ∀ pos, p.scan = some pos → 2 < pos.speed →
    pos.ignition = true
  known : ∀ v ∈ fleet.ofCompany companyID, ∀ p ∈ fleet.latest v, p.Known
  /-- A vehicle that has reported has a `status` other than `offline`. -/
  active : ∀ v ∈ fleet.ofCompany companyID, ∀ p ∈ fleet.latest v,
    v.status ≠ none ∧ v.status ≠ some "offline"
  /-- Positions that are the latest together are of one kind. -/
  alike : ∀ v ∈ fleet.ofCompany companyID, ∀ p ∈ fleet.latest v, ∀ q ∈ fleet.latest v, p.Alike q

/-! ### What the repository reports -/

/-- The status at the position joined to a vehicle. -/
def bucketAt : Option PositionRecord → Bucket
  | none => .offline
  | some p =>
    if p.speed.any (· > 2) then .moving else if p.ignition.any (·) then .idle else .stopped

theorem name_injective : Function.Injective Bucket.name := by
  intro b c h
  cases b <;> cases c <;> simp_all [Bucket.name]

@[simp] theorem telemetry_status (now : Int) (v : VehicleRecord) (d : Option DriverRecord)
    (p : Option PositionRecord) : (telemetry now v d p).status = (bucketAt p).name := by
  rcases p with - | p
  · simp [telemetry, operationalStatus, bucketAt, Bucket.name]
  · simp only [telemetry, operationalStatus, bucketAt, Option.map_some, Option.bind_some,
      reduceCtorEq, or_self, if_false]
    split_ifs <;> rfl

theorem mem_withTelemetry {fleet : Fleet} {tie : TieBreak PositionRecord} {now : Int}
    {vehicles : List VehicleRecord} {x : VehicleWithTelemetry}
    (h : x ∈ fleet.withTelemetry tie now vehicles) :
    ∃ v ∈ vehicles, ∃ d, x = telemetry now v d (fleet.lastPosition tie v) := by
  obtain ⟨v, hv, hx⟩ := List.mem_flatMap.mp h
  obtain ⟨d, -, rfl⟩ := List.mem_map.mp hx
  exact ⟨v, hv, d, rfl⟩

/-- The id is the vehicle's key. -/
theorem Fleet.eq_of_id {fleet : Fleet} {v w : VehicleRecord} (hv : v ∈ fleet.vehicles)
    (hw : w ∈ fleet.vehicles) (h : v.id = w.id) : v = w :=
  List.inj_on_of_nodup_map fleet.ids_nodup hv hw h

/-- A reported status is that of a latest position. -/
theorem Fleet.Reports.status_eq {fleet : Fleet} {tie : TieBreak PositionRecord}
    {now companyID : Int} {v : VehicleRecord} {x : VehicleWithTelemetry}
    (h : fleet.Reports tie now companyID v x) (hv : v ∈ fleet.ofCompany companyID) :
    x.status = (bucketAt (fleet.lastPosition tie v)).name := by
  have hv' : v ∈ fleet.vehicles := (List.mem_filter.mp hv).1
  rcases h with ⟨limit, offset, hx, hid⟩ | hx
  · obtain ⟨w, hw, d, rfl⟩ := mem_withTelemetry (List.mem_of_mem_drop (List.mem_of_mem_take hx))
    have hw' : w ∈ fleet.vehicles := (List.mem_filter.mp (List.mem_mergeSort.mp hw)).1
    rw [fleet.eq_of_id hw' hv' hid, telemetry_status]
  · obtain ⟨w, hw, d, rfl⟩ := mem_withTelemetry (List.mem_of_head? hx)
    simp only [List.mem_filter, decide_eq_true_eq] at hw
    rw [fleet.eq_of_id hw.1 hv' hw.2.1, telemetry_status]

/-- The drivers assigned to a vehicle. -/
def Fleet.assigned (fleet : Fleet) (v : VehicleRecord) : List DriverRecord :=
  fleet.drivers.filter (·.assignedVehicleID = some v.id)

/-- A vehicle has a row for each driver, and one if it has none. -/
theorem driversOf_length_eq (fleet : Fleet) (v : VehicleRecord) :
    (fleet.driversOf v).length = max 1 (fleet.assigned v).length := by
  have hassigned : (fleet.drivers.filter fun d =>
      (compare (· == ·) d.assignedVehicleID (some v.id)).holds) = fleet.assigned v := by
    refine List.filter_congr fun d _ => ?_
    cases d.assignedVehicleID with
    | none => rfl
    | some id => simp [beq_eq_decide]
  unfold Fleet.driversOf
  dsimp only
  rw [hassigned]
  cases fleet.assigned v with
  | nil => rfl
  | cons driver rest => simp

/-- A company's vehicle is found, with its latest position. -/
theorem Fleet.getByID_eq (fleet : Fleet) (tie : TieBreak PositionRecord) (now : Int)
    {companyID : Int} {v : VehicleRecord} (hv : v ∈ fleet.ofCompany companyID) :
    ∃ d, fleet.getByID tie now v.id companyID =
      some (telemetry now v d (fleet.lastPosition tie v)) := by
  have hfound : v ∈ fleet.vehicles.filter fun w => w.id = v.id ∧ w.companyID = companyID := by
    simpa [Fleet.ofCompany] using hv
  have hdrivers : fleet.driversOf v ≠ [] := by
    simp only [Fleet.driversOf]
    split <;> simp_all
  obtain ⟨d, hd⟩ := List.exists_mem_of_ne_nil _ hdrivers
  have hmem : telemetry now v d (fleet.lastPosition tie v) ∈ fleet.withTelemetry tie now
      (fleet.vehicles.filter fun w => w.id = v.id ∧ w.companyID = companyID) :=
    List.mem_flatMap.mpr ⟨v, hfound, List.mem_map_of_mem hd⟩
  obtain ⟨x, hx⟩ := Option.isSome_iff_exists.mp (List.isSome_head?.mpr (List.ne_nil_of_mem hmem))
  obtain ⟨w, hw, e, rfl⟩ := mem_withTelemetry (List.mem_of_head? hx)
  simp only [List.mem_filter, decide_eq_true_eq] at hw
  obtain rfl : w = v := fleet.eq_of_id hw.1 (List.mem_filter.mp hv).1 hw.2.1
  exact ⟨e, hx⟩

theorem Fleet.exists_reports (fleet : Fleet) (tie : TieBreak PositionRecord) {companyID : Int}
    {v : VehicleRecord} (hv : v ∈ fleet.ofCompany companyID) :
    ∃ x, fleet.Reports tie 0 companyID v x := by
  obtain ⟨d, hfound⟩ := fleet.getByID_eq tie 0 hv
  exact ⟨_, .inr hfound⟩

/-! ### The conditions at one position -/

/-- With speed and ignition known, the dashboards' conditions single the status out. -/
theorem dashboardFilter_holds (b : Bucket) (v : VehicleRecord) (p : Option PositionRecord)
    (h : ∀ q ∈ p, q.Known) : (dashboardFilter b v p).holds = true ↔ bucketAt p = b := by
  rcases p with - | p
  · cases b <;> simp [dashboardFilter, bucketAt, hasTime]
  · obtain ⟨hspeed, hign⟩ := h p rfl
    obtain ⟨s, hs⟩ := Option.ne_none_iff_exists'.mp hspeed
    by_cases hfast : 2 < s
    · cases b <;>
        simp [dashboardFilter, bucketAt, hasTime, speedAbove, speedUpTo, hs, hfast, not_le.mpr]
    · obtain ⟨i, hi⟩ := Option.ne_none_iff_exists'.mp
        (hign.resolve_left fun ⟨t, ht, hlt⟩ => hfast (by grind))
      cases i <;> cases b <;>
        simp [dashboardFilter, bucketAt, hasTime, speedAbove, speedUpTo, ignitionOn, hs, hi, hfast,
          not_lt.mp hfast]

/-- For a vehicle whose `status` is not `offline`, the report's conditions are the dashboards'. -/
theorem summaryFilter_holds (b : Bucket) (v : VehicleRecord) (p : Option PositionRecord)
    (h : ∀ q ∈ p, v.status ≠ none ∧ v.status ≠ some "offline") :
    (summaryFilter b v p).holds = (dashboardFilter b v p).holds := by
  rcases p with - | p
  · cases b <;> simp [summaryFilter, dashboardFilter, hasTime, speedAbove, speedUpTo]
  · obtain ⟨hnull, hoffline⟩ := h p rfl
    obtain ⟨s, hs⟩ := Option.ne_none_iff_exists'.mp hnull
    have hne : (s != "offline") = true := by simpa [hs] using hoffline
    cases b <;> simp [summaryFilter, dashboardFilter, hasTime, notOffline, hs, hne]

/-- A vehicle that is counted under its status has a known position. -/
theorem known_of_dashboardFilter {v : VehicleRecord} {p : PositionRecord}
    (h : (dashboardFilter (bucketAt (some p)) v (some p)).holds = true) : p.Known := by
  cases hs : p.speed with
  | none => cases hi : p.ignition.any (·) <;>
      simp [dashboardFilter, bucketAt, hasTime, speedUpTo, hs, hi] at h
  | some s =>
    refine ⟨by simp [hs], ?_⟩
    by_cases hfast : 2 < s
    · exact .inl ⟨s, hs, hfast⟩
    · refine .inr fun hi => ?_
      simp [dashboardFilter, bucketAt, hasTime, ignitionOn, hs, hi, hfast] at h

/-- Nor is a vehicle counted by the report unless it is active. -/
theorem active_of_summaryFilter {v : VehicleRecord} {p : PositionRecord}
    (h : (summaryFilter (bucketAt (some p)) v (some p)).holds = true) :
    v.status ≠ none ∧ v.status ≠ some "offline" := by
  have hactive : (notOffline v).holds = true := by
    rcases hb : bucketAt (some p) with - | - | - | - <;> simp_all [summaryFilter]
  refine ⟨fun hs => ?_, fun hs => ?_⟩ <;> simp [notOffline, hs] at hactive

theorem bucketAt_fast {p : PositionRecord} (h : p.Fast) : bucketAt (some p) = .moving := by
  obtain ⟨s, hs, hlt⟩ := h
  simp [bucketAt, hs, hlt]

theorem bucketAt_slow {p : PositionRecord} (h : ¬p.Fast) :
    bucketAt (some p) = if p.ignition = some true then .idle else .stopped := by
  have hany : p.speed.any (· > 2) = false := by
    rw [← Bool.not_eq_true, Option.any_eq_true]
    rintro ⟨s, hs, hlt⟩
    exact h ⟨s, hs, by simpa using hlt⟩
  rcases hi : p.ignition with - | (- | -) <;> simp [bucketAt, hany, hi]

/-- Known positions of one status are alike, and the other way round. -/
theorem alike_iff_bucketAt {p q : PositionRecord} (hp : p.Known) (hq : q.Known) :
    p.Alike q ↔ bucketAt (some p) = bucketAt (some q) := by
  by_cases hfp : p.Fast <;> by_cases hfq : q.Fast
  · simp [PositionRecord.Alike, hfp, hfq, bucketAt_fast]
  · rw [bucketAt_fast hfp, bucketAt_slow hfq]
    simp only [PositionRecord.Alike, hfp, hfq]
    split_ifs <;> simp
  · rw [bucketAt_slow hfp, bucketAt_fast hfq]
    simp only [PositionRecord.Alike, hfp, hfq]
    split_ifs <;> simp
  · obtain ⟨i, hi⟩ := Option.ne_none_iff_exists'.mp (hp.2.resolve_left hfp)
    obtain ⟨j, hj⟩ := Option.ne_none_iff_exists'.mp (hq.2.resolve_left hfq)
    rw [bucketAt_slow hfp, bucketAt_slow hfq]
    cases i <;> cases j <;> simp [PositionRecord.Alike, hfp, hfq, hi, hj]

/-! ### The rule and the regular fleets -/

theorem Fleet.lastPosition_mem {fleet : Fleet} {tie : TieBreak PositionRecord} {v : VehicleRecord}
    {p : PositionRecord} (h : fleet.lastPosition tie v = some p) : p ∈ fleet.latest v :=
  TieBreak.newest_mem h

theorem Fleet.lastPosition_prefer {fleet : Fleet} {v : VehicleRecord} {p : PositionRecord}
    (h : p ∈ fleet.latest v) : fleet.lastPosition (.prefer p) v = some p :=
  TieBreak.prefer_newest h

theorem Fleet.lastPosition_eq_none {fleet : Fleet} {tie : TieBreak PositionRecord}
    {v : VehicleRecord} : fleet.lastPosition tie v = none ↔ fleet.latest v = [] :=
  TieBreak.newest_eq_none

/-- Whichever of the latest positions two queries take, the status is the same. -/
theorem Regular.bucketAt_congr {fleet : Fleet} {companyID : Int} (h : Regular fleet companyID)
    {v : VehicleRecord} (hv : v ∈ fleet.ofCompany companyID)
    (tie tie' : TieBreak PositionRecord) :
    bucketAt (fleet.lastPosition tie v) = bucketAt (fleet.lastPosition tie' v) := by
  cases hp : fleet.lastPosition tie v with
  | none => rw [Fleet.lastPosition_eq_none.mpr (Fleet.lastPosition_eq_none.mp hp)]
  | some p =>
    have hmem := Fleet.lastPosition_mem hp
    have hne : fleet.lastPosition tie' v ≠ none := fun hnone =>
      List.ne_nil_of_mem hmem (Fleet.lastPosition_eq_none.mp hnone)
    obtain ⟨q, hq⟩ := Option.ne_none_iff_exists'.mp hne
    have hmem' := Fleet.lastPosition_mem hq
    rw [hq]
    exact (alike_iff_bucketAt (h.known v hv p hmem) (h.known v hv q hmem')).mp
      (h.alike v hv p hmem q hmem')

/-- On regular fleets the conditions single out the status that the repository reports. -/
theorem Regular.dashboards {fleet : Fleet} {companyID : Int} (h : Regular fleet companyID) :
    fleet.CountedAsReported companyID dashboardFilter := by
  intro tie tie' now v hv x hx b
  have hknown : ∀ q ∈ fleet.lastPosition tie' v, q.Known := fun q hq =>
    h.known v hv q (Fleet.lastPosition_mem hq)
  rw [dashboardFilter_holds b v _ hknown, hx.status_eq hv, name_injective.eq_iff,
    h.bucketAt_congr hv tie tie']

theorem Regular.report {fleet : Fleet} {companyID : Int} (h : Regular fleet companyID) :
    fleet.CountedAsReported companyID summaryFilter := by
  intro tie tie' now v hv x hx b
  have hactive : ∀ q ∈ fleet.lastPosition tie' v, v.status ≠ none ∧ v.status ≠ some "offline" :=
    fun q hq => h.active v hv q (Fleet.lastPosition_mem hq)
  rw [summaryFilter_holds b v _ hactive]
  exact h.dashboards tie tie' now v hv x hx b

/-- Vehicles that are each counted under one status add up. -/
theorem Fleet.CountedAsReported.total {fleet : Fleet} {companyID : Int} {filter : Bucket → Filter}
    (h : fleet.CountedAsReported companyID filter) (tie : TieBreak PositionRecord) :
    fleet.count tie companyID (filter .moving) + fleet.count tie companyID (filter .idle) +
        fleet.count tie companyID (filter .stopped) + fleet.count tie companyID (filter .offline) =
      fleet.countByCompany companyID := by
  have hone : ∀ v ∈ fleet.ofCompany companyID,
      ∃! b, (filter b v (fleet.lastPosition tie v)).holds = true := by
    intro v hv
    obtain ⟨x, hx⟩ := fleet.exists_reports tie hv
    have hcounted := h tie tie 0 v hv x hx
    simp only [hx.status_eq hv, name_injective.eq_iff] at hcounted
    exact ⟨_, (hcounted _).mpr rfl, fun b hb => ((hcounted b).mp hb).symm⟩
  have hsum := sum_countP (fun b v => (filter b v (fleet.lastPosition tie v)).holds)
    (fleet.ofCompany companyID) hone
  rw [show (Finset.univ : Finset Bucket) = {.moving, .idle, .stopped, .offline} from rfl] at hsum
  simpa [Fleet.count, Fleet.countByCompany, add_assoc] using hsum

/-- In a fleet with one rule, whatever one query takes as the latest position, the other counts
the vehicle under its status. -/
theorem Fleet.CountedAsReported.holds {fleet : Fleet} {companyID : Int} {filter : Bucket → Filter}
    (h : fleet.CountedAsReported companyID filter) {v : VehicleRecord}
    (hv : v ∈ fleet.ofCompany companyID) {p q : PositionRecord} (hp : p ∈ fleet.latest v)
    (hq : q ∈ fleet.latest v) (b : Bucket) :
    (filter b v (some q)).holds = true ↔ bucketAt (some p) = b := by
  obtain ⟨x, hx⟩ := fleet.exists_reports (.prefer p) hv
  have hcounted := h (.prefer p) (.prefer q) 0 v hv x hx b
  rwa [hx.status_eq hv, Fleet.lastPosition_prefer hp, Fleet.lastPosition_prefer hq,
    name_injective.eq_iff] at hcounted

/-- A position that scans has its speed and its ignition. -/
theorem PositionRecord.scan_eq {p : PositionRecord} {pos : Position} (h : p.scan = some pos) :
    p.speed = some pos.speed ∧ p.ignition = some pos.ignition := by
  simp only [PositionRecord.scan, Option.bind_eq_bind, Option.pure_def,
    Option.bind_eq_some_iff, Option.some.injEq] at h
  obtain ⟨s, hs, _, -, _, -, _, -, i, hi, _, -, _, -, _, -, _, -, rfl⟩ := h
  exact ⟨hs, hi⟩

/-- In memory the two rules differ on a vehicle that is moving with its ignition off. -/
theorem same_status_iff {p : PositionRecord} {pos : Position} (h : p.scan = some pos) :
    (positionStatus pos = (bucketAt (some p)).name ∧
        determineStatus pos = (bucketAt (some p)).name) ↔
      (2 < pos.speed → pos.ignition = true) := by
  obtain ⟨hs, hi⟩ := PositionRecord.scan_eq h
  by_cases hfast : 2 < pos.speed <;> cases hon : pos.ignition <;>
    simp [positionStatus, determineStatus, bucketAt, Bucket.name, hs, hi, hfast, hon]

/-- **The six rules are one on a fleet exactly if it is regular.** -/
theorem oneRule_iff_regular (fleet : Fleet) (companyID : Int) :
    OneRule fleet companyID ↔ Regular fleet companyID := by
  constructor
  · intro h
    have hknown : ∀ v ∈ fleet.ofCompany companyID, ∀ p ∈ fleet.latest v, p.Known :=
      fun v hv p hp => known_of_dashboardFilter ((h.dashboards.holds hv hp hp _).mpr rfl)
    refine ⟨?_, hknown, ?_, ?_⟩
    · intro p hp pos hscan
      have hsame := h.same_status p hp pos hscan 0 default none
      rw [telemetry_status] at hsame
      exact (same_status_iff hscan).mp hsame
    · exact fun v hv p hp => active_of_summaryFilter ((h.report.holds hv hp hp _).mpr rfl)
    · intro v hv p hp q hq
      rw [alike_iff_bucketAt (hknown v hv p hp) (hknown v hv q hq)]
      exact ((h.dashboards.holds hv hp hq _).mp
        ((dashboardFilter_holds _ v (some q) (by simpa using hknown v hv q hq)).mpr rfl))
  · intro h
    refine ⟨?_, h.dashboards, h.report, fun tie _ => h.dashboards.total tie, fun tie _ => ?_,
      fun tie => h.report.total tie⟩
    · intro p hp pos hscan now v d
      rw [telemetry_status]
      exact (same_status_iff hscan).mpr (h.ignition_on p hp pos hscan)
    · have htotal := h.dashboards.total tie
      simpa [dashboardAnalyticsHandler] using htotal

/-- A truck that was towed with its ignition off, as its device reported it. -/
def towed : PositionRecord where
  time := 1700000000000
  deviceID := 7
  lat := 19
  lng := 73
  speed := some 60
  heading := some 0
  altitude := some 0
  satellites := some 9
  ignition := some false
  gsmSignal := some 4
  voltage := some 12
  temperature := some 0
  odometer := some 0
  rfidTag := none
  rawData := none
  fuelLevelPct := none
  backupBatteryV := none
  doorOpen := none

/-- Two trucks of company 1; of the second one's device a position without a speed is stored. -/
def twoTrucks : Fleet where
  vehicles := [
    { (default : VehicleRecord) with
      id := 1, companyID := 1, deviceID := some 7, status := some "active" },
    { (default : VehicleRecord) with
      id := 2, companyID := 1, deviceID := some 8, status := some "active" }]
  drivers := []
  devices := []
  positions := [towed, { towed with deviceID := 8, speed := none }]
  alerts := []
  ids_nodup := by decide

/-- The towed truck is moving for the ingestion and stopped for the live stream, and of the two
trucks the dashboard counts one. -/
theorem twoTrucks_statuses :
    ¬OneRule twoTrucks 1 ∧ towed.scan.map positionStatus = some "moving" ∧
      towed.scan.map determineStatus = some "stopped" ∧
      (dashboardSummaryHandler twoTrucks .stored 1700000000000 1).totalVehicles = 2 ∧
      (dashboardSummaryHandler twoTrucks .stored 1700000000000 1).moving = 1 ∧
      (dashboardSummaryHandler twoTrucks .stored 1700000000000 1).idle = 0 ∧
      (dashboardSummaryHandler twoTrucks .stored 1700000000000 1).stopped = 0 ∧
      (dashboardSummaryHandler twoTrucks .stored 1700000000000 1).offline = 0 := by
  have hsummary : (dashboardSummaryHandler twoTrucks .stored 1700000000000 1).totalVehicles = 2 ∧
      (dashboardSummaryHandler twoTrucks .stored 1700000000000 1).moving = 1 ∧
      (dashboardSummaryHandler twoTrucks .stored 1700000000000 1).idle = 0 ∧
      (dashboardSummaryHandler twoTrucks .stored 1700000000000 1).stopped = 0 ∧
      (dashboardSummaryHandler twoTrucks .stored 1700000000000 1).offline = 0 := by
    decide +kernel
  refine ⟨fun h => ?_, by decide +kernel, by decide +kernel, hsummary⟩
  have htotal := h.summary_total .stored 1700000000000
  simp [hsummary] at htotal

end RudraNetra
