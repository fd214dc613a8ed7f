/-
The status of a vehicle, as each part of the backend works it out.

`determineStatus` of `internal/service/tracking_service.go` takes a position in memory, as
`positionStatus` of the ingestion does.  `ListByCompany` and `GetByID` of
`internal/repository/postgres/vehicle_repo.go` read a vehicle with its latest position.
`dashboardSummaryHandler`, `dashboardAnalyticsHandler` and `reportSummary` of
`internal/handler/handlers_admin.go` have the database count the vehicles of each status.

A handler that does not get an answer from the database leaves its counts at zero; here
every query is answered, all of one state of the tables.
-/
import RudraNetra.Ingest.Handler
import RudraNetra.Lib.SQL

namespace RudraNetra

open SQL

/-- The status of a position for the live stream of the backend. -/
def determineStatus (pos : Position) : String :=
  if !pos.ignition then "stopped" else if pos.speed > 2 then "moving" else "idle"

/-! ### The tables -/

/-- A row of `positions`.  Only time, device and location may not be `NULL`. -/
structure PositionRecord where
  time : Int
  deviceID : Int
  lat : ℚ
  lng : ℚ
  speed : Option ℚ
  heading : Option ℚ
  altitude : Option ℚ
  satellites : Option Int
  ignition : Option Bool
  gsmSignal : Option Int
  voltage : Option ℚ
  temperature : Option ℚ
  odometer : Option Int
  rfidTag : Option String
  rawData : Option RawMap
  fuelLevelPct : Option ℚ
  backupBatteryV : Option ℚ
  doorOpen : Option Bool
  deriving DecidableEq

/-- A stored position in memory, as `GetLatestByDevice` of the position repository scans it:
a `NULL` does not scan into a field that is no pointer. -/
def PositionRecord.scan (p : PositionRecord) : Option Position := do
  let speed ← p.speed
  let heading ← p.heading
  let altitude ← p.altitude
  let satellites ← p.satellites
  let ignition ← p.ignition
  let gsmSignal ← p.gsmSignal
  let voltage ← p.voltage
  let temperature ← p.temperature
  let odometer ← p.odometer
  return {
    time := p.time, deviceID := p.deviceID, latitude := p.lat, longitude := p.lng
    speed, heading, altitude, satellites, ignition, gsmSignal, voltage, temperature, odometer
    rfidTag := p.rfidTag.getD ""
    rawData := p.rawData
    fuelLevelPct := p.fuelLevelPct, backupBatteryV := p.backupBatteryV, doorOpen := p.doorOpen }

/-- A row of `vehicles`. -/
structure VehicleRecord where
  id : Int
  companyID : Int
  deviceID : Option Int
  regNumber : String
  make : Option String
  model : Option String
  variant : Option String
  bodyType : Option String
  fuelType : Option String
  fuelCapacity : Option ℚ
  maxSpeed : Option Int
  odometer : Option Int
  iconType : Option String
  status : Option String
  deriving Inhabited

/-- A row of `drivers`. -/
structure DriverRecord where
  name : String
  phone : Option String
  assignedVehicleID : Option Int

/-- A row of `alerts`. -/
structure AlertRecord where
  companyID : Int
  acknowledged : Option Bool

/-- The tables that the queries for statuses read. -/
structure Fleet where
  vehicles : List VehicleRecord
  drivers : List DriverRecord
  devices : List DeviceRow
  positions : List PositionRecord
  alerts : List AlertRecord
  /-- `id` is the primary key. -/
  ids_nodup : (vehicles.map (·.id)).Nodup

/-- The vehicles with `company_id = $1`. -/
def Fleet.ofCompany (fleet : Fleet) (companyID : Int) : List VehicleRecord :=
  fleet.vehicles.filter (·.companyID = companyID)

/-- The positions with `device_id = v.device_id`. -/
def Fleet.positionsOf (fleet : Fleet) (v : VehicleRecord) : List PositionRecord :=
  fleet.positions.filter fun p => (compare (· == ·) (some p.deviceID) v.deviceID).holds

/-- The positions of a vehicle's device that may come first under `ORDER BY time DESC`. -/
def Fleet.latest (fleet : Fleet) (v : VehicleRecord) : List PositionRecord :=
  newest (·.time) (fleet.positionsOf v)

/-- The lateral join of the queries: the position of the vehicle's device with the latest time. -/
def Fleet.lastPosition (fleet : Fleet) (tie : TieBreak PositionRecord) (v : VehicleRecord) :
    Option PositionRecord :=
  tie.newest (·.time) (fleet.positionsOf v)

/-! ### The vehicle repository -/

/-- A vehicle with its driver and its latest telemetry. -/
structure VehicleWithTelemetry where
  id : Int
  companyID : Int
  deviceID : Option Int
  regNumber : String
  make : String
  model : String
  variant : String
  bodyType : String
  fuelType : String
  fuelCapacity : ℚ
  maxSpeed : Int
  odometer : Int
  iconType : String
  status : String
  online : Bool
  driverName : String
  driverPhone : String
  lat : Option ℚ
  lng : Option ℚ
  speed : Option ℚ
  heading : Option ℚ
  ignition : Option Bool
  temperature : Option ℚ
  fuelPct : Option ℚ
  batteryV : Option ℚ
  timestamp : Option Int

/-- `time IS NOT NULL AND time > NOW() - INTERVAL '15 minutes'` -/
def reportsNow (now : Int) (time : Option Int) : Truth :=
  (isNotNull time).and (compare (· > ·) time (some (now - 15 * 60 * 1000)))

/-- "Compute operational status" -/
def operationalStatus (lat lng speed : Option ℚ) (ignition : Option Bool) : String :=
  if lat = none ∨ lng = none then "offline"
  else if speed.any (· > 2) then "moving"
  else if ignition.any (·) then "idle"
  else "stopped"

/-- One row of the queries of the repository, scanned. -/
def telemetry (now : Int) (v : VehicleRecord) (d : Option DriverRecord)
    (p : Option PositionRecord) : VehicleWithTelemetry where
  id := v.id
  companyID := v.companyID
  deviceID := v.deviceID
  regNumber := v.regNumber
  make := v.make.getD ""
  model := v.model.getD ""
  variant := v.variant.getD ""
  bodyType := v.bodyType.getD ""
  fuelType := v.fuelType.getD ""
  fuelCapacity := v.fuelCapacity.getD 0
  maxSpeed := v.maxSpeed.getD 0
  odometer := v.odometer.getD 0
  iconType := v.iconType.getD ""
  status :=
    operationalStatus (p.map (·.lat)) (p.map (·.lng)) (p.bind (·.speed)) (p.bind (·.ignition))
  online := (reportsNow now (p.map (·.time))).holds
  driverName := (d.map (·.name)).getD ""
  driverPhone := (d.bind (·.phone)).getD ""
  lat := p.map (·.lat)
  lng := p.map (·.lng)
  speed := p.bind (·.speed)
  heading := p.bind (·.heading)
  ignition := p.bind (·.ignition)
  temperature := p.bind (·.temperature)
  fuelPct := p.bind (·.fuelLevelPct)
  batteryV := p.bind (·.backupBatteryV)
  timestamp := p.map (·.time)

/-- `LEFT JOIN drivers d ON d.assigned_vehicle_id = v.id` -/
def Fleet.driversOf (fleet : Fleet) (v : VehicleRecord) : List (Option DriverRecord) :=
  let assigned (d : DriverRecord) := (compare (· == ·) d.assignedVehicleID (some v.id)).holds
  match fleet.drivers.filter assigned with
  | [] => [none]
  | drivers => drivers.map some

/-- The rows of the join for some vehicles. -/
def Fleet.withTelemetry (fleet : Fleet) (tie : TieBreak PositionRecord) (now : Int)
    (vehicles : List VehicleRecord) : List VehicleWithTelemetry :=
  vehicles.flatMap fun v =>
    (fleet.driversOf v).map fun d => telemetry now v d (fleet.lastPosition tie v)

/-- A page of the vehicles of a company. -/
def Fleet.listByCompany (fleet : Fleet) (tie : TieBreak PositionRecord) (now companyID : Int)
    (limit offset : Int) : List VehicleWithTelemetry :=
  let limit := if limit ≤ 0 ∨ limit > 1000 then 500 else limit
  let offset := if offset < 0 then 0 else offset
  let byID := (fleet.ofCompany companyID).mergeSort fun v w => v.id ≤ w.id
  ((fleet.withTelemetry tie now byID).drop offset.toNat).take limit.toNat

/-- A vehicle, if it is the company's. -/
def Fleet.getByID (fleet : Fleet) (tie : TieBreak PositionRecord) (now id companyID : Int) :
    Option VehicleWithTelemetry :=
  let found := fleet.vehicles.filter fun v => v.id = id ∧ v.companyID = companyID
  (fleet.withTelemetry tie now found).head?

/-! ### The counts -/

/-- The four statuses that vehicles are counted under. -/
inductive Bucket where
  | moving
  | idle
  | stopped
  | offline
  deriving DecidableEq

instance : Fintype Bucket where
  elems := {.moving, .idle, .stopped, .offline}
  complete := by
    intro b
    cases b <;> simp

def Bucket.name : Bucket → String
  | .moving => "moving"
  | .idle => "idle"
  | .stopped => "stopped"
  | .offline => "offline"

/-- A condition of a `FILTER` clause, on a vehicle and the position joined to it. -/
abbrev Filter : Type := VehicleRecord → Option PositionRecord → Truth

/-- `COUNT(*) FILTER (WHERE ...)` over the vehicles of a company and their latest positions. -/
def Fleet.count (fleet : Fleet) (tie : TieBreak PositionRecord) (companyID : Int)
    (filter : Filter) : Nat :=
  (fleet.ofCompany companyID).countP fun v => (filter v (fleet.lastPosition tie v)).holds

/-- `p.speed > 2` -/
def speedAbove (p : Option PositionRecord) : Truth :=
  compare (· > ·) (p.bind (·.speed)) (some 2)

/-- `p.speed <= 2` -/
def speedUpTo (p : Option PositionRecord) : Truth :=
  compare (· ≤ ·) (p.bind (·.speed)) (some 2)

/-- `p.ignition` -/
def ignitionOn (p : Option PositionRecord) : Truth := p.bind (·.ignition)

def hasTime (p : Option PositionRecord) : Truth := isNotNull (p.map (·.time))

/-- The conditions of both dashboards. -/
def dashboardFilter : Bucket → Filter
  | .moving, _, p => (hasTime p).and (speedAbove p)
  | .idle, _, p => ((hasTime p).and (speedUpTo p)).and (ignitionOn p)
  | .stopped, _, p => ((hasTime p).and (speedUpTo p)).and (ignitionOn p).not
  | .offline, _, p => isNull (p.map (·.time))

/-- `v.status <> 'offline'` -/
def notOffline (v : VehicleRecord) : Truth := compare (· != ·) v.status (some "offline")

/-- The conditions of the summary report. -/
def summaryFilter : Bucket → Filter
  | .moving, v, p => (notOffline v).and (speedAbove p)
  | .idle, v, p => ((notOffline v).and (speedUpTo p)).and (ignitionOn p)
  | .stopped, v, p => ((notOffline v).and (speedUpTo p)).and (ignitionOn p).not
  | .offline, _, p => isNull (p.map (·.time))

/-- `SELECT COUNT(*) FROM vehicles WHERE company_id = $1` -/
def Fleet.countByCompany (fleet : Fleet) (companyID : Int) : Nat :=
  (fleet.ofCompany companyID).length

/-- `SELECT COUNT(*) FROM alerts WHERE company_id = $1 AND acknowledged = FALSE` -/
def Fleet.unacknowledged (fleet : Fleet) (companyID : Int) : Nat :=
  fleet.alerts.countP fun a =>
    a.companyID = companyID && (compare (· == ·) a.acknowledged (some false)).holds

structure DashboardSummary where
  totalVehicles : Nat
  online : Nat
  moving : Nat
  idle : Nat
  stopped : Nat
  offline : Nat
  unacknowledgedAlerts : Nat

def dashboardSummaryHandler (fleet : Fleet) (tie : TieBreak PositionRecord) (now companyID : Int) :
    DashboardSummary where
  totalVehicles := fleet.countByCompany companyID
  online := fleet.count tie companyID fun _ p => reportsNow now (p.map (·.time))
  moving := fleet.count tie companyID (dashboardFilter .moving)
  idle := fleet.count tie companyID (dashboardFilter .idle)
  stopped := fleet.count tie companyID (dashboardFilter .stopped)
  offline := fleet.count tie companyID (dashboardFilter .offline)
  unacknowledgedAlerts := fleet.unacknowledged companyID

/-- The part of the analytics that is about statuses. -/
structure DashboardAnalytics where
  fleetOccupancyPct : ℚ
  onlineVehicles : Nat
  recordedVehicles : Nat
  idleVehicles : Nat
  stoppedVehicles : Nat
  runningVehicles : Nat
  offlineVehicles : Nat

def dashboardAnalyticsHandler (fleet : Fleet) (tie : TieBreak PositionRecord)
    (now companyID : Int) : DashboardAnalytics where
  fleetOccupancyPct :=
    let online := fleet.count tie companyID fun _ p => reportsNow now (p.map (·.time))
    let totalVehicles := fleet.countByCompany companyID
    if totalVehicles > 0 then (online : ℚ) / totalVehicles * 100 else 0
  onlineVehicles := fleet.count tie companyID fun _ p => reportsNow now (p.map (·.time))
  recordedVehicles := fleet.count tie companyID fun _ p => hasTime p
  idleVehicles := fleet.count tie companyID (dashboardFilter .idle)
  stoppedVehicles := fleet.count tie companyID (dashboardFilter .stopped)
  runningVehicles := fleet.count tie companyID (dashboardFilter .moving)
  offlineVehicles := fleet.count tie companyID (dashboardFilter .offline)

/-- The metrics of the summary report, in their order. -/
structure SummaryReport where
  totalVehicles : Nat
  moving : Nat
  idle : Nat
  stopped : Nat
  offline : Nat
  devices : Nat
  unacknowledgedAlerts : Nat

def reportSummary (fleet : Fleet) (tie : TieBreak PositionRecord) (companyID : Int) :
    SummaryReport where
  totalVehicles := fleet.countByCompany companyID
  moving := fleet.count tie companyID (summaryFilter .moving)
  idle := fleet.count tie companyID (summaryFilter .idle)
  stopped := fleet.count tie companyID (summaryFilter .stopped)
  offline := fleet.count tie companyID (summaryFilter .offline)
  devices := fleet.devices.countP (·.companyID = some companyID)
  unacknowledgedAlerts := fleet.unacknowledged companyID

end RudraNetra
