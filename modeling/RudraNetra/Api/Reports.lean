/-
Reports over positions: `internal/handler/handlers_admin.go`, the overspeed query of
`internal/repository/postgres/report_repo.go` and the log view of
`internal/handler/handlers.go`.

A report covers a window of time that ends with a device's anchor, its last position that
follows the one before it within two hours.  The rows are those of the queries before they
are ordered, rounded and cut off.  Times are in milliseconds, as the positions have them.
-/
import RudraNetra.Alerts.Engine
import RudraNetra.Api.Status
import RudraNetra.Lib.GoNumber

namespace RudraNetra

open SQL

/-- A row of `company_settings`, as far as reports read it. -/
structure SettingsRecord where
  companyID : Int
  idleThreshold : Option Int
  speedThreshold : Option Int

/-- The tables that the reports read. -/
structure ReportTables extends Fleet where
  settings : List SettingsRecord
  deviceIDs_nodup : (vehicles.filterMap (·.deviceID)).Nodup
  /-- A device has one position at a time. -/
  times_nodup : (positions.map fun p => (p.deviceID, p.time)).Nodup

def ReportTables.settingsOf (tables : ReportTables) (companyID : Int) : Option SettingsRecord :=
  tables.settings.find? (·.companyID = companyID)

/-! ### Windows -/

structure ReportWindow where
  hours : Int
  offset : Int

/-- `strings.ToLower`, for letters that come to be ASCII letters of a selector. -/
def lowerCase (s : String) : String :=
  s.map fun c => if c = '\u212A' then 'k' else c.toLower

/-- The window of the range selector. -/
def reportWindowFrom (range : String) : ReportWindow :=
  match lowerCase range with
  | "yesterday" => ⟨24, 24⟩
  | "week" => ⟨24 * 7, 0⟩
  | "month" => ⟨24 * 31, 0⟩
  | _ => ⟨24, 0⟩

def atoiDefault (s : String) (default : Int) : Int :=
  if s = "" then default else (Go.atoi s).getD default

/-- `make_interval(hours => n)` -/
def hours (n : Int) : Int := n * 3600000

/-- A position, and the vehicle that carries its device. -/
abbrev Tracked : Type := PositionRecord × VehicleRecord

/-- `positions p JOIN vehicles v ON v.device_id = p.device_id WHERE v.company_id = $1` -/
def Fleet.tracked (fleet : Fleet) (companyID : Int) : List Tracked :=
  fleet.positions.flatMap fun p =>
    ((fleet.ofCompany companyID).filter (·.deviceID = some p.deviceID)).map fun v => (p, v)

/-- The row of the device before a row. -/
def before (rows : List Tracked) (row : Tracked) : Option Tracked :=
  lag (·.1.deviceID) (·.1.time) rows row

/-- `p.time - LAG(p.time) OVER (PARTITION BY p.device_id ORDER BY p.time)` -/
def gap (rows : List Tracked) (row : Tracked) : Option Int :=
  (before rows row).map fun prev => row.1.time - prev.1.time

/-- `MAX(time)` of the device's positions with `gap IS NULL OR gap <= INTERVAL '2 hours'`. -/
def anchor (rows : List Tracked) (deviceID : Int) : Option Int :=
  ((rows.filter fun row => row.1.deviceID = deviceID ∧ (gap rows row).all (· ≤ hours 2)).map
    (·.1.time)).max?

/-- The positions of a window, from so many hours before the anchor to `offset` hours before. -/
def Fleet.pointsOf (fleet : Fleet) (companyID : Int) (win : ReportWindow) : List Tracked :=
  let rows := fleet.tracked companyID
  rows.filter fun row => (anchor rows row.1.deviceID).any fun last =>
    last - hours (win.hours + win.offset) ≤ row.1.time ∧ row.1.time ≤ last - hours win.offset

/-! ### Distances -/

/-- A longitude and a latitude. -/
abbrev Place : Type := ℚ × ℚ

def PositionRecord.place (p : PositionRecord) : Place := (p.lng, p.lat)

/-- The places between which a distance counts: those of a row and of the row before it, if they
are at most two hours apart. -/
def leg (rows : List Tracked) (row : Tracked) : Option (Place × Place) :=
  (before rows row).bind fun prev =>
    if row.1.time - prev.1.time ≤ hours 2 then some (row.1.place, prev.1.place) else none

/-- `SUM` over the distances that count, with `ST_Distance` in metres. -/
def metersOf (distance : Place → Place → ℚ) (rows : List Tracked) (row : Tracked) : ℚ :=
  ((leg rows row).map fun (place, prev) => distance place prev).getD 0

/-- `EXTRACT(EPOCH FROM (time - prev_time)) / 60` of a row that is counted. -/
def minutesOf (rows : List Tracked) (counted : PositionRecord → Truth) (row : Tracked) : ℚ :=
  match gap rows row with
  | some ms => if ms ≤ hours 2 ∧ (counted row.1).holds then ms / 60000 else 0
  | none => 0

structure DistanceRow where
  vehicleID : Int
  regNumber : String
  driver : String
  startOdo : Int
  endOdo : Int
  distanceKm : ℚ
  maxSpeed : ℚ
  avgSpeed : ℚ
  runningMin : ℚ
  idleMin : ℚ
  stopMin : ℚ

/-- A point of a vehicle with a driver. -/
abbrev DrivenPoint : Type := Tracked × Option DriverRecord

/-- `GROUP BY pts.vehicle_id, pts.reg_number, dr.name` -/
def DrivenPoint.key (x : DrivenPoint) : Int × String × Option String :=
  (x.1.2.id, x.1.2.regNumber, x.2.map (·.name))

/-- The row of a group. -/
def distanceRow (distance : Place → Place → ℚ) (points : List Tracked)
    (g : (Int × String × Option String) × List DrivenPoint) : DistanceRow :=
  let rows := g.2.map (·.1)
  let odometers := rows.filterMap (·.1.odometer)
  let speeds := rows.filterMap (·.1.speed)
  let minutes (counted : PositionRecord → Truth) := (rows.map (minutesOf points counted)).sum
  { vehicleID := g.1.1
    regNumber := g.1.2.1
    driver := g.1.2.2.getD ""
    startOdo := odometers.min?.getD 0
    endOdo := odometers.max?.getD 0
    distanceKm := (rows.map (metersOf distance points)).sum / 1000
    maxSpeed := speeds.max?.getD 0
    avgSpeed := if speeds = [] then 0 else speeds.sum / speeds.length
    runningMin := minutes fun p => Truth.and p.ignition (compare (· > ·) p.speed (some 2))
    idleMin := minutes fun p => Truth.and p.ignition (compare (· ≤ ·) p.speed (some 2))
    stopMin := minutes fun p => Truth.not p.ignition }

def Fleet.reportDistance (fleet : Fleet) (distance : Place → Place → ℚ) (companyID : Int)
    (range : String) : List DistanceRow :=
  let points := fleet.pointsOf companyID (reportWindowFrom range)
  let driven := points.flatMap fun row => (fleet.driversOf row.2).map fun driver => (row, driver)
  (groups DrivenPoint.key driven).map (distanceRow distance points)

/-- The positions from so many hours before the anchor on. -/
def Fleet.recentPoints (fleet : Fleet) (companyID : Int) (n : Int) : List Tracked :=
  let rows := fleet.tracked companyID
  rows.filter fun row => (anchor rows row.1.deviceID).any fun last =>
    last - hours n ≤ row.1.time

structure MatrixRow where
  regNumber : String
  day : Int
  distanceKm : ℚ

/-- The hours of the matrix: those of the range, or of a number of days. -/
def matrixHours (range days : String) : Int :=
  if days ≠ "" then atoiDefault days 31 * 24 else (reportWindowFrom range).hours

/-- The matrix; `dayOf` is the day of a time in the time zone of the session. -/
def Fleet.reportDistanceMatrix (fleet : Fleet) (distance : Place → Place → ℚ) (dayOf : Int → Int)
    (companyID : Int) (range days : String) : List MatrixRow :=
  let points := fleet.recentPoints companyID (matrixHours range days)
  let legs := points.filter fun row => (leg points row).isSome
  let named := legs.flatMap fun row =>
    (fleet.vehicles.filter (·.deviceID = some row.1.deviceID)).map fun v => (row, v.regNumber)
  (groups (fun x => (x.2, dayOf x.1.1.time)) named).map fun g =>
    ⟨g.1.1, g.1.2, (g.2.map fun x => metersOf distance points x.1).sum / 1000⟩

/-! ### Speeding -/

/-- `p.speed > limit` -/
def PositionRecord.exceeds (p : PositionRecord) (limit : ℚ) : Bool :=
  (compare (· > ·) p.speed (some limit)).holds

/-- The tenant's limit, or zero. -/
def companySpeedThreshold (settings : Option SettingsRecord) : Int :=
  match settings.bind (·.speedThreshold) with
  | some limit => if limit > 0 then limit else 0
  | none => 0

structure OverspeedRow where
  regNumber : String
  driver : String
  time : Int
  speed : ℚ
  speedLimit : Int
  exceedBy : ℚ

/-- Whether the report lists a position of its window; without a limit it lists none. -/
def reportsOverspeed (limit : Int) (p : PositionRecord) : Bool := limit > 0 && p.exceeds limit

def ReportTables.reportOverspeed (tables : ReportTables) (companyID : Int) (range : String) :
    List OverspeedRow :=
  let limit := companySpeedThreshold (tables.settingsOf companyID)
  let points := tables.pointsOf companyID (reportWindowFrom range)
  (points.filter fun row => reportsOverspeed limit row.1).flatMap fun row =>
    (tables.driversOf row.2).map fun driver =>
      { regNumber := row.2.regNumber
        driver := (driver.map (·.name)).getD ""
        time := row.1.time
        speed := row.1.speed.getD 0
        speedLimit := limit
        exceedBy := row.1.speed.getD 0 - limit }

/-- `COALESCE(NULLIF(v.max_speed, 0), threshold)` -/
def violationLimit (v : VehicleRecord) (threshold : Int) : Int :=
  match v.maxSpeed with
  | some limit => if limit = 0 then threshold else limit
  | none => threshold

structure SpeedViolationRow where
  deviceID : Int
  regNumber : String
  time : Int
  speed : ℚ
  speedLimit : Int
  exceededBy : ℚ
  latitude : ℚ
  longitude : ℚ

/-- The violations from `start` to `stop`; the caller supplies the tenant's threshold. -/
def Fleet.getSpeedViolations (fleet : Fleet) (companyID start stop threshold : Int) :
    List SpeedViolationRow :=
  fleet.positions.flatMap fun p =>
    let devices := fleet.devices.filter fun d => d.id = p.deviceID ∧ d.companyID = some companyID
    let vehicles := devices.flatMap fun d => fleet.vehicles.filter (·.deviceID = some d.id)
    (vehicles.filter fun v =>
        start ≤ p.time ∧ p.time ≤ stop ∧ p.exceeds (violationLimit v threshold)).map fun v =>
      { deviceID := p.deviceID
        regNumber := v.regNumber
        time := p.time
        speed := p.speed.getD 0
        speedLimit := violationLimit v threshold
        exceededBy := p.speed.getD 0 - violationLimit v threshold
        latitude := p.lat
        longitude := p.lng }

/-! ### The log view -/

/-- The limit of the log view; a threshold that is `NULL` does not scan, nor does the other. -/
def logSpeedLimit (v : VehicleRecord) (settings : Option SettingsRecord) : Int :=
  let thresholds := do
    let row ← settings
    let speed ← row.speedThreshold
    let idle ← row.idleThreshold
    return (speed, idle)
  match thresholds with
  | some (speed, _) => if speed > 0 then speed else v.maxSpeed.getD 0
  | none => v.maxSpeed.getD 0

/-- The status and the trigger of a record. -/
def logStatus (speedLimit : Int) (p : PositionRecord) : String × String :=
  let speed := p.speed.getD 0
  if speedLimit > 0 ∧ speed > speedLimit then
    ("alert", "Overspeed (" ++ formatFixed 0 speed ++ " km/h > " ++ toString speedLimit ++ " km/h)")
  else
    match p.temperature with
    | some temp =>
      if temp ≤ 0 then ("normal", "Reefer Monitoring (" ++ formatFixed 1 temp ++ "°C)")
      else ("normal", "Periodic AVL Record")
    | none => ("normal", "Periodic AVL Record")

end RudraNetra
