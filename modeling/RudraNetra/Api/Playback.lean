/-
One vehicle or device by the `:id` of a path: the playback, the log view and the position of a
device in `internal/handler/handlers.go`.

The playback and the log view look a vehicle up by a text that may be an id, a registration
number or, for the log view, the id of a device.  The query takes the first row of any order
that the database likes, so it comes with a `TieBreak` of its own.

Queries are answered, all of one state of the tables.  A device has one position at a time, so
`ORDER BY time` leaves nothing open.  Times are instants here; the handlers format them.
-/
import RudraNetra.Api.Reports
import RudraNetra.Lib.GoTime

namespace RudraNetra

open SQL

/-! ### The playback -/

/-- `WHERE (id::text = $1 OR reg_number = $1) AND company_id = $2` -/
def Fleet.namedVehicle (fleet : Fleet) (companyID : Int) (param : String) : List VehicleRecord :=
  (fleet.ofCompany companyID).filter fun v => toString v.id = param ∨ v.regNumber = param

/-- The positions with `device_id = $1`. -/
def Fleet.positionsOfDevice (fleet : Fleet) (deviceID : Int) : List PositionRecord :=
  fleet.positions.filter (·.deviceID = deviceID)

structure HistoryPoint where
  lat : ℚ
  lng : ℚ
  speed : ℚ
  time : Int

/-- The answer of `getHistoryHandler`. -/
structure VehicleHistory where
  companyID : Int
  vehicleID : Int
  regNumber : String
  totalPoints : Nat
  data : List HistoryPoint

def historyPoint (p : PositionRecord) : HistoryPoint := ⟨p.lat, p.lng, p.speed.getD 0, p.time⟩

/-- The playback of a vehicle; nothing if the company has none of that name. -/
def getHistoryHandler (tables : ReportTables) (tie : TieBreak VehicleRecord) (companyID : Int)
    (param : String) : Option VehicleHistory :=
  (tie.first (tables.namedVehicle companyID param)).map fun v =>
    let deviceID := v.deviceID.getD 0
    let rows :=
      if deviceID > 0 then
        ((tables.positionsOfDevice deviceID).mergeSort fun p q => p.time ≤ q.time).take 500
      else []
    { companyID := companyID
      vehicleID := v.id
      regNumber := v.regNumber
      totalPoints := rows.length
      data := rows.map historyPoint }

/-! ### The position of a device -/

/-- The answer of `getDevicePositionHandler`. -/
structure DevicePosition where
  deviceID : Int
  imei : List UInt8
  vehicleID : Int
  regNumber : String
  lat : Option ℚ
  lng : Option ℚ
  speed : Option ℚ
  heading : Option ℚ
  ignition : Option Bool
  temperature : Option ℚ
  timestamp : Option Int

def devicePosition (d : DeviceRow) (v : Option VehicleRecord) (p : Option PositionRecord) :
    DevicePosition where
  deviceID := d.id
  imei := d.imei
  vehicleID := (v.map (·.id)).getD 0
  regNumber := (v.map (·.regNumber)).getD ""
  lat := p.map (·.lat)
  lng := p.map (·.lng)
  speed := p.bind (·.speed)
  heading := p.bind (·.heading)
  ignition := p.bind (·.ignition)
  temperature := p.bind (·.temperature)
  timestamp := p.map (·.time)

/-- `LEFT JOIN vehicles v ON v.device_id = d.id` -/
def Fleet.carriersOf (fleet : Fleet) (deviceID : Int) : List (Option VehicleRecord) :=
  match fleet.vehicles.filter (·.deviceID = some deviceID) with
  | [] => [none]
  | vehicles => vehicles.map some

/-- The device with its vehicle and its last position, if it is the company's. -/
def getDevicePositionHandler (tables : ReportTables) (tie : TieBreak PositionRecord)
    (deviceID companyID : Int) : Option DevicePosition :=
  let found := tables.devices.filter fun d => d.id = deviceID ∧ d.companyID = some companyID
  (found.flatMap fun d => (tables.carriersOf d.id).map fun v =>
    devicePosition d v (tie.newest (·.time) (tables.positionsOfDevice d.id))).head?

/-! ### The log view -/

/-- `WHERE (id::text = $1 OR reg_number = $1 OR device_id::text = $1) AND company_id = $2` -/
def Fleet.loggedVehicle (fleet : Fleet) (companyID : Int) (param : String) : List VehicleRecord :=
  (fleet.ofCompany companyID).filter fun v =>
    toString v.id = param ∨ v.regNumber = param ∨ v.deviceID.map toString = some param

structure LogRecord where
  id : Nat
  time : Int
  intervalStr : String
  deltaSeconds : Int
  speed : ℚ
  temp : Option ℚ
  fuelPct : Option ℚ
  fuelLiters : Option ℚ
  extBattery : Option ℚ
  backupBattery : Option ℚ
  ignition : String
  door : String
  lat : ℚ
  lng : ℚ
  altitude : ℚ
  satellites : Int
  heading : ℚ
  odometer : Int
  trigger : String
  status : String

/-- A record before its interval is known. -/
def logRecord (speedLimit : Int) (fuelCapacity : ℚ) (idx : Nat) (p : PositionRecord) :
    LogRecord where
  id := idx
  time := p.time
  intervalStr := ""
  deltaSeconds := 0
  speed := p.speed.getD 0
  temp := p.temperature
  fuelPct := p.fuelLevelPct
  fuelLiters := p.fuelLevelPct.bind fun pct =>
    if fuelCapacity > 0 then some (pct / 100 * fuelCapacity) else none
  extBattery := p.voltage
  backupBattery := p.backupBatteryV
  ignition := if p.ignition = some true then "ON" else "OFF"
  door :=
    match p.doorOpen with
    | some true => "Open"
    | some false => "Closed"
    | none => ""
  lat := p.lat
  lng := p.lng
  altitude := p.altitude.getD 0
  satellites := p.satellites.getD 0
  heading := p.heading.getD 0
  odometer := p.odometer.getD 0
  trigger := (logStatus speedLimit p).2
  status := (logStatus speedLimit p).1

/-- What `time.Parse` makes of a time that was formatted to seconds: years have four digits. -/
def reparsed (time : Int) : Int :=
  let year := Go.year (time * 10 ^ 6)
  if 0 ≤ year ∧ year ≤ 9999 then time / 1000 * 10 ^ 9 else Go.zeroInstant

/-- The seconds between two records. -/
def secondsBetween (a b : LogRecord) : Int :=
  |(Go.sub (reparsed a.time) (reparsed b.time)).tdiv (10 ^ 9)|

/-- `%02d` -/
def twoDigits (n : Int) : String := if n < 10 then "0" ++ toString n else toString n

def intervalText (sec : Int) : String :=
  if sec = 0 then "0s (Sync)"
  else if sec < 60 then "+" ++ toString sec ++ "s"
  else if sec < 3600 then "+" ++ toString (sec / 60) ++ "m " ++ twoDigits (sec % 60) ++ "s"
  else if sec < 86400 then
    "+" ++ toString (sec / 3600) ++ "h " ++ twoDigits (sec % 3600 / 60) ++ "m"
  else "+" ++ toString (sec / 86400) ++ "d " ++ twoDigits (sec % 86400 / 3600) ++ "h"

/-- The interval of a record up to the older one behind it. -/
def withInterval (count i : Nat) (r : LogRecord) (older : Option LogRecord) : LogRecord :=
  match older with
  | some older =>
    let sec := secondsBetween r older
    let text := intervalText sec
    { r with
      deltaSeconds := sec
      intervalStr := if i = 0 then "Latest (" ++ text ++ ")" else text }
  | none => { r with intervalStr := if count = 1 then "Single Ping" else "Base Record" }

/-- The trigger of a record that is no alert. -/
def withTrigger (idleMinutes : Int) (r : LogRecord) : LogRecord :=
  if r.status = "alert" then r
  else if r.speed ≤ 2 ∧ idleMinutes > 0 ∧ r.deltaSeconds ≥ idleMinutes * 60 then
    { r with trigger := "Idle Stationary Ping (" ++ r.intervalStr ++ ")" }
  else if r.deltaSeconds > 0 ∧ r.deltaSeconds ≤ 75 then
    { r with trigger := "Periodic AVL Record (" ++ r.intervalStr ++ ")" }
  else if r.deltaSeconds > 75 then
    { r with trigger := "Stationary Ping (" ++ r.intervalStr ++ ")" }
  else r

/-- The idle threshold; a threshold that is `NULL` does not scan, nor does the other. -/
def logIdleMinutes (settings : Option SettingsRecord) : Int :=
  match settings with
  | some row => if row.speedThreshold.isSome then row.idleThreshold.getD 0 else 0
  | none => 0

/-- The records of a device, the latest first. -/
def logRecords (rows : List PositionRecord) (speedLimit idleMinutes : Int) (fuelCapacity : ℚ) :
    List LogRecord :=
  let records := rows.mapIdx (logRecord speedLimit fuelCapacity)
  records.mapIdx fun i r =>
    withTrigger idleMinutes (withInterval records.length i r records[i + 1]?)

/-- The answer of `getVehicleLogsHandler`. -/
structure VehicleLogs where
  vehicleID : Int
  deviceID : Int
  regNumber : String
  count : Nat
  make : String
  model : String
  fuelCapacity : ℚ
  maxSpeed : Int
  /-- The row of the device, if there is one. -/
  device : Option DeviceRow
  data : List LogRecord

/-- The log of a vehicle; nothing if the company has none of that name. -/
def getVehicleLogsHandler (tables : ReportTables) (tie : TieBreak VehicleRecord) (companyID : Int)
    (param limit : String) : Option VehicleLogs :=
  let limit := atoiDefault limit 60
  let limit := if limit ≤ 0 ∨ limit > 500 then 60 else limit
  (tie.first (tables.loggedVehicle companyID param)).map fun v =>
    let deviceID := v.deviceID.getD 0
    let settings := tables.settingsOf companyID
    let rows :=
      if deviceID > 0 then
        ((tables.positionsOfDevice deviceID).mergeSort fun p q => q.time ≤ p.time).take limit.toNat
      else []
    { vehicleID := v.id
      deviceID := deviceID
      regNumber := v.regNumber
      count := rows.length
      make := v.make.getD ""
      model := v.model.getD ""
      fuelCapacity := v.fuelCapacity.getD 0
      maxSpeed := v.maxSpeed.getD 0
      device := if deviceID > 0 then tables.devices.find? (·.id = deviceID) else none
      data := logRecords rows (logSpeedLimit v settings) (logIdleMinutes settings)
        (v.fuelCapacity.getD 0) }

end RudraNetra
