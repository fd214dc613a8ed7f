/-
The database as ingestion uses it.

A statement is carried out whole or not at all.  An `INSERT` into `positions` is kept
as the program sends it: rows of expressions over numbered placeholders, and the list
of arguments.  What a row becomes is found by looking each placeholder up, so a wrong
number gives a wrong row, or none at all if there is no such argument.

Tables have the columns that ingestion reads or writes.
-/
import RudraNetra.Domain.Position

namespace RudraNetra

/-- A value of a column or an argument. -/
inductive Value where
  | null
  | int (value : Int)
  | real (value : ℚ)
  | bool (value : Bool)
  | text (value : String)
  | instant (milliseconds : Int)
  | json (map : RawMap)
  | point (lng lat : ℚ)

/-- The columns of `positions`, in the order in which they are inserted. -/
def positionColumns : List String :=
  ["time", "device_id", "location", "speed", "heading", "altitude", "satellites", "ignition",
    "gsm_signal", "voltage", "temperature", "odometer", "rfid_tag", "raw_data", "fuel_level_pct",
    "backup_battery_v", "door_open"]

/-- A row of `positions`: a value for each column. -/
abbrev PositionRow : Type := List (String × Value)

/-- The column values of an `INSERT`: a placeholder, or a point made of two. -/
inductive ColumnExpr where
  | param (n : Nat)
  | makePoint (lng lat : Nat)

/-- An `INSERT INTO positions` with several rows. -/
structure InsertStmt where
  columns : List String
  rows : List (List ColumnExpr)
  args : List Value

/-- Placeholders count from one. -/
def argument (args : List Value) (n : Nat) : Option Value :=
  if n = 0 then none else args[n - 1]?

def ColumnExpr.eval (args : List Value) : ColumnExpr → Option Value
  | .param n => argument args n
  | .makePoint lng lat =>
    match argument args lng, argument args lat with
    | some (.real x), some (.real y) => some (.point x y)
    | _, _ => none

/-- The rows an `INSERT` adds, if every placeholder has an argument. -/
def InsertStmt.eval (stmt : InsertStmt) : Option (List PositionRow) :=
  stmt.rows.mapM fun row => do
    let values ← row.mapM (·.eval stmt.args)
    return stmt.columns.zip values

structure DeviceRow where
  id : Int
  companyID : Option Int
  imei : List UInt8
  lastHeartbeat : Option Int

structure VehicleRow where
  id : Int
  deviceID : Option Int
  regNumber : String
  odometer : Option Int
  updatedAt : Int

structure Database where
  devices : List DeviceRow
  vehicles : List VehicleRow
  positions : List PositionRow

/-- The statements ingestion issues while it handles a frame. -/
inductive Statement where
  | insertPositions (stmt : InsertStmt)
  /-- `UPDATE vehicles SET odometer = GREATEST(COALESCE(odometer, 0), $1), updated_at = NOW()
  WHERE device_id = $2` -/
  | raiseOdometer (odometer deviceID : Int)
  /-- `UPDATE devices SET last_heartbeat = NOW() WHERE id = $1` -/
  | heartbeat (deviceID : Int)

/-- Carries a statement out at time `now`; the result has the number of affected rows. -/
def Database.exec (db : Database) (now : Int) : Statement → Option (Database × Nat)
  | .insertPositions stmt =>
    stmt.eval.map fun rows => ({ db with positions := db.positions ++ rows }, rows.length)
  | .raiseOdometer odometer deviceID =>
    let raise (v : VehicleRow) : VehicleRow :=
      if v.deviceID = some deviceID then
        { v with odometer := some (max (v.odometer.getD 0) odometer), updatedAt := now }
      else v
    some ({ db with vehicles := db.vehicles.map raise },
      db.vehicles.countP (·.deviceID = some deviceID))
  | .heartbeat deviceID =>
    let beat (d : DeviceRow) : DeviceRow :=
      if d.id = deviceID then { d with lastHeartbeat := some now } else d
    some ({ db with devices := db.devices.map beat }, db.devices.countP (·.id = deviceID))

end RudraNetra
