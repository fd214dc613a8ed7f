/-
The tables behind the API: `backend/migrations/*.up.sql`.

The tables are those that a mutating endpoint changes, itself or through a referential
action.  `positions`, `fuel_records`, `raw_packets` and the like are not among them.
-/
import RudraNetra.Lib.Relational

namespace RudraNetra.API

open SQL

/-- A value of a column that is not `NULL`. -/
inductive Datum where
  | int (value : Int)
  | real (value : ℚ)
  | bool (value : Bool)
  | text (value : String)
  /-- Nanoseconds since the Unix epoch, for dates as well. -/
  | instant (nanoseconds : Int)
  | json (text : String)
  | point (lng lat : ℚ)
  | geometry (geoJSON : String)
  | polygon (corners : List (ℚ × ℚ))
  deriving DecidableEq

inductive Table where
  | companies
  | users
  | devices
  | vehicles
  | drivers
  | geofences
  | poi
  | alertRules
  | alerts
  | trips
  | fleetParties
  | gatePasses
  | loadingReceipts
  | tyreRecords
  | invoices
  | reminders
  | deviceCommands
  | complaints
  | fleetTrips
  | tripVouchers
  | partyRoutes
  | tempUsers
  | warrantyRecords
  | lookupMasters
  | vehicleGroups
  | vehicleGroupMembers
  | routes
  | smsConfig
  | companySettings
  deriving DecidableEq

/-- The tables with an `id BIGSERIAL PRIMARY KEY`. -/
def serialTables : List Table :=
  [.companies, .users, .devices, .vehicles, .drivers, .geofences, .poi, .alertRules, .alerts,
    .trips, .fleetParties, .gatePasses, .loadingReceipts, .tyreRecords, .invoices, .reminders,
    .deviceCommands, .complaints, .fleetTrips, .tripVouchers, .partyRoutes, .tempUsers,
    .warrantyRecords, .lookupMasters, .vehicleGroups, .routes]

/-- The tables whose rows go with their company. -/
def companyTables : List Table :=
  [.users, .vehicles, .drivers, .geofences, .poi, .alertRules, .alerts, .trips, .fleetParties,
    .gatePasses, .loadingReceipts, .tyreRecords, .invoices, .reminders, .deviceCommands,
    .complaints, .fleetTrips, .tripVouchers, .partyRoutes, .tempUsers, .warrantyRecords,
    .lookupMasters, .vehicleGroups, .routes, .smsConfig, .companySettings]

def schema : Schema Table where
  uniques :=
    serialTables.map (fun t => (t, ["id"])) ++
      [(.companies, ["code"]), (.users, ["username"]), (.devices, ["imei"]),
        (.vehicles, ["device_id"]), (.tempUsers, ["access_token"]), (.smsConfig, ["company_id"]),
        (.companySettings, ["company_id"]), (.vehicleGroupMembers, ["group_id", "vehicle_id"])]
  foreignKeys :=
    companyTables.map (fun t => ⟨t, "company_id", .companies, .cascade⟩) ++
      [⟨.devices, "company_id", .companies, .setNull⟩,
        ⟨.vehicles, "device_id", .devices, .setNull⟩,
        ⟨.alerts, "device_id", .devices, .cascade⟩,
        ⟨.deviceCommands, "device_id", .devices, .cascade⟩,
        ⟨.warrantyRecords, "device_id", .devices, .cascade⟩,
        ⟨.drivers, "assigned_vehicle_id", .vehicles, .setNull⟩,
        ⟨.trips, "vehicle_id", .vehicles, .setNull⟩,
        ⟨.gatePasses, "vehicle_id", .vehicles, .setNull⟩,
        ⟨.loadingReceipts, "vehicle_id", .vehicles, .setNull⟩,
        ⟨.tyreRecords, "vehicle_id", .vehicles, .cascade⟩,
        ⟨.reminders, "vehicle_id", .vehicles, .cascade⟩,
        ⟨.deviceCommands, "vehicle_id", .vehicles, .setNull⟩,
        ⟨.complaints, "vehicle_id", .vehicles, .setNull⟩,
        ⟨.fleetTrips, "vehicle_id", .vehicles, .setNull⟩,
        ⟨.vehicleGroupMembers, "vehicle_id", .vehicles, .cascade⟩,
        ⟨.trips, "driver_id", .drivers, .setNull⟩,
        ⟨.gatePasses, "driver_id", .drivers, .setNull⟩,
        ⟨.alerts, "rule_id", .alertRules, .setNull⟩,
        ⟨.alerts, "acknowledged_by", .users, .setNull⟩,
        ⟨.loadingReceipts, "party_id", .fleetParties, .setNull⟩,
        ⟨.tripVouchers, "trip_id", .fleetTrips, .cascade⟩,
        ⟨.vehicleGroupMembers, "group_id", .vehicleGroups, .cascade⟩]

/-- The `DEFAULT` clauses; a column without one is `NULL` if an `INSERT` does not name it. -/
def Table.defaults (now : Int) : Table → List (String × Datum)
  | .companies => [("status", .int 1), ("created_at", .instant now), ("updated_at", .instant now)]
  | .users =>
    [("role", .text "viewer"), ("permissions", .json "\x7b\x7d"), ("is_active", .bool true),
      ("created_at", .instant now), ("updated_at", .instant now)]
  | .devices =>
    [("device_type", .text "TELTONIKA_FMB920"), ("port", .int 5040), ("status", .text "active"),
      ("created_at", .instant now), ("updated_at", .instant now)]
  | .vehicles =>
    [("fuel_type", .text "Diesel"), ("fuel_capacity", .real 100), ("max_speed", .int 80),
      ("odometer", .int 0), ("icon_type", .text "truck"), ("status", .text "active"),
      ("created_at", .instant now), ("updated_at", .instant now)]
  | .drivers =>
    [("status", .text "active"), ("created_at", .instant now), ("updated_at", .instant now)]
  | .geofences =>
    [("type", .text "zone"), ("alert_on_enter", .bool true), ("alert_on_exit", .bool true),
      ("is_active", .bool true), ("created_at", .instant now), ("updated_at", .instant now)]
  | .alertRules =>
    [("config", .json "\x7b\x7d"), ("sms_enabled", .bool false), ("email_enabled", .bool false),
      ("recipients", .json "[]"), ("is_active", .bool true), ("created_at", .instant now)]
  | .alerts =>
    [("acknowledged", .bool false), ("created_at", .instant now), ("severity", .text "info")]
  | .trips => [("distance_km", .real 0), ("status", .text "planned"), ("created_at", .instant now)]
  | .gatePasses => [("issued_at", .instant now), ("status", .text "issued")]
  | .loadingReceipts =>
    [("weight_kg", .real 0), ("freight_amt", .real 0), ("advance_amt", .real 0),
      ("status", .text "pending"), ("created_at", .instant now)]
  | .tyreRecords =>
    [("status", .text "active"), ("created_at", .instant now), ("tread_depth_mm", .real 15),
      ("ply_rating", .int 16), ("opening_km", .int 0), ("current_km", .int 0),
      ("life_km_limit", .int 100000), ("retreading_count", .int 0), ("updated_at", .instant now)]
  | .invoices =>
    [("tax_amount", .real 0), ("paid_amount", .real 0), ("status", .text "unpaid"),
      ("created_at", .instant now)]
  | .reminders =>
    [("due_km", .int 0), ("alert_before_days", .int 15), ("alert_before_km", .int 0),
      ("is_acknowledged", .bool false), ("created_at", .instant now), ("updated_at", .instant now)]
  | .deviceCommands => [("status", .text "Delivered"), ("sent_at", .instant now)]
  | .complaints =>
    [("priority", .text "Medium"), ("status", .text "Open"), ("created_at", .instant now),
      ("updated_at", .instant now)]
  | .fleetTrips =>
    [("freight_amount", .real 0), ("advance_amount", .real 0), ("expense_amount", .real 0),
      ("balance_amount", .real 0), ("status", .text "In Transit"), ("created_at", .instant now),
      ("updated_at", .instant now)]
  | .partyRoutes =>
    [("standard_km", .real 0), ("standard_rate", .real 0), ("billing_rate", .real 0),
      ("created_at", .instant now)]
  | .tempUsers => [("vehicle_ids", .text "[]"), ("created_at", .instant now)]
  | .warrantyRecords =>
    [("warranty_period", .text "1 Year"), ("amc_active", .bool true), ("created_at", .instant now)]
  | .lookupMasters => [("is_default", .bool false), ("created_at", .instant now)]
  | .vehicleGroups => [("created_at", .instant now), ("updated_at", .instant now)]
  | .routes =>
    [("distance_km", .real 0), ("estimated_minutes", .int 0), ("is_active", .bool true),
      ("created_at", .instant now), ("updated_at", .instant now)]
  | .smsConfig => [("enabled", .bool false), ("updated_at", .instant now)]
  | .companySettings =>
    [("idle_threshold_minutes", .int 20), ("speed_threshold_kmh", .int 80),
      ("timezone", .text "Asia/Dubai"), ("language", .text "en"), ("vat_percent", .real 5),
      ("co2_kg_per_litre", .real (2680 / 1000)), ("updated_at", .instant now)]
  | .poi | .fleetParties | .tripVouchers => [("created_at", .instant now)]
  | .vehicleGroupMembers => []

/-- The columns an `INSERT` names, with their values. -/
abbrev Columns : Type := List (String × Option Datum)

/-- The row of an `INSERT`. -/
def Table.row (t : Table) (now : Int) (columns : Columns) : Row Datum := fun c =>
  match columns.lookup c with
  | some value => value
  | none => (t.defaults now).lookup c

/-! ### Columns of a row -/

/-- The number in a column. -/
def realOf (row : Row Datum) (column : String) : Option ℚ :=
  match row column with
  | some (.real x) => some x
  | _ => none

def intOf (row : Row Datum) (column : String) : Option Int :=
  match row column with
  | some (.int n) => some n
  | _ => none

def textOf (row : Row Datum) (column : String) : Option String :=
  match row column with
  | some (.text text) => some text
  | _ => none

def boolOf (row : Row Datum) (column : String) : Option Bool :=
  match row column with
  | some (.bool b) => some b
  | _ => none

def jsonOf (row : Row Datum) (column : String) : Option String :=
  match row column with
  | some (.json text) => some text
  | _ => none

def instantOf (row : Row Datum) (column : String) : Option Int :=
  match row column with
  | some (.instant t) => some t
  | _ => none

/-- `text ILIKE pattern`, for letters whose case is that of ASCII. -/
def ilike : List Char → List Char → Bool
  | [], text => text.isEmpty
  | '%' :: pattern, text => text.tails.any (ilike pattern ·)
  | '_' :: pattern, _ :: text => ilike pattern text
  | '\\' :: c :: pattern, d :: text => c.toLower = d.toLower && ilike pattern text
  | c :: pattern, d :: text => c.toLower = d.toLower && ilike pattern text
  | _ :: _, [] => false

/-- `column ILIKE '%' || name || '%'` -/
def likeName (column name : String) (row : Row Datum) : Bool :=
  (textOf row column).any fun text => ilike ("%" ++ name ++ "%").toList text.toList

/-! ### Expressions of the statements -/

/-- The value a `NUMERIC(n, 2)` column takes: two decimals, halves away from zero. -/
def cents (x : ℚ) : ℚ :=
  if 0 ≤ x then ⌊x * 100 + 1 / 2⌋ / 100 else -(⌊-x * 100 + 1 / 2⌋ / 100)

def money (x : ℚ) : Datum := .real (cents x)

/-- `NULLIF(text, '')` -/
def nonEmpty (text : String) : Option Datum := if text = "" then none else some (.text text)

/-- `NULLIF(n, 0)` -/
def nonZero (n : Int) : Option Datum := if n = 0 then none else some (.int n)

def nonZeroReal (x : ℚ) : Option Datum := if x = 0 then none else some (.real x)

/-- `COALESCE(value, default)` -/
def coalesce (value : Option Datum) (default : Datum) : Option Datum := some (value.getD default)

abbrev Assignment : Type := String × (Row Datum → Option Datum)

/-- `column = value` -/
def setTo (column : String) (value : Option Datum) : Assignment := (column, fun _ => value)

/-- `column = COALESCE(value, column)` -/
def keepUnless (column : String) (value : Option Datum) : Assignment :=
  (column, fun row => value.or (row column))

/-- `column = COALESCE(NULLIF(text, ''), column)` -/
def keepText (column text : String) : Assignment := keepUnless column (nonEmpty text)

/-- `column = CASE WHEN n > 0 THEN n ELSE column END` -/
def keepPositive (column : String) (n : Int) : Assignment :=
  keepUnless column (if n > 0 then some (.int n) else none)

def keepPositiveReal (column : String) (x : ℚ) : Assignment :=
  keepUnless column (if x > 0 then some (.real x) else none)

/-- `column = CASE WHEN x > 0 THEN x ELSE column END`, for a `NUMERIC` column. -/
def keepPositiveMoney (column : String) (x : ℚ) : Assignment :=
  keepUnless column (if x > 0 then some (money x) else none)

/-- `updated_at = NOW()` -/
def touch (now : Int) : Assignment := setTo "updated_at" (some (.instant now))

end RudraNetra.API
