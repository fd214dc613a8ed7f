/-
Devices, vehicles, drivers and groups: the mutating handlers of
`internal/handler/handlers.go` and `internal/handler/handlers_ops.go` for them.
-/
import RudraNetra.Api.Server

namespace RudraNetra.API

open SQL Effect

/-! ### Devices -/

/-- "registers a tracker.  Unspecified columns are left to the database defaults" -/
def createDeviceHandler : Handler where
  checks := [companyScope, bindJSON, require (filled "imei") "imei is required"]
  work := fun _ companyID _ req => do
    let newID ← insertReturning .devices
      [("company_id", some (.int companyID)), ("imei", some (.text (req.text "imei")))]
    let now ← now
    let _ ← attempt <| exec <| .update .devices
      [keepText "device_type" (req.text "protocol"),
        keepText "sim_no" (req.text "simNo"),
        keepText "sim_operator" (req.text "simOperator"),
        keepPositive "port" (req.int "port"),
        keepText "firmware_ver" (req.text "firmware"),
        keepUnless "warranty_end" (req.date "warrantyEnd"),
        touch now]
      [("id", .int newID)]
    if req.text "assignedVehicle" ≠ "" then
      let _ ← attempt <| exec <| .update .vehicles
        [setTo "device_id" (some (.int newID)), touch now]
        [("reg_number", .text (req.text "assignedVehicle")), ("company_id", .int companyID)]
    return .created newID "Device registered successfully"

def updateDeviceHandler : Handler :=
  updateRow [companyScope, pathID "invalid device id", bindJSON] .devices
    (fun now req =>
      [keepText "device_type" (req.text "protocol"),
        keepText "sim_no" (req.text "simNo"),
        keepText "sim_operator" (req.text "simOperator"),
        keepPositive "port" (req.int "port"),
        keepText "status" (req.text "status"),
        keepText "firmware_ver" (req.text "firmware"),
        keepUnless "warranty_end" (req.date "warrantyEnd"),
        touch now])
    "device not found for this organization" "Device updated"

def deleteDeviceHandler : Handler := deleteRow .devices "invalid device id" "Device deleted"

/-- The vehicle a device is to be assigned to: named by its id, or by its registration number. -/
def targetVehicle (companyID : Int) (req : Fields) : Api (Option Int) :=
  if req.int "vehicleId" > 0 then return some (req.int "vehicleId")
  else do
    let row ← selectFirst .vehicles <| Condition.selects
      [("reg_number", .text (req.text "vehicleReg")), ("company_id", .int companyID)]
    return row.bind (intOf · "id")

/-- Takes the device from the company's vehicles and gives it to one of them. -/
def reassign (companyID id vehicleID : Int) : Api Unit := do
  let _ ← exec <| .update .vehicles [setTo "device_id" none]
    [("device_id", .int id), ("company_id", .int companyID)]
  let affected ← exec <| .update .vehicles
    [setTo "device_id" (some (.int id)), touch (← now)] (ownRow vehicleID companyID)
  if affected = 0 then throw (notFound "vehicle not found")

def assignDeviceHandler : Handler where
  checks := [companyScope, pathID "invalid device id", bindJSON,
    require (fun req => req.int "vehicleId" > 0 ∨ req.text "vehicleReg" ≠ "")
      "vehicleId or vehicleReg is required"]
  work := fun _ companyID id req => do
    match ← targetVehicle companyID req with
    | none => throw (notFound "vehicle not found")
    | some vehicleID =>
      transaction (reassign companyID id vehicleID)
      return .ok "Device assigned to vehicle"

def updateDeviceConfigHandler : Handler where
  checks := [companyScope, pathID "invalid device id", bindJSON]
  work := fun _ companyID id req => do
    let now ← now
    let _ ← exec <| .update .devices
      [keepText "device_type" (req.text "protocol"),
        keepText "firmware_ver" (req.text "firmware"),
        keepPositive "port" (req.int "port"),
        touch now]
      (ownRow id companyID)
    if req.int "idleThresholdMinutes" > 0 ∨ req.int "speedThresholdKmh" > 0 then
      let _ ← attempt <| exec <| .update .companySettings
        [keepPositive "idle_threshold_minutes" (req.int "idleThresholdMinutes"),
          keepPositive "speed_threshold_kmh" (req.int "speedThresholdKmh"),
          touch now]
        [("company_id", .int companyID)]
    return .ok "Device configuration updated"

/-- `strconv.Atoi` -/
def atoi (text : List Char) : Option Int :=
  let number (digits : List Char) : Option Nat :=
    if digits.isEmpty || !digits.all Char.isDigit then none
    else some (digits.foldl (fun n c => n * 10 + (c.toNat - '0'.toNat)) 0)
  let value : Option Int :=
    match text with
    | '-' :: digits => (number digits).map fun n => -n
    | '+' :: digits => (number digits).map fun n => n
    | digits => (number digits).map fun n => n
  value.filter fun n => -2 ^ 63 ≤ n ∧ n < 2 ^ 63

/-- "Ports are parsed from the protocol string when provided" -/
def portOf (protocol : String) : Option Int :=
  let text := protocol.toList
  let text := if "TCP/".toList.isPrefixOf text then text.drop 4 else text
  (atoi text).filter (· > 0)

/-- The company whose name has this in it; which one, if there are several, is left open. -/
def companyNamed (name : String) : Api (Option Int) :=
  if name ≠ "" then do
    let row ← selectFirst .companies (likeName "name" name)
    return row.bind (intOf · "id")
  else return none

/-- Provisions a tracker for any company, or changes the one with this IMEI. -/
def adminCreateDeviceHandler : Handler where
  checks := [bindWith (filled "imei") "imei is required"]
  work := fun _ _ _ req => do
    let companyID ← companyNamed (req.text "companyName")
    let port : Datum := .int ((portOf (req.text "protocol")).getD 5040)
    let newID ← insertOrUpdateReturning .devices
      [("imei", some (.text (req.text "imei"))),
        ("sim_no", nonEmpty (req.text "simCardNo")),
        ("sim_operator", nonEmpty (req.text "operator")),
        ("device_type", nonEmpty (req.text "model")),
        ("firmware_ver", nonEmpty (req.text "firmware")),
        ("company_id", companyID.map .int),
        ("status", some (.text "active")),
        ("port", some port)]
      ["imei"]
      [keepText "sim_no" (req.text "simCardNo"),
        keepText "sim_operator" (req.text "operator"),
        keepText "device_type" (req.text "model"),
        keepText "firmware_ver" (req.text "firmware"),
        keepUnless "company_id" (companyID.map .int),
        setTo "port" (some port),
        touch (← now)]
    return .created newID "Hardware tracker provisioned"

def adminUpdateDeviceHandler : Handler where
  checks := [pathID "invalid device id", bindJSON]
  work := fun _ _ id req => do
    let affected ← exec <| .update .devices
      [keepText "sim_no" (req.text "simCardNo"),
        keepText "sim_operator" (req.text "operator"),
        keepText "firmware_ver" (req.text "firmware"),
        keepText "status" (req.text "status").toLower,
        touch (← now)]
      [("id", .int id)]
    if affected = 0 then throw (notFound "device not found")
    return .ok "Device configuration updated"

/-! ### Vehicles -/

def createVehicleHandler : Handler :=
  createRow [companyScope, bindJSON, require (filled "regNumber") "regNumber is required"]
    .vehicles
    (fun _ req =>
      [("reg_number", some (.text (req.text "regNumber"))),
        ("make", nonEmpty (req.text "make")),
        ("model", nonEmpty (req.text "model")),
        ("variant", nonEmpty (req.text "variant")),
        ("body_type", nonEmpty (req.text "bodyType")),
        ("fuel_type", nonEmpty (req.text "fuelType")),
        ("fuel_capacity", nonZeroReal (req.real "fuelCapacity")),
        ("max_speed", nonZero (req.int "maxSpeed")),
        ("odometer", some (.int (req.int "odometer"))),
        ("icon_type", nonEmpty (req.text "iconType")),
        ("device_id", if req.int "deviceId" > 0 then some (.int (req.int "deviceId")) else none)])
    "Vehicle created successfully"

def updateVehicleHandler : Handler :=
  updateRow [companyScope, pathID "invalid vehicle id", bindJSON] .vehicles
    (fun now req =>
      [keepText "reg_number" (req.text "regNumber"),
        keepText "make" (req.text "make"),
        keepText "model" (req.text "model"),
        keepText "variant" (req.text "variant"),
        keepText "body_type" (req.text "bodyType"),
        keepText "fuel_type" (req.text "fuelType"),
        keepPositiveReal "fuel_capacity" (req.real "fuelCapacity"),
        keepPositive "max_speed" (req.int "maxSpeed"),
        keepPositive "odometer" (req.int "odometer"),
        keepText "icon_type" (req.text "iconType"),
        keepUnless "device_id" (nonZero (req.int "deviceId")),
        touch now])
    "vehicle not found for this organization" "Vehicle updated"

def updateVehicleConfigHandler : Handler where
  checks := [companyScope, pathID "invalid vehicle id", bindJSON]
  work := fun _ companyID id req => do
    let _ ← exec <| .update .vehicles
      [keepPositive "max_speed" (req.int "maxSpeed"),
        keepPositiveReal "fuel_capacity" (req.real "fuelCapacity"),
        keepText "icon_type" (req.text "iconType"),
        touch (← now)]
      (ownRow id companyID)
    return .ok "Vehicle configuration updated"

/-! ### Drivers -/

/-- The vehicle a new driver gets, if the request names one. -/
def assignedVehicle (companyID : Int) (req : Fields) : Api (Option Int) :=
  if req.int "assignedVehicleId" > 0 then return some (req.int "assignedVehicleId")
  else if req.text "assignedVehicle" ≠ "" then do
    let row ← selectFirst .vehicles <| Condition.selects
      [("reg_number", .text (req.text "assignedVehicle")), ("company_id", .int companyID)]
    return row.bind (intOf · "id")
  else return none

def createDriverHandler : Handler where
  checks := [companyScope, bindJSON, require (filled "name") "name is required"]
  work := fun _ companyID _ req => do
    let vID ← assignedVehicle companyID req
    let newID ← insertReturning .drivers
      [("company_id", some (.int companyID)),
        ("name", some (.text (req.text "name"))),
        ("phone", nonEmpty (req.text "phone")),
        ("license_no", nonEmpty (req.text "licenseNo")),
        ("license_expiry", req.date "licenseExpiry"),
        ("rfid_tag", nonEmpty (req.text "rfidTag")),
        ("assigned_vehicle_id", vID.map .int),
        ("status", coalesce (nonEmpty (req.text "status")) (.text "active"))]
    return .created newID "Driver added successfully"

def updateDriverHandler : Handler :=
  updateRow [companyScope, pathID "invalid driver id", bindJSON] .drivers
    (fun now req =>
      [keepText "name" (req.text "name"),
        keepText "phone" (req.text "phone"),
        keepText "license_no" (req.text "licenseNo"),
        keepUnless "license_expiry" (req.date "licenseExpiry"),
        keepText "rfid_tag" (req.text "rfidTag"),
        keepText "status" (req.text "status"),
        keepUnless "assigned_vehicle_id" (nonZero (req.int "assignedVehicleId")),
        touch now])
    "driver not found for this organization" "Driver updated"

def deleteDriverHandler : Handler := deleteRow .drivers "invalid driver id" "Driver deleted"

/-- Registers a tag with one of the company's drivers; `assignRFIDHandler` does the same. -/
def createRFIDTagHandler : Handler where
  checks := [companyScope,
    bindWith (fun req => req.int "driverId" > 0 ∧ filled "tag" req) "driverId and tag are required"]
  work := fun _ companyID _ req => do
    let affected ← exec <| .update .drivers
      [setTo "rfid_tag" (some (.text (req.text "tag"))), touch (← now)]
      (ownRow (req.int "driverId") companyID)
    if affected = 0 then throw (notFound "driver not found for this organization")
    return ⟨201, [("success", .bool true), ("message", .text "RFID tag registered")]⟩

def assignRFIDHandler : Handler := createRFIDTagHandler

/-! ### Groups -/

/-- `INSERT INTO vehicle_group_members (group_id, vehicle_id) VALUES ($1,$2)
ON CONFLICT DO NOTHING`, whose error is not looked at. -/
def addMember (groupID vehicleID : Int) : Api Unit := do
  let _ ← attempt <| exec <| .insertOrIgnore .vehicleGroupMembers <|
    Table.row .vehicleGroupMembers (← now)
      [("group_id", some (.int groupID)), ("vehicle_id", some (.int vehicleID))]

def createGroupHandler : Handler where
  checks := [companyScope, bindWith (filled "name") "name is required"]
  work := fun _ companyID _ req => do
    let newID ← transaction do
      let newID ← insertReturning .vehicleGroups
        [("company_id", some (.int companyID)), ("name", some (.text (req.text "name"))),
          ("description", nonEmpty (req.text "description"))]
      ((req.ints "vehicleIds").getD []).forM (addMember newID)
      return newID
    return .created newID "Group created"

def updateGroupHandler : Handler where
  checks := [companyScope, pathID "invalid group id", bindJSON]
  work := fun _ companyID id req => do
    let _ ← exec <| .update .vehicleGroups
      [keepText "name" (req.text "name"), keepText "description" (req.text "description"),
        touch (← now)]
      (ownRow id companyID)
    match req.ints "vehicleIds" with
    | none => pure ()
    | some vehicleIDs =>
      -- Neither statement asks whose group this is.
      let _ ← exec <| .delete .vehicleGroupMembers [("group_id", .int id)]
      vehicleIDs.forM (addMember id)
    return .ok "Group updated"

def deleteGroupHandler : Handler := deleteRow .vehicleGroups "invalid group id" "Group deleted"

def addDevicesToGroupHandler : Handler where
  checks := [companyScope, pathID "invalid group id", bindJSON]
  work := fun _ companyID id req => do
    ((req.ints "vehicleIds").getD []).forM fun vehicleID => do
      -- `SELECT $1, v.id FROM vehicles v WHERE v.id = $2 AND v.company_id = $3`
      let vehicles := (← get).db.tables .vehicles
      if vehicles.any (Condition.selects (ownRow vehicleID companyID)) then
        addMember id vehicleID
    return .ok "Vehicles added to group"

end RudraNetra.API
