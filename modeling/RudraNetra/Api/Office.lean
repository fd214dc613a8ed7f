/-
Commands, reminders, guest links, alerts, masters, settings and companies: the mutating handlers
of `internal/handler/legacy_handlers.go`, `internal/handler/handlers_ops.go`,
`internal/handler/handlers_settings.go` and `internal/handler/handlers_admin.go` for them, and
how the vehicles of a guest link and the form of the SMS gateway are read.

The handlers of masters are shared with the superadmin's routes.  They take the tenant
scope where there is one, and do not insist on it.
-/
import RudraNetra.Api.Server
import RudraNetra.Lib.GoStrings

namespace RudraNetra.API

open SQL Effect

/-! ### Commands to devices -/

/-- Whether a type of command needs the immobilizer PIN. -/
def needsPin (req : Fields) : Bool :=
  req.text "commandType" = "IEngineOff" ∨ req.text "commandType" = "IDoorOff"

/-- The tenant's PIN is set, and the request names it. -/
def pinMatches (companyID : Int) (req : Fields) : Api Bool := do
  let settings ← selectFirst .companySettings <| Condition.selects [("company_id", .int companyID)]
  let pin := (settings.bind (textOf · "immobilizer_pin")).getD ""
  return pin ≠ "" ∧ req.text "pin" = pin

def sendDeviceCommandHandler : Handler where
  checks := [companyScope, pathID "invalid device id",
    bindWith (filled "commandType") "commandType is required"]
  work := fun r companyID deviceID req => do
    if needsPin req then
      if !(← pinMatches companyID req) then
        throw (.failure 401 "Invalid authorization security PIN for immobilizer command")
    match ← selectFirst .devices (Condition.selects (ownRow deviceID companyID)) with
    | none => throw (notFound "device not found for this organization")
    | some device =>
      let rawCmd := commandPayload (req.text "commandType")
      let vehicle := ((← get).db.tables .vehicles).find? <| Condition.selects
        [("device_id", .int deviceID), ("company_id", .int companyID)]
      let newID ← insertReturning .deviceCommands
        [("company_id", some (.int companyID)),
          ("device_id", some (.int deviceID)),
          ("vehicle_id", (vehicle.bind (intOf · "id")).map .int),
          ("command_type", some (.text (req.text "commandType"))),
          ("command_payload", some (.text rawCmd)),
          ("sent_by", nonEmpty r.session.username),
          ("status", some (.text "Sent"))]
      let delivered ← publish ⟨device "imei", newID, rawCmd⟩
      let message :=
        if delivered then
          "Command '" ++ req.text "commandType" ++ "' sent to the device gateway for delivery."
        else
          "Command '" ++ req.text "commandType" ++
            "' is queued for delivery to the hardware unit."
      return ⟨200, [("success", .bool true), ("commandId", .int newID),
        ("commandType", .text (req.text "commandType")), ("rawCommand", .text rawCmd),
        ("status", .text "Sent"), ("queued", .bool delivered), ("message", .text message)]⟩

/-! ### Reminders -/

def createReminderHandler : Handler :=
  createRow [companyScope, bindJSON,
      require (fun req => filled "reminderType" req ∧ req.text "dueDate" ≠ "")
        "reminderType and dueDate are required",
      require (fun req => (req.date "dueDate").isSome) "dueDate must be formatted YYYY-MM-DD"]
    .reminders
    (fun _ req =>
      [("vehicle_id", nonZero (req.int "vehicleId")),
        ("reminder_type", some (.text (req.text "reminderType"))),
        ("due_date", req.date "dueDate"),
        ("due_km", some (.int (req.int "dueKm"))),
        ("alert_before_days", nonZero (req.int "alertBeforeDays")),
        ("alert_before_km", some (.int (req.int "alertBeforeKm"))),
        ("notes", nonEmpty (req.text "notes"))])
    "Compliance reminder scheduled successfully"

def updateReminderHandler : Handler :=
  updateRow [companyScope, pathID "invalid reminder id", bindJSON] .reminders
    (fun now req =>
      [keepUnless "is_acknowledged" ((req.flag "isAcknowledged").map .bool),
        keepUnless "due_date" (req.date "dueDate"),
        keepText "notes" (req.text "notes"),
        keepPositive "alert_before_days" (req.int "alertBeforeDays"),
        touch now])
    "reminder not found for this organization" "Reminder updated"

def deleteReminderHandler : Handler :=
  deleteRow .reminders "invalid reminder id" "Reminder removed"

/-! ### Guest links -/

/-- The vehicles of a guest link, as JSON text. -/
def vehicleListJSON (vehicles : List String) : String :=
  "[" ++ String.intercalate "," (vehicles.map fun v => "\"" ++ v.replace "\"" "" ++ "\"") ++ "]"

/-- The vehicles of a guest link, as its text is read. -/
def parseVehicleIDs (raw : String) : List String :=
  let trimmed := Go.trimSuffix (Go.trimPrefix (Go.trim isSpace raw) "[") "]"
  if isBlank trimmed then []
  else
    ((Go.split trimmed ',').map fun part => Go.trim (· = '"') (Go.trim isSpace part)).filter
      (· ≠ "")

example : parseVehicleIDs " [\"KA 01\", MH-02,\"\"]" = ["KA 01", "MH-02"] := by decide +kernel

/-- The `vehicleIds` of a guest link in the list of them. -/
def listedVehicleIDs (row : Row Datum) : List String :=
  parseVehicleIDs ((textOf row "vehicle_ids").getD "[]")

def createTempUserHandler : Handler where
  checks := [companyScope, bindWith (filled "guestName") "guestName is required",
    require (fun req => req.int "durationHours" > 0)
      "durationHours must be a positive number of hours"]
  work := fun _ companyID _ req => do
    let token := "gst_" ++ (← get).random
    let expiresAt := (← now) + req.int "durationHours" * (3600 * 10 ^ 9)
    let newID ← insertReturning .tempUsers
      [("company_id", some (.int companyID)),
        ("guest_name", some (.text (req.text "guestName"))),
        ("access_token", some (.text token)),
        ("vehicle_ids", some (.text (vehicleListJSON (req.texts "vehicleIds")))),
        ("expires_at", some (.instant expiresAt))]
    return ⟨201, [("success", .bool true), ("id", .int newID), ("accessToken", .text token),
      ("shareLink", .text ("/live?guest_token=" ++ token)), ("expiresAt", .instant expiresAt),
      ("message", .text "Temporary guest tracking link created successfully")]⟩

def deleteTempUserHandler : Handler :=
  deleteRow .tempUsers "invalid guest id" "Guest access revoked"

/-! ### Alerts and their rules -/

/-- `acknowledged = TRUE, acknowledged_by = NULLIF($1, 0)` -/
def acknowledge (userID : Int) : List Assignment :=
  [setTo "acknowledged" (some (.bool true)), setTo "acknowledged_by" (nonZero userID)]

def acknowledgeAlertHandler : Handler where
  checks := [companyScope, pathID "invalid alert id"]
  work := fun r companyID id _ => do
    let affected ← exec <| .update .alerts (acknowledge r.session.userID) (ownRow id companyID)
    if affected = 0 then throw (notFound "alert not found for this organization")
    return .ok "Alert acknowledged"

def acknowledgeAllAlertsHandler : Handler where
  checks := [companyScope]
  work := fun r companyID _ _ => do
    let affected ← exec <| .update .alerts (acknowledge r.session.userID)
      [("company_id", .int companyID), ("acknowledged", .bool false)]
    return ⟨200, [("success", .bool true), ("acknowledged", .int affected),
      ("message", .text "All alerts acknowledged")]⟩

def createAlertRuleHandler : Handler :=
  createRow [companyScope,
      bindWith (fun req => filled "name" req ∧ filled "type" req) "name and type are required"]
    .alertRules
    (fun _ req =>
      [("name", some (.text (req.text "name"))),
        ("type", some (.text (req.text "type"))),
        ("description", nonEmpty (req.text "description")),
        -- An absent configuration is marshalled too.
        ("config", some (.json ((req.json "config").getD "null"))),
        ("sms_enabled", some (.bool ((req.flag "smsEnabled").getD false))),
        ("email_enabled", some (.bool ((req.flag "emailEnabled").getD false))),
        ("sms_template", nonEmpty (req.text "smsTemplate")),
        ("is_active", coalesce ((req.flag "isActive").map .bool) (.bool true))])
    "Alert rule created"

def updateAlertRuleHandler : Handler :=
  updateRow [companyScope, pathID "invalid rule id", bindJSON] .alertRules
    (fun _ req =>
      [keepText "name" (req.text "name"),
        keepText "description" (req.text "description"),
        keepUnless "config" ((req.json "config").map .json),
        keepUnless "sms_enabled" ((req.flag "smsEnabled").map .bool),
        keepUnless "email_enabled" ((req.flag "emailEnabled").map .bool),
        keepText "sms_template" (req.text "smsTemplate"),
        keepUnless "is_active" ((req.flag "isActive").map .bool)])
    "rule not found for this organization" "Alert rule updated"

def deleteAlertRuleHandler : Handler :=
  deleteRow .alertRules "invalid rule id" "Alert rule deleted"

/-- The gateway as `getSmsConfigHandler` returns it. -/
structure SmsConfig where
  provider : String
  senderID : String
  apiKey : List UInt8
  enabled : Bool

/-- "Mask the stored key": all of its bytes but the last four. -/
def maskedKey (apiKey : List UInt8) : List UInt8 :=
  if apiKey.length > 4 then
    List.replicate (apiKey.length - 4) 0x2A ++ apiKey.drop (apiKey.length - 4)
  else []

def getSmsConfigHandler (r : Request) : Api SmsConfig := do
  if !(← get).pool then throw (.failure 503 "database unavailable")
  match companyScope r with
  | some error => throw error
  | none =>
    let row ← selectFirst .smsConfig <|
      Condition.selects [("company_id", .int (getEffectiveCompanyID r))]
    match row with
    | none => return ⟨"", "", [], false⟩
    | some row =>
      return {
        provider := (textOf row "provider").getD ""
        senderID := (textOf row "sender_id").getD ""
        apiKey := maskedKey (Go.bytesOf ((textOf row "api_key").getD ""))
        enabled := (boolOf row "enabled").getD false }

/-- Whether an API key is a new one: not empty, and not masked. -/
def newKey (key : String) : Bool :=
  key ≠ "" ∧ !ilike "%****%".toList key.toList

def updateSmsConfigHandler : Handler where
  checks := [companyScope, bindJSON]
  work := fun _ companyID _ req => do
    let now ← now
    let _ ← exec <| .insertOrUpdate .smsConfig
      (Table.row .smsConfig now
        [("company_id", some (.int companyID)),
          ("provider", nonEmpty (req.text "provider")),
          ("sender_id", nonEmpty (req.text "senderId")),
          ("api_key", nonEmpty (req.text "apiKey")),
          ("enabled", coalesce ((req.flag "enabled").map .bool) (.bool false)),
          ("updated_at", some (.instant now))])
      ["company_id"]
      [keepText "provider" (req.text "provider"),
        keepText "sender_id" (req.text "senderId"),
        keepUnless "api_key"
          (if newKey (req.text "apiKey") then some (.text (req.text "apiKey")) else none),
        keepUnless "enabled" ((req.flag "enabled").map .bool),
        touch now]
    return .ok "SMS gateway configuration updated"

/-! ### Masters -/

/-- `UPDATE lookup_masters SET is_default = FALSE WHERE category = $1`, whose error is not
looked at. -/
def clearDefaults (category : String) : Api Unit := do
  let _ ← attempt <| exec <| .update .lookupMasters [setTo "is_default" (some (.bool false))]
    [("category", .text category)]

def createMasterHandler : Handler where
  checks := [bindWith (fun req => filled "code" req ∧ filled "name" req)
    "code and name are required"]
  work := fun r companyID _ req => do
    let isDefault := (req.flag "isDefault").getD false
    if isDefault then clearDefaults r.type
    let newID ← insertReturning .lookupMasters
      [("company_id", if companyID > 0 then some (.int companyID) else none),
        ("category", some (.text r.type)),
        ("code", some (.text (req.text "code"))),
        ("name", some (.text (req.text "name"))),
        ("is_default", some (.bool isDefault))]
    return .created newID "Master record created"

/-- The columns an update of a master sets. -/
def masterAssignments (req : Fields) : List Assignment :=
  [keepText "code" (req.text "code"), keepText "name" (req.text "name"),
    keepUnless "is_default" ((req.flag "isDefault").map .bool)]

def updateMasterHandler : Handler where
  checks := [pathID "invalid master id", bindJSON]
  work := fun _ _ id req => do
    if req.flag "isDefault" = some true then
      let row ← selectFirst .lookupMasters <| Condition.selects [("id", .int id)]
      match row.bind (textOf · "category") with
      | some category => clearDefaults category
      | none => pure ()
    let affected ← exec <| .update .lookupMasters (masterAssignments req) [("id", .int id)]
    if affected = 0 then throw (notFound "master record not found")
    return .ok "Master record updated"

def deleteMasterHandler : Handler where
  checks := [pathID "invalid master id"]
  work := fun _ _ id _ => do
    let _ ← exec <| .delete .lookupMasters [("id", .int id)]
    return .ok "Master record deleted"

/-! ### Organization settings -/

/-- The roles that may change the settings. -/
def settingsRole : Check := fun r =>
  if r.session.role ∈ ["admin", "manager", "superadmin"] then none
  else some (.failure 403 "insufficient permissions to change organization settings")

def updateCompanySettingsHandler : Handler where
  checks := [companyScope, settingsRole, bindJSON]
  work := fun _ companyID _ req => do
    let now ← now
    let _ ← exec <| .update .companies
      [keepText "name" (req.text "companyName"),
        keepText "contact_person" (req.text "contactPerson"),
        keepText "email" (req.text "contactEmail"),
        keepText "phone" (req.text "contactPhone"),
        keepText "city" (req.text "city"),
        keepText "address" (req.text "address"),
        touch now]
      [("id", .int companyID)]
    let vat := if req.real "vatPercent" = 0 then none else some (money (req.real "vatPercent"))
    let _ ← exec <| .insertOrUpdate .companySettings
      (Table.row .companySettings now
        [("company_id", some (.int companyID)),
          ("idle_threshold_minutes", nonZero (req.int "idleThresholdMinutes")),
          ("speed_threshold_kmh", nonZero (req.int "speedThresholdKmh")),
          ("timezone", nonEmpty (req.text "timezone")),
          ("language", nonEmpty (req.text "language")),
          ("vat_percent", vat),
          ("updated_at", some (.instant now))])
      ["company_id"]
      [keepUnless "idle_threshold_minutes" (nonZero (req.int "idleThresholdMinutes")),
        keepUnless "speed_threshold_kmh" (nonZero (req.int "speedThresholdKmh")),
        keepText "timezone" (req.text "timezone"),
        keepText "language" (req.text "language"),
        keepUnless "vat_percent" vat,
        touch now]
    return .ok "Organization settings saved"

/-! ### Companies -/

/-- `strings.EqualFold`, for an ASCII text on the right. -/
def equalFold (text ascii : String) : Bool :=
  -- The long s and the Kelvin sign are the only letters beyond ASCII that fold into it.
  let fold (c : Char) : Char := if c = 'ſ' then 's' else if c = 'K' then 'k' else c.toLower
  text.toList.map fold = ascii.toList.map fold

/-- `%02d` -/
def twoDigits (n : Int) : String :=
  let digits := toString n
  "".pushn '0' (2 - digits.length) ++ digits

/-- "Status is only changed when explicitly provided." -/
def companyStatus (status : String) : Option Int :=
  if status = "" then none else some (if equalFold status "Suspended" then 0 else 1)

def updateCompanyHandler : Handler where
  checks := [pathID "invalid company id", bindJSON]
  work := fun _ _ id req => do
    let affected ← exec <| .update .companies
      [keepText "name" (req.text "name"),
        keepText "code" (req.text "code"),
        keepText "contact_person" (req.text "contactPerson"),
        keepText "email" (req.text "contactEmail"),
        keepText "phone" (req.text "contactPhone"),
        keepText "database_name" (req.text "dbShard"),
        keepText "city" (req.text "city"),
        keepText "address" (req.text "address"),
        keepUnless "status" ((companyStatus (req.text "status")).map .int),
        keepUnless "max_devices" (nonZero (req.int "maxDevices")),
        keepUnless "max_users" (nonZero (req.int "maxUsers")),
        keepUnless "sira_relay" ((req.flag "siraRelay").map .bool),
        touch (← now)]
      [("id", .int id)]
    if affected = 0 then throw (notFound "company not found")
    if req.flag "regenerateKey" = some true then
      let row ← selectFirst .companies <| Condition.selects [("id", .int id)]
      match row.bind (textOf · "code") with
      | none => return .ok "Company updated successfully"
      | some code =>
        let unix := (← now) / 10 ^ 9
        let apiKey := "RN-KEY-" ++ code ++ "-" ++ twoDigits id ++ "-" ++ toString (unix % 10000)
        match ← attempt <| exec <| .update .companies [setTo "api_key" (some (.text apiKey))]
            [("id", .int id)] with
        | none => return .ok "Company updated successfully"
        | some _ =>
          return ⟨200, [("success", .bool true), ("message", .text "Company updated successfully"),
            ("apiKey", .text apiKey)]⟩
    else return .ok "Company updated successfully"

end RudraNetra.API
