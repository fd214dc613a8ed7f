/-
The superadmin's routes: the mutating handlers of the `/api/v1/admin` group of
`internal/handler/routes.go`.

The group asks for the role of a superadmin before anything else.  Its handlers for masters
are those of the protected group.
-/
import RudraNetra.Api.Routes

namespace RudraNetra.API

open SQL Effect

def createCompanyHandler : Handler where
  checks := [bindJSON, require (fun req => filled "name" req ∧ filled "code" req)
    "name and code are required"]
  work := fun _ _ _ req => do
    let now ← now
    let newID ← insertReturning .companies
      [("name", some (.text (req.text "name"))),
        ("code", some (.text (req.text "code"))),
        ("contact_person", nonEmpty (req.text "contactPerson")),
        ("email", nonEmpty (req.text "contactEmail")),
        ("phone", nonEmpty (req.text "contactPhone")),
        ("database_name", nonEmpty (req.text "dbShard")),
        ("city", nonEmpty (req.text "city")),
        ("address", nonEmpty (req.text "address")),
        ("status", some (.int (if equalFold (req.text "status") "Suspended" then 0 else 1))),
        ("max_devices", nonZero (req.int "maxDevices")),
        ("max_users", nonZero (req.int "maxUsers")),
        ("sira_relay", coalesce ((req.flag "siraRelay").map .bool) (.bool false)),
        ("created_at", some (.instant now)),
        ("updated_at", some (.instant now))]
    let apiKey := "RN-KEY-" ++ req.text "code" ++ "-" ++ twoDigits newID
    let _ ← attempt <| exec <| .update .companies [setTo "api_key" (some (.text apiKey))]
      [("id", .int newID)]
    return ⟨201, [("success", .bool true), ("id", .int newID), ("apiKey", .text apiKey),
      ("message", .text "Company created successfully")]⟩

/-- `SELECT COALESCE(company_id, 0) FROM devices WHERE id = $1`, and the given company if that
gives nothing. -/
def deviceCompany (deviceID companyID : Int) : Api Int := do
  match ← selectFirst .devices (Condition.selects [("id", .int deviceID)]) with
  | some device => return (intOf device "company_id").getD 0
  | none => return companyID

def adminCreateWarrantyHandler : Handler where
  checks := [bindWith (fun req => req.int "deviceId" > 0) "deviceId is required"]
  work := fun _ _ _ req => do
    let companyID ←
      if req.int "companyId" ≤ 0 then deviceCompany (req.int "deviceId") (req.int "companyId")
      else pure (req.int "companyId")
    if companyID ≤ 0 then throw (badRequest "unable to resolve tenant for the device")
    let newID ← insertReturning .warrantyRecords
      [("company_id", some (.int companyID)),
        ("device_id", some (.int (req.int "deviceId"))),
        ("warranty_period", coalesce (nonEmpty (req.text "warrantyPeriod")) (.text "1 Year")),
        ("vendor_name", nonEmpty (req.text "vendorName")),
        ("start_date", req.date "startDate"),
        ("end_date", req.date "endDate"),
        ("amc_active", coalesce ((req.flag "amcActive").map .bool) (.bool false)),
        ("amc_expiry", req.date "amcExpiry"),
        ("remarks", nonEmpty (req.text "remarks"))]
    return .created newID "Hardware warranty & AMC contract registered"

/-- `POST`, `PUT` and `DELETE` routes of the superadmin's group. -/
inductive AdminEndpoint where
  | createCompany
  | updateCompany
  | createUser
  | updateUser
  | createDevice
  | updateDevice
  | createWarranty
  | createBilling
  | createMaster
  | updateMaster
  | deleteMaster
  deriving DecidableEq

/-- What a route does once the role has been checked. -/
def AdminEndpoint.behind : AdminEndpoint → Handler
  | createCompany => createCompanyHandler
  | updateCompany => updateCompanyHandler
  | createUser => adminCreateUserHandler
  | updateUser => adminUpdateUserHandler
  | createDevice => adminCreateDeviceHandler
  | updateDevice => adminUpdateDeviceHandler
  | createWarranty => adminCreateWarrantyHandler
  | createBilling => createBillingHandler
  | createMaster => createMasterHandler
  | updateMaster => updateMasterHandler
  | deleteMaster => deleteMasterHandler

def AdminEndpoint.handler (endpoint : AdminEndpoint) : Handler := adminRoute endpoint.behind

end RudraNetra.API
