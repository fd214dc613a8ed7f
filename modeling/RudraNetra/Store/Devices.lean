/-
The device registry: what `internal/repository/postgres/device_repo.go` and
`lookupDeviceContext` read of it, and what `adminCreateDeviceHandler` and
`deleteDeviceHandler` do to it.
-/
import RudraNetra.Store.Database

namespace RudraNetra

/-- `GetByIMEI`: the id of the device. -/
def Database.deviceByIMEI (db : Database) (imei : List UInt8) : Option Int :=
  (db.devices.find? (·.imei = imei)).map (·.id)

/-- The company a device belongs to; 0 if none. -/
def DeviceRow.owner (d : DeviceRow) : Int := d.companyID.getD 0

/-- `lookupDeviceContext`: the company of a device and the plate of its vehicle.  Nothing is found
of a device that is not there. -/
def Database.lookupDeviceContext (db : Database) (deviceID : Int) : Int × String :=
  match db.devices.find? (·.id = deviceID) with
  | none => (0, "")
  | some d =>
    (d.owner, ((db.vehicles.find? (·.deviceID = some deviceID)).map (·.regNumber)).getD "")

/-- `INSERT INTO devices … ON CONFLICT (imei) DO UPDATE SET company_id =
COALESCE(EXCLUDED.company_id, devices.company_id)`, where `id` is the next id. -/
def Database.upsertDevice (db : Database) (id : Int) (imei : List UInt8) (companyID : Option Int) :
    Database :=
  if db.devices.any (·.imei = imei) then
    { db with devices := db.devices.map fun d =>
        if d.imei = imei then { d with companyID := companyID <|> d.companyID } else d }
  else { db with devices := db.devices ++ [⟨id, companyID, imei, none⟩] }

/-- `DELETE FROM devices WHERE id = $1 AND company_id = $2`; vehicles lose their device. -/
def Database.deleteDevice (db : Database) (id companyID : Int) : Database :=
  let gone (d : DeviceRow) : Bool := d.id = id ∧ d.companyID = some companyID
  if db.devices.any gone then
    { db with
      devices := db.devices.filter (!gone ·)
      vehicles := db.vehicles.map fun v =>
        if v.deviceID = some id then { v with deviceID := none } else v }
  else db

/-- The device with an id belongs to a company. -/
def Database.Owns (devices : List DeviceRow) (companyID deviceID : Int) : Prop :=
  ∃ d ∈ devices, d.id = deviceID ∧ d.owner = companyID

/-- The device with an id is there. -/
def Database.Has (devices : List DeviceRow) (deviceID : Int) : Prop :=
  ∃ d ∈ devices, d.id = deviceID

end RudraNetra
