/-
The routes of `internal/handler/routes.go` that change something, behind `Auth`.

The protected group asks for a valid token and for nothing else; only the superadmin's
group asks for a role too.
-/
import RudraNetra.Api.Office
import RudraNetra.Api.Operations
import RudraNetra.Api.Places
import RudraNetra.Api.Registry
import RudraNetra.Api.Users

namespace RudraNetra.API

open SQL Effect

/-- The `POST`, `PUT` and `DELETE` routes of the protected group. -/
inductive Endpoint where
  | changePassword
  | createDevice
  | updateDevice
  | deleteDevice
  | assignDevice
  | updateDeviceConfig
  | createVehicle
  | updateVehicle
  | updateVehicleConfig
  | createDriver
  | updateDriver
  | deleteDriver
  | createGeofence
  | updateGeofence
  | deleteGeofence
  | checkGeofence
  | createPOI
  | updatePOI
  | deletePOI
  | createReminder
  | updateReminder
  | deleteReminder
  | sendDeviceCommand
  | createTempUser
  | deleteTempUser
  | createGroup
  | updateGroup
  | deleteGroup
  | addDevicesToGroup
  | createTrip
  | updateTrip
  | deleteTrip
  | createRoute
  | updateRoute
  | deleteRoute
  | createParty
  | updateParty
  | createLR
  | updateLR
  | createFleetTrip
  | updateFleetTrip
  | createPartyRoute
  | createVoucher
  | createGatePass
  | createTyre
  | updateTyre
  | deleteTyre
  | acknowledgeAlert
  | acknowledgeAllAlerts
  | createAlertRule
  | updateAlertRule
  | deleteAlertRule
  | updateSmsConfig
  | createRFIDTag
  | assignRFID
  | createInvoice
  | updateInvoice
  | createComplaint
  | updateComplaint
  | createMaster
  | updateMaster
  | deleteMaster
  | updateCompanySettings
  deriving DecidableEq

def Endpoint.handler : Endpoint → Handler
  | changePassword => changePasswordHandler
  | createDevice => createDeviceHandler
  | updateDevice => updateDeviceHandler
  | deleteDevice => deleteDeviceHandler
  | assignDevice => assignDeviceHandler
  | updateDeviceConfig => updateDeviceConfigHandler
  | createVehicle => createVehicleHandler
  | updateVehicle => updateVehicleHandler
  | updateVehicleConfig => updateVehicleConfigHandler
  | createDriver => createDriverHandler
  | updateDriver => updateDriverHandler
  | deleteDriver => deleteDriverHandler
  | createGeofence => createGeofenceHandler
  | updateGeofence => updateGeofenceHandler
  | deleteGeofence => deleteGeofenceHandler
  | checkGeofence => checkGeofenceHandler
  | createPOI => createPOIHandler
  | updatePOI => updatePOIHandler
  | deletePOI => deletePOIHandler
  | createReminder => createReminderHandler
  | updateReminder => updateReminderHandler
  | deleteReminder => deleteReminderHandler
  | sendDeviceCommand => sendDeviceCommandHandler
  | createTempUser => createTempUserHandler
  | deleteTempUser => deleteTempUserHandler
  | createGroup => createGroupHandler
  | updateGroup => updateGroupHandler
  | deleteGroup => deleteGroupHandler
  | addDevicesToGroup => addDevicesToGroupHandler
  | createTrip => createTripHandler
  | updateTrip => updateTripHandler
  | deleteTrip => deleteTripHandler
  | createRoute => createRouteHandler
  | updateRoute => updateRouteHandler
  | deleteRoute => deleteRouteHandler
  | createParty => createPartyHandler
  | updateParty => updatePartyHandler
  | createLR => createLRHandler
  | updateLR => updateLRHandler
  | createFleetTrip => createFleetTripHandler
  | updateFleetTrip => updateFleetTripHandler
  | createPartyRoute => createPartyRouteHandler
  | createVoucher => createVoucherHandler
  | createGatePass => createGatePassHandler
  | createTyre => createTyreHandler
  | updateTyre => updateTyreHandler
  | deleteTyre => deleteTyreHandler
  | acknowledgeAlert => acknowledgeAlertHandler
  | acknowledgeAllAlerts => acknowledgeAllAlertsHandler
  | createAlertRule => createAlertRuleHandler
  | updateAlertRule => updateAlertRuleHandler
  | deleteAlertRule => deleteAlertRuleHandler
  | updateSmsConfig => updateSmsConfigHandler
  | createRFIDTag => createRFIDTagHandler
  | assignRFID => assignRFIDHandler
  | createInvoice => createInvoiceHandler
  | updateInvoice => updateInvoiceHandler
  | createComplaint => createComplaintHandler
  | updateComplaint => updateComplaintHandler
  | createMaster => createMasterHandler
  | updateMaster => updateMasterHandler
  | deleteMaster => deleteMasterHandler
  | updateCompanySettings => updateCompanySettingsHandler

/-- Serves a request whose token `Auth` has accepted. -/
def serve (endpoint : Endpoint) (r : Request) : Api Response := endpoint.handler.serve r

/-- The server after a request. -/
def Server.after (s : Server) (endpoint : Endpoint) (r : Request) : Server :=
  (outcome (serve endpoint r) s).2

/-- `RequireRole` of the middleware, for the superadmin's group. -/
def requireRole (roles : List String) : Check := fun r =>
  if r.session.role ∈ roles then none else some (.failure 403 "insufficient permissions")

/-- A handler of the superadmin's group, behind its middleware. -/
def adminRoute (h : Handler) : Handler := { h with checks := requireRole ["superadmin"] :: h.checks }

end RudraNetra.API
