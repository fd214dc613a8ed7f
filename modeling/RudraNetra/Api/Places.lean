/-
Zones, points of interest, trips and routes: the mutating handlers of
`internal/handler/handlers_ops.go` for them.
-/
import RudraNetra.Api.Server

namespace RudraNetra.API

open SQL Effect

/-! ### Geofences -/

/-- The geometry of a zone: a GeoJSON text, or a polygon given by its corners. -/
def parseGeofenceGeometry (req : Fields) : Except String Datum :=
  if req.text "geoJson" ≠ "" then
    match req.geoJSON (req.text "geoJson") with
    | none => .error "geoJson must be a valid GeoJSON polygon"
    | some (type, geometry) =>
      if type = "Feature" then
        match geometry with
        | some geometry => .ok (.geometry geometry)
        | none => .error "geoJson feature has no geometry"
      else if type ≠ "Polygon" ∧ type ≠ "MultiPolygon" then .error "geoJson must be a Polygon"
      else .ok (.geometry (req.text "geoJson"))
  else if req.coordinates.length ≥ 3 then .ok (.polygon req.coordinates)
  else .error "geoJson polygon or coordinates array is required"

/-- Whether an update brings a geometry. -/
def hasGeometry (req : Fields) : Bool := req.text "geoJson" ≠ "" ∨ req.coordinates.length ≥ 3

/-- The geometry has to be a zone's, if the request is to have one. -/
def geometryCheck (needed : Fields → Bool) : Check := fun r =>
  match parseGeofenceGeometry r.fields with
  | .error message => if needed r.fields then some (badRequest message) else none
  | .ok _ => none

def createGeofenceHandler : Handler :=
  createRow [companyScope, bindJSON, require (filled "name") "name is required",
      geometryCheck fun _ => true]
    .geofences
    (fun _ req =>
      [("name", some (.text (req.text "name"))),
        ("type", coalesce (nonEmpty (req.text "type")) (.text "zone")),
        ("speed_limit", nonZero (req.int "speedLimit")),
        ("alert_on_enter", coalesce ((req.flag "alertOnEnter").map .bool) (.bool true)),
        ("alert_on_exit", coalesce ((req.flag "alertOnExit").map .bool) (.bool true)),
        ("is_active", coalesce ((req.flag "isActive").map .bool) (.bool true)),
        ("geom", (parseGeofenceGeometry req).toOption)])
    "Zone created successfully"

def updateGeofenceHandler : Handler :=
  updateRow [companyScope, pathID "invalid zone id", bindJSON, geometryCheck hasGeometry]
    .geofences
    (fun now req =>
      [keepText "name" (req.text "name"),
        keepText "type" (req.text "type"),
        keepPositive "speed_limit" (req.int "speedLimit"),
        keepUnless "alert_on_enter" ((req.flag "alertOnEnter").map .bool),
        keepUnless "alert_on_exit" ((req.flag "alertOnExit").map .bool),
        keepUnless "is_active" ((req.flag "isActive").map .bool),
        keepUnless "geom" (if hasGeometry req then (parseGeofenceGeometry req).toOption else none),
        touch now])
    "zone not found for this organization" "Zone updated"

def deleteGeofenceHandler : Handler := deleteRow .geofences "invalid zone id" "Zone deleted"

/-- A zone of the answer to a check. -/
def zoneHit (row : Row Datum) : List (String × Datum) :=
  [("id", (row "id").getD (.int 0)), ("name", (row "name").getD (.text "")),
    ("speedLimit", (row "speed_limit").getD (.int 0))]

/-- The active zones a point is in. -/
def checkGeofenceHandler : Handler where
  checks := [companyScope,
    bindWith (fun req => ¬(req.real "lat" = 0 ∧ req.real "lng" = 0)) "lat and lng are required"]
  work := fun _ companyID _ req => do
    let contains := (← get).contains
    let rows ← selectAll .geofences fun row =>
      Condition.selects [("company_id", .int companyID), ("is_active", .bool true)] row &&
        (row "geom").any (contains · (req.real "lng") (req.real "lat"))
    return ⟨200, [("success", .bool true), ("is_inside", .bool !rows.isEmpty)] ++
      rows.flatMap zoneHit⟩

/-! ### POI -/

def createPOIHandler : Handler :=
  createRow [companyScope, bindJSON,
      require (fun req => ¬(req.text "name" = "" ∨ req.real "lat" = 0 ∧ req.real "lng" = 0))
        "name, lat and lng are required"]
    .poi
    (fun _ req =>
      [("name", some (.text (req.text "name"))),
        ("category", nonEmpty (req.text "category")),
        ("address", nonEmpty (req.text "address")),
        ("phone", nonEmpty (req.text "phone")),
        ("location", some (.point (req.real "lng") (req.real "lat")))])
    "POI created"

def updatePOIHandler : Handler :=
  updateRow [companyScope, pathID "invalid POI id", bindJSON] .poi
    (fun _ req =>
      [keepText "name" (req.text "name"),
        keepText "category" (req.text "category"),
        keepText "address" (req.text "address"),
        keepText "phone" (req.text "phone"),
        keepUnless "location" (if req.real "lat" ≠ 0 ∧ req.real "lng" ≠ 0 then
          some (.point (req.real "lng") (req.real "lat")) else none)])
    "POI not found for this organization" "POI updated"

def deletePOIHandler : Handler := deleteRow .poi "invalid POI id" "POI deleted"

/-! ### Trips -/

/-- A coordinate as `%f` prints it, with six decimals. -/
def sixDecimals (x : ℚ) : ℚ := round (x * 1000000) / 1000000

/-- A point of a trip, if it is not at zero longitude and latitude. -/
def tripPoint (lng lat : ℚ) : Option Datum :=
  if lat ≠ 0 ∨ lng ≠ 0 then some (.point (sixDecimals lng) (sixDecimals lat)) else none

def createTripHandler : Handler :=
  createRow [companyScope, bindJSON] .trips
    (fun _ req =>
      [("vehicle_id", nonZero (req.int "vehicleId")),
        ("driver_id", nonZero (req.int "driverId")),
        ("start_location", tripPoint (req.real "startLng") (req.real "startLat")),
        ("end_location", tripPoint (req.real "endLng") (req.real "endLat")),
        ("start_time", (req.time "2006-01-02T15:04:05Z07:00" "startTime").map .instant),
        ("end_time", (req.time "2006-01-02T15:04:05Z07:00" "endTime").map .instant),
        ("distance_km", some (.real (req.real "distanceKm"))),
        ("status", coalesce (nonEmpty (req.text "status")) (.text "planned"))])
    "Trip created"

def updateTripHandler : Handler :=
  updateRow [companyScope, pathID "invalid trip id", bindJSON] .trips
    (fun _ req =>
      [keepUnless "vehicle_id" (nonZero (req.int "vehicleId")),
        keepUnless "driver_id" (nonZero (req.int "driverId")),
        keepPositiveReal "distance_km" (req.real "distanceKm"),
        keepText "status" (req.text "status"),
        keepUnless "end_time" ((req.time "2006-01-02T15:04:05Z07:00" "endTime").map .instant)])
    "trip not found for this organization" "Trip updated"

def deleteTripHandler : Handler := deleteRow .trips "invalid trip id" "Trip deleted"

/-! ### Routes -/

def createRouteHandler : Handler :=
  createRow [companyScope, bindWith (filled "name") "name is required"] .routes
    (fun _ req =>
      [("name", some (.text (req.text "name"))),
        ("source", nonEmpty (req.text "source")),
        ("destination", nonEmpty (req.text "destination")),
        ("distance_km", some (.real (req.real "distanceKm"))),
        ("estimated_minutes", some (.int (req.int "estimatedMinutes"))),
        ("is_active", coalesce ((req.flag "isActive").map .bool) (.bool true))])
    "Route created"

def updateRouteHandler : Handler :=
  updateRow [companyScope, pathID "invalid route id", bindJSON] .routes
    (fun now req =>
      [keepText "name" (req.text "name"),
        keepText "source" (req.text "source"),
        keepText "destination" (req.text "destination"),
        keepPositiveReal "distance_km" (req.real "distanceKm"),
        keepPositive "estimated_minutes" (req.int "estimatedMinutes"),
        keepUnless "is_active" ((req.flag "isActive").map .bool),
        touch now])
    "route not found for this organization" "Route updated"

def deleteRouteHandler : Handler := deleteRow .routes "invalid route id" "Route deleted"

end RudraNetra.API
