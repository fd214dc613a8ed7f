/-
The geometry of a zone, as the texts it is made of: `parseGeofenceGeometry` of
`internal/handler/handlers_ops.go`.

`encoding/json` is a parameter here, at the values of an `interface{}`: numbers are those that a
`float64` has.  The handlers see what this function makes of a request, in the way of
`parseGeofenceGeometry_eq`.
-/
import RudraNetra.Api.Places
import RudraNetra.Lib.GeoJSON

namespace RudraNetra.API

open GeoJSON

/-- What `encoding/json` makes of a text, and of a value. -/
structure JSONCodec where
  unmarshal : String → Option (JSON ℚ)
  marshal : JSON ℚ → String

/-- The type of an object, if it is a text. -/
def typeOf (obj : List (String × JSON ℚ)) : String :=
  match obj.lookup "type" with
  | some (.string t) => t
  | _ => ""

/-- The members of an object under `geometry`. -/
def geometryOf (obj : List (String × JSON ℚ)) : Option (List (String × JSON ℚ)) :=
  match obj.lookup "geometry" with
  | some (.object geom) => some geom
  | _ => none

namespace JSONCodec

variable (codec : JSONCodec)

/-- `json.Unmarshal` into a `map[string]interface{}`; `null` leaves the map empty. -/
def unmarshalMap (text : String) : Option (List (String × JSON ℚ)) :=
  match codec.unmarshal text with
  | some (.object members) => some members
  | some .null => some []
  | _ => none

/-- The text of a zone's geometry. -/
def parseGeofenceGeometry (geoJSON : String) (coordinates : List (ℚ × ℚ)) :
    Except String String :=
  if geoJSON ≠ "" then
    match codec.unmarshalMap geoJSON with
    | none => .error "geoJson must be a valid GeoJSON polygon"
    | some obj =>
      if typeOf obj = "Feature" then
        match geometryOf obj with
        | some geom => .ok (codec.marshal (.object geom))
        | none => .error "geoJson feature has no geometry"
      else if typeOf obj ≠ "Polygon" ∧ typeOf obj ≠ "MultiPolygon" then
        .error "geoJson must be a Polygon"
      else .ok geoJSON
  else if coordinates.length ≥ 3 then .ok (codec.marshal (polygon coordinates))
  else .error "geoJson polygon or coordinates array is required"

/-- A text as the fields of a request have it. -/
def object? (text : String) : Option (String × Option String) :=
  (codec.unmarshalMap text).map fun obj =>
    (typeOf obj, (geometryOf obj).map fun geom => codec.marshal (.object geom))

/-- The text of a geometry as a row has it. -/
def geometryText : Datum → String
  | .polygon corners => codec.marshal (polygon corners)
  | .geometry text => text
  | _ => ""

/-- **The handlers take for a geometry what the function makes of the texts.** -/
theorem parseGeofenceGeometry_eq {req : Fields}
    (h : req.geoJSON (req.text "geoJson") = codec.object? (req.text "geoJson")) :
    (API.parseGeofenceGeometry req).map codec.geometryText =
      codec.parseGeofenceGeometry (req.text "geoJson") req.coordinates := by
  unfold API.parseGeofenceGeometry JSONCodec.parseGeofenceGeometry
  rw [h, object?]
  split
  · cases codec.unmarshalMap (req.text "geoJson") with
    | none => rfl
    | some obj =>
      rw [Option.map_some]
      dsimp only
      split
      · cases geometryOf obj <;> rfl
      · split <;> rfl
  · split <;> rfl

end JSONCodec

end RudraNetra.API
