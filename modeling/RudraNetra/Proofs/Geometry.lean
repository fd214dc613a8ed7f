/-
The geometry of a zone, and the column it is to go into.

Of a GeoJSON text only the type is looked at, and of a feature not even that of its geometry;
points are not closed to a ring.  What is let through fits the column exactly if it came as
such a polygon (`geofenceGeometry_iff`).
-/
import RudraNetra.Api.Geometry

namespace RudraNetra.API

open GeoJSON

/-- The ring through some points: it returns to the first one. -/
def closeRing (points : List (ℚ × ℚ)) : List (ℚ × ℚ) :=
  if points.head? = points.getLast? then points else points ++ points.take 1

namespace JSONCodec

variable (codec : JSONCodec)

/-- The text of the value is read as the value. -/
def ReadsBack (v : JSON ℚ) : Prop := codec.unmarshal (codec.marshal v) = some v

/-- What is let through is a polygon for the column, and points make the polygon through them. -/
structure Storable (geoJSON : String) (coordinates : List (ℚ × ℚ)) : Prop where
  fits : ∀ text, codec.parseGeofenceGeometry geoJSON coordinates = .ok text →
    ∃ v, codec.unmarshal text = some v ∧ IsPolygon v
  accepts : geoJSON = "" → 3 ≤ coordinates.dedup.length →
    ∃ text v, codec.parseGeofenceGeometry geoJSON coordinates = .ok text ∧
      codec.unmarshal text = some v ∧ RingThrough v (closeRing coordinates)

/-- What a GeoJSON text has to be, as far as it is let through. -/
structure TextFits (obj : List (String × JSON ℚ)) : Prop where
  feature : typeOf obj = "Feature" → ∀ geom, geometryOf obj = some geom →
    typeOf geom = "Polygon" ∧ RingsFit geom
  polygon : typeOf obj = "Polygon" → RingsFit obj
  single : typeOf obj ≠ "MultiPolygon"

/-- What the points have to be, if there are enough of them. -/
def PointsFit (coordinates : List (ℚ × ℚ)) : Prop :=
  3 ≤ coordinates.length →
    coordinates.head? = coordinates.getLast? ∧ 4 ≤ coordinates.length

theorem typeOf_eq_iff {obj : List (String × JSON ℚ)} {t : String} (ht : t ≠ "") :
    typeOf obj = t ↔ obj.lookup "type" = some (.string t) := by
  unfold typeOf
  split
  · rename_i s hs
    simp [hs]
  · rename_i hnone
    exact ⟨fun h => absurd h.symm ht, fun h => absurd h (hnone t)⟩

variable {codec} {geoJSON : String} {coordinates : List (ℚ × ℚ)}

theorem isPolygon_iff {obj : List (String × JSON ℚ)} :
    IsPolygon (.object obj) ↔ typeOf obj = "Polygon" ∧ RingsFit obj := by
  rw [isPolygon_object, typeOf_eq_iff (by decide)]

theorem unmarshalMap_eq_some {text : String} {obj : List (String × JSON ℚ)}
    (h : codec.unmarshalMap text = some obj) (htype : typeOf obj ≠ "") :
    codec.unmarshal text = some (.object obj) := by
  unfold unmarshalMap at h
  split at h
  · rename_i members hmembers
    obtain rfl := Option.some.inj h
    exact hmembers
  · obtain rfl := Option.some.inj h
    exact absurd rfl htype
  · cases h

/-- **A GeoJSON text that is let through**: a feature's geometry, or the text as it is. -/
theorem parse_text_iff (htext : geoJSON ≠ "") {obj : List (String × JSON ℚ)}
    (hobj : codec.unmarshalMap geoJSON = some obj) {text : String} :
    codec.parseGeofenceGeometry geoJSON coordinates = .ok text ↔
      (typeOf obj = "Feature" ∧ ∃ geom, geometryOf obj = some geom ∧
          codec.marshal (.object geom) = text) ∨
        (typeOf obj = "Polygon" ∨ typeOf obj = "MultiPolygon") ∧ geoJSON = text := by
  rw [parseGeofenceGeometry, if_pos htext, hobj]
  dsimp only
  by_cases hfeature : typeOf obj = "Feature"
  · cases hgeometry : geometryOf obj <;> simp [hfeature]
  · by_cases htype : typeOf obj = "Polygon" ∨ typeOf obj = "MultiPolygon"
    · have hpass : ¬(typeOf obj ≠ "Polygon" ∧ typeOf obj ≠ "MultiPolygon") := by tauto
      simp [hfeature, hpass, htype]
    · have hstop : typeOf obj ≠ "Polygon" ∧ typeOf obj ≠ "MultiPolygon" := not_or.mp htype
      simp [hfeature, hstop]

theorem parse_text_of_none (htext : geoJSON ≠ "") (hobj : codec.unmarshalMap geoJSON = none) :
    codec.parseGeofenceGeometry geoJSON coordinates =
      .error "geoJson must be a valid GeoJSON polygon" := by
  rw [parseGeofenceGeometry, if_pos htext, hobj]

/-- Points are let through if there are three. -/
theorem parse_points_iff {text : String} :
    codec.parseGeofenceGeometry "" coordinates = .ok text ↔
      3 ≤ coordinates.length ∧ codec.marshal (polygon coordinates) = text := by
  rw [parseGeofenceGeometry, if_neg (by simp)]
  split
  · rename_i hthree
    simp [ge_iff_le.mp hthree]
  · rename_i hfew
    exact iff_of_false (fun h => by cases h) (fun h => hfew h.1)

/-! ### GeoJSON texts -/

section

variable {obj : List (String × JSON ℚ)} (htext : geoJSON ≠ "")
  (hobj : codec.unmarshalMap geoJSON = some obj)
  (hread : ∀ geom, geometryOf obj = some geom → codec.ReadsBack (.object geom))
include htext hobj hread

/-- **A text is let through as a polygon exactly if it is one, or a feature of one.** -/
theorem fits_text_iff :
    (∀ text, codec.parseGeofenceGeometry geoJSON coordinates = .ok text →
      ∃ v, codec.unmarshal text = some v ∧ IsPolygon v) ↔ TextFits obj := by
  constructor
  · intro h
    have hwhole : typeOf obj = "Polygon" ∨ typeOf obj = "MultiPolygon" →
        typeOf obj = "Polygon" ∧ RingsFit obj := by
      intro htype
      obtain ⟨v, hv, hpolygon⟩ := h geoJSON ((parse_text_iff htext hobj).mpr (.inr ⟨htype, rfl⟩))
      have hnamed : typeOf obj ≠ "" := by
        rcases htype with htype | htype <;> rw [htype] <;> decide
      rw [unmarshalMap_eq_some hobj hnamed, Option.some.injEq] at hv
      subst hv
      exact isPolygon_iff.mp hpolygon
    refine ⟨fun hfeature geom hgeometry => ?_, fun htype => (hwhole (.inl htype)).2,
      fun htype => ?_⟩
    · obtain ⟨v, hv, hpolygon⟩ :=
        h _ ((parse_text_iff htext hobj).mpr (.inl ⟨hfeature, geom, hgeometry, rfl⟩))
      obtain rfl := Option.some.inj ((hread geom hgeometry).symm.trans hv)
      exact isPolygon_iff.mp hpolygon
    · have hpolygon := (hwhole (.inr htype)).1
      rw [htype] at hpolygon
      exact absurd hpolygon (by decide)
  · rintro hfits text hparse
    rcases (parse_text_iff htext hobj).mp hparse with
      ⟨hfeature, geom, hgeometry, rfl⟩ | ⟨htype, rfl⟩
    · exact ⟨_, hread geom hgeometry, isPolygon_iff.mpr (hfits.feature hfeature geom hgeometry)⟩
    · have hpolygon := htype.resolve_right hfits.single
      refine ⟨_, unmarshalMap_eq_some hobj ?_, isPolygon_iff.mpr ⟨hpolygon, hfits.polygon hpolygon⟩⟩
      rw [hpolygon]
      decide

end

/-! ### Points -/

/-- **Points are let through as a polygon exactly if they are closed and not too few.** -/
theorem fits_points_iff (hread : codec.ReadsBack (GeoJSON.polygon coordinates)) :
    (∀ text, codec.parseGeofenceGeometry "" coordinates = .ok text →
      ∃ v, codec.unmarshal text = some v ∧ IsPolygon v) ↔ PointsFit coordinates := by
  constructor
  · intro h hthree
    obtain ⟨v, hv, hpolygon⟩ := h _ (parse_points_iff.mpr ⟨hthree, rfl⟩)
    obtain rfl := Option.some.inj (hread.symm.trans hv)
    exact isPolygon_polygon_iff.mp hpolygon
  · rintro hfits text hparse
    obtain ⟨hthree, rfl⟩ := parse_points_iff.mp hparse
    exact ⟨_, hread, isPolygon_polygon_iff.mpr (hfits hthree)⟩

theorem accepts_points (hread : codec.ReadsBack (GeoJSON.polygon coordinates))
    (hfits : PointsFit coordinates) (hdistinct : 3 ≤ coordinates.dedup.length) :
    ∃ text v, codec.parseGeofenceGeometry "" coordinates = .ok text ∧
      codec.unmarshal text = some v ∧ RingThrough v (closeRing coordinates) := by
  have hthree : 3 ≤ coordinates.length :=
    hdistinct.trans (List.dedup_sublist coordinates).length_le
  have hclosed : closeRing coordinates = coordinates := if_pos (hfits hthree).1
  refine ⟨_, _, parse_points_iff.mpr ⟨hthree, rfl⟩, hread, ?_⟩
  rw [hclosed]
  exact ringThrough_polygon coordinates

/-- **A zone's geometry is storable exactly if it came so**: a text as a polygon with closed rings
or a feature of one, points as a closed ring. -/
theorem geofenceGeometry_iff (codec : JSONCodec) (geoJSON : String) (coordinates : List (ℚ × ℚ))
    (hfeature : ∀ obj geom, codec.unmarshalMap geoJSON = some obj → geometryOf obj = some geom →
      codec.ReadsBack (.object geom))
    (hpolygon : codec.ReadsBack (GeoJSON.polygon coordinates)) :
    codec.Storable geoJSON coordinates ↔
      (geoJSON ≠ "" → ∀ obj, codec.unmarshalMap geoJSON = some obj → TextFits obj) ∧
        (geoJSON = "" → PointsFit coordinates) := by
  by_cases htext : geoJSON = ""
  · subst htext
    refine ⟨fun h => ⟨fun hne => absurd rfl hne, fun _ => (fits_points_iff hpolygon).mp h.fits⟩,
      fun h => ⟨(fits_points_iff hpolygon).mpr (h.2 rfl), fun _ hdistinct => ?_⟩⟩
    exact accepts_points hpolygon (h.2 rfl) hdistinct
  · constructor
    · intro h
      refine ⟨fun _ obj hobj => ?_, fun hempty => absurd hempty htext⟩
      exact (fits_text_iff htext hobj fun geom => hfeature obj geom hobj).mp h.fits
    · intro h
      refine ⟨?_, fun hempty => absurd hempty htext⟩
      cases hobj : codec.unmarshalMap geoJSON with
      | none =>
        intro text hparse
        rw [parse_text_of_none htext hobj] at hparse
        cases hparse
      | some obj =>
        exact (fits_text_iff htext hobj fun geom => hfeature obj geom hobj).mpr
          (h.1 htext obj hobj)

/-! ### Three corners -/

/-- The corners of a triangle. -/
def corners : List (ℚ × ℚ) := [(77, 12), (78, 12), (78, 13)]

def cornersText : String :=
  "\x7b\"coordinates\":[[[77,12],[78,12],[78,13]]],\"type\":\"Polygon\"\x7d"

/-- `encoding/json` on the triangle and its text. -/
def cornersJSON : JSONCodec where
  unmarshal text := if text = cornersText then some (GeoJSON.polygon corners) else none
  marshal _ := cornersText

/-- Three corners are let through as a ring that is not closed. -/
theorem corners_not_storable : ¬cornersJSON.Storable "" corners := by
  intro h
  have hread : cornersJSON.ReadsBack (GeoJSON.polygon corners) := by
    simp [ReadsBack, cornersJSON]
  have hfits := (fits_points_iff hread).mp h.fits (by decide)
  exact absurd hfits.2 (by decide)

/-- The corners, and the first one again. -/
def ring : List (ℚ × ℚ) := corners ++ [(77, 12)]

def ringText : String :=
  "\x7b\"coordinates\":[[[77,12],[78,12],[78,13],[77,12]]],\"type\":\"Polygon\"\x7d"

def featureText : String := "\x7b\"geometry\":" ++ ringText ++ ",\"type\":\"Feature\"\x7d"

/-- `encoding/json` on the ring and the feature of it, and their texts. -/
def ringJSON : JSONCodec where
  unmarshal text :=
    if text = ringText then some (GeoJSON.polygon ring)
    else if text = featureText then
      some (.object [("geometry", GeoJSON.polygon ring), ("type", .string "Feature")])
    else none
  marshal _ := ringText

/-- A ring is storable as points, and as the geometry of a feature. -/
theorem ring_storable :
    ringJSON.Storable "" ring ∧ ringJSON.Storable featureText ring := by
  have hread : ringJSON.ReadsBack (GeoJSON.polygon ring) := by
    simp [ReadsBack, ringJSON]
  have hempty : ringJSON.unmarshalMap "" = none := rfl
  have hfeature : ringJSON.unmarshalMap featureText =
      some [("geometry", GeoJSON.polygon ring), ("type", .string "Feature")] := rfl
  have hring : IsPolygon (GeoJSON.polygon ring) :=
    isPolygon_polygon_iff.mpr ⟨rfl, by decide⟩
  refine ⟨(geofenceGeometry_iff ringJSON "" ring (fun obj geom hobj _ => ?_) hread).mpr
      ⟨fun hne => absurd rfl hne, fun _ _ => ⟨rfl, by decide⟩⟩,
    (geofenceGeometry_iff ringJSON featureText ring (fun obj geom hobj hgeom => ?_) hread).mpr
      ⟨fun _ obj hobj => ?_, fun hne => absurd hne (by decide)⟩⟩
  · rw [hempty] at hobj
    cases hobj
  · obtain rfl := Option.some.inj (hfeature.symm.trans hobj)
    obtain rfl := Option.some.inj hgeom
    exact hread
  · obtain rfl := Option.some.inj (hfeature.symm.trans hobj)
    refine ⟨fun _ geom hgeom => ?_, fun htype => absurd htype (by decide), by decide⟩
    obtain rfl := Option.some.inj hgeom
    exact isPolygon_iff.mp hring

end JSONCodec

end RudraNetra.API
