/-
JSON values, and the polygons among them.

A polygon has rings, and a ring is closed and has four positions or more (`IsPolygon`).  The
ring through some points is such a ring exactly if the points are closed already
(`isPolygon_polygon_iff`).
-/
import Mathlib.Data.List.Basic

/-- A JSON value; the members of an object are sorted by name, and no name is there twice. -/
inductive JSON (N : Type) where
  | null
  | bool (value : Bool)
  | number (value : N)
  | string (value : String)
  | array (elements : List (JSON N))
  | object (members : List (String × JSON N))

namespace GeoJSON

variable {N : Type}

def number? : JSON N → Option N
  | .number x => some x
  | _ => none

/-- A position: two numbers or more. -/
def position? : JSON N → Option (List N)
  | .array elements => (elements.mapM number?).filter (2 ≤ ·.length)
  | _ => none

def ring? : JSON N → Option (List (List N))
  | .array elements => elements.mapM position?
  | _ => none

/-- The rings under `coordinates`. -/
def rings? (members : List (String × JSON N)) : Option (List (List (List N))) :=
  match members.lookup "coordinates" with
  | some (.array elements) => elements.mapM ring?
  | _ => none

/-- The ring ends where it begins, and is not too short to enclose anything. -/
structure LinearRing (ring : List (List N)) : Prop where
  closed : ring.head? = ring.getLast?
  four : 4 ≤ ring.length

/-- The rings are there, and each is linear. -/
def RingsFit (members : List (String × JSON N)) : Prop :=
  ∃ rings, rings? members = some rings ∧ ∀ ring ∈ rings, LinearRing ring

/-- The value is an object of type `Polygon` whose rings are linear. -/
def IsPolygon (v : JSON N) : Prop :=
  ∃ members, v = .object members ∧ members.lookup "type" = some (.string "Polygon") ∧
    RingsFit members

@[simp] theorem isPolygon_object {members : List (String × JSON N)} :
    IsPolygon (.object members) ↔
      members.lookup "type" = some (.string "Polygon") ∧ RingsFit members := by
  simp [IsPolygon]

/-! ### The polygon through some points -/

/-- The object of type `Polygon` whose one ring goes through the points as they are. -/
def polygon (points : List (N × N)) : JSON N :=
  .object [("coordinates", .array [.array (points.map fun p => .array [.number p.1, .number p.2])]),
    ("type", .string "Polygon")]

theorem mapM_map_eq_some {α β γ : Type} {f : β → Option γ} {g : α → β} {h : α → γ}
    (hfg : ∀ a, f (g a) = some (h a)) (l : List α) : (l.map g).mapM f = some (l.map h) := by
  induction l with
  | nil => rfl
  | cons a l ih => simp [hfg, ih]

/-- The value is the polygon with one ring, through these points. -/
def RingThrough (v : JSON N) (points : List (N × N)) : Prop :=
  ∃ members, v = .object members ∧ members.lookup "type" = some (.string "Polygon") ∧
    rings? members = some [points.map fun p => [p.1, p.2]]

theorem ringThrough_polygon (points : List (N × N)) : RingThrough (polygon points) points := by
  refine ⟨_, rfl, rfl, ?_⟩
  have hring : ring? (.array (points.map fun p => .array [.number p.1, .number p.2])) =
      some (points.map fun p => [p.1, p.2]) :=
    mapM_map_eq_some (f := position?) (fun p => rfl) points
  show ([JSON.array _].mapM ring?) = _
  simp [hring]

/-- **The polygon through some points is one exactly if they are closed and at least four.** -/
theorem isPolygon_polygon_iff {points : List (N × N)} :
    IsPolygon (polygon points) ↔ points.head? = points.getLast? ∧ 4 ≤ points.length := by
  obtain ⟨members, hobject, htype, hrings⟩ := ringThrough_polygon points
  have hinj : Function.Injective fun p : N × N => [p.1, p.2] := by
    intro p q hpq
    simpa [Prod.ext_iff] using hpq
  rw [hobject, isPolygon_object, and_iff_right htype]
  constructor
  · rintro ⟨rings, hsome, hlinear⟩
    obtain rfl := Option.some.inj (hrings.symm.trans hsome)
    have hring := hlinear _ (List.mem_singleton_self _)
    have hclosed := hring.closed
    rw [List.head?_map, List.getLast?_map] at hclosed
    exact ⟨Option.map_injective hinj hclosed, by simpa using hring.four⟩
  · rintro ⟨hclosed, hfour⟩
    refine ⟨_, hrings, fun ring hring => ?_⟩
    obtain rfl := List.mem_singleton.mp hring
    exact ⟨by rw [List.head?_map, List.getLast?_map, hclosed], by simpa using hfour⟩

end GeoJSON
