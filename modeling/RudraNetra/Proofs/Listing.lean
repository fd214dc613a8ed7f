/-
The vehicle list, page by page.

The listing has a row for every driver of a vehicle and the count one for every vehicle, so the two
agree only if no vehicle has two drivers.  Then the pages are those of the vehicles by id, and
they are complete unless the limit is one that `ListByCompany` does not take and the vehicles are
more than the 500 that it takes instead (`vehicleList_iff`).
-/
import RudraNetra.Api.Listing
import RudraNetra.Proofs.Status

namespace RudraNetra

open SQL

/-- Windows side by side are a prefix. -/
theorem flatMap_windows {α : Type} (l : List α) (n k : Nat) :
    (List.range k).flatMap (fun i => (l.drop (i * n)).take n) = l.take (k * n) := by
  induction k with
  | zero => simp
  | succ k ih =>
    rw [List.range_succ, List.flatMap_append, ih, Nat.add_one_mul, List.take_add]
    simp

/-- Windows that are too narrow leave something out. -/
theorem narrow_windows_length_lt {α : Type} {l : List α} {m n k : Nat} (hk : 0 < k) (hmn : m < n)
    (hml : m < l.length) :
    ((List.range k).flatMap fun i => (l.drop (i * n)).take m).length <
      ((List.range k).flatMap fun i => (l.drop (i * n)).take n).length := by
  rw [List.length_flatMap, List.length_flatMap]
  refine List.sum_lt_sum _ _ (fun i _ => ?_) ⟨0, List.mem_range.mpr hk, ?_⟩
  · rw [List.length_take, List.length_take]
    omega
  · rw [List.length_take, List.length_take, Nat.zero_mul, List.drop_zero]
    omega

/-- The offsets below a length are those of enough windows. -/
theorem le_windows {limit : Nat} (hlimit : 0 < limit) (n : Nat) :
    n ≤ (n + limit - 1) / limit * limit := by
  have hdiv := Nat.div_add_mod (n + limit - 1) limit
  have hmod := Nat.mod_lt (n + limit - 1) hlimit
  rw [Nat.mul_comm] at hdiv
  omega

variable {fleet : Fleet} {companyID : Int}

/-- No vehicle of the company has two drivers. -/
def Fleet.DrivenByOne (fleet : Fleet) (companyID : Int) : Prop :=
  ∀ v ∈ fleet.ofCompany companyID, (fleet.assigned v).length ≤ 1

/-- The vehicles of the company by id. -/
def Fleet.byID (fleet : Fleet) (companyID : Int) : List VehicleRecord :=
  (fleet.ofCompany companyID).mergeSort fun v w => v.id ≤ w.id

theorem byID_perm (fleet : Fleet) (companyID : Int) :
    (fleet.byID companyID).Perm (fleet.ofCompany companyID) :=
  List.mergeSort_perm _ _

theorem assigned_perm (q : fleet.Query) (v : VehicleRecord) :
    (q.tables.assigned v).Perm (fleet.assigned v) :=
  q.drivers_perm.filter _

theorem page_eq (q : fleet.Query) (companyID : Int) (limit offset : Nat) :
    q.page companyID limit offset = ((q.listing companyID).drop offset).take
      (if limit = 0 ∨ limit > 1000 then 500 else limit) := by
  have hlimit : (if (limit : Int) ≤ 0 ∨ (limit : Int) > 1000 then 500 else (limit : Int)).toNat =
      if limit = 0 ∨ limit > 1000 then 500 else limit := by
    split_ifs <;> omega
  have hoffset : (if (offset : Int) < 0 then 0 else (offset : Int)).toNat = offset := by
    split_ifs <;> omega
  show List.take (Int.toNat _) (List.drop (Int.toNat _) _) = _
  rw [hlimit, hoffset]
  rfl

theorem listing_length (q : fleet.Query) (companyID : Int) :
    (q.listing companyID).length =
      ((fleet.byID companyID).map fun v => max 1 (fleet.assigned v).length).sum := by
  show (q.tables.withTelemetry q.tie q.now (fleet.byID companyID)).length = _
  unfold Fleet.withTelemetry
  rw [List.length_flatMap]
  refine congrArg List.sum (List.map_congr_left fun v _ => ?_)
  rw [List.length_map, driversOf_length_eq, (assigned_perm q v).length_eq]

/-- The listing is as long as the count says exactly if no vehicle has two drivers. -/
theorem count_eq_listing_iff (q : fleet.Query) (companyID : Int) :
    fleet.countByCompany companyID = (q.listing companyID).length ↔
      fleet.DrivenByOne companyID := by
  have hcount : fleet.countByCompany companyID = ((fleet.byID companyID).map fun _ => 1).sum := by
    simp [Fleet.countByCompany, (byID_perm fleet companyID).length_eq]
  rw [listing_length, hcount]
  constructor
  · intro hsame v hv
    by_contra htwo
    refine absurd hsame (ne_of_lt (List.sum_lt_sum _ _ (fun w _ => le_max_left _ _) ⟨v, ?_, ?_⟩))
    · exact (byID_perm fleet companyID).mem_iff.mpr hv
    · omega
  · intro hone
    refine congrArg List.sum (List.map_congr_left fun v hv => ?_)
    have hv' := hone v ((byID_perm fleet companyID).mem_iff.mp hv)
    omega

/-- With one driver at most, the listing is that of the vehicles. -/
theorem listing_ids (h : fleet.DrivenByOne companyID) (q : fleet.Query) :
    (q.listing companyID).map (·.id) = (fleet.byID companyID).map (·.id) := by
  show (q.tables.withTelemetry q.tie q.now (fleet.byID companyID)).map _ = _
  unfold Fleet.withTelemetry
  rw [List.map_flatMap, ← List.flatMap_pure_eq_map]
  refine List.flatMap_congr fun v hv => ?_
  have hlength : (q.tables.driversOf v).length = 1 := by
    have hone := h v ((byID_perm fleet companyID).mem_iff.mp hv)
    rw [driversOf_length_eq, (assigned_perm q v).length_eq]
    omega
  obtain ⟨driver, hdriver⟩ := List.length_eq_one_iff.mp hlength
  rw [hdriver]
  rfl

/-! ### The pages -/

/-- The ids of the pages, if no vehicle has two drivers. -/
theorem pages_ids (h : fleet.DrivenByOne companyID) (limit : Nat) (queries : Nat → fleet.Query) :
    (fleet.pages companyID limit queries).map (·.id) =
      (List.range ((fleet.countByCompany companyID + limit - 1) / limit)).flatMap fun k =>
        (((fleet.byID companyID).map (·.id)).drop (k * limit)).take
          (if limit = 0 ∨ limit > 1000 then 500 else limit) := by
  unfold Fleet.pages
  rw [List.map_flatMap]
  refine List.flatMap_congr fun k _ => ?_
  rw [← Nat.cast_mul, page_eq, List.map_take, List.map_drop, listing_ids h]

/-- The pages of a limit that is taken have every vehicle once, and so do those of another if the
first 500 vehicles are all. -/
theorem pages_perm_iff (h : fleet.DrivenByOne companyID) {limit : Nat} (hlimit : 0 < limit)
    (queries : Nat → fleet.Query) :
    ((fleet.pages companyID limit queries).map (·.id)).Perm
        ((fleet.ofCompany companyID).map (·.id)) ↔
      limit ≤ 1000 ∨ fleet.countByCompany companyID ≤ 500 := by
  let ids := (fleet.byID companyID).map (·.id)
  have hids : ids.Perm ((fleet.ofCompany companyID).map (·.id)) := (byID_perm fleet companyID).map _
  have hlength : ids.length = fleet.countByCompany companyID := by
    simpa [Fleet.countByCompany] using hids.length_eq
  have hwindows : (List.range ((fleet.countByCompany companyID + limit - 1) / limit)).flatMap
      (fun k => (ids.drop (k * limit)).take limit) = ids := by
    rw [flatMap_windows]
    exact List.take_of_length_le (hlength.trans_le (le_windows hlimit _))
  rw [pages_ids h]
  constructor
  · intro hperm
    by_contra hnone
    obtain ⟨hbig, hmany⟩ := not_or.mp hnone
    rw [if_pos (.inr (not_le.mp hbig))] at hperm
    have hwindow : 0 < (fleet.countByCompany companyID + limit - 1) / limit := by
      have hle := le_windows hlimit (fleet.countByCompany companyID)
      by_contra hzero
      rw [Nat.eq_zero_of_not_pos hzero, Nat.zero_mul] at hle
      omega
    have hlost := narrow_windows_length_lt (l := ids) (m := 500) hwindow
      (by omega : 500 < limit) (by omega)
    rw [hwindows] at hlost
    exact hlost.ne (hperm.length_eq.trans hids.length_eq.symm)
  · intro hfits
    refine List.Perm.trans (List.Perm.of_eq ?_) hids
    refine Eq.trans (List.flatMap_congr fun k _ => ?_) hwindows
    split
    · have hfew : (ids.drop (k * limit)).length ≤ 500 := by
        rw [List.length_drop]
        omega
      show (ids.drop (k * limit)).take 500 = _
      rw [List.take_of_length_le hfew, List.take_of_length_le (by omega)]
    · rfl

/-- **When the vehicle list is complete and its total right.** -/
theorem vehicleList_iff (fleet : Fleet) (companyID : Int) {limit : Nat} (hlimit : 0 < limit)
    (queries : Nat → fleet.Query) (q : fleet.Query) (limitParam offsetParam : String) :
    (((fleet.pages companyID limit queries).map (·.id)).Perm
        ((fleet.ofCompany companyID).map (·.id)) ∧
      (listVehiclesHandler q companyID limitParam offsetParam).total =
        (q.listing companyID).length) ↔
    fleet.DrivenByOne companyID ∧ (limit ≤ 1000 ∨ fleet.countByCompany companyID ≤ 500) := by
  show (_ ∧ fleet.countByCompany companyID = _) ↔ _
  rw [count_eq_listing_iff]
  constructor
  · rintro ⟨hperm, hone⟩
    exact ⟨hone, (pages_perm_iff hone hlimit queries).mp hperm⟩
  · rintro ⟨hone, hfits⟩
    exact ⟨(pages_perm_iff hone hlimit queries).mpr hfits, hone⟩

/-- Two trucks, with two drivers on the first. -/
def sharedTruck : Fleet :=
  { twoTrucks with drivers := [⟨"Amina", none, some 1⟩, ⟨"Bilal", none, some 1⟩] }

/-- A query that takes rows as they are stored. -/
def Fleet.asStored (fleet : Fleet) : fleet.Query := ⟨0, .stored, fleet.drivers, .rfl⟩

theorem sharedTruck_listing_ids :
    (sharedTruck.asStored.listing 1).map (·.id) = [1, 1, 2] := by
  have hsorted : (sharedTruck.ofCompany 1).mergeSort (fun v w => v.id ≤ w.id) =
      sharedTruck.ofCompany 1 := List.mergeSort_of_pairwise (by decide +kernel)
  show (sharedTruck.withTelemetry .stored 0
    ((sharedTruck.ofCompany 1).mergeSort fun v w => v.id ≤ w.id)).map (·.id) = _
  rw [hsorted]
  decide +kernel

/-- **Page by page the first truck comes twice and the second never; two are counted, and an
unbounded listing has three rows.** -/
theorem sharedTruck_not_complete :
    ((sharedTruck.pages 1 1 fun _ => sharedTruck.asStored).map (·.id)) = [1, 1] ∧
      (listVehiclesHandler sharedTruck.asStored 1 "" "").total = 2 ∧
      (sharedTruck.asStored.listing 1).length = 3 := by
  refine ⟨?_, rfl, ?_⟩
  · have hpage : ∀ k : Nat, (sharedTruck.asStored.page 1 1 k).map (·.id) =
        ([1, 1, 2].drop k).take 1 := by
      intro k
      rw [← sharedTruck_listing_ids, ← List.map_drop, ← List.map_take]
      exact congrArg _ (page_eq sharedTruck.asStored 1 1 k)
    have hcount : (sharedTruck.countByCompany 1 + 1 - 1) / 1 = 2 := rfl
    unfold Fleet.pages
    rw [List.map_flatMap, hcount]
    refine (List.flatMap_congr fun k _ => ?_).trans
      (by decide : (List.range 2).flatMap (fun k => (([1, 1, 2] : List Int).drop k).take 1) = [1, 1])
    rw [Nat.cast_one, mul_one]
    exact hpage k
  · rw [← List.length_map (·.id), sharedTruck_listing_ids]
    rfl

theorem twoTrucks_complete :
    ((twoTrucks.pages 1 1 fun _ => twoTrucks.asStored).map (·.id)).Perm
        ((twoTrucks.ofCompany 1).map (·.id)) ∧
      (listVehiclesHandler twoTrucks.asStored 1 "" "").total =
        (twoTrucks.asStored.listing 1).length :=
  (vehicleList_iff twoTrucks 1 Nat.one_pos (fun _ => twoTrucks.asStored) twoTrucks.asStored "" "").mpr
    ⟨fun _ _ => Nat.zero_le 1, .inl (by decide)⟩

end RudraNetra
