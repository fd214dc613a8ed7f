/-
The entries of the store, and what a message does to them.

A vehicle without a device is kept under its own id, where a vehicle with a device of that number
is kept too: the store has an entry for every vehicle exactly if no number is both, and a message for
a device leaves the others alone if its number is none of these ids (`entries_iff`).

A message replaces the whole entry of its device, so what only the response said of the vehicle is
gone (`keepsRest_iff`).
-/
import RudraNetra.Proofs.VehicleStore

namespace RudraNetra.Web

/-! ### Maps made of lists -/

section

variable {α κ β : Type} [DecidableEq κ] {key : α → κ} {value : α → β}

/-- The keys of a map that is filled from a list. -/
theorem keys_foldl_insert (l : List α) : ∀ map : Finmap fun _ : κ => β,
    (l.foldl (fun map a => map.insert (key a) (value a)) map).keys =
      map.keys ∪ (l.map key).toFinset := by
  induction l with
  | nil => simp
  | cons a l ih =>
    intro map
    rw [List.foldl_cons, ih]
    ext k
    simp only [Finset.mem_union, Finmap.mem_keys, Finmap.mem_insert, List.map_cons,
      List.toFinset_cons, Finset.mem_insert]
    tauto

/-- A key that the list does not have keeps its value. -/
theorem lookup_foldl_insert_of_notMem {k : κ} (l : List α) : ∀ map : Finmap fun _ : κ => β,
    k ∉ l.map key →
      (l.foldl (fun map a => map.insert (key a) (value a)) map).lookup k = map.lookup k := by
  induction l with
  | nil => exact fun _ _ => rfl
  | cons a l ih =>
    intro map hk
    rw [List.map_cons, List.mem_cons, not_or] at hk
    rw [List.foldl_cons, ih _ hk.2, Finmap.lookup_insert_of_ne _ hk.1]

/-- Of different keys none is lost. -/
theorem lookup_foldl_insert (l : List α) : ∀ map : Finmap fun _ : κ => β, (l.map key).Nodup →
    ∀ a ∈ l, (l.foldl (fun map a => map.insert (key a) (value a)) map).lookup (key a) =
      some (value a) := by
  induction l with
  | nil => simp
  | cons b l ih =>
    intro map hnodup a ha
    obtain ⟨hb, hl⟩ := List.nodup_cons.mp (List.map_cons ▸ hnodup)
    rw [List.foldl_cons]
    rcases List.mem_cons.mp ha with rfl | ha
    · rw [lookup_foldl_insert_of_notMem l _ hb, Finmap.lookup_insert]
    · exact ih _ hl a ha

end

/-! ### One entry for each vehicle -/

/-- The device of a row, if it has one. -/
def deviceOf (v : Members) : Option ℚ := asNumber (v.lookup "device_id")

def idOf (v : Members) : Option ℚ := asNumber (v.lookup "id")

/-- Rows as the tables have them: every vehicle has an id, some have a device, and neither is
shared. -/
structure IsFleet (data : List Members) : Prop where
  id : ∀ v ∈ data, idOf v ≠ none
  device : ∀ v ∈ data, deviceOf v = none →
    v.lookup "device_id" = none ∨ v.lookup "device_id" = some .null
  ids : data.Pairwise fun v w => idOf v ≠ idOf w
  devices : data.Pairwise fun v w => deviceOf v = none ∨ deviceOf v ≠ deviceOf w

/-- The key of a row. -/
def keyOf (v : Members) : Device := (positionOfRow v).deviceID

/-- There are as many entries as vehicles, and each has its own. -/
def OneEntryEach (vehicles : VehicleMap) (data : List Members) : Prop :=
  vehicles.keys.card = data.length ∧ ∀ v ∈ data, vehicles.lookup (keyOf v) = some (positionOfRow v)

theorem keys_mapOf (data : List Members) : (mapOf data).keys = (data.map keyOf).toFinset := by
  unfold mapOf
  rw [keys_foldl_insert, Finmap.keys_empty, Finset.empty_union]
  rfl

theorem oneEntryEach_mapOf_iff (data : List Members) :
    OneEntryEach (mapOf data) data ↔ (data.map keyOf).Nodup := by
  unfold OneEntryEach
  rw [keys_mapOf, ← List.length_map keyOf]
  constructor
  · rintro ⟨hcard, -⟩
    exact Multiset.toFinset_card_eq_card_iff_nodup.mp hcard
  · intro hnodup
    exact ⟨List.toFinset_card_of_nodup hnodup, fun v hv => lookup_foldl_insert data ∅ hnodup v hv⟩

theorem eq_of_asNumber {value : Option Scalar} {q : ℚ} (h : asNumber value = some q) :
    value = some (.number q) := by
  unfold asNumber at h
  split at h <;> simp_all

theorem keyOf_of_device {v : Members} {q : ℚ} (h : deviceOf v = some q) :
    keyOf v = some (.number q) := by
  show orElse _ _ = _
  rw [eq_of_asNumber h]
  exact if_neg (by simp)

theorem keyOf_of_none {data : List Members} (h : IsFleet data) {v : Members} (hv : v ∈ data)
    (hnone : deviceOf v = none) : ∃ q, idOf v = some q ∧ keyOf v = some (.number q) := by
  obtain ⟨q, hq⟩ := Option.ne_none_iff_exists'.mp (h.id v hv)
  exact ⟨q, hq, (if_pos (h.device v hv hnone)).trans (eq_of_asNumber hq)⟩

/-- No vehicle without a device has the number of a device as its id. -/
def Separate (data : List Members) : Prop :=
  ∀ v ∈ data, deviceOf v = none → ∀ w ∈ data, deviceOf w ≠ idOf v

theorem keys_nodup_iff {data : List Members} (h : IsFleet data) :
    (data.map keyOf).Nodup ↔ Separate data := by
  rw [List.Nodup, List.pairwise_map]
  constructor
  · intro hkeys v hv hnone w hw hsame
    obtain ⟨q, hid, hkey⟩ := keyOf_of_none h hv hnone
    have hdevice : deviceOf w = some q := hsame.trans hid
    have hne : v ≠ w := by
      rintro rfl
      simp [hnone] at hdevice
    have hsymm : Std.Symm fun v w => keyOf v ≠ keyOf w := ⟨fun _ _ => Ne.symm⟩
    exact hkeys.forall hv hw hne (hkey.trans (keyOf_of_device hdevice).symm)
  · intro hseparate
    refine (h.ids.and h.devices).imp_of_mem fun {v w} hv hw hdiffer hkey => ?_
    cases hv' : deviceOf v with
    | none =>
      obtain ⟨p, hp, hkey'⟩ := keyOf_of_none h hv hv'
      cases hw' : deviceOf w with
      | none =>
        obtain ⟨q, hq, hkey''⟩ := keyOf_of_none h hw hw'
        obtain rfl : p = q := by simpa [hkey', hkey''] using hkey
        exact hdiffer.1 (hp.trans hq.symm)
      | some q =>
        obtain rfl : p = q := by simpa [hkey', keyOf_of_device hw'] using hkey
        exact hseparate v hv hv' w hw (hw'.trans hp.symm)
    | some p =>
      cases hw' : deviceOf w with
      | none =>
        obtain ⟨q, hq, hkey'⟩ := keyOf_of_none h hw hw'
        obtain rfl : p = q := by simpa [hkey', keyOf_of_device hv'] using hkey
        exact hseparate w hw hw' v hv (hv'.trans hq.symm)
      | some q =>
        obtain rfl : p = q := by simpa [keyOf_of_device hv', keyOf_of_device hw'] using hkey
        rcases hdiffer.2 with hnone | hne
        · simp [hv'] at hnone
        · exact hne (hv'.trans hw'.symm)

/-! ### One message -/

/-- The number is not the id of a vehicle without a device. -/
def NotAnID (data : List Members) (d : ℚ) : Prop :=
  ∀ v ∈ data, deviceOf v = none → idOf v ≠ some d

/-- The entries of the vehicles without the device are as they were. -/
def OthersKept (before after : VehicleMap) (data : List Members) (d : ℚ) : Prop :=
  ∀ v ∈ data, deviceOf v ≠ some d → after.lookup (keyOf v) = before.lookup (keyOf v)

/-- A report of a temperature. -/
def temperatureReport (d t : ℚ) : Message where
  members :=
    [("type", .text "position"), ("device_id", .number d), ("temperature", .number t)]
  payload := none

theorem onmessage_temperatureReport (d t : ℚ) : onmessage (some (temperatureReport d t)) =
    some (positionOfPayload (temperatureReport d t).members) := rfl

theorem othersKept_iff {data : List Members} (h : IsFleet data) (vehicles : VehicleMap) (d : ℚ) :
    (∀ message pos, onmessage message = some pos → pos.deviceID = some (.number d) →
      OthersKept vehicles (vehicles.insert pos.deviceID pos) data d) ↔ NotAnID data d := by
  constructor
  · intro hkept v hv hnone hsame
    obtain ⟨q, hid, hkey⟩ := keyOf_of_none h hv hnone
    obtain rfl : q = d := Option.some.inj (hid.symm.trans hsame)
    -- whatever the entry says, one of two reports says something else
    have hreported : ∀ t, vehicles.lookup (keyOf v) =
        some (positionOfPayload (temperatureReport q t).members) := by
      intro t
      have hentry := hkept _ _ (onmessage_temperatureReport q t) rfl v hv (by simp [hnone])
      rw [← hentry, hkey]
      exact Finmap.lookup_insert _
    have hpos := Option.some.inj ((hreported 0).symm.trans (hreported 1))
    have htemperature : some (0 : ℚ) = some 1 := congrArg VehiclePosition.temperature hpos
    simp at htemperature
  · intro hnumber message pos _ hdevice v hv hother
    refine Finmap.lookup_insert_of_ne _ ?_
    rw [hdevice]
    cases hv' : deviceOf v with
    | none =>
      obtain ⟨q, hid, hkey⟩ := keyOf_of_none h hv hv'
      rw [hkey]
      rintro hq
      obtain rfl : q = d := by simpa using hq
      exact hnumber v hv hv' hid
    | some q =>
      rw [keyOf_of_device hv']
      rintro hq
      obtain rfl : q = d := by simpa using hq
      exact hother hv'

/-- **When every vehicle of a response keeps its entry.** -/
theorem entries_iff (p : Page) (i : Nat) (request : Request) {response : Response}
    {data : List Members} {total : Option Int} (hresponse : response.payload = .ok (data, total))
    (h : IsFleet data) (d : ℚ) :
    (OneEntryEach (p.receive i request response).store.vehicles data ∧
      ∀ message pos, onmessage message = some pos → pos.deviceID = some (.number d) →
        OthersKept (p.receive i request response).store.vehicles
          ((p.receive i request response).store.updatePosition pos).vehicles data d) ↔
      Separate data ∧ NotAnID data d := by
  have hvehicles : (p.receive i request response).store.vehicles = mapOf data := by
    unfold Page.receive
    rw [hresponse]
    rfl
  rw [hvehicles, oneEntryEach_mapOf_iff, keys_nodup_iff h]
  refine and_congr_right fun _ => ?_
  rw [← othersKept_iff h (mapOf data), ← hvehicles]
  rfl

/-- The page once a response has come. -/
def shownRows (data : List Members) : Page :=
  (Page.opened here signedIn).receive 0 ⟨"", "", [], "", none⟩ (answer data)

/-- A truck without a device, and a truck with the device of that number. -/
def sparePair : List Members :=
  [[("id", .number 7), ("device_id", .null), ("reg_number", .text "GJ-01")],
    [("id", .number 8), ("device_id", .number 7), ("reg_number", .text "GJ-02")]]

theorem sparePair_isFleet : IsFleet sparePair where
  id := by decide +kernel
  device := by decide +kernel
  ids := by decide +kernel
  devices := by decide +kernel

/-- **The spare truck has no entry.** -/
theorem sparePair_lost : IsFleet sparePair ∧
    (shownRows sparePair).store.vehicles.keys.card = 1 ∧ sparePair.length = 2 :=
  ⟨sparePair_isFleet, by decide +kernel, rfl⟩

/-- Two trucks whose numbers do not meet. -/
def steadyPair : List Members :=
  [[("id", .number 7), ("device_id", .null), ("reg_number", .text "GJ-01")],
    [("id", .number 8), ("device_id", .number 9), ("reg_number", .text "GJ-02")]]

theorem steadyPair_isFleet : IsFleet steadyPair where
  id := by decide +kernel
  device := by decide +kernel
  ids := by decide +kernel
  devices := by decide +kernel

theorem steadyPair_entries :
    OneEntryEach (shownRows steadyPair).store.vehicles steadyPair := by
  have hanswer : (answer steadyPair).payload = .ok (steadyPair, none) := rfl
  have hseparate : Separate steadyPair := by
    unfold Separate
    decide +kernel
  have hnumber : NotAnID steadyPair 9 := by
    unfold NotAnID
    decide +kernel
  exact ((entries_iff (Page.opened here signedIn) 0 ⟨"", "", [], "", none⟩ hanswer
    steadyPair_isFleet 9).mpr ⟨hseparate, hnumber⟩).1

/-! ### What a message does not say -/

/-- The members that are read of a message. -/
def Message.body (msg : Message) : Members := msg.payload.getD msg.members

/-- Nothing changes but the telemetry of a device, and the plate if the message has one. -/
structure KeepsRest (before after : Page) (device : Device) (body : Members) : Prop where
  page : after = { before with store := { before.store with vehicles := after.store.vehicles } }
  others : ∀ d, d ≠ device → after.store.vehicles.lookup d = before.store.vehicles.lookup d
  entry : ∀ old, before.store.vehicles.lookup device = some old →
    ∃ new, after.store.vehicles.lookup device = some new ∧ new.name = old.name ∧
      new.driverName = old.driverName ∧ new.driverPhone = old.driverPhone ∧
      new.locationName = old.locationName ∧
      (body.lookup "reg_number" = none → new.regNumber = old.regNumber)

/-- The entry has none of what messages never say. -/
def VehiclePosition.Bare (pos : VehiclePosition) : Prop :=
  pos.name = none ∧ pos.driverName = none ∧ pos.driverPhone = none ∧ pos.locationName = none

theorem onmessage_eq_some {msg : Message} {pos : VehiclePosition}
    (h : onmessage (some msg) = some pos) : pos = positionOfPayload msg.body := by
  simp only [onmessage, Option.bind_some] at h
  split at h
  · split at h
    · cases h
    · exact (Option.some.inj h).symm
  · cases h

/-- **When a message keeps what it does not carry**: the entry had none of it. -/
theorem keepsRest_iff {p p' : Page} {msg : Message} {pos old : VehiclePosition}
    (hpos : onmessage (some msg) = some pos)
    (hold : p.store.vehicles.lookup pos.deviceID = some old)
    (hstep : p.step (.message (some msg)) = some p') :
    KeepsRest p p' pos.deviceID msg.body ↔
      old.Bare ∧ (msg.body.lookup "reg_number" ≠ none ∨ old.regNumber = none) := by
  have hp' : p' = { p with store := p.store.updatePosition pos } := by
    simp only [Page.step, hpos] at hstep
    exact (Option.some.inj hstep).symm
  have hnew : p'.store.vehicles.lookup pos.deviceID = some pos := by
    rw [hp']
    exact Finmap.lookup_insert _
  have hread := onmessage_eq_some hpos
  constructor
  · intro hkeeps
    obtain ⟨new, hentry, hname, hdriver, hphone, hplace, hplate⟩ := hkeeps.entry old hold
    obtain rfl : pos = new := Option.some.inj (hnew.symm.trans hentry)
    rw [hread] at hname hdriver hphone hplace hplate
    refine ⟨⟨hname.symm, hdriver.symm, hphone.symm, hplace.symm⟩, ?_⟩
    by_cases hcarried : msg.body.lookup "reg_number" = none
    · exact .inr ((hplate hcarried).symm.trans hcarried)
    · exact .inl hcarried
  · rintro ⟨⟨hname, hdriver, hphone, hplace⟩, hplate⟩
    refine ⟨?_, fun d hd => ?_, fun old' hold' => ⟨pos, hnew, ?_⟩⟩
    · rw [hp']
      rfl
    · rw [hp']
      exact Finmap.lookup_insert_of_ne _ hd
    · obtain rfl : old = old' := Option.some.inj (hold.symm.trans hold')
      rw [hread, hname, hdriver, hphone, hplace]
      refine ⟨rfl, rfl, rfl, rfl, fun hmissing => ?_⟩
      rw [hplate.resolve_left (not_not.mpr hmissing)]
      exact hmissing

/-- A truck with a driver. -/
def drivenTruck : List Members :=
  [[("id", .number 8), ("device_id", .number 9), ("reg_number", .text "GJ-02"),
    ("make", .text "Tata"), ("driver_name", .text "Amina"), ("driver_phone", .text "050")]]

/-- The report of a device with its plate. -/
def platedReport (d : ℚ) : Message where
  members :=
    [("type", .text "position"), ("device_id", .number d), ("reg_number", .text "GJ-02"),
      ("lat", .number 25), ("lng", .number 55)]
  payload := none

/-- **The first report takes the driver off the map.** -/
theorem drivenTruck_driver_lost : ∃ after,
    (shownRows drivenTruck).step (.message (some (platedReport 9))) = some after ∧
      ((shownRows drivenTruck).store.vehicles.lookup (some (.number 9))).map
        (fun pos => (pos.name, pos.driverName)) = some (some "Tata", some (.text "Amina")) ∧
      (after.store.vehicles.lookup (some (.number 9))).map
        (fun pos => (pos.name, pos.driverName)) = some (none, none) :=
  ⟨_, rfl, by decide +kernel, by decide +kernel⟩

theorem steadyPair_keepsRest : ∃ after,
    (shownRows steadyPair).step (.message (some (platedReport 9))) = some after ∧
      KeepsRest (shownRows steadyPair) after (some (.number 9)) (platedReport 9).body := by
  have hread : onmessage (some (platedReport 9)) =
      some (positionOfPayload (platedReport 9).members) := rfl
  refine ⟨_, rfl, (keepsRest_iff hread (by rfl) rfl).mpr ⟨?_, .inl ?_⟩⟩
  · exact ⟨rfl, rfl, rfl, rfl⟩
  · decide

end RudraNetra.Web
