/-
Partial updates: a column whose field is absent from the body keeps its value.

Every `UPDATE` names what a column becomes if its field has the zero value of its type,
which is what an absent field is bound to.  For all handlers but one that is the value the
column has.  A tyre's `retreading_count` is set whenever the field is not negative, so it is
reset to zero where the field is absent (`absent_kept_iff`).
-/
import RudraNetra.Api.Routes
import RudraNetra.Proofs.Statements

namespace RudraNetra.API

open SQL Effect

/-- A body that has some fields is bound: an absent field has the zero value of its type. -/
structure Binds (has : String → Prop) (req : Fields) : Prop where
  text : ∀ {field}, ¬has field → req.text field = ""
  int : ∀ {field}, ¬has field → req.int field = 0
  real : ∀ {field}, ¬has field → req.real field = 0
  flag : ∀ {field}, ¬has field → req.flag field = none
  time : ∀ {field} layout, ¬has field → req.time layout field = none
  json : ∀ {field}, ¬has field → req.json field = none
  coordinates : ¬has "coordinates" → req.coordinates = []

/-! ### The handlers -/

/-- The `PUT` handlers that change a row and leave alone what is absent. -/
inductive Update where
  | device
  | adminDevice
  | deviceConfig
  | vehicle
  | vehicleConfig
  | driver
  | geofence
  | poi
  | trip
  | route
  | party
  | receipt
  | alertRule
  | reminder
  | fleetTrip
  | tyre
  | complaint
  | master
  | company
  | user
  | invoice

def Update.handler : Update → Handler
  | .device => updateDeviceHandler
  | .adminDevice => adminRoute adminUpdateDeviceHandler
  | .deviceConfig => updateDeviceConfigHandler
  | .vehicle => updateVehicleHandler
  | .vehicleConfig => updateVehicleConfigHandler
  | .driver => updateDriverHandler
  | .geofence => updateGeofenceHandler
  | .poi => updatePOIHandler
  | .trip => updateTripHandler
  | .route => updateRouteHandler
  | .party => updatePartyHandler
  | .receipt => updateLRHandler
  | .alertRule => updateAlertRuleHandler
  | .reminder => updateReminderHandler
  | .fleetTrip => updateFleetTripHandler
  | .tyre => updateTyreHandler
  | .complaint => updateComplaintHandler
  | .master => updateMasterHandler
  | .company => adminRoute updateCompanyHandler
  | .user => adminRoute adminUpdateUserHandler
  | .invoice => updateInvoiceHandler

/-- The columns that fields are for, each with when the body has a value for it. -/
abbrev Sources : Type := List (String × ((String → Prop) → Prop))

/-- Columns of one table. -/
def only (t : Table) (sources : Sources) : Table → Sources := fun u => if u = t then sources else []

/-- What each handler takes the columns' values from. -/
def Update.sources : Update → Table → Sources
  | .device => only .devices
    [("device_type", (· "protocol")), ("sim_no", (· "simNo")), ("sim_operator", (· "simOperator")),
      ("port", (· "port")), ("status", (· "status")), ("firmware_ver", (· "firmware")),
      ("warranty_end", (· "warrantyEnd"))]
  | .adminDevice => only .devices
    [("sim_no", (· "simCardNo")), ("sim_operator", (· "operator")),
      ("firmware_ver", (· "firmware")), ("status", (· "status"))]
  | .deviceConfig => fun
    | .devices =>
      [("device_type", (· "protocol")), ("firmware_ver", (· "firmware")), ("port", (· "port"))]
    | .companySettings =>
      [("idle_threshold_minutes", (· "idleThresholdMinutes")),
        ("speed_threshold_kmh", (· "speedThresholdKmh"))]
    | _ => []
  | .vehicle => only .vehicles
    [("reg_number", (· "regNumber")), ("make", (· "make")), ("model", (· "model")),
      ("variant", (· "variant")), ("body_type", (· "bodyType")), ("fuel_type", (· "fuelType")),
      ("fuel_capacity", (· "fuelCapacity")), ("max_speed", (· "maxSpeed")),
      ("odometer", (· "odometer")), ("icon_type", (· "iconType")), ("device_id", (· "deviceId"))]
  | .vehicleConfig => only .vehicles
    [("max_speed", (· "maxSpeed")), ("fuel_capacity", (· "fuelCapacity")),
      ("icon_type", (· "iconType"))]
  | .driver => only .drivers
    [("name", (· "name")), ("phone", (· "phone")), ("license_no", (· "licenseNo")),
      ("license_expiry", (· "licenseExpiry")), ("rfid_tag", (· "rfidTag")),
      ("status", (· "status")), ("assigned_vehicle_id", (· "assignedVehicleId"))]
  | .geofence => only .geofences
    [("name", (· "name")), ("type", (· "type")), ("speed_limit", (· "speedLimit")),
      ("alert_on_enter", (· "alertOnEnter")), ("alert_on_exit", (· "alertOnExit")),
      ("is_active", (· "isActive")), ("geom", fun has => has "geoJson" ∨ has "coordinates")]
  | .poi => only .poi
    [("name", (· "name")), ("category", (· "category")), ("address", (· "address")),
      ("phone", (· "phone")), ("location", fun has => has "lat" ∧ has "lng")]
  | .trip => only .trips
    [("vehicle_id", (· "vehicleId")), ("driver_id", (· "driverId")),
      ("distance_km", (· "distanceKm")), ("status", (· "status")), ("end_time", (· "endTime"))]
  | .route => only .routes
    [("name", (· "name")), ("source", (· "source")), ("destination", (· "destination")),
      ("distance_km", (· "distanceKm")), ("estimated_minutes", (· "estimatedMinutes")),
      ("is_active", (· "isActive"))]
  | .party => only .fleetParties
    [("name", (· "name")), ("contact", (· "contact")), ("phone", (· "phone")),
      ("email", (· "email")), ("address", (· "address"))]
  | .receipt => only .loadingReceipts
    [("status", (· "status")), ("weight_kg", (· "weightKg")), ("freight_amt", (· "freightAmt")),
      ("advance_amt", (· "advanceAmt"))]
  | .alertRule => only .alertRules
    [("name", (· "name")), ("description", (· "description")), ("config", (· "config")),
      ("sms_enabled", (· "smsEnabled")), ("email_enabled", (· "emailEnabled")),
      ("sms_template", (· "smsTemplate")), ("is_active", (· "isActive"))]
  | .reminder => only .reminders
    [("is_acknowledged", (· "isAcknowledged")), ("due_date", (· "dueDate")), ("notes", (· "notes")),
      ("alert_before_days", (· "alertBeforeDays"))]
  | .fleetTrip => only .fleetTrips
    [("status", (· "status")), ("expense_amount", (· "expenseAmount")),
      -- The balance is derived from the expenses.
      ("balance_amount", (· "expenseAmount"))]
  | .tyre => only .tyreRecords
    [("axle_position", (· "axlePosition")), ("tread_depth_mm", (· "treadDepthMm")),
      ("status", (· "status")), ("retreading_count", (· "retreadingCount")),
      ("current_km", (· "currentKm"))]
  | .complaint => only .complaints
    [("status", (· "status")), ("technician_assigned", (· "technicianAssigned")),
      ("resolution_notes", (· "resolutionNotes"))]
  | .master => only .lookupMasters
    [("code", (· "code")), ("name", (· "name")), ("is_default", (· "isDefault"))]
  | .company => only .companies
    [("name", (· "name")), ("code", (· "code")), ("contact_person", (· "contactPerson")),
      ("email", (· "contactEmail")), ("phone", (· "contactPhone")),
      ("database_name", (· "dbShard")), ("city", (· "city")), ("address", (· "address")),
      ("status", (· "status")), ("max_devices", (· "maxDevices")), ("max_users", (· "maxUsers")),
      ("sira_relay", (· "siraRelay")), ("api_key", (· "regenerateKey"))]
  | .user => only .users
    [("full_name", (· "fullName")), ("email", (· "email")), ("phone", (· "phone")),
      ("role", (· "role")), ("company_id", (· "companyId")), ("is_active", (· "isActive")),
      ("password_hash", (· "password"))]
  | .invoice => only .invoices
    [("status", (· "status")), ("paid_amount", (· "paidAmount")), ("due_date", (· "dueDate")),
      ("notes", (· "notes"))]

/-! ### What an update keeps -/

/-- The body has a value for the column. -/
def Supplied (sources : Sources) (has : String → Prop) (column : String) : Prop :=
  ∃ source, sources.lookup column = some source ∧ source has

/-- A column that nothing is supplied for keeps its value, `updated_at` aside. -/
def RowKept (sources : Sources) (has : String → Prop) (row row' : Row Datum) : Prop :=
  ∀ column, column ≠ "updated_at" → ¬Supplied sources has column → row' column = row column

/-- The rows of every table are those that were there, and keep what is not supplied. -/
def AbsentKept (sources : Table → Sources) (has : String → Prop)
    (before after : SQL.Database schema Datum) : Prop :=
  ∀ t, List.Forall₂ (RowKept (sources t) has) (before.tables t) (after.tables t)

section

variable {sources : Table → Sources} {has : String → Prop}

theorem RowKept.refl (sources : Sources) (has : String → Prop) (row : Row Datum) :
    RowKept sources has row row := fun _ _ _ => rfl

theorem RowKept.trans {sources : Sources} {row row' row'' : Row Datum}
    (h : RowKept sources has row row') (h' : RowKept sources has row' row'') :
    RowKept sources has row row'' :=
  fun column hcolumn habsent => (h' column hcolumn habsent).trans (h column hcolumn habsent)

theorem rowsKept_trans {sources : Sources} {as bs : List (Row Datum)}
    (hab : List.Forall₂ (RowKept sources has) as bs) : ∀ {cs : List (Row Datum)},
      List.Forall₂ (RowKept sources has) bs cs → List.Forall₂ (RowKept sources has) as cs := by
  induction hab with
  | nil => exact fun hbc => hbc
  | cons h _ ih =>
      intro cs hbc
      cases hbc with
      | cons h' hrest => exact .cons (h.trans h') (ih hrest)

instance : Std.Refl (AbsentKept sources has) :=
  ⟨fun _ _ => List.forall₂_same.mpr fun row _ => .refl _ _ row⟩

instance : IsTrans (SQL.Database schema Datum) (AbsentKept sources has) :=
  ⟨fun _ _ _ hab hbc t => rowsKept_trans (hab t) (hbc t)⟩

/-- An update keeps what is absent exactly if it does so in each row that it selects. -/
theorem update_kept_iff {db db' : SQL.Database schema Datum} {t : Table} {set : List Assignment}
    {cond : Condition Datum} {n : Nat} (h : db.exec (.update t set cond) = some (db', n)) :
    AbsentKept sources has db db' ↔ ∀ row ∈ db.tables t, cond.selects row = true →
      RowKept (sources t) has row (Assignments.apply set row) := by
  have hrow : ∀ row, RowKept (sources t) has row
      (if cond.selects row then Assignments.apply set row else row) ↔
      (cond.selects row = true → RowKept (sources t) has row (Assignments.apply set row)) := by
    intro row
    split
    · rename_i hselects
      simp [hselects]
    · rename_i hselects
      simp [hselects, RowKept.refl]
  have hown : List.Forall₂ (RowKept (sources t) has) (db.tables t) (db'.tables t) ↔
      ∀ row ∈ db.tables t, cond.selects row = true →
        RowKept (sources t) has row (Assignments.apply set row) := by
    rw [Database.update_tables h, List.forall₂_map_right_iff, List.forall₂_same]
    simp only [hrow]
  refine ⟨fun hkept => hown.mp (hkept t), fun hrows u => ?_⟩
  by_cases hu : u = t
  · subst hu
    exact hown.mpr hrows
  · rw [Database.update_other h hu]
    exact List.forall₂_same.mpr fun row _ => .refl _ _ row

/-- Each assignment to a column that nothing is supplied for is to the value it has. -/
def Honest (sources : Sources) (has : String → Prop) (set : List Assignment) : Prop :=
  ∀ a ∈ set, a.1 ≠ "updated_at" → ¬Supplied sources has a.1 → ∀ row, a.2 row = row a.1

theorem Honest.kept {sources : Sources} {set : List Assignment} (h : Honest sources has set)
    (row : Row Datum) : RowKept sources has row (Assignments.apply set row) := by
  intro column hcolumn habsent
  cases hlookup : set.lookup column with
  | none => rw [Assignments.apply_of_lookup hlookup]
  | some value =>
      obtain ⟨before, after, rfl, -⟩ := List.lookup_eq_some_iff.mp hlookup
      rw [Assignments.apply, hlookup]
      exact h (column, value) (by simp) hcolumn habsent row

theorem Honest.keeps {t : Table} {set : List Assignment} (h : Honest (sources t) has set)
    (cond : Condition Datum) : Keeps (OnDatabase (AbsentKept sources has))
      (exec (.update t set cond)) :=
  keeps_exec fun _ _ _ hexec => (update_kept_iff hexec).mpr fun row _ _ => h.kept row

end

/-! ### The handlers keep what is absent -/

section

variable {sources : Sources} {has : String → Prop} {set : List Assignment} {c : String}

@[simp] theorem not_supplied_nil : ¬Supplied [] has c := by
  rintro ⟨source, hlookup, -⟩
  simp at hlookup

@[simp] theorem supplied_cons {c' : String} {source : (String → Prop) → Prop} :
    Supplied ((c', source) :: sources) has c ↔
      if c = c' then source has else Supplied sources has c := by
  by_cases hc : c = c'
  · simp [Supplied, hc]
  · simp [Supplied, hc, List.lookup_cons, beq_false_of_ne hc]

@[simp] theorem honest_nil : Honest sources has [] := by
  simp [Honest]

@[simp] theorem honest_cons {value : Row Datum → Option Datum} :
    Honest sources has ((c, value) :: set) ↔
      (c ≠ "updated_at" → ¬Supplied sources has c → ∀ row, value row = row c) ∧
        Honest sources has set := by
  simp [Honest]

@[simp] theorem honest_touch (now : Int) :
    Honest sources has (touch now :: set) ↔ Honest sources has set := by
  simp [touch, setTo]

/-- An assignment that keeps the column unless there is a value is honest without one. -/
@[simp] theorem honest_keepUnless {value : Option Datum} :
    Honest sources has (keepUnless c value :: set) ↔
      (c ≠ "updated_at" → ¬Supplied sources has c → value = none) ∧ Honest sources has set := by
  have hvalue : (∀ row : Row Datum, value.or (row c) = row c) ↔ value = none := by
    refine ⟨fun h => ?_, fun h row => by simp [h]⟩
    simpa using h fun _ => none
  simp [keepUnless, hvalue]

@[simp] theorem nonEmpty_eq_none {text : String} : nonEmpty text = none ↔ text = "" := by
  simp [nonEmpty]

@[simp] theorem nonZero_eq_none {n : Int} : nonZero n = none ↔ n = 0 := by
  simp [nonZero]

end

section

variable {has : String → Prop} {req : Fields} {s : Server} {r : Request}

/-- A handler of one update keeps what is absent, if its assignments do. -/
theorem updateRow_keeps {sources : Table → Sources} {checks : List Check} {t : Table}
    {set : Int → Fields → List Assignment} {missing message : String} {c id : Int}
    (h : ∀ now, Honest (sources t) has (set now req)) :
    OnDatabase (AbsentKept sources has) s
      (outcome ((updateRow checks t set missing message).work r c id req) s).2 := by
  rcases updateRow_cases checks t set missing message s r c id req with
    ⟨n, -, hexec⟩ | ⟨hdb, -⟩
  · exact (update_kept_iff hexec).mpr fun row _ _ => (h s.now).kept row
  · rw [OnDatabase, hdb]
    exact refl_of (AbsentKept sources has) s.db

theorem toLower_empty : "".toLower = "" := by decide +kernel

/-- A tyre's update keeps what is absent, apart from how often it was retreaded. -/
theorem tyre_kept_iff (hbody : Binds has req) (now : Int) (row : Row Datum) :
    RowKept (Update.tyre.sources .tyreRecords) has row
      (Assignments.apply
        [keepText "axle_position" (req.text "axlePosition"),
          keepPositiveMoney "tread_depth_mm" (req.real "treadDepthMm"),
          keepText "status" (req.text "status"),
          keepUnless "retreading_count"
            (if req.int "retreadingCount" ≥ 0 then some (.int (req.int "retreadingCount"))
              else none),
          keepPositive "current_km" (req.int "currentKm"),
          touch now] row) ↔
      (¬has "retreadingCount" → row "retreading_count" = some (.int 0)) := by
  have hothers : Honest (Update.tyre.sources .tyreRecords) has
      [keepText "axle_position" (req.text "axlePosition"),
        keepPositiveMoney "tread_depth_mm" (req.real "treadDepthMm"),
        keepText "status" (req.text "status"), keepPositive "current_km" (req.int "currentKm"),
        touch now] := by
    simp +contextual [Update.sources, only, keepText, keepPositive, keepPositiveMoney, hbody.text,
      hbody.int, hbody.real]
  have hsupplied : Supplied (Update.tyre.sources .tyreRecords) has "retreading_count" ↔
      has "retreadingCount" := by
    simp [Update.sources, only]
  constructor
  · intro hkept habsent
    have hrow := hkept "retreading_count" (by decide) (mt hsupplied.mp habsent)
    rw [← hrow]
    simp [Assignments.apply, List.lookup, keepText, keepPositiveMoney, keepUnless, hbody.int habsent]
  · intro hzero column hcolumn habsent
    by_cases hc : column = "retreading_count"
    · subst hc
      have hcount := mt hsupplied.mpr habsent
      simp [Assignments.apply, List.lookup, keepText, keepPositiveMoney, keepUnless,
        hbody.int hcount, hzero hcount]
    · rw [← hothers.kept row column hcolumn habsent]
      simp [Assignments.apply, List.lookup, keepText, keepPositiveMoney, keepUnless,
        beq_false_of_ne hc]

/-- Setting a master as the default changes the others' `is_default`, which is supplied. -/
theorem master_keeps (hbody : Binds has req) {c id : Int} :
    OnDatabase (AbsentKept Update.master.sources has) s
      (outcome (updateMasterHandler.work r c id req) s).2 := by
  have hset : Honest (Update.master.sources .lookupMasters) has (masterAssignments req) := by
    simp +contextual [masterAssignments, Update.sources, only, keepText, hbody.text, hbody.flag]
  have hcode : req.flag "isDefault" = some true → ∀ category,
      Keeps (OnDatabase (AbsentKept Update.master.sources has)) (clearDefaults category) := by
    intro hflag category
    have hhas : has "isDefault" := by
      by_contra habsent
      simp [hbody.flag habsent] at hflag
    have hclear : Honest (Update.master.sources .lookupMasters) has
        [setTo "is_default" (some (.bool false))] := by
      simp [Update.sources, only, setTo, hhas]
    exact (hclear.keeps _).attempt.bind fun _ => keeps_pure _
  have hupdate : Keeps (OnDatabase (AbsentKept Update.master.sources has)) (do
      let affected ← exec <| .update .lookupMasters (masterAssignments req) [("id", .int id)]
      if affected = 0 then throw (notFound "master record not found")
      return Response.ok "Master record updated") :=
    (hset.keeps _).bind fun _ => Keeps.ite (keeps_throw _) (keeps_pure _)
  unfold updateMasterHandler
  dsimp only
  split
  · rename_i hflag
    refine (keeps_selectFirst _ _).bind (fun row => ?_) s
    split
    · exact (hcode hflag _).bind fun _ => hupdate
    · exact hupdate
  · exact hupdate s

theorem company_keeps (hbody : Binds has req) {c id : Int} :
    OnDatabase (AbsentKept Update.company.sources has) s
      (outcome (updateCompanyHandler.work r c id req) s).2 := by
  have hkey : req.flag "regenerateKey" = some true → ∀ key,
      Honest (Update.company.sources .companies) has [setTo "api_key" (some (.text key))] := by
    intro hflag key
    have hhas : has "regenerateKey" := by
      by_contra habsent
      simp [hbody.flag habsent] at hflag
    simp [Update.sources, only, setTo, hhas]
  unfold updateCompanyHandler
  refine keeps_now.bind (fun now => (Honest.keeps ?_ _).bind fun affected => ?_) s
  · simp +contextual [Update.sources, only, keepText, companyStatus, hbody.text, hbody.int,
      hbody.flag]
  refine Keeps.ite (keeps_throw _) ?_
  dsimp only
  split
  · rename_i hflag
    refine (keeps_selectFirst _ _).bind fun row => ?_
    split
    · exact keeps_pure _
    · refine keeps_now.bind fun now => ((hkey hflag _).keeps _).attempt.bind fun written => ?_
      cases written with
      | none => exact keeps_pure _
      | some affected => exact keeps_pure _
  · exact keeps_pure _

theorem user_keeps (hbody : Binds has req) {c id : Int} :
    OnDatabase (AbsentKept Update.user.sources has) s
      (outcome (adminUpdateUserHandler.work r c id req) s).2 := by
  have hpassword : req.text "password" ≠ "" → ∀ hash,
      Honest (Update.user.sources .users) has [setTo "password_hash" (some (.text hash))] := by
    intro hgiven hash
    have hhas : has "password" := by
      by_contra habsent
      exact hgiven (hbody.text habsent)
    simp [Update.sources, only, setTo, hhas]
  unfold adminUpdateUserHandler
  refine keeps_now.bind (fun now => (Honest.keeps ?_ _).bind fun affected => ?_) s
  · simp +contextual [Update.sources, only, keepText, hbody.text, hbody.int, hbody.flag]
  refine Keeps.ite (keeps_throw _) ?_
  dsimp only
  split
  · rename_i hgiven
    refine keeps_get.bind fun server => ?_
    split
    · exact keeps_throw _
    · exact (((hpassword hgiven _).keeps _).bind fun _ => keeps_pure _).bind fun _ => keeps_pure _
  · exact keeps_pure _

theorem deviceConfig_keeps (hbody : Binds has req) {c id : Int} :
    OnDatabase (AbsentKept Update.deviceConfig.sources has) s
      (outcome (updateDeviceConfigHandler.work r c id req) s).2 := by
  refine keeps_now.bind (fun now => (Honest.keeps ?_ _).bind fun _ => ?_) s
  · simp +contextual [Update.sources, keepText, keepPositive, hbody.text, hbody.int]
  refine Keeps.ite ((Honest.keeps ?_ _).attempt.bind fun _ => keeps_pure _) (keeps_pure _)
  simp +contextual [Update.sources, keepPositive, hbody.int]

/-- The work of every handler but a tyre's keeps what is absent. -/
theorem work_keeps (hbody : Binds has req) {u : Update} (hu : u ≠ .tyre) {c id : Int} :
    OnDatabase (AbsentKept u.sources has) s (outcome (u.handler.work r c id req) s).2 := by
  cases u with
  | device =>
      refine updateRow_keeps fun now => ?_
      simp +contextual [Update.sources, only, keepText, keepPositive, Fields.date, hbody.text,
        hbody.int, hbody.time]
  | adminDevice =>
      refine keeps_now.bind (fun now => (Honest.keeps ?_ _).bind fun _ =>
        Keeps.ite (keeps_throw _) (keeps_pure _)) s
      simp +contextual [Update.sources, only, keepText, toLower_empty, hbody.text]
  | deviceConfig => exact deviceConfig_keeps hbody
  | vehicle =>
      refine updateRow_keeps fun now => ?_
      simp +contextual [Update.sources, only, keepText, keepPositive, keepPositiveReal, hbody.text,
        hbody.int, hbody.real]
  | vehicleConfig =>
      refine keeps_now.bind (fun now => (Honest.keeps ?_ _).bind fun _ => keeps_pure _) s
      simp +contextual [Update.sources, only, keepText, keepPositive, keepPositiveReal, hbody.text,
        hbody.int, hbody.real]
  | driver =>
      refine updateRow_keeps fun now => ?_
      simp +contextual [Update.sources, only, keepText, Fields.date, hbody.text, hbody.int,
        hbody.time]
  | geofence =>
      refine updateRow_keeps fun now => ?_
      simp +contextual [Update.sources, only, keepText, keepPositive, hasGeometry, hbody.text,
        hbody.int, hbody.flag, hbody.coordinates]
  | poi =>
      refine updateRow_keeps fun now => ?_
      have hpoint : ¬(has "lat" ∧ has "lng") → ¬(req.real "lat" ≠ 0 ∧ req.real "lng" ≠ 0) :=
        fun habsent hgiven => habsent
          ⟨not_imp_comm.mp hbody.real hgiven.1, not_imp_comm.mp hbody.real hgiven.2⟩
      simp +contextual [Update.sources, only, keepText, hbody.text, hpoint]
  | trip =>
      refine updateRow_keeps fun now => ?_
      simp +contextual [Update.sources, only, keepText, keepPositiveReal, hbody.text, hbody.int,
        hbody.real, hbody.time]
  | route =>
      refine updateRow_keeps fun now => ?_
      simp +contextual [Update.sources, only, keepText, keepPositive, keepPositiveReal, hbody.text,
        hbody.int, hbody.real, hbody.flag]
  | party =>
      refine updateRow_keeps fun now => ?_
      simp +contextual [Update.sources, only, keepText, hbody.text]
  | receipt =>
      refine updateRow_keeps fun now => ?_
      simp +contextual [Update.sources, only, keepText, keepPositiveReal, keepPositiveMoney,
        hbody.text, hbody.real]
  | alertRule =>
      refine updateRow_keeps fun now => ?_
      simp +contextual [Update.sources, only, keepText, hbody.text, hbody.flag, hbody.json]
  | reminder =>
      refine updateRow_keeps fun now => ?_
      simp +contextual [Update.sources, only, keepText, keepPositive, Fields.date, hbody.text,
        hbody.int, hbody.flag, hbody.time]
  | fleetTrip =>
      refine updateRow_keeps fun now => ?_
      simp +contextual [Update.sources, only, keepText, keepPositiveMoney, balanceAfter, hbody.text,
        hbody.real]
  | tyre => exact absurd rfl hu
  | complaint =>
      refine updateRow_keeps fun now => ?_
      simp +contextual [Update.sources, only, keepText, hbody.text]
  | master => exact master_keeps hbody
  | company => exact company_keeps (r := r) (c := c) hbody
  | user => exact user_keeps (r := r) (c := c) hbody
  | invoice =>
      refine updateRow_keeps fun now => ?_
      simp +contextual [Update.sources, only, keepText, keepPositiveMoney, Fields.date, toLower_empty,
        hbody.text, hbody.real, hbody.time]

end

/-- A tyre that a request changes was never retreaded, unless the request says how often. -/
def RetreadingKept (has : String → Prop) (s : Server) (r : Request) : Prop :=
  s.pool = true → updateTyreHandler.refuses r = none → s.Clear → ¬has "retreadingCount" →
    ∀ row ∈ s.db.tables .tyreRecords,
      Condition.selects (ownRow (r.id.getD 0) (getEffectiveCompanyID r)) row = true →
        row "retreading_count" = some (.int 0)

theorem tyre_kept_iff_retreadingKept {has : String → Prop} {s : Server} {r : Request}
    (hbody : Binds has r.fields) :
    AbsentKept Update.tyre.sources has s.db (outcome (updateTyreHandler.serve r) s).2.db ↔
      RetreadingKept has s r := by
  rcases outcome_serve_cases updateTyreHandler r s with
    ⟨error, hout, hwhy⟩ | ⟨hpool, hrefuses, hout⟩
  · rw [hout]
    refine iff_of_true (refl_of (AbsentKept _ has) s.db) fun hpool hrefuses => ?_
    rcases hwhy with ⟨hnone, -⟩ | hsome
    · simp [hpool] at hnone
    · simp [hrefuses] at hsome
  · rw [hout]
    rcases updateRow_cases _ .tyreRecords _ _ _ s r (getEffectiveCompanyID r) (r.id.getD 0)
      r.fields with ⟨n, hclear, hexec⟩ | ⟨hdb, hrefused⟩
    · refine (update_kept_iff hexec).trans ?_
      simp only [tyre_kept_iff hbody]
      exact ⟨fun h _ _ _ habsent row hrow hselects => h row hrow hselects habsent,
        fun h row hrow hselects habsent => h hpool hrefuses hclear habsent row hrow hselects⟩
    · rw [show (outcome (updateTyreHandler.work r _ _ r.fields) s).2.db = s.db from hdb]
      refine iff_of_true (refl_of (AbsentKept _ has) s.db) fun _ _ hclear => ?_
      refine absurd (hrefused hclear) (Option.ne_none_iff_exists'.mpr
        ⟨_, (s.db.exec_update ?_ _).choose_spec⟩)
      exact Schema.Free.of_columns ["axle_position", "tread_depth_mm", "status",
        "retreading_count", "current_km", "updated_at"] rfl (by decide) (by decide) (by decide)

/-- **Absent fields leave every column alone exactly if no tyre's retreading count is reset.** -/
theorem absent_kept_iff (u : Update) (has : String → Prop) (s : Server) (r : Request)
    (hbody : Binds has r.fields) :
    AbsentKept u.sources has s.db (outcome (u.handler.serve r) s).2.db ↔
      (u = .tyre → RetreadingKept has s r) := by
  by_cases hu : u = .tyre
  · subst hu
    rw [imp_iff_right rfl]
    exact tyre_kept_iff_retreadingKept hbody
  · refine iff_of_true ?_ fun htyre => absurd htyre hu
    exact serve_related fun _ => work_keeps hbody hu

/-! ### A tyre that was retreaded -/

/-- A tyre of company 1 that was retreaded so many times. -/
def tyreRow (retreadingCount : Int) : Row Datum :=
  Table.row .tyreRecords 0
    [("id", some (.int 1)), ("company_id", some (.int 1)),
      ("retreading_count", some (.int retreadingCount))]

/-- A company with a tyre that was retreaded twice. -/
def tyreCompany : SQL.Database schema Datum where
  tables
    | .companies => [Table.row .companies 0 [("id", some (.int 1))]]
    | .tyreRecords => [tyreRow 2]
    | _ => []
  valid := by decide

/-- A company with a new tyre. -/
def newTyre : SQL.Database schema Datum where
  tables
    | .companies => [Table.row .companies 0 [("id", some (.int 1))]]
    | .tyreRecords => [tyreRow 0]
    | _ => []
  valid := by decide

/-- A request to set the status of the tyre, and nothing else. -/
def removeTyre : Request where
  session := ⟨9, 1, "workshop", "admin"⟩
  id := some 1
  type := ""
  companyID := none
  body := .ok { Fields.empty with text := fun field => if field = "status" then "Removed" else "" }

theorem removeTyre_binds : Binds (· = "status") removeTyre.fields where
  text := fun habsent => if_neg habsent
  int := fun _ => rfl
  real := fun _ => rfl
  flag := fun _ => rfl
  time := fun _ _ => rfl
  json := fun _ => rfl
  coordinates := fun _ => rfl

/-- **A new status resets how often the tyre was retreaded.** -/
theorem removeTyre_not_kept :
    Binds (· = "status") removeTyre.fields ∧
      ¬AbsentKept Update.tyre.sources (· = "status") tyreCompany
        (outcome (Update.tyre.handler.serve removeTyre) (calm tyreCompany .lenient [])).2.db := by
  refine ⟨removeTyre_binds, fun hkept => ?_⟩
  have hcount : ((outcome (Update.tyre.handler.serve removeTyre)
      (calm tyreCompany .lenient [])).2.db.tables .tyreRecords).map (· "retreading_count") =
        [some (.int 0)] := by
    decide +kernel
  obtain ⟨row, rest, hrow, -, hafter⟩ := List.forall₂_cons_left_iff.mp (hkept .tyreRecords)
  have hsame := hrow "retreading_count" (by decide) (by simp [Update.sources, only])
  simp only [hafter, List.map_cons, hsame, List.cons.injEq] at hcount
  exact absurd hcount.1 (by decide)

/-- A tyre that was never retreaded keeps that. -/
theorem removeTyre_kept :
    AbsentKept Update.tyre.sources (· = "status") newTyre
      (outcome (Update.tyre.handler.serve removeTyre) (calm newTyre .lenient [])).2.db := by
  refine (absent_kept_iff .tyre _ (calm newTyre .lenient []) removeTyre removeTyre_binds).mpr
    fun _ _ _ _ _ row hrow _ => ?_
  obtain rfl := List.mem_singleton.mp hrow
  rfl

end RudraNetra.API
