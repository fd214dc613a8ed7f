/-
What requests leave alone.

Each request of the API writes certain columns of certain tables (`ApiCall.writes`), whatever
its fields are and wherever it fails.  So a run of requests, by whomever they are sent, keeps
every column that none of them writes (`Server.Grows`): a row that is still there has it as it
was, and rows go only from where one of the requests deletes.

A row is the same as long as its `id` is.  No `id` comes twice: a new row takes the next
value of its table's sequence, which a transaction that is rolled back does not give back.
-/
import RudraNetra.Api.Gateway
import RudraNetra.Lib.Footprint
import RudraNetra.Proofs.Statements

namespace RudraNetra.API

open SQL Effect

/-! ### What requests write -/

/-- What a request of the protected group writes. -/
def Endpoint.writes : Endpoint → List (Write Table)
  | changePassword => [.update .users ["password_hash"]]
  | createDevice =>
    [.insert .devices,
      .update .devices ["device_type", "sim_no", "sim_operator", "port", "firmware_ver",
        "warranty_end", "updated_at"],
      .update .vehicles ["device_id", "updated_at"]]
  | updateDevice =>
    [.update .devices ["device_type", "sim_no", "sim_operator", "port", "status", "firmware_ver",
      "warranty_end", "updated_at"]]
  | deleteDevice => [.delete .devices]
  | assignDevice => [.update .vehicles ["device_id"], .update .vehicles ["device_id", "updated_at"]]
  | updateDeviceConfig =>
    [.update .devices ["device_type", "firmware_ver", "port", "updated_at"],
      .update .companySettings ["idle_threshold_minutes", "speed_threshold_kmh", "updated_at"]]
  | createVehicle => [.insert .vehicles]
  | updateVehicle =>
    [.update .vehicles ["reg_number", "make", "model", "variant", "body_type", "fuel_type",
      "fuel_capacity", "max_speed", "odometer", "icon_type", "device_id", "updated_at"]]
  | updateVehicleConfig =>
    [.update .vehicles ["max_speed", "fuel_capacity", "icon_type", "updated_at"]]
  | createDriver => [.insert .drivers]
  | updateDriver =>
    [.update .drivers ["name", "phone", "license_no", "license_expiry", "rfid_tag", "status",
      "assigned_vehicle_id", "updated_at"]]
  | deleteDriver => [.delete .drivers]
  | createGeofence => [.insert .geofences]
  | updateGeofence =>
    [.update .geofences ["name", "type", "speed_limit", "alert_on_enter", "alert_on_exit",
      "is_active", "geom", "updated_at"]]
  | deleteGeofence => [.delete .geofences]
  | checkGeofence => []
  | createPOI => [.insert .poi]
  | updatePOI => [.update .poi ["name", "category", "address", "phone", "location"]]
  | deletePOI => [.delete .poi]
  | createReminder => [.insert .reminders]
  | updateReminder =>
    [.update .reminders ["is_acknowledged", "due_date", "notes", "alert_before_days",
      "updated_at"]]
  | deleteReminder => [.delete .reminders]
  | sendDeviceCommand => [.insert .deviceCommands]
  | createTempUser => [.insert .tempUsers]
  | deleteTempUser => [.delete .tempUsers]
  | createGroup => [.insert .vehicleGroups, .insert .vehicleGroupMembers]
  | updateGroup =>
    [.update .vehicleGroups ["name", "description", "updated_at"], .delete .vehicleGroupMembers,
      .insert .vehicleGroupMembers]
  | deleteGroup => [.delete .vehicleGroups]
  | addDevicesToGroup => [.insert .vehicleGroupMembers]
  | createTrip => [.insert .trips]
  | updateTrip => [.update .trips ["vehicle_id", "driver_id", "distance_km", "status", "end_time"]]
  | deleteTrip => [.delete .trips]
  | createRoute => [.insert .routes]
  | updateRoute =>
    [.update .routes ["name", "source", "destination", "distance_km", "estimated_minutes",
      "is_active", "updated_at"]]
  | deleteRoute => [.delete .routes]
  | createParty => [.insert .fleetParties]
  | updateParty => [.update .fleetParties ["name", "contact", "phone", "email", "address"]]
  | createLR => [.insert .loadingReceipts, .update .loadingReceipts ["lr_number"]]
  | updateLR => [.update .loadingReceipts ["status", "weight_kg", "freight_amt", "advance_amt"]]
  | createFleetTrip => [.insert .fleetTrips]
  | updateFleetTrip =>
    [.update .fleetTrips ["status", "expense_amount", "balance_amount", "updated_at"]]
  | createPartyRoute => [.insert .partyRoutes]
  | createVoucher =>
    [.insert .tripVouchers, .update .fleetTrips ["expense_amount", "balance_amount", "updated_at"]]
  | createGatePass => [.insert .gatePasses, .update .gatePasses ["pass_number"]]
  | createTyre => [.insert .tyreRecords]
  | updateTyre =>
    [.update .tyreRecords ["axle_position", "tread_depth_mm", "status", "retreading_count",
      "current_km", "updated_at"]]
  | deleteTyre => [.delete .tyreRecords]
  | acknowledgeAlert | acknowledgeAllAlerts =>
    [.update .alerts ["acknowledged", "acknowledged_by"]]
  | createAlertRule => [.insert .alertRules]
  | updateAlertRule =>
    [.update .alertRules ["name", "description", "config", "sms_enabled", "email_enabled",
      "sms_template", "is_active"]]
  | deleteAlertRule => [.delete .alertRules]
  | updateSmsConfig =>
    [.insert .smsConfig,
      .update .smsConfig ["provider", "sender_id", "api_key", "enabled", "updated_at"]]
  | createRFIDTag | assignRFID => [.update .drivers ["rfid_tag", "updated_at"]]
  | createInvoice => [.insert .invoices]
  | updateInvoice => [.update .invoices ["status", "paid_amount", "due_date", "notes"]]
  | createComplaint => [.insert .complaints]
  | updateComplaint =>
    [.update .complaints ["status", "technician_assigned", "resolution_notes", "updated_at"]]
  | createMaster => [.insert .lookupMasters, .update .lookupMasters ["is_default"]]
  | updateMaster =>
    [.update .lookupMasters ["is_default"], .update .lookupMasters ["code", "name", "is_default"]]
  | deleteMaster => [.delete .lookupMasters]
  | updateCompanySettings =>
    [.update .companies ["name", "contact_person", "email", "phone", "city", "address",
        "updated_at"],
      .insert .companySettings,
      .update .companySettings ["idle_threshold_minutes", "speed_threshold_kmh", "timezone",
        "language", "vat_percent", "updated_at"]]

/-- What a request of the superadmin's group writes. -/
def AdminEndpoint.writes : AdminEndpoint → List (Write Table)
  | createCompany => [.insert .companies, .update .companies ["api_key"]]
  | updateCompany =>
    [.update .companies ["name", "code", "contact_person", "email", "phone", "database_name",
        "city", "address", "status", "max_devices", "max_users", "sira_relay", "updated_at"],
      .update .companies ["api_key"]]
  | createUser => [.insert .users]
  | updateUser =>
    [.update .users ["full_name", "email", "phone", "role", "company_id", "is_active",
        "updated_at"],
      .update .users ["password_hash"]]
  | createDevice =>
    [.insert .devices,
      .update .devices ["sim_no", "sim_operator", "device_type", "firmware_ver", "company_id",
        "port", "updated_at"]]
  | updateDevice =>
    [.update .devices ["sim_no", "sim_operator", "firmware_ver", "status", "updated_at"]]
  | createWarranty => [.insert .warrantyRecords]
  | createBilling => [.insert .invoices]
  | createMaster => Endpoint.createMaster.writes
  | updateMaster => Endpoint.updateMaster.writes
  | deleteMaster => Endpoint.deleteMaster.writes

def ApiCall.writes : ApiCall → List (Write Table)
  | .login _ => [.update .users ["last_login_at"]]
  | .signup _ => [.insert .users]
  | .refresh _ => []
  | .request endpoint _ _ => endpoint.writes
  | .admin endpoint _ _ => endpoint.writes

/-! ### How a server grows -/

/-- The row has no `id`, or one that the sequences have yet to yield. -/
def Server.Unissued (s : Server) (t : Table) (row : Row Datum) : Prop :=
  ∀ id, row "id" = some (.int id) → s.serial t ≤ id

/-- How a server may differ from what it was. -/
structure Server.Grows (writes : List (Write Table)) (s s' : Server) : Prop where
  serial : ∀ t, s.serial t ≤ s'.serial t
  evolves : Evolves schema writes s.Unissued s.db.tables s'.db.tables

section

variable {writes : List (Write Table)} {s s' : Server} {t : Table} {columns : Columns}

theorem Server.Grows.of_evolves (hserial : s'.serial = s.serial)
    (h : Evolves schema writes s.Unissued s.db.tables s'.db.tables) : s.Grows writes s' :=
  ⟨fun t => (congrFun hserial t).ge, h⟩

/-- Nothing has happened but to the sequences. -/
theorem Server.Grows.of_same (hdb : s'.db = s.db) (hserial : ∀ t, s.serial t ≤ s'.serial t) :
    s.Grows writes s' := by
  refine ⟨hserial, ?_⟩
  rw [hdb]
  exact .refl _

theorem Server.Grows.mono {writes' : List (Write Table)} (h : s.Grows writes s')
    (hsub : writes ⊆ writes') : s.Grows writes' s' :=
  ⟨h.serial, h.evolves.mono hsub fun _ _ hrow => hrow⟩

instance : Std.Refl (Server.Grows writes) := ⟨fun _ => .of_same rfl fun _ => le_rfl⟩

instance : IsTrans Server (Server.Grows writes) where
  trans := by
    intro s s' s'' h h'
    refine ⟨fun t => (h.serial t).trans (h'.serial t), h.evolves.trans ?_ ?_⟩
    · intro t row row' hid hrow id hid'
      exact hrow id (hid ▸ hid')
    · exact h'.evolves.mono (fun _ hwrite => hwrite) fun t row hrow id hid =>
        (h.serial t).trans (hrow id hid)

/-! ### Statements -/

/-- References are not kept in `id`. -/
theorem column_ne_id : ∀ fk ∈ schema.foreignKeys, fk.column ≠ "id" := by decide

/-- A statement that brings no row with an `id`. -/
theorem grows_exec {stmt : SQL.Statement Table Datum} (hwithin : stmt.Within writes)
    (hbrings : ∀ t row, stmt.brings = some (t, row) → row "id" = none) :
    Keeps (Server.Grows writes) (exec stmt) := by
  intro s
  rcases outcome_exec_cases s stmt with ⟨db, n, -, hexec, hout⟩ | ⟨hout, -⟩
  · rw [hout]
    refine .of_evolves rfl (Database.exec_evolves column_ne_id hwithin ?_ hexec)
    intro t row hrow id hid
    rw [hbrings t row hrow] at hid
    cases hid
  · rw [hout]
    exact .of_same rfl fun _ => le_rfl

/-- Assignments to columns of a list, none of them the `id`. -/
theorem within_of_columns {set : List Assignment} {cols : List String}
    (hwrite : .update t cols ∈ writes) (hcolumns : set.map Prod.fst = cols) (hid : "id" ∉ cols) :
    Assignments.Within writes t set := by
  refine ⟨cols, hwrite, fun c hc => ?_⟩
  rw [hcolumns] at hc
  refine ⟨hc, ?_⟩
  rintro rfl
  exact hid hc

theorem grows_update {set : List Assignment} {cond : Condition Datum} {cols : List String}
    (hwrite : .update t cols ∈ writes) (hcolumns : set.map Prod.fst = cols) (hid : "id" ∉ cols) :
    Keeps (Server.Grows writes) (exec (.update t set cond)) :=
  grows_exec (within_of_columns hwrite hcolumns hid) fun _ _ hbrings => by cases hbrings

theorem grows_delete {cond : Condition Datum} (hwrite : .delete t ∈ writes) :
    Keeps (Server.Grows writes) (exec (.delete t cond)) :=
  grows_exec hwrite fun _ _ hbrings => by cases hbrings

/-- A sequence that has yielded a value. -/
theorem serial_le_update (serial : Table → Int) (t u : Table) :
    serial u ≤ Function.update serial t (serial t + 1) u := by
  by_cases hu : u = t
  · subst hu
    rw [Function.update_self]
    omega
  · rw [Function.update_of_ne hu]

theorem row_id (now id : Int) :
    t.row now (("id", some (.int id)) :: columns) "id" = some (.int id) := by
  simp [Table.row]

/-- A new row takes the next `id`. -/
theorem unissued_row (s : Server) (t : Table) (columns : Columns) :
    s.Unissued t (t.row s.now (("id", some (.int (s.serial t))) :: columns)) := by
  intro id hid
  rw [row_id] at hid
  obtain rfl : s.serial t = id := by simpa using hid
  exact le_rfl

theorem grows_insertReturning (hwrite : .insert t ∈ writes) :
    Keeps (Server.Grows writes) (insertReturning t columns) := by
  intro s
  rcases outcome_insertReturning_cases s t columns with
    ⟨db, n, s', -, hexec, hout, hdb, -, -, -, hserial⟩ | ⟨s', hout, hdb, hserial, -⟩
  · rw [hout]
    subst hdb
    refine ⟨fun u => hserial ▸ serial_le_update s.serial t u, ?_⟩
    have hwithin : Statement.Within writes
        (.insert t (t.row s.now (("id", some (.int (s.serial t))) :: columns))) := hwrite
    refine Database.exec_evolves column_ne_id hwithin ?_ hexec
    intro u row hrow
    obtain ⟨rfl, rfl⟩ : t = u ∧ _ = row := by simpa [Statement.brings] using hrow
    exact unissued_row s t columns
  · rw [hout]
    exact .of_same hdb fun u => hserial ▸ serial_le_update s.serial t u

theorem grows_of_same {α : Type} {x : Api α}
    (h : ∀ s, (outcome x s).2.db = s.db ∧ (outcome x s).2.serial = s.serial) :
    Keeps (Server.Grows writes) x :=
  fun s => .of_same (h s).1 fun t => (congrFun (h s).2 t).ge

theorem grows_now : Keeps (Server.Grows writes) now := grows_of_same fun _ => ⟨rfl, rfl⟩

theorem grows_selectFirst (t : Table) (cond : Row Datum → Bool) :
    Keeps (Server.Grows writes) (selectFirst t cond) := by
  refine grows_of_same fun s => ?_
  rw [selectFirst, outcome_ofOutcome]
  split <;> exact ⟨rfl, rfl⟩

theorem grows_selectAll (t : Table) (cond : Row Datum → Bool) :
    Keeps (Server.Grows writes) (selectAll t cond) := by
  refine grows_of_same fun s => ?_
  rw [selectAll, outcome_ofOutcome]
  split <;> exact ⟨rfl, rfl⟩

theorem grows_publish (command : PublishedCommand) :
    Keeps (Server.Grows writes) (publish command) := by
  refine grows_of_same fun s => ?_
  rw [publish, outcome_ofOutcome]
  split_ifs <;> exact ⟨rfl, rfl⟩

/-- A transaction that is rolled back gives no `id` back. -/
theorem grows_transaction {α : Type} {body : Api α} (h : Keeps (Server.Grows writes) body) :
    Keeps (Server.Grows writes) (transaction body) := by
  intro s
  rw [transaction, outcome_ofOutcome]
  split
  · exact .of_same rfl fun _ => le_rfl
  · have hbody := h { s with faults := s.faults.tail, tx := some false }
    rcases hout : outcome body { s with faults := s.faults.tail, tx := some false } with ⟨e | a, s'⟩
    · rw [hout] at hbody
      exact .of_same rfl hbody.serial
    · rw [hout] at hbody
      dsimp only
      split
      · exact .of_same rfl hbody.serial
      · exact ⟨hbody.serial, hbody.evolves⟩

/-! ### Handlers of one kind -/

variable {c id : Int} {r : Request} {req : Fields} {checks : List Check} {message : String}

theorem grows_createRow {columns : Int → Fields → Columns} (hwrite : .insert t ∈ writes) :
    Keeps (Server.Grows writes) ((createRow checks t columns message).work r c id req) :=
  grows_now.bind fun _ => (grows_insertReturning hwrite).bind fun _ => keeps_pure _

theorem grows_updateRow {set : Int → Fields → List Assignment} {missing : String}
    {cols : List String} (hwrite : .update t cols ∈ writes)
    (hcolumns : ∀ now, (set now req).map Prod.fst = cols) (hid : "id" ∉ cols) :
    Keeps (Server.Grows writes) ((updateRow checks t set missing message).work r c id req) :=
  grows_now.bind fun now => (grows_update hwrite (hcolumns now) hid).bind fun _ =>
    .ite ((keeps_throw _).bind fun _ => keeps_pure _) (keeps_pure _)

theorem grows_deleteRow {invalid : String} (hwrite : .delete t ∈ writes) :
    Keeps (Server.Grows writes) ((deleteRow t invalid message).work r c id req) :=
  (grows_delete hwrite).bind fun _ => keeps_pure _

/-- An update, and an error if there is no row. -/
theorem grows_updateOr {set : List Assignment} {cond : Condition Datum} {cols : List String}
    {error : Response} {answer : Api Response} (hwrite : .update t cols ∈ writes)
    (hcolumns : set.map Prod.fst = cols) (hid : "id" ∉ cols)
    (hanswer : Keeps (Server.Grows writes) answer) :
    Keeps (Server.Grows writes) (do
      let affected ← exec (.update t set cond)
      if affected = 0 then throw error
      answer) :=
  (grows_update hwrite hcolumns hid).bind fun _ =>
    .ite ((keeps_throw _).bind fun _ => hanswer) hanswer

end

/-! ### The handlers of the protected group -/

section

variable {writes : List (Write Table)} {c id : Int} {r : Request} {req : Fields}

theorem updatePassword_grows (hwrite : .update .users ["password_hash"] ∈ writes) (userID : Int)
    (hash : String) : Keeps (Server.Grows writes) (updatePassword userID hash) :=
  Keeps.bind (grows_update hwrite (by rfl) (by decide)) fun _ => keeps_pure _

theorem changePassword_grows :
    Keeps (Server.Grows Endpoint.changePassword.writes) (changePasswordHandler.work r c id req) := by
  have hget : Keeps (Server.Grows Endpoint.changePassword.writes) (getByID r.session.userID) :=
    (grows_selectFirst _ _).bind fun _ => keeps_pure _
  refine hget.bind fun found => ?_
  cases found with
  | none => exact keeps_throw _
  | some user =>
      refine keeps_get.bind fun s => ?_
      refine .ite ((keeps_throw _).bind fun _ => ?_) ?_
      all_goals
        cases s.bcrypt.hash (req.text "new_password") with
        | none => exact keeps_throw _
        | some hash =>
            exact (updatePassword_grows List.mem_cons_self _ _).bind fun _ => keeps_pure _

theorem createDevice_grows :
    Keeps (Server.Grows Endpoint.createDevice.writes) (createDeviceHandler.work r c id req) := by
  refine (grows_insertReturning (.head _)).bind fun newID => grows_now.bind fun now => ?_
  refine Keeps.bind (grows_update (.tail _ (.head _)) (by rfl) (by decide)).attempt fun _ => ?_
  refine .ite ?_ (keeps_pure _)
  exact Keeps.bind (grows_update (.tail _ (.tail _ (.head _))) (by rfl) (by decide)).attempt fun _ =>
    keeps_pure _

theorem assignDevice_grows :
    Keeps (Server.Grows Endpoint.assignDevice.writes) (assignDeviceHandler.work r c id req) := by
  have htarget : Keeps (Server.Grows Endpoint.assignDevice.writes) (targetVehicle c req) :=
    .ite (keeps_pure _) ((grows_selectFirst _ _).bind fun _ => keeps_pure _)
  refine htarget.bind fun vehicle => ?_
  cases vehicle with
  | none => exact keeps_throw _
  | some vehicleID =>
      refine (grows_transaction ?_).bind fun _ => keeps_pure _
      refine Keeps.bind (grows_update (.head _) (by rfl) (by decide)) fun _ => ?_
      refine grows_now.bind fun _ => ?_
      exact Keeps.bind (grows_update (.tail _ (.head _)) (by rfl) (by decide)) fun _ =>
        .ite (keeps_throw _) (keeps_pure _)

theorem updateDeviceConfig_grows : Keeps (Server.Grows Endpoint.updateDeviceConfig.writes)
    (updateDeviceConfigHandler.work r c id req) := by
  refine grows_now.bind fun now => ?_
  refine Keeps.bind (grows_update (.head _) (by rfl) (by decide)) fun _ => .ite ?_ (keeps_pure _)
  exact Keeps.bind (grows_update (.tail _ (.head _)) (by rfl) (by decide)).attempt fun _ => keeps_pure _

theorem updateVehicleConfig_grows : Keeps (Server.Grows Endpoint.updateVehicleConfig.writes)
    (updateVehicleConfigHandler.work r c id req) :=
  grows_now.bind fun _ => Keeps.bind (grows_update (.head _) (by rfl) (by decide)) fun _ => keeps_pure _

theorem createDriver_grows :
    Keeps (Server.Grows Endpoint.createDriver.writes) (createDriverHandler.work r c id req) := by
  have hvehicle : Keeps (Server.Grows Endpoint.createDriver.writes) (assignedVehicle c req) :=
    .ite (keeps_pure _) <|
      .ite ((grows_selectFirst _ _).bind fun _ => keeps_pure _) (keeps_pure _)
  exact hvehicle.bind fun _ => (grows_insertReturning (.head _)).bind fun _ => keeps_pure _

theorem createRFIDTag_grows :
    Keeps (Server.Grows Endpoint.createRFIDTag.writes) (createRFIDTagHandler.work r c id req) :=
  grows_now.bind fun _ => grows_updateOr (.head _) (by rfl) (by decide) (keeps_pure _)

theorem addMember_grows (hwrite : .insert .vehicleGroupMembers ∈ writes)
    (groupID vehicleID : Int) : Keeps (Server.Grows writes) (addMember groupID vehicleID) := by
  refine grows_now.bind fun now => Keeps.bind (Keeps.attempt (grows_exec hwrite ?_)) fun _ =>
    keeps_pure _
  intro t row hbrings
  obtain ⟨-, rfl⟩ : Table.vehicleGroupMembers = t ∧ _ = row := by
    simpa [Statement.brings] using hbrings
  rfl

theorem createGroup_grows :
    Keeps (Server.Grows Endpoint.createGroup.writes) (createGroupHandler.work r c id req) := by
  refine (grows_transaction ?_).bind fun _ => keeps_pure _
  refine (grows_insertReturning (.head _)).bind fun newID => ?_
  exact (Keeps.forM _ (addMember_grows (.tail _ (.head _)) newID)).bind fun _ => keeps_pure _

theorem updateGroup_grows :
    Keeps (Server.Grows Endpoint.updateGroup.writes) (updateGroupHandler.work r c id req) := by
  refine grows_now.bind fun now => ?_
  refine Keeps.bind (grows_update (.head _) (by rfl) (by decide)) fun _ => ?_
  cases req.ints "vehicleIds" with
  | none => exact keeps_pure _
  | some vehicleIDs =>
      refine (grows_delete (.tail _ (.head _))).bind fun _ => ?_
      exact (Keeps.forM _ (addMember_grows (.tail _ (.tail _ (.head _))) id)).bind fun _ =>
        keeps_pure _

theorem addDevicesToGroup_grows : Keeps (Server.Grows Endpoint.addDevicesToGroup.writes)
    (addDevicesToGroupHandler.work r c id req) := by
  refine Keeps.bind (.forM _ fun vehicleID => ?_) fun _ => keeps_pure _
  exact keeps_get.bind fun s => .ite (addMember_grows (.head _) id vehicleID) (keeps_pure _)

theorem createLR_grows :
    Keeps (Server.Grows Endpoint.createLR.writes) (createLRHandler.work r c id req) := by
  refine (grows_selectFirst _ _).bind fun vehicle => (grows_selectFirst _ _).bind fun party => ?_
  refine (grows_insertReturning (.head _)).bind fun newID => .ite ?_ (keeps_pure _)
  exact Keeps.bind (Keeps.attempt (grows_update (.tail _ (.head _)) (by rfl) (by decide))) fun _ =>
    keeps_pure _

theorem createGatePass_grows :
    Keeps (Server.Grows Endpoint.createGatePass.writes) (createGatePassHandler.work r c id req) := by
  refine (grows_selectFirst _ _).bind fun vehicle => (grows_selectFirst _ _).bind fun driver => ?_
  refine grows_now.bind fun now => (grows_insertReturning (.head _)).bind fun newID => ?_
  exact Keeps.bind (Keeps.attempt (grows_update (.tail _ (.head _)) (by rfl) (by decide))) fun _ =>
    keeps_pure _

theorem createFleetTrip_grows :
    Keeps (Server.Grows Endpoint.createFleetTrip.writes) (createFleetTripHandler.work r c id req) :=
  grows_now.bind fun _ => (grows_insertReturning (.head _)).bind fun _ => keeps_pure _

theorem createVoucher_grows :
    Keeps (Server.Grows Endpoint.createVoucher.writes) (createVoucherHandler.work r c id req) := by
  refine (grows_transaction ?_).bind fun _ => keeps_pure _
  refine (grows_insertReturning (.head _)).bind fun newID => grows_now.bind fun now => ?_
  exact Keeps.bind (grows_update (.tail _ (.head _)) (by rfl) (by decide)) fun _ => keeps_pure _

theorem vatPercent_grows (companyID : Int) : Keeps (Server.Grows writes) (vatPercent companyID) :=
  (grows_selectFirst _ _).bind fun _ => keeps_pure _

theorem nextInvoiceID_grows : Keeps (Server.Grows writes) nextInvoiceID :=
  (grows_selectAll _ _).attempt.bind fun _ => keeps_pure _

theorem createInvoice_grows :
    Keeps (Server.Grows Endpoint.createInvoice.writes) (createInvoiceHandler.work r c id req) := by
  have hinsert : ∀ (columns : Columns) (answer : Int → Response),
      Keeps (Server.Grows Endpoint.createInvoice.writes)
        (insertReturning .invoices columns >>= fun newID => pure (answer newID)) :=
    fun _ _ => (grows_insertReturning (.head _)).bind fun _ => keeps_pure _
  refine grows_now.bind fun now => ?_
  refine .ite ((vatPercent_grows _).bind fun vat => (keeps_pure _).bind fun tax => ?_)
    ((keeps_pure _).bind fun tax => ?_)
  all_goals
    exact .ite (nextInvoiceID_grows.bind fun _ => (keeps_pure _).bind fun _ => hinsert _ _)
      ((keeps_pure _).bind fun _ => hinsert _ _)

theorem createComplaint_grows :
    Keeps (Server.Grows Endpoint.createComplaint.writes) (createComplaintHandler.work r c id req) :=
  grows_now.bind fun _ => (grows_insertReturning (.head _)).bind fun _ => keeps_pure _

theorem sendDeviceCommand_grows : Keeps (Server.Grows Endpoint.sendDeviceCommand.writes)
    (sendDeviceCommandHandler.work r c id req) := by
  have hpin : Keeps (Server.Grows Endpoint.sendDeviceCommand.writes) (pinMatches c req) :=
    (grows_selectFirst _ _).bind fun _ => keeps_pure _
  refine .ite (hpin.bind fun ok => .ite ((keeps_throw _).bind fun _ => ?_) ?_) ?_
  all_goals
    refine (grows_selectFirst _ _).bind fun device => ?_
    cases device with
    | none => exact keeps_throw _
    | some device =>
        exact keeps_get.bind fun _ => (grows_insertReturning (.head _)).bind fun _ =>
          (grows_publish _).bind fun _ => keeps_pure _

theorem createTempUser_grows :
    Keeps (Server.Grows Endpoint.createTempUser.writes) (createTempUserHandler.work r c id req) :=
  keeps_get.bind fun _ => grows_now.bind fun _ => (grows_insertReturning (.head _)).bind fun _ =>
    keeps_pure _

theorem acknowledgeAlert_grows : Keeps (Server.Grows Endpoint.acknowledgeAlert.writes)
    (acknowledgeAlertHandler.work r c id req) :=
  grows_updateOr (.head _) (by rfl) (by decide) (keeps_pure _)

theorem acknowledgeAllAlerts_grows : Keeps (Server.Grows Endpoint.acknowledgeAllAlerts.writes)
    (acknowledgeAllAlertsHandler.work r c id req) :=
  Keeps.bind (grows_update (.head _) (by rfl) (by decide)) fun _ => keeps_pure _

/-- A write to the company's row in a table that has one row for each. -/
theorem grows_upsert {t : Table} {now : Int} {columns : Columns} {set : List Assignment}
    {cols : List String} (hinsert : .insert t ∈ writes) (hwrite : .update t cols ∈ writes)
    (hcolumns : set.map Prod.fst = cols) (hid : "id" ∉ cols)
    (hrow : t.row now columns "id" = none) :
    Keeps (Server.Grows writes)
      (exec (.insertOrUpdate t (t.row now columns) ["company_id"] set)) := by
  refine grows_exec ⟨hinsert, within_of_columns hwrite hcolumns hid⟩ fun u row hbrings => ?_
  obtain ⟨-, rfl⟩ : t = u ∧ t.row now columns = row := by simpa [Statement.brings] using hbrings
  exact hrow

theorem updateSmsConfig_grows : Keeps (Server.Grows Endpoint.updateSmsConfig.writes)
    (updateSmsConfigHandler.work r c id req) := by
  refine grows_now.bind fun now => Keeps.bind ?_ fun _ => keeps_pure _
  exact grows_upsert (.head _) (.tail _ (.head _)) (by rfl) (by decide) rfl

theorem updateCompanySettings_grows : Keeps (Server.Grows Endpoint.updateCompanySettings.writes)
    (updateCompanySettingsHandler.work r c id req) := by
  refine grows_now.bind fun now => ?_
  refine Keeps.bind (grows_update (.head _) (by rfl) (by decide)) fun _ => ?_
  refine Keeps.bind ?_ fun _ => keeps_pure _
  exact grows_upsert (.tail _ (.head _)) (.tail _ (.tail _ (.head _))) (by rfl) (by decide) rfl

theorem clearDefaults_grows (hwrite : .update .lookupMasters ["is_default"] ∈ writes)
    (category : String) : Keeps (Server.Grows writes) (clearDefaults category) :=
  Keeps.bind (Keeps.attempt (grows_update hwrite (by rfl) (by decide))) fun _ => keeps_pure _

theorem createMaster_grows :
    Keeps (Server.Grows Endpoint.createMaster.writes) (createMasterHandler.work r c id req) := by
  have hinsert : ∀ (columns : Columns) (answer : Int → Response),
      Keeps (Server.Grows Endpoint.createMaster.writes)
        (insertReturning .lookupMasters columns >>= fun newID => pure (answer newID)) :=
    fun _ _ => (grows_insertReturning (.head _)).bind fun _ => keeps_pure _
  exact .ite ((clearDefaults_grows (.tail _ (.head _)) _).bind fun _ => hinsert _ _) (hinsert _ _)

theorem updateMaster_grows :
    Keeps (Server.Grows Endpoint.updateMaster.writes) (updateMasterHandler.work r c id req) := by
  have hfinish : Keeps (Server.Grows Endpoint.updateMaster.writes) (do
      let affected ← exec (.update .lookupMasters (masterAssignments req) [("id", .int id)])
      if affected = 0 then throw (notFound "master record not found")
      return Response.ok "Master record updated") :=
    grows_updateOr (.tail _ (.head _)) (by rfl) (by decide) (keeps_pure _)
  refine .ite ((grows_selectFirst _ _).bind fun row => ?_) hfinish
  cases row.bind (textOf · "category") with
  | none => exact hfinish
  | some category => exact (clearDefaults_grows (.head _) _).bind fun _ => hfinish

theorem deleteMaster_grows :
    Keeps (Server.Grows Endpoint.deleteMaster.writes) (deleteMasterHandler.work r c id req) :=
  (grows_delete (.head _)).bind fun _ => keeps_pure _

/-- What a handler of the protected group writes. -/
theorem work_grows (e : Endpoint) :
    Keeps (Server.Grows e.writes) (e.handler.work r c id req) := by
  cases e
  case changePassword => exact changePassword_grows
  case createDevice => exact createDevice_grows
  case assignDevice => exact assignDevice_grows
  case updateDeviceConfig => exact updateDeviceConfig_grows
  case updateVehicleConfig => exact updateVehicleConfig_grows
  case createDriver => exact createDriver_grows
  case createRFIDTag | assignRFID => exact createRFIDTag_grows
  case checkGeofence => exact keeps_get.bind fun _ => (grows_selectAll _ _).bind fun _ => keeps_pure _
  case sendDeviceCommand => exact sendDeviceCommand_grows
  case createTempUser => exact createTempUser_grows
  case createGroup => exact createGroup_grows
  case updateGroup => exact updateGroup_grows
  case addDevicesToGroup => exact addDevicesToGroup_grows
  case createLR => exact createLR_grows
  case createFleetTrip => exact createFleetTrip_grows
  case createVoucher => exact createVoucher_grows
  case createGatePass => exact createGatePass_grows
  case acknowledgeAlert => exact acknowledgeAlert_grows
  case acknowledgeAllAlerts => exact acknowledgeAllAlerts_grows
  case updateSmsConfig => exact updateSmsConfig_grows
  case createInvoice => exact createInvoice_grows
  case createComplaint => exact createComplaint_grows
  case createMaster => exact createMaster_grows
  case updateMaster => exact updateMaster_grows
  case deleteMaster => exact deleteMaster_grows
  case updateCompanySettings => exact updateCompanySettings_grows
  case createVehicle | createGeofence | createPOI | createReminder | createTrip | createRoute |
      createParty | createPartyRoute | createTyre | createAlertRule =>
    exact grows_createRow (.head _)
  case deleteDevice | deleteDriver | deleteGeofence | deletePOI | deleteReminder | deleteTempUser |
      deleteGroup | deleteTrip | deleteRoute | deleteTyre | deleteAlertRule =>
    exact grows_deleteRow (.head _)
  all_goals exact grows_updateRow (.head _) (fun _ => by rfl) (by decide)

/-! ### The handlers of the superadmin's group -/

theorem createCompany_grows :
    Keeps (Server.Grows AdminEndpoint.createCompany.writes)
      (createCompanyHandler.work r c id req) := by
  refine grows_now.bind fun now => (grows_insertReturning (.head _)).bind fun newID => ?_
  exact Keeps.bind (Keeps.attempt (grows_update (.tail _ (.head _)) (by rfl) (by decide))) fun _ =>
    keeps_pure _

theorem updateCompany_grows :
    Keeps (Server.Grows AdminEndpoint.updateCompany.writes)
      (updateCompanyHandler.work r c id req) := by
  refine grows_now.bind fun now => ?_
  refine grows_updateOr (.head _) (by rfl) (by decide) (.ite ?_ (keeps_pure _))
  refine (grows_selectFirst _ _).bind fun row => ?_
  cases row.bind (textOf · "code") with
  | none => exact keeps_pure _
  | some code =>
      refine grows_now.bind fun unix => ?_
      refine Keeps.bind (Keeps.attempt (grows_update (.tail _ (.head _)) (by rfl) (by decide)))
        fun affected => ?_
      cases affected with
      | none => exact keeps_pure _
      | some n => exact keeps_pure _

theorem createUser_grows : Keeps (Server.Grows AdminEndpoint.createUser.writes)
    (adminCreateUserHandler.work r c id req) := by
  refine keeps_get.bind fun s => ?_
  cases s.bcrypt.hash (req.text "password") with
  | none => exact keeps_throw _
  | some hash => exact (grows_insertReturning (.head _)).bind fun _ => keeps_pure _

theorem updateUser_grows : Keeps (Server.Grows AdminEndpoint.updateUser.writes)
    (adminUpdateUserHandler.work r c id req) := by
  refine grows_now.bind fun now => ?_
  refine grows_updateOr (.head _) (by rfl) (by decide) (.ite ?_ (keeps_pure _))
  refine keeps_get.bind fun s => ?_
  cases s.bcrypt.hash (req.text "password") with
  | none => exact (keeps_throw _).bind fun _ => keeps_pure _
  | some hash => exact (updatePassword_grows (.tail _ (.head _)) _ _).bind fun _ => keeps_pure _

/-- A write to the row with a key, or a new row. -/
theorem grows_insertOrUpdateReturning {t : Table} {columns : Columns} {key : List String}
    {set : List Assignment} {cols : List String} (hinsert : .insert t ∈ writes)
    (hwrite : .update t cols ∈ writes) (hcolumns : set.map Prod.fst = cols) (hid : "id" ∉ cols) :
    Keeps (Server.Grows writes) (insertOrUpdateReturning t columns key set) := by
  intro s
  let drawn := { s with serial := Function.update s.serial t (s.serial t + 1) }
  let row := t.row s.now (("id", some (.int (s.serial t))) :: columns)
  have hsubmit : (drawn.submit (.insertOrUpdate t row key set)).2.serial = drawn.serial ∧
      Evolves schema writes s.Unissued s.db.tables
        (drawn.submit (.insertOrUpdate t row key set)).2.db.tables := by
    unfold Server.submit
    split
    · exact ⟨rfl, .refl _⟩
    · split
      · rename_i db n hexec
        have hwithin : Statement.Within writes (.insertOrUpdate t row key set) :=
          ⟨hinsert, within_of_columns hwrite hcolumns hid⟩
        refine ⟨rfl, Database.exec_evolves column_ne_id hwithin ?_ hexec⟩
        intro u new hbrings
        obtain ⟨rfl, rfl⟩ : t = u ∧ row = new := by simpa [Statement.brings] using hbrings
        exact unissued_row s t columns
      · exact ⟨rfl, .refl _⟩
  have hserial : ∀ u, s.serial u ≤ (drawn.submit (.insertOrUpdate t row key set)).2.serial u := by
    intro u
    rw [hsubmit.1]
    exact serial_le_update s.serial t u
  rw [insertOrUpdateReturning, outcome_ofOutcome]
  rcases hout : drawn.submit (.insertOrUpdate t row key set) with ⟨affected | _, s'⟩
  all_goals
    rw [hout] at hsubmit hserial
    simp only [drawn, row] at hout
    simp only [hout]
    exact ⟨hserial, hsubmit.2⟩

theorem adminCreateDevice_grows : Keeps (Server.Grows AdminEndpoint.createDevice.writes)
    (adminCreateDeviceHandler.work r c id req) := by
  have hcompany : Keeps (Server.Grows AdminEndpoint.createDevice.writes)
      (companyNamed (req.text "companyName")) :=
    .ite ((grows_selectFirst _ _).bind fun _ => keeps_pure _) (keeps_pure _)
  refine hcompany.bind fun companyID => grows_now.bind fun now => ?_
  refine Keeps.bind ?_ fun _ => keeps_pure _
  exact grows_insertOrUpdateReturning (.head _) (.tail _ (.head _)) (by rfl) (by decide)

theorem adminUpdateDevice_grows : Keeps (Server.Grows AdminEndpoint.updateDevice.writes)
    (adminUpdateDeviceHandler.work r c id req) :=
  grows_now.bind fun _ => grows_updateOr (.head _) (by rfl) (by decide) (keeps_pure _)

theorem createWarranty_grows : Keeps (Server.Grows AdminEndpoint.createWarranty.writes)
    (adminCreateWarrantyHandler.work r c id req) := by
  have hcompany : Keeps (Server.Grows AdminEndpoint.createWarranty.writes)
      (deviceCompany (req.int "deviceId") (req.int "companyId")) := by
    refine (grows_selectFirst _ _).bind fun device => ?_
    cases device with
    | none => exact keeps_pure _
    | some device => exact keeps_pure _
  have hinsert : ∀ (columns : Columns) (answer : Int → Response),
      Keeps (Server.Grows AdminEndpoint.createWarranty.writes)
        (insertReturning .warrantyRecords columns >>= fun newID => pure (answer newID)) :=
    fun _ _ => (grows_insertReturning (.head _)).bind fun _ => keeps_pure _
  refine .ite (hcompany.bind fun companyID => ?_) ((keeps_pure _).bind fun companyID => ?_)
  all_goals exact .ite ((keeps_throw _).bind fun _ => hinsert _ _) (hinsert _ _)

theorem createBilling_grows : Keeps (Server.Grows AdminEndpoint.createBilling.writes)
    (createBillingHandler.work r c id req) := by
  have hissue : ∀ companyID (columns : ℚ → Int → Int → Columns)
      (answer : Int → Int → Int → Response),
      Keeps (Server.Grows AdminEndpoint.createBilling.writes) (do
        let vat ← vatPercent companyID
        let nextID ← nextInvoiceID
        let now ← now
        let newID ← insertReturning .invoices (columns vat nextID now)
        return answer nextID now newID) :=
    fun _ _ _ => (vatPercent_grows _).bind fun _ => nextInvoiceID_grows.bind fun _ =>
      grows_now.bind fun _ => (grows_insertReturning (.head _)).bind fun _ => keeps_pure _
  refine .ite ((grows_selectFirst _ _).bind fun company => (keeps_pure _).bind fun companyID => ?_)
    ((keeps_pure _).bind fun companyID => ?_)
  all_goals exact .ite ((keeps_throw _).bind fun _ => hissue _ _ _) (hissue _ _ _)

/-- What a handler of the superadmin's group writes. -/
theorem behind_grows (e : AdminEndpoint) :
    Keeps (Server.Grows e.writes) (e.behind.work r c id req) := by
  cases e with
  | createCompany => exact createCompany_grows
  | updateCompany => exact updateCompany_grows
  | createUser => exact createUser_grows
  | updateUser => exact updateUser_grows
  | createDevice => exact adminCreateDevice_grows
  | updateDevice => exact adminUpdateDevice_grows
  | createWarranty => exact createWarranty_grows
  | createBilling => exact createBilling_grows
  | createMaster => exact createMaster_grows
  | updateMaster => exact updateMaster_grows
  | deleteMaster => exact deleteMaster_grows

/-! ### Requests -/

variable {service : AuthService}

/-- A request that is refused writes nothing. -/
theorem grows_serve {h : Handler}
    (hwork : ∀ c id req, Keeps (Server.Grows writes) (h.work r c id req)) :
    Keeps (Server.Grows writes) (h.serve r) := by
  intro s
  rcases outcome_serve_cases h r s with ⟨error, hout, -⟩ | ⟨-, -, hout⟩
  · rw [hout]
    exact refl_of (Server.Grows writes) s
  · rw [hout]
    exact hwork _ _ _ s

theorem grows_served {h : Handler} {authHeader : String}
    (hwork : ∀ r c id req, Keeps (Server.Grows writes) (h.work r c id req)) :
    Keeps (Server.Grows writes) (served service h authHeader r) := by
  refine keeps_get.bind fun s => ?_
  cases auth service s.now authHeader with
  | error error => exact keeps_throw _
  | ok session => exact grows_serve (hwork _)

theorem getByUsername_grows (username : String) :
    Keeps (Server.Grows writes) (getByUsername username) :=
  (grows_selectFirst _ _).bind fun _ => keeps_pure _

theorem authenticate_grows (username password : String)
    (hwrite : .update .users ["last_login_at"] ∈ writes) :
    Keeps (Server.Grows writes) (service.authenticate username password) := by
  refine (getByUsername_grows username).bind fun found => ?_
  cases found with
  | none => exact keeps_pure _
  | some user =>
      refine keeps_get.bind fun s => .ite (keeps_pure _) (.ite (keeps_pure _) ?_)
      refine .ite (keeps_pure _) ?_
      cases service.generateTokenPair s.now user with
      | none => exact keeps_pure _
      | some tokens =>
          have hupdate : Keeps (Server.Grows writes) (updateLastLogin user.id) :=
            grows_now.bind fun _ => Keeps.bind (grows_update hwrite (by rfl) (by decide)) fun _ =>
              keeps_pure _
          exact hupdate.attempt.bind fun _ => keeps_pure _

theorem login_grows (body : Except String Fields)
    (hwrite : .update .users ["last_login_at"] ∈ writes) :
    Keeps (Server.Grows writes) (login service body) := by
  refine keeps_get.bind fun s => .ite (keeps_throw _) ?_
  cases body with
  | error message => exact keeps_throw _
  | ok req =>
      refine .ite (keeps_throw _) ((authenticate_grows _ _ hwrite).bind fun result => ?_)
      cases result with
      | error message => exact keeps_throw _
      | ok issued => exact keeps_pure _

theorem register_grows (req : Fields) (hwrite : .insert .users ∈ writes) :
    Keeps (Server.Grows writes) (service.register req) := by
  refine (getByUsername_grows _).bind fun found => ?_
  cases found with
  | some user => exact keeps_pure _
  | none =>
      refine keeps_get.bind fun s => ?_
      cases s.bcrypt.hash (req.text "password") with
      | none => exact keeps_pure _
      | some hash =>
          have hcreate : Keeps (Server.Grows writes) (create (newUser req hash)) :=
            (grows_insertReturning hwrite).bind fun _ => grows_now.bind fun _ => keeps_pure _
          refine hcreate.attempt.bind fun created => ?_
          cases created with
          | none => exact keeps_pure _
          | some created =>
              refine grows_now.bind fun now => ?_
              cases service.generateTokenPair now created with
              | none => exact keeps_pure _
              | some tokens => exact keeps_pure _

theorem signup_grows (body : Except String Fields) (hwrite : .insert .users ∈ writes) :
    Keeps (Server.Grows writes) (signup service body) := by
  refine keeps_get.bind fun s => .ite (keeps_throw _) ?_
  cases body with
  | error message => exact keeps_throw _
  | ok req =>
      refine .ite (keeps_throw _) (.ite (keeps_throw _) ?_)
      have hcompany : Keeps (Server.Grows writes) (companyName (req.int "company_id")) :=
        (grows_selectFirst _ _).bind fun _ => keeps_pure _
      refine hcompany.bind fun name => ?_
      cases name with
      | none => exact keeps_throw _
      | some name =>
          refine (register_grows req hwrite).bind fun result => ?_
          cases result with
          | error message => exact keeps_throw _
          | ok issued => exact keeps_pure _

theorem refresh_grows (refreshToken : String) :
    Keeps (Server.Grows writes) (refresh service refreshToken) := by
  refine keeps_get.bind fun s => .ite (keeps_throw _) (.ite (keeps_throw _) ?_)
  cases service.jwt.verify service.cfg.secret s.now refreshToken with
  | none => exact keeps_throw _
  | some claims =>
      refine .ite (keeps_throw _) ?_
      have hget : Keeps (Server.Grows writes) (getByID (subject claims)) :=
        (grows_selectFirst _ _).bind fun _ => keeps_pure _
      refine hget.bind fun found => ?_
      cases found with
      | none => exact keeps_throw _
      | some user =>
          refine .ite (keeps_throw _) ?_
          cases service.generateTokenPair s.now user with
          | none => exact keeps_throw _
          | some tokens => exact keeps_pure _

theorem Gateway.issue_server (g : Gateway) (result : Except Response (TokenPair × User))
    (s : Server) : (g.issue (result, s)).server = s := by
  obtain e | ⟨tokens, user⟩ := result <;> rfl

/-- What one request writes. -/
theorem grows_after (g : Gateway) (s : Server) (call : ApiCall) :
    s.Grows call.writes (g.after service s call).server := by
  cases call with
  | login body =>
      rw [Gateway.after, Gateway.issue_server]
      exact login_grows body (.head _) s
  | signup body =>
      rw [Gateway.after, Gateway.issue_server]
      exact signup_grows body (.head _) s
  | refresh refreshToken =>
      rw [Gateway.after, Gateway.issue_server]
      exact refresh_grows refreshToken s
  | request endpoint authHeader r =>
      have hwork : Keeps (Server.Grows endpoint.writes)
          (served service endpoint.handler authHeader r) :=
        grows_served fun r c id req => work_grows endpoint
      exact hwork s
  | admin endpoint authHeader r =>
      have hwork : Keeps (Server.Grows endpoint.writes)
          (served service endpoint.handler authHeader r) :=
        grows_served fun r c id req => behind_grows endpoint
      exact hwork s

/-- What a run of requests writes. -/
def writesOf (steps : List ApiStep) : List (Write Table) := steps.flatMap (·.call.writes)

theorem grows_of_run {s₀ : Server} : ∀ {steps : List ApiStep} {g g' : Gateway},
    (gateway service s₀).run g steps = some g' → g.server.Grows (writesOf steps) g'.server := by
  intro steps
  induction steps with
  | nil =>
      intro g g' hrun
      obtain rfl := Option.some.inj hrun
      exact refl_of (Server.Grows _) g.server
  | cons a steps ih =>
      intro g g' hrun
      obtain ⟨mid, hstep, hrun⟩ := Option.bind_eq_some_iff.mp hrun
      simp only [gateway, Option.ite_none_left_eq_some, Option.some.injEq] at hstep
      obtain ⟨-, rfl⟩ := hstep
      -- what is found is the server but for its circumstances
      have hfound : g.server.Grows a.call.writes (g.after service (a.finds g.server) a.call).server :=
        ⟨(grows_after g (a.finds g.server) a.call).serial,
          (grows_after g (a.finds g.server) a.call).evolves⟩
      exact trans_of (Server.Grows (writesOf (a :: steps)))
        (hfound.mono (List.subset_append_left _ _)) ((ih hrun).mono (List.subset_append_right _ _))

end

end RudraNetra.API
