/-
What is left of a request that is answered with an error.

Handlers send their statements one by one, mostly without a transaction, and statements may
fail at any point.  Even so an error means that nothing was written and nothing was sent to
a device: what comes after the first write ignores its own errors, or is in a transaction with
it.  The exceptions are four handlers of the protected group, and three of the superadmin's
(`error_restores_iff`).
-/
import RudraNetra.Api.Console
import RudraNetra.Lib.Rollback
import RudraNetra.Proofs.Statements

namespace RudraNetra.API

open SQL Effect

/-- Nothing has been written, and nothing has been sent to a device. -/
def Unwritten (s s' : Server) : Prop := s'.db = s.db ∧ s'.published = s.published

/-- Nothing has been sent to a device. -/
def Silent (s s' : Server) : Prop := s'.published = s.published

instance : Std.Refl Unwritten := ⟨fun _ => ⟨rfl, rfl⟩⟩

instance : IsTrans Server Unwritten :=
  ⟨fun _ _ _ h h' => ⟨h'.1.trans h.1, h'.2.trans h.2⟩⟩

instance : Std.Refl Silent := ⟨fun _ => rfl⟩

instance : IsTrans Server Silent := ⟨fun _ _ _ h h' => h'.trans h⟩

/-! ### Statements -/

section

variable {t : Table} {columns : Columns} {set : List Assignment} {cond : Condition Datum}

theorem submit_published (s : Server) (stmt : SQL.Statement Table Datum) :
    (s.submit stmt).2.published = s.published := by
  unfold Server.submit
  split
  · rfl
  · split <;> rfl

theorem submit_none {s s' : Server} {stmt : SQL.Statement Table Datum}
    (h : s.submit stmt = (none, s')) : Unwritten s s' := by
  unfold Server.submit at h
  split at h
  · obtain ⟨-, rfl⟩ := Prod.mk.inj h
    exact ⟨rfl, rfl⟩
  · split at h
    · cases h
    · obtain ⟨-, rfl⟩ := Prod.mk.inj h
      exact ⟨rfl, rfl⟩

theorem silent_exec (stmt : SQL.Statement Table Datum) : Keeps Silent (exec stmt) := by
  intro s
  have hsubmit := submit_published s stmt
  rw [exec, outcome_ofOutcome]
  rcases hout : s.submit stmt with ⟨affected | _, s'⟩ <;> simpa [Silent, hout] using hsubmit

theorem silent_insertReturning : Keeps Silent (insertReturning t columns) := by
  intro s
  rw [insertReturning, outcome_ofOutcome]
  have hsubmit := submit_published { s with serial := Function.update s.serial t (s.serial t + 1) }
    (.insert t (t.row s.now (("id", some (.int (s.serial t))) :: columns)))
  dsimp only at hsubmit ⊢
  split <;> simp_all [Silent]

theorem restores_exec (stmt : SQL.Statement Table Datum) : Restores Unwritten (exec stmt) := by
  intro s e s' hout
  rw [exec, outcome_ofOutcome] at hout
  split at hout
  · cases hout
  · rename_i sent hsubmit
    obtain ⟨-, rfl⟩ := Prod.mk.inj hout
    exact submit_none hsubmit

theorem restores_insertReturning : Restores Unwritten (insertReturning t columns) := by
  intro s e s' hout
  rw [insertReturning, outcome_ofOutcome] at hout
  dsimp only at hout
  split at hout
  · cases hout
  · rename_i sent hsubmit
    obtain ⟨-, rfl⟩ := Prod.mk.inj hout
    have hsame := submit_none hsubmit
    exact ⟨hsame.1, hsame.2⟩

theorem restores_insertOrUpdateReturning {key : List String} :
    Restores Unwritten (insertOrUpdateReturning t columns key set) := by
  intro s e s' hout
  rw [insertOrUpdateReturning, outcome_ofOutcome] at hout
  dsimp only at hout
  split at hout
  · cases hout
  · rename_i sent hsubmit
    obtain ⟨-, rfl⟩ := Prod.mk.inj hout
    have hsame := submit_none hsubmit
    exact ⟨hsame.1, hsame.2⟩

/-- A transaction is all or nothing. -/
theorem restores_transaction {α : Type} {body : Api α} (h : Keeps Silent body) :
    Restores Unwritten (transaction body) := by
  intro s e s' hout
  rw [transaction, outcome_ofOutcome] at hout
  split at hout
  · obtain ⟨-, rfl⟩ := Prod.mk.inj hout
    exact ⟨rfl, rfl⟩
  · have hsilent := h { s with faults := s.faults.tail, tx := some false }
    rcases hbody : outcome body { s with faults := s.faults.tail, tx := some false } with
      ⟨e' | a, after⟩
    · rw [hbody] at hout hsilent
      obtain ⟨-, rfl⟩ := Prod.mk.inj hout
      exact ⟨rfl, hsilent⟩
    · rw [hbody] at hout hsilent
      dsimp only at hout
      split at hout
      · obtain ⟨-, rfl⟩ := Prod.mk.inj hout
        exact ⟨rfl, hsilent⟩
      · cases hout

/-- An update that affects no row writes nothing. -/
theorem exec_update_zero {s s' : Server}
    (h : outcome (exec (.update t set cond)) s = (.ok 0, s')) : Unwritten s s' := by
  obtain ⟨db, hexec, rfl⟩ := exec_eq_ok h
  have hnone : ∀ row ∈ s.db.tables t, ¬cond.selects row = true := by
    rw [Database.exec_eq_some] at hexec
    exact List.countP_eq_zero.mp (Prod.ext_iff.mp hexec).2
  obtain ⟨n, hsame⟩ := Database.exec_update_none s.db set hnone
  obtain ⟨rfl, -⟩ : s.db = db ∧ n = 0 := by simpa using hsame.symm.trans hexec
  exact ⟨rfl, rfl⟩

/-- An update, and an error if there is no row. -/
theorem restores_updateOr {α : Type} {missing answer : Api α}
    (hmissing : Restores Unwritten missing) (hanswer : Succeeds answer) :
    Restores Unwritten (do
      let affected ← exec (.update t set cond)
      if affected = 0 then missing else answer) := by
  refine (restores_exec _).before_of (Q := fun affected => affected ≠ 0) ?_ ?_ ?_
  · intro s affected s' hout hzero
    obtain rfl := not_not.mp hzero
    exact exec_update_zero hout
  · intro affected hne
    rw [if_neg hne]
    exact hanswer
  · intro affected hzero
    rw [if_pos (not_not.mp hzero)]
    exact hmissing

theorem unwritten_selectFirst (t : Table) (cond : Row Datum → Bool) :
    Keeps Unwritten (selectFirst t cond) := by
  intro s
  rw [selectFirst, outcome_ofOutcome]
  split <;> exact ⟨rfl, rfl⟩

theorem unwritten_selectAll (t : Table) (cond : Row Datum → Bool) :
    Keeps Unwritten (selectAll t cond) := by
  intro s
  rw [selectAll, outcome_ofOutcome]
  split <;> exact ⟨rfl, rfl⟩

theorem unwritten_now : Keeps Unwritten now := fun _ => ⟨rfl, rfl⟩

theorem succeeds_now : Succeeds now := fun s => ⟨s.now, s, rfl⟩

theorem succeeds_publish (command : PublishedCommand) : Succeeds (publish command) := by
  intro s
  rw [publish, outcome_ofOutcome]
  split_ifs <;> exact ⟨_, _, rfl⟩

theorem restores_throw {α : Type} (error : Response) : Restores Unwritten (throw error : Api α) :=
  (keeps_throw error).restores

/-- What follows an error is not carried out. -/
theorem restores_throw_bind {α β : Type} (error : Response) (f : α → Api β) :
    Restores Unwritten (throw error >>= f) := by
  intro s e s' hout
  obtain ⟨-, rfl⟩ := Prod.mk.inj hout
  exact ⟨rfl, rfl⟩

/-! ### Handlers of one kind -/

variable {c id : Int} {r : Request} {req : Fields} {checks : List Check} {message : String}

theorem restores_createRow {columns : Int → Fields → Columns} :
    Restores Unwritten ((createRow checks t columns message).work r c id req) :=
  .after unwritten_now fun _ => restores_insertReturning.before fun _ => succeeds_pure _

theorem restores_updateRow {set : Int → Fields → List Assignment} {missing : String} :
    Restores Unwritten ((updateRow checks t set missing message).work r c id req) :=
  .after unwritten_now fun _ => restores_updateOr (restores_throw_bind _ _) (succeeds_pure _)

theorem restores_deleteRow {invalid : String} :
    Restores Unwritten ((deleteRow t invalid message).work r c id req) :=
  (restores_exec _).before fun _ => succeeds_pure _

/-! ### The handlers of the protected group -/

theorem succeeds_tryExec (stmt : SQL.Statement Table Datum) {f : Api Response} (hf : Succeeds f) :
    Succeeds (attempt (exec stmt) >>= fun _ => f) :=
  (succeeds_attempt _).bind fun _ => hf

theorem changePassword_restores :
    Restores Unwritten (changePasswordHandler.work r c id req) := by
  have hget : Keeps Unwritten (getByID r.session.userID) :=
    (unwritten_selectFirst _ _).bind fun _ => keeps_pure _
  refine .after hget fun found => ?_
  cases found with
  | none => exact restores_throw _
  | some user =>
      refine .after keeps_get fun s => .ite (restores_throw_bind _ _) ?_
      cases s.bcrypt.hash (req.text "new_password") with
      | none => exact restores_throw _
      | some hash =>
          have hupdate : Restores Unwritten (updatePassword r.session.userID hash) :=
            (restores_exec _).before fun _ => succeeds_pure _
          exact hupdate.before fun _ => succeeds_pure _

theorem createDevice_restores : Restores Unwritten (createDeviceHandler.work r c id req) := by
  refine restores_insertReturning.before fun newID => succeeds_now.bind fun now => ?_
  exact succeeds_tryExec _ (.ite (succeeds_tryExec _ (succeeds_pure _)) (succeeds_pure _))

theorem assignDevice_restores : Restores Unwritten (assignDeviceHandler.work r c id req) := by
  have htarget : Keeps Unwritten (targetVehicle c req) :=
    .ite (keeps_pure _) ((unwritten_selectFirst _ _).bind fun _ => keeps_pure _)
  refine .after htarget fun vehicle => ?_
  cases vehicle with
  | none => exact restores_throw _
  | some vehicleID =>
      refine (restores_transaction ?_).before fun _ => succeeds_pure _
      exact (silent_exec _).bind fun _ => Keeps.bind (fun _ => rfl) fun _ =>
        (silent_exec _).bind fun _ => .ite (keeps_throw _) (keeps_pure _)

theorem updateDeviceConfig_restores :
    Restores Unwritten (updateDeviceConfigHandler.work r c id req) :=
  .after unwritten_now fun _ => (restores_exec _).before fun _ =>
    .ite (succeeds_tryExec _ (succeeds_pure _)) (succeeds_pure _)

theorem updateVehicleConfig_restores :
    Restores Unwritten (updateVehicleConfigHandler.work r c id req) :=
  .after unwritten_now fun _ => (restores_exec _).before fun _ => succeeds_pure _

theorem createDriver_restores : Restores Unwritten (createDriverHandler.work r c id req) := by
  have hvehicle : Keeps Unwritten (assignedVehicle c req) :=
    .ite (keeps_pure _) <|
      .ite ((unwritten_selectFirst _ _).bind fun _ => keeps_pure _) (keeps_pure _)
  exact .after hvehicle fun _ => restores_insertReturning.before fun _ => succeeds_pure _

theorem createRFIDTag_restores : Restores Unwritten (createRFIDTagHandler.work r c id req) :=
  .after unwritten_now fun _ => restores_updateOr (restores_throw_bind _ _) (succeeds_pure _)

theorem succeeds_addMember (groupID vehicleID : Int) : Succeeds (addMember groupID vehicleID) :=
  succeeds_now.bind fun _ => (succeeds_attempt _).bind fun _ => succeeds_pure _

theorem silent_addMember (groupID vehicleID : Int) : Keeps Silent (addMember groupID vehicleID) :=
  Keeps.bind (fun _ => rfl) fun _ => (silent_exec _).attempt.bind fun _ => keeps_pure _

theorem createGroup_restores : Restores Unwritten (createGroupHandler.work r c id req) := by
  refine (restores_transaction ?_).before fun _ => succeeds_pure _
  exact silent_insertReturning.bind fun newID =>
    (Keeps.forM _ (silent_addMember newID)).bind fun _ => keeps_pure _

theorem addDevicesToGroup_restores :
    Restores Unwritten (addDevicesToGroupHandler.work r c id req) := by
  refine (Succeeds.bind (.forM _ fun vehicleID => ?_) fun _ => succeeds_pure _).restores
  exact succeeds_get.bind fun s => .ite (succeeds_addMember id vehicleID) (succeeds_pure _)

theorem createLR_restores : Restores Unwritten (createLRHandler.work r c id req) :=
  .after (unwritten_selectFirst _ _) fun _ => .after (unwritten_selectFirst _ _) fun _ =>
    restores_insertReturning.before fun _ =>
      .ite (succeeds_tryExec _ (succeeds_pure _)) (succeeds_pure _)

theorem createGatePass_restores : Restores Unwritten (createGatePassHandler.work r c id req) :=
  .after (unwritten_selectFirst _ _) fun _ => .after (unwritten_selectFirst _ _) fun _ =>
    .after unwritten_now fun _ => restores_insertReturning.before fun _ =>
      succeeds_tryExec _ (succeeds_pure _)

theorem createFleetTrip_restores : Restores Unwritten (createFleetTripHandler.work r c id req) :=
  .after unwritten_now fun _ => restores_insertReturning.before fun _ => succeeds_pure _

theorem createVoucher_restores : Restores Unwritten (createVoucherHandler.work r c id req) := by
  refine (restores_transaction ?_).before fun _ => succeeds_pure _
  exact silent_insertReturning.bind fun newID => Keeps.bind (fun _ => rfl) fun _ =>
    (silent_exec _).bind fun _ => keeps_pure _

theorem unwritten_vatPercent (companyID : Int) : Keeps Unwritten (vatPercent companyID) :=
  (unwritten_selectFirst _ _).bind fun _ => keeps_pure _

theorem unwritten_nextInvoiceID : Keeps Unwritten nextInvoiceID :=
  (unwritten_selectAll _ _).attempt.bind fun _ => keeps_pure _

theorem restores_insertThen (columns : Columns) (answer : Int → Response) :
    Restores Unwritten (insertReturning t columns >>= fun newID => pure (answer newID)) :=
  restores_insertReturning.before fun _ => succeeds_pure _

theorem createInvoice_restores : Restores Unwritten (createInvoiceHandler.work r c id req) := by
  refine .after unwritten_now fun now => ?_
  refine .ite (.after (unwritten_vatPercent _) fun vat => .after (keeps_pure _) fun tax => ?_)
    (.after (keeps_pure _) fun tax => ?_)
  all_goals
    exact .ite (.after unwritten_nextInvoiceID fun _ => .after (keeps_pure _) fun _ =>
        restores_insertThen _ _)
      (.after (keeps_pure _) fun _ => restores_insertThen _ _)

theorem createComplaint_restores : Restores Unwritten (createComplaintHandler.work r c id req) :=
  .after unwritten_now fun _ => restores_insertReturning.before fun _ => succeeds_pure _

theorem sendDeviceCommand_restores :
    Restores Unwritten (sendDeviceCommandHandler.work r c id req) := by
  have hpin : Keeps Unwritten (pinMatches c req) :=
    (unwritten_selectFirst _ _).bind fun _ => keeps_pure _
  refine .ite (.after hpin fun ok => .ite (restores_throw_bind _ _) ?_) ?_
  all_goals
    refine .after (unwritten_selectFirst _ _) fun device => ?_
    cases device with
    | none => exact restores_throw _
    | some device =>
        exact .after keeps_get fun _ => restores_insertReturning.before fun _ =>
          (succeeds_publish _).bind fun _ => succeeds_pure _

theorem createTempUser_restores : Restores Unwritten (createTempUserHandler.work r c id req) :=
  .after keeps_get fun _ => .after unwritten_now fun _ =>
    restores_insertReturning.before fun _ => succeeds_pure _

theorem acknowledgeAlert_restores : Restores Unwritten (acknowledgeAlertHandler.work r c id req) :=
  restores_updateOr (restores_throw_bind _ _) (succeeds_pure _)

theorem acknowledgeAllAlerts_restores :
    Restores Unwritten (acknowledgeAllAlertsHandler.work r c id req) :=
  (restores_exec _).before fun _ => succeeds_pure _

theorem updateSmsConfig_restores : Restores Unwritten (updateSmsConfigHandler.work r c id req) :=
  .after unwritten_now fun _ => (restores_exec _).before fun _ => succeeds_pure _

theorem deleteMaster_restores : Restores Unwritten (deleteMasterHandler.work r c id req) :=
  (restores_exec _).before fun _ => succeeds_pure _

/-- The handlers of the protected group that may fail after they have written. -/
def piecemeal : List Endpoint := [.updateGroup, .createMaster, .updateMaster, .updateCompanySettings]

theorem work_restores {e : Endpoint} (he : e ∉ piecemeal) :
    Restores Unwritten (e.handler.work r c id req) := by
  cases e
  case updateGroup | createMaster | updateMaster | updateCompanySettings =>
    exact absurd (by decide) he
  case changePassword => exact changePassword_restores
  case createDevice => exact createDevice_restores
  case assignDevice => exact assignDevice_restores
  case updateDeviceConfig => exact updateDeviceConfig_restores
  case updateVehicleConfig => exact updateVehicleConfig_restores
  case createDriver => exact createDriver_restores
  case createRFIDTag | assignRFID => exact createRFIDTag_restores
  case checkGeofence =>
    exact .after keeps_get fun _ => .after (unwritten_selectAll _ _) fun _ =>
      (succeeds_pure _).restores
  case sendDeviceCommand => exact sendDeviceCommand_restores
  case createTempUser => exact createTempUser_restores
  case createGroup => exact createGroup_restores
  case addDevicesToGroup => exact addDevicesToGroup_restores
  case createLR => exact createLR_restores
  case createFleetTrip => exact createFleetTrip_restores
  case createVoucher => exact createVoucher_restores
  case createGatePass => exact createGatePass_restores
  case acknowledgeAlert => exact acknowledgeAlert_restores
  case acknowledgeAllAlerts => exact acknowledgeAllAlerts_restores
  case updateSmsConfig => exact updateSmsConfig_restores
  case createInvoice => exact createInvoice_restores
  case createComplaint => exact createComplaint_restores
  case deleteMaster => exact deleteMaster_restores
  case createVehicle | createGeofence | createPOI | createReminder | createTrip | createRoute |
      createParty | createPartyRoute | createTyre | createAlertRule =>
    exact restores_createRow
  case deleteDevice | deleteDriver | deleteGeofence | deletePOI | deleteReminder | deleteTempUser |
      deleteGroup | deleteTrip | deleteRoute | deleteTyre | deleteAlertRule =>
    exact restores_deleteRow
  all_goals exact restores_updateRow

/-! ### The handlers of the superadmin's group -/

theorem createCompany_restores : Restores Unwritten (createCompanyHandler.work r c id req) :=
  .after unwritten_now fun _ => restores_insertReturning.before fun _ =>
    succeeds_tryExec _ (succeeds_pure _)

theorem updateCompany_restores : Restores Unwritten (updateCompanyHandler.work r c id req) := by
  refine .after unwritten_now fun _ => restores_updateOr (restores_throw_bind _ _)
    (.ite ?_ (succeeds_pure _))
  have hselect : Succeeds (selectFirst .companies (Condition.selects [("id", .int id)])) := by
    intro s
    rw [outcome_selectFirst_eq]
    exact ⟨_, _, rfl⟩
  refine hselect.bind fun row => ?_
  cases row.bind (textOf · "code") with
  | none => exact succeeds_pure _
  | some code =>
      refine succeeds_now.bind fun _ => (succeeds_attempt _).bind fun affected => ?_
      cases affected with
      | none => exact succeeds_pure _
      | some n => exact succeeds_pure _

theorem createUser_restores : Restores Unwritten (adminCreateUserHandler.work r c id req) := by
  refine .after keeps_get fun s => ?_
  cases s.bcrypt.hash (req.text "password") with
  | none => exact restores_throw _
  | some hash => exact restores_insertThen _ _

theorem adminCreateDevice_restores :
    Restores Unwritten (adminCreateDeviceHandler.work r c id req) := by
  have hcompany : Keeps Unwritten (companyNamed (req.text "companyName")) :=
    .ite ((unwritten_selectFirst _ _).bind fun _ => keeps_pure _) (keeps_pure _)
  exact .after hcompany fun _ => .after unwritten_now fun _ =>
    restores_insertOrUpdateReturning.before fun _ => succeeds_pure _

theorem adminUpdateDevice_restores :
    Restores Unwritten (adminUpdateDeviceHandler.work r c id req) :=
  .after unwritten_now fun _ => restores_updateOr (restores_throw_bind _ _) (succeeds_pure _)

theorem createWarranty_restores :
    Restores Unwritten (adminCreateWarrantyHandler.work r c id req) := by
  have hcompany : Keeps Unwritten (deviceCompany (req.int "deviceId") (req.int "companyId")) := by
    refine (unwritten_selectFirst _ _).bind fun device => ?_
    cases device with
    | none => exact keeps_pure _
    | some device => exact keeps_pure _
  refine .ite (.after hcompany fun companyID => ?_) (.after (keeps_pure _) fun companyID => ?_)
  all_goals exact .ite (restores_throw_bind _ _) (restores_insertThen _ _)

theorem createBilling_restores : Restores Unwritten (createBillingHandler.work r c id req) := by
  refine .ite (.after (unwritten_selectFirst _ _) fun company => .after (keeps_pure _)
    fun companyID => ?_) (.after (keeps_pure _) fun companyID => ?_)
  all_goals
    exact .ite (restores_throw_bind _ _) (.after (unwritten_vatPercent _) fun _ =>
      .after unwritten_nextInvoiceID fun _ => .after unwritten_now fun _ => restores_insertThen _ _)

/-- The handlers of the superadmin's group that may fail after they have written. -/
def adminPiecemeal : List AdminEndpoint := [.updateUser, .createMaster, .updateMaster]

theorem behind_restores {e : AdminEndpoint} (he : e ∉ adminPiecemeal) :
    Restores Unwritten (e.behind.work r c id req) := by
  cases e with
  | createCompany => exact createCompany_restores
  | updateCompany => exact updateCompany_restores
  | createUser => exact createUser_restores
  | createDevice => exact adminCreateDevice_restores
  | updateDevice => exact adminUpdateDevice_restores
  | createWarranty => exact createWarranty_restores
  | createBilling => exact createBilling_restores
  | deleteMaster => exact deleteMaster_restores
  | updateUser | createMaster | updateMaster => exact absurd (by decide) he

/-! ### Requests -/

/-- A request that is refused has nothing to undo. -/
theorem restores_serve {h : Handler}
    (hwork : ∀ c id req, Restores Unwritten (h.work r c id req)) :
    Restores Unwritten (h.serve r) := by
  intro s e s' hout
  rcases outcome_serve_cases h r s with ⟨error, hrefused, -⟩ | ⟨-, -, hserved⟩
  · rw [hrefused] at hout
    obtain ⟨-, rfl⟩ := Prod.mk.inj hout
    exact refl_of Unwritten s
  · rw [hserved] at hout
    exact hwork _ _ _ s e s' hout

end

/-! ### Errors in between -/

/-- Company 1 has a group and a default master, and a user. -/
def smallFleet : SQL.Database schema Datum where
  tables
    | .companies => [Table.row .companies 0 [("id", some (.int 1))]]
    | .vehicleGroups =>
      [Table.row .vehicleGroups 0 [("id", some (.int 3)), ("company_id", some (.int 1))]]
    | .lookupMasters =>
      [Table.row .lookupMasters 0 [("id", some (.int 4)), ("category", some (.text "fuel")),
        ("is_default", some (.bool true))]]
    | .users =>
      [Table.row .users 0 [("id", some (.int 9)), ("company_id", some (.int 1)),
        ("username", some (.text "guest")), ("password_hash", some (.text ""))]]
    | _ => []
  valid := by decide

/-- An administrator's request about the row with an id. -/
def smallRequest (id : Int) : Request where
  session := ⟨9, 1, "admin", "superadmin"⟩
  id := some id
  type := "fuel"
  companyID := none
  body := .ok { Fields.empty with
    text := fun _ => "new"
    flag := fun _ => some true
    ints := fun _ => some [] }

theorem not_restores (t : Table) (column : String) {x : Api Response} {s s' : Server} {e : Response}
    (hout : outcome x s = (.error e, s'))
    (hne : (s'.db.tables t).map (· column) ≠ (s.db.tables t).map (· column)) :
    ¬Restores Unwritten x :=
  fun h => hne (by rw [(h s e s' hout).1])

/-- The group has a new name, and its vehicles are not taken out. -/
theorem updateGroup_piecemeal : ¬Restores Unwritten (serve .updateGroup (smallRequest 3)) :=
  not_restores .vehicleGroups "name" (s := calm smallFleet .lenient [false, true]) rfl (by decide)

/-- The company has a new name, and its settings are as they were. -/
theorem updateCompanySettings_piecemeal :
    ¬Restores Unwritten (serve .updateCompanySettings (smallRequest 1)) :=
  not_restores .companies "name" (s := calm smallFleet .lenient [false, true]) rfl (by decide)

/-- The category has no default any more. -/
theorem createMaster_piecemeal : ¬Restores Unwritten (serve .createMaster (smallRequest 4)) :=
  not_restores .lookupMasters "is_default" (s := calm smallFleet .lenient [false, true]) rfl
    (by decide)

theorem adminCreateMaster_piecemeal :
    ¬Restores Unwritten (AdminEndpoint.createMaster.handler.serve (smallRequest 4)) :=
  not_restores .lookupMasters "is_default" (s := calm smallFleet .lenient [false, true]) rfl
    (by decide)

theorem updateMaster_piecemeal : ¬Restores Unwritten (serve .updateMaster (smallRequest 4)) :=
  not_restores .lookupMasters "is_default" (s := calm smallFleet .lenient [false, false, true]) rfl
    (by decide)

theorem adminUpdateMaster_piecemeal :
    ¬Restores Unwritten (AdminEndpoint.updateMaster.handler.serve (smallRequest 4)) :=
  not_restores .lookupMasters "is_default" (s := calm smallFleet .lenient [false, false, true]) rfl
    (by decide)

/-- The user has a new name, and the password does not hash. -/
theorem updateUser_piecemeal :
    ¬Restores Unwritten (AdminEndpoint.updateUser.handler.serve (smallRequest 9)) :=
  not_restores .users "full_name" (s := calm smallFleet ⟨fun _ _ => true, fun _ => none⟩ []) rfl
    (by decide)

/-- **An error undoes what a request has done**, but for these handlers. -/
theorem error_restores_iff :
    (∀ e : Endpoint, (∀ r, Restores Unwritten (serve e r)) ↔ e ∉ piecemeal) ∧
      ∀ e : AdminEndpoint, (∀ r, Restores Unwritten (e.handler.serve r)) ↔ e ∉ adminPiecemeal := by
  refine ⟨fun e => ⟨fun h he => ?_, fun he r => restores_serve fun _ _ _ => work_restores he⟩,
    fun e => ⟨fun h he => ?_, fun he r => restores_serve fun _ _ _ => behind_restores he⟩⟩
  · obtain rfl | rfl | rfl | rfl : e = .updateGroup ∨ e = .createMaster ∨ e = .updateMaster ∨
        e = .updateCompanySettings := by simpa [piecemeal] using he
    · exact updateGroup_piecemeal (h _)
    · exact createMaster_piecemeal (h _)
    · exact updateMaster_piecemeal (h _)
    · exact updateCompanySettings_piecemeal (h _)
  · obtain rfl | rfl | rfl : e = .updateUser ∨ e = .createMaster ∨ e = .updateMaster := by
      simpa [adminPiecemeal] using he
    · exact updateUser_piecemeal (h _)
    · exact adminCreateMaster_piecemeal (h _)
    · exact adminUpdateMaster_piecemeal (h _)

end RudraNetra.API
