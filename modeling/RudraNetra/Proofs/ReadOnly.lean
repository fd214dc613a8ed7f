/-
What users who sign up can do.

Signing up gives the role "viewer", with read-only access in mind.  The protected group
asks for a valid token and not for a role, and of its mutating handlers only the one for the
settings asks for a role itself.  So a viewer changes nothing as long as each request is
refused for another reason, only looks something up, or is about a row that the company does
not have (`viewer_readOnly`).
-/
import RudraNetra.Api.Routes
import RudraNetra.Lib.Machine
import RudraNetra.Proofs.Statements

namespace RudraNetra.API

open SQL Effect

/-- The same rows in every table, and no further command. -/
def Unchanged (s s' : Server) : Prop := s'.db.tables = s.db.tables ∧ s'.published = s.published

instance : Std.Refl Unchanged := ⟨fun _ => ⟨rfl, rfl⟩⟩

instance : IsTrans Server Unchanged := ⟨fun _ _ _ h h' => ⟨h'.1.trans h.1, h'.2.trans h.2⟩⟩

/-- The table and the id of the one row that a request is about. -/
def Endpoint.subject (r : Request) : Endpoint → Option (Table × Int)
  | updateDevice | deleteDevice | sendDeviceCommand => some (.devices, r.id.getD 0)
  | updateVehicle | updateVehicleConfig => some (.vehicles, r.id.getD 0)
  | updateDriver | deleteDriver => some (.drivers, r.id.getD 0)
  | createRFIDTag | assignRFID => some (.drivers, r.fields.int "driverId")
  | updateGeofence | deleteGeofence => some (.geofences, r.id.getD 0)
  | updatePOI | deletePOI => some (.poi, r.id.getD 0)
  | updateReminder | deleteReminder => some (.reminders, r.id.getD 0)
  | deleteTempUser => some (.tempUsers, r.id.getD 0)
  | deleteGroup => some (.vehicleGroups, r.id.getD 0)
  | updateTrip | deleteTrip => some (.trips, r.id.getD 0)
  | updateRoute | deleteRoute => some (.routes, r.id.getD 0)
  | updateParty => some (.fleetParties, r.id.getD 0)
  | updateLR => some (.loadingReceipts, r.id.getD 0)
  | updateFleetTrip => some (.fleetTrips, r.id.getD 0)
  | updateTyre | deleteTyre => some (.tyreRecords, r.id.getD 0)
  | acknowledgeAlert => some (.alerts, r.id.getD 0)
  | updateAlertRule | deleteAlertRule => some (.alertRules, r.id.getD 0)
  | updateInvoice => some (.invoices, r.id.getD 0)
  | updateComplaint => some (.complaints, r.id.getD 0)
  | _ => none

/-- The company has no row with this id. -/
def Missing (tables : Tables Table Datum) (c : Int) (t : Table) (id : Int) : Prop :=
  ∀ row ∈ tables t, ¬(ownRow id c).selects row = true

/-- A viewer's request that does not get to change anything. -/
def Restrained (tables : Tables Table Datum) (e : Endpoint) (r : Request) : Prop :=
  e = .checkGeofence ∨ e = .updateCompanySettings ∨ e.handler.refuses r ≠ none ∨
    ∃ t id, e.subject r = some (t, id) ∧ Missing tables (getEffectiveCompanyID r) t id

section

variable {s : Server} {c : Int} {r : Request} {id : Int} {req : Fields} {t : Table}

theorem fail_unchanged : Unchanged s s.fail := ⟨rfl, rfl⟩

/-- A statement that leaves the database as it is. -/
theorem exec_unchanged {stmt : SQL.Statement Table Datum} {n : Nat}
    (h : s.db.exec stmt = some (s.db, n)) : Unchanged s (outcome (exec stmt) s).2 := by
  rw [exec, outcome_ofOutcome, Server.submit, h]
  by_cases hfault : s.tx = some true ∨ s.faults.head? = some true
  · simp only [if_pos hfault]
    exact fail_unchanged
  · simp only [if_neg hfault]
    exact ⟨rfl, rfl⟩

theorem update_unchanged {set : List Assignment} (h : Missing s.db.tables c t id) :
    Unchanged s (outcome (exec (.update t set (ownRow id c))) s).2 := by
  obtain ⟨n, hexec⟩ := s.db.exec_update_none set h
  exact exec_unchanged hexec

theorem keepsUnchanged_selectFirst (t : Table) (cond : Row Datum → Bool) :
    Keeps Unchanged (selectFirst t cond) := by
  intro s
  rw [selectFirst, outcome_ofOutcome]
  split <;> exact ⟨rfl, rfl⟩

theorem keepsUnchanged_selectAll (t : Table) (cond : Row Datum → Bool) :
    Keeps Unchanged (selectAll t cond) := by
  intro s
  rw [selectAll, outcome_ofOutcome]
  split <;> exact ⟨rfl, rfl⟩

/-- An update, and the answer to it. -/
theorem updateRow_unchanged {checks : List Check} {set : Int → Fields → List Assignment}
    {missing message : String} (h : Missing s.db.tables c t id) :
    Unchanged s (outcome ((updateRow checks t set missing message).work r c id req) s).2 := by
  unfold updateRow
  dsimp only
  rw [outcome_bind, outcome_now]
  refine related_bind (update_unchanged h) fun affected mid _ => ?_
  exact Keeps.ite ((keeps_throw _).bind fun _ => keeps_pure _) (keeps_pure _) mid

theorem deleteRow_unchanged {invalid message : String} (h : Missing s.db.tables c t id) :
    Unchanged s (outcome ((deleteRow t invalid message).work r c id req) s).2 := by
  obtain ⟨n, hexec⟩ := s.db.exec_delete_none h
  exact related_bind (exec_unchanged hexec) fun _ mid _ => keeps_pure _ mid

theorem updateVehicleConfig_unchanged (h : Missing s.db.tables c .vehicles id) :
    Unchanged s (outcome (updateVehicleConfigHandler.work r c id req) s).2 := by
  unfold updateVehicleConfigHandler
  dsimp only
  rw [outcome_bind, outcome_now]
  exact related_bind (update_unchanged h) fun _ mid _ => keeps_pure _ mid

theorem createRFIDTag_unchanged (h : Missing s.db.tables c .drivers (req.int "driverId")) :
    Unchanged s (outcome (createRFIDTagHandler.work r c id req) s).2 := by
  unfold createRFIDTagHandler
  dsimp only
  rw [outcome_bind, outcome_now]
  refine related_bind (update_unchanged h) fun affected mid _ => ?_
  exact Keeps.ite ((keeps_throw _).bind fun _ => keeps_pure _) (keeps_pure _) mid

theorem acknowledgeAlert_unchanged (h : Missing s.db.tables c .alerts id) :
    Unchanged s (outcome (acknowledgeAlertHandler.work r c id req) s).2 := by
  refine related_bind (update_unchanged h) fun affected mid _ => ?_
  exact Keeps.ite ((keeps_throw _).bind fun _ => keeps_pure _) (keeps_pure _) mid

theorem checkGeofence_unchanged : Keeps Unchanged (checkGeofenceHandler.work r c id req) :=
  keeps_get.bind fun _ => (keepsUnchanged_selectAll _ _).bind fun _ => keeps_pure _

/-- No command without a device. -/
theorem sendDeviceCommand_unchanged (h : Missing s.db.tables c .devices id) :
    Unchanged s (outcome (sendDeviceCommandHandler.work r c id req) s).2 := by
  have hpin : Keeps Unchanged (pinMatches c req) :=
    (keepsUnchanged_selectFirst _ _).bind fun _ => keeps_pure _
  -- The query for the device finds none, whatever was asked before it.
  have hnone : ∀ mid : Server, mid.db.tables = s.db.tables →
      ∀ f : Option (Row Datum) → Api Response,
      f none = throw (notFound "device not found for this organization") →
      Unchanged mid (outcome
        (selectFirst .devices (Condition.selects (ownRow id c)) >>= f) mid).2 := by
    intro mid htables f hf
    refine related_bind (keepsUnchanged_selectFirst _ _ mid) fun found after hfound => ?_
    obtain ⟨-, hfind⟩ := selectFirst_eq_ok hfound
    cases found with
    | none =>
        rw [hf]
        exact keeps_throw _ after
    | some device =>
        have hdevice := hfind device rfl
        rw [htables] at hdevice
        exact absurd (List.find?_some hdevice) (h device (List.mem_of_find?_eq_some hdevice))
  unfold sendDeviceCommandHandler
  dsimp only
  split
  · refine related_bind (hpin s) fun ok mid hasked => ?_
    have htables : mid.db.tables = s.db.tables := by
      have hsame := (hpin s).1
      rwa [hasked] at hsame
    split
    · exact related_bind (keeps_throw _ mid) fun _ _ hthrown => by simp at hthrown
    · exact hnone mid htables _ rfl
  · exact hnone s rfl _ rfl

/-- The settings ask for a role that a viewer does not have. -/
theorem updateCompanySettings_refuses (hviewer : r.session.role = "viewer") :
    updateCompanySettingsHandler.refuses r ≠ none := by
  intro hrefuses
  have hrole := List.findSome?_eq_none_iff.mp hrefuses settingsRole
    (by simp [updateCompanySettingsHandler])
  simp [settingsRole, hviewer] at hrole

/-- Without the row that it is about a request changes nothing. -/
theorem work_unchanged (e : Endpoint) (hsubject : e.subject r = some (t, id))
    (h : Missing s.db.tables c t id) :
    Unchanged s (outcome (e.handler.work r c (r.id.getD 0) r.fields) s).2 := by
  cases e
  case updateDevice | updateVehicle | updateDriver | updateGeofence | updatePOI | updateReminder |
      updateTrip | updateRoute | updateParty | updateLR | updateFleetTrip | updateTyre |
      updateAlertRule | updateInvoice | updateComplaint =>
    obtain ⟨rfl, rfl⟩ : _ = t ∧ r.id.getD 0 = id := by simpa [Endpoint.subject] using hsubject
    exact updateRow_unchanged h
  case deleteDevice | deleteDriver | deleteGeofence | deletePOI | deleteReminder | deleteTempUser |
      deleteGroup | deleteTrip | deleteRoute | deleteTyre | deleteAlertRule =>
    obtain ⟨rfl, rfl⟩ : _ = t ∧ r.id.getD 0 = id := by simpa [Endpoint.subject] using hsubject
    exact deleteRow_unchanged h
  case updateVehicleConfig =>
    obtain ⟨rfl, rfl⟩ : _ = t ∧ r.id.getD 0 = id := by simpa [Endpoint.subject] using hsubject
    exact updateVehicleConfig_unchanged h
  case acknowledgeAlert =>
    obtain ⟨rfl, rfl⟩ : _ = t ∧ r.id.getD 0 = id := by simpa [Endpoint.subject] using hsubject
    exact acknowledgeAlert_unchanged h
  case sendDeviceCommand =>
    obtain ⟨rfl, rfl⟩ : _ = t ∧ r.id.getD 0 = id := by simpa [Endpoint.subject] using hsubject
    exact sendDeviceCommand_unchanged h
  case createRFIDTag | assignRFID =>
    obtain ⟨rfl, rfl⟩ : _ = t ∧ r.fields.int "driverId" = id := by
      simpa [Endpoint.subject] using hsubject
    exact createRFIDTag_unchanged h
  all_goals simp [Endpoint.subject] at hsubject

/-- **What a viewer's request leaves alone.** -/
theorem after_unchanged (e : Endpoint) (hviewer : r.session.role = "viewer")
    (h : Restrained s.db.tables e r) : Unchanged s (s.after e r) := by
  rw [Server.after, serve]
  rcases outcome_serve_cases e.handler r s with ⟨error, hout, -⟩ | ⟨-, hrefuses, hout⟩
  · rw [hout]
    exact refl_of Unchanged s
  · rw [hout]
    rcases h with rfl | rfl | hrefused | ⟨t, id, hsubject, hmissing⟩
    · exact checkGeofence_unchanged s
    · exact absurd hrefuses (updateCompanySettings_refuses hviewer)
    · exact absurd hrefuses hrefused
    · exact work_unchanged e hsubject hmissing

end

/-! ### Runs of a viewer's requests -/

/-- A request, and the server as it is found but for the database and the commands sent. -/
structure ViewerCall where
  endpoint : Endpoint
  request : Request
  circumstances : Server

/-- The server that a call finds. -/
def ViewerCall.finds (call : ViewerCall) (s : Server) : Server :=
  { call.circumstances with db := s.db, published := s.published }

/-- Requests with the token of a user who signed up, other than for a new password. -/
def viewerRuns (s₀ : Server) : Machine Server ViewerCall where
  init := s₀
  step s call :=
    if call.request.session.role = "viewer" ∧ call.endpoint ≠ .changePassword then
      some ((call.finds s).after call.endpoint call.request)
    else none

theorem step_viewerRuns (s₀ s : Server) {call : ViewerCall}
    (hviewer : call.request.session.role = "viewer") (hcall : call.endpoint ≠ .changePassword) :
    (viewerRuns s₀).step s call = some ((call.finds s).after call.endpoint call.request) := by
  simp [viewerRuns, hviewer, hcall]

/-- **Viewers are read-only on restrained requests.** -/
theorem viewer_readOnly (s₀ : Server) (calls : List ViewerCall)
    (h : (viewerRuns s₀).AllSteps
      (fun s call => Restrained s.db.tables call.endpoint call.request) s₀ calls) :
    (viewerRuns s₀).AllStates (Unchanged s₀) s₀ calls := by
  refine Machine.allStates_of_allSteps ?_ (fun _ hsame => hsame) calls s₀ (refl_of Unchanged s₀) h
  intro s call s' hsame hrestrained hstep
  simp only [viewerRuns, Option.ite_none_right_eq_some, Option.some.injEq] at hstep
  obtain ⟨⟨hviewer, -⟩, rfl⟩ := hstep
  have hafter : Unchanged (call.finds s) _ := after_unchanged call.endpoint hviewer hrestrained
  exact trans_of Unchanged hsame hafter

/-! ### A viewer who stops a vehicle -/

/-- Company 1 has a device. -/
def oneDevice : SQL.Database schema Datum where
  tables
    | .companies => [Table.row .companies 0 [("id", some (.int 1))]]
    | .devices =>
      [Table.row .devices 0 [("id", some (.int 7)), ("company_id", some (.int 1)),
        ("imei", some (.text "356307042441013"))]]
    | _ => []
  valid := by decide

/-- A viewer of company 1 sends a command to the device. -/
def stopVehicle : ViewerCall where
  endpoint := .sendDeviceCommand
  request := {
    session := ⟨9, 1, "guest", "viewer"⟩
    id := some 7
    type := ""
    companyID := none
    body := .ok { Fields.empty with
      text := fun field => if field = "commandType" then "setdigout 1" else "" } }
  circumstances := calm oneDevice .lenient []

theorem stopVehicle_published :
    ((stopVehicle.finds (calm oneDevice .lenient [])).after stopVehicle.endpoint
      stopVehicle.request).published =
      [⟨some (.text "356307042441013"), 1, "setdigout 1"⟩] := by
  decide

/-- **A viewer's run that sends a command.** -/
theorem stopVehicle_not_readOnly :
    ¬(viewerRuns (calm oneDevice .lenient [])).AllStates (Unchanged (calm oneDevice .lenient []))
      (calm oneDevice .lenient []) [stopVehicle] := by
  intro hstates
  let s := calm oneDevice .lenient []
  have hstep : (viewerRuns s).step s stopVehicle =
      some ((stopVehicle.finds s).after stopVehicle.endpoint stopVehicle.request) :=
    step_viewerRuns s s rfl (by decide)
  have hafter : Unchanged s _ := hstates.2 _ hstep
  have hsent := stopVehicle_published
  rw [hafter.2] at hsent
  exact absurd hsent (by decide)

/-- The viewer deletes a driver whom the company does not have. -/
def deleteNobody : ViewerCall := { stopVehicle with endpoint := .deleteDriver }

theorem deleteNobody_readOnly :
    (viewerRuns (calm oneDevice .lenient [])).AllStates (Unchanged (calm oneDevice .lenient []))
      (calm oneDevice .lenient []) [deleteNobody] := by
  refine viewer_readOnly _ _ fun s' _ => ⟨.inr (.inr (.inr ⟨.drivers, 7, rfl, ?_⟩)), trivial⟩
  exact fun row hrow => by simp [calm, oneDevice] at hrow

end RudraNetra.API
