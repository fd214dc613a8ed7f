/-
What the API never changes.

Whatever is requested, in whatever order and by whomever, a row changes in the columns listed
here and in no others (`Table.mutable`): only the superadmin's handlers move a user or a device
to another company, a voucher, a command or a guest link stays as it was entered, and no
request sets an immobilizer PIN.  Rows go from the tables that requests delete from, and from
those that cascade from them (`perishable`); alerts are not the API's to raise.
-/
import RudraNetra.Proofs.Footprints
import RudraNetra.Proofs.Tokens

namespace RudraNetra.API

open SQL Effect

/-- The columns that may change while a row is there. -/
def Table.mutable : Table → List String
  | .companies =>
    ["name", "code", "contact_person", "email", "phone", "database_name", "city", "address",
      "status", "max_devices", "max_users", "sira_relay", "api_key", "updated_at"]
  | .users =>
    ["password_hash", "full_name", "email", "phone", "role", "company_id", "is_active",
      "last_login_at", "updated_at"]
  | .devices =>
    ["device_type", "sim_no", "sim_operator", "port", "status", "firmware_ver", "warranty_end",
      "company_id", "updated_at"]
  | .vehicles =>
    ["reg_number", "make", "model", "variant", "body_type", "fuel_type", "fuel_capacity",
      "max_speed", "odometer", "icon_type", "device_id", "updated_at"]
  | .drivers =>
    ["name", "phone", "license_no", "license_expiry", "rfid_tag", "status", "assigned_vehicle_id",
      "updated_at"]
  | .geofences =>
    ["name", "type", "speed_limit", "alert_on_enter", "alert_on_exit", "is_active", "geom",
      "updated_at"]
  | .poi => ["name", "category", "address", "phone", "location"]
  | .alertRules =>
    ["name", "description", "config", "sms_enabled", "email_enabled", "sms_template", "is_active"]
  | .alerts => ["acknowledged", "acknowledged_by", "rule_id"]
  | .trips => ["vehicle_id", "driver_id", "distance_km", "status", "end_time"]
  | .fleetParties => ["name", "contact", "phone", "email", "address"]
  | .gatePasses => ["pass_number", "driver_id"]
  | .loadingReceipts => ["lr_number", "status", "weight_kg", "freight_amt", "advance_amt"]
  | .tyreRecords =>
    ["axle_position", "tread_depth_mm", "status", "retreading_count", "current_km", "updated_at"]
  | .invoices => ["status", "paid_amount", "due_date", "notes"]
  | .reminders => ["is_acknowledged", "due_date", "notes", "alert_before_days", "updated_at"]
  | .complaints => ["status", "technician_assigned", "resolution_notes", "updated_at"]
  | .fleetTrips => ["status", "expense_amount", "balance_amount", "updated_at"]
  | .lookupMasters => ["code", "name", "is_default"]
  | .vehicleGroups => ["name", "description", "updated_at"]
  | .routes =>
    ["name", "source", "destination", "distance_km", "estimated_minutes", "is_active",
      "updated_at"]
  | .smsConfig => ["provider", "sender_id", "api_key", "enabled", "updated_at"]
  | .companySettings =>
    ["idle_threshold_minutes", "speed_threshold_kmh", "timezone", "language", "vat_percent",
      "updated_at"]
  | .deviceCommands | .tripVouchers | .partyRoutes | .tempUsers | .warrantyRecords
  | .vehicleGroupMembers => []

/-- The tables that rows may go from. -/
def perishable : List Table :=
  [.devices, .drivers, .geofences, .poi, .alertRules, .trips, .tyreRecords, .reminders,
    .tempUsers, .lookupMasters, .vehicleGroups, .vehicleGroupMembers, .routes,
    -- along with a device
    .alerts, .deviceCommands, .warrantyRecords]

/-- A write of such columns, or a delete from such a table, or a new row but for an alert. -/
def Regular : Write Table → Bool
  | .insert t => t ≠ .alerts
  | .update t columns => columns.all (· ∈ t.mutable)
  | .delete t => t ∈ perishable

theorem Endpoint.regular (e : Endpoint) : ∀ w ∈ e.writes, Regular w = true := by
  cases e <;> decide

theorem AdminEndpoint.regular (e : AdminEndpoint) : ∀ w ∈ e.writes, Regular w = true := by
  cases e <;> decide

theorem ApiCall.regular (call : ApiCall) : ∀ w ∈ call.writes, Regular w = true := by
  cases call with
  | login body =>
      show ∀ w ∈ [Write.update Table.users ["last_login_at"]], Regular w = true
      decide
  | signup body =>
      show ∀ w ∈ [Write.insert Table.users], Regular w = true
      decide
  | refresh refreshToken => exact fun w hw => absurd hw List.not_mem_nil
  | request endpoint authHeader r => exact endpoint.regular
  | admin endpoint authHeader r => exact endpoint.regular

section

variable {writes : List (Write Table)} {t : Table}

theorem perishable_of_loses (h : ∀ w ∈ writes, Regular w = true) (hloses : Loses schema writes t) :
    t ∈ perishable := by
  refine hloses.of_closed (P := (· ∈ perishable)) (fun t hdelete => ?_) (by decide)
  simpa [Regular] using h _ hdelete

theorem mutable_of_changes (h : ∀ w ∈ writes, Regular w = true) {c : String}
    (hchanges : Changes schema writes t c) : c ∈ t.mutable := by
  cases hchanges with
  | update hwrite hc hid =>
      have hall := h _ hwrite
      simp only [Regular, List.all_eq_true, decide_eq_true_eq] at hall
      exact hall c hc
  | setNull hfk haction hloses hid =>
      have hnulled : ∀ fk ∈ schema.foreignKeys, fk.onDelete = .setNull → fk.parent ∈ perishable →
          fk.column ∈ fk.child.mutable := by decide
      exact hnulled _ hfk haction (perishable_of_loses h hloses)

end

/-! ### Runs -/

/-- Every `id` that is there has been drawn from its sequence. -/
def Server.Numbered (s : Server) : Prop :=
  ∀ t, ∀ row ∈ s.db.tables t, ∀ id, row "id" = some (.int id) → id < s.serial t

/-- The rows agree but for columns that may change. -/
def SameRecord (t : Table) (row row' : Row Datum) : Prop := ∀ c ∉ t.mutable, row' c = row c

/-- What is kept of the records of a server. -/
structure Server.Records (s s' : Server) : Prop where
  /-- A row that is there under the same `id`. -/
  columns : ∀ t, (t, ["id"]) ∈ schema.uniques → ∀ row ∈ s.db.tables t, ∀ row' ∈ s'.db.tables t,
    ∀ id, row "id" = some (.int id) → row' "id" = some (.int id) → SameRecord t row row'
  /-- A row of a table that rows do not go from. -/
  stays : ∀ t ∉ perishable, ∀ row ∈ s.db.tables t, ∃ row' ∈ s'.db.tables t,
    row' "id" = row "id" ∧ SameRecord t row row'
  /-- An alert was there before. -/
  alerts : ∀ row' ∈ s'.db.tables .alerts, ∃ row ∈ s.db.tables .alerts,
    row' "id" = row "id" ∧ SameRecord .alerts row row'

/-- **The API keeps its records**: over any requests of anyone, rows change in the listed columns
only, and go from the listed tables only. -/
theorem records_of_run {service : AuthService} {s₀ : Server} {steps : List ApiStep}
    {g g' : Gateway} (hrun : (gateway service s₀).run g steps = some g')
    (hnumbered : g.server.Numbered) : g.server.Records g'.server := by
  have hgrows := grows_of_run hrun
  have hregular : ∀ w ∈ writesOf steps, Regular w = true := by
    intro w hw
    obtain ⟨a, -, hw⟩ := List.mem_flatMap.mp hw
    exact a.call.regular w hw
  have hkept : ∀ {t row row'}, SameRow schema (writesOf steps) t row row' → SameRecord t row row' :=
    fun hsame c hc => hsame c fun hchanges => hc (mutable_of_changes hregular hchanges)
  refine ⟨fun t hunique row hrow row' hrow' id hid hid' c hc => ?_, fun t ht row hrow => ?_,
    fun row' hrow' => ?_⟩
  · refine hgrows.evolves.column hunique hrow hrow' (by simp [hid]) (hid'.trans hid.symm)
      (fun hnew => ?_) fun hchanges => hc (mutable_of_changes hregular hchanges)
    -- the id was drawn before
    exact absurd (hnew id hid') (not_le.mpr (hnumbered t row hrow id hid))
  · obtain ⟨row', hrow', hsame⟩ := hgrows.evolves.survives t
      (fun hloses => ht (perishable_of_loses hregular hloses)) row hrow
    exact ⟨row', hrow', hsame.id, hkept hsame⟩
  · rcases hgrows.evolves.descends .alerts row' hrow' with ⟨row, hrow, hsame⟩ | ⟨hinsert, -⟩
    · exact ⟨row, hrow, hsame.id, hkept hsame⟩
    · exact absurd (hregular _ hinsert) (by decide)

/-! ### A login -/

/-- The server with one user, whose sequences stand at ten. -/
def oneUserNumbered : Server := { oneUserAt 0 with serial := fun _ => 10 }

/-- The user logs in. -/
def userLogin : ApiStep where
  call := .login (.ok { Fields.empty with
    text := fun field => if field = "username" then "guest" else "secret" })
  circumstances := oneUserAt Go.minute

theorem userLogin_records : ∃ g : Gateway, g.tokens.length = 2 ∧
    oneUserNumbered.Records g.server := by
  obtain ⟨g, hrun, htokens⟩ : ∃ g, (gateway fleetAuth oneUserNumbered).run ⟨oneUserNumbered, []⟩
      [userLogin] = some g ∧ g.tokens.length = 2 := ⟨_, rfl, rfl⟩
  refine ⟨g, htokens, records_of_run hrun fun t row hrow id hid => ?_⟩
  cases t with
  | companies =>
      obtain rfl := List.mem_singleton.mp hrow
      obtain rfl : 1 = id := by simpa [Table.row] using hid
      decide
  | users =>
      obtain rfl := List.mem_singleton.mp hrow
      obtain rfl : 9 = id := by simpa [Table.row] using hid
      decide
  | _ => exact absurd hrow List.not_mem_nil

end RudraNetra.API
