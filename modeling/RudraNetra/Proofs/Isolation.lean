/-
Which requests leave the rows of other tenants alone.

A row belongs to the company it names, a member of a group to the company of its group.
Almost every statement a tenant can send selects rows by `company_id`, or a row that it
has just inserted.  The exceptions are the statements that go by the `id` of a master, by
its category, by the `id` of a group, or by the `id` of the user, and the deletes whose
referential actions reach rows of somebody else.
-/
import RudraNetra.Api.Routes
import RudraNetra.Proofs.Masters

namespace RudraNetra.API

open SQL Effect

/-- The row is not company `c`'s: it is another company's, or nobody's. -/
def Foreign (c : Int) (tables : Tables Table Datum) : Table → Row Datum → Prop
  | .companies, row => row "id" ≠ some (.int c)
  | .vehicleGroupMembers, row =>
    ∃ group ∈ tables .vehicleGroups, group "id" = row "group_id" ∧
      group "company_id" ≠ some (.int c)
  | _, row => row "company_id" ≠ some (.int c)

/-- The row does not say itself that it is company `c`'s. -/
def Unclaimed (c : Int) : Table → Row Datum → Prop
  | .companies, row => row "id" ≠ some (.int c)
  | .vehicleGroupMembers, _ => True
  | _, row => row "company_id" ≠ some (.int c)

theorem Foreign.unclaimed {c : Int} {tables : Tables Table Datum} {u : Table} {row : Row Datum}
    (h : Foreign c tables u row) : Unclaimed c u row := by
  cases u <;> trivial

/-- The tables whose rows name their company. -/
def ByCompany (t : Table) : Prop := t ≠ .companies ∧ t ≠ .vehicleGroupMembers

instance (t : Table) : Decidable (ByCompany t) := inferInstanceAs (Decidable (_ ∧ _))

theorem Unclaimed.company_id {c : Int} {t : Table} {row : Row Datum} (h : Unclaimed c t row)
    (ht : ByCompany t) : row "company_id" ≠ some (.int c) := by
  obtain ⟨hcompanies, hmembers⟩ := ht
  cases t <;> first | contradiction | exact h

/-- The row is still in its table. -/
def Retains (t : Table) (row : Row Datum) (db db' : SQL.Database schema Datum) : Prop :=
  row ∈ db.tables t → row ∈ db'.tables t

/-- The row is still in its table on the server. -/
abbrev Stays (t : Table) (row : Row Datum) : Server → Server → Prop := OnDatabase (Retains t row)

section

variable {c : Int} {t u : Table} {row : Row Datum}

instance : Std.Refl (Retains u row) := ⟨fun _ h => h⟩

instance : IsTrans (SQL.Database schema Datum) (Retains u row) := ⟨fun _ _ _ h h' => h' ∘ h⟩

/-! ### Statements of a tenant -/

theorem retains_insert {new : Row Datum} {db db' : SQL.Database schema Datum} {n : Nat}
    (h : db.exec (.insert t new) = some (db', n)) : Retains u row db db' := by
  intro hrow
  rw [Database.exec_eq_some] at h
  have hkeeps : row ∈ ((SQL.Statement.insert t new).eval schema db.tables).1 u :=
    insert_keeps schema hrow
  rwa [h] at hkeeps

theorem keeps_create {columns : Columns} : Keeps (Stays u row) (insertReturning t columns) :=
  keeps_insertReturning fun _ _ _ _ => retains_insert

theorem keeps_insertOrIgnore {new : Row Datum} :
    Keeps (Stays u row) (exec (.insertOrIgnore t new)) := by
  refine keeps_exec fun db db' n h hrow => ?_
  rw [Database.exec_eq_some] at h
  have hkeeps : row ∈ ((SQL.Statement.insertOrIgnore t new).eval schema db.tables).1 u :=
    insertOrIgnore_keeps schema hrow
  rwa [h] at hkeeps

theorem keeps_insertOrUpdate {new : Row Datum} {key : List String} {set : List Assignment}
    (hkey : u = t → ¬Agree key new row) :
    Keeps (Stays u row) (exec (.insertOrUpdate t new key set)) := by
  refine keeps_exec fun db db' n h hrow => ?_
  rw [Database.exec_eq_some] at h
  have hkeeps : row ∈ ((SQL.Statement.insertOrUpdate t new key set).eval schema db.tables).1 u :=
    insertOrUpdate_keeps schema hrow hkey
  rwa [h] at hkeeps

theorem retains_update {set : List Assignment} {cond : Condition Datum}
    {db db' : SQL.Database schema Datum} {n : Nat}
    (h : db.exec (.update t set cond) = some (db', n))
    (hset : u = t → cond.selects row = true → Assignments.apply set row = row) :
    Retains u row db db' := by
  intro hrow
  rw [Database.exec_eq_some] at h
  have hkeeps := update_keeps schema hrow hset
  rwa [h] at hkeeps

/-- An update of the company's own rows. -/
theorem keeps_update {set : List Assignment} {cond : Condition Datum} (hrow : Unclaimed c u row)
    (ht : ByCompany t) (hcond : ("company_id", .int c) ∈ cond) :
    Keeps (Stays u row) (exec (.update t set cond)) := by
  refine keeps_exec fun db db' n h => retains_update h fun hu hselects => ?_
  subst hu
  exact absurd (Condition.selects_iff.mp hselects _ hcond) (hrow.company_id ht)

/-- A write to the company's row in a table that has one row for each. -/
theorem keeps_upsert {now : Int} {columns : Columns} {set : List Assignment}
    (hrow : Unclaimed c u row) (ht : ByCompany t) :
    Keeps (Stays u row) (exec (.insertOrUpdate t
      (t.row now (("company_id", some (.int c)) :: columns)) ["company_id"] set)) := by
  refine keeps_insertOrUpdate fun hu hagree => ?_
  subst hu
  obtain ⟨-, hsame⟩ := hagree "company_id" (by simp)
  exact hrow.company_id ht (by simpa [Table.row] using hsame.symm)

theorem keeps_createRow {checks : List Check} {columns : Int → Fields → Columns}
    {message : String} {r : Request} {id : Int} {req : Fields} :
    Keeps (Stays u row) ((createRow checks t columns message).work r c id req) :=
  keeps_now.bind fun _ => keeps_create.bind fun _ => keeps_pure _

theorem keeps_updateRow {checks : List Check} {set : Int → Fields → List Assignment}
    {missing message : String} {r : Request} {id : Int} {req : Fields} (hrow : Unclaimed c u row)
    (ht : ByCompany t) :
    Keeps (Stays u row) ((updateRow checks t set missing message).work r c id req) :=
  keeps_now.bind fun _ => (keeps_update hrow ht (by simp [ownRow])).bind fun _ =>
    .ite ((keeps_throw _).bind fun _ => keeps_pure _) (keeps_pure _)

/-- An update of the row that the request has inserted. -/
theorem update_owned_stays {set : List Assignment} {s : Server} {id : Int}
    (hrow : Unclaimed c u row) (ht : ByCompany t) (hunique : (t, ["id"]) ∈ schema.uniques)
    (howned : Owned c t id s) :
    Stays u row s (outcome (attempt (exec (.update t set [("id", .int id)]))) s).2 := by
  rw [attempt_snd]
  refine exec_related fun db n hexec hmem => retains_update hexec (fun hu hselects => ?_) hmem
  subst hu
  obtain ⟨new, hnew, hid, hcompany⟩ := howned
  have hrowid : row "id" = some (.int id) := by simpa using hselects
  have hagree : Agree ["id"] row new := by simp [Agree, hrowid, hid]
  obtain rfl := s.db.valid.eq_of_agree hunique hmem hnew hagree
  exact absurd hcompany (hrow.company_id ht)

end

/-! ### The handlers of the registry -/

section

variable {c : Int} {t u : Table} {row : Row Datum} {r : Request} {id : Int} {req : Fields}

theorem createDevice_stays (hrow : Unclaimed c u row) :
    Keeps (Stays u row) (createDeviceHandler.work r c id req) := by
  refine keeps_create.bind_of (fun _ _ _ => owned_of_insertReturning) fun newID s howned => ?_
  rw [outcome_bind, outcome_now]
  refine related_bind (update_owned_stays hrow (by decide) (by decide) howned) fun _ s' _ => ?_
  have hvehicle : ∀ set reg, Keeps (Stays u row) (attempt (exec (.update .vehicles set
      [("reg_number", .text reg), ("company_id", .int c)]))) :=
    fun _ _ => (keeps_update hrow (by decide) (by simp)).attempt
  exact Keeps.ite ((hvehicle _ _).bind fun _ => keeps_pure _) (keeps_pure _) s'

theorem assignDevice_stays (hrow : Unclaimed c u row) :
    Keeps (Stays u row) (assignDeviceHandler.work r c id req) := by
  have htarget : Keeps (Stays u row) (targetVehicle c req) :=
    .ite (keeps_pure _) ((keeps_selectFirst _ _).bind fun _ => keeps_pure _)
  refine htarget.bind fun vehicle => ?_
  cases vehicle with
  | none => exact keeps_throw _
  | some vehicleID =>
      have hreassign : Keeps (Stays u row) (reassign c id vehicleID) := by
        refine (keeps_update hrow (by decide) (by simp)).bind fun _ => ?_
        refine keeps_now.bind fun now => ?_
        refine (keeps_update hrow (by decide) (by simp [ownRow])).bind fun affected => ?_
        exact .ite (keeps_throw _) (keeps_pure _)
      exact (keeps_transaction hreassign).bind fun _ => keeps_pure _

theorem updateDeviceConfig_stays (hrow : Unclaimed c u row) :
    Keeps (Stays u row) (updateDeviceConfigHandler.work r c id req) := by
  refine keeps_now.bind fun now => ?_
  refine (keeps_update hrow (by decide) (by simp [ownRow])).bind fun _ => ?_
  refine .ite ?_ (keeps_pure _)
  exact (keeps_update hrow (by decide) (by simp)).attempt.bind fun _ => keeps_pure _

theorem updateVehicleConfig_stays (hrow : Unclaimed c u row) :
    Keeps (Stays u row) (updateVehicleConfigHandler.work r c id req) :=
  keeps_now.bind fun _ =>
    (keeps_update hrow (by decide) (by simp [ownRow])).bind fun _ => keeps_pure _

theorem createDriver_stays :
    Keeps (Stays u row) (createDriverHandler.work r c id req) := by
  have hvehicle : Keeps (Stays u row) (assignedVehicle c req) :=
    .ite (keeps_pure _) <|
      .ite ((keeps_selectFirst _ _).bind fun _ => keeps_pure _) (keeps_pure _)
  exact hvehicle.bind fun _ => keeps_create.bind fun _ => keeps_pure _

theorem createRFIDTag_stays (hrow : Unclaimed c u row) :
    Keeps (Stays u row) (createRFIDTagHandler.work r c id req) := by
  refine keeps_now.bind fun now => ?_
  refine (keeps_update hrow (by decide) (by simp [ownRow])).bind fun affected => ?_
  exact .ite ((keeps_throw _).bind fun _ => keeps_pure _) (keeps_pure _)

theorem addMember_stays (groupID vehicleID : Int) :
    Keeps (Stays u row) (addMember groupID vehicleID) :=
  keeps_now.bind fun _ => keeps_insertOrIgnore.attempt.bind fun _ => keeps_pure _

theorem createGroup_stays : Keeps (Stays u row) (createGroupHandler.work r c id req) := by
  refine (keeps_transaction ?_).bind fun _ => keeps_pure _
  refine keeps_create.bind fun newID => ?_
  exact (Keeps.forM _ (addMember_stays newID)).bind fun _ => keeps_pure _

theorem addDevicesToGroup_stays :
    Keeps (Stays u row) (addDevicesToGroupHandler.work r c id req) := by
  refine Keeps.bind (.forM _ fun vehicleID => ?_) fun _ => keeps_pure _
  exact keeps_get.bind fun s => .ite (addMember_stays id vehicleID) (keeps_pure _)

/-! ### The handlers of fleet operations -/

theorem createLR_stays (hrow : Unclaimed c u row) :
    Keeps (Stays u row) (createLRHandler.work r c id req) := by
  refine (keeps_selectFirst _ _).bind fun vehicle => ?_
  refine (keeps_selectFirst _ _).bind fun party => ?_
  refine keeps_create.bind_of (fun _ _ _ => owned_of_insertReturning) fun newID s howned => ?_
  dsimp only
  split
  · exact related_bind (update_owned_stays hrow (by decide) (by decide) howned) fun _ s' _ =>
      keeps_pure _ s'
  · exact keeps_pure _ s

theorem createGatePass_stays (hrow : Unclaimed c u row) :
    Keeps (Stays u row) (createGatePassHandler.work r c id req) := by
  refine (keeps_selectFirst _ _).bind fun vehicle => ?_
  refine (keeps_selectFirst _ _).bind fun driver => ?_
  refine keeps_now.bind fun now => ?_
  refine keeps_create.bind_of (fun _ _ _ => owned_of_insertReturning) fun newID s howned => ?_
  exact related_bind (update_owned_stays hrow (by decide) (by decide) howned) fun _ s' _ =>
    keeps_pure _ s'

theorem createFleetTrip_stays : Keeps (Stays u row) (createFleetTripHandler.work r c id req) :=
  keeps_now.bind fun _ => keeps_create.bind fun _ => keeps_pure _

theorem createVoucher_stays (hrow : Unclaimed c u row) :
    Keeps (Stays u row) (createVoucherHandler.work r c id req) := by
  refine (keeps_transaction ?_).bind fun _ => keeps_pure _
  refine keeps_create.bind fun newID => keeps_now.bind fun now => ?_
  exact (keeps_update hrow (by decide) (by simp [ownRow])).bind fun _ => keeps_pure _

theorem createInvoice_stays : Keeps (Stays u row) (createInvoiceHandler.work r c id req) := by
  have hvat : ∀ company, Keeps (Stays u row) (vatPercent company) :=
    fun _ => (keeps_selectFirst _ _).bind fun _ => keeps_pure _
  have hnext : Keeps (Stays u row) nextInvoiceID :=
    (keeps_selectAll _ _).attempt.bind fun _ => keeps_pure _
  have hinsert : ∀ (columns : Columns) (answer : Int → Response), Keeps (Stays u row)
      (insertReturning .invoices columns >>= fun newID => pure (answer newID)) :=
    fun _ _ => keeps_create.bind fun _ => keeps_pure _
  refine keeps_now.bind fun now => ?_
  refine .ite ((hvat _).bind fun vat => (keeps_pure _).bind fun tax => ?_)
    ((keeps_pure _).bind fun tax => ?_)
  all_goals
    exact .ite (hnext.bind fun _ => (keeps_pure _).bind fun _ => hinsert _ _)
      ((keeps_pure _).bind fun _ => hinsert _ _)

theorem createComplaint_stays : Keeps (Stays u row) (createComplaintHandler.work r c id req) :=
  keeps_now.bind fun _ => keeps_create.bind fun _ => keeps_pure _

/-! ### The handlers of the office -/

theorem sendDeviceCommand_stays :
    Keeps (Stays u row) (sendDeviceCommandHandler.work r c id req) := by
  have hpin : Keeps (Stays u row) (pinMatches c req) :=
    (keeps_selectFirst _ _).bind fun _ => keeps_pure _
  refine .ite (hpin.bind fun ok => .ite ((keeps_throw _).bind fun _ => ?_) ?_) ?_
  all_goals
    refine (keeps_selectFirst _ _).bind fun device => ?_
    cases device with
    | none => exact keeps_throw _
    | some device =>
        exact keeps_get.bind fun _ => keeps_create.bind fun _ =>
          (keeps_publish _).bind fun _ => keeps_pure _

theorem createTempUser_stays : Keeps (Stays u row) (createTempUserHandler.work r c id req) :=
  keeps_get.bind fun _ => keeps_now.bind fun _ => keeps_create.bind fun _ => keeps_pure _

theorem acknowledgeAlert_stays (hrow : Unclaimed c u row) :
    Keeps (Stays u row) (acknowledgeAlertHandler.work r c id req) := by
  refine (keeps_update hrow (by decide) (by simp [ownRow])).bind fun affected => ?_
  exact .ite ((keeps_throw _).bind fun _ => keeps_pure _) (keeps_pure _)

theorem acknowledgeAllAlerts_stays (hrow : Unclaimed c u row) :
    Keeps (Stays u row) (acknowledgeAllAlertsHandler.work r c id req) :=
  (keeps_update hrow (by decide) (by simp)).bind fun _ => keeps_pure _

theorem updateSmsConfig_stays (hrow : Unclaimed c u row) :
    Keeps (Stays u row) (updateSmsConfigHandler.work r c id req) := by
  refine keeps_now.bind fun now => ?_
  exact (keeps_upsert hrow (by decide)).bind fun _ => keeps_pure _

theorem updateCompanySettings_stays (hrow : Unclaimed c u row) :
    Keeps (Stays u row) (updateCompanySettingsHandler.work r c id req) := by
  have hcompany : ∀ set, Keeps (Stays u row) (exec (.update .companies set [("id", .int c)])) := by
    intro set
    refine keeps_exec fun db db' n h => retains_update h fun hu hselects => ?_
    subst hu
    exact absurd (by simpa using hselects) (show row "id" ≠ some (.int c) from hrow)
  refine keeps_now.bind fun now => (hcompany _).bind fun _ => ?_
  exact (keeps_upsert hrow (by decide)).bind fun _ => keeps_pure _

/-! ### Statements that do not ask for the company -/

theorem deleteRow_stays {s : Server} {invalid message : String} (hdel : t ∈ deletable)
    (ht : ByCompany t) (hrow : Unclaimed c u row)
    (hrefers : ∀ fk ∈ schema.foreignKeys, fk.child = u → fk.parent = t → ∀ own ∈ s.db.tables t,
      (ownRow id c).selects own = true → own "id" ≠ row fk.column) :
    Stays u row s (outcome ((deleteRow t invalid message).work r c id req) s).2 := by
  refine related_bind (exec_related fun db n hexec hmem => ?_) fun _ s' _ => keeps_pure _ s'
  refine Database.delete_keeps (shallow_of_deletable t hdel) hexec hmem (fun hu => ?_)
    fun fk hfk hchild hparent own hown hselects _ => hrefers fk hfk hchild hparent own hown hselects
  subst hu
  simp [ownRow, hrow.company_id ht]

/-- A change of the password goes to the row of the user that was found. -/
theorem changePassword_stays {s : Server}
    (huser : u = .users → row ∈ s.db.tables .users → row "id" = some (.int r.session.userID) →
      scanUser row = none) :
    Stays u row s (outcome (changePasswordHandler.work r c id req) s).2 := by
  have hget : Keeps (Stays u row) (getByID r.session.userID) :=
    (keeps_selectFirst _ _).bind fun _ => keeps_pure _
  refine related_bind (hget s) fun found s' hfound => ?_
  cases found with
  | none => exact keeps_throw _ s'
  | some user =>
      obtain ⟨hdb, account, haccount, hid, hscan⟩ := getByID_eq_ok hfound
      have hupdate : ∀ hash, Stays u row s' (outcome (updatePassword r.session.userID hash) s').2 := by
        refine fun hash => related_bind (exec_related fun db n hexec hmem => ?_) fun _ mid _ =>
          keeps_pure _ mid
        refine retains_update hexec (fun hu hselects => ?_) hmem
        subst hu
        rw [hdb] at hmem
        have hrowid : row "id" = some (.int r.session.userID) := by simpa using hselects
        have hagree : Agree ["id"] row account := by simp [Agree, hrowid, hid]
        have hunique : (Table.users, ["id"]) ∈ schema.uniques := by decide
        obtain rfl := s.db.valid.eq_of_agree hunique hmem haccount hagree
        simp [huser rfl hmem hrowid] at hscan
      refine related_bind (keeps_get s') fun got mid hgot => ?_
      obtain ⟨rfl, rfl⟩ : s' = got ∧ s' = mid := by simpa using hgot
      dsimp only
      split
      · exact related_bind (keeps_throw _ s') fun _ _ hthrown => by simp at hthrown
      · split
        · exact keeps_throw _ s'
        · exact related_bind (hupdate _) fun _ mid _ => keeps_pure _ mid

theorem updateGroup_stays (hrow : Unclaimed c u row)
    (hmember : req.ints "vehicleIds" ≠ none → u = .vehicleGroupMembers →
      row "group_id" ≠ some (.int id)) :
    Keeps (Stays u row) (updateGroupHandler.work r c id req) := by
  have hdelete : req.ints "vehicleIds" ≠ none →
      Keeps (Stays u row) (exec (.delete .vehicleGroupMembers [("group_id", .int id)])) := by
    refine fun hgiven => keeps_exec fun db db' n hexec hmem => ?_
    have hleaf : ∀ fk ∈ schema.foreignKeys, fk.parent ≠ .vehicleGroupMembers := by decide
    refine Database.delete_keeps (shallow_of_deletable _ (by decide)) hexec hmem
      (fun hu => by simpa using hmember hgiven hu) fun fk hfk _ hparent => ?_
    exact absurd hparent (hleaf fk hfk)
  refine keeps_now.bind fun now => ?_
  refine (keeps_update hrow (by decide) (by simp [ownRow])).bind fun _ => ?_
  cases hids : req.ints "vehicleIds" with
  | none => exact keeps_pure _
  | some vehicleIDs =>
      refine (hdelete (by simp [hids])).bind fun _ => ?_
      exact (Keeps.forM _ (addMember_stays id)).bind fun _ => keeps_pure _

theorem apply_setTo {column : String} {value : Option Datum} (h : row column = value) :
    Assignments.apply [setTo column value] row = row := by
  funext c
  by_cases hc : c = column
  · simp [Assignments.apply, setTo, hc, h]
  · simp [Assignments.apply, setTo, List.lookup, beq_false_of_ne hc]

theorem clearDefaults_stays {category : String}
    (hdefault : u = .lookupMasters → row "category" = some (.text category) →
      row "is_default" = some (.bool false)) :
    Keeps (Stays u row) (clearDefaults category) := by
  refine Keeps.bind (Keeps.attempt ?_) fun _ => keeps_pure _
  refine keeps_exec fun db db' n hexec => retains_update hexec fun hu hselects => ?_
  exact apply_setTo (hdefault hu (by simpa using hselects))

theorem createMaster_stays
    (hdefault : req.flag "isDefault" = some true → u = .lookupMasters →
      row "category" = some (.text r.type) → row "is_default" = some (.bool false)) :
    Keeps (Stays u row) (createMasterHandler.work r c id req) := by
  have hinsert : ∀ (columns : Columns) (answer : Int → Response), Keeps (Stays u row)
      (insertReturning .lookupMasters columns >>= fun newID => pure (answer newID)) :=
    fun _ _ => keeps_create.bind fun _ => keeps_pure _
  unfold createMasterHandler
  dsimp only
  split
  · rename_i hflag
    have hset : req.flag "isDefault" = some true := by
      cases hreq : req.flag "isDefault" <;> simp_all
    exact (clearDefaults_stays (hdefault hset)).bind fun _ => hinsert _ _
  · exact hinsert _ _

theorem updateMaster_stays {s : Server}
    (hchange : u = .lookupMasters → row "id" = some (.int id) →
      Assignments.apply (masterAssignments req) row = row)
    (hdefault : req.flag "isDefault" = some true → ∀ master ∈ s.db.tables .lookupMasters,
      master "id" = some (.int id) → ∀ category, master "category" = some (.text category) →
        u = .lookupMasters → row "category" = some (.text category) →
          row "is_default" = some (.bool false)) :
    Stays u row s (outcome (updateMasterHandler.work r c id req) s).2 := by
  have hupdate : Keeps (Stays u row) (exec (.update .lookupMasters (masterAssignments req)
      [("id", .int id)])) := by
    refine keeps_exec fun db db' n hexec => retains_update hexec fun hu hselects => ?_
    exact hchange hu (by simpa using hselects)
  have hfinish : Keeps (Stays u row) (do
      let affected ← exec (.update .lookupMasters (masterAssignments req) [("id", .int id)])
      if affected = 0 then throw (notFound "master record not found")
      return Response.ok "Master record updated") :=
    hupdate.bind fun _ => .ite ((keeps_throw _).bind fun _ => keeps_pure _) (keeps_pure _)
  unfold updateMasterHandler
  dsimp only
  split
  · rename_i hset
    refine related_bind (keeps_selectFirst _ _ s) fun found s' hfound => ?_
    obtain ⟨-, hmaster⟩ := selectFirst_eq_ok hfound
    split
    · rename_i category hcategory
      obtain ⟨master, rfl, htext⟩ := Option.bind_eq_some_iff.mp hcategory
      have hfind := hmaster master rfl
      have hid := List.find?_some hfind
      refine (clearDefaults_stays ?_).bind (fun _ => hfinish) s'
      exact hdefault hset master (List.mem_of_find?_eq_some hfind) (by simpa using hid) category
        (eq_of_textOf htext)
    · exact hfinish s'
  · exact hfinish s

theorem deleteMaster_stays (hmaster : u = .lookupMasters → row "id" ≠ some (.int id)) :
    Keeps (Stays u row) (deleteMasterHandler.work r c id req) := by
  refine Keeps.bind (keeps_exec fun db db' n hexec hmem => ?_) fun _ => keeps_pure _
  have hleaf : ∀ fk ∈ schema.foreignKeys, fk.parent ≠ .lookupMasters := by decide
  refine Database.delete_keeps (shallow_of_deletable _ (by decide)) hexec hmem
    (fun hu => by simpa using hmaster hu) fun fk hfk _ hparent => ?_
  exact absurd hparent (hleaf fk hfk)

end

/-! ### Harmless requests -/

/-- Nobody else's row refers to the company's row with this id. -/
def Unreferenced (c : Int) (tables : Tables Table Datum) (t : Table) (id : Int) : Prop :=
  ∀ own ∈ tables t, (ownRow id c).selects own = true →
    ∀ fk ∈ schema.foreignKeys, fk.parent = t → ∀ row ∈ tables fk.child,
      row fk.column = own "id" → ¬Foreign c tables fk.child row

/-- No master of others is a default of the category. -/
def NoForeignDefault (c : Int) (tables : Tables Table Datum) (category : String) : Prop :=
  ∀ row ∈ tables .lookupMasters, Foreign c tables .lookupMasters row →
    row "category" = some (.text category) → row "is_default" = some (.bool false)

/-- What keeps a request that is not refused from touching the rows of others. -/
def Harmless (c : Int) (tables : Tables Table Datum) (r : Request) : Endpoint → Prop
  | .changePassword => ∀ row ∈ tables .users, row "id" = some (.int r.session.userID) →
    scanUser row ≠ none → ¬Foreign c tables .users row
  | .deleteDevice => Unreferenced c tables .devices (r.id.getD 0)
  | .deleteDriver => Unreferenced c tables .drivers (r.id.getD 0)
  | .deleteAlertRule => Unreferenced c tables .alertRules (r.id.getD 0)
  | .updateGroup => r.fields.ints "vehicleIds" ≠ none → ∀ row ∈ tables .vehicleGroupMembers,
    row "group_id" = some (.int (r.id.getD 0)) → ¬Foreign c tables .vehicleGroupMembers row
  | .createMaster => r.fields.flag "isDefault" = some true → NoForeignDefault c tables r.type
  | .updateMaster => ∀ master ∈ tables .lookupMasters, master "id" = some (.int (r.id.getD 0)) →
    (Foreign c tables .lookupMasters master →
      Assignments.apply (masterAssignments r.fields) master = master) ∧
    (r.fields.flag "isDefault" = some true → ∀ category,
      master "category" = some (.text category) → NoForeignDefault c tables category)
  | .deleteMaster => ∀ row ∈ tables .lookupMasters, row "id" = some (.int (r.id.getD 0)) →
    ¬Foreign c tables .lookupMasters row
  | _ => True

theorem getEffectiveCompanyID_of_tenant {r : Request} (hrole : r.session.role ≠ "superadmin")
    (hpos : 0 < r.session.companyID) : getEffectiveCompanyID r = r.session.companyID := by
  unfold getEffectiveCompanyID
  split
  · rw [if_neg]
    rintro ⟨hadmin | hnone, -⟩
    · exact hrole hadmin
    · omega
  · rfl

section

variable {c : Int} {s : Server} {r : Request} {id : Int} {req : Fields} {t u : Table}
  {row : Row Datum}

theorem deleteRow_stays_of_unreferenced {invalid message : String} (hdel : t ∈ deletable)
    (ht : ByCompany t) (hmem : row ∈ s.db.tables u) (hforeign : Foreign c s.db.tables u row)
    (h : Unreferenced c s.db.tables t id) :
    Stays u row s (outcome ((deleteRow t invalid message).work r c id req) s).2 := by
  refine deleteRow_stays hdel ht hforeign.unclaimed
    fun fk hfk hchild hparent own hown hselects hid => ?_
  subst hchild
  exact h own hown hselects fk hfk hparent row hmem hid.symm hforeign

/-- Where nothing refers to a table there is nothing to ask for. -/
theorem unreferenced_of_leaf (h : ∀ fk ∈ schema.foreignKeys, fk.parent ≠ t) :
    Unreferenced c s.db.tables t id :=
  fun _ _ _ fk hfk hparent => absurd hparent (h fk hfk)

/-- The members of the company's own group are the company's. -/
theorem unreferenced_vehicleGroups : Unreferenced c s.db.tables .vehicleGroups id := by
  intro own hown hselects fk hfk hparent member hmem hid hforeign
  have hmembers : ∀ fk ∈ schema.foreignKeys, fk.parent = .vehicleGroups →
      fk.child = .vehicleGroupMembers ∧ fk.column = "group_id" := by decide
  obtain ⟨hchild, hcolumn⟩ := hmembers fk hfk hparent
  rw [hchild] at hforeign
  obtain ⟨group, hgroup, hgroupid, hcompany⟩ := hforeign
  obtain ⟨hownid, hownc⟩ : own "id" = some (.int id) ∧ own "company_id" = some (.int c) := by
    simpa [ownRow] using hselects
  have hagree : Agree ["id"] own group := by
    simp [Agree, hownid, hgroupid, ← hcolumn, hid]
  have hunique : (Table.vehicleGroups, ["id"]) ∈ schema.uniques := by decide
  obtain rfl := s.db.valid.eq_of_agree hunique hown hgroup hagree
  exact hcompany hownc

/-- **What a handler keeps.** A row of others outlives the work on a harmless request. -/
theorem work_stays (e : Endpoint) (hmem : row ∈ s.db.tables u)
    (hforeign : Foreign c s.db.tables u row) (h : Harmless c s.db.tables r e) :
    Stays u row s (outcome (e.handler.work r c (r.id.getD 0) r.fields) s).2 := by
  have hrow := hforeign.unclaimed
  cases e
  case changePassword =>
    refine changePassword_stays fun hu _ hid => ?_
    subst hu
    by_contra hscan
    exact h row hmem hid hscan hforeign
  case updateGroup =>
    refine updateGroup_stays hrow (fun hgiven hu hid => ?_) s
    subst hu
    exact h hgiven row hmem hid hforeign
  case createMaster =>
    refine createMaster_stays (fun hflag hu hcategory => ?_) s
    subst hu
    exact h hflag row hmem hforeign hcategory
  case updateMaster =>
    refine updateMaster_stays (fun hu hid => ?_) fun hflag master hmaster hid category hcategory hu => ?_
    · subst hu
      exact (h row hmem hid).1 hforeign
    · subst hu
      exact (h master hmaster hid).2 hflag category hcategory row hmem hforeign
  case deleteMaster =>
    refine deleteMaster_stays (fun hu hid => ?_) s
    subst hu
    exact h row hmem hid hforeign
  case deleteDevice | deleteDriver | deleteAlertRule =>
    exact deleteRow_stays_of_unreferenced (by decide) (by decide) hmem hforeign h
  case deleteGroup =>
    exact deleteRow_stays_of_unreferenced (by decide) (by decide) hmem hforeign
      unreferenced_vehicleGroups
  case createDevice => exact createDevice_stays hrow s
  case assignDevice => exact assignDevice_stays hrow s
  case updateDeviceConfig => exact updateDeviceConfig_stays hrow s
  case updateVehicleConfig => exact updateVehicleConfig_stays hrow s
  case createDriver => exact createDriver_stays s
  case createRFIDTag | assignRFID => exact createRFIDTag_stays hrow s
  case createGroup => exact createGroup_stays s
  case addDevicesToGroup => exact addDevicesToGroup_stays s
  case checkGeofence =>
    exact (keeps_get.bind fun _ => (keeps_selectAll _ _).bind fun _ => keeps_pure _) s
  case createLR => exact createLR_stays hrow s
  case createGatePass => exact createGatePass_stays hrow s
  case createFleetTrip => exact createFleetTrip_stays s
  case createVoucher => exact createVoucher_stays hrow s
  case createInvoice => exact createInvoice_stays s
  case createComplaint => exact createComplaint_stays s
  case sendDeviceCommand => exact sendDeviceCommand_stays s
  case createTempUser => exact createTempUser_stays s
  case acknowledgeAlert => exact acknowledgeAlert_stays hrow s
  case acknowledgeAllAlerts => exact acknowledgeAllAlerts_stays hrow s
  case updateSmsConfig => exact updateSmsConfig_stays hrow s
  case updateCompanySettings => exact updateCompanySettings_stays hrow s
  case updateDevice | updateVehicle | updateDriver | updateGeofence | updatePOI | updateReminder |
      updateTrip | updateRoute | updateParty | updateLR | updateFleetTrip | updateTyre |
      updateAlertRule | updateInvoice | updateComplaint =>
    exact keeps_updateRow hrow (by decide) s
  case createVehicle | createGeofence | createPOI | createReminder | createTrip | createRoute |
      createParty | createPartyRoute | createTyre | createAlertRule =>
    exact keeps_createRow s
  case deleteGeofence | deletePOI | deleteReminder | deleteTempUser | deleteTrip | deleteRoute |
      deleteTyre =>
    exact deleteRow_stays_of_unreferenced (by decide) (by decide) hmem hforeign
      (unreferenced_of_leaf (by decide))

end

/-! ### Harmful requests

For each way of not being harmless, circumstances in which a row of others is lost. -/

section

variable {c : Int} {db : SQL.Database schema Datum} {s : Server} {r : Request} {id : Int}
  {req : Fields} {t u : Table} {row : Row Datum}

theorem deleteRow_harms {invalid message : String} (hs : s.Clear) (hdel : t ∈ deletable)
    (hunique : (t, ["id"]) ∈ schema.uniques) {own : Row Datum} (hown : own ∈ s.db.tables t)
    (hselects : (ownRow id c).selects own = true) {fk : ForeignKey Table}
    (hfk : fk ∈ schema.foreignKeys) (hparent : fk.parent = t) (hrefers : row fk.column = own "id") :
    row ∉ (outcome ((deleteRow t invalid message).work r c id req) s).2.db.tables fk.child := by
  unfold deleteRow
  obtain ⟨db', hexec, -⟩ := s.db.exec_delete (shallow_of_deletable t hdel) (ownRow id c)
  have hid : own "id" ≠ none := by
    simp_all [ownRow]
  have hgone := Database.delete_reaches (shallow_of_deletable t hdel) hexec hunique hfk hparent hown
    hselects hid hrefers
  rw [outcome_bind_of_ok (outcome_exec hs hexec), outcome_pure]
  exact hgone

theorem deleteMaster_harms (hs : s.Clear) (hmem : row ∈ s.db.tables .lookupMasters)
    (hid : row "id" = some (.int id)) :
    row ∉ (outcome (deleteMasterHandler.work r c id req) s).2.db.tables .lookupMasters := by
  unfold deleteMasterHandler
  have hshallow := shallow_of_deletable .lookupMasters (by decide)
  obtain ⟨db', hexec, -⟩ := s.db.exec_delete hshallow [("id", .int id)]
  have hgone := Database.delete_takes hshallow hexec (by decide) hmem (by simp [hid]) (by simp [hid])
  rw [outcome_bind_of_ok (outcome_exec hs hexec), outcome_pure]
  exact hgone

/-- A category loses the defaults that others had. -/
theorem clearDefaults_takes {category : String} (hs : s.Clear)
    (hcategory : row "category" = some (.text category))
    (hdefault : row "is_default" ≠ some (.bool false)) :
    ∃ mid, outcome (clearDefaults category) s = (.ok (), mid) ∧
      mid.faults = s.faults.tail ∧ row ∉ mid.db.tables .lookupMasters := by
  obtain ⟨db', hexec⟩ := s.db.exec_update clearDefaults_free [("category", .text category)]
  refine ⟨{ s with db := db', faults := s.faults.tail }, ?_, rfl, fun hstays => ?_⟩
  · rw [clearDefaults, outcome_bind, outcome_attempt, outcome_exec hs hexec]
    rfl
  · obtain ⟨old, -, hold⟩ := (Database.mem_update_iff hexec).mp hstays
    split at hold
    · exact hdefault (by simp [← hold, Assignments.apply, setTo])
    · subst hold
      simp_all

theorem createMaster_harms (htx : s.tx = none) (hfaults : s.faults = [false, true])
    (hflag : req.flag "isDefault" = some true) (hcategory : row "category" = some (.text r.type))
    (hdefault : row "is_default" ≠ some (.bool false)) :
    row ∉ (outcome (createMasterHandler.work r c id req) s).2.db.tables .lookupMasters := by
  have hclear : s.Clear := by simp [Server.Clear, htx, hfaults]
  obtain ⟨mid, hcleared, hrest, hgone⟩ := clearDefaults_takes hclear hcategory hdefault
  have hfault : mid.faults.head? = some true := by simp [hrest, hfaults]
  unfold createMasterHandler
  simp only [hflag, Option.getD_some, ↓reduceIte]
  rw [outcome_bind_of_ok hcleared]
  obtain ⟨after, hinsert, hdb⟩ := outcome_insertReturning_of_fault hfault .lookupMasters _
  rw [outcome_bind_of_error hinsert, hdb]
  exact hgone

/-- The defaults of the master's category are cleared, and then the update fails. -/
theorem updateMaster_clears (htx : s.tx = none) (hfaults : s.faults = [false, false, true])
    (hflag : req.flag "isDefault" = some true) {master : Row Datum}
    (hmaster : master ∈ s.db.tables .lookupMasters) (hid : master "id" = some (.int id))
    {category : String} (hcategory : master "category" = some (.text category))
    (hrow : row "category" = some (.text category))
    (hdefault : row "is_default" ≠ some (.bool false)) :
    row ∉ (outcome (updateMasterHandler.work r c id req) s).2.db.tables .lookupMasters := by
  have hclear : s.Clear := by simp [Server.Clear, htx, hfaults]
  have hfind := find_by_id s.db (by decide) hmaster hid
  let asked := { s with faults := s.faults.tail }
  obtain ⟨mid, hcleared, hrest, hgone⟩ := clearDefaults_takes (s := asked)
    (by simp [asked, Server.Clear, htx, hfaults]) hrow hdefault
  have hfault : mid.faults.head? = some true := by simp [hrest, asked, hfaults]
  unfold updateMasterHandler
  simp only [hflag, ↓reduceIte]
  rw [outcome_bind_of_ok (outcome_selectFirst hclear _ _), hfind]
  simp only [Option.bind_some, textOf, hcategory]
  rw [outcome_bind_of_ok hcleared, outcome_bind_of_error (outcome_exec_of_fault hfault _)]
  exact hgone

/-- The query for the category fails, and the update goes through. -/
theorem updateMaster_changes (htx : s.tx = none)
    (hfaults : s.faults = if req.flag "isDefault" = some true then [true] else [])
    (hmem : row ∈ s.db.tables .lookupMasters) (hid : row "id" = some (.int id))
    (hchange : Assignments.apply (masterAssignments req) row ≠ row) :
    row ∉ (outcome (updateMasterHandler.work r c id req) s).2.db.tables .lookupMasters := by
  have hupdate : ∀ mid : Server, mid.Clear → mid.db = s.db → row ∉ (outcome (do
      let affected ← exec (.update .lookupMasters (masterAssignments req) [("id", .int id)])
      if affected = 0 then throw (notFound "master record not found")
      return Response.ok "Master record updated") mid).2.db.tables .lookupMasters := by
    intro mid hclear hdb
    obtain ⟨db', hexec⟩ := mid.db.exec_update (masterAssignments_free req) [("id", .int id)]
    have hgone := Database.update_changes (masterAssignments_free req) hexec (by decide)
      (hdb ▸ hmem) (by simp [hid]) (by simp [hid]) hchange
    rw [outcome_bind_of_ok (outcome_exec hclear hexec)]
    dsimp only
    split <;> simpa [outcome_bind] using hgone
  unfold updateMasterHandler
  dsimp only
  split
  · rename_i hflag
    have hfault : s.faults.head? = some true := by simp [hfaults, hflag]
    rw [outcome_bind_of_ok (outcome_selectFirst_of_fault hfault _ _)]
    exact hupdate s.fail (by simp [Server.Clear, Server.fail, htx, hfaults, hflag]) rfl
  · rename_i hflag
    exact hupdate s (by simp [Server.Clear, htx, hfaults, hflag]) rfl

theorem addMembers_fail (groupID : Int) (vehicleIDs : List Int) :
    ∀ s : Server, s.faults = List.replicate vehicleIDs.length true →
      ∃ s', outcome (vehicleIDs.forM (addMember groupID)) s = (.ok ⟨⟩, s') ∧ s'.db = s.db := by
  induction vehicleIDs with
  | nil => exact fun s _ => ⟨s, rfl, rfl⟩
  | cons vehicleID rest ih =>
      intro s hfaults
      have hfault : s.faults.head? = some true := by simp [hfaults, List.replicate_succ]
      have hadd : outcome (addMember groupID vehicleID) s = (.ok ⟨⟩, s.fail) := by
        rw [addMember, outcome_bind, outcome_now]
        dsimp only
        rw [outcome_bind, outcome_attempt, outcome_exec_of_fault hfault]
        rfl
      obtain ⟨s', hrest, hdb⟩ := ih s.fail (by simp [Server.fail, hfaults, List.replicate_succ])
      refine ⟨s', ?_, hdb⟩
      show outcome (addMember groupID vehicleID >>= fun _ => rest.forM (addMember groupID)) s = _
      rw [outcome_bind_of_ok hadd, hrest]

/-- The members of the group are deleted, and none of them comes back. -/
theorem updateGroup_harms (htx : s.tx = none) {vehicleIDs : List Int}
    (hfaults : s.faults = false :: false :: List.replicate vehicleIDs.length true)
    (hids : req.ints "vehicleIds" = some vehicleIDs) (hgroup : row "group_id" = some (.int id)) :
    row ∉ (outcome (updateGroupHandler.work r c id req) s).2.db.tables .vehicleGroupMembers := by
  have hfree : schema.Free .vehicleGroups [keepText "name" (req.text "name"),
      keepText "description" (req.text "description"), touch s.now] :=
    .of_columns ["name", "description", "updated_at"] rfl (by decide) (by decide) (by decide)
  obtain ⟨db, hupdate⟩ := s.db.exec_update hfree (ownRow id c)
  have hshallow := shallow_of_deletable .vehicleGroupMembers (by decide)
  obtain ⟨db', hdelete, hswept⟩ := db.exec_delete hshallow [("group_id", .int id)]
  have hgone : row ∉ db'.tables .vehicleGroupMembers := by
    intro hstays
    obtain ⟨old, hold, hsame⟩ := hswept.derived _ row hstays
    obtain ⟨-, hleft⟩ := mem_without.mp hold
    have hgroup' : old "group_id" = some (.int id) := by
      rcases hsame "group_id" with heq | ⟨hnull, -⟩
      · exact heq ▸ hgroup
      · simp [hgroup] at hnull
    simp [hgroup'] at hleft
  let mid := { s with db := db, faults := s.faults.tail }
  let left := { mid with db := db', faults := mid.faults.tail }
  obtain ⟨after, hadd, hdb⟩ := addMembers_fail id vehicleIDs left (by simp [left, mid, hfaults])
  unfold updateGroupHandler
  dsimp only
  rw [outcome_bind, outcome_now]
  dsimp only
  rw [outcome_bind_of_ok (outcome_exec (by simp [Server.Clear, htx, hfaults]) hupdate), hids]
  dsimp only
  rw [outcome_bind_of_ok (outcome_exec (by simp [Server.Clear, htx, hfaults]) hdelete),
    outcome_bind_of_ok hadd, outcome_pure, hdb]
  exact hgone

theorem changePassword_harms (hs : s.Clear) (hrest : s.faults.tail = [])
    (hmem : row ∈ s.db.tables .users) (hid : row "id" = some (.int r.session.userID))
    {user : User} (hscan : scanUser row = some user)
    (hverify : s.bcrypt.verify user.passwordHash (req.text "old_password") = true)
    {hash : String} (hhash : s.bcrypt.hash (req.text "new_password") = some hash)
    (hnew : hash ≠ user.passwordHash) :
    row ∉ (outcome (changePasswordHandler.work r c id req) s).2.db.tables .users := by
  have hfree : schema.Free .users [setTo "password_hash" (some (.text hash))] :=
    .of_columns ["password_hash"] rfl (by decide) (by decide) (by decide)
  obtain ⟨db', hexec⟩ := s.db.exec_update hfree [("id", .int r.session.userID)]
  have hold : row "password_hash" = some (.text user.passwordHash) :=
    eq_of_textOf (scanUser_eq_some hscan).2.1
  have hchange : Assignments.apply [setTo "password_hash" (some (.text hash))] row ≠ row := by
    intro hsame
    have hcolumn := congrFun hsame "password_hash"
    simp_all [Assignments.apply, setTo]
  have hgone := Database.update_changes hfree hexec (by decide) hmem (by simp [hid]) (by simp [hid])
    hchange
  let asked := { s with faults := s.faults.tail }
  have hfound : outcome (getByID r.session.userID) s = (.ok (some user), asked) := by
    rw [getByID, outcome_bind_of_ok (outcome_selectFirst hs _ _),
      find_by_id s.db (by decide) hmem hid, Option.bind_some, hscan]
    rfl
  have hset : outcome (updatePassword r.session.userID hash) asked =
      (.ok ⟨⟩, { asked with db := db', faults := asked.faults.tail }) := by
    rw [updatePassword, outcome_bind_of_ok (outcome_exec (s := asked) ⟨hs.1, by simp [asked, hrest]⟩ hexec)]
    rfl
  unfold changePasswordHandler
  dsimp only
  rw [outcome_bind_of_ok hfound]
  dsimp only
  rw [outcome_bind, outcome_get]
  simp only [asked, hverify, hhash, Bool.not_true, Bool.false_eq_true, ↓reduceIte]
  rw [outcome_bind_of_ok hset]
  exact hgone

end

/-- The request leaves every row that is not the company's as it is. -/
def Isolated (c : Int) (s s' : Server) : Prop :=
  ∀ t, ∀ row ∈ s.db.tables t, Foreign c s.db.tables t row → row ∈ s'.db.tables t

/-- A request that is not harmless takes something from others, if things go so. -/
theorem exists_harmed {c : Int} (db : SQL.Database schema Datum) (e : Endpoint) (r : Request)
    (h : ¬Harmless c db.tables r e) :
    ∃ s : Server, s.db = db ∧ s.pool = true ∧
      ∃ t, ∃ row ∈ db.tables t, Foreign c db.tables t row ∧
        row ∉ (outcome (e.handler.work r c (r.id.getD 0) r.fields) s).2.db.tables t := by
  cases e
  case deleteDevice | deleteDriver | deleteAlertRule =>
    simp only [Harmless, Unreferenced, not_forall, not_not] at h
    obtain ⟨own, hown, hselects, fk, hfk, hparent, row, hmem, hrefers, hforeign⟩ := h
    refine ⟨calm db .lenient [], rfl, rfl, fk.child, row, hmem, hforeign, ?_⟩
    exact deleteRow_harms (by simp [Server.Clear, calm]) (by decide) (by decide) hown hselects hfk
      hparent hrefers
  case updateGroup =>
    simp only [Harmless, not_forall, not_not] at h
    obtain ⟨hgiven, row, hmem, hgroup, hforeign⟩ := h
    obtain ⟨vehicleIDs, hids⟩ := Option.ne_none_iff_exists'.mp hgiven
    refine ⟨calm db .lenient (false :: false :: List.replicate vehicleIDs.length true), rfl, rfl,
      _, row, hmem, hforeign, ?_⟩
    exact updateGroup_harms rfl rfl hids hgroup
  case createMaster =>
    simp only [Harmless, NoForeignDefault, not_forall] at h
    obtain ⟨hflag, row, hmem, hforeign, hcategory, hdefault⟩ := h
    refine ⟨calm db .lenient [false, true], rfl, rfl, _, row, hmem, hforeign, ?_⟩
    exact createMaster_harms rfl rfl hflag hcategory hdefault
  case updateMaster =>
    simp only [Harmless, NoForeignDefault, not_forall, not_and_or] at h
    obtain ⟨master, hmaster, hid, ⟨hforeign, hchange⟩ | h⟩ := h
    · refine ⟨calm db .lenient (if r.fields.flag "isDefault" = some true then [true] else []), rfl,
        rfl, _, master, hmaster, hforeign, ?_⟩
      exact updateMaster_changes rfl rfl hmaster hid hchange
    · obtain ⟨hflag, category, hcategory, row, hmem, hforeign, hrow, hdefault⟩ := h
      refine ⟨calm db .lenient [false, false, true], rfl, rfl, _, row, hmem, hforeign, ?_⟩
      exact updateMaster_clears rfl rfl hflag hmaster hid hcategory hrow hdefault
  case deleteMaster =>
    simp only [Harmless, not_forall, not_not] at h
    obtain ⟨row, hmem, hid, hforeign⟩ := h
    refine ⟨calm db .lenient [], rfl, rfl, _, row, hmem, hforeign, ?_⟩
    exact deleteMaster_harms (by simp [Server.Clear, calm]) hmem hid
  case changePassword =>
    simp only [Harmless, not_forall, not_not] at h
    obtain ⟨row, hmem, hid, hscan, hforeign⟩ := h
    obtain ⟨user, huser⟩ := Option.ne_none_iff_exists'.mp hscan
    -- Hashes are salted: the new one may be any text.
    let bcrypt : Bcrypt := ⟨fun _ _ => true, fun _ => some (user.passwordHash ++ "'")⟩
    refine ⟨calm db bcrypt [], rfl, rfl, _, row, hmem, hforeign, ?_⟩
    exact changePassword_harms (by simp [Server.Clear, calm]) rfl hmem hid huser rfl rfl
      (by simp)
  all_goals exact absurd trivial h

/-- **Tenants touch their own rows only, exactly on harmless requests.** -/
theorem isolated_iff_harmless (db : SQL.Database schema Datum) (e : Endpoint) (r : Request)
    (hrole : r.session.role ≠ "superadmin") (hpos : 0 < r.session.companyID) :
    (∀ s : Server, s.db = db → Isolated r.session.companyID s (s.after e r)) ↔
      (e.handler.refuses r = none → Harmless r.session.companyID db.tables r e) := by
  have hcompany := getEffectiveCompanyID_of_tenant hrole hpos
  constructor
  · intro hisolated hrefuses
    by_contra hharm
    obtain ⟨s, rfl, hpool, t, row, hmem, hforeign, hgone⟩ := exists_harmed db e r hharm
    have hstays := hisolated s rfl t row hmem hforeign
    rw [Server.after, serve, outcome_serve hpool hrefuses, hcompany] at hstays
    exact hgone hstays
  · rintro h s rfl t row hmem hforeign
    rw [Server.after, serve]
    rcases outcome_serve_cases e.handler r s with ⟨error, hout, -⟩ | ⟨-, hrefuses, hout⟩
    · rwa [hout]
    · rw [hout, hcompany]
      exact work_stays e hmem hforeign (h hrefuses) hmem

/-! ### Two tenants -/

/-- A group of company 2 with one vehicle in it. -/
def twoTenants : SQL.Database schema Datum where
  tables
    | .companies => [1, 2].map fun id => Table.row .companies 0 [("id", some (.int id))]
    | .vehicles => [Table.row .vehicles 0 [("id", some (.int 5)), ("company_id", some (.int 2))]]
    | .vehicleGroups =>
      [Table.row .vehicleGroups 0 [("id", some (.int 3)), ("company_id", some (.int 2))]]
    | .vehicleGroupMembers =>
      [Table.row .vehicleGroupMembers 0
        [("group_id", some (.int 3)), ("vehicle_id", some (.int 5))]]
    | _ => []
  valid := by decide

/-- A user of company 1 asks for an empty group 3. -/
def emptyGroup : Request where
  session := ⟨9, 1, "viewer", "viewer"⟩
  id := some 3
  type := ""
  companyID := none
  body := .ok { Fields.empty with ints := fun field => if field = "vehicleIds" then some [] else none }

/-- There is no master 3 for a user of company 1 to delete. -/
theorem noMaster_isolated :
    Isolated 1 (calm twoTenants .lenient [])
      ((calm twoTenants .lenient []).after .deleteMaster emptyGroup) :=
  (isolated_iff_harmless twoTenants .deleteMaster emptyGroup (by decide) (by decide)).mpr
    (fun _ row hrow => by simp [twoTenants] at hrow) _ rfl

/-- **A tenant empties the group of another.** -/
theorem emptyGroup_not_isolated :
    emptyGroup.session.role ≠ "superadmin" ∧ emptyGroup.session.companyID = 1 ∧
      ¬Isolated 1 (calm twoTenants .lenient [false, false])
        ((calm twoTenants .lenient [false, false]).after .updateGroup emptyGroup) := by
  refine ⟨by decide, rfl, fun hisolated => ?_⟩
  let member := Table.row .vehicleGroupMembers 0
    [("group_id", some (.int 3)), ("vehicle_id", some (.int 5))]
  have hmem : member ∈ twoTenants.tables .vehicleGroupMembers := by simp [twoTenants, member]
  have hforeign : Foreign 1 twoTenants.tables .vehicleGroupMembers member :=
    ⟨_, List.mem_singleton_self _, rfl, by decide⟩
  have hstays := hisolated .vehicleGroupMembers member hmem hforeign
  rw [Server.after, serve, outcome_serve rfl rfl] at hstays
  exact updateGroup_harms rfl rfl rfl rfl hstays

end RudraNetra.API
