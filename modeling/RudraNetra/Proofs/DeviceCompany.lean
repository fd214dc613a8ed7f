/-
Vehicles and the companies of their devices.

Six handlers write one side or the other of `vehicles.device_id`.  The schema says that
the device is there and that no two vehicles have it, and nothing about companies.  The
three handlers that take a device's id from the request do not ask whose it is, and the
fourth that changes a device's company does not ask who carries it.  What is proved here is
which requests to the six can bring a vehicle and a device of different companies together.
-/
import RudraNetra.Api.Routes
import RudraNetra.Proofs.Statements

namespace RudraNetra.API

open SQL Effect

/-- A vehicle with a device is of the device's company. -/
def Consistent (tables : Tables Table Datum) : Prop :=
  ∀ vehicle ∈ tables .vehicles, ∀ device ∈ tables .devices, vehicle "device_id" ≠ none →
    vehicle "device_id" = device "id" → vehicle "company_id" = device "company_id"

/-- Consistent tables stay so. -/
def KeepsConsistent (db db' : SQL.Database schema Datum) : Prop :=
  Consistent db.tables → Consistent db'.tables

instance : Std.Refl KeepsConsistent := ⟨fun _ h => h⟩

instance : IsTrans (SQL.Database schema Datum) KeepsConsistent := ⟨fun _ _ _ h h' => h' ∘ h⟩

section

variable {db db' : SQL.Database schema Datum} {n : Nat} {set : List Assignment}
  {cond : Condition Datum}

/-! ### Statements on devices -/

/-- The device of a vehicle is there. -/
theorem exists_device (db : SQL.Database schema Datum) {vehicle : Row Datum}
    (hvehicle : vehicle ∈ db.tables .vehicles) (hcarries : vehicle "device_id" ≠ none) :
    ∃ device ∈ db.tables .devices, device "id" = vehicle "device_id" := by
  let fk : ForeignKey Table := ⟨.vehicles, "device_id", .devices, .setNull⟩
  have hfk : fk ∈ schema.foreignKeys := by simp [schema, fk]
  exact (db.valid.refers fk hfk vehicle hvehicle).resolve_left hcarries

/-- A new device is in no vehicle yet. -/
theorem insertDevice_keeps {row : Row Datum} (h : db.exec (.insert .devices row) = some (db', n)) :
    KeepsConsistent db db' := by
  intro hconsistent vehicle hvehicle device hdevice hcarries hid
  have hvehicle' : vehicle ∈ db.tables .vehicles := by
    simpa [Database.insert_tables h] using hvehicle
  obtain ⟨carried, hcarried, hsame⟩ := exists_device db hvehicle' hcarries
  have hcarried' : carried ∈ db'.tables .devices := by
    simp [Database.insert_tables h, hcarried]
  have hagree : Agree ["id"] carried device := by
    simpa [Agree, hsame, hid] using hid ▸ hcarries
  have hunique : (Table.devices, ["id"]) ∈ schema.uniques := by decide
  obtain rfl := db'.valid.eq_of_agree hunique hcarried' hdevice hagree
  exact hconsistent vehicle hvehicle' carried hcarried hcarries hid

/-- Some vehicle has the device. -/
def Carried (tables : Tables Table Datum) (device : Row Datum) : Prop :=
  ∃ vehicle ∈ tables .vehicles, vehicle "device_id" ≠ none ∧ vehicle "device_id" = device "id"

/-- An update of devices that leaves the companies of those in vehicles. -/
theorem updateDevices_keeps (h : db.exec (.update .devices set cond) = some (db', n))
    (hid : set.lookup "id" = none)
    (hcompany : ∀ device ∈ db.tables .devices, cond.selects device = true →
      Carried db.tables device →
        Assignments.apply set device "company_id" = device "company_id") :
    KeepsConsistent db db' := by
  intro hconsistent vehicle hvehicle device hdevice hcarries hsame
  rw [Database.update_other h (by decide)] at hvehicle
  obtain ⟨old, hold, rfl⟩ := (Database.mem_update_iff h).mp hdevice
  split at hsame
  · rename_i hselects
    rw [Assignments.apply_of_lookup hid] at hsame
    rw [if_pos hselects, hcompany old hold hselects ⟨vehicle, hvehicle, hcarries, hsame⟩]
    exact hconsistent vehicle hvehicle old hold hcarries hsame
  · rename_i hselects
    rw [if_neg hselects]
    exact hconsistent vehicle hvehicle old hold hcarries hsame

/-- A deleted device leaves its vehicle without one. -/
theorem deleteDevice_keeps (h : db.exec (.delete .devices cond) = some (db', n)) :
    KeepsConsistent db db' := by
  intro hconsistent vehicle hvehicle device hdevice hcarries hsame
  have hswept := Database.swept_of_exec (shallow_of_deletable .devices (by decide)) h
  have hvehicles : ∀ fk ∈ schema.foreignKeys, fk.child = .vehicles → fk.parent = .devices →
      fk.column = "device_id" := by decide
  have hdevices : ∀ fk ∈ schema.foreignKeys, fk.child = .devices → fk.parent ≠ .devices := by
    decide
  obtain ⟨old, hold, hcols⟩ := hswept.derived _ vehicle hvehicle
  obtain ⟨hold', -⟩ := mem_without.mp hold
  obtain ⟨left, hleft, hcols'⟩ := hswept.derived _ device hdevice
  obtain ⟨hleft', -⟩ := mem_without.mp hleft
  have hdevice_col : ∀ column, device column = left column := by
    intro column
    rcases hcols' column with heq | ⟨-, fk, hfk, hchild, hparent, -⟩
    · exact heq
    · exact absurd hparent (hdevices fk hfk hchild)
  have hcompany : vehicle "company_id" = old "company_id" := by
    rcases hcols "company_id" with heq | ⟨-, fk, hfk, hchild, hparent, hcolumn, -⟩
    · exact heq
    · simp [hvehicles fk hfk hchild hparent] at hcolumn
  have hcarried : vehicle "device_id" = old "device_id" :=
    (hcols "device_id").resolve_right fun hnull => hcarries hnull.1
  rw [hcompany, hdevice_col]
  exact hconsistent old hold' left hleft' (hcarried ▸ hcarries) (by rw [← hcarried, hsame, hdevice_col])

/-! ### Statements on vehicles -/

/-- The device with this id is another company's, or nobody's, and in no vehicle. -/
def SpareElsewhere (tables : Tables Table Datum) (c id : Int) : Prop :=
  (∃ device ∈ tables .devices, device "id" = some (.int id) ∧
    device "company_id" ≠ some (.int c)) ∧
  ∀ vehicle ∈ tables .vehicles, vehicle "device_id" ≠ some (.int id)

/-- A device of others that is not spare is in a vehicle of theirs. -/
theorem exists_carrier {c id : Int} {device : Row Datum} {tables : Tables Table Datum}
    (hconsistent : Consistent tables) (hspare : ¬SpareElsewhere tables c id)
    (hdevice : device ∈ tables .devices) (hid : device "id" = some (.int id))
    (hforeign : device "company_id" ≠ some (.int c)) :
    ∃ carrier ∈ tables .vehicles, carrier "device_id" = some (.int id) ∧
      carrier "company_id" = device "company_id" := by
  simp only [SpareElsewhere, not_and, not_forall, not_not] at hspare
  obtain ⟨carrier, hcarrier, hcarries⟩ := hspare ⟨device, hdevice, hid, hforeign⟩
  refine ⟨carrier, hcarrier, hcarries, ?_⟩
  exact hconsistent carrier hcarrier device hdevice (by simp [hcarries]) (hcarries.trans hid.symm)

/-- The company's vehicles are given a device that is not spare elsewhere, or none. -/
theorem updateVehicles_keeps (c id : Int) (h : db.exec (.update .vehicles set cond) = some (db', n))
    (hcond : ("company_id", .int c) ∈ cond) (hcompany : set.lookup "company_id" = none)
    (hdevice : ∀ vehicle ∈ db.tables .vehicles, cond.selects vehicle = true →
      Assignments.apply set vehicle "device_id" = none ∨
      Assignments.apply set vehicle "device_id" = vehicle "device_id" ∨
      Assignments.apply set vehicle "device_id" = some (.int id) ∧ ¬SpareElsewhere db.tables c id) :
    KeepsConsistent db db' := by
  intro hconsistent vehicle hvehicle device hdevices hcarries hsame
  rw [Database.update_other h (by decide)] at hdevices
  obtain ⟨old, hold, hnew⟩ := (Database.mem_update_iff h).mp hvehicle
  split at hnew
  · rename_i hselects
    have hold_company : vehicle "company_id" = old "company_id" := by
      rw [← hnew, Assignments.apply_of_lookup hcompany]
    rw [hold_company]
    rcases hdevice old hold hselects with hnone | hstays | ⟨hid, hspare⟩
    · exact absurd (hnew ▸ hnone) hcarries
    · rw [← hnew, hstays] at hcarries hsame
      exact hconsistent old hold device hdevices hcarries hsame
    · have hold_c : old "company_id" = some (.int c) := Condition.selects_iff.mp hselects _ hcond
      rw [hnew] at hid
      by_contra hother
      -- Somebody else has the device, and keeps it: two vehicles would have it then.
      have hforeign : device "company_id" ≠ some (.int c) := fun heq => hother (hold_c.trans heq.symm)
      obtain ⟨carrier, hcarrier, hcarries', hcarrier_c⟩ :=
        exists_carrier hconsistent hspare hdevices (hsame.symm.trans hid) hforeign
      have hunselected : ¬cond.selects carrier = true := by
        intro hselects'
        exact hforeign (hcarrier_c ▸ Condition.selects_iff.mp hselects' _ hcond)
      have hcarrier' : carrier ∈ db'.tables .vehicles :=
        (Database.mem_update_iff h).mpr ⟨carrier, hcarrier, if_neg hunselected⟩
      have hunique : (Table.vehicles, ["device_id"]) ∈ schema.uniques := by decide
      have hagree : Agree ["device_id"] carrier vehicle := by simp [Agree, hcarries', hid]
      obtain rfl := db'.valid.eq_of_agree hunique hcarrier' hvehicle hagree
      exact hother (hold_company ▸ hcarrier_c)
  · subst hnew
    exact hconsistent old hold device hdevices hcarries hsame

/-- A new vehicle of the company, with a device that is not spare elsewhere, or with none. -/
theorem insertVehicle_keeps (c id : Int) {row : Row Datum}
    (h : db.exec (.insert .vehicles row) = some (db', n))
    (hcompany : row "company_id" = some (.int c))
    (hdevice : row "device_id" = none ∨ row "device_id" = some (.int id) ∧
      (HasID (db.tables .companies) (some (.int c)) → ¬SpareElsewhere db.tables c id)) :
    KeepsConsistent db db' := by
  intro hconsistent vehicle hvehicle device hdevices hcarries hsame
  have hnew : row ∈ db'.tables .vehicles := by simp [Database.insert_tables h]
  have hdevices' : device ∈ db.tables .devices := by
    simpa [Database.insert_tables h] using hdevices
  have hvehicles : vehicle ∈ db.tables .vehicles ∨ vehicle = row := by
    simpa [Database.insert_tables h] using hvehicle
  rcases hvehicles with hold | rfl
  · exact hconsistent vehicle hold device hdevices' hcarries hsame
  · obtain ⟨hid, hspare⟩ := hdevice.resolve_left hcarries
    let fk : ForeignKey Table := ⟨.vehicles, "company_id", .companies, .cascade⟩
    have hfk : fk ∈ schema.foreignKeys := by simp [schema, fk, companyTables]
    obtain ⟨company, hmem, hcompanyid⟩ :=
      (db'.valid.refers fk hfk vehicle hnew).resolve_left (by simp [fk, hcompany])
    have hthere : HasID (db.tables .companies) (some (.int c)) := by
      refine ⟨company, ?_, by simpa [fk, hcompany] using hcompanyid⟩
      simpa [Database.insert_tables h, fk] using hmem
    by_contra hother
    have hforeign : device "company_id" ≠ some (.int c) :=
      fun heq => hother (hcompany.trans heq.symm)
    obtain ⟨carrier, hcarrier, hcarries', hcarrier_c⟩ :=
      exists_carrier hconsistent (hspare hthere) hdevices' (hsame.symm.trans hid) hforeign
    have hcarrier' : carrier ∈ db'.tables .vehicles := by
      simp [Database.insert_tables h, hcarrier]
    have hunique : (Table.vehicles, ["device_id"]) ∈ schema.uniques := by decide
    have hagree : Agree ["device_id"] carrier vehicle := by simp [Agree, hcarries', hid]
    obtain rfl := db'.valid.eq_of_agree hunique hcarrier' hnew hagree
    exact hother hcarrier_c

end

/-! ### The six operations -/

/-- The operations that write a device's company or a vehicle's device. -/
inductive DeviceOperation where
  | createDevice
  | assignDevice
  | createVehicle
  | updateVehicle
  | adminCreateDevice
  | deleteDevice

def DeviceOperation.handler : DeviceOperation → Handler
  | createDevice => createDeviceHandler
  | assignDevice => assignDeviceHandler
  | createVehicle => createVehicleHandler
  | updateVehicle => updateVehicleHandler
  | adminCreateDevice => adminRoute adminCreateDeviceHandler
  | deleteDevice => deleteDeviceHandler

/-- The vehicle that `targetVehicle` finds. -/
def targetOf (tables : Tables Table Datum) (companyID : Int) (req : Fields) : Option Int :=
  if req.int "vehicleId" > 0 then some (req.int "vehicleId")
  else
    ((tables .vehicles).find? <| Condition.selects
      [("reg_number", .text (req.text "vehicleReg")), ("company_id", .int companyID)]).bind
      (intOf · "id")

/-- The company that `companyNamed` finds. -/
def companyOf (tables : Tables Table Datum) (name : String) : Option Int :=
  if name ≠ "" then ((tables .companies).find? (likeName "name" name)).bind (intOf · "id") else none

/-- The company's vehicle with this id is there. -/
def OwnVehicle (tables : Tables Table Datum) (c id : Int) : Prop :=
  ∃ vehicle ∈ tables .vehicles, (ownRow id c).selects vehicle = true

/-- An accepted request that brings a vehicle and a device of different companies together. -/
def Crosses (tables : Tables Table Datum) (r : Request) : DeviceOperation → Prop
  | .createDevice => False
  | .deleteDevice => False
  | .assignDevice =>
    (∃ vehicleID, targetOf tables (getEffectiveCompanyID r) r.fields = some vehicleID ∧
      OwnVehicle tables (getEffectiveCompanyID r) vehicleID) ∧
    SpareElsewhere tables (getEffectiveCompanyID r) (r.id.getD 0)
  | .createVehicle =>
    r.fields.int "deviceId" > 0 ∧
    HasID (tables .companies) (some (.int (getEffectiveCompanyID r))) ∧
    SpareElsewhere tables (getEffectiveCompanyID r) (r.fields.int "deviceId")
  | .updateVehicle =>
    r.fields.int "deviceId" ≠ 0 ∧ OwnVehicle tables (getEffectiveCompanyID r) (r.id.getD 0) ∧
    SpareElsewhere tables (getEffectiveCompanyID r) (r.fields.int "deviceId")
  | .adminCreateDevice => ∃ companyID, companyOf tables (r.fields.text "companyName") = some companyID ∧
    ∃ device ∈ tables .devices, device "imei" = some (.text (r.fields.text "imei")) ∧
      device "company_id" ≠ some (.int companyID) ∧ Carried tables device

/-! ### What the operations keep -/

section

variable {c : Int} {s : Server} {r : Request} {id : Int} {req : Fields}

/-- An update of devices that leaves ids and companies leaves the owners. -/
theorem owned_of_updateDevices {set : List Assignment} {cond : Condition Datum} {newID : Int}
    (hid : set.lookup "id" = none) (hcompany : set.lookup "company_id" = none)
    (howned : Owned c .devices newID s) :
    Owned c .devices newID (outcome (attempt (exec (.update .devices set cond))) s).2 := by
  rw [attempt_snd]
  let owns (db : SQL.Database schema Datum) : Prop :=
    ∃ new ∈ db.tables .devices, new "id" = some (.int newID) ∧ new "company_id" = some (.int c)
  let R (db db' : SQL.Database schema Datum) : Prop := owns db → owns db'
  have hrefl : Std.Refl R := ⟨fun _ h => h⟩
  refine exec_related (R := R) (fun db n hexec => ?_) howned
  rintro ⟨new, hnew, hnewid, hnewc⟩
  by_cases hselects : cond.selects new = true
  · refine ⟨Assignments.apply set new, (Database.mem_update_iff hexec).mpr ⟨new, hnew, if_pos hselects⟩, ?_, ?_⟩
    · rw [Assignments.apply_of_lookup hid, hnewid]
    · rw [Assignments.apply_of_lookup hcompany, hnewc]
  · exact ⟨new, (Database.mem_update_iff hexec).mpr ⟨new, hnew, if_neg hselects⟩, hnewid, hnewc⟩

/-- The company's own device is not spare elsewhere. -/
theorem not_spareElsewhere (howned : Owned c .devices id s) : ¬SpareElsewhere s.db.tables c id := by
  rintro ⟨⟨device, hdevice, hid, hforeign⟩, -⟩
  obtain ⟨own, hown, hownid, hownc⟩ := howned
  have hunique : (Table.devices, ["id"]) ∈ schema.uniques := by decide
  have hagree : Agree ["id"] device own := by simp [Agree, hid, hownid]
  obtain rfl := s.db.valid.eq_of_agree hunique hdevice hown hagree
  exact hforeign hownc

theorem createDevice_keeps : Keeps (OnDatabase KeepsConsistent) (createDeviceHandler.work r c id req) := by
  refine Keeps.bind_of (keeps_insertReturning fun db db' row n => insertDevice_keeps)
    (fun _ _ _ => owned_of_insertReturning) fun newID s howned => ?_
  rw [outcome_bind, outcome_now]
  dsimp only
  refine related_bind ?_ fun _ s' hupdated => ?_
  · rw [attempt_snd]
    refine exec_related fun db n hexec => updateDevices_keeps hexec rfl fun device _ _ _ => ?_
    exact Assignments.apply_of_lookup rfl device
  · have howned' : Owned c .devices newID s' := by
      rw [← show (outcome _ s).2 = s' from congrArg Prod.snd hupdated]
      exact owned_of_updateDevices rfl rfl howned
    split
    · refine related_bind ?_ fun _ mid _ => keeps_pure _ mid
      rw [attempt_snd]
      refine exec_related fun db n hexec => updateVehicles_keeps c newID hexec (by simp) rfl ?_
      exact fun _ _ _ => .inr (.inr ⟨rfl, not_spareElsewhere howned'⟩)
    · exact keeps_pure _ s'

theorem deleteDevice_keepsConsistent {invalid message : String} :
    Keeps (OnDatabase KeepsConsistent) ((deleteRow .devices invalid message).work r c id req) :=
  Keeps.bind (keeps_exec fun _ _ _ => deleteDevice_keeps) fun _ => keeps_pure _

theorem createVehicle_keeps (h : req.int "deviceId" > 0 →
      HasID (s.db.tables .companies) (some (.int c)) →
        ¬SpareElsewhere s.db.tables c (req.int "deviceId")) :
    OnDatabase KeepsConsistent s (outcome (createVehicleHandler.work r c id req) s).2 := by
  unfold createVehicleHandler createRow
  dsimp only
  rw [outcome_bind, outcome_now]
  refine related_bind (insertReturning_related fun db n hexec => ?_) fun _ mid _ => keeps_pure _ mid
  refine insertVehicle_keeps c (req.int "deviceId") hexec (by simp [Table.row, List.lookup]) ?_
  by_cases hdevice : req.int "deviceId" > 0
  · exact .inr ⟨by simp [Table.row, List.lookup, hdevice], h hdevice⟩
  · exact .inl (by simp [Table.row, List.lookup, hdevice])

theorem updateVehicle_keeps (h : req.int "deviceId" ≠ 0 → OwnVehicle s.db.tables c id →
      ¬SpareElsewhere s.db.tables c (req.int "deviceId")) :
    OnDatabase KeepsConsistent s (outcome (updateVehicleHandler.work r c id req) s).2 := by
  unfold updateVehicleHandler updateRow
  dsimp only
  rw [outcome_bind, outcome_now]
  dsimp only
  refine related_bind (exec_related fun db n hexec => ?_) fun _ mid _ => ?_
  · refine updateVehicles_keeps c (req.int "deviceId") hexec (by simp [ownRow]) rfl
      fun vehicle hvehicle hselects => ?_
    by_cases hdevice : req.int "deviceId" = 0
    · refine .inr (.inl ?_)
      show (nonZero (req.int "deviceId")).or (vehicle "device_id") = _
      simp [nonZero, hdevice]
    · refine .inr (.inr ⟨?_, h hdevice ⟨vehicle, hvehicle, hselects⟩⟩)
      show (nonZero (req.int "deviceId")).or (vehicle "device_id") = _
      simp [nonZero, hdevice]
  · split
    · exact related_bind (keeps_throw _ mid) fun _ after _ => keeps_pure _ after
    · exact keeps_pure _ mid

theorem targetVehicle_eq_ok {s s' : Server} {vehicleID : Int}
    (h : outcome (targetVehicle c req) s = (.ok (some vehicleID), s')) :
    s'.db = s.db ∧ targetOf s.db.tables c req = some vehicleID := by
  unfold targetVehicle at h
  unfold targetOf
  split at h
  · rename_i hgiven
    obtain ⟨hid, rfl⟩ : req.int "vehicleId" = vehicleID ∧ s = s' := by simpa using h
    exact ⟨rfl, by rw [if_pos hgiven, hid]⟩
  · rename_i hgiven
    rw [if_neg hgiven]
    obtain ⟨hdb, hread⟩ := selectFirst_bind_eq_ok h
    exact ⟨hdb, hread vehicleID rfl⟩

/-- Taking a device from the company's vehicles does not make a device of others spare. -/
theorem spareElsewhere_of_cleared {db db' : SQL.Database schema Datum} {n : Nat}
    {set : List Assignment} {cond : Condition Datum}
    (h : db.exec (.update .vehicles set cond) = some (db', n))
    (hcond : ("company_id", .int c) ∈ cond) (hconsistent : Consistent db.tables)
    (hspare : SpareElsewhere db'.tables c id) : SpareElsewhere db.tables c id := by
  obtain ⟨⟨device, hdevice, hid, hforeign⟩, hfree⟩ := hspare
  rw [Database.update_other h (by decide)] at hdevice
  by_contra hspare
  obtain ⟨carrier, hcarrier, hcarries, hcompany⟩ :=
    exists_carrier hconsistent hspare hdevice hid hforeign
  have hunselected : ¬cond.selects carrier = true := by
    intro hselects
    exact hforeign (hcompany ▸ Condition.selects_iff.mp hselects _ hcond)
  have hstays : carrier ∈ db'.tables .vehicles :=
    (Database.mem_update_iff h).mpr ⟨carrier, hcarrier, if_neg hunselected⟩
  exact hfree carrier hstays hcarries

/-- A vehicle that is the company's after an update was so before. -/
theorem ownVehicle_of_updated {db db' : SQL.Database schema Datum} {n : Nat} {vehicleID : Int}
    {set : List Assignment} {cond : Condition Datum}
    (h : db.exec (.update .vehicles set cond) = some (db', n)) (hid : set.lookup "id" = none)
    (hcompany : set.lookup "company_id" = none) (hown : OwnVehicle db'.tables c vehicleID) :
    OwnVehicle db.tables c vehicleID := by
  obtain ⟨vehicle, hvehicle, hselects⟩ := hown
  obtain ⟨old, hold, rfl⟩ := (Database.mem_update_iff h).mp hvehicle
  refine ⟨old, hold, ?_⟩
  split at hselects
  · simpa [ownRow, Assignments.apply_of_lookup hid, Assignments.apply_of_lookup hcompany]
      using hselects
  · exact hselects

theorem reassign_keeps {vehicleID : Int} (hconsistent : Consistent s.db.tables)
    (h : OwnVehicle s.db.tables c vehicleID → ¬SpareElsewhere s.db.tables c id) :
    OnDatabase KeepsConsistent s (outcome (reassign c id vehicleID) s).2 := by
  refine related_bind (exec_related fun db n hexec => ?_) fun _ mid hcleared => ?_
  · exact updateVehicles_keeps c id hexec (by simp) rfl fun _ _ _ => .inl rfl
  · obtain ⟨db, hexec, rfl⟩ := exec_eq_ok hcleared
    rw [outcome_bind, outcome_now]
    dsimp only
    refine related_bind (exec_related fun db' n' hexec' => ?_) fun _ after _ => ?_
    · refine updateVehicles_keeps c id hexec' (by simp [ownRow]) rfl fun vehicle hvehicle hselects =>
        .inr (.inr ⟨rfl, fun hspare => ?_⟩)
      have hown := ownVehicle_of_updated hexec rfl rfl ⟨vehicle, hvehicle, hselects⟩
      exact h hown (spareElsewhere_of_cleared hexec (by simp) hconsistent hspare)
    · split
      · exact keeps_throw _ after
      · exact keeps_pure _ after

theorem assignDevice_keeps (hconsistent : Consistent s.db.tables)
    (h : ∀ vehicleID, targetOf s.db.tables c req = some vehicleID →
      OwnVehicle s.db.tables c vehicleID → ¬SpareElsewhere s.db.tables c id) :
    OnDatabase KeepsConsistent s (outcome (assignDeviceHandler.work r c id req) s).2 := by
  have htarget : Keeps (OnDatabase KeepsConsistent) (targetVehicle c req) :=
    .ite (keeps_pure _) ((keeps_selectFirst _ _).bind fun _ => keeps_pure _)
  refine related_bind (htarget s) fun vehicle mid hfound => ?_
  cases vehicle with
  | none => exact keeps_throw _ mid
  | some vehicleID =>
      obtain ⟨hdb, htarget⟩ := targetVehicle_eq_ok hfound
      refine related_bind (transaction_related ?_) fun _ after _ => keeps_pure _ after
      refine reassign_keeps (s := { mid with faults := mid.faults.tail, tx := some false }) ?_ ?_
      · exact hdb ▸ hconsistent
      · simpa only [hdb] using h vehicleID htarget

theorem companyNamed_eq_ok {s s' : Server} {name : String} {companyID : Option Int}
    (h : outcome (companyNamed name) s = (.ok companyID, s')) :
    s'.db = s.db ∧ ∀ id, companyID = some id → companyOf s.db.tables name = some id := by
  unfold companyNamed at h
  unfold companyOf
  split at h
  · rename_i hname
    rw [if_pos hname]
    exact selectFirst_bind_eq_ok h
  · obtain ⟨rfl, rfl⟩ : none = companyID ∧ s = s' := by simpa using h
    simp

/-- The device with this IMEI gets a company only if that is its own, or no vehicle has it. -/
theorem adminCreateDevice_keeps (r : Request) (c id : Int)
    (h : ∀ companyID, companyOf s.db.tables (req.text "companyName") = some companyID →
      ∀ device ∈ s.db.tables .devices, device "imei" = some (.text (req.text "imei")) →
        device "company_id" ≠ some (.int companyID) → ¬Carried s.db.tables device) :
    OnDatabase KeepsConsistent s (outcome (adminCreateDeviceHandler.work r c id req) s).2 := by
  have hnamed : Keeps (OnDatabase KeepsConsistent) (companyNamed (req.text "companyName")) :=
    .ite ((keeps_selectFirst _ _).bind fun _ => keeps_pure _) (keeps_pure _)
  refine related_bind (hnamed s) fun companyID mid hfound => ?_
  obtain ⟨hdb, hcompany⟩ := companyNamed_eq_ok hfound
  rw [outcome_bind, outcome_now]
  dsimp only
  refine related_bind (insertOrUpdateReturning_related fun db n hexec => ?_) fun _ after _ =>
    keeps_pure _ after
  rcases Database.insertOrUpdate_cases (v := .text (req.text "imei"))
    (by simp [Table.row, List.lookup]) hexec with ⟨m, hinsert⟩ | ⟨m, hupdate⟩
  · exact insertDevice_keeps hinsert
  · refine updateDevices_keeps hupdate rfl fun device hdevice hselects hcarried => ?_
    show (companyID.map Datum.int).or (device "company_id") = _
    cases companyID with
    | none => rfl
    | some company =>
        rw [hdb] at hdevice hcarried
        by_contra hother
        have hforeign : device "company_id" ≠ some (.int company) := fun heq => hother (by simp [heq])
        exact h company (hcompany company rfl) device hdevice (by simpa using hselects) hforeign hcarried

/-- **What the operations keep.** A request that does not cross companies keeps the vehicles and
their devices together. -/
theorem operation_keeps (op : DeviceOperation) (hconsistent : Consistent s.db.tables)
    (h : ¬Crosses s.db.tables r op) :
    Consistent (outcome (op.handler.work r (getEffectiveCompanyID r) (r.id.getD 0) r.fields)
      s).2.db.tables := by
  cases op with
  | createDevice => exact createDevice_keeps s hconsistent
  | deleteDevice => exact deleteDevice_keepsConsistent s hconsistent
  | assignDevice =>
      refine assignDevice_keeps hconsistent (fun vehicleID htarget hown hspare => ?_) hconsistent
      exact h ⟨⟨vehicleID, htarget, hown⟩, hspare⟩
  | createVehicle =>
      refine createVehicle_keeps (fun hdevice hcompany hspare => ?_) hconsistent
      exact h ⟨hdevice, hcompany, hspare⟩
  | updateVehicle =>
      refine updateVehicle_keeps (fun hdevice hown hspare => ?_) hconsistent
      exact h ⟨hdevice, hown, hspare⟩
  | adminCreateDevice =>
      refine adminCreateDevice_keeps r (getEffectiveCompanyID r) (r.id.getD 0)
        (fun company hnamed device hdevice himei hforeign hcarried => ?_) hconsistent
      exact h ⟨company, hnamed, device, hdevice, himei, hforeign, hcarried⟩

end

/-! ### Requests that cross companies -/

section

variable {c id : Int} {db : SQL.Database schema Datum} {s : Server} {r : Request} {req : Fields}

/-- A vehicle can be given a device that is there and in no vehicle. -/
theorem admits_device {set : List Assignment} {cond : Condition Datum} (vehicleID : Int)
    (hid : set.lookup "id" = none) (hcompany : set.lookup "company_id" = none)
    (hcond : ("id", .int vehicleID) ∈ cond)
    (hthere : HasID (db.tables .devices) (some (.int id)))
    (hfree : ∀ vehicle ∈ db.tables .vehicles, vehicle "device_id" ≠ some (.int id))
    (hset : ∀ vehicle, Assignments.apply set vehicle "device_id" = some (.int id)) :
    schema.Admits db.tables .vehicles set cond := by
  have huniques : ∀ u ∈ schema.uniques, u.1 = .vehicles → u.2 = ["id"] ∨ u.2 = ["device_id"] := by
    decide
  have hreferences : ∀ fk ∈ schema.foreignKeys, fk.child = .vehicles →
      fk.column = "company_id" ∨ fk.column = "device_id" ∧ fk.parent = .devices := by decide
  refine ⟨hid, fun u hu ht => ?_, fun fk hfk ht => ?_⟩
  · rcases huniques u hu ht with hcols | hcols <;> rw [hcols]
    · exact .inl (by simpa using hid)
    · refine .inr (List.pairwise_map.mpr ?_)
      have hids := db.valid.unique (.vehicles, ["id"]) (by decide)
      have hdevices := db.valid.unique (.vehicles, ["device_id"]) (by decide)
      refine (hids.and hdevices).imp_of_mem fun hr hq hdistinct hagree => ?_
      have hselected : ∀ vehicle, cond.selects vehicle = true →
          vehicle "id" = some (.int vehicleID) :=
        fun vehicle hselects => Condition.selects_iff.mp hselects _ hcond
      split_ifs at hagree with hselects hselects' hselects'
      · exact hdistinct.1 (by simp [Agree, hselected _ hselects, hselected _ hselects'])
      · exact hfree _ hq (by simpa [Agree, hset, eq_comm] using hagree)
      · exact hfree _ hr (by simpa [Agree, hset] using (hagree "device_id" (by simp)).2)
      · exact hdistinct.2 hagree
  · rcases hreferences fk hfk ht with hcol | ⟨hcol, hparent⟩
    · exact .inl (by rw [hcol, hcompany])
    · refine .inr fun vehicle _ _ => .inr ?_
      rwa [hparent, hcol, hset]

/-- A vehicle of the company with a device of others. -/
theorem not_consistent {tables : Tables Table Datum} {vehicle device : Row Datum}
    (hvehicle : vehicle ∈ tables .vehicles) (hcompany : vehicle "company_id" = some (.int c))
    (hdevice : device ∈ tables .devices) (hid : device "id" = some (.int id))
    (hcarries : vehicle "device_id" = some (.int id))
    (hforeign : device "company_id" ≠ some (.int c)) : ¬Consistent tables := by
  intro hconsistent
  have hsame := hconsistent vehicle hvehicle device hdevice (by simp [hcarries])
    (hcarries.trans hid.symm)
  exact hforeign (hsame.symm.trans hcompany)

/-- An update that gives the company's vehicle a spare device of others goes through. -/
theorem exec_crossing {set : List Assignment} {vehicleID : Int} (hid : set.lookup "id" = none)
    (hcompany : set.lookup "company_id" = none)
    (hset : ∀ vehicle, Assignments.apply set vehicle "device_id" = some (.int id))
    (hown : OwnVehicle db.tables c vehicleID) (hspare : SpareElsewhere db.tables c id) :
    ∃ db' n, n ≠ 0 ∧ db.exec (.update .vehicles set (ownRow vehicleID c)) = some (db', n) ∧
      ¬Consistent db'.tables := by
  obtain ⟨⟨device, hdevice, hdeviceid, hforeign⟩, hfree⟩ := hspare
  obtain ⟨vehicle, hvehicle, hselects⟩ := hown
  have hadmits : schema.Admits db.tables .vehicles set (ownRow vehicleID c) :=
    admits_device vehicleID hid hcompany (by simp [ownRow]) ⟨device, hdevice, hdeviceid⟩ hfree hset
  obtain ⟨db', hexec⟩ := db.exec_of_admits hadmits
  refine ⟨db', _, ?_, hexec, ?_⟩
  · rw [Ne, List.countP_eq_zero]
    exact fun hnone => hnone vehicle hvehicle hselects
  · have hnew : Assignments.apply set vehicle ∈ db'.tables .vehicles :=
      (Database.mem_update_iff hexec).mpr ⟨vehicle, hvehicle, if_pos hselects⟩
    have hcompany' : Assignments.apply set vehicle "company_id" = some (.int c) := by
      rw [Assignments.apply_of_lookup hcompany]
      exact Condition.selects_iff.mp hselects ("company_id", .int c) (by simp [ownRow])
    have hdevice' : device ∈ db'.tables .devices := by
      rwa [Database.update_other hexec (by decide)]
    exact not_consistent hnew hcompany' hdevice' hdeviceid (hset vehicle) hforeign

theorem updateRow_crosses {checks : List Check} {assignments : Int → Fields → List Assignment}
    {missing message : String} {deviceID : Int} (hs : s.Clear)
    (hid : (assignments s.now req).lookup "id" = none)
    (hcompany : (assignments s.now req).lookup "company_id" = none)
    (hset : ∀ vehicle, Assignments.apply (assignments s.now req) vehicle "device_id" =
      some (.int deviceID))
    (hown : OwnVehicle s.db.tables c id) (hspare : SpareElsewhere s.db.tables c deviceID) :
    ¬Consistent (outcome ((updateRow checks .vehicles assignments missing message).work r c id req)
      s).2.db.tables := by
  obtain ⟨db', n, hn, hexec, hcrossed⟩ := exec_crossing hid hcompany hset hown hspare
  unfold updateRow
  dsimp only
  rw [outcome_bind, outcome_now]
  dsimp only
  rw [outcome_bind_of_ok (outcome_exec hs hexec), if_neg hn]
  exact hcrossed

theorem updateVehicle_crosses (hs : s.Clear) (hdevice : req.int "deviceId" ≠ 0)
    (hown : OwnVehicle s.db.tables c id)
    (hspare : SpareElsewhere s.db.tables c (req.int "deviceId")) :
    ¬Consistent (outcome (updateVehicleHandler.work r c id req) s).2.db.tables := by
  refine updateRow_crosses hs rfl rfl (fun vehicle => ?_) hown hspare
  show (nonZero (req.int "deviceId")).or (vehicle "device_id") = _
  simp [nonZero, hdevice]

theorem outcome_targetVehicle (htx : s.tx = none) (hfaults : s.faults = []) :
    ∃ mid, outcome (targetVehicle c req) s = (.ok (targetOf s.db.tables c req), mid) ∧
      mid.db = s.db ∧ mid.tx = none ∧ mid.faults = [] := by
  unfold targetVehicle targetOf
  split
  · exact ⟨s, rfl, rfl, htx, hfaults⟩
  · have hclear : s.Clear := by simp [Server.Clear, htx, hfaults]
    rw [outcome_bind_of_ok (outcome_selectFirst hclear _ _)]
    exact ⟨_, rfl, rfl, htx, by simp [hfaults]⟩

theorem reassign_crosses (hs : s.Clear) (hrest : s.faults.tail = []) {vehicleID : Int}
    (hown : OwnVehicle s.db.tables c vehicleID) (hspare : SpareElsewhere s.db.tables c id) :
    ∃ s', outcome (reassign c id vehicleID) s = (.ok ⟨⟩, s') ∧ s'.Clear ∧
      ¬Consistent s'.db.tables := by
  -- Nobody has the device, so there is nobody to take it from.
  have hnone : ∀ vehicle ∈ s.db.tables .vehicles,
      ¬Condition.selects [("device_id", .int id), ("company_id", .int c)] vehicle = true := by
    intro vehicle hvehicle hselects
    exact hspare.2 vehicle hvehicle (Condition.selects_iff.mp hselects ("device_id", .int id) (by simp))
  obtain ⟨n, hcleared⟩ := s.db.exec_update_none [setTo "device_id" none] hnone
  have hset : ∀ vehicle, Assignments.apply [setTo "device_id" (some (.int id)), touch s.now] vehicle
      "device_id" = some (.int id) := fun _ => rfl
  obtain ⟨db', k, hk, hexec, hcrossed⟩ := exec_crossing (by rfl) (by rfl) hset hown hspare
  let mid := { s with faults := s.faults.tail }
  have hmid : mid.Clear := ⟨hs.1, by simp [mid, hrest]⟩
  refine ⟨{ mid with db := db', faults := mid.faults.tail }, ?_, ⟨hs.1, by simp [mid, hrest]⟩,
    hcrossed⟩
  unfold reassign
  rw [outcome_bind_of_ok (outcome_exec hs hcleared), outcome_bind, outcome_now]
  dsimp only
  rw [outcome_bind_of_ok (outcome_exec hmid hexec), if_neg hk]
  rfl

theorem assignDevice_crosses (htx : s.tx = none) (hfaults : s.faults = []) {vehicleID : Int}
    (htarget : targetOf s.db.tables c req = some vehicleID)
    (hown : OwnVehicle s.db.tables c vehicleID) (hspare : SpareElsewhere s.db.tables c id) :
    ¬Consistent (outcome (assignDeviceHandler.work r c id req) s).2.db.tables := by
  obtain ⟨mid, hfound, hdb, hmidtx, hmidfaults⟩ := outcome_targetVehicle htx hfaults
  rw [htarget] at hfound
  let begun := { mid with faults := mid.faults.tail, tx := some false }
  obtain ⟨after, hreassigned, hclear, hcrossed⟩ := reassign_crosses (s := begun)
    (by simp [begun, Server.Clear, hmidfaults]) (by simp [begun, hmidfaults]) (hdb ▸ hown) (hdb ▸ hspare)
  have hcommitted := outcome_transaction (by simp [hmidfaults]) hreassigned hclear
  unfold assignDeviceHandler
  dsimp only
  rw [outcome_bind_of_ok hfound]
  dsimp only
  rw [outcome_bind_of_ok hcommitted]
  exact hcrossed

/-- There is always an id that no row has. -/
theorem exists_fresh (rows : List (Row Datum)) : ∃ id : Int, ∀ row ∈ rows, row "id" ≠ some (.int id) := by
  obtain ⟨id, hid⟩ := Infinite.exists_notMem_finset (rows.filterMap (intOf · "id")).toFinset
  refine ⟨id, fun row hrow heq => hid ?_⟩
  rw [List.mem_toFinset, List.mem_filterMap]
  exact ⟨row, hrow, by simp [intOf, heq]⟩

/-- A new vehicle of the company with a spare device of others is let in. -/
theorem exec_insert_crossing {row : Row Datum} {rowID : Int} (hid : row "id" = some (.int rowID))
    (hfresh : ∀ vehicle ∈ db.tables .vehicles, vehicle "id" ≠ some (.int rowID))
    (hcompany : row "company_id" = some (.int c)) (hdevice : row "device_id" = some (.int id))
    (hthere : HasID (db.tables .companies) (some (.int c)))
    (hspare : SpareElsewhere db.tables c id) :
    ∃ db' n, db.exec (.insert .vehicles row) = some (db', n) ∧ ¬Consistent db'.tables := by
  obtain ⟨⟨device, hdevices, hdeviceid, hforeign⟩, hfree⟩ := hspare
  have huniques : ∀ u ∈ schema.uniques, u.1 = .vehicles → u.2 = ["id"] ∨ u.2 = ["device_id"] := by
    decide
  have hreferences : ∀ fk ∈ schema.foreignKeys, fk.child = .vehicles →
      fk.column = "company_id" ∧ fk.parent = .companies ∨
        fk.column = "device_id" ∧ fk.parent = .devices := by decide
  have hholds : schema.Holds ((SQL.Statement.insert .vehicles row).eval schema db.tables).1 := by
    refine db.valid.insert (fun u hu ht vehicle hvehicle hagree => ?_) fun fk hfk ht => ?_
    · rcases huniques u hu ht with hcols | hcols <;> rw [hcols] at hagree
      · exact hfresh vehicle hvehicle (by simpa [hid] using (hagree "id" (by simp)).2)
      · exact hfree vehicle hvehicle (by simpa [hdevice] using (hagree "device_id" (by simp)).2)
    · rcases hreferences fk hfk ht with ⟨hcol, hparent⟩ | ⟨hcol, hparent⟩
      · exact .inr (by rwa [hcol, hparent, hcompany])
      · exact .inr ⟨device, by rwa [hparent], by rw [hcol, hdevice, hdeviceid]⟩
  obtain ⟨db', hexec, -⟩ := Database.exec_of_holds hholds
  refine ⟨db', _, hexec, ?_⟩
  have hnew : row ∈ db'.tables .vehicles := by simp [Database.insert_tables hexec]
  have hdevices' : device ∈ db'.tables .devices := by
    simpa [Database.insert_tables hexec] using hdevices
  exact not_consistent hnew hcompany hdevices' hdeviceid hdevice hforeign

theorem createRow_crosses {checks : List Check} {columns : Int → Fields → Columns}
    {message : String} {deviceID : Int} (hs : s.Clear)
    (hserial : ∀ vehicle ∈ s.db.tables .vehicles, vehicle "id" ≠ some (.int (s.serial .vehicles)))
    (hdevice : Table.row .vehicles s.now (("id", some (.int (s.serial .vehicles))) ::
      ("company_id", some (.int c)) :: columns s.now req) "device_id" = some (.int deviceID))
    (hcompany : HasID (s.db.tables .companies) (some (.int c)))
    (hspare : SpareElsewhere s.db.tables c deviceID) :
    ¬Consistent (outcome ((createRow checks .vehicles columns message).work r c id req)
      s).2.db.tables := by
  obtain ⟨db', n, hexec, hcrossed⟩ := exec_insert_crossing (by simp [Table.row]) hserial
    (by simp [Table.row, List.lookup]) hdevice hcompany hspare
  obtain ⟨s', hinsert, hdb⟩ := outcome_insertReturning hs hexec
  unfold createRow
  dsimp only
  rw [outcome_bind, outcome_now]
  dsimp only
  rw [outcome_bind_of_ok hinsert, outcome_pure, hdb]
  exact hcrossed

theorem createVehicle_crosses (hs : s.Clear)
    (hserial : ∀ vehicle ∈ s.db.tables .vehicles, vehicle "id" ≠ some (.int (s.serial .vehicles)))
    (hdevice : req.int "deviceId" > 0) (hcompany : HasID (s.db.tables .companies) (some (.int c)))
    (hspare : SpareElsewhere s.db.tables c (req.int "deviceId")) :
    ¬Consistent (outcome (createVehicleHandler.work r c id req) s).2.db.tables := by
  refine createRow_crosses hs hserial ?_ hcompany hspare
  simp [Table.row, List.lookup, hdevice]

theorem outcome_companyNamed (htx : s.tx = none) (hfaults : s.faults = []) (name : String) :
    ∃ mid, outcome (companyNamed name) s = (.ok (companyOf s.db.tables name), mid) ∧
      mid.db = s.db ∧ mid.Clear := by
  have hclear : s.Clear := by simp [Server.Clear, htx, hfaults]
  unfold companyNamed companyOf
  split
  · rw [outcome_bind_of_ok (outcome_selectFirst hclear _ _)]
    exact ⟨_, rfl, rfl, by simp [Server.Clear, htx, hfaults]⟩
  · exact ⟨s, rfl, rfl, hclear⟩

/-- A device that a vehicle has goes to another company. -/
theorem upsertDevice_crosses {columns : Columns} {set : List Assignment} {answer : Int → Response}
    {imei : String} {companyID : Int} {device : Row Datum} (hs : s.Clear)
    (hrow : Table.row .devices s.now (("id", some (.int (s.serial .devices))) :: columns) "imei" =
      some (.text imei))
    (hid : set.lookup "id" = none) (himei : set.lookup "imei" = none)
    (hset : ∀ device, Assignments.apply set device "company_id" = some (.int companyID))
    (hthere : HasID (s.db.tables .companies) (some (.int companyID)))
    (hdevice : device ∈ s.db.tables .devices) (hdevice_imei : device "imei" = some (.text imei))
    (hforeign : device "company_id" ≠ some (.int companyID)) (hcarried : Carried s.db.tables device)
    (hconsistent : Consistent s.db.tables) :
    ¬Consistent (outcome (insertOrUpdateReturning .devices columns ["imei"] set >>= fun newID =>
      pure (answer newID)) s).2.db.tables := by
  have huniques : ∀ u ∈ schema.uniques, u.1 = .devices → u.2 = ["id"] ∨ u.2 = ["imei"] := by decide
  have hreferences : ∀ fk ∈ schema.foreignKeys, fk.child = .devices →
      fk.column = "company_id" ∧ fk.parent = .companies := by decide
  have hadmits : schema.Admits s.db.tables .devices set [("imei", .text imei)] := by
    refine ⟨hid, fun u hu ht => .inl ?_, fun fk hfk ht => .inr fun row _ _ => .inr ?_⟩
    · rcases huniques u hu ht with hcols | hcols <;> rw [hcols]
      · simpa using hid
      · simpa using himei
    · obtain ⟨hcol, hparent⟩ := hreferences fk hfk ht
      rwa [hcol, hparent, hset]
  obtain ⟨db', hupdate⟩ := s.db.exec_of_admits hadmits
  obtain ⟨n, hexec⟩ := Database.insertOrUpdate_of_update hrow hdevice hdevice_imei hupdate
  obtain ⟨newID, s', hupsert, hdb⟩ := outcome_insertOrUpdateReturning hs hexec
  rw [outcome_bind_of_ok hupsert, outcome_pure, hdb]
  intro hconsistent'
  obtain ⟨vehicle, hvehicle, hcarries, hsame⟩ := hcarried
  have hselects : Condition.selects [("imei", .text imei)] device = true := by simp [hdevice_imei]
  have hnew : Assignments.apply set device ∈ db'.tables .devices :=
    (Database.mem_update_iff hupdate).mpr ⟨device, hdevice, if_pos hselects⟩
  have hvehicle' : vehicle ∈ db'.tables .vehicles := by
    rwa [Database.update_other hupdate (by decide)]
  have hold := hconsistent vehicle hvehicle device hdevice hcarries hsame
  have hchanged := hconsistent' vehicle hvehicle' _ hnew hcarries
    (by rw [Assignments.apply_of_lookup hid, hsame])
  exact hforeign (hold.symm.trans (hchanged.trans (hset device)))

theorem adminCreateDevice_crosses (r : Request) (c id : Int) (htx : s.tx = none)
    (hfaults : s.faults = []) {companyID : Int}
    (hnamed : companyOf s.db.tables (req.text "companyName") = some companyID) {device : Row Datum}
    (hdevice : device ∈ s.db.tables .devices)
    (himei : device "imei" = some (.text (req.text "imei")))
    (hforeign : device "company_id" ≠ some (.int companyID)) (hcarried : Carried s.db.tables device)
    (hconsistent : Consistent s.db.tables) :
    ¬Consistent (outcome (adminCreateDeviceHandler.work r c id req) s).2.db.tables := by
  obtain ⟨mid, hfound, hdb, hmid⟩ := outcome_companyNamed htx hfaults (req.text "companyName")
  have hthere : HasID (s.db.tables .companies) (some (.int companyID)) := by
    unfold companyOf at hnamed
    split at hnamed
    · obtain ⟨company, hfind, hid⟩ := Option.bind_eq_some_iff.mp hnamed
      exact ⟨company, List.mem_of_find?_eq_some hfind, eq_of_intOf hid⟩
    · simp at hnamed
  rw [hnamed] at hfound
  rw [← hdb] at hthere hdevice hcarried hconsistent
  unfold adminCreateDeviceHandler
  dsimp only
  rw [outcome_bind_of_ok hfound, outcome_bind, outcome_now]
  refine upsertDevice_crosses hmid ?_ rfl rfl (fun _ => rfl) hthere hdevice himei hforeign hcarried
    hconsistent
  simp [Table.row, List.lookup]

end

/-- A request that crosses companies does so, if nothing fails. -/
theorem exists_crossed (db : SQL.Database schema Datum) (hconsistent : Consistent db.tables)
    (op : DeviceOperation) (r : Request) (h : Crosses db.tables r op) :
    ∃ s : Server, s.db = db ∧ s.pool = true ∧
      ¬Consistent (outcome (op.handler.work r (getEffectiveCompanyID r) (r.id.getD 0) r.fields)
        s).2.db.tables := by
  have hcalm : ∀ db, (calm db .lenient []).Clear := fun db => by simp [Server.Clear, calm]
  cases op with
  | createDevice => exact h.elim
  | deleteDevice => exact h.elim
  | assignDevice =>
      obtain ⟨⟨vehicleID, htarget, hown⟩, hspare⟩ := h
      exact ⟨calm db .lenient [], rfl, rfl, assignDevice_crosses rfl rfl htarget hown hspare⟩
  | createVehicle =>
      obtain ⟨hdevice, hcompany, hspare⟩ := h
      obtain ⟨fresh, hfresh⟩ := exists_fresh (db.tables .vehicles)
      refine ⟨{ calm db .lenient [] with serial := fun _ => fresh }, rfl, rfl, ?_⟩
      exact createVehicle_crosses (hcalm db) hfresh hdevice hcompany hspare
  | updateVehicle =>
      obtain ⟨hdevice, hown, hspare⟩ := h
      exact ⟨calm db .lenient [], rfl, rfl, updateVehicle_crosses (hcalm db) hdevice hown hspare⟩
  | adminCreateDevice =>
      obtain ⟨companyID, hnamed, device, hdevice, himei, hforeign, hcarried⟩ := h
      exact ⟨calm db .lenient [], rfl, rfl, adminCreateDevice_crosses r (getEffectiveCompanyID r)
        (r.id.getD 0) rfl rfl hnamed hdevice himei hforeign hcarried hconsistent⟩

/-- **Vehicles carry devices of their own company, exactly as long as no request crosses.** -/
theorem consistent_iff_not_crosses (db : SQL.Database schema Datum)
    (hconsistent : Consistent db.tables) (op : DeviceOperation) (r : Request) :
    (∀ s : Server, s.db = db → Consistent (outcome (op.handler.serve r) s).2.db.tables) ↔
      (op.handler.refuses r = none → ¬Crosses db.tables r op) := by
  constructor
  · intro hkeeps hrefuses hcrosses
    obtain ⟨s, rfl, hpool, hcrossed⟩ := exists_crossed db hconsistent op r hcrosses
    have hafter := hkeeps s rfl
    rw [outcome_serve hpool hrefuses] at hafter
    exact hcrossed hafter
  · rintro h s rfl
    rcases outcome_serve_cases op.handler r s with ⟨error, hout, -⟩ | ⟨-, hrefuses, hout⟩
    · rwa [hout]
    · rw [hout]
      exact operation_keeps op hconsistent (h hrefuses)

/-! ### A device of another company -/

/-- Company 1 has vehicle 5, and company 2 has device 7. -/
def spareDevice : SQL.Database schema Datum where
  tables
    | .companies => [1, 2].map fun id => Table.row .companies 0 [("id", some (.int id))]
    | .vehicles => [Table.row .vehicles 0 [("id", some (.int 5)), ("company_id", some (.int 1))]]
    | .devices => [Table.row .devices 0 [("id", some (.int 7)), ("company_id", some (.int 2))]]
    | _ => []
  valid := by decide

theorem spareDevice_consistent : Consistent spareDevice.tables := by
  simp [Consistent, spareDevice, Table.row, Table.defaults, List.lookup]

/-- A user of company 1 asks for device 7 in vehicle 5. -/
def assignSpare : Request where
  session := ⟨9, 1, "viewer", "viewer"⟩
  id := some 7
  type := ""
  companyID := none
  body := .ok { Fields.empty with int := fun field => if field = "vehicleId" then 5 else 0 }

/-- An update of a vehicle that names no device brings none along. -/
theorem updateVehicle_keeps_spareDevice :
    Consistent (outcome (DeviceOperation.updateVehicle.handler.serve assignSpare)
      (calm spareDevice .lenient [])).2.db.tables :=
  (consistent_iff_not_crosses spareDevice spareDevice_consistent .updateVehicle assignSpare).mpr
    (fun _ h => absurd rfl h.1) _ rfl

/-- **A vehicle gets another company's device.** -/
theorem assignSpare_not_consistent : Consistent spareDevice.tables ∧
    ¬Consistent (outcome (DeviceOperation.assignDevice.handler.serve assignSpare)
      (calm spareDevice .lenient [])).2.db.tables := by
  refine ⟨spareDevice_consistent, ?_⟩
  have hspare : SpareElsewhere spareDevice.tables 1 7 := by
    simp [SpareElsewhere, spareDevice, Table.row, Table.defaults, List.lookup]
  have hown : OwnVehicle spareDevice.tables 1 5 :=
    ⟨_, List.mem_singleton_self _, by decide⟩
  rw [outcome_serve rfl rfl]
  exact assignDevice_crosses rfl rfl rfl hown hspare

end RudraNetra.API
