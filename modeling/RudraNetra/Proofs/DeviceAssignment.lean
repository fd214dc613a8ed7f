/-
Giving a device to a vehicle.

`assignDeviceHandler` takes the device from the company's vehicles and gives it to one of them, in
a transaction.  The schema has a device in one vehicle at most, so if a vehicle of another
company carries it, the second statement is refused and the first one rolled back.  What is
proved here is that a request does all of its work or none of it
(`assignDevice_allOrNothing`).
-/
import RudraNetra.Proofs.DeviceCompany

namespace RudraNetra.API

open SQL Effect

/-- What a vehicle may become when a device goes to the vehicle with an id. -/
def RowAssigned (device vehicle : Int) (before after : Row Datum) : Prop :=
  after "id" = before "id" ∧
    (before "id" = some (.int vehicle) ∨ before "device_id" = some (.int device) ∨ after = before)

theorem RowAssigned.trans {device vehicle : Int} {r r' r'' : Row Datum}
    (h : RowAssigned device vehicle r r') (h' : RowAssigned device vehicle r' r'') :
    RowAssigned device vehicle r r'' := by
  refine ⟨h'.1.trans h.1, ?_⟩
  rcases h.2 with htarget | hcarrier | rfl
  · exact .inl htarget
  · exact .inr (.inl hcarrier)
  · exact h'.2

/-- Company `c`'s vehicle carries the device, alone, and only it and the previous carrier are
changed. -/
structure Assigned (c device vehicle : Int) (before after : List (Row Datum)) : Prop where
  carries : ∃ row ∈ after, (ownRow vehicle c).selects row = true ∧
    row "device_id" = some (.int device)
  exclusive : ∀ row ∈ after, row "device_id" = some (.int device) → row "id" = some (.int vehicle)
  others : List.Forall₂ (RowAssigned device vehicle) before after

section

variable {c device vehicle : Int} {s s' : Server} {r : Request}

/-! ### The transaction -/

/-- The device is taken from the company's vehicles and given to one that is there, or there is an
error. -/
theorem reassign_cases (c device vehicle : Int) (s : Server) :
    (∃ s' db n m, outcome (reassign c device vehicle) s = (.ok ⟨⟩, s') ∧
      s.db.exec (.update .vehicles [setTo "device_id" none]
        [("device_id", .int device), ("company_id", .int c)]) = some (db, n) ∧
      db.exec (.update .vehicles [setTo "device_id" (some (.int device)), touch s.now]
        (ownRow vehicle c)) = some (s'.db, m) ∧ m ≠ 0) ∨
    ∃ error s', outcome (reassign c device vehicle) s = (.error error, s') ∧
      400 ≤ error.status := by
  unfold reassign
  rcases outcome_exec_cases s (.update .vehicles [setTo "device_id" none]
    [("device_id", .int device), ("company_id", .int c)]) with ⟨db, n, -, htake, hout⟩ | ⟨hout, -⟩
  · rw [outcome_bind_of_ok hout, outcome_bind, outcome_now]
    dsimp only
    let mid : Server := { s with db := db, faults := s.faults.tail }
    rcases outcome_exec_cases mid (.update .vehicles
      [setTo "device_id" (some (.int device)), touch s.now] (ownRow vehicle c)) with
      ⟨db', m, -, hgive, hout'⟩ | ⟨hout', -⟩
    · rw [outcome_bind_of_ok hout']
      split
      · exact .inr ⟨_, _, rfl, by decide⟩
      · rename_i hsome
        exact .inl ⟨_, db, n, m, rfl, htake, hgive, hsome⟩
    · rw [outcome_bind_of_error hout']
      exact .inr ⟨_, _, rfl, by decide⟩
  · rw [outcome_bind_of_error hout]
    exact .inr ⟨_, _, rfl, by decide⟩

theorem rowAssigned_take (row : Row Datum) :
    RowAssigned device vehicle row
      (if Condition.selects [("device_id", .int device), ("company_id", .int c)] row then
        Assignments.apply [setTo "device_id" none] row else row) := by
  split
  · rename_i hselects
    have hcarrier := Condition.selects_iff.mp hselects ("device_id", .int device) (by simp)
    exact ⟨rfl, .inr (.inl hcarrier)⟩
  · exact ⟨rfl, .inr (.inr rfl)⟩

theorem rowAssigned_give {now : Int} (row : Row Datum) :
    RowAssigned device vehicle row
      (if (ownRow vehicle c).selects row then
        Assignments.apply [setTo "device_id" (some (.int device)), touch now] row else row) := by
  split
  · rename_i hselects
    have htarget := Condition.selects_iff.mp hselects ("id", .int vehicle) (by simp [ownRow])
    exact ⟨rfl, .inl htarget⟩
  · exact ⟨rfl, .inr (.inr rfl)⟩

/-- What the two statements come to. -/
theorem assigned_of_exec {db db' db'' : SQL.Database schema Datum} {n m : Nat} {now : Int}
    (htake : db.exec (.update .vehicles [setTo "device_id" none]
      [("device_id", .int device), ("company_id", .int c)]) = some (db', n))
    (hgive : db'.exec (.update .vehicles [setTo "device_id" (some (.int device)), touch now]
      (ownRow vehicle c)) = some (db'', m)) (hm : m ≠ 0) :
    Assigned c device vehicle (db.tables .vehicles) (db''.tables .vehicles) := by
  have hunique : (Table.vehicles, ["device_id"]) ∈ schema.uniques := by decide
  have hcarries : ∃ row ∈ db''.tables .vehicles, (ownRow vehicle c).selects row = true ∧
      row "device_id" = some (.int device) := by
    have hcount : m = (db'.tables .vehicles).countP (ownRow vehicle c).selects :=
      (congrArg Prod.snd (Database.exec_eq_some.mp hgive)).symm
    obtain ⟨row, hrow, hselects⟩ := List.countP_pos_iff.mp (Nat.pos_of_ne_zero (hcount ▸ hm))
    refine ⟨_, (Database.mem_update_iff hgive).mpr ⟨row, hrow, if_pos hselects⟩, ?_, rfl⟩
    exact hselects
  refine ⟨hcarries, fun row hrow hcarrier => ?_, ?_⟩
  · obtain ⟨target, htarget, hselects, hdevice⟩ := hcarries
    have hagree : Agree ["device_id"] row target := by simp [Agree, hcarrier, hdevice]
    obtain rfl := db''.valid.eq_of_agree hunique hrow htarget hagree
    exact Condition.selects_iff.mp hselects ("id", .int vehicle) (by simp [ownRow])
  · rw [Database.update_tables hgive, Database.update_tables htake, List.map_map,
      List.forall₂_map_right_iff]
    exact List.forall₂_same.mpr fun row _ => (rowAssigned_take row).trans (rowAssigned_give _)

/-- The two statements are carried out together, or not at all. -/
theorem transaction_reassign_cases (c device vehicle : Int) (s : Server) :
    (∃ s', outcome (transaction (reassign c device vehicle)) s = (.ok (), s') ∧
      Assigned c device vehicle (s.db.tables .vehicles) (s'.db.tables .vehicles) ∧
      ∀ t ≠ .vehicles, s'.db.tables t = s.db.tables t) ∨
    ∃ error s', outcome (transaction (reassign c device vehicle)) s = (.error error, s') ∧
      400 ≤ error.status ∧ s'.db = s.db := by
  have hreassign := reassign_cases c device vehicle
    { s with faults := s.faults.tail, tx := some false }
  rcases outcome_transaction_cases (reassign c device vehicle) s with
    ⟨_, s', t, -, hbody, -, hout, hdb⟩ | ⟨e, s', hout, hdb, hwhy, -⟩
  · rcases hreassign with ⟨t', db, n, m, hok, htake, hgive, hm⟩ | ⟨e, t', herror, -⟩
    · obtain rfl : t = t' := congrArg Prod.snd (hbody.symm.trans hok)
      refine .inl ⟨s', hout, ?_, fun u hu => ?_⟩
      · rw [hdb]
        exact assigned_of_exec htake hgive hm
      · rw [hdb, Database.update_other hgive hu, Database.update_other htake hu]
    · simp [herror] at hbody
  · refine .inr ⟨e, s', hout, ?_, hdb⟩
    rcases hwhy with rfl | hbody
    · decide
    · rcases hreassign with ⟨t', db, n, m, hok, -⟩ | ⟨e', t', herror, hstatus⟩
      · simp [hok] at hbody
      · rw [herror] at hbody
        obtain rfl : e' = e := by simpa using hbody
        exact hstatus

/-! ### The handler -/

theorem targetVehicle_cases (c : Int) (req : Fields) (s : Server) :
    ∃ found s', outcome (targetVehicle c req) s = (.ok found, s') ∧ s'.db = s.db := by
  unfold targetVehicle
  split
  · exact ⟨_, s, rfl, rfl⟩
  · obtain ⟨row, s', hout, hdb, -⟩ := outcome_selectFirst_cases s .vehicles
      (Condition.selects [("reg_number", .text (req.text "vehicleReg")), ("company_id", .int c)])
    exact ⟨_, s', by rw [outcome_bind_of_ok hout]; rfl, hdb⟩

theorem assignDevice_refuses {error : Response} (h : assignDeviceHandler.refuses r = some error) :
    error.status = 400 := by
  obtain ⟨check, hcheck, herror⟩ := List.exists_of_findSome?_eq_some h
  simp only [assignDeviceHandler, List.mem_cons, List.not_mem_nil, or_false] at hcheck
  rcases hcheck with rfl | rfl | rfl | rfl
  · exact companyScope_status herror
  · exact pathID_status herror
  · exact bindJSON_status herror
  · exact require_status herror

/-- **A request to assign a device does all of its work, or none.** -/
theorem assignDevice_allOrNothing (s : Server) (r : Request) :
    (∃ vehicle s', outcome (assignDeviceHandler.serve r) s =
        (.ok (.ok "Device assigned to vehicle"), s') ∧
      targetOf s.db.tables (getEffectiveCompanyID r) r.fields = some vehicle ∧
      Assigned (getEffectiveCompanyID r) (r.id.getD 0) vehicle (s.db.tables .vehicles)
        (s'.db.tables .vehicles) ∧
      ∀ t ≠ .vehicles, s'.db.tables t = s.db.tables t) ∨
    ∃ error s', outcome (assignDeviceHandler.serve r) s = (.error error, s') ∧
      400 ≤ error.status ∧ s'.db = s.db := by
  rcases outcome_serve_cases assignDeviceHandler r s with
    ⟨error, hout, hwhy⟩ | ⟨-, -, hout⟩
  · refine .inr ⟨error, s, hout, ?_, rfl⟩
    rcases hwhy with ⟨-, rfl⟩ | hrefuses
    · decide
    · exact (assignDevice_refuses hrefuses).ge
  · rw [hout]
    obtain ⟨found, mid, hfound, hdb⟩ :=
      targetVehicle_cases (getEffectiveCompanyID r) r.fields s
    show (∃ vehicle s', outcome (targetVehicle _ _ >>= _) s = _ ∧ _) ∨
      ∃ error s', outcome (targetVehicle _ _ >>= _) s = _ ∧ _
    rw [outcome_bind_of_ok hfound]
    cases found with
    | none => exact .inr ⟨_, mid, rfl, by decide, hdb⟩
    | some vehicle =>
        obtain ⟨-, htarget⟩ := targetVehicle_eq_ok hfound
        dsimp only
        rcases transaction_reassign_cases (getEffectiveCompanyID r) (r.id.getD 0) vehicle mid with
          ⟨s', hout', hassigned, hothers⟩ | ⟨e, s', hout', hstatus, hsame⟩
        · rw [outcome_bind_of_ok hout']
          rw [hdb] at hassigned hothers
          exact .inl ⟨vehicle, s', rfl, htarget, hassigned, hothers⟩
        · rw [outcome_bind_of_error hout']
          exact .inr ⟨e, s', rfl, hstatus, hsame.trans hdb⟩

end

end RudraNetra.API
