/-
The defaults of the lookup categories.

A category should have one default at most.  A request that makes its row the default clears the
category first, but the two statements are not one: a second request may set a default in
between, the clearing may fail unnoticed, and the last statement may fail when the clearing is
done.  So a run keeps one default exactly if nobody else's is there whenever a default is set, and
a request that fails keeps the flags exactly if it has not cleared any (`masters_iff`).
-/
import RudraNetra.Api.Masters
import RudraNetra.Proofs.Statements

namespace RudraNetra.API

open SQL Effect

theorem masterAssignments_free (req : Fields) :
    schema.Free .lookupMasters (masterAssignments req) :=
  .of_columns ["code", "name", "is_default"] rfl (by decide) (by decide) (by decide)

theorem clearDefaults_free :
    schema.Free .lookupMasters [setTo "is_default" (some (.bool false))] :=
  .of_columns ["is_default"] rfl (by decide) (by decide) (by decide)

/-- Two rows are defaults of one category. -/
def SharedDefault (r q : Row Datum) : Prop :=
  Agree ["category"] r q ∧ r "is_default" = some (.bool true) ∧
    q "is_default" = some (.bool true)

/-- No category has two defaults. -/
def OneDefault (rows : List (Row Datum)) : Prop := rows.Pairwise fun r q => ¬SharedDefault r q

/-- The `is_default` flags of all rows. -/
def defaultFlags (db : SQL.Database schema Datum) : List (Option Datum) :=
  (db.tables .lookupMasters).map (· "is_default")

/-! ### The last statement -/

/-- No other row of the category is the default. -/
def MasterWrite.Alone (rows : List (Row Datum)) : MasterWrite → Prop
  | .insert _ category _ => ∀ row ∈ rows, row "category" = some (.text category) →
      row "is_default" ≠ some (.bool true)
  | .update id _ => ∀ row ∈ rows, row "id" = some (.int id) → ∀ other ∈ rows,
      Agree ["category"] row other → other "is_default" = some (.bool true) →
        other "id" = some (.int id)

/-- The row of a new master. -/
def masterRow (s : Server) (companyID : Int) (category : String) (req : Fields) : Row Datum :=
  Table.row .lookupMasters s.now
    (("id", some (.int (s.serial .lookupMasters))) :: masterColumns companyID category req)

/-- No fault stops the statement; a new row fits the schema, and one that is to change is there. -/
def MasterWrite.Accepted (s : Server) : MasterWrite → Prop
  | .insert companyID category req =>
    s.Clear ∧ schema.Fits s.db.tables .lookupMasters (masterRow s companyID category req)
  | .update id _ => s.Clear ∧ ∃ row ∈ s.db.tables .lookupMasters, row "id" = some (.int id)

/-- The rows after the statement. -/
def MasterWrite.effect (s : Server) : MasterWrite → List (Row Datum) → List (Row Datum)
  | .insert companyID category req, rows => rows ++ [masterRow s companyID category req]
  | .update id req, rows => rows.map fun row =>
      if Condition.selects [("id", .int id)] row then Assignments.apply (masterAssignments req) row
      else row

theorem insertMaster_cases (companyID : Int) (category : String) (req : Fields) (s : Server) :
    ((MasterWrite.insert companyID category req).Accepted s ∧ ∃ answer s',
      outcome (MasterWrite.insert companyID category req).run s = (.ok answer, s') ∧
      s'.db.tables .lookupMasters =
        (MasterWrite.insert companyID category req).effect s (s.db.tables .lookupMasters)) ∨
    ¬(MasterWrite.insert companyID category req).Accepted s ∧ ∃ error s',
      outcome (MasterWrite.insert companyID category req).run s = (.error error, s') ∧
      s'.db = s.db := by
  have hfits := s.db.exec_insert_iff (t := .lookupMasters) (masterRow s companyID category req)
    (by decide)
  unfold MasterWrite.run
  rcases outcome_insertReturning_cases s .lookupMasters (masterColumns companyID category req) with
    ⟨db, n, s', hclear, hinsert, hout, rfl, -⟩ | ⟨s', hout, hdb, -, -, hrefused⟩
  · rw [outcome_bind_of_ok hout]
    refine .inl ⟨⟨hclear, hfits.mp ⟨_, n, hinsert⟩⟩, _, s', rfl, ?_⟩
    rw [Database.insert_tables hinsert, if_pos rfl]
    rfl
  · rw [outcome_bind_of_error hout]
    refine .inr ⟨?_, serverError, s', rfl, hdb⟩
    rintro ⟨hclear, hrow⟩
    obtain ⟨db, n, hexec⟩ := hfits.mpr hrow
    exact absurd (hexec.symm.trans (hrefused hclear)) (by simp)

theorem updateMaster_cases (id : Int) (req : Fields) (s : Server) :
    ((MasterWrite.update id req).Accepted s ∧ ∃ answer s',
      outcome (MasterWrite.update id req).run s = (.ok answer, s') ∧
      s'.db.tables .lookupMasters =
        (MasterWrite.update id req).effect s (s.db.tables .lookupMasters)) ∨
    ¬(MasterWrite.update id req).Accepted s ∧ ∃ error s',
      outcome (MasterWrite.update id req).run s = (.error error, s') ∧ s'.db = s.db := by
  obtain ⟨admitted, hadmits⟩ :=
    s.db.exec_update (masterAssignments_free req) [("id", Datum.int id)]
  unfold MasterWrite.run
  rcases outcome_exec_cases s (.update .lookupMasters (masterAssignments req) [("id", .int id)]) with
    ⟨db, n, hclear, hupdate, hout⟩ | ⟨hout, hrefused⟩
  · rw [outcome_bind_of_ok hout]
    obtain ⟨rfl, rfl⟩ : db = admitted ∧
        n = (s.db.tables .lookupMasters).countP (Condition.selects [("id", .int id)]) := by
      simpa using hupdate.symm.trans hadmits
    split
    · rename_i hnone
      have hunselected : ∀ row ∈ s.db.tables .lookupMasters,
          ¬Condition.selects [("id", .int id)] row = true := List.countP_eq_zero.mp hnone
      obtain ⟨m, hsame⟩ := s.db.exec_update_none (masterAssignments req) hunselected
      refine .inr ⟨?_, _, _, rfl, ?_⟩
      · rintro ⟨-, row, hrow, hid⟩
        exact hunselected row hrow (by simpa using hid)
      · exact (Prod.mk.inj (Option.some.inj (hupdate.symm.trans hsame))).1
    · rename_i hsome
      obtain ⟨row, hrow, hselects⟩ := List.countP_pos_iff.mp (Nat.pos_of_ne_zero hsome)
      exact .inl ⟨⟨hclear, row, hrow, by simpa using hselects⟩, _, _, rfl,
        Database.update_tables hupdate⟩
  · rw [outcome_bind_of_error hout]
    refine .inr ⟨?_, serverError, s.fail, rfl, rfl⟩
    rintro ⟨hclear, -⟩
    exact absurd (hadmits.symm.trans (hrefused hclear)) (by simp)

/-- The last statement is carried out if it is accepted, and else changes nothing. -/
theorem MasterWrite.run_cases (last : MasterWrite) (s : Server) :
    (last.Accepted s ∧ ∃ answer s', outcome last.run s = (.ok answer, s') ∧
      s'.db.tables .lookupMasters = last.effect s (s.db.tables .lookupMasters)) ∨
    ¬last.Accepted s ∧ ∃ error s', outcome last.run s = (.error error, s') ∧ s'.db = s.db := by
  cases last with
  | insert companyID category req => exact insertMaster_cases companyID category req s
  | update id req => exact updateMaster_cases id req s

/-! ### One default -/

theorem sharedDefault_symm {r q : Row Datum} (h : SharedDefault r q) : SharedDefault q r :=
  ⟨h.1.symm, h.2.2, h.2.1⟩

/-- Rows that change make no new default. -/
theorem OneDefault.map {rows : List (Row Datum)} (h : OneDefault rows) {change : Row Datum → Row Datum}
    (hcategory : ∀ row, change row "category" = row "category")
    (hdefault : ∀ row, change row "is_default" = some (.bool true) →
      row "is_default" = some (.bool true)) : OneDefault (rows.map change) := by
  refine List.pairwise_map.mpr (List.Pairwise.imp (fun hne hshared => hne ?_) h)
  obtain ⟨hagree, hr, hq⟩ := hshared
  exact ⟨by simpa [Agree, hcategory] using hagree, hdefault _ hr, hdefault _ hq⟩

theorem clear_category (category : String) (row : Row Datum) :
    (if Condition.selects [("category", .text category)] row then
      Assignments.apply [setTo "is_default" (some (.bool false))] row else row) "category" =
      row "category" := by
  split <;> rfl

theorem clear_default (category : String) (row : Row Datum) :
    (if Condition.selects [("category", .text category)] row then
      Assignments.apply [setTo "is_default" (some (.bool false))] row else row) "is_default" =
      if row "category" = some (.text category) then some (.bool false) else row "is_default" := by
  by_cases hselects : row "category" = some (.text category)
  · rw [if_pos (by simpa using hselects), if_pos hselects]
    rfl
  · rw [if_neg (by simpa using hselects), if_neg hselects]

/-- A category that is cleared takes no default to another. -/
theorem OneDefault.clear {db db' : SQL.Database schema Datum} {category : String} {n : Nat}
    (h : OneDefault (db.tables .lookupMasters))
    (hexec : db.exec (.update .lookupMasters [setTo "is_default" (some (.bool false))]
      [("category", .text category)]) = some (db', n)) : OneDefault (db'.tables .lookupMasters) := by
  rw [Database.update_tables hexec]
  refine h.map (clear_category category) fun row htrue => ?_
  rw [clear_default] at htrue
  split at htrue
  · simp at htrue
  · exact htrue

theorem masterRow_category (s : Server) (companyID : Int) (category : String) (req : Fields) :
    masterRow s companyID category req "category" = some (.text category) := rfl

theorem masterRow_default (s : Server) (companyID : Int) (category : String) (req : Fields) :
    masterRow s companyID category req "is_default" = some (.bool true) ↔
      (MasterWrite.insert companyID category req).isDefault = true := by
  show some (Datum.bool ((req.flag "isDefault").getD false)) = _ ↔
    decide (req.flag "isDefault" = some true) = true
  cases req.flag "isDefault" <;> simp

/-- A new row leaves one default exactly if it is none, or the category has none. -/
theorem oneDefault_insert_iff {rows : List (Row Datum)} (h : OneDefault rows) (s : Server)
    (companyID : Int) (category : String) (req : Fields) :
    OneDefault ((MasterWrite.insert companyID category req).effect s rows) ↔
      ((MasterWrite.insert companyID category req).isDefault = true →
        (MasterWrite.insert companyID category req).Alone rows) := by
  have hshared : ∀ row, SharedDefault row (masterRow s companyID category req) ↔
      row "category" = some (.text category) ∧ row "is_default" = some (.bool true) ∧
        (MasterWrite.insert companyID category req).isDefault = true := by
    intro row
    rw [SharedDefault, masterRow_default]
    simp only [Agree, List.mem_singleton, forall_eq, masterRow_category]
    constructor
    · rintro ⟨⟨-, hsame⟩, hrest⟩
      exact ⟨hsame, hrest⟩
    · rintro ⟨hsame, hrest⟩
      exact ⟨⟨by simp [hsame], hsame⟩, hrest⟩
  show (rows ++ [_]).Pairwise _ ↔ _
  rw [List.pairwise_append]
  constructor
  · rintro ⟨-, -, hlast⟩ hdefault row hrow hcategory htrue
    exact hlast row hrow _ (List.mem_singleton_self _)
      ((hshared row).mpr ⟨hcategory, htrue, hdefault⟩)
  · intro halone
    refine ⟨h, List.pairwise_singleton _ _, fun row hrow new hnew => ?_⟩
    obtain rfl := List.mem_singleton.mp hnew
    rw [hshared]
    rintro ⟨hcategory, htrue, hdefault⟩
    exact halone hdefault row hrow hcategory htrue

/-! #### An update -/

section

variable {id : Int} {req : Fields} {row : Row Datum}

/-- What an update makes of a row. -/
def changeMaster (id : Int) (req : Fields) (row : Row Datum) : Row Datum :=
  if Condition.selects [("id", .int id)] row then Assignments.apply (masterAssignments req) row
  else row

theorem changeMaster_category : changeMaster id req row "category" = row "category" := by
  unfold changeMaster
  split <;> rfl

theorem changeMaster_default : changeMaster id req row "is_default" =
    if row "id" = some (.int id) then ((req.flag "isDefault").map .bool).or (row "is_default")
    else row "is_default" := by
  unfold changeMaster
  by_cases hid : row "id" = some (.int id)
  · rw [if_pos (by simpa using hid), if_pos hid]
    rfl
  · rw [if_neg (by simpa using hid), if_neg hid]

/-- An update leaves one default exactly if it sets none, or its row is alone. -/
theorem oneDefault_update_iff {rows : List (Row Datum)} (h : OneDefault rows) (s : Server)
    (hids : rows.Pairwise fun r q => ¬Agree ["id"] r q) :
    OneDefault ((MasterWrite.update id req).effect s rows) ↔
      ((MasterWrite.update id req).isDefault = true → (MasterWrite.update id req).Alone rows) := by
  show OneDefault (rows.map (changeMaster id req)) ↔ (decide _ = true → _)
  rw [decide_eq_true_eq]
  by_cases hflag : req.flag "isDefault" = some true
  · have htrue : ∀ {r}, changeMaster id req r "is_default" = some (.bool true) ↔
        r "id" = some (.int id) ∨ r "is_default" = some (.bool true) := by
      intro r
      rw [changeMaster_default, hflag]
      split <;> simp_all
    have hshared : ∀ {r q}, SharedDefault (changeMaster id req r) (changeMaster id req q) ↔
        Agree ["category"] r q ∧ (r "id" = some (.int id) ∨ r "is_default" = some (.bool true)) ∧
          (q "id" = some (.int id) ∨ q "is_default" = some (.bool true)) := by
      intro r q
      simp only [SharedDefault, htrue, Agree, List.mem_singleton, forall_eq, changeMaster_category]
    constructor
    · rintro hone - row hrow hid other hother hagree hdefault
      by_contra hne
      have hpair : rows.Pairwise fun r q =>
          ¬SharedDefault (changeMaster id req r) (changeMaster id req q) := List.pairwise_map.mp hone
      have hsymm : Std.Symm fun r q =>
          ¬SharedDefault (changeMaster id req r) (changeMaster id req q) :=
        ⟨fun _ _ h h' => h (sharedDefault_symm h')⟩
      refine hpair.forall hrow hother ?_ (hshared.mpr ⟨hagree, .inl hid, .inr hdefault⟩)
      rintro rfl
      exact hne hid
    · intro halone
      refine List.pairwise_map.mpr ((h.and hids).imp_of_mem fun hr hq hne hnew => ?_)
      obtain ⟨hagree, hr', hq'⟩ := hshared.mp hnew
      have hagree' := hagree.symm
      rcases hr' with hr' | hr' <;> rcases hq' with hq' | hq'
      · exact hne.2 (by simp [Agree, hr', hq'])
      · exact hne.2 (by simp [Agree, hr', halone hflag _ hr hr' _ hq hagree hq'])
      · exact hne.2 (by simp [Agree, hq', halone hflag _ hq hq' _ hr hagree' hr'])
      · exact hne.1 ⟨hagree, hr', hq'⟩
  · refine iff_of_true (h.map (fun _ => changeMaster_category) fun row htrue => ?_)
      fun hset => absurd hset hflag
    rw [changeMaster_default] at htrue
    split at htrue
    · cases hreq : req.flag "isDefault" with
      | none => simpa [hreq] using htrue
      | some b => simp_all
    · exact htrue

end

/-! ### One statement of a request -/

/-- The clearing is carried out, or its error is passed over. -/
theorem clearDefaults_cases (category : String) (s : Server) :
    (∃ db n, s.Clear ∧ s.db.exec (.update .lookupMasters
        [setTo "is_default" (some (.bool false))] [("category", .text category)]) = some (db, n) ∧
      outcome (clearDefaults category) s = (.ok (), { s with db := db, faults := s.faults.tail })) ∨
    ¬s.Clear ∧ outcome (clearDefaults category) s = (.ok (), s.fail) := by
  obtain ⟨admitted, hadmits⟩ :=
    s.db.exec_update clearDefaults_free [("category", Datum.text category)]
  unfold clearDefaults
  rw [outcome_bind, outcome_attempt]
  rcases outcome_exec_cases s (.update .lookupMasters [setTo "is_default" (some (.bool false))]
    [("category", .text category)]) with ⟨db, n, hclear, hexec, hout⟩ | ⟨hout, hrefused⟩
  · exact .inl ⟨db, n, hclear, hexec, by rw [hout]; rfl⟩
  · refine .inr ⟨fun hclear => ?_, by rw [hout]; rfl⟩
    exact absurd (hadmits.symm.trans (hrefused hclear)) (by simp)

/-- A default is set only where there is no other. -/
def MasterPhase.Orderly (s : Server) : MasterPhase → Prop
  | .lookup _ _ => True
  | .clear _ _ => True
  | .write last => last.Accepted s → last.isDefault = true → last.Alone (s.db.tables .lookupMasters)

theorem lookupNext_db (id : Int) (req : Fields) (s : Server) :
    (outcome (MasterPhase.lookup id req).next s).2.db = s.db := by
  obtain ⟨found, s', hout, hdb, -⟩ :=
    outcome_selectFirst_cases s .lookupMasters (Condition.selects [("id", .int id)])
  unfold MasterPhase.next
  rw [outcome_bind_of_ok hout]
  split <;> exact hdb

/-- A statement leaves one default exactly if it is orderly. -/
theorem oneDefault_next_iff (phase : MasterPhase) (s : Server)
    (h : OneDefault (s.db.tables .lookupMasters)) :
    OneDefault ((outcome phase.next s).2.db.tables .lookupMasters) ↔ phase.Orderly s := by
  cases phase with
  | lookup id req => exact iff_of_true (by rwa [lookupNext_db]) trivial
  | clear category last =>
    refine iff_of_true ?_ trivial
    unfold MasterPhase.next
    rcases clearDefaults_cases category s with ⟨db, n, -, hexec, hout⟩ | ⟨-, hout⟩
    · rw [outcome_bind_of_ok hout]
      exact h.clear hexec
    · rw [outcome_bind_of_ok hout]
      exact h
  | write last =>
    unfold MasterPhase.next
    rcases last.run_cases s with ⟨haccepted, answer, s', hout, hrows⟩ | ⟨hrefused, error, s', hout, hdb⟩
    · rw [outcome_bind_of_ok hout]
      show OneDefault (s'.db.tables .lookupMasters) ↔ (_ → _)
      rw [hrows, imp_iff_right haccepted]
      cases last with
      | insert companyID category req => exact oneDefault_insert_iff h s companyID category req
      | update id req =>
        exact oneDefault_update_iff h s (s.db.valid.unique (.lookupMasters, ["id"]) (by decide))
    · rw [outcome_bind_of_error hout]
      exact iff_of_true (by rwa [hdb]) fun haccepted => absurd haccepted hrefused

/-! ### The desk -/

/-- A request's next statement is orderly. -/
def MasterEvent.Orderly (desk : MasterDesk) : MasterEvent → Prop
  | .start _ _ _ _ => True
  | .next key circumstances => ∀ phase, desk.phases key = some phase →
      phase.Orderly (desk.found circumstances)

theorem start_state (kind : MasterRequest) (r : Request) (s : Server) :
    (outcome (kind.start r) s).2 = s := by
  unfold MasterRequest.start
  cases hpool : s.pool with
  | false => simp [outcome_bind, hpool]
  | true => cases hrefuses : kind.handler.refuses r <;> simp [outcome_bind, hpool]

theorem masterDesk_step {opening desk desk' : MasterDesk} {event : MasterEvent}
    (h : OneDefault (desk.db.tables .lookupMasters))
    (hstep : (masterDesk opening).step desk event = some desk') :
    OneDefault (desk'.db.tables .lookupMasters) ↔ event.Orderly desk := by
  cases event with
  | start key kind r circumstances =>
    have hsame := start_state kind r (desk.found circumstances)
    refine iff_of_true ?_ trivial
    simp only [masterDesk, MasterDesk.step] at hstep
    split at hstep
    · split at hstep <;> rename_i hout <;> rw [hout] at hsame <;> cases hstep <;> cases hsame <;>
        exact h
    · cases hstep
  | next key circumstances =>
    simp only [masterDesk, MasterDesk.step] at hstep
    cases hphase : desk.phases key with
    | none => simp [hphase] at hstep
    | some phase =>
      have hnext := oneDefault_next_iff phase (desk.found circumstances) h
      have hdb : desk'.db = (outcome phase.next (desk.found circumstances)).2.db := by
        rw [hphase] at hstep
        dsimp only at hstep
        split at hstep <;> rename_i hout <;> rw [hout] <;> cases hstep <;> rfl
      rw [hdb, hnext]
      constructor
      · intro horderly other hother
        obtain rfl := Option.some.inj (hphase.symm.trans hother)
        exact horderly
      · exact fun horderly => horderly phase hphase

/-! ### A request by itself -/

/-- A request from a phase on. -/
def MasterPhase.rest : MasterPhase → Api Response
  | .lookup id req => do
    let row ← selectFirst .lookupMasters <| Condition.selects [("id", .int id)]
    match row.bind (textOf · "category") with
    | some category => do
      clearDefaults category
      (MasterWrite.update id req).run
    | none => (MasterWrite.update id req).run
  | .clear category last => do
    clearDefaults category
    last.run
  | .write last => last.run

/-- The rest of a request is its next statement and the rest after it. -/
theorem MasterPhase.rest_eq (phase : MasterPhase) :
    phase.rest = phase.next >>= Sum.elim MasterPhase.rest pure := by
  cases phase with
  | lookup id req =>
    simp only [rest, next, bind_assoc]
    refine congrArg _ (funext fun row => ?_)
    cases row.bind (textOf · "category") <;> simp [rest]
  | clear category last => simp [rest, next]
  | write last => simp [rest, next]

set_option linter.unnecessarySeqFocus false in
/-- **A handler is the phases of its request, one after the other.** -/
theorem masterPhases (kind : MasterRequest) (r : Request) (s : Server) :
    outcome (kind.handler.serve r) s = outcome (kind.start r >>= MasterPhase.rest) s := by
  unfold MasterRequest.start
  cases hpool : s.pool with
  | false => simp [Handler.serve, outcome_bind, hpool]
  | true =>
    cases hrefuses : kind.handler.refuses r with
    | some error => simp [Handler.serve, outcome_bind, hpool, hrefuses]
    | none =>
      rw [outcome_serve hpool hrefuses]
      have hstart : outcome (kind.handler.work r (getEffectiveCompanyID r) (r.id.getD 0) r.fields) s =
          outcome (kind.first r).rest s := by
        cases kind with
        | create =>
          rcases hflag : r.fields.flag "isDefault" with _ | _ | _ <;>
            simp [MasterRequest.handler, MasterRequest.first, createMasterHandler, hflag,
              MasterWrite.isDefault, MasterWrite.fields, MasterPhase.rest, MasterWrite.run,
              masterColumns]
        | update =>
          by_cases hflag : r.fields.flag "isDefault" = some true
          · -- The two matches on the category may be one, and then nothing is left.
            simp only [MasterRequest.handler, MasterRequest.first, updateMasterHandler, if_pos hflag,
              MasterPhase.rest, MasterWrite.run] <;>
              (refine outcome_bind_congr fun row s' _ => ?_
               cases row.bind (textOf · "category") with
               | none => simp
               | some category => simp)
          · simp only [MasterRequest.handler, MasterRequest.first, updateMasterHandler, if_neg hflag,
              MasterPhase.rest, MasterWrite.run]
      rw [hstart]
      simp [outcome_bind, hpool]

/-- A row of the category has a flag to lose. -/
def Flagged (rows : List (Row Datum)) (category : String) : Prop :=
  ∃ row ∈ rows, row "category" = some (.text category) ∧ row "is_default" ≠ some (.bool false)

/-- The clearing takes a flag away, and the statement after it is not accepted. -/
def ClearsInVain (s : Server) (category : String) (last : MasterWrite) : Prop :=
  s.Clear ∧ Flagged (s.db.tables .lookupMasters) category ∧
    ¬last.Accepted { s with faults := s.faults.tail }

/-- The rest of the request clears flags and then fails. -/
def MasterPhase.Loses (s : Server) : MasterPhase → Prop
  | .lookup id req => s.Clear ∧ ∃ row ∈ s.db.tables .lookupMasters, row "id" = some (.int id) ∧
      ∃ category, row "category" = some (.text category) ∧
        ClearsInVain { s with faults := s.faults.tail } category (.update id req)
  | .clear category last => ClearsInVain s category last
  | .write _ => False

/-- The flags are the same after a clearing exactly if there were none to lose. -/
theorem defaultFlags_clear_iff {db db' : SQL.Database schema Datum} {category : String} {n : Nat}
    (hexec : db.exec (.update .lookupMasters [setTo "is_default" (some (.bool false))]
      [("category", .text category)]) = some (db', n)) :
    defaultFlags db' = defaultFlags db ↔ ¬Flagged (db.tables .lookupMasters) category := by
  rw [defaultFlags, defaultFlags, Database.update_tables hexec, List.map_map, List.map_inj_left]
  simp only [Function.comp_apply, clear_default]
  constructor
  · rintro hsame ⟨row, hrow, hcategory, hflag⟩
    have hrow' := hsame row hrow
    rw [if_pos hcategory] at hrow'
    exact hflag hrow'.symm
  · intro hnone row hrow
    split
    · by_contra hflag
      exact hnone ⟨row, hrow, ‹_›, fun h => hflag h.symm⟩
    · rfl

/-- The clearing does not decide whether the last statement is accepted. -/
theorem accepted_clear_iff {s : Server} {db : SQL.Database schema Datum} {category : String}
    {n : Nat} (hexec : s.db.exec (.update .lookupMasters [setTo "is_default" (some (.bool false))]
      [("category", .text category)]) = some (db, n)) (faults : List Bool) (last : MasterWrite) :
    last.Accepted { s with db := db, faults := faults } ↔ last.Accepted { s with faults := faults } := by
  cases last with
  | insert companyID category req =>
    refine and_congr Iff.rfl ?_
    exact clearDefaults_free.fits_iff hexec (by decide)
  | update id req =>
    refine and_congr Iff.rfl ?_
    show (∃ row ∈ db.tables .lookupMasters, _) ↔ _
    rw [Database.update_tables hexec]
    simp only [List.mem_map, exists_exists_and_eq_and]
    refine exists_congr fun row => and_congr_right fun _ => ?_
    split <;> rfl

/-- If the computation fails, the flags are those of the database. -/
def FailsWithout (db : SQL.Database schema Datum) (x : Api Response) (s : Server) : Prop :=
  ∀ error s', outcome x s = (.error error, s') → defaultFlags s'.db = defaultFlags db

theorem write_failsWithout (db : SQL.Database schema Datum) (last : MasterWrite) (s : Server) :
    FailsWithout db last.run s ↔ (last.Accepted s ∨ defaultFlags s.db = defaultFlags db) := by
  rcases last.run_cases s with ⟨haccepted, answer, s', hout, -⟩ | ⟨hrefused, error, s', hout, hdb⟩
  · refine iff_of_true (fun error t herror => ?_) (.inl haccepted)
    rw [hout] at herror
    cases herror
  · rw [or_iff_right hrefused]
    constructor
    · intro hkeeps
      rw [← hdb]
      exact hkeeps error s' hout
    · intro hsame error' t herror
      rw [hout] at herror
      cases herror
      rwa [hdb]

theorem clear_failsWithout (category : String) (last : MasterWrite) (s : Server) :
    FailsWithout s.db (MasterPhase.clear category last).rest s ↔ ¬ClearsInVain s category last := by
  unfold FailsWithout MasterPhase.rest
  rcases clearDefaults_cases category s with ⟨db, n, hclear, hexec, hout⟩ | ⟨hfault, hout⟩
  · rw [outcome_bind_of_ok hout]
    refine (write_failsWithout s.db last _).trans ?_
    rw [accepted_clear_iff hexec, defaultFlags_clear_iff hexec, ClearsInVain, and_iff_right hclear,
      not_and, not_not, ← imp_iff_or_not]
  · rw [outcome_bind_of_ok hout]
    refine (write_failsWithout s.db last _).trans (iff_of_true (.inr rfl) ?_)
    exact fun hvain => hfault hvain.1

theorem lookup_failsWithout (id : Int) (req : Fields) (s : Server) :
    FailsWithout s.db (MasterPhase.lookup id req).rest s ↔
      ¬(MasterPhase.lookup id req).Loses s := by
  unfold FailsWithout MasterPhase.rest
  simp only [MasterPhase.Loses]
  by_cases hclear : s.Clear
  · rw [outcome_bind_of_ok (outcome_selectFirst hclear _ _), and_iff_right hclear]
    by_cases hfound : ∃ row ∈ s.db.tables .lookupMasters, row "id" = some (.int id) ∧
        ∃ category, row "category" = some (.text category)
    · obtain ⟨row, hrow, hid, category, hcategory⟩ := hfound
      have hfind := find_by_id s.db (t := .lookupMasters) (by decide) hrow hid
      rw [hfind]
      simp only [Option.bind_some, textOf, hcategory]
      refine (clear_failsWithout category (.update id req) { s with faults := s.faults.tail }).trans
        (not_congr ⟨fun hvain => ⟨row, hrow, hid, category, hcategory, hvain⟩, ?_⟩)
      rintro ⟨other, hother, hid', category', hcategory', hvain⟩
      obtain rfl := Option.some.inj
        (hfind.symm.trans (find_by_id s.db (t := .lookupMasters) (by decide) hother hid'))
      cases hcategory.symm.trans hcategory'
      exact hvain
    · have hnone : ((s.db.tables .lookupMasters).find? (Condition.selects [("id", .int id)])).bind
          (textOf · "category") = none := by
        by_contra hsome
        obtain ⟨category, hcategory⟩ := Option.ne_none_iff_exists'.mp hsome
        obtain ⟨row, hfind, htext⟩ := Option.bind_eq_some_iff.mp hcategory
        exact hfound ⟨row, List.mem_of_find?_eq_some hfind, by simpa using List.find?_some hfind,
          category, eq_of_textOf htext⟩
      rw [hnone]
      refine (write_failsWithout s.db (.update id req) _).trans (iff_of_true (.inr rfl) ?_)
      rintro ⟨row, hrow, hid, category, hcategory, -⟩
      exact hfound ⟨row, hrow, hid, category, hcategory⟩
  · have hlost : outcome (selectFirst .lookupMasters (Condition.selects [("id", .int id)])) s =
        (.ok none, s.fail) := by
      rw [selectFirst, outcome_ofOutcome, if_pos (Server.not_clear.mp hclear)]
    rw [outcome_bind_of_ok hlost]
    exact (write_failsWithout s.db (.update id req) _).trans
      (iff_of_true (.inr rfl) fun hloses => hclear hloses.1)

theorem rest_failsWithout (phase : MasterPhase) (s : Server) :
    FailsWithout s.db phase.rest s ↔ ¬phase.Loses s := by
  cases phase with
  | lookup id req => exact lookup_failsWithout id req s
  | clear category last => exact clear_failsWithout category last s
  | write last => exact (write_failsWithout s.db last s).trans (iff_of_true (.inr rfl) not_false)

/-- **A request that fails keeps the flags exactly if it has not cleared any.** -/
theorem request_failsWithout (kind : MasterRequest) (r : Request) (s : Server) :
    FailsWithout s.db (kind.handler.serve r) s ↔
      ¬(s.pool = true ∧ kind.handler.refuses r = none ∧ (kind.first r).Loses s) := by
  unfold FailsWithout
  rw [masterPhases, ← and_assoc]
  by_cases hstarts : s.pool = true ∧ kind.handler.refuses r = none
  · have hstart : outcome (kind.start r) s = (.ok (kind.first r), s) := by
      simp [MasterRequest.start, outcome_bind, hstarts.1, hstarts.2]
    rw [outcome_bind_of_ok hstart, and_iff_right hstarts]
    exact rest_failsWithout (kind.first r) s
  · refine iff_of_true (fun error s' herror => ?_) fun hloses => hstarts hloses.1
    have hrefused : ∃ error, outcome (kind.start r) s = (.error error, s) := by
      cases hpool : s.pool with
      | false => exact ⟨_, by simp [MasterRequest.start, outcome_bind, hpool]; rfl⟩
      | true =>
        cases hrefuses : kind.handler.refuses r with
        | none => exact absurd ⟨hpool, hrefuses⟩ hstarts
        | some error => exact ⟨error, by simp [MasterRequest.start, outcome_bind, hpool, hrefuses]⟩
    obtain ⟨refusal, hout⟩ := hrefused
    rw [outcome_bind_of_error hout] at herror
    cases herror
    rfl

/-- **When the defaults are consistent.**  A run keeps one default a category exactly if a default
is set only where there is no other, and a request that fails keeps all flags exactly if it has
not cleared any. -/
theorem masters_iff {opening : MasterDesk} (h : OneDefault (opening.db.tables .lookupMasters))
    (events : List MasterEvent) (kind : MasterRequest) (r : Request) (s : Server) :
    ((masterDesk opening).AllStates (fun desk => OneDefault (desk.db.tables .lookupMasters))
        opening events ↔
      (masterDesk opening).AllSteps (fun desk event => event.Orderly desk) opening events) ∧
    (FailsWithout s.db (kind.handler.serve r) s ↔
      ¬(s.pool = true ∧ kind.handler.refuses r = none ∧ (kind.first r).Loses s)) :=
  ⟨Machine.allStates_iff_allSteps (I := fun _ => True) (fun _ _ _ _ _ => trivial)
      (fun _ _ _ _ hone hstep => masterDesk_step hone hstep) events opening trivial h,
    request_failsWithout kind r s⟩

/-! ### Two defaults at a time, and none -/

/-- A new brand of tyres, as the default. -/
def brandRequest : Request where
  session := ⟨9, 1, "stores", "admin"⟩
  id := none
  type := "tyre-brands"
  companyID := none
  body := .ok { Fields.empty with text := fun _ => "MRF", flag := fun _ => some true }

/-- The desk without any masters. -/
def emptyDesk : MasterDesk := ⟨newCompany, fun _ => 1, fun _ => none⟩

def startBrand (key : Nat) : MasterEvent :=
  .start key .create brandRequest (calm newCompany .lenient [])

def nextBrand (key : Nat) : MasterEvent := .next key (calm newCompany .lenient [])

instance decidableOneDefault (rows : List (Row Datum)) : Decidable (OneDefault rows) :=
  have : DecidableRel SharedDefault := fun _ _ => inferInstanceAs (Decidable (_ ∧ _))
  inferInstanceAs (Decidable (rows.Pairwise _))

/-- **Two requests that clear the category before either sets its default leave two defaults, and
one whose last statement fails leaves none.** -/
theorem crossingBrands_two_defaults :
    (∃ closing, (masterDesk emptyDesk).run emptyDesk [startBrand 1, startBrand 2, nextBrand 1,
        nextBrand 2, nextBrand 1, nextBrand 2] = some closing ∧
      ¬OneDefault (closing.db.tables .lookupMasters)) ∧
    ∃ answer s s', outcome (createMasterHandler.serve brandRequest)
        (calm newCompany .lenient [false, false, false, true]) = (.ok answer, s) ∧
      outcome (createMasterHandler.serve brandRequest) s = (.error serverError, s') ∧
      defaultFlags s.db = [some (.bool true)] ∧ defaultFlags s'.db = [some (.bool false)] := by
  refine ⟨⟨_, rfl, ?_⟩, _, _, _, rfl, rfl, ?_, ?_⟩
  · decide +kernel
  · decide +kernel
  · decide +kernel

/-- One request by itself leaves one. -/
theorem brand_one_default :
    (masterDesk emptyDesk).AllStates (fun desk => OneDefault (desk.db.tables .lookupMasters))
      emptyDesk [startBrand 1, nextBrand 1, nextBrand 1] := by
  have hnone : OneDefault (emptyDesk.db.tables .lookupMasters) := List.Pairwise.nil
  refine (masters_iff hnone _ .create brandRequest (calm newCompany .lenient [])).1.mpr ?_
  intro s₁ h₁
  refine ⟨trivial, fun s₂ h₂ => ⟨?_, fun s₃ h₃ => ⟨?_, trivial⟩⟩⟩
  · obtain rfl := Option.some.inj h₁
    intro phase hphase
    obtain rfl := Option.some.inj hphase
    trivial
  · obtain rfl := Option.some.inj h₁
    obtain rfl := Option.some.inj h₂
    intro phase hphase
    obtain rfl := Option.some.inj hphase
    rintro - - row hrow
    exact absurd (show row ∈ ([] : List (Row Datum)) from hrow) List.not_mem_nil

end RudraNetra.API
