/-
What handlers do to the database, statement by statement.

A handler changes the database through the statements it sends and in no other way: a
transaction that is rolled back leaves the database of its start.  A relation between
databases that each of its statements respects therefore relates the database after a
request to the one before it, wherever the request fails.
-/
import RudraNetra.Api.Users

namespace RudraNetra.API

open SQL Effect

/-- A relation between databases, for the servers that hold them. -/
def OnDatabase (R : SQL.Database schema Datum → SQL.Database schema Datum → Prop)
    (s s' : Server) : Prop :=
  R s.db s'.db

variable {R : SQL.Database schema Datum → SQL.Database schema Datum → Prop}

instance [Std.Refl R] : Std.Refl (OnDatabase R) := ⟨fun s => refl_of R s.db⟩

instance [IsTrans (SQL.Database schema Datum) R] : IsTrans Server (OnDatabase R) :=
  ⟨fun _ _ _ h h' => trans_of R h h'⟩

@[simp] theorem Server.fail_db (s : Server) : s.fail.db = s.db := rfl

@[simp] theorem Server.fail_serial (s : Server) : s.fail.serial = s.serial := rfl

@[simp] theorem Server.fail_now (s : Server) : s.fail.now = s.now := rfl

@[simp] theorem outcome_now (s : Server) : outcome now s = (.ok s.now, s) := rfl

/-! ### One statement -/

section

variable [Std.Refl R] {s : Server} {stmt : SQL.Statement Table Datum}

theorem submit_related
    (h : ∀ db n, s.db.exec stmt = some (db, n) → R s.db db) : R s.db (s.submit stmt).2.db := by
  unfold Server.submit
  split
  · exact refl_of R s.db
  · split
    · exact h _ _ ‹_›
    · exact refl_of R s.db

theorem exec_related (h : ∀ db n, s.db.exec stmt = some (db, n) → R s.db db) :
    OnDatabase R s (outcome (exec stmt) s).2 := by
  have hsubmit := submit_related h
  rw [exec, outcome_ofOutcome]
  rcases hout : s.submit stmt with ⟨affected | _, s'⟩ <;> simpa [OnDatabase, hout] using hsubmit

end

section

variable [Std.Refl R]

theorem keeps_exec {stmt : SQL.Statement Table Datum}
    (h : ∀ (db db' : SQL.Database schema Datum) n, db.exec stmt = some (db', n) → R db db') :
    Keeps (OnDatabase R) (exec stmt) :=
  fun s => exec_related (h s.db)

theorem insertReturning_related {s : Server} {t : Table} {columns : Columns}
    (h : ∀ db n, s.db.exec (.insert t (t.row s.now (("id", some (.int (s.serial t))) :: columns))) =
      some (db, n) → R s.db db) :
    OnDatabase R s (outcome (insertReturning t columns) s).2 := by
  let drawn := { s with serial := Function.update s.serial t (s.serial t + 1) }
  let row := t.row s.now (("id", some (.int (s.serial t))) :: columns)
  have hsubmit : R s.db (drawn.submit (.insert t row)).2.db := submit_related h
  change R s.db (outcome (insertReturning t columns) s).2.db
  rw [insertReturning, outcome_ofOutcome]
  rcases hout : drawn.submit (.insert t row) with ⟨affected | _, s'⟩ <;>
    simpa [drawn, row, hout] using hsubmit

theorem insertOrUpdateReturning_related {s : Server} {t : Table} {columns : Columns}
    {key : List String} {set : List Assignment}
    (h : ∀ db n, s.db.exec (.insertOrUpdate t
      (t.row s.now (("id", some (.int (s.serial t))) :: columns)) key set) = some (db, n) →
        R s.db db) :
    OnDatabase R s (outcome (insertOrUpdateReturning t columns key set) s).2 := by
  let drawn := { s with serial := Function.update s.serial t (s.serial t + 1) }
  let row := t.row s.now (("id", some (.int (s.serial t))) :: columns)
  have hsubmit : R s.db (drawn.submit (.insertOrUpdate t row key set)).2.db := submit_related h
  change R s.db (outcome (insertOrUpdateReturning t columns key set) s).2.db
  rw [insertOrUpdateReturning, outcome_ofOutcome]
  rcases hout : drawn.submit (.insertOrUpdate t row key set) with ⟨affected | _, s'⟩ <;>
    simpa [drawn, row, hout] using hsubmit

theorem keeps_insertReturning {t : Table} {columns : Columns}
    (h : ∀ (db db' : SQL.Database schema Datum) row n,
      db.exec (.insert t row) = some (db', n) → R db db') :
    Keeps (OnDatabase R) (insertReturning t columns) :=
  fun s => insertReturning_related fun db n => h s.db db _ n

theorem keeps_selectFirst (t : Table) (cond : Row Datum → Bool) :
    Keeps (OnDatabase R) (selectFirst t cond) := by
  intro s
  rw [selectFirst, outcome_ofOutcome]
  split <;> exact refl_of R s.db

theorem keeps_selectAll (t : Table) (cond : Row Datum → Bool) :
    Keeps (OnDatabase R) (selectAll t cond) := by
  intro s
  rw [selectAll, outcome_ofOutcome]
  split <;> exact refl_of R s.db

theorem keeps_now : Keeps (OnDatabase R) now := fun s => refl_of R s.db

theorem keeps_publish (command : PublishedCommand) : Keeps (OnDatabase R) (publish command) := by
  intro s
  rw [publish, outcome_ofOutcome]
  split_ifs <;> exact refl_of R s.db

theorem transaction_related {α : Type} {body : Api α} {s : Server}
    (h : R s.db (outcome body { s with faults := s.faults.tail, tx := some false }).2.db) :
    OnDatabase R s (outcome (transaction body) s).2 := by
  rw [transaction, outcome_ofOutcome]
  split
  · exact refl_of R s.db
  · rcases hout : outcome body { s with faults := s.faults.tail, tx := some false } with ⟨e | a, s'⟩
    · exact refl_of R s.db
    · rw [hout] at h
      dsimp only
      split
      · exact refl_of R s.db
      · exact h

theorem keeps_transaction {α : Type} {body : Api α} (h : Keeps (OnDatabase R) body) :
    Keeps (OnDatabase R) (transaction body) :=
  fun s => transaction_related (h { s with faults := s.faults.tail, tx := some false })

end

/-! ### What a statement comes to -/

theorem submit_eq_some {s s' : Server} {stmt : SQL.Statement Table Datum} {n : Nat}
    (h : s.submit stmt = (some n, s')) :
    ∃ db, s.db.exec stmt = some (db, n) ∧ s' = { s with db := db, faults := s.faults.tail } := by
  unfold Server.submit at h
  split at h
  · simp at h
  · split at h
    · rename_i db affected hexec
      obtain ⟨rfl, rfl⟩ : affected = n ∧ _ = s' := by simpa using h
      exact ⟨db, hexec, rfl⟩
    · simp at h

theorem exec_eq_ok {s s' : Server} {stmt : SQL.Statement Table Datum} {n : Nat}
    (h : outcome (exec stmt) s = (.ok n, s')) :
    ∃ db, s.db.exec stmt = some (db, n) ∧ s' = { s with db := db, faults := s.faults.tail } := by
  rw [exec, outcome_ofOutcome] at h
  split at h
  · rename_i affected sent hsubmit
    obtain ⟨rfl, rfl⟩ : affected = n ∧ sent = s' := by simpa using h
    exact submit_eq_some hsubmit
  · simp at h

/-- Statements are neither refused by the transaction nor by what is outside. -/
def Server.Clear (s : Server) : Prop := s.tx ≠ some true ∧ s.faults.head? ≠ some true

theorem Server.not_clear {s : Server} :
    ¬s.Clear ↔ s.tx = some true ∨ s.faults.head? = some true := by
  rw [Server.Clear, not_and_or, not_not, not_not]

/-- A statement is carried out, or fails. -/
theorem outcome_exec_cases (s : Server) (stmt : SQL.Statement Table Datum) :
    (∃ db n, s.Clear ∧ s.db.exec stmt = some (db, n) ∧
      outcome (exec stmt) s = (.ok n, { s with db := db, faults := s.faults.tail })) ∨
    outcome (exec stmt) s = (.error serverError, s.fail) ∧ (s.Clear → s.db.exec stmt = none) := by
  rw [exec, outcome_ofOutcome, Server.submit]
  by_cases hclear : s.Clear
  · cases hexec : s.db.exec stmt with
    | none => simp [hclear.1, hclear.2]
    | some result =>
        obtain ⟨db, n⟩ := result
        simp [hclear, hclear.1, hclear.2]
  · simp [hclear, Server.not_clear.mp hclear]

theorem outcome_insertReturning_cases (s : Server) (t : Table) (columns : Columns) :
    (∃ db n s', s.Clear ∧
      s.db.exec (.insert t (t.row s.now (("id", some (.int (s.serial t))) :: columns))) =
        some (db, n) ∧
      outcome (insertReturning t columns) s = (.ok (s.serial t), s') ∧ s'.db = db ∧
      s'.now = s.now ∧ s'.tx = s.tx ∧ s'.faults = s.faults.tail ∧
      s'.serial = Function.update s.serial t (s.serial t + 1)) ∨
    ∃ s', outcome (insertReturning t columns) s = (.error serverError, s') ∧ s'.db = s.db ∧
      s'.serial = Function.update s.serial t (s.serial t + 1) ∧ s'.now = s.now ∧
      (s.Clear → s.db.exec (.insert t (t.row s.now (("id", some (.int (s.serial t))) :: columns))) =
        none) := by
  rw [insertReturning, outcome_ofOutcome]
  dsimp only [Server.submit]
  by_cases hclear : s.Clear
  · cases hexec : s.db.exec (.insert t (t.row s.now (("id", some (.int (s.serial t))) :: columns)))
      with
    | none => simp [hclear.1, hclear.2]
    | some result =>
        obtain ⟨db, n⟩ := result
        simp [hclear, hclear.1, hclear.2]
  · simp [hclear, Server.not_clear.mp hclear]

theorem insertReturning_now {s s' : Server} {t : Table} {columns : Columns} {id : Int}
    (h : outcome (insertReturning t columns) s = (.ok id, s')) : s'.now = s.now := by
  rcases outcome_insertReturning_cases s t columns with
    ⟨db, n, after, -, -, hout, -, hnow, -⟩ | ⟨after, hout, -⟩
  · obtain rfl : s' = after := congrArg Prod.snd (h.symm.trans hout)
    exact hnow
  · exact absurd (congrArg Prod.fst (h.symm.trans hout)) (by simp)

/-- A row that is answered for is the last one of its table. -/
theorem insertReturning_answer {s s' : Server} {t : Table} {columns : Columns}
    {respond : Int → Response} {answer : Response}
    (h : outcome (insertReturning t columns >>= fun id => pure (respond id)) s =
      (.ok answer, s')) :
    s'.db.tables t =
      s.db.tables t ++ [t.row s.now (("id", some (.int (s.serial t))) :: columns)] := by
  rcases outcome_insertReturning_cases s t columns with
    ⟨db, n, mid, -, hexec, hout, rfl, -⟩ | ⟨mid, hout, -⟩
  · rw [outcome_bind_of_ok hout] at h
    cases h
    rw [Database.insert_tables hexec, if_pos rfl]
  · rw [outcome_bind_of_error hout] at h
    cases h

/-- A transaction is committed, or leaves the database as it was. -/
theorem outcome_transaction_cases {α : Type} (body : Api α) (s : Server) :
    (∃ a s' t, s.faults.head? ≠ some true ∧
      outcome body { s with faults := s.faults.tail, tx := some false } = (.ok a, t) ∧ t.Clear ∧
      outcome (transaction body) s = (.ok a, s') ∧ s'.db = t.db) ∨
    ∃ e s', outcome (transaction body) s = (.error e, s') ∧ s'.db = s.db ∧
      (e = serverError ∨
        (outcome body { s with faults := s.faults.tail, tx := some false }).1 = .error e) ∧
      ∀ a t, s.faults.head? ≠ some true →
        outcome body { s with faults := s.faults.tail, tx := some false } = (.ok a, t) →
          ¬t.Clear := by
  rw [transaction, outcome_ofOutcome]
  by_cases hbegin : s.faults.head? = some true
  · simp [hbegin]
  · rw [if_neg hbegin]
    rcases hbody : outcome body { s with faults := s.faults.tail, tx := some false } with ⟨e | a, t⟩
    · simp
    · by_cases hclear : t.Clear
      · simp [hbegin, hclear, hclear.1, hclear.2]
      · simp [hbegin, hclear, Server.not_clear.mp hclear]

/-- A query finds nothing, if it fails, or the first row there is. -/
theorem selectFirst_eq_ok {s s' : Server} {t : Table} {cond : Row Datum → Bool}
    {found : Option (Row Datum)} (h : outcome (selectFirst t cond) s = (.ok found, s')) :
    s'.db = s.db ∧ ∀ row, found = some row → (s.db.tables t).find? cond = some row := by
  rw [selectFirst, outcome_ofOutcome] at h
  split at h
  · obtain ⟨rfl, rfl⟩ : none = found ∧ s.fail = s' := by simpa using h
    simp
  · obtain ⟨rfl, rfl⟩ : (s.db.tables t).find? cond = found ∧ _ = s' := by simpa using h
    exact ⟨rfl, fun row hrow => hrow⟩

/-- The first row that a query finds, and nothing if it fails. -/
def Server.first (s : Server) (t : Table) (cond : Row Datum → Bool) : Option (Row Datum) :=
  if s.tx = some true ∨ s.faults.head? = some true then none else (s.db.tables t).find? cond

/-- The server after a query. -/
def Server.asked (s : Server) : Server :=
  if s.tx = some true ∨ s.faults.head? = some true then s.fail
  else { s with faults := s.faults.tail }

theorem outcome_selectFirst_eq (s : Server) (t : Table) (cond : Row Datum → Bool) :
    outcome (selectFirst t cond) s = (.ok (s.first t cond), s.asked) := by
  rw [selectFirst, outcome_ofOutcome, Server.first, Server.asked]
  split <;> rfl

/-- A query leaves the database and the clock as they are. -/
theorem outcome_selectFirst_cases (s : Server) (t : Table) (cond : Row Datum → Bool) :
    ∃ found s', outcome (selectFirst t cond) s = (.ok found, s') ∧ s'.db = s.db ∧
      s'.now = s.now ∧ ∀ row, found = some row → row ∈ s.db.tables t := by
  rw [selectFirst, outcome_ofOutcome]
  by_cases hfault : s.tx = some true ∨ s.faults.head? = some true
  · exact ⟨none, s.fail, if_pos hfault, rfl, rfl, by simp⟩
  · exact ⟨_, _, if_neg hfault, rfl, rfl, fun row hrow => List.mem_of_find?_eq_some hrow⟩

/-- What is read off the row that a query finds. -/
theorem selectFirst_bind_eq_ok {α : Type} {s s' : Server} {t : Table} {cond : Row Datum → Bool}
    {f : Row Datum → Option α} {read : Option α}
    (h : outcome (selectFirst t cond >>= fun row => pure (row.bind f)) s = (.ok read, s')) :
    s'.db = s.db ∧ ∀ a, read = some a → ((s.db.tables t).find? cond).bind f = some a := by
  rw [outcome_bind] at h
  rcases hfound : outcome (selectFirst t cond) s with ⟨e | found, mid⟩
  · simp [hfound] at h
  · obtain ⟨hdb, hrow⟩ := selectFirst_eq_ok hfound
    rw [hfound] at h
    obtain ⟨rfl, rfl⟩ : found.bind f = read ∧ mid = s' := by simpa using h
    refine ⟨hdb, fun a hread => ?_⟩
    obtain ⟨row, rfl, hf⟩ := Option.bind_eq_some_iff.mp hread
    rw [hrow row rfl, Option.bind_some, hf]

theorem eq_of_textOf {row : Row Datum} {column text : String} (h : textOf row column = some text) :
    row column = some (.text text) := by
  unfold textOf at h
  split at h <;> simp_all

theorem eq_of_intOf {row : Row Datum} {column : String} {n : Int} (h : intOf row column = some n) :
    row column = some (.int n) := by
  unfold intOf at h
  split at h <;> simp_all

theorem eq_of_realOf {row : Row Datum} {column : String} {x : ℚ} (h : realOf row column = some x) :
    row column = some (.real x) := by
  unfold realOf at h
  split at h <;> simp_all

/-- What a row holds that scans as a user. -/
theorem scanUser_eq_some {row : Row Datum} {user : User} (h : scanUser row = some user) :
    intOf row "id" = some user.id ∧ textOf row "password_hash" = some user.passwordHash ∧
      boolOf row "is_active" = some user.isActive ∧ instantOf row "expires_at" = user.expiresAt := by
  simp only [scanUser, bind, Option.bind_eq_some_iff] at h
  obtain ⟨id, hid, username, -, passwordHash, hhash, role, -, isActive, hactive, createdAt, -, h⟩ := h
  obtain rfl := Option.some.inj h
  exact ⟨hid, hhash, hactive, rfl⟩

/-- The row with a value in a unique column is the one that a query for the value finds. -/
theorem find_by_key (db : SQL.Database schema Datum) {t : Table} {row : Row Datum}
    {column : String} {v : Datum} (hunique : (t, [column]) ∈ schema.uniques)
    (hmem : row ∈ db.tables t) (hv : row column = some v) :
    (db.tables t).find? (Condition.selects [(column, v)]) = some row := by
  cases hfind : (db.tables t).find? (Condition.selects [(column, v)]) with
  | none => simpa [hv] using List.find?_eq_none.mp hfind row hmem
  | some found =>
      have hselects := List.find?_some hfind
      have hagree : Agree [column] found row := by
        simp_all [Agree]
      exact congrArg some
        (db.valid.eq_of_agree hunique (List.mem_of_find?_eq_some hfind) hmem hagree)

theorem find_by_id (db : SQL.Database schema Datum) {t : Table} {row : Row Datum} {id : Int}
    (hunique : (t, ["id"]) ∈ schema.uniques) (hmem : row ∈ db.tables t)
    (hid : row "id" = some (.int id)) :
    (db.tables t).find? (Condition.selects [("id", .int id)]) = some row :=
  find_by_key db hunique hmem hid

theorem getByID_eq_ok {s s' : Server} {id : Int} {user : User}
    (h : outcome (getByID id) s = (.ok (some user), s')) :
    s'.db = s.db ∧
      ∃ row ∈ s.db.tables .users, row "id" = some (.int id) ∧ scanUser row = some user := by
  obtain ⟨hdb, hread⟩ := selectFirst_bind_eq_ok h
  obtain ⟨row, hfind, hscan⟩ := Option.bind_eq_some_iff.mp (hread user rfl)
  have hid := List.find?_some hfind
  exact ⟨hdb, row, List.mem_of_find?_eq_some hfind, by simpa using hid, hscan⟩

/-- The id of a new row is the next one of its table. -/
theorem insertReturning_eq_ok {s s' : Server} {t : Table} {columns : Columns} {id : Int}
    (h : outcome (insertReturning t columns) s = (.ok id, s')) :
    id = s.serial t ∧ ∃ n, s.db.exec (.insert t (t.row s.now (("id", some (.int id)) :: columns))) =
      some (s'.db, n) := by
  rw [insertReturning, outcome_ofOutcome] at h
  dsimp only at h
  split at h
  · rename_i affected sent hsubmit
    obtain ⟨rfl, rfl⟩ : s.serial t = id ∧ sent = s' := by simpa using h
    obtain ⟨db, hexec, rfl⟩ := submit_eq_some hsubmit
    exact ⟨rfl, affected, hexec⟩
  · simp at h

section

variable {s : Server}

theorem outcome_exec (h : s.Clear) {stmt : SQL.Statement Table Datum}
    {db : SQL.Database schema Datum} {n : Nat} (hexec : s.db.exec stmt = some (db, n)) :
    outcome (exec stmt) s = (.ok n, { s with db := db, faults := s.faults.tail }) := by
  simp [exec, Server.submit, h.1, h.2, hexec]

theorem outcome_exec_of_fault (h : s.faults.head? = some true)
    (stmt : SQL.Statement Table Datum) :
    outcome (exec stmt) s = (.error serverError, s.fail) := by
  simp [exec, Server.submit, h]

theorem outcome_insertReturning_of_fault (h : s.faults.head? = some true) (t : Table)
    (columns : Columns) :
    ∃ s', outcome (insertReturning t columns) s = (.error serverError, s') ∧ s'.db = s.db := by
  simp [insertReturning, Server.submit, h]

theorem outcome_selectFirst (h : s.Clear) (t : Table) (cond : Row Datum → Bool) :
    outcome (selectFirst t cond) s =
      (.ok ((s.db.tables t).find? cond), { s with faults := s.faults.tail }) := by
  simp [selectFirst, h.1, h.2]

theorem outcome_selectFirst_of_fault (h : s.faults.head? = some true) (t : Table)
    (cond : Row Datum → Bool) : outcome (selectFirst t cond) s = (.ok none, s.fail) := by
  simp [selectFirst, h]

/-- A transaction without faults is committed. -/
theorem outcome_transaction {α : Type} {body : Api α} {s' : Server} {a : α}
    (hbegin : s.faults.head? ≠ some true)
    (hbody : outcome body { s with faults := s.faults.tail, tx := some false } = (.ok a, s'))
    (hcommit : s'.Clear) :
    outcome (transaction body) s = (.ok a, { s' with tx := none, faults := s'.faults.tail }) := by
  simp [transaction, hbegin, hbody, hcommit.1, hcommit.2]

theorem outcome_insertOrUpdateReturning (h : s.Clear) {t : Table} {columns : Columns}
    {key : List String} {set : List Assignment} {db : SQL.Database schema Datum} {n : Nat}
    (hexec : s.db.exec (.insertOrUpdate t
      (t.row s.now (("id", some (.int (s.serial t))) :: columns)) key set) = some (db, n)) :
    ∃ id s', outcome (insertOrUpdateReturning t columns key set) s = (.ok id, s') ∧ s'.db = db := by
  simp [insertOrUpdateReturning, Server.submit, h.1, h.2, hexec]

theorem outcome_insertReturning (h : s.Clear) {t : Table} {columns : Columns}
    {db : SQL.Database schema Datum} {n : Nat}
    (hexec : s.db.exec (.insert t (t.row s.now (("id", some (.int (s.serial t))) :: columns))) =
      some (db, n)) :
    ∃ s', outcome (insertReturning t columns) s = (.ok (s.serial t), s') ∧ s'.db = db := by
  simp [insertReturning, Server.submit, h.1, h.2, hexec]

/-- A request that no check refuses gets to the handler's work. -/
theorem outcome_serve {h : Handler} {r : Request} (hpool : s.pool = true)
    (hrefuses : h.refuses r = none) :
    outcome (h.serve r) s =
      outcome (h.work r (getEffectiveCompanyID r) (r.id.getD 0) r.fields) s := by
  simp [Handler.serve, outcome_bind, hpool, hrefuses]

/-- A request is answered with an error at once, or the handler gets to work. -/
theorem outcome_serve_cases (h : Handler) (r : Request) (s : Server) :
    (∃ error, outcome (h.serve r) s = (.error error, s) ∧
      (s.pool = false ∧ error = .failure 503 "database unavailable" ∨
        h.refuses r = some error)) ∨
    s.pool = true ∧ h.refuses r = none ∧ outcome (h.serve r) s =
      outcome (h.work r (getEffectiveCompanyID r) (r.id.getD 0) r.fields) s := by
  cases hpool : s.pool with
  | false => exact .inl ⟨_, by simp [Handler.serve, outcome_bind, hpool], .inl ⟨rfl, rfl⟩⟩
  | true =>
      cases hrefuses : h.refuses r with
      | some error => exact .inl ⟨error, by simp [Handler.serve, outcome_bind, hpool, hrefuses],
          .inr rfl⟩
      | none => exact .inr ⟨rfl, rfl, outcome_serve hpool hrefuses⟩

/-- A request that is answered passed the checks. -/
theorem serve_eq_ok {h : Handler} {r : Request} {s' : Server} {answer : Response}
    (hserve : outcome (h.serve r) s = (.ok answer, s')) :
    h.refuses r = none ∧
      outcome (h.work r (getEffectiveCompanyID r) (r.id.getD 0) r.fields) s = (.ok answer, s') := by
  rcases outcome_serve_cases h r s with ⟨error, hout, -⟩ | ⟨-, hrefuses, hout⟩
  · rw [hout] at hserve
    cases hserve
  · exact ⟨hrefuses, hout.symm.trans hserve⟩

/-- Serving a request does what the handler's work does, or nothing. -/
theorem serve_related [Std.Refl R] {h : Handler} {r : Request}
    (hwork : h.refuses r = none →
      OnDatabase R s (outcome (h.work r (getEffectiveCompanyID r) (r.id.getD 0) r.fields) s).2) :
    OnDatabase R s (outcome (h.serve r) s).2 := by
  rcases outcome_serve_cases h r s with ⟨error, hout, -⟩ | ⟨-, hrefuses, hout⟩
  · rw [hout]
    exact refl_of (OnDatabase R) s
  · rw [hout]
    exact hwork hrefuses

end

/-- A handler that updates a row carries its update out, or changes nothing. -/
theorem updateRow_cases (checks : List Check) (t : Table) (set : Int → Fields → List Assignment)
    (missing message : String) (s : Server) (r : Request) (c id : Int) (req : Fields) :
    (∃ n, s.Clear ∧ s.db.exec (.update t (set s.now req) (ownRow id c)) =
      some ((outcome ((updateRow checks t set missing message).work r c id req) s).2.db, n)) ∨
    (outcome ((updateRow checks t set missing message).work r c id req) s).2.db = s.db ∧
      (s.Clear → s.db.exec (.update t (set s.now req) (ownRow id c)) = none) := by
  unfold updateRow
  dsimp only
  rw [outcome_bind, outcome_now]
  dsimp only
  rcases outcome_exec_cases s (.update t (set s.now req) (ownRow id c)) with
    ⟨db, n, hclear, hupdate, hout⟩ | ⟨hout, hrefused⟩
  · rw [outcome_bind_of_ok hout]
    refine .inl ⟨n, hclear, hupdate.trans ?_⟩
    split <;> rfl
  · rw [outcome_bind_of_error hout]
    exact .inr ⟨rfl, hrefused⟩

/-! ### Checks -/

section

variable {r : Request} {ok : Fields → Bool} {message : String} {error : Response}

theorem bindWith_eq_none (h : bindWith ok message r = none) : ok r.fields = true := by
  unfold bindWith at h
  unfold Request.fields
  cases hbody : r.body with
  | error e => simp [hbody] at h
  | ok fields =>
      show ok fields = true
      simpa [hbody] using h

theorem bindWith_status (h : bindWith ok message r = some error) : error.status = 400 := by
  unfold bindWith at h
  split at h
  · obtain rfl := Option.some.inj h
    rfl
  · split at h
    · simp at h
    · obtain rfl := Option.some.inj h
      rfl

theorem companyScope_status (h : companyScope r = some error) : error.status = 400 := by
  unfold companyScope at h
  split at h
  · obtain rfl := Option.some.inj h
    rfl
  · simp at h

theorem pathID_status (h : pathID message r = some error) : error.status = 400 := by
  unfold pathID at h
  split at h
  · obtain rfl := Option.some.inj h
    rfl
  · simp at h

theorem bindJSON_status (h : bindJSON r = some error) : error.status = 400 := by
  unfold bindJSON at h
  split at h
  · obtain rfl := Option.some.inj h
    rfl
  · simp at h

theorem require_status (h : require ok message r = some error) : error.status = 400 := by
  unfold require at h
  split at h
  · simp at h
  · obtain rfl := Option.some.inj h
    rfl

end

/-! ### The row that a request has inserted -/

/-- The row with this id is company `c`'s. -/
def Owned (c : Int) (t : Table) (id : Int) (s : Server) : Prop :=
  ∃ new ∈ s.db.tables t, new "id" = some (.int id) ∧ new "company_id" = some (.int c)

theorem owned_of_insertReturning {c : Int} {t : Table} {columns : Columns} {s s' : Server} {id : Int}
    (h : outcome (insertReturning t (("company_id", some (.int c)) :: columns)) s = (.ok id, s')) :
    Owned c t id s' := by
  obtain ⟨-, n, hexec⟩ := insertReturning_eq_ok h
  let row := t.row s.now (("id", some (.int id)) :: ("company_id", some (.int c)) :: columns)
  have hmem : row ∈ s'.db.tables t := by simp [Database.insert_tables hexec, row]
  exact ⟨row, hmem, by simp [row, Table.row], by simp [row, Table.row, List.lookup]⟩

/-- A server with this database on which nothing is the matter but the faults to come. -/
def calm (db : SQL.Database schema Datum) (bcrypt : Bcrypt) (faults : List Bool) : Server where
  db := db
  serial := fun _ => 1
  now := 0
  faults := faults
  tx := none
  published := []
  pool := true
  redis := true
  bcrypt := bcrypt
  contains := fun _ _ _ => false
  random := ""

/-- A hash of nothing that fits everything. -/
def Bcrypt.lenient : Bcrypt := ⟨fun _ _ => true, fun _ => some ""⟩

/-- A company without anything. -/
def newCompany : SQL.Database schema Datum where
  tables
    | .companies => [Table.row .companies 0 [("id", some (.int 1))]]
    | _ => []
  valid := by decide

/-! ### The tables rows are deleted from -/

/-- The tables that a request deletes rows from. -/
def deletable : List Table :=
  [.devices, .drivers, .geofences, .poi, .reminders, .tempUsers, .vehicleGroups,
    .vehicleGroupMembers, .trips, .routes, .tyreRecords, .alertRules, .lookupMasters]

theorem shallow_of_deletable : ∀ t ∈ deletable, schema.Shallow t := by
  have hnot_id : ∀ fk ∈ schema.foreignKeys, fk.column ≠ "id" := by decide
  have hleaf : ∀ t ∈ deletable, ∀ fk ∈ schema.foreignKeys, fk.parent = t →
      fk.onDelete = .cascade → ∀ fk' ∈ schema.foreignKeys, fk'.parent ≠ fk.child := by decide
  exact fun t ht => ⟨hnot_id, hleaf t ht⟩

end RudraNetra.API
