/-
A batch against its positions one by one.

`InsertBatch` writes several rows with one statement, so the placeholders of a row start
behind those of the rows before it, and a batch of more than 200 positions is cut.  Neither
is visible in the table: the rows are those that `Insert` writes for each position, in the
same order, and no statement has a placeholder that is missing, used twice or too large.
-/
import RudraNetra.Store.PositionRepo

namespace RudraNetra

/-! ### The placeholders of a statement -/

/-- The placeholders of a column, in the order in which they are written. -/
def ColumnExpr.placeholders : ColumnExpr → List Nat
  | .param n => [n]
  | .makePoint lng lat => [lng, lat]

def InsertStmt.placeholders (stmt : InsertStmt) : List Nat :=
  stmt.rows.flatten.flatMap ColumnExpr.placeholders

/-- As many parameters as PostgreSQL takes with a statement. -/
def maxParameters : Nat := 65535

/-- The placeholders are `$1` to `$m`, each written once, and there are `m` arguments, where `m` is
18 for each row. -/
structure InsertStmt.Bound (stmt : InsertStmt) : Prop where
  placeholders : stmt.placeholders = List.range' 1 (18 * stmt.rows.length)
  args : stmt.args.length = 18 * stmt.rows.length
  limit : stmt.args.length ≤ maxParameters

theorem insertRow_placeholders (base : Nat) :
    (insertRow base).flatMap ColumnExpr.placeholders = List.range' (base + 1) 18 := rfl

/-- The placeholders of a row go on where those of the rows before it end. -/
theorem insertRows_placeholders (n : Nat) :
    ((List.range n).map fun i => insertRow (i * 18)).flatten.flatMap ColumnExpr.placeholders =
      List.range' 1 (18 * n) := by
  induction n with
  | zero => rfl
  | succ n ih =>
      have hstart : n * 18 + 1 = 1 + 18 * n := by omega
      rw [List.range_succ, List.map_append, List.flatten_append, List.flatMap_append, ih,
        List.map_singleton, List.flatten_singleton, insertRow_placeholders, hstart, Nat.mul_succ,
        List.range'_append_1]

theorem args_length (chunk : List Position) :
    (chunk.flatMap positionArgs).length = 18 * chunk.length := by
  induction chunk with
  | nil => rfl
  | cons pos rest ih =>
      rw [List.flatMap_cons, List.length_append, ih, positionArgs_length, List.length_cons]
      omega

theorem batchStatement_rows (chunk : List Position) :
    (batchStatement chunk).rows.length = chunk.length := by
  simp [batchStatement]

theorem batchStatement_bound {chunk : List Position} (h : chunk.length ≤ chunkSize) :
    (batchStatement chunk).Bound where
  placeholders := by
    rw [batchStatement_rows]
    exact insertRows_placeholders chunk.length
  args := by
    rw [batchStatement_rows]
    exact args_length chunk
  limit := by
    show (chunk.flatMap positionArgs).length ≤ maxParameters
    rw [args_length]
    unfold chunkSize at h
    unfold maxParameters
    omega

/-- No chunk is longer than the constant says. -/
theorem length_of_mem_chunks {positions chunk : List Position} (h : chunk ∈ chunks positions) :
    chunk.length ≤ chunkSize := by
  obtain ⟨i, _, rfl⟩ := List.mem_map.mp h
  exact List.length_take_le _ _

/-! ### The statements of a batch -/

/-- What `InsertBatch` sends. -/
def batchStatements (positions : List Position) : List InsertStmt :=
  (chunks positions).map batchStatement

/-- Sends statements until one fails; the number of stored rows, and whether none did. -/
def sendAll (env : Env) : List InsertStmt → Nat → World → World × Nat × Bool
  | [], inserted, w => (w, inserted, true)
  | stmt :: rest, inserted, w =>
    match w.exec env (.insertPositions stmt) with
    | (w, none) => (w, inserted, false)
    | (w, some affected) => sendAll env rest (inserted + affected) w

theorem insertBatch_eq_sendAll (env : Env) (positions : List Position) (w : World) :
    insertBatch env positions w = sendAll env (batchStatements positions) 0 w := by
  have hloop : ∀ (cs : List (List Position)) (inserted : Nat) (w : World),
      insertChunks env cs inserted w = sendAll env (cs.map batchStatement) inserted w := by
    intro cs
    induction cs with
    | nil => intros; rfl
    | cons chunk cs ih =>
        intro inserted w
        simp only [insertChunks, List.map_cons, sendAll]
        rcases w.exec env (.insertPositions (batchStatement chunk)) with ⟨w', _ | affected⟩
        · rfl
        · exact ih _ _
  rw [insertBatch_eq, hloop, batchStatements]

/-! ### The same rows -/

/-- The database after some positions were stored. -/
def Database.store (db : Database) (positions : List Position) : Database :=
  { db with positions := db.positions ++ positions.map positionRow }

@[simp] theorem Database.store_nil (db : Database) : db.store [] = db := by
  simp [Database.store]

@[simp] theorem Database.store_append (db : Database) (ps qs : List Position) :
    db.store (ps ++ qs) = (db.store ps).store qs := by
  simp [Database.store]

/-- Calls `Insert` for each position in turn; whether all calls succeeded. -/
def insertEach (env : Env) : List Position → World → World × Bool
  | [], w => (w, true)
  | pos :: rest, w =>
    let (w, ok) := insert env pos w
    let (w, restOk) := insertEach env rest w
    (w, ok && restOk)

/-- A position by itself is written as a batch of one is. -/
theorem insertStatement_eq (pos : Position) : insertStatement pos = batchStatement [pos] := by
  simp [insertStatement, batchStatement]

theorem insert_of_ok {env : Env} {w : World} (hok : env.execOk w.statements = true)
    (pos : Position) : insert env pos w = (w.store [pos], true) := by
  rw [insert, insertStatement_eq, exec_batchStatement, if_pos hok]

section AllSucceed

variable {env : Env} (hok : ∀ n, env.execOk n = true)
include hok

theorem insertEach_whole (positions : List Position) : ∀ w,
    (insertEach env positions w).1.db = w.db.store positions ∧
      (insertEach env positions w).2 = true := by
  induction positions with
  | nil => intro w; simp [insertEach]
  | cons pos rest ih =>
      intro w
      obtain ⟨hdb, hrest⟩ := ih (w.store [pos])
      simp only [insertEach, insert_of_ok (hok w.statements), hdb, hrest]
      exact ⟨(Database.store_append w.db [pos] rest).symm, rfl⟩

theorem insertChunks_db (cs : List (List Position)) : ∀ (inserted : Nat) (w : World),
    (insertChunks env cs inserted w).1.db = w.db.store cs.flatten := by
  induction cs with
  | nil => intro inserted w; simp [insertChunks]
  | cons chunk cs ih =>
      intro inserted w
      rw [insertChunks_cons, if_pos (hok _), ih, List.flatten_cons, Database.store_append]
      rfl

theorem insertBatch_db (positions : List Position) (w : World) :
    (insertBatch env positions w).1.db = w.db.store positions := by
  rw [insertBatch_eq, insertChunks_db hok, chunks_flatten]

end AllSucceed

/-- Storing a batch and storing its positions come to the same. -/
structure BatchIsEach (env : Env) (positions : List Position) (w : World) : Prop where
  /-- Both leave the same database, which has the rows of the positions behind the ones before. -/
  same : (insertBatch env positions w).1.db = (insertEach env positions w).1.db
  rows : (insertBatch env positions w).1.db.positions =
    w.db.positions ++ positions.map positionRow
  each : (insertEach env positions w).2 = true
  count : (insertBatch env positions w).2 = (positions.length, true)
  /-- These are the statements that are sent, and each binds what it names. -/
  sent : insertBatch env positions w = sendAll env (batchStatements positions) 0 w
  bound : ∀ stmt ∈ batchStatements positions, stmt.Bound
  boundEach : ∀ pos ∈ positions, (insertStatement pos).Bound

/-- **A batch of any length stores what its positions one by one would**, if the database takes
every statement. -/
theorem insertBatch_isEach {env : Env} (hok : ∀ n, env.execOk n = true) (positions : List Position)
    (w : World) : BatchIsEach env positions w where
  same := by
    rw [insertBatch_db hok]
    exact (insertEach_whole hok positions w).1.symm
  rows := by
    rw [insertBatch_db hok]
    rfl
  each := (insertEach_whole hok positions w).2
  count := insertBatch_whole hok positions w
  sent := insertBatch_eq_sendAll env positions w
  bound := by
    intro stmt hstmt
    obtain ⟨chunk, hchunk, rfl⟩ := List.mem_map.mp hstmt
    exact batchStatement_bound (length_of_mem_chunks hchunk)
  boundEach := by
    intro pos _
    rw [insertStatement_eq]
    exact batchStatement_bound (by simp [chunkSize])

/-- A batch that is sent with two statements. -/
theorem insertBatch_isEach_201 :
    BatchIsEach ⟨fun _ => true, fun _ => true, fun _ => true, fun _ => 0, fun _ => 0⟩
      (List.replicate 201 (.zero 7)) ⟨⟨[], [], []⟩, ⟨0, 0, 0, 0, 0⟩, 0, 0, [], []⟩ :=
  insertBatch_isEach (fun _ => rfl) _ _

end RudraNetra
