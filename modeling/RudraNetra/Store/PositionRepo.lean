/-
Storing positions: `internal/repository/postgres/position_repo.go`.

`insert` stores one position and `insertBatch` several, with one statement for each
200 of them.  If a statement fails, the ones before it stay and the rest is not tried.
-/
import RudraNetra.Ingest.World

namespace RudraNetra

/-- An optional value, absent as `NULL`. -/
def Value.ofOption {α : Type} (f : α → Value) : Option α → Value
  | some a => f a
  | none => .null

/-- The 18 arguments of a position, in the order of its placeholders. -/
def positionArgs (pos : Position) : List Value :=
  [.instant pos.time, .int pos.deviceID, .real pos.longitude, .real pos.latitude, .real pos.speed,
    .real pos.heading, .real pos.altitude, .int pos.satellites, .bool pos.ignition,
    .int pos.gsmSignal, .real pos.voltage, .real pos.temperature, .int pos.odometer,
    .text pos.rfidTag, .ofOption .json pos.rawData, .ofOption .real pos.fuelLevelPct,
    .ofOption .real pos.backupBatteryV, .ofOption .bool pos.doorOpen]

/-- The row expressions for placeholders from `base + 1` on: two scalars, the two coordinates of
the point, and the remaining 14 columns. -/
def insertRow (base : Nat) : List ColumnExpr :=
  [.param (base + 1), .param (base + 2), .makePoint (base + 3) (base + 4)] ++
    (List.range 14).map fun n => .param (base + (5 + n))

/-- The statement of `Insert`. -/
def insertStatement (pos : Position) : InsertStmt where
  columns := positionColumns
  rows := [insertRow 0]
  args := positionArgs pos

/-- Writes a single position; whether it was stored. -/
def insert (env : Env) (pos : Position) (w : World) : World × Bool :=
  match w.exec env (.insertPositions (insertStatement pos)) with
  | (w, some _) => (w, true)
  | (w, none) => (w, false)

/-- The statement of `InsertBatch` for one chunk. -/
def batchStatement (chunk : List Position) : InsertStmt where
  columns := positionColumns
  rows := (List.range chunk.length).map fun i => insertRow (i * 18)
  args := chunk.flatMap positionArgs

def chunkSize : Nat := 200

/-- The chunks of a batch, each with `chunkSize` positions but the last. -/
def chunks (positions : List Position) : List (List Position) :=
  (List.range ((positions.length + chunkSize - 1) / chunkSize)).map fun i =>
    (positions.drop (chunkSize * i)).take chunkSize

/-- Sends the chunks; the number of stored rows, and whether all chunks were stored. -/
def insertChunks (env : Env) : List (List Position) → Nat → World → World × Nat × Bool
  | [], inserted, w => (w, inserted, true)
  | chunk :: rest, inserted, w =>
    match w.exec env (.insertPositions (batchStatement chunk)) with
    | (w, none) => (w, inserted, false)
    | (w, some affected) => insertChunks env rest (inserted + affected) w

/-- Writes several positions; the number of stored rows, and whether there was no error. -/
def insertBatch (env : Env) (positions : List Position) (w : World) : World × Nat × Bool :=
  if positions.length = 0 then (w, 0, true) else insertChunks env (chunks positions) 0 w

/-! ### What the statements store -/

/-- The row that a position is stored as. -/
def positionRow (pos : Position) : PositionRow :=
  positionColumns.zip
    [.instant pos.time, .int pos.deviceID, .point pos.longitude pos.latitude, .real pos.speed,
      .real pos.heading, .real pos.altitude, .int pos.satellites, .bool pos.ignition,
      .int pos.gsmSignal, .real pos.voltage, .real pos.temperature, .int pos.odometer,
      .text pos.rfidTag, .ofOption .json pos.rawData, .ofOption .real pos.fuelLevelPct,
      .ofOption .real pos.backupBatteryV, .ofOption .bool pos.doorOpen]

@[simp] theorem positionArgs_length (pos : Position) : (positionArgs pos).length = 18 := rfl

/-- An argument in the part of the list that belongs to a row. -/
theorem argument_append {pre own post : List Value} {n : Nat} (h : n < own.length) :
    argument (pre ++ (own ++ post)) (pre.length + (n + 1)) = own[n]? := by
  rw [argument, if_neg (by omega), show pre.length + (n + 1) - 1 = pre.length + n by omega,
    List.getElem?_append_right (by omega), Nat.add_sub_cancel_left, List.getElem?_append_left h]

/-- A row whose arguments stand where its placeholders point is the row of its position. -/
theorem insertRow_eval (pre post : List Value) (pos : Position) :
    (insertRow pre.length).mapM (·.eval (pre ++ (positionArgs pos ++ post))) =
      some ((positionRow pos).map Prod.snd) := by
  have harg : ∀ n, n < 18 → argument (pre ++ (positionArgs pos ++ post)) (pre.length + (n + 1)) =
      (positionArgs pos)[n]? := fun n hn => argument_append hn
  simp only [insertRow, List.range, List.range.loop, List.map_cons, List.map_nil, List.cons_append,
    List.nil_append, List.mapM_cons, List.mapM_nil, ColumnExpr.eval, Nat.reduceAdd]
  rw [harg 0 (by omega), harg 1 (by omega), harg 2 (by omega), harg 3 (by omega),
    harg 4 (by omega), harg 5 (by omega), harg 6 (by omega), harg 7 (by omega), harg 8 (by omega),
    harg 9 (by omega), harg 10 (by omega), harg 11 (by omega), harg 12 (by omega),
    harg 13 (by omega), harg 14 (by omega), harg 15 (by omega), harg 16 (by omega),
    harg 17 (by omega)]
  rfl

theorem zip_positionRow (pos : Position) :
    positionColumns.zip ((positionRow pos).map Prod.snd) = positionRow pos := rfl

/-- Row `k + i` of a statement has its arguments behind those of the rows before it. -/
theorem insertRows_eval (pos : List Position) :
    ∀ (k : Nat) (pre post : List Value), pre.length = k * 18 →
      (((List.range pos.length).map fun i => insertRow ((k + i) * 18)).mapM fun row => do
        let values ← row.mapM (·.eval (pre ++ (pos.flatMap positionArgs ++ post)))
        return positionColumns.zip values) = some (pos.map positionRow) := by
  induction pos with
  | nil => exact fun _ _ _ _ => rfl
  | cons p rest ih =>
      intro k pre post hpre
      have hrest := ih (k + 1) (pre ++ positionArgs p) post (by
        rw [List.length_append, hpre, positionArgs_length]
        omega)
      have hrow := insertRow_eval pre (rest.flatMap positionArgs ++ post) p
      have hindex : ∀ i, k + 1 + i = k + (i + 1) := by
        intro i
        omega
      rw [hpre] at hrow
      rw [List.length_cons, List.range_succ_eq_map, List.map_cons, List.map_map, List.mapM_cons,
        List.flatMap_cons, Nat.add_zero, List.append_assoc, hrow]
      simp only [List.append_assoc, hindex] at hrest
      simp only [Function.comp_def, Nat.succ_eq_add_one, Option.bind_eq_bind, Option.bind_some,
        zip_positionRow] at hrest ⊢
      rw [hrest]
      rfl

/-- The statement of a chunk adds the rows of its positions. -/
theorem batchStatement_eval (chunk : List Position) :
    (batchStatement chunk).eval = some (chunk.map positionRow) := by
  have h := insertRows_eval chunk 0 [] [] rfl
  simp only [Nat.zero_add, List.nil_append, List.append_nil] at h
  exact h

/-- The world after a statement that failed. -/
def World.refuse (w : World) : World := { w with statements := w.statements + 1 }

/-- The world after a chunk was stored. -/
def World.store (w : World) (chunk : List Position) : World :=
  { w.refuse with
    db := { w.db with positions := w.db.positions ++ chunk.map positionRow } }

theorem exec_batchStatement (env : Env) (w : World) (chunk : List Position) :
    w.exec env (.insertPositions (batchStatement chunk)) =
      if env.execOk w.statements then (w.store chunk, some chunk.length) else (w.refuse, none) := by
  simp only [World.exec, Database.exec, batchStatement_eval, Option.map_some, List.length_map]
  rfl

theorem insertChunks_cons (env : Env) (chunk : List Position) (rest : List (List Position))
    (inserted : Nat) (w : World) :
    insertChunks env (chunk :: rest) inserted w =
      if env.execOk w.statements then
        insertChunks env rest (inserted + chunk.length) (w.store chunk)
      else (w.refuse, inserted, false) := by
  rw [insertChunks, exec_batchStatement]
  by_cases hok : env.execOk w.statements
  · rw [if_pos hok, if_pos hok]
  · rw [if_neg hok, if_neg hok]

/-- The chunks, put together, are the batch. -/
theorem chunks_flatten (positions : List Position) : (chunks positions).flatten = positions := by
  have htake : ∀ m, ((List.range m).map fun i =>
      (positions.drop (chunkSize * i)).take chunkSize).flatten = positions.take (chunkSize * m) := by
    intro m
    induction m with
    | zero => rfl
    | succ m ih =>
        rw [List.range_succ, List.map_append, List.flatten_append, ih, List.map_singleton,
          List.flatten_singleton, Nat.mul_succ, List.take_add]
  rw [chunks, htake]
  apply List.take_of_length_le
  unfold chunkSize
  omega

/-- What storing a batch leaves of the world as it was. -/
structure OnlyPositions (w w' : World) : Prop where
  devices : w'.db.devices = w.db.devices
  vehicles : w'.db.vehicles = w.db.vehicles
  stats : w'.stats = w.stats
  readings : w'.readings = w.readings
  published : w'.published = w.published
  written : w'.written = w.written

theorem OnlyPositions.trans {w w' w'' : World} (h : OnlyPositions w w')
    (h' : OnlyPositions w' w'') : OnlyPositions w w'' where
  devices := h'.devices.trans h.devices
  vehicles := h'.vehicles.trans h.vehicles
  stats := h'.stats.trans h.stats
  readings := h'.readings.trans h.readings
  published := h'.published.trans h.published
  written := h'.written.trans h.written

/-- The loop stores the chunks in front of the first that fails. -/
theorem insertChunks_spec (env : Env) : ∀ (cs : List (List Position)) (inserted : Nat) (w : World),
    ∃ stored rest, cs = stored ++ rest ∧
      (insertChunks env cs inserted w).2.1 = inserted + stored.flatten.length ∧
      ((insertChunks env cs inserted w).2.2 = true → rest = []) ∧
      (insertChunks env cs inserted w).1.db.positions =
        w.db.positions ++ stored.flatten.map positionRow ∧
      OnlyPositions w (insertChunks env cs inserted w).1 := by
  intro cs
  induction cs with
  | nil => exact fun _ _ => ⟨[], [], rfl, rfl, fun _ => rfl, by simp [insertChunks],
      ⟨rfl, rfl, rfl, rfl, rfl, rfl⟩⟩
  | cons chunk cs ih =>
      intro inserted w
      rw [insertChunks_cons]
      by_cases hok : env.execOk w.statements
      · obtain ⟨stored, rest, hsplit, hcount, herr, hrows, honly⟩ :=
          ih (inserted + chunk.length) (w.store chunk)
        rw [if_pos hok]
        refine ⟨chunk :: stored, rest, ?_, ?_, herr, ?_, ?_⟩
        · rw [hsplit, List.cons_append]
        · rw [hcount, List.flatten_cons, List.length_append, Nat.add_assoc]
        · rw [hrows, World.store, List.flatten_cons, List.map_append, List.append_assoc]
        · have hstore : OnlyPositions w (w.store chunk) := ⟨rfl, rfl, rfl, rfl, rfl, rfl⟩
          exact hstore.trans honly
      · rw [if_neg hok]
        refine ⟨[], chunk :: cs, rfl, rfl, nofun, ?_, ⟨rfl, rfl, rfl, rfl, rfl, rfl⟩⟩
        rw [List.flatten_nil, List.map_nil, List.append_nil]
        rfl

/-- An empty batch has no chunks. -/
theorem insertBatch_eq (env : Env) (positions : List Position) (w : World) :
    insertBatch env positions w = insertChunks env (chunks positions) 0 w := by
  unfold insertBatch
  by_cases hempty : positions.length = 0
  · obtain rfl := List.eq_nil_of_length_eq_zero hempty
    rfl
  · rw [if_neg hempty]

/-- **A batch is stored up to some point, and that is the number that is returned.** -/
theorem insertBatch_spec (env : Env) (positions : List Position) (w : World) :
    ∃ k ≤ positions.length, (insertBatch env positions w).2.1 = k ∧
      ((insertBatch env positions w).2.2 = true → k = positions.length) ∧
      (insertBatch env positions w).1.db.positions =
        w.db.positions ++ (positions.take k).map positionRow ∧
      OnlyPositions w (insertBatch env positions w).1 := by
  rw [insertBatch_eq]
  obtain ⟨stored, rest, hsplit, hcount, herr, hrows, honly⟩ :=
    insertChunks_spec env (chunks positions) 0 w
  have hflat : positions = stored.flatten ++ rest.flatten := by
    rw [← List.flatten_append, ← hsplit, chunks_flatten]
  have htake : positions.take stored.flatten.length = stored.flatten := by
    rw [hflat, List.take_left]
  refine ⟨stored.flatten.length, ?_, by rw [hcount, Nat.zero_add], ?_,
    by rw [htake]; exact hrows, honly⟩
  · rw [hflat, List.length_append]
    exact Nat.le_add_right _ _
  · intro hok
    rw [hflat, herr hok, List.flatten_nil, List.append_nil]

/-- If no statement fails, the whole batch is stored. -/
theorem insertBatch_whole {env : Env} (hok : ∀ n, env.execOk n = true) (positions : List Position)
    (w : World) : (insertBatch env positions w).2 = (positions.length, true) := by
  have hchunks : ∀ (cs : List (List Position)) (inserted : Nat) (w : World),
      (insertChunks env cs inserted w).2 = (inserted + cs.flatten.length, true) := by
    intro cs
    induction cs with
    | nil => exact fun _ _ => rfl
    | cons chunk cs ih =>
        intro inserted w
        rw [insertChunks_cons, if_pos (hok _), ih, List.flatten_cons, List.length_append,
          Nat.add_assoc]
  rw [insertBatch_eq, hchunks, chunks_flatten, Nat.zero_add]

end RudraNetra
