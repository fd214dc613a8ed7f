/-
The steps on a connection are those of `handleAVLFrame`.

Whatever statements fail while a frame is handled, there are steps of the connection
that store the same rows and write the same answer (`run_handleAVLFrame`).  What holds
of all runs of the machine therefore holds of the handlers, in any interleaving of
their statements.
-/
import RudraNetra.Ingest.Delivery
import RudraNetra.Proofs.Acknowledge

namespace RudraNetra

section

variable {Frame : Type} [DecidableEq Frame] {deviceID : Int} {report : Frame → Report deviceID}
  {init : Shared Frame}

/-! ### Steps of the handler -/

theorem exec_chunk (outcome : Option Int) (db : Database) (chunk : List Position) :
    (outcome.bind fun now => db.exec now (.insertPositions (batchStatement chunk))) =
      if outcome.isSome then
        some ({ db with positions := db.positions ++ chunk.map positionRow }, chunk.length)
      else none := by
  obtain _ | now := outcome
  · rfl
  · simp only [Option.bind_some, Database.exec, batchStatement_eval, Option.map_some,
      List.length_map, Option.isSome_some, if_true]

variable {l : Link Frame} {sh : Shared Frame}

variable (report init sh) in
theorem connection_take (halive : l.alive = true) (hidle : l.handling = none) {frame : Frame}
    {rest : List Frame} (hflight : l.inflight = frame :: rest) (clock : Nat → Int) :
    ((connection report).alone init).step (l, sh) (.take clock) =
      let positions := (normalise clock (report frame).positions 0).1
      some ({ l with inflight := rest }.busy ⟨frame, positions, 0⟩ (chunks positions), sh) := by
  show l.step report sh (.take clock) = _
  rw [Link.step]
  simp only [halive, hidle, hflight, (report frame).decodes]

variable (report init l sh) in
theorem connection_chunk (a : Attempt Frame) (chunk : List Position) (rest : List (List Position))
    (outcome : Option Int) :
    ((connection report).alone init).step (l.busy a (chunk :: rest), sh) (.chunk outcome) =
      if outcome.isSome then
        some (l.busy { a with stored := a.stored + chunk.length } rest,
          { sh with db := { sh.db with positions := sh.db.positions ++ chunk.map positionRow } })
      else some (l.busy a [], sh) := by
  show (l.busy a (chunk :: rest)).step report sh (.chunk outcome) = _
  rw [Link.step, Link.busy]
  simp only [exec_chunk]
  by_cases hok : outcome.isSome
  · simp only [hok, if_true]
    rfl
  · simp only [hok]
    rfl

variable (report init l sh) in
theorem connection_answer (a : Attempt Frame) (ok : Bool) :
    ((connection report).alone init).step (l.busy a [], sh) (.answer ok) =
      some (l.answered a ok, sh) := rfl

variable (report init) in
/-- Chunks that are all stored. -/
theorem run_stored (l : Link Frame) (rest : List (List Position)) :
    ∀ (cs : List (List Position)) (a : Attempt Frame) (sh : Shared Frame),
      ((connection report).alone init).run (l.busy a (cs ++ rest), sh)
          (cs.map fun _ => .chunk (some 0)) =
        some (l.busy { a with stored := a.stored + cs.flatten.length } rest,
          { sh with db :=
            { sh.db with positions := sh.db.positions ++ cs.flatten.map positionRow } }) := by
  intro cs
  induction cs with
  | nil =>
      intro a sh
      simp [Machine.run]
  | cons chunk cs ih =>
      intro a sh
      rw [List.map_cons, List.cons_append,
        Machine.run_cons (connection_chunk report init l sh a chunk (cs ++ rest) (some 0)), ih]
      simp only [List.flatten_cons, List.length_append, List.map_append, Nat.add_assoc,
        List.append_assoc]

/-- The handler's clock, read from some reading on. -/
theorem normalise_shift (clock : Nat → Int) (base : Nat) (positions : List Position) :
    ∀ readings, (normalise (fun n => clock (base + n)) positions readings).1 =
      (normalise clock positions (base + readings)).1 := by
  induction positions with
  | nil => exact fun _ => rfl
  | cons pos rest ih =>
      intro readings
      rw [normalise, normalise]
      by_cases htime : pos.time = zeroTime
      · rw [if_pos htime, if_pos htime]
        show _ :: (normalise _ rest (readings + 1)).1 =
          _ :: (normalise _ rest (base + readings + 1)).1
        rw [ih, Nat.add_assoc]
      · rw [if_neg htime, if_neg htime]
        show _ :: (normalise _ rest readings).1 = _ :: (normalise _ rest (base + readings)).1
        rw [ih]

variable (report init l) in
/-- The chunks that `InsertBatch` sends, as steps: those that are stored, and the one that fails. -/
theorem run_insertChunks (env : Env) (cs : List (List Position)) (a : Attempt Frame) (w : World)
    (hpositions : sh.db.positions = w.db.positions) :
    ∃ events sh', ((connection report).alone init).run (l.busy a cs, sh) events =
        some (l.busy { a with stored := (insertChunks env cs a.stored w).2.1 } [], sh') ∧
      sh'.db.positions = (insertChunks env cs a.stored w).1.db.positions := by
  obtain ⟨stored, rest, rfl, hcount, -, hrows, -⟩ := insertChunks_spec env cs a.stored w
  have hrun := run_stored report init l rest stored a sh
  rw [hcount, hrows, ← hpositions]
  obtain _ | ⟨chunk, rest⟩ := rest
  · exact ⟨_, _, hrun, rfl⟩
  · have hfail := connection_chunk report init l
      { sh with db := { sh.db with positions := sh.db.positions ++ stored.flatten.map positionRow } }
      { a with stored := a.stored + stored.flatten.length } chunk rest none
    exact ⟨_, _, (Machine.run_append hrun).trans (Machine.run_singleton hfail), rfl⟩

/-- **The handler's steps store the same rows as `handleAVLFrame` and write the same answer.** -/
theorem run_handleAVLFrame (env : Env) (redis : Bool) (sess : DeviceSession)
    (hsess : sess.deviceID = deviceID) {w w' : World} {frame : Frame} {rest : List Frame}
    (halive : l.alive = true) (hidle : l.handling = none) (hflight : l.inflight = frame :: rest)
    (hpositions : sh.db.positions = w.db.positions)
    (h : handleAVLFrame env redis sess (report frame).payload w = some w') :
    ∃ events l' sh' a sent, ((connection report).alone init).run (l, sh) events = some (l', sh') ∧
      sh'.db.positions = w'.db.positions ∧
      l'.finished = l.finished ++ [a] ∧ a.frame = frame ∧
      w'.written = w.written ++ [(acknowledge a.stored, sent)] ∧
      (l.writable → l'.answers = l.answers ++ if sent then [(a, acknowledge a.stored)] else []) := by
  have hparse : parseFrame (report frame).payload sess.deviceID =
      .returns (report frame).positions none := by
    rw [hsess]
    exact (report frame).decodes
  rcases hn : normalise env.timeNow (report frame).positions w.readings with ⟨qs, readings⟩
  rcases hb : insertBatch env qs { w with readings := readings } with ⟨w₂, stored, ok⟩
  obtain ⟨-, -, -, -, -, honly⟩ := insertBatch_spec env qs { w with readings := readings }
  rw [hb] at honly
  obtain ⟨w'', sent, hw'', hwritten, hrows⟩ :=
    handleAVLFrame_of_batch env redis sess hparse hn hb honly.written
  obtain rfl : w'' = w' := Option.some.inj (hw''.symm.trans h)
  -- take the frame, send the chunks, write the answer
  have hqs : (normalise (fun n => env.timeNow (w.readings + n))
      (report frame).positions 0).1 = qs := by
    rw [normalise_shift, Nat.add_zero, hn]
  have htake := connection_take report init sh halive hidle hflight
    fun n => env.timeNow (w.readings + n)
  rw [hqs] at htake
  obtain ⟨events, sh', hchunks, hdb⟩ := run_insertChunks report init { l with inflight := rest } env
    (chunks qs) ⟨frame, qs, 0⟩ { w with readings := readings } hpositions
  rw [← insertBatch_eq, hb] at hchunks hdb
  have hanswer := connection_answer report init { l with inflight := rest } sh'
    ⟨frame, qs, stored⟩ sent
  have hrun := (Machine.run_cons htake).trans
    ((Machine.run_append hchunks).trans (Machine.run_singleton hanswer))
  refine ⟨_, _, sh', ⟨frame, qs, stored⟩, sent, hrun, hdb.trans hrows.symm, rfl, rfl, hwritten, ?_⟩
  intro hwritable
  simp only [Link.answered, hwritable, Bool.true_and]
  by_cases hsent : sent = true
  · rw [if_pos hsent, if_pos hsent]
  · rw [if_neg hsent, if_neg hsent, List.append_nil]

/-- The steps of a handling in which nothing fails. -/
def handled (positions : List Position) : List (LinkEvent Frame) :=
  .take (fun _ => 0) :: ((chunks positions).map (fun _ => .chunk (some 0)) ++ [.answer true])

variable (report init sh) in
theorem run_handled (halive : l.alive = true) (hidle : l.handling = none) {frame : Frame}
    {rest : List Frame} (hflight : l.inflight = frame :: rest) :
    let qs := (normalise (fun _ => 0) (report frame).positions 0).1
    ((connection report).alone init).run (l, sh) (handled qs) =
      some ({ l with inflight := rest }.answered ⟨frame, qs, qs.length⟩ true,
        { sh with db := { sh.db with positions := sh.db.positions ++ qs.map positionRow } }) := by
  intro qs
  have hchunks := run_stored report init { l with inflight := rest } [] (chunks qs)
    ⟨frame, qs, 0⟩ sh
  rw [List.append_nil, chunks_flatten, Nat.zero_add] at hchunks
  have htake := connection_take report init sh halive hidle hflight fun _ => 0
  have hanswer := connection_answer report init { l with inflight := rest }
  exact (Machine.run_cons htake).trans
    ((Machine.run_append hchunks).trans (Machine.run_singleton (hanswer _ _ _)))

end

end RudraNetra
