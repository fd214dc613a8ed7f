/-
The acknowledgement tells how much was stored.

Only two things that `handleAVLFrame` does touch the table of positions or the socket:
storing the batch, and the answer at the end.  The batch is stored up to some point,
and the number of stored rows is what is answered, in four bytes that hold it because
a frame has at most 255 records.
-/
import RudraNetra.Ingest.Handler
import RudraNetra.Proofs.Payload
import RudraNetra.Proofs.Totality

namespace RudraNetra

open Wire Go

/-- The stored positions and what was written to the socket are the same. -/
def SameRows (w w' : World) : Prop :=
  w'.db.positions = w.db.positions ∧ w'.written = w.written

theorem SameRows.refl (w : World) : SameRows w w := ⟨rfl, rfl⟩

theorem SameRows.trans {w w' w'' : World} (h : SameRows w w') (h' : SameRows w' w'') :
    SameRows w w'' :=
  ⟨h'.1.trans h.1, h'.2.trans h.2⟩

/-- Statements on other tables leave the positions alone. -/
theorem exec_sameRows (env : Env) (w : World) (stmt : Statement)
    (h : ∀ rows, stmt ≠ .insertPositions rows) : SameRows w (w.exec env stmt).1 := by
  unfold World.exec
  by_cases hok : env.execOk w.statements
  · rw [if_pos hok]
    obtain rows | _ | _ := stmt
    · exact absurd rfl (h rows)
    · exact ⟨rfl, rfl⟩
    · exact ⟨rfl, rfl⟩
  · rw [if_neg hok]
    exact ⟨rfl, rfl⟩

theorem publishPosition_sameRows (env : Env) (redis : Bool) (sess : DeviceSession)
    (pos : Position) (w : World) : SameRows w (publishPosition env redis sess pos w) := by
  obtain _ | _ := redis
  · exact ⟨rfl, rfl⟩
  · exact ⟨rfl, rfl⟩

theorem goLive_sameRows (env : Env) (redis : Bool) (sess : DeviceSession) (w : World)
    (pos : Position) : SameRows w (goLive env redis sess w pos) := by
  unfold goLive
  by_cases hodo : pos.odometer > 0
  · rw [if_pos hodo]
    exact (exec_sameRows env w (.raiseOdometer _ _) nofun).trans
      (publishPosition_sameRows env redis sess pos _)
  · rw [if_neg hodo]
    exact publishPosition_sameRows env redis sess pos w

theorem foldl_goLive_sameRows (env : Env) (redis : Bool) (sess : DeviceSession)
    (positions : List Position) :
    ∀ w, SameRows w (positions.foldl (goLive env redis sess) w) := by
  induction positions with
  | nil => exact SameRows.refl
  | cons pos rest ih =>
      intro w
      exact (goLive_sameRows env redis sess w pos).trans (ih _)

/-- A position as it is stored: with the current time if it has none. -/
def Normalised (pos stored : Position) : Prop :=
  if pos.time = zeroTime then ∃ now, stored = { pos with time := now } else stored = pos

theorem normalise_spec (clock : Nat → Int) (positions : List Position) :
    ∀ readings, List.Forall₂ Normalised positions (normalise clock positions readings).1 := by
  induction positions with
  | nil => exact fun _ => .nil
  | cons pos rest ih =>
      intro readings
      rw [normalise]
      by_cases htime : pos.time = zeroTime
      · rw [if_pos htime]
        refine .cons ?_ (ih _)
        rw [Normalised, if_pos htime]
        exact ⟨_, rfl⟩
      · rw [if_neg htime]
        refine .cons ?_ (ih _)
        rw [Normalised, if_neg htime]

/-- A frame holds at most 255 records. -/
theorem parseFrame_length_le {payload : List UInt8} {deviceID : Int} {ps : List Position}
    (h : parseFrame payload deviceID = .returns ps none) : ps.length ≤ 255 := by
  obtain ⟨extended, data, rfl, hne⟩ := parseFrame_returns_codecOf h
  rw [parseFrame_codecOf extended data deviceID hne] at h
  obtain ⟨as, -, hle, -, -, rfl⟩ := parseRecords_eq_returns.mp h
  rw [List.length_map]
  exact hle

/-- Only the batch stores positions, and only the answer to it is written. -/
theorem handleAVLFrame_of_batch (env : Env) (redis : Bool) (sess : DeviceSession)
    {payload : List UInt8} {ps qs : List Position} {w w₂ : World} {readings stored : Nat} {ok : Bool}
    (h : parseFrame payload sess.deviceID = .returns ps none)
    (hn : normalise env.timeNow ps w.readings = (qs, readings))
    (hb : insertBatch env qs { w with readings := readings } = (w₂, stored, ok))
    (hwritten : w₂.written = w.written) :
    ∃ w' sent, handleAVLFrame env redis sess payload w = some w' ∧
      w'.written = w.written ++ [(acknowledge stored, sent)] ∧
      w'.db.positions = w₂.db.positions := by
  -- going live and the heartbeat come between the batch and the answer
  have hlive : ∀ w₃ : World, SameRows w₃ ((if stored > 0 then
      qs.foldl (goLive env redis sess) w₃ else w₃).exec env (.heartbeat sess.deviceID)).1 := by
    intro w₃
    refine SameRows.trans ?_ (exec_sameRows env _ (.heartbeat _) nofun)
    by_cases hpos : stored > 0
    · rw [if_pos hpos]
      exact foldl_goLive_sameRows env redis sess qs w₃
    · rw [if_neg hpos]
      exact SameRows.refl w₃
  rw [handleAVLFrame, h]
  dsimp only
  rw [hn]
  dsimp only
  rw [hb]
  refine ⟨_, env.writeOk w.written.length, rfl, ?_, ?_⟩
  · rw [World.write]
    dsimp only
    rw [(hlive _).2]
    dsimp only
    rw [hwritten]
  · rw [World.write]
    dsimp only
    rw [(hlive _).1]

/-- What handling a frame that decodes stores and answers. -/
theorem handleAVLFrame_of_returns (env : Env) (redis : Bool) (sess : DeviceSession)
    {payload : List UInt8} {ps : List Position}
    (h : parseFrame payload sess.deviceID = .returns ps none) (w : World) :
    ∃ w', handleAVLFrame env redis sess payload w = some w' ∧
      ∃ qs k ok, List.Forall₂ Normalised ps qs ∧ k ≤ ps.length ∧
        w'.written = w.written ++ [(acknowledge k, ok)] ∧
        w'.db.positions = w.db.positions ++ (qs.take k).map positionRow := by
  have hqs := normalise_spec env.timeNow ps w.readings
  rcases hn : normalise env.timeNow ps w.readings with ⟨qs, readings⟩
  rw [hn] at hqs
  obtain ⟨k, hk, hcount, -, hrows, honly⟩ := insertBatch_spec env qs { w with readings := readings }
  rcases hb : insertBatch env qs { w with readings := readings } with ⟨w₂, stored, ok⟩
  rw [hb] at hcount hrows honly
  obtain rfl : stored = k := hcount
  obtain ⟨w', sent, hw', hwritten, hpositions⟩ :=
    handleAVLFrame_of_batch env redis sess h hn hb honly.written
  refine ⟨w', hw', qs, stored, sent, hqs, ?_, hwritten, hpositions.trans hrows⟩
  rw [hqs.length_eq]
  exact hk

/-- **The acknowledgement is the number of records that were stored.**  A frame that does not
decode stores nothing and is not answered; any other is answered once, in four bytes, and the rows
it added are those of its first records, as many as the answer says. -/
theorem handleAVLFrame_acknowledges (env : Env) (redis : Bool) (sess : DeviceSession)
    (payload : List UInt8) (w : World) :
    ∃ w', handleAVLFrame env redis sess payload w = some w' ∧
      ((∃ ps e, parseFrame payload sess.deviceID = .returns ps (some e) ∧
          w'.db.positions = w.db.positions ∧ w'.written = w.written) ∨
        ∃ ps qs k ack ok, parseFrame payload sess.deviceID = .returns ps none ∧
          List.Forall₂ Normalised ps qs ∧ k ≤ ps.length ∧ ack.length = 4 ∧ beNat ack = k ∧
          w'.written = w.written ++ [(ack, ok)] ∧
          w'.db.positions = w.db.positions ++ (qs.take k).map positionRow ∧
          (k = ps.length → w'.db.positions = w.db.positions ++ qs.map positionRow)) := by
  rcases h : parseFrame payload sess.deviceID with ⟨ps, _ | e⟩ | _
  · obtain ⟨w', hw', qs, k, ok, hqs, hk, hwritten, hrows⟩ :=
      handleAVLFrame_of_returns env redis sess h w
    have hle := parseFrame_length_le h
    refine ⟨w', hw', .inr ⟨ps, qs, k, acknowledge k, ok, rfl, hqs, hk, beBytes_length 4 k, ?_,
      hwritten, hrows, ?_⟩⟩
    · exact beNat_beBytes_of_lt (by omega)
    · intro hall
      rw [hrows, hall, hqs.length_eq, List.take_length]
  · refine ⟨{ w with stats := { w.stats with parseErrors := w.stats.parseErrors + 1 } }, ?_,
      .inl ⟨ps, e, rfl, rfl, rfl⟩⟩
    rw [handleAVLFrame, h]
  · exact absurd h (parseFrame_ne_panics payload sess.deviceID)

end RudraNetra
