/-
What a connection does with what it reads.

Every frame that the framer takes has a payload, and no handler panics, so a connection
is handled to its end whatever comes in.  However its reads are cut, it hands the frames
of the byte string behind the handshake to the dispatcher, one after the other
(`handleDeviceConnection_cases`).
-/
import RudraNetra.Ingest.Connection
import RudraNetra.Proofs.Acknowledge
import RudraNetra.Proofs.Framing

namespace RudraNetra

open Go Scan

/-! ### Handlers -/

/-- A frame that decodes is answered, and rows are only added; any other is counted. -/
theorem handleAVLFrame_cases (env : Env) (redis : Bool) (sess : DeviceSession)
    (payload : List UInt8) (w : World) :
    ∃ w', handleAVLFrame env redis sess payload w = some w' ∧ w.db.positions <+: w'.db.positions ∧
      ((∃ ps k ok, parseFrame payload sess.deviceID = .returns ps none ∧
          w'.written = w.written ++ [(acknowledge k, ok)]) ∨
        (∀ ps, parseFrame payload sess.deviceID ≠ .returns ps none) ∧
          w' = { w with stats := { w.stats with parseErrors := w.stats.parseErrors + 1 } }) := by
  rcases h : parseFrame payload sess.deviceID with ⟨ps, _ | e⟩ | _
  · obtain ⟨w', hw', qs, k, ok, -, -, hwritten, hrows⟩ :=
      handleAVLFrame_of_returns env redis sess h w
    exact ⟨w', hw', ⟨_, hrows.symm⟩, .inl ⟨ps, k, ok, rfl, hwritten⟩⟩
  · refine ⟨{ w with stats := { w.stats with parseErrors := w.stats.parseErrors + 1 } }, ?_,
      List.prefix_rfl, .inr ⟨fun _ => ?_, rfl⟩⟩
    · rw [handleAVLFrame, h]
    · simp
  · exact absurd h (parseFrame_ne_panics payload sess.deviceID)

theorem handleCommandResponse_db (env : ConnEnv) (payload : List UInt8) (w : ConnWorld) :
    (handleCommandResponse env payload w).db = w.db := by
  unfold handleCommandResponse
  split
  · rfl
  · dsimp only
    split_ifs
    · rfl
    · rfl

@[simp] theorem ConnWorld.count_toWorld (frame : Frame) (w : ConnWorld) :
    (w.count frame).toWorld = w.toWorld := rfl

@[simp] theorem ConnWorld.count_commandID (env : ConnEnv) (frame : Frame) (w : ConnWorld) :
    (w.count frame).commandID env = w.commandID env := rfl

/-- A frame with a payload is dispatched, and rows are only added. -/
theorem dispatch_total (env : ConnEnv) (redis : Bool) (sess : DeviceSession) {frame : Frame}
    (hne : frame.payload ≠ []) (w : ConnWorld) : ∃ w', dispatch env redis sess w frame = some w' := by
  unfold dispatch
  cases hpayload : frame.payload with
  | nil => exact absurd hpayload hne
  | cons id rest =>
      dsimp only
      split_ifs
      · exact ⟨_, rfl⟩
      · obtain ⟨w', hw', -⟩ := handleAVLFrame_cases env.toEnv redis sess (id :: rest)
          (w.count frame).toWorld
        rw [hw']
        exact ⟨_, rfl⟩
      · exact ⟨_, rfl⟩

theorem dispatch_positions {env : ConnEnv} {redis : Bool} {sess : DeviceSession} {frame : Frame}
    {w w' : ConnWorld} (h : dispatch env redis sess w frame = some w') :
    w.db.positions <+: w'.db.positions := by
  unfold dispatch at h
  cases hpayload : frame.payload with
  | nil =>
      rw [hpayload] at h
      cases h
  | cons id rest =>
      rw [hpayload] at h
      dsimp only at h
      split_ifs at h
      · obtain rfl := Option.some.inj h
        rw [handleCommandResponse_db]
        exact List.prefix_rfl
      · obtain ⟨w₁, hw₁, hgrows, -⟩ := handleAVLFrame_cases env.toEnv redis sess (id :: rest)
          (w.count frame).toWorld
        rw [hw₁] at h
        obtain rfl := Option.some.inj h
        exact hgrows
      · obtain rfl := Option.some.inj h
        exact List.prefix_rfl

/-! ### Frames -/

theorem look_eq_emit {buf rest : List UInt8} {frame : Frame} (h : look buf = .emit frame rest) :
    ∃ idx, frame = frameOf (buf.drop idx) ∧ rest = (buf.drop idx).drop (totalOf (buf.drop idx)) ∧
      GoodLength (buf.drop idx) ∧ totalOf (buf.drop idx) ≤ (buf.drop idx).length := by
  rcases look_cases buf with ⟨-, hl⟩ | ⟨idx, -, hl⟩
  · rw [hl] at h
    cases h
  · rw [hl] at h
    obtain ⟨hframe, hrest, hgood, hle, -⟩ := aligned_eq_emit h
    exact ⟨idx, hframe, hrest, hgood, hle⟩

theorem look_emit_payload {buf rest : List UInt8} {frame : Frame}
    (h : look buf = .emit frame rest) : frame.payload ≠ [] := by
  obtain ⟨idx, rfl, -, hgood, hle⟩ := look_eq_emit h
  have hpos := hgood.pos
  refine List.ne_nil_of_length_pos ?_
  simp only [frameOf, totalOf, List.length_take, List.length_drop] at hle ⊢
  omega

/-- The frames of a byte string. -/
def framesOf (s : List UInt8) : List Frame := (StreamFramer.new.read [s]).outs

theorem read_outs (chunks : List (List UInt8)) :
    (StreamFramer.new.read chunks).outs = framesOf chunks.flatten := by
  have hcut := Scanner.feed_drain framer_stable look_nil
  rw [framesOf, StreamFramer.read_eq_feed, StreamFramer.read_eq_feed]
  refine (hcut chunks).1.trans ((hcut [chunks.flatten]).1.trans ?_).symm
  rw [List.flatten_singleton]

theorem framesOf_eq_taken {s fin : List UInt8} {evs : List (FrameError ⊕ Frame)}
    (h : framer.Scans s evs fin) : framesOf s = Scanner.taken evs := by
  have hdrain := (Scanner.drain_follows h).outs
  rw [framesOf, StreamFramer.read, StreamFramer.read]
  simpa [Drained.then, StreamFramer.drain, StreamFramer.append, StreamFramer.new] using hdrain

theorem framesOf_payload (s : List UInt8) : ∀ frame ∈ framesOf s, frame.payload ≠ [] := by
  obtain ⟨evs, fin, hrun⟩ := framer.scans_exists s
  rw [framesOf_eq_taken hrun]
  exact hrun.forall_taken fun _ _ _ => look_emit_payload

/-- A frame has thirteen bytes at least. -/
theorem framesOf_length_le (s : List UInt8) : 13 * (framesOf s).length ≤ s.length := by
  obtain ⟨evs, fin, hrun⟩ := framer.scans_exists s
  rw [framesOf_eq_taken hrun]
  refine hrun.taken_le fun buf frame rest h => ?_
  obtain ⟨idx, -, rfl, hgood, hle⟩ := look_eq_emit h
  have hpos := hgood.pos
  simp only [totalOf, framePreambleSize, frameLengthSize, frameCRCSize, List.length_drop] at hle ⊢
  omega

/-! ### The loop over the reads -/

/-- The loop is a run over the frames that the framer takes. -/
theorem readLoop_eq (env : ConnEnv) (redis : Bool) (sess : DeviceSession)
    (chunks : List (List UInt8)) : ∀ (framer' : StreamFramer) (w : ConnWorld),
      framer.step framer'.buf = .wait framer'.buf →
      readLoop env redis sess chunks framer' w =
        Trace.run (dispatch env redis sess) (framer'.read chunks).outs w := by
  induction chunks with
  | nil => exact fun _ _ _ => rfl
  | cons chunk rest ih =>
      intro framer' w hquiet
      rw [readLoop, StreamFramer.read]
      by_cases hempty : chunk = []
      · -- nothing is appended to a buffer in which there is no frame
        subst hempty
        have hdrain := Scanner.drain_follows (Scanner.Scans.wait hquiet)
        rw [if_pos rfl, ih framer' w hquiet]
        simp only [StreamFramer.append, List.append_nil, StreamFramer.drain, Drained.then,
          hdrain.outs, hdrain.buf]
        rfl
      · obtain ⟨evs, fin, hrun⟩ := framer.scans_exists (framer'.append chunk).buf
        have hdrain := Scanner.drain_follows hrun
        rw [if_neg hempty, Drained.then, Trace.run_append]
        dsimp only
        cases Trace.run (dispatch env redis sess) (framer'.append chunk).drain.outs w with
        | none => rfl
        | some r =>
            obtain ⟨es, w₁⟩ := r
            have hquiet' : framer.step (framer'.append chunk).drain.buf =
                .wait (framer'.append chunk).drain.buf := by
              rw [StreamFramer.drain, hdrain.buf]
              exact hrun.final framer_stable
            simp only [Option.bind_eq_bind, Option.bind_some, ih ⟨_⟩ w₁ hquiet']
            cases Trace.run (dispatch env redis sess)
              ((StreamFramer.mk (framer'.append chunk).drain.buf).read rest).outs w₁ with
            | none => rfl
            | some r' => rfl

/-! ### The whole connection -/

/-- How a connection goes that is not accepted. -/
def ConnRun.Rejected (r : ConnRun) (w : ConnWorld) : Prop :=
  r.session = none ∧ r.handled = [] ∧ r.world.db.positions = w.db.positions

/-- How one goes that is accepted for a device. -/
structure ConnRun.Served (r : ConnRun) (env : ConnEnv) (redis : Bool) (sess : DeviceSession)
    (s : List UInt8) (w : ConnWorld) : Prop where
  session : r.session = some sess
  /-- If the device cannot be told so, the connection ends. -/
  handled : r.handled.map (·.input) = if env.writeOk w.written.length then framesOf s else []
  steps : ∀ e ∈ r.handled, dispatch env redis sess e.before e.input = some e.after
  positions : r.world.db.positions = w.db.positions ++
    r.handled.flatMap fun e => e.after.db.positions.drop e.before.db.positions.length

/-- **A connection is handled to its end**, and it is accepted exactly if the first read is a
handshake packet of a device that is known. -/
theorem handleDeviceConnection_cases (env : ConnEnv) (redis : Bool)
    (answer : List UInt8 → Option DeviceAnswer) (reads : List (List UInt8)) (w : ConnWorld) :
    ∃ r, handleDeviceConnection env redis answer reads w = some r ∧
      ((r.Rejected w ∧ ∀ packet rest imei, reads = packet :: rest → parseIMEI packet = .ok imei →
          answer imei = none) ∨
        ∃ packet rest imei d, reads = packet :: rest ∧ parseIMEI packet = .ok imei ∧
          answer imei = some d ∧
          r.Served env redis ⟨imei, d.deviceID, d.companyID, d.regNumber⟩ rest.flatten w) := by
  unfold handleDeviceConnection
  obtain _ | ⟨packet, rest⟩ := reads
  · exact ⟨⟨none, [], w⟩, rfl, .inl ⟨⟨rfl, rfl, rfl⟩,
      fun _ _ _ h => absurd h (List.cons_ne_nil _ _).symm⟩⟩
  · rcases himei : parseIMEI packet with (e | _) | imei
    · refine ⟨⟨none, [], w.write env imeiReject⟩, by simp only [himei],
        .inl ⟨⟨rfl, rfl, rfl⟩, ?_⟩⟩
      intro _ _ imei h himei'
      obtain ⟨rfl, -⟩ := List.cons.inj h
      rw [himei] at himei'
      cases himei'
    · exact absurd himei (parseIMEI_noPanic packet)
    · cases hanswer : answer imei with
      | none =>
          refine ⟨⟨none, [], w.write env imeiReject⟩, by simp only [himei, hanswer],
            .inl ⟨⟨rfl, rfl, rfl⟩, ?_⟩⟩
          intro _ _ imei' h himei'
          obtain ⟨rfl, -⟩ := List.cons.inj h
          rw [himei] at himei'
          obtain rfl := Except.ok.inj himei'
          exact hanswer
      | some d =>
          by_cases hok : env.writeOk w.written.length
          · simp only [himei, hanswer, if_pos hok]
            rw [readLoop_eq env redis _ rest .new _ look_nil, read_outs]
            obtain ⟨⟨es, t⟩, hrun⟩ := Trace.run_total
              (fun frame hframe => dispatch_total env redis
                ⟨imei, d.deviceID, d.companyID, d.regNumber⟩
                (framesOf_payload rest.flatten frame hframe)) _
            rw [hrun]
            refine ⟨⟨_, es, t⟩, rfl, .inr ⟨packet, rest, imei, d, rfl, himei, hanswer, rfl, ?_,
              Trace.run_steps hrun, ?_⟩⟩
            · rw [if_pos hok]
              exact Trace.run_inputs hrun
            · have hsame := exec_sameRows env.toEnv (w.write env imeiAccept).toWorld
                (.heartbeat d.deviceID) nofun
              rw [Trace.run_grows (g := fun w : ConnWorld => w.db.positions)
                (fun _ _ _ hstep => dispatch_positions hstep) hrun]
              dsimp only
              rw [hsame.1]
              rfl
          · simp only [himei, hanswer, if_neg hok]
            refine ⟨⟨_, [], _⟩, rfl, .inr ⟨packet, rest, imei, d, rfl, himei, hanswer, rfl, ?_, ?_, ?_⟩⟩
            · rw [if_neg hok]
              rfl
            · exact fun _ he => absurd he List.not_mem_nil
            · exact (List.append_nil _).symm

/-! ### Responses, step by step -/

section

variable {Conn : Type} [DecidableEq Conn] (conn : Conn)

/-- The steps of the responder that handle a payload at time `now`. -/
def responseSteps (env : ConnEnv) (now : Int) (payload : List UInt8) (w : ConnWorld) :
    List (CommandEvent Conn) :=
  match responseText payload with
  | none => [.receive conn]
  | some _ =>
    if w.commandID env > 0 then [.receive conn, .load conn, .record conn now, .clear conn]
    else [.receive conn, .load conn]

variable {conn} {s : CommandState Conn}

theorem step_receive {up : Uplink} {upstream : List Uplink} {text : List UInt8}
    (hwaiting : (s.link conn).responder = .waiting) (hup : (s.link conn).upstream = up :: upstream)
    (htext : responseText up.payload = some text) :
    ∃ s', (commands Conn).step s (.receive conn) = some s' ∧
      s'.link conn = { s.link conn with
        upstream := upstream, responder := .received text up.answers } ∧
      s'.rows = s.rows := by
  refine ⟨s.setLink conn { s.link conn with
    upstream := upstream, responder := .received text up.answers }, ?_, by simp, rfl⟩
  simp [commands, CommandState.step, hwaiting, hup, htext]

theorem step_load {text : List UInt8} {answers : Option Int}
    (h : (s.link conn).responder = .received text answers) :
    ∃ s', (commands Conn).step s (.load conn) = some s' ∧
      s'.link conn = { s.link conn with
        responder := if (s.link conn).lastCommand > 0 then
          .loaded text answers (s.link conn).lastCommand else .waiting } ∧
      s'.rows = s.rows := by
  refine ⟨s.setLink conn { s.link conn with
    responder := if (s.link conn).lastCommand > 0 then
      .loaded text answers (s.link conn).lastCommand else .waiting }, ?_, by simp, rfl⟩
  simp [commands, CommandState.step, h]

theorem step_record {text : List UInt8} {answers : Option Int} {commandID : Int} (now : Int)
    (h : (s.link conn).responder = .loaded text answers commandID) :
    ∃ s', (commands Conn).step s (.record conn now) = some s' ∧
      s'.link conn = { s.link conn with responder := .recorded } ∧
      s'.rows = markAcknowledged now text commandID s.rows := by
  refine ⟨{ s.setLink conn { s.link conn with responder := .recorded } with
    rows := markAcknowledged now text commandID s.rows
    recorded := s.recorded ++ [⟨answers, commandID, text⟩] }, ?_, by simp, rfl⟩
  simp [commands, CommandState.step, h]

theorem step_clear (h : (s.link conn).responder = .recorded) :
    ∃ s', (commands Conn).step s (.clear conn) = some s' ∧
      s'.link conn = { s.link conn with lastCommand := 0, responder := .waiting } ∧
      s'.rows = s.rows := by
  refine ⟨s.setLink conn { s.link conn with lastCommand := 0, responder := .waiting }, ?_, by simp,
    rfl⟩
  simp [commands, CommandState.step, h]

/-- `handleCommandResponse` does at once what the responder does in its steps, if nothing is stored
in `lastCommand` meanwhile. -/
theorem run_handleCommandResponse (env : ConnEnv) (now : Int) {up : Uplink}
    {upstream : List Uplink} {w : ConnWorld} (hwaiting : (s.link conn).responder = .waiting)
    (hup : (s.link conn).upstream = up :: upstream)
    (hslot : (s.link conn).lastCommand = w.lastCommand)
    (hstored : env.commandStored w.loads = none) :
    ∃ s' sent, (commands Conn).run s (responseSteps conn env now up.payload w) = some s' ∧
      (handleCommandResponse env up.payload w).responses = w.responses ++ sent ∧
      (s'.link conn).upstream = upstream ∧ (s'.link conn).responder = .waiting ∧
      (s'.link conn).lastCommand = (handleCommandResponse env up.payload w).lastCommand ∧
      s'.rows = sent.foldl (fun rows r => markAcknowledged now r.text r.commandID rows) s.rows := by
  have hcommand : w.commandID env = (s.link conn).lastCommand := by
    rw [ConnWorld.commandID, hstored, Option.getD_none, hslot]
  unfold responseSteps handleCommandResponse
  cases htext : responseText up.payload with
  | none =>
      refine ⟨s.setLink conn { s.link conn with upstream := upstream }, [], ?_, by simp, by simp,
        by simpa using hwaiting, by simp [hslot], rfl⟩
      simp [Machine.run, commands, CommandState.step, hwaiting, hup, htext]
  | some text =>
      dsimp only
      rw [hcommand]
      obtain ⟨s₁, hreceive, hlink₁, hrows₁⟩ := step_receive hwaiting hup htext
      obtain ⟨s₂, hload, hlink₂, hrows₂⟩ := step_load (congrArg CommandLink.responder hlink₁)
      rw [hlink₁] at hlink₂
      by_cases hpending : (s.link conn).lastCommand > 0
      · rw [if_pos hpending] at hlink₂
        obtain ⟨s₃, hrecord, hlink₃, hrows₃⟩ :=
          step_record now (congrArg CommandLink.responder hlink₂)
        obtain ⟨s₄, hclear, hlink₄, hrows₄⟩ := step_clear (congrArg CommandLink.responder hlink₃)
        rw [if_pos hpending, if_pos hpending]
        refine ⟨s₄, [⟨(s.link conn).lastCommand, text, env.execOk w.statements⟩], ?_, rfl, ?_, ?_,
          ?_, ?_⟩
        · rw [Machine.run_cons hreceive, Machine.run_cons hload, Machine.run_cons hrecord,
            Machine.run_singleton hclear]
        · rw [hlink₄, hlink₃, hlink₂]
        · rw [hlink₄]
        · rw [hlink₄]
        · rw [hrows₄, hrows₃, hrows₂, hrows₁]
          rfl
      · rw [if_neg hpending] at hlink₂
        rw [if_neg hpending, if_neg hpending]
        refine ⟨s₂, [], ?_, by simp, by rw [hlink₂], by rw [hlink₂], by rw [hlink₂], ?_⟩
        · rw [Machine.run_cons hreceive, Machine.run_singleton hload]
        · rw [hrows₂, hrows₁]
          rfl

end

end RudraNetra
