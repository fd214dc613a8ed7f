/-
What becomes of frames whose checksum does not match.

Such a frame is counted, and then handled like any other.  So it does nothing exactly if
its handler has nothing to do for it (`Ineffective`): it does not decode as AVL data, and
it is not a response while a command awaits one.
-/
import RudraNetra.Proofs.Delivery
import RudraNetra.Proofs.Handshake

namespace RudraNetra

open Go

/-- The checksum is switched off, or it matches. -/
def Frame.intact (frame : Frame) : Bool := isZeroCRC frame.crc || frame.crcValid

/-- A frame stored nothing, published nothing and was not answered. -/
structure Dropped (w w' : ConnWorld) : Prop where
  db : w'.db = w.db
  statements : w'.statements = w.statements
  published : w'.published = w.published
  written : w'.written = w.written

/-- The positions that a frame stored. -/
def rowsStored (e : Handled) : List PositionRow :=
  e.after.db.positions.drop e.before.db.positions.length

/-- All positions that a connection stored are of intact frames, and the others did nothing. -/
structure ConnRun.Clean (r : ConnRun) (w : ConnWorld) : Prop where
  stored : r.world.db.positions =
    w.db.positions ++ (r.handled.filter (·.input.intact)).flatMap rowsStored
  dropped : ∀ e ∈ r.handled, e.input.intact = false → Dropped e.before e.after

/-- A frame that is neither AVL data of the device nor a response to a command that awaits one. -/
def Ineffective (env : ConnEnv) (deviceID : Int) (w : ConnWorld) (frame : Frame) : Prop :=
  (∀ ps, parseFrame frame.payload deviceID ≠ .returns ps none) ∧
    (responseText frame.payload = none ∨ w.commandID env ≤ 0)

/-! ### One frame -/

theorem responseText_of_other {id : UInt8} (h : id ≠ codec12) (rest : List UInt8) :
    responseText (id :: rest) = none := by
  obtain _ | ⟨quantity, rest⟩ := rest
  · rfl
  · rw [responseText, parseCommandPayload, if_pos h]

theorem parseFrame_of_other {id : UInt8} (h : ¬ (id = codec8 ∨ id = codec8E)) (rest : List UInt8)
    (deviceID : Int) (ps : List Position) :
    parseFrame (id :: rest) deviceID ≠ .returns ps none := by
  intro hparse
  obtain ⟨extended, data, hpayload, -⟩ := parseFrame_returns_codecOf hparse
  obtain ⟨rfl, -⟩ := List.cons.inj hpayload
  obtain _ | _ := extended
  · exact h (.inl rfl)
  · exact h (.inr rfl)

/-- The counters are not looked at. -/
theorem dropped_count_iff {frame : Frame} {w w' : ConnWorld} :
    Dropped (w.count frame) w' ↔ Dropped w w' :=
  ⟨fun h => ⟨h.db, h.statements, h.published, h.written⟩,
    fun h => ⟨h.db, h.statements, h.published, h.written⟩⟩

theorem handleCommandResponse_dropped_iff (env : ConnEnv) (payload : List UInt8) (w : ConnWorld) :
    Dropped w (handleCommandResponse env payload w) ↔
      (responseText payload = none ∨ w.commandID env ≤ 0) := by
  unfold handleCommandResponse
  cases responseText payload with
  | none => exact ⟨fun _ => .inl rfl, fun _ => ⟨rfl, rfl, rfl, rfl⟩⟩
  | some text =>
      dsimp only
      by_cases hpending : w.commandID env > 0
      · rw [if_pos hpending]
        refine ⟨fun h => ?_, fun h => ?_⟩
        · have hsent := h.statements
          simp at hsent
        · simp only [reduceCtorEq, false_or] at h
          omega
      · rw [if_neg hpending]
        exact ⟨fun _ => .inr (by omega), fun _ => ⟨rfl, rfl, rfl, rfl⟩⟩

/-- A frame does nothing exactly if its handler has nothing to do for it. -/
theorem dispatch_dropped_iff {env : ConnEnv} {redis : Bool} {sess : DeviceSession} {frame : Frame}
    {w w' : ConnWorld} (h : dispatch env redis sess w frame = some w') :
    Dropped w w' ↔ Ineffective env sess.deviceID w frame := by
  unfold dispatch at h
  unfold Ineffective
  cases hpayload : frame.payload with
  | nil =>
      rw [hpayload] at h
      cases h
  | cons id rest =>
      rw [hpayload] at h
      dsimp only at h
      by_cases h12 : id = codec12
      · rw [if_pos h12] at h
        obtain rfl := Option.some.inj h
        have hother : ¬ (id = codec8 ∨ id = codec8E) := by
          rw [h12]
          decide
        rw [and_iff_right (parseFrame_of_other hother rest sess.deviceID)]
        rw [← dropped_count_iff, handleCommandResponse_dropped_iff]
        rfl
      · rw [if_neg h12] at h
        rw [responseText_of_other h12, or_iff_left_of_imp (fun _ => rfl), and_iff_left rfl]
        by_cases havl : id = codec8 ∨ id = codec8E
        · rw [if_pos havl] at h
          obtain ⟨w₁, hw₁, -, ⟨ps, k, ok, hparse, hwritten⟩ | ⟨hparse, hsame⟩⟩ :=
            handleAVLFrame_cases env.toEnv redis sess (id :: rest) (w.count frame).toWorld
          · rw [hw₁] at h
            obtain rfl := Option.some.inj h
            refine ⟨fun hdropped => ?_, fun hno => absurd hparse (hno ps)⟩
            have hsilent := hwritten.symm.trans hdropped.written
            simp at hsilent
          · rw [hw₁] at h
            obtain rfl := Option.some.inj h
            subst hsame
            exact ⟨fun _ => hparse, fun _ => ⟨rfl, rfl, rfl, rfl⟩⟩
        · rw [if_neg havl] at h
          obtain rfl := Option.some.inj h
          exact ⟨fun _ => parseFrame_of_other havl rest sess.deviceID,
            fun _ => ⟨rfl, rfl, rfl, rfl⟩⟩

/-! ### The whole connection -/

theorem Dropped.rowsStored {e : Handled} (h : Dropped e.before e.after) : rowsStored e = [] := by
  rw [RudraNetra.rowsStored, h.db, List.drop_length]

/-- What is left out stored nothing. -/
theorem flatMap_filter_of_dropped {es : List Handled}
    (h : ∀ e ∈ es, e.input.intact = false → Dropped e.before e.after) :
    (es.filter (·.input.intact)).flatMap rowsStored = es.flatMap rowsStored := by
  induction es with
  | nil => rfl
  | cons e es ih =>
      have hrest := ih fun e' he' => h e' (List.mem_cons_of_mem _ he')
      cases hintact : e.input.intact with
      | true => rw [List.filter_cons, if_pos hintact, List.flatMap_cons, List.flatMap_cons, hrest]
      | false =>
          have hnone := (h e List.mem_cons_self hintact).rowsStored
          rw [List.filter_cons, if_neg (by simp [hintact]), hrest, List.flatMap_cons, hnone,
            List.nil_append]

/-- **Frames with a wrong checksum store nothing, publish nothing and are not answered exactly if
they are neither AVL data that decodes nor responses to a command that awaits one.** -/
theorem clean_iff_ineffective (env : ConnEnv) (redis : Bool)
    (answer : List UInt8 → Option DeviceAnswer) (reads : List (List UInt8)) (w : ConnWorld) :
    ∃ r, handleDeviceConnection env redis answer reads w = some r ∧
      (r.Clean w ↔ ∀ sess, r.session = some sess → ∀ e ∈ r.handled, e.input.intact = false →
        Ineffective env sess.deviceID e.before e.input) := by
  obtain ⟨r, hr, ⟨⟨-, hnone, hrows⟩, -⟩ | ⟨packet, rest, imei, d, -, -, -, hserved⟩⟩ :=
    handleDeviceConnection_cases env redis answer reads w
  · refine ⟨r, hr, ?_⟩
    constructor
    · intro _ sess _ e he
      rw [hnone] at he
      cases he
    · intro _
      refine ⟨?_, ?_⟩
      · rw [hrows, hnone]
        exact (List.append_nil _).symm
      · rw [hnone]
        exact fun e he => absurd he List.not_mem_nil
  · refine ⟨r, hr, ?_⟩
    constructor
    · intro hclean sess hsess e he hbad
      obtain rfl := Option.some.inj (hserved.session.symm.trans hsess)
      exact (dispatch_dropped_iff (hserved.steps e he)).mp (hclean.dropped e he hbad)
    · intro hno
      have hdropped : ∀ e ∈ r.handled, e.input.intact = false → Dropped e.before e.after :=
        fun e he hbad => (dispatch_dropped_iff (hserved.steps e he)).mpr
          (hno _ hserved.session e he hbad)
      refine ⟨?_, hdropped⟩
      rw [hserved.positions, flatMap_filter_of_dropped hdropped]
      rfl

/-! ### A frame with a wrong checksum -/

/-- A frame that decodes goes to the handler of AVL frames. -/
theorem dispatch_of_returns (env : ConnEnv) (redis : Bool) {sess : DeviceSession} {frame : Frame}
    {ps : List Position} (h : parseFrame frame.payload sess.deviceID = .returns ps none)
    (w : ConnWorld) : dispatch env redis sess w frame =
      (handleAVLFrame env.toEnv redis sess frame.payload w.toWorld).map fun w' =>
        { w.count frame with toWorld := w' } := by
  obtain ⟨extended, data, hpayload, -⟩ := parseFrame_returns_codecOf h
  rw [dispatch, hpayload]
  obtain _ | _ := extended
  · rfl
  · rfl

/-- If no statement fails, a frame that decodes is stored whole and answered so. -/
theorem dispatch_avl (env : ConnEnv) (hok : ∀ n, env.execOk n = true) (redis : Bool)
    (sess : DeviceSession) {frame : Frame} {ps : List Position}
    (h : parseFrame frame.payload sess.deviceID = .returns ps none) (w : ConnWorld) :
    ∃ w' qs sent, dispatch env redis sess w frame = some w' ∧ List.Forall₂ Normalised ps qs ∧
      w'.db.positions = w.db.positions ++ qs.map positionRow ∧
      w'.written = w.written ++ [(acknowledge ps.length, sent)] := by
  have hqs := normalise_spec env.timeNow ps w.readings
  rcases hn : normalise env.timeNow ps w.readings with ⟨qs, readings⟩
  rw [hn] at hqs
  have hwhole := insertBatch_whole hok qs { w.toWorld with readings := readings }
  obtain ⟨k, -, -, hcount, hrows, honly⟩ :=
    insertBatch_spec env.toEnv qs { w.toWorld with readings := readings }
  rcases hb : insertBatch env.toEnv qs { w.toWorld with readings := readings } with ⟨w₂, stored, ok⟩
  rw [hb] at hwhole hcount hrows honly
  obtain ⟨rfl, rfl⟩ := Prod.mk.inj hwhole
  obtain ⟨w₁, sent, hw₁, hwritten, hpositions⟩ :=
    handleAVLFrame_of_batch env.toEnv redis sess h hn hb honly.written
  rw [hcount rfl, List.take_length] at hrows
  rw [← hqs.length_eq] at hwritten
  refine ⟨{ w.count frame with toWorld := w₁ }, qs, sent, ?_, hqs, hpositions.trans hrows, hwritten⟩
  rw [dispatch_of_returns env redis h, hw₁]
  rfl

/-- The frame of a parked vehicle with a wrong checksum. -/
def corruptedReport : SentFrame where
  payload := parkedReport.payload
  crc := [0, 0, 0, 1]
  payload_pos := by decide
  payload_le := by decide
  known := by decide
  crc_length := rfl

theorem corruptedReport_intact : corruptedReport.intact = false := by decide +kernel

/-- Its record is stored and acknowledged. -/
theorem corruptedReport_stored :
    ∃ r, handleDeviceConnection calmEnv true (fun _ => some ⟨7, 1, "GJ-01"⟩)
        [handshakePacket onesIMEI, corruptedReport.encode] freshWorld = some r ∧
      (∃ e ∈ r.handled, e.input.intact = false ∧ (rowsStored e).length = 1 ∧
        ∃ sent, e.after.written = e.before.written ++ [(acknowledge 1, sent)]) ∧
      ¬ r.Clean freshWorld := by
  obtain ⟨r, hr, hserved⟩ := connection_of_packet calmEnv true (fun _ => some ⟨7, 1, "GJ-01"⟩)
    freshWorld onesIMEI rfl (by decide) (by decide) [] [corruptedReport.encode]
  rw [List.append_nil] at hr
  have hframes : framesOf corruptedReport.encode = [corruptedReport.toFrame] := by
    have h := framesOf_frameStream [corruptedReport]
    rwa [frameStream_cons, frameStream_nil, List.append_nil] at h
  have hhandled := hserved.handled.trans (if_pos rfl)
  rw [List.flatten_singleton, hframes] at hhandled
  obtain ⟨e, hes, he⟩ := List.map_eq_singleton_iff.mp hhandled
  have hmem : e ∈ r.handled := by
    rw [hes]
    exact List.mem_singleton_self e
  have hbad : e.input.intact = false := by
    rw [he]
    exact corruptedReport_intact
  have hparse : parseFrame e.input.payload 7 = .returns parkedReport.positions none := by
    rw [he]
    exact parkedReport.decodes
  obtain ⟨w', qs, sent, hstep, hqs, hrows, hwritten⟩ :=
    dispatch_avl calmEnv (fun _ => rfl) true ⟨onesIMEI, 7, 1, "GJ-01"⟩ hparse e.before
  obtain rfl := Option.some.inj ((hserved.steps e hmem).symm.trans hstep)
  refine ⟨r, hr, ⟨e, hmem, hbad, ?_, sent, hwritten⟩, fun hclean => ?_⟩
  · rw [rowsStored, hrows, List.drop_left, List.length_map, ← hqs.length_eq]
    rfl
  · have hsilent := hwritten.symm.trans (hclean.dropped e hmem hbad).written
    simp at hsilent

end RudraNetra
