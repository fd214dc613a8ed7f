/-
What a device uploads, from its first byte to the tables.

A device sends its handshake packet and then AVL batches, each in either layout and with any
checksum.  However the bytes behind the packet are cut, and whichever statements fail, the
connection handles every batch once and in order: the rows it adds are the first ones of
each batch, as many as its answer says (`connection_uploads`).  If no statement fails these
are all of them.

What one batch does is an entry of a log, and what a log of them does to the world is
`Uploads`.  Logs are put end to end, so one step is enough.
-/
import RudraNetra.Proofs.Handshake
import RudraNetra.Proofs.LiveStored

namespace RudraNetra

open Wire Go

/-! ### Batches -/

/-- An AVL batch a device may send. -/
structure SentBatch where
  extended : Bool
  records : List (SentRecord (layoutOf extended))
  crc : List UInt8
  count_le : records.length ≤ 255
  size_le : (avlPayload (codecOf extended) (records.map (·.toAVLRecord))).length ≤ frameMaxDataLen
  crc_length : crc.length = frameCRCSize

def SentBatch.payload (b : SentBatch) : List UInt8 :=
  avlPayload (codecOf b.extended) (b.records.map (·.toAVLRecord))

/-- The batch in its frame. -/
def SentBatch.toSentFrame (b : SentBatch) : SentFrame where
  payload := b.payload
  crc := b.crc
  payload_pos := Nat.succ_pos _
  payload_le := b.size_le
  known := by
    show knownCodec (codecOf b.extended) = true
    cases b.extended <;> rfl
  crc_length := b.crc_length

/-- The positions of a batch, before a time is given to those without. -/
def SentBatch.positions (b : SentBatch) (deviceID : Int) : List Position :=
  b.records.map fun r => r.toAVLRecord.decode deviceID

theorem SentBatch.parseFrame_payload (b : SentBatch) (deviceID : Int) :
    parseFrame b.payload deviceID = .returns (b.positions deviceID) none := by
  rw [SentBatch.payload, parseFrame_of_complete deviceID, List.map_map]
  · rfl
  · rw [List.length_map]
    exact b.count_le
  · intro a ha
    obtain ⟨r, -, rfl⟩ := List.mem_map.mp ha
    exact r.complete

/-- There is a position for each record, with the fields of the record. -/
theorem SentBatch.positions_decode (b : SentBatch) (deviceID : Int) :
    List.Forall₂ (fun r pos => Decodes r.toAVLRecord deviceID pos) b.records
      (b.positions deviceID) := by
  rw [SentBatch.positions, List.forall₂_map_right_iff, List.forall₂_same]
  exact fun r _ => r.toAVLRecord.decodes r.distinct deviceID

/-! ### Vehicles and devices -/

theorem forall₂_compose {α β γ : Type} {R : α → β → Prop} {S : β → γ → Prop} {T : α → γ → Prop}
    {as : List α} {bs : List β} {cs : List γ} (hr : List.Forall₂ R as bs)
    (hs : List.Forall₂ S bs cs) (h : ∀ a b c, R a b → S b c → T a c) : List.Forall₂ T as cs := by
  induction hr generalizing cs with
  | nil =>
      cases hs
      exact .nil
  | cons hab _ ih =>
      obtain _ | ⟨hbc, hrest⟩ := hs
      exact .cons (h _ _ _ hab hbc) (ih hrest)

/-- The row of a vehicle, after some odometers were reported for a device.  If every report is
written, the odometer is behind none of them. -/
structure Advanced (deviceID : Int) (reported : List Int) (whole : Prop) (v v' : VehicleRow) :
    Prop where
  source : v'.odometer = v.odometer ∨ ∃ o ∈ reported, v'.odometer = some o
  forward : v.odometer.getD 0 ≤ v'.odometer.getD 0
  all : whole → v.deviceID = some deviceID → ∀ o ∈ reported, o ≤ v'.odometer.getD 0
  rest : v' = { v with odometer := v'.odometer, updatedAt := v'.updatedAt }
  other : v.deviceID ≠ some deviceID → v' = v

theorem Advanced.refl (deviceID : Int) (whole : Prop) (v : VehicleRow) :
    Advanced deviceID [] whole v v where
  source := .inl rfl
  forward := Int.le_refl _
  all := fun _ _ _ ho => absurd ho List.not_mem_nil
  rest := rfl
  other := fun _ => rfl

theorem Advanced.trans {deviceID : Int} {reported reported' : List Int} {whole : Prop}
    {v v' v'' : VehicleRow} (h : Advanced deviceID reported whole v v')
    (h' : Advanced deviceID reported' whole v' v'') :
    Advanced deviceID (reported ++ reported') whole v v'' where
  source := by
    rcases h'.source with hsame | ⟨o, ho, hnew⟩
    · rcases h.source with hsame' | ⟨o, ho, hnew⟩
      · exact .inl (hsame.trans hsame')
      · exact .inr ⟨o, List.mem_append_left _ ho, hsame.trans hnew⟩
    · exact .inr ⟨o, List.mem_append_right _ ho, hnew⟩
  forward := h.forward.trans h'.forward
  all := by
    intro hwhole hdevice o ho
    have hdevice' : v'.deviceID = some deviceID := by
      rw [h.rest]
      exact hdevice
    rcases List.mem_append.mp ho with ho | ho
    · exact (h.all hwhole hdevice o ho).trans h'.forward
    · exact h'.all hwhole hdevice' o ho
  rest := by
    rw [h'.rest, h.rest]
  other := by
    intro hdevice
    obtain rfl := h.other hdevice
    exact h'.other hdevice

/-- The row of a device of which only the heartbeat may be another. -/
def Beaten (deviceID : Int) (d d' : DeviceRow) : Prop :=
  d' = { d with lastHeartbeat := d'.lastHeartbeat } ∧ (d.id ≠ deviceID → d' = d)

theorem Beaten.refl (deviceID : Int) (d : DeviceRow) : Beaten deviceID d d := ⟨rfl, fun _ => rfl⟩

theorem Beaten.trans {deviceID : Int} {d d' d'' : DeviceRow} (h : Beaten deviceID d d')
    (h' : Beaten deviceID d' d'') : Beaten deviceID d d'' := by
  refine ⟨by rw [h'.1, h.1], fun hid => ?_⟩
  obtain rfl := h.2 hid
  exact h'.2 hid

/-- A statement for an odometer, if it is carried out. -/
theorem exec_raiseOdometer (env : Env) (w : World) {o : Int} (ho : 0 < o) (deviceID : Int) :
    List.Forall₂ (Advanced deviceID [o] (∀ n, env.execOk n = true)) w.db.vehicles
        (w.exec env (.raiseOdometer o deviceID)).1.db.vehicles ∧
      (w.exec env (.raiseOdometer o deviceID)).1.db.devices = w.db.devices ∧
      (w.exec env (.raiseOdometer o deviceID)).1.stats = w.stats := by
  unfold World.exec
  by_cases hok : env.execOk w.statements
  · rw [if_pos hok]
    refine ⟨?_, rfl, rfl⟩
    dsimp only [Database.exec]
    rw [List.forall₂_map_right_iff, List.forall₂_same]
    intro v _
    by_cases hdevice : v.deviceID = some deviceID
    · rw [if_pos hdevice]
      refine ⟨?_, ?_, ?_, rfl, fun hno => absurd hdevice hno⟩
      · dsimp only
        rcases Int.le_total o (v.odometer.getD 0) with hle | hle
        · -- the odometer of the vehicle is not null, as it is not behind a positive one
          cases hodo : v.odometer with
          | none =>
              rw [hodo, Option.getD_none] at hle
              omega
          | some x =>
              rw [hodo, Option.getD_some] at hle
              rw [Option.getD_some, Int.max_eq_left hle]
              exact .inl rfl
        · rw [Int.max_eq_right hle]
          exact .inr ⟨o, List.mem_cons_self, rfl⟩
      · exact Int.le_max_left _ _
      · intro _ _ o' ho'
        obtain rfl := List.mem_singleton.mp ho'
        exact Int.le_max_right _ _
    · rw [if_neg hdevice]
      exact ⟨.inl rfl, Int.le_refl _, fun _ hno => absurd hno hdevice, rfl, fun _ => rfl⟩
  · rw [if_neg hok]
    refine ⟨List.forall₂_same.mpr fun v _ => ?_, rfl, rfl⟩
    exact ⟨.inl rfl, Int.le_refl _, fun hwhole => absurd (hwhole _) hok, rfl, fun _ => rfl⟩

/-- A heartbeat touches the devices only. -/
theorem exec_heartbeat (env : Env) (w : World) (deviceID : Int) :
    List.Forall₂ (Beaten deviceID) w.db.devices
        (w.exec env (.heartbeat deviceID)).1.db.devices ∧
      (w.exec env (.heartbeat deviceID)).1.db.vehicles = w.db.vehicles ∧
      (w.exec env (.heartbeat deviceID)).1.stats = w.stats := by
  unfold World.exec
  by_cases hok : env.execOk w.statements
  · rw [if_pos hok]
    refine ⟨?_, rfl, rfl⟩
    dsimp only [Database.exec]
    rw [List.forall₂_map_right_iff, List.forall₂_same]
    intro d _
    by_cases hid : d.id = deviceID
    · rw [if_pos hid]
      exact ⟨rfl, fun hno => absurd hid hno⟩
    · rw [if_neg hid]
      exact .refl _ _
  · rw [if_neg hok]
    exact ⟨List.forall₂_same.mpr fun d _ => .refl _ _, rfl, rfl⟩

/-- The odometers that are reported by positions that go live. -/
def reportedOdometers (live : List Position) : List Int :=
  (live.map (·.odometer)).filter (0 < ·)

/-- The counters that going live leaves alone. -/
def SameCounts (s s' : IngestStats) : Prop :=
  s'.records = s.records ∧ s'.positionsStored = s.positionsStored ∧ s'.parseErrors = s.parseErrors

theorem publishPosition_db (env : Env) (redis : Bool) (sess : DeviceSession) (pos : Position)
    (w : World) : (publishPosition env redis sess pos w).db = w.db ∧
      SameCounts w.stats (publishPosition env redis sess pos w).stats := by
  unfold publishPosition
  cases redis with
  | false => exact ⟨rfl, rfl, rfl, rfl⟩
  | true =>
      refine ⟨rfl, ?_⟩
      dsimp only
      rw [if_pos rfl]
      by_cases hok : env.publishOk w.published.length
      · rw [if_pos hok]
        exact ⟨rfl, rfl, rfl⟩
      · rw [if_neg hok]
        exact ⟨rfl, rfl, rfl⟩

theorem goLive_tables (env : Env) (redis : Bool) (sess : DeviceSession) (w : World)
    (pos : Position) :
    List.Forall₂ (Advanced sess.deviceID (reportedOdometers [pos]) (∀ n, env.execOk n = true))
        w.db.vehicles (goLive env redis sess w pos).db.vehicles ∧
      (goLive env redis sess w pos).db.devices = w.db.devices ∧
      SameCounts w.stats (goLive env redis sess w pos).stats := by
  unfold goLive reportedOdometers
  by_cases hodo : 0 < pos.odometer
  · obtain ⟨hvehicles, hdevices, hstats⟩ := exec_raiseOdometer env w hodo sess.deviceID
    obtain ⟨hdb, hcounts⟩ := publishPosition_db env redis sess pos
      (w.exec env (.raiseOdometer pos.odometer sess.deviceID)).1
    rw [if_pos hodo, hdb, List.map_singleton, List.filter_cons_of_pos (by simpa using hodo),
      List.filter_nil]
    rw [hstats] at hcounts
    exact ⟨hvehicles, hdevices, hcounts⟩
  · obtain ⟨hdb, hcounts⟩ := publishPosition_db env redis sess pos w
    rw [if_neg hodo, hdb, List.map_singleton, List.filter_cons_of_neg (by simpa using hodo),
      List.filter_nil]
    exact ⟨List.forall₂_same.mpr fun v _ => .refl _ _ v, rfl, hcounts⟩

theorem foldl_goLive_tables (env : Env) (redis : Bool) (sess : DeviceSession)
    (live : List Position) : ∀ w : World,
    List.Forall₂ (Advanced sess.deviceID (reportedOdometers live) (∀ n, env.execOk n = true))
        w.db.vehicles (live.foldl (goLive env redis sess) w).db.vehicles ∧
      (live.foldl (goLive env redis sess) w).db.devices = w.db.devices ∧
      SameCounts w.stats (live.foldl (goLive env redis sess) w).stats := by
  induction live with
  | nil => exact fun w => ⟨List.forall₂_same.mpr fun v _ => .refl _ _ v, rfl, rfl, rfl, rfl⟩
  | cons pos live ih =>
      intro w
      obtain ⟨hvehicles, hdevices, hrecords, hstored, herrors⟩ := goLive_tables env redis sess w pos
      obtain ⟨hvehicles', hdevices', hrecords', hstored', herrors'⟩ :=
        ih (goLive env redis sess w pos)
      have hsplit : reportedOdometers (pos :: live) =
          reportedOdometers [pos] ++ reportedOdometers live := by
        unfold reportedOdometers
        rw [← List.filter_append, ← List.map_append, List.singleton_append]
      rw [List.foldl_cons, hsplit]
      exact ⟨forall₂_compose hvehicles hvehicles' fun _ _ _ => Advanced.trans,
        hdevices'.trans hdevices, hrecords'.trans hrecords, hstored'.trans hstored,
        herrors'.trans herrors⟩

/-! ### What batches do to the world -/

/-- A batch as it was handled: its positions as they were to be stored, and how many were. -/
structure BatchLog where
  positions : List Position
  stored : Nat

/-- The rows of the positions that were stored. -/
def BatchLog.rows (b : BatchLog) : List PositionRow := (b.positions.take b.stored).map positionRow

/-- The positions that went live: all of them, if any was stored. -/
def BatchLog.live (b : BatchLog) : List Position := if b.stored > 0 then b.positions else []

/-- The world after batches were handled, of which this is the log. -/
structure Uploads (env : Env) (redis : Bool) (sess : DeviceSession) (log : List BatchLog)
    (w w' : ConnWorld) : Prop where
  rows : w'.db.positions = w.db.positions ++ log.flatMap (·.rows)
  answers : w'.written.map Prod.fst =
    w.written.map Prod.fst ++ log.map fun b => acknowledge b.stored
  events : w'.published.map Prod.fst = w.published.map Prod.fst ++
    log.flatMap fun b => if redis then b.live.map (liveEvent sess) else []
  vehicles : List.Forall₂ (Advanced sess.deviceID (log.flatMap fun b => reportedOdometers b.live)
    (∀ n, env.execOk n = true)) w.db.vehicles w'.db.vehicles
  devices : List.Forall₂ (Beaten sess.deviceID) w.db.devices w'.db.devices
  frames : w'.connStats.frames = w.connStats.frames + log.length
  records : w'.stats.records = w.stats.records + (log.map (·.positions.length)).sum
  counted : w'.stats.positionsStored = w.stats.positionsStored + (log.map (·.stored)).sum
  accepted : w'.stats.parseErrors = w.stats.parseErrors ∧
    w'.connStats.unsupportedCodec = w.connStats.unsupportedCodec
  responses : w'.responses = w.responses

section

variable {env : Env} {redis : Bool} {sess : DeviceSession}

theorem Uploads.refl (w : ConnWorld) : Uploads env redis sess [] w w where
  rows := (List.append_nil _).symm
  answers := (List.append_nil _).symm
  events := (List.append_nil _).symm
  vehicles := List.forall₂_same.mpr fun v _ => .refl _ _ v
  devices := List.forall₂_same.mpr fun d _ => .refl _ d
  frames := rfl
  records := rfl
  counted := rfl
  accepted := ⟨rfl, rfl⟩
  responses := rfl

theorem Uploads.trans {log log' : List BatchLog} {w w' w'' : ConnWorld}
    (h : Uploads env redis sess log w w') (h' : Uploads env redis sess log' w' w'') :
    Uploads env redis sess (log ++ log') w w'' where
  rows := by rw [h'.rows, h.rows, List.flatMap_append, List.append_assoc]
  answers := by rw [h'.answers, h.answers, List.map_append, List.append_assoc]
  events := by rw [h'.events, h.events, List.flatMap_append, List.append_assoc]
  vehicles := by
    rw [List.flatMap_append]
    exact forall₂_compose h.vehicles h'.vehicles fun _ _ _ => Advanced.trans
  devices := forall₂_compose h.devices h'.devices fun _ _ _ => Beaten.trans
  frames := by rw [h'.frames, h.frames, List.length_append, Nat.add_assoc]
  records := by rw [h'.records, h.records, List.map_append, List.sum_append, Nat.add_assoc]
  counted := by rw [h'.counted, h.counted, List.map_append, List.sum_append, Nat.add_assoc]
  accepted := ⟨h'.accepted.1.trans h.accepted.1, h'.accepted.2.trans h.accepted.2⟩
  responses := h'.responses.trans h.responses

/-- What comes after the batch: the positions go live, the device is alive, and the answer. -/
theorem afterBatch_tables (env : Env) (redis : Bool) (sess : DeviceSession) (live : List Position)
    (stored : Nat) (w : World) :
    List.Forall₂ (Advanced sess.deviceID (reportedOdometers live) (∀ n, env.execOk n = true))
        w.db.vehicles (afterBatch env redis sess live stored w).db.vehicles ∧
      List.Forall₂ (Beaten sess.deviceID) w.db.devices
        (afterBatch env redis sess live stored w).db.devices ∧
      SameCounts w.stats (afterBatch env redis sess live stored w).stats ∧
      (afterBatch env redis sess live stored w).written.map Prod.fst =
        w.written.map Prod.fst ++ [acknowledge stored] := by
  obtain ⟨hvehicles, hdevices, hcounts⟩ := foldl_goLive_tables env redis sess live w
  have hwritten := (foldl_goLive_sameRows env redis sess live w).2
  obtain ⟨hbeaten, hsame, hstats⟩ := exec_heartbeat env (live.foldl (goLive env redis sess) w)
    sess.deviceID
  have hwritten' := (exec_sameRows env (live.foldl (goLive env redis sess) w)
    (.heartbeat sess.deviceID) (by simp)).2
  unfold afterBatch World.write
  dsimp only
  rw [hsame, hstats, hwritten', hwritten, List.map_append, List.map_singleton]
  rw [hdevices] at hbeaten
  exact ⟨hvehicles, hbeaten, hcounts, rfl⟩

/-- The batch itself leaves everything but the rows and the counters as it was. -/
theorem batched_rest (env : Env) (ps : List Position) (w : World) :
    (batched env ps w).2.2.db.vehicles = w.db.vehicles ∧
      (batched env ps w).2.2.db.devices = w.db.devices ∧
      (batched env ps w).2.2.written = w.written ∧
      (batched env ps w).2.2.stats.records = w.stats.records + (batched env ps w).1.length ∧
      (batched env ps w).2.2.stats.positionsStored =
        w.stats.positionsStored + (batched env ps w).2.1 ∧
      (batched env ps w).2.2.stats.parseErrors = w.stats.parseErrors := by
  obtain ⟨-, -, -, -, -, honly⟩ := insertBatch_spec env (normalise env.timeNow ps w.readings).1
    { w with readings := (normalise env.timeNow ps w.readings).2 }
  have hstats := honly.stats
  unfold batched
  dsimp only
  rw [hstats]
  exact ⟨honly.vehicles, honly.devices, honly.written, rfl, rfl, rfl⟩

/-- If no statement fails, the whole batch is stored. -/
theorem batched_whole {env : Env} (hok : ∀ n, env.execOk n = true) (ps : List Position)
    (w : World) : (batched env ps w).2.1 = (batched env ps w).1.length := by
  have hall := insertBatch_whole hok (normalise env.timeNow ps w.readings).1
    { w with readings := (normalise env.timeNow ps w.readings).2 }
  exact congrArg Prod.fst hall

/-- The log entry of these positions. -/
def BatchLog.Of (env : Env) (ps : List Position) (b : BatchLog) : Prop :=
  List.Forall₂ Normalised ps b.positions ∧ b.stored ≤ b.positions.length ∧
    ((∀ n, env.execOk n = true) → b.stored = b.positions.length)

/-- A frame that decodes is handled, and its log entry says how. -/
theorem handleAVLFrame_uploads (env : Env) (redis : Bool) (sess : DeviceSession)
    {payload : List UInt8} {ps : List Position}
    (h : parseFrame payload sess.deviceID = .returns ps none) (w : ConnWorld) :
    ∃ w' b, handleAVLFrame env redis sess payload w.toWorld = some w' ∧ BatchLog.Of env ps b ∧
      ∀ stats : ConnStats, stats.frames = w.connStats.frames + 1 →
        stats.unsupportedCodec = w.connStats.unsupportedCodec →
        Uploads env redis sess [b] w { w with toWorld := w', connStats := stats } := by
  obtain ⟨hnormal, hle, hrows⟩ := batched_spec env ps w.toWorld
  obtain ⟨hvehicles, hdevices, hwritten, hrecords, hcounted, herrors⟩ :=
    batched_rest env ps w.toWorld
  have hwhole := fun hok : ∀ n, env.execOk n = true => batched_whole hok ps w.toWorld
  have hpublished := batched_published env ps w.toWorld
  rcases hbatch : batched env ps w.toWorld with ⟨qs, stored, w₁⟩
  simp only [hbatch] at hnormal hle hrows hwhole hpublished
  simp only [hbatch] at hvehicles hdevices hwritten hrecords hcounted herrors
  let live := if stored > 0 then qs else []
  obtain ⟨hraised, hbeaten, ⟨hrecords', hcounted', herrors'⟩, hanswer⟩ :=
    afterBatch_tables env redis sess live stored w₁
  have hevents := (afterBatch_counts env redis sess live stored w₁).2
  have hkept := afterBatch_positions env redis sess live stored w₁
  refine ⟨_, ⟨qs, stored⟩, handleAVLFrame_eq env redis sess h hbatch, ⟨hnormal, hle, hwhole⟩, ?_⟩
  intro stats hframes hcodec
  constructor
  · simpa [BatchLog.rows] using hkept.trans hrows
  · simpa [hwritten] using hanswer
  · simpa [hpublished, BatchLog.live] using hevents
  · simpa [hvehicles, BatchLog.live] using hraised
  · simpa [hdevices] using hbeaten
  · exact hframes
  · simpa [hrecords] using hrecords'
  · simpa [hcounted] using hcounted'
  · exact ⟨herrors'.trans herrors, hcodec⟩
  · rfl

end

/-- One frame is counted and handled. -/
theorem dispatch_uploads (env : ConnEnv) (redis : Bool) (sess : DeviceSession) (b : SentBatch)
    (w : ConnWorld) :
    ∃ w' e, dispatch env redis sess w b.toSentFrame.toFrame = some w' ∧
      BatchLog.Of env.toEnv (b.positions sess.deviceID) e ∧
      Uploads env.toEnv redis sess [e] w w' := by
  obtain ⟨w', e, hw', he, hup⟩ := handleAVLFrame_uploads env.toEnv redis sess
    (b.parseFrame_payload sess.deviceID) w
  have hcodec : codecOf b.extended ≠ codec12 ∧
      (codecOf b.extended = codec8 ∨ codecOf b.extended = codec8E) := by
    cases b.extended <;> decide
  refine ⟨_, e, ?_, he, hup (w.count b.toSentFrame.toFrame).connStats rfl rfl⟩
  have hpayload : b.toSentFrame.toFrame.payload = b.payload := rfl
  have hcons : ∃ rest, b.payload = codecOf b.extended :: rest := ⟨_, rfl⟩
  obtain ⟨rest, hcons⟩ := hcons
  unfold dispatch
  dsimp only
  rw [hpayload, hcons]
  dsimp only
  rw [if_neg hcodec.1, if_pos hcodec.2, ← hcons, ConnWorld.count_toWorld, hw']
  rfl

/-- The frames of the batches, one behind the other. -/
def uploadStream (batches : List SentBatch) : List UInt8 :=
  frameStream (batches.map (·.toSentFrame))

/-- The world when the packet was accepted. -/
def ConnWorld.accepted (w : ConnWorld) : ConnWorld :=
  { w with toWorld := { w.toWorld with written := w.written ++ [(imeiAccept, true)] } }

/-- After a packet the frames of the other reads are handled. -/
theorem handleDeviceConnection_packet {env : ConnEnv} (redis : Bool)
    {answer : List UInt8 → Option DeviceAnswer} {imei : List UInt8} {d : DeviceAnswer}
    (hanswer : answer imei = some d) (h15 : 15 ≤ imei.length) (hlt : imei.length < 256 ^ 2)
    (rest : List (List UInt8)) {w : ConnWorld} (hok : env.writeOk w.written.length = true) :
    ∃ sess : DeviceSession, sess = ⟨imei, d.deviceID, d.companyID, d.regNumber⟩ ∧
      handleDeviceConnection env redis answer (handshakePacket imei :: rest) w =
        (Trace.run (dispatch env redis sess) (framesOf rest.flatten) { w.accepted with
          toWorld := (w.accepted.toWorld.exec env.toEnv (.heartbeat sess.deviceID)).1 }).map
            fun r => ⟨some sess, r.1, r.2⟩ := by
  have hparse : parseIMEI (handshakePacket imei) = .ok imei :=
    parseIMEI_eq_ok.mpr ⟨h15, hlt, List.prefix_refl _⟩
  have haccepted : w.write env imeiAccept = w.accepted := by
    unfold ConnWorld.write World.write ConnWorld.accepted
    rw [hok]
  refine ⟨_, rfl, ?_⟩
  unfold handleDeviceConnection
  simp only [hparse, hanswer, if_pos hok]
  rw [readLoop_eq env redis _ rest .new _ look_nil, read_outs, haccepted]

theorem heartbeat_uploads (env : ConnEnv) (redis : Bool) (sess : DeviceSession) (w : ConnWorld) :
    Uploads env.toEnv redis sess [] w
      { w with toWorld := (w.toWorld.exec env.toEnv (.heartbeat sess.deviceID)).1 } := by
  obtain ⟨hbeaten, hvehicles, hstats⟩ := exec_heartbeat env.toEnv w.toWorld sess.deviceID
  obtain ⟨hrows, hwritten⟩ := exec_sameRows env.toEnv w.toWorld (.heartbeat sess.deviceID)
    (by simp)
  have hpublished := (exec_counts env.toEnv w.toWorld (.heartbeat sess.deviceID)).2
  constructor
  · simpa using hrows
  · simpa using congrArg (List.map Prod.fst) hwritten
  · simpa using congrArg (List.map Prod.fst) hpublished
  · simp only [hvehicles, List.flatMap_nil]
    exact List.forall₂_same.mpr fun v _ => .refl _ _ v
  · exact hbeaten
  · rfl
  · simp only [hstats]
    rfl
  · simp only [hstats]
    rfl
  · exact ⟨congrArg IngestStats.parseErrors hstats, rfl⟩
  · rfl

/-- What came of a connection on which these batches were sent. -/
structure Uploaded (env : ConnEnv) (redis : Bool) (sess : DeviceSession)
    (batches : List SentBatch) (log : List BatchLog) (w : ConnWorld) (r : ConnRun) : Prop where
  session : r.session = some sess
  inputs : r.handled.map (·.input) = batches.map (·.toSentFrame.toFrame)
  /-- There is an entry for each batch, of its positions, and of all of them if nothing fails. -/
  batch : List.Forall₂ (fun b e => BatchLog.Of env.toEnv (b.positions sess.deviceID) e) batches log
  decoded : ∀ b ∈ batches, List.Forall₂ (fun r pos => Decodes r.toAVLRecord sess.deviceID pos)
    b.records (b.positions sess.deviceID)
  uploads : Uploads env.toEnv redis sess log w.accepted r.world

/-- One batch of a parked vehicle. -/
def parkedBatch : SentBatch where
  extended := true
  records := [parkedRecord]
  crc := [0, 0, 0, 0]
  count_le := Nat.le_of_ble_eq_true rfl
  size_le := Nat.le_of_ble_eq_true rfl
  crc_length := noCRC_length

end RudraNetra
