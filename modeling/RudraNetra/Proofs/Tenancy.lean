/-
When live positions follow the device registry.

A session keeps what its handshake found.  As long as nobody deletes a device that a
connection has found, or gives one that is served to another company (`Undisturbed`),
positions are stored for a device that is there and events are published for the company
it belongs to.  Nothing in the registry's handlers sees to that, and a session that is
out of date goes on: its next frame is stored and published under it (`run_frame`).
-/
import RudraNetra.Ingest.LiveSessions
import RudraNetra.Proofs.Delivery

namespace RudraNetra

variable {Conn : Type}

/-- Every stored position is of a device that was there; every published event, and what the API
broadcasts for it, names the company the device belonged to at that time. -/
structure LiveState.Owned (s : LiveState Conn) : Prop where
  stored : ∀ e ∈ s.stored, Database.Has e.devices e.position.deviceID
  published : ∀ e ∈ s.published, Database.Owns e.devices e.event.companyID e.event.deviceID
  broadcast : ∀ e ∈ s.published, ∀ data msg, forwardPosition e.event data = some msg →
    Database.Owns e.devices msg.companyID msg.deviceID

/-- The handler of a connection may come to act for the device: it has found it, and perhaps the
company. -/
def LiveHandler.Uses (deviceID : Int) : LiveHandler → Prop
  | .resolved _ found => found = deviceID
  | .serving sess _ => sess.deviceID = deviceID
  | _ => False

/-- A device that a connection has found is not deleted, and one that a connection serves does not
come to another company. -/
def Undisturbed (s : LiveState Conn) : LiveStep Conn → Prop
  | .delete deviceID companyID =>
    (∃ d ∈ s.db.devices, d.id = deviceID ∧ d.companyID = some companyID) →
      ∀ conn, ¬ (s.handler conn).Uses deviceID
  | .provision imei (some companyID) =>
    ∀ d ∈ s.db.devices, d.imei = imei → d.owner ≠ companyID →
      ∀ conn sess work, s.handler conn = .serving sess work → sess.deviceID ≠ d.id
  | _ => True

/-! ### Positions are of the device they are decoded for -/

theorem applyIOValue_deviceID (pos : Position) (ioID : Nat) (value : Int) :
    (applyIOValue pos ioID value).deviceID = pos.deviceID := by
  unfold applyIOValue
  split_ifs <;> rfl

theorem foldl_deviceID {α : Type} {f : IOState → α → IOState}
    (hf : ∀ st a, (f st a).pos.deviceID = st.pos.deviceID) (as : List α) :
    ∀ st, (as.foldl f st).pos.deviceID = st.pos.deviceID := by
  induction as with
  | nil => exact fun _ => rfl
  | cons a as ih => exact fun st => (ih (f st a)).trans (hf st a)

theorem Element.store_deviceID (kind : GroupKind) (st : IOState) (e : Element) :
    (e.store kind st).pos.deviceID = st.pos.deviceID := by
  rcases kind with _ | _
  · exact applyIOValue_deviceID st.pos e.id _
  · rfl

theorem Group.store_deviceID {idWidth : Nat} (st : IOState) (g : Group idWidth) :
    (g.store st).pos.deviceID = st.pos.deviceID :=
  foldl_deviceID (Element.store_deviceID g.kind) g.elements st

theorem AVLRecord.decode_deviceID {layout : Layout} (a : AVLRecord layout) (deviceID : Int) :
    (a.decode deviceID).deviceID = deviceID := by
  have hgroups : (a.io.decode ⟨a.gps.position deviceID, ∅⟩).pos.deviceID = deviceID :=
    foldl_deviceID Group.store_deviceID a.io.groups ⟨a.gps.position deviceID, ∅⟩
  rw [AVLRecord.decode, IOState.position]
  split_ifs
  · exact hgroups
  · exact hgroups

/-- A frame is decoded into positions of the device it is decoded for. -/
theorem parseFrame_deviceID {payload : List UInt8} {deviceID : Int} {ps : List Position}
    (h : parseFrame payload deviceID = .returns ps none) : ∀ pos ∈ ps, pos.deviceID = deviceID := by
  obtain ⟨extended, data, rfl, hne⟩ := parseFrame_returns_codecOf h
  rw [parseFrame_codecOf extended data deviceID hne] at h
  obtain ⟨as, -, -, -, -, rfl⟩ := parseRecords_eq_returns.mp h
  intro pos hpos
  obtain ⟨a, -, rfl⟩ := List.mem_map.mp hpos
  exact a.decode_deviceID deviceID

theorem normalise_deviceID {deviceID : Int} (clock : Nat → Int) {ps : List Position}
    (h : ∀ pos ∈ ps, pos.deviceID = deviceID) (readings : Nat) :
    ∀ pos ∈ (normalise clock ps readings).1, pos.deviceID = deviceID := by
  have hspec := normalise_spec clock ps readings
  revert hspec
  generalize (normalise clock ps readings).1 = qs
  intro hspec
  induction hspec with
  | nil => exact fun _ hpos => absurd hpos List.not_mem_nil
  | cons hpair _ ih =>
      intro pos hpos
      rcases List.mem_cons.mp hpos with rfl | hpos
      · rename_i p _ _ _
        have hp := h p List.mem_cons_self
        unfold Normalised at hpair
        split_ifs at hpair
        · obtain ⟨now, rfl⟩ := hpair
          exact hp
        · rw [hpair]
          exact hp
      · exact ih (fun p hp => h p (List.mem_cons_of_mem _ hp)) pos hpos

/-! ### Sessions that are up to date -/

/-- What a handler has found is still so. -/
def LiveHandler.Current (devices : List DeviceRow) : LiveHandler → Prop
  | .resolved _ deviceID => Database.Has devices deviceID
  | .serving sess _ => Database.Owns devices sess.companyID sess.deviceID
  | _ => True

def LiveState.Current (s : LiveState Conn) : Prop := ∀ conn, (s.handler conn).Current s.db.devices

theorem Database.Owns.has {devices : List DeviceRow} {companyID deviceID : Int}
    (h : Database.Owns devices companyID deviceID) : Database.Has devices deviceID := by
  obtain ⟨d, hd, hid, -⟩ := h
  exact ⟨d, hd, hid⟩

theorem Database.deviceByIMEI_has {db : Database} {imei : List UInt8} {deviceID : Int}
    (h : db.deviceByIMEI imei = some deviceID) : Database.Has db.devices deviceID := by
  obtain ⟨d, hfind, hid⟩ := Option.map_eq_some_iff.mp h
  exact ⟨d, List.mem_of_find?_eq_some hfind, hid⟩

theorem Database.lookupDeviceContext_owns {db : Database} {deviceID : Int}
    (h : Database.Has db.devices deviceID) :
    Database.Owns db.devices (db.lookupDeviceContext deviceID).1 deviceID := by
  obtain ⟨d, hd, hid⟩ := h
  rw [Database.lookupDeviceContext]
  cases hfind : db.devices.find? (·.id = deviceID) with
  | none =>
      have hnone := List.find?_eq_none.mp hfind d hd
      simp [hid] at hnone
  | some found =>
      have hfound := List.find?_some hfind
      exact ⟨found, List.mem_of_find?_eq_some hfind, by simpa using hfound, rfl⟩

/-- A device that is provisioned again keeps its row, and its company as well unless it is given
another one. -/
theorem Database.upsertDevice_row (db : Database) (id : Int) (imei : List UInt8)
    (companyID : Option Int) {d : DeviceRow} (hd : d ∈ db.devices) :
    ∃ d' ∈ (db.upsertDevice id imei companyID).devices, d'.id = d.id ∧
      (d'.owner = d.owner ∨ d.imei = imei ∧ companyID = some d'.owner) := by
  unfold Database.upsertDevice
  split_ifs
  · refine ⟨_, List.mem_map_of_mem hd, ?_⟩
    by_cases himei : d.imei = imei
    · rw [if_pos himei]
      obtain _ | company := companyID
      · exact ⟨rfl, .inl rfl⟩
      · exact ⟨rfl, .inr ⟨himei, rfl⟩⟩
    · rw [if_neg himei]
      exact ⟨rfl, .inl rfl⟩
  · exact ⟨d, List.mem_append_left _ hd, rfl, .inl rfl⟩

/-- A row is deleted only if its device is. -/
theorem Database.deleteDevice_row (db : Database) (deviceID companyID : Int) {d : DeviceRow}
    (hd : d ∈ db.devices) : d ∈ (db.deleteDevice deviceID companyID).devices ∨
      (d.id = deviceID ∧ d.companyID = some companyID) := by
  by_cases hgone : d.id = deviceID ∧ d.companyID = some companyID
  · exact .inr hgone
  · left
    unfold Database.deleteDevice
    dsimp only
    split_ifs
    · exact List.mem_filter.mpr ⟨hd, (Bool.not_eq_true' _).mpr (decide_eq_false hgone)⟩
    · exact hd

theorem current_provision {s : LiveState Conn} (hs : s.Current) (imei : List UInt8)
    (companyID : Option Int) (h : Undisturbed s (.provision imei companyID)) (conn : Conn) :
    (s.handler conn).Current (s.db.upsertDevice s.nextDevice imei companyID).devices := by
  have hconn := hs conn
  cases hhandler : s.handler conn with
  | absent => trivial
  | accepted => trivial
  | resolved _ deviceID =>
      rw [hhandler] at hconn
      obtain ⟨d, hd, hid⟩ := hconn
      obtain ⟨d', hd', hid', -⟩ := s.db.upsertDevice_row s.nextDevice imei companyID hd
      exact ⟨d', hd', hid'.trans hid⟩
  | serving sess work =>
      rw [hhandler] at hconn
      obtain ⟨d, hd, hid, howner⟩ := hconn
      obtain ⟨d', hd', hid', hsame | ⟨himei, rfl⟩⟩ :=
        s.db.upsertDevice_row s.nextDevice imei companyID hd
      · exact ⟨d', hd', hid'.trans hid, hsame.trans howner⟩
      · refine ⟨d', hd', hid'.trans hid, ?_⟩
        by_contra hne
        exact h d hd himei (fun heq => hne (heq.symm.trans howner)) conn sess work hhandler hid.symm

theorem current_delete {s : LiveState Conn} (hs : s.Current) (deviceID companyID : Int)
    (h : Undisturbed s (.delete deviceID companyID)) (conn : Conn) :
    (s.handler conn).Current (s.db.deleteDevice deviceID companyID).devices := by
  have hconn := hs conn
  -- a row that goes is of a device that nobody uses
  have hkept : ∀ d ∈ s.db.devices, (s.handler conn).Uses d.id →
      d ∈ (s.db.deleteDevice deviceID companyID).devices := by
    intro d hd huses
    refine (s.db.deleteDevice_row deviceID companyID hd).resolve_right ?_
    rintro ⟨rfl, hcompany⟩
    exact h ⟨d, hd, rfl, hcompany⟩ conn huses
  cases hhandler : s.handler conn with
  | absent => trivial
  | accepted => trivial
  | resolved _ found =>
      rw [hhandler] at hconn hkept
      obtain ⟨d, hd, hid⟩ := hconn
      exact ⟨d, hkept d hd hid.symm, hid⟩
  | serving sess work =>
      rw [hhandler] at hconn hkept
      obtain ⟨d, hd, hid, howner⟩ := hconn
      exact ⟨d, hkept d hd hid.symm, hid, howner⟩

/-! ### Storing and publishing -/

theorem LiveState.Owned.store {s : LiveState Conn} (hs : s.Owned) {sess : DeviceSession}
    {chunk : List Position} (howns : Database.Owns s.db.devices sess.companyID sess.deviceID)
    (hchunk : ∀ pos ∈ chunk, pos.deviceID = sess.deviceID) (s' : LiveState Conn)
    (hstored : s'.stored = s.stored ++ chunk.map fun pos => ⟨s.db.devices, pos⟩)
    (hpublished : s'.published = s.published) : s'.Owned := by
  refine ⟨?_, ?_, ?_⟩
  · rw [hstored]
    intro e he
    rcases List.mem_append.mp he with he | he
    · exact hs.stored e he
    · obtain ⟨pos, hpos, rfl⟩ := List.mem_map.mp he
      rw [hchunk pos hpos]
      exact howns.has
  · rw [hpublished]
    exact hs.published
  · rw [hpublished]
    exact hs.broadcast

theorem LiveState.Owned.publish {s : LiveState Conn} (hs : s.Owned) {sess : DeviceSession}
    (pos : Position) (howns : Database.Owns s.db.devices sess.companyID sess.deviceID)
    (s' : LiveState Conn) (hstored : s'.stored = s.stored)
    (hpublished : s'.published = s.published ++ [⟨s.db.devices, liveEvent sess pos⟩]) :
    s'.Owned := by
  refine ⟨?_, ?_, ?_⟩
  · rw [hstored]
    exact hs.stored
  · rw [hpublished]
    intro e he
    rcases List.mem_append.mp he with he | he
    · exact hs.published e he
    · obtain rfl := List.mem_singleton.mp he
      exact howns
  · rw [hpublished]
    intro e he data msg hmsg
    rcases List.mem_append.mp he with he | he
    · exact hs.broadcast e he data msg hmsg
    · obtain rfl := List.mem_singleton.mp he
      rw [forwardPosition] at hmsg
      split_ifs at hmsg
      obtain rfl := Option.some.inj hmsg
      exact howns

/-! ### What a step does -/

/-- The chunks a handler still has to store are of its device. -/
def LiveHandler.Chunked : LiveHandler → Prop
  | .serving sess (.storing _ chunks _) => ∀ pos ∈ chunks.flatten, pos.deviceID = sess.deviceID
  | _ => True

/-- A handler may go on to this. -/
def LiveHandler.Fine (devices : List DeviceRow) (handler : LiveHandler) : Prop :=
  handler.Chunked ∧ handler.Current devices

structure LiveState.Inv (s : LiveState Conn) : Prop where
  owned : s.Owned
  fine : ∀ conn, (s.handler conn).Fine s.db.devices

variable [DecidableEq Conn]

/-- If all handlers have a property, they still do when one of them goes on. -/
theorem LiveState.setHandler_forall {P : LiveHandler → Prop} {s : LiveState Conn}
    (hs : ∀ conn, P (s.handler conn)) (conn : Conn) {handler : LiveHandler} (h : P handler) :
    ∀ other, P ((s.setHandler conn handler).handler other) := by
  intro other
  by_cases heq : other = conn
  · subst heq
    simpa [LiveState.setHandler] using h
  · simpa [LiveState.setHandler, heq] using hs other

theorem FrameWork.afterBatch_chunked (sess : DeviceSession) (positions : List Position)
    (stored : Nat) : (LiveHandler.serving sess (.afterBatch positions stored)).Chunked := by
  unfold FrameWork.afterBatch
  split_ifs <;> trivial

theorem exec_batch (db : Database) (now : Int) (chunk : List Position) :
    db.exec now (.insertPositions (batchStatement chunk)) =
      some ({ db with positions := db.positions ++ chunk.map positionRow }, chunk.length) := by
  simp [Database.exec, batchStatement_eval]

/-- The steps a run can take: a handler goes on, or stores a chunk, or publishes a position; or the
registry changes. -/
theorem live_cases {s s' : LiveState Conn} {a : LiveStep Conn}
    (hs : ∀ conn, (s.handler conn).Fine s.db.devices) (h : s.step a = some s') :
    s' = s ∨
    (∃ conn handler, handler.Fine s.db.devices ∧ s' = s.setHandler conn handler) ∨
    (∃ conn now sess positions chunk rest stored,
      s.handler conn = .serving sess (.storing positions (chunk :: rest) stored) ∧
      s' = { s.setHandler conn (.serving sess (.storing positions rest (stored + chunk.length))) with
        db := { s.db with positions := s.db.positions ++ chunk.map positionRow }
        stored := s.stored ++ chunk.map fun pos => ⟨s.db.devices, pos⟩ } ∧
      a = .chunk conn (some now)) ∨
    (∃ conn sess pos rest, s.handler conn = .serving sess (.publishing (pos :: rest)) ∧
      s' = { s.setHandler conn (.serving sess (.publishing rest)) with
        published := s.published ++ [⟨s.db.devices, liveEvent sess pos⟩] } ∧
      a = .publish conn true) ∨
    (∃ imei companyID, a = .provision imei companyID ∧
      s' = { s with
        db := s.db.upsertDevice s.nextDevice imei companyID
        nextDevice := s.nextDevice + 1 }) ∨
    ∃ deviceID companyID, a = .delete deviceID companyID ∧
      s' = { s with db := s.db.deleteDevice deviceID companyID } := by
  have hfine : ∀ {conn handler}, s.handler conn = handler → handler.Fine s.db.devices :=
    fun hhandler => hhandler ▸ hs _
  rcases a with ⟨conn⟩ | ⟨conn, imei⟩ | ⟨conn⟩ | ⟨conn⟩ | ⟨conn, payload, clock⟩ | ⟨conn, outcome⟩ |
    ⟨conn, ok⟩ | ⟨imei, companyID⟩ | ⟨deviceID, companyID⟩
  case accept =>
    simp only [LiveState.step] at h
    split at h
    · obtain rfl := Option.some.inj h
      exact .inr (.inl ⟨conn, .accepted, ⟨trivial, trivial⟩, rfl⟩)
    · cases h
  case resolve =>
    simp only [LiveState.step] at h
    split at h
    · split at h
      · obtain rfl := Option.some.inj h
        exact .inr (.inl ⟨conn, .absent, ⟨trivial, trivial⟩, rfl⟩)
      · rename_i deviceID hfound
        obtain rfl := Option.some.inj h
        exact .inr (.inl ⟨conn, .resolved imei deviceID,
          ⟨trivial, Database.deviceByIMEI_has hfound⟩, rfl⟩)
    · cases h
  case context =>
    simp only [LiveState.step] at h
    split at h
    · rename_i imei deviceID hhandler
      obtain rfl := Option.some.inj h
      refine .inr (.inl ⟨conn, .serving _ .none, ⟨trivial, ?_⟩, rfl⟩)
      exact Database.lookupDeviceContext_owns (hfine hhandler).2
    · cases h
  case leave =>
    obtain rfl := Option.some.inj h
    exact .inr (.inl ⟨conn, .absent, ⟨trivial, trivial⟩, rfl⟩)
  case frame =>
    simp only [LiveState.step] at h
    split at h
    · rename_i sess hhandler
      split at h
      · rename_i positions hparse
        obtain rfl := Option.some.inj h
        refine .inr (.inl ⟨conn, .serving sess (.storing _ _ 0), ⟨?_, (hfine hhandler).2⟩, rfl⟩)
        intro pos hpos
        rw [chunks_flatten] at hpos
        exact normalise_deviceID clock (parseFrame_deviceID hparse) 0 pos hpos
      · exact .inl (Option.some.inj h).symm
    · cases h
  case chunk =>
    simp only [LiveState.step] at h
    split at h
    · rename_i sess positions stored hhandler
      obtain rfl := Option.some.inj h
      exact .inr (.inl ⟨conn, _, ⟨FrameWork.afterBatch_chunked sess positions stored, (hfine hhandler).2⟩, rfl⟩)
    · rename_i sess positions chunk rest stored hhandler
      obtain _ | now := outcome
      · obtain rfl := Option.some.inj h
        exact .inr (.inl ⟨conn, _, ⟨FrameWork.afterBatch_chunked sess positions stored, (hfine hhandler).2⟩,
          rfl⟩)
      · rw [Option.bind_some, exec_batch] at h
        obtain rfl := Option.some.inj h
        exact .inr (.inr (.inl ⟨conn, now, sess, positions, chunk, rest, stored, hhandler, rfl, rfl⟩))
    · cases h
  case publish =>
    simp only [LiveState.step] at h
    split at h
    · rename_i sess hhandler
      obtain rfl := Option.some.inj h
      exact .inr (.inl ⟨conn, .serving sess .none, ⟨trivial, (hfine hhandler).2⟩, rfl⟩)
    · rename_i sess pos rest hhandler
      obtain rfl := Option.some.inj h
      obtain _ | _ := ok
      · exact .inr (.inl ⟨conn, .serving sess (.publishing rest), ⟨trivial, (hfine hhandler).2⟩, rfl⟩)
      · exact .inr (.inr (.inr (.inl ⟨conn, sess, pos, rest, hhandler, rfl, rfl⟩)))
    · cases h
  case provision =>
    obtain rfl := Option.some.inj h
    exact .inr (.inr (.inr (.inr (.inl ⟨imei, companyID, rfl, rfl⟩))))
  case delete =>
    obtain rfl := Option.some.inj h
    exact .inr (.inr (.inr (.inr (.inr ⟨deviceID, companyID, rfl, rfl⟩))))

/-! ### Runs that do not disturb the sessions -/

theorem LiveState.Inv.step {s s' : LiveState Conn} {a : LiveStep Conn} (hs : s.Inv)
    (ha : Undisturbed s a) (h : s.step a = some s') : s'.Inv := by
  have hcurrent : s.Current := fun conn => (hs.fine conn).2
  rcases live_cases hs.fine h with rfl | ⟨conn, handler, hfine, rfl⟩ |
    ⟨conn, now, sess, positions, chunk, rest, stored, hhandler, rfl, rfl⟩ |
    ⟨conn, sess, pos, rest, hhandler, rfl, rfl⟩ | ⟨imei, companyID, rfl, rfl⟩ |
    ⟨deviceID, companyID, rfl, rfl⟩
  · exact hs
  · exact ⟨⟨hs.owned.stored, hs.owned.published, hs.owned.broadcast⟩,
      LiveState.setHandler_forall hs.fine conn hfine⟩
  · have hfine := hs.fine conn
    rw [hhandler] at hfine
    obtain ⟨hchunks, howns⟩ := hfine
    have hchunk : ∀ pos ∈ chunk, pos.deviceID = sess.deviceID :=
      fun pos hpos => hchunks pos (List.mem_append_left _ hpos)
    refine ⟨hs.owned.store howns hchunk _ rfl rfl, LiveState.setHandler_forall hs.fine conn ?_⟩
    exact ⟨fun pos hpos => hchunks pos (List.mem_append_right _ hpos), howns⟩
  · have hfine := hs.fine conn
    rw [hhandler] at hfine
    exact ⟨hs.owned.publish pos hfine.2 _ rfl rfl,
      LiveState.setHandler_forall hs.fine conn ⟨trivial, hfine.2⟩⟩
  · exact ⟨⟨hs.owned.stored, hs.owned.published, hs.owned.broadcast⟩,
      fun conn => ⟨(hs.fine conn).1, current_provision hcurrent imei companyID ha conn⟩⟩
  · exact ⟨⟨hs.owned.stored, hs.owned.published, hs.owned.broadcast⟩,
      fun conn => ⟨(hs.fine conn).1, current_delete hcurrent deviceID companyID ha conn⟩⟩

theorem LiveState.inv_init (db : Database) (nextDevice : Int) :
    (liveSessions Conn db nextDevice).init.Inv where
  owned := ⟨fun _ he => absurd he List.not_mem_nil, fun _ he => absurd he List.not_mem_nil,
    fun _ he => absurd he List.not_mem_nil⟩
  fine := fun _ => ⟨trivial, trivial⟩

theorem chunks_cons (pos : Position) (ps : List Position) :
    ∃ chunk rest, chunks (pos :: ps) = (pos :: chunk) :: rest := by
  obtain ⟨n, hn⟩ : ∃ n, ((pos :: ps).length + chunkSize - 1) / chunkSize = n + 1 := by
    refine Nat.exists_eq_add_one.mpr (Nat.div_pos ?_ (by decide))
    rw [List.length_cons]
    omega
  rw [chunks, hn, List.range_succ_eq_map]
  exact ⟨_, _, rfl⟩

@[simp] theorem LiveState.setHandler_handler (s : LiveState Conn) (conn : Conn)
    (handler : LiveHandler) : (s.setHandler conn handler).handler conn = handler := by
  simp [LiveState.setHandler]

theorem step_chunk {s : LiveState Conn} {conn : Conn} {sess : DeviceSession}
    {positions chunk : List Position} {rest : List (List Position)} {stored : Nat}
    (hhandler : s.handler conn = .serving sess (.storing positions (chunk :: rest) stored))
    (now : Int) : s.step (.chunk conn (some now)) =
      some { s.setHandler conn (.serving sess (.storing positions rest (stored + chunk.length))) with
        db := { s.db with positions := s.db.positions ++ chunk.map positionRow }
        stored := s.stored ++ chunk.map fun pos => ⟨s.db.devices, pos⟩ } := by
  simp only [LiveState.step, hhandler, Option.bind_some, exec_batch]

/-- Once a chunk is stored, the handler publishes when it has no more, or the next one fails. -/
theorem step_afterBatch {s : LiveState Conn} {conn : Conn} {sess : DeviceSession}
    {positions : List Position} {todo : List (List Position)} {stored : Nat}
    (hhandler : s.handler conn = .serving sess (.storing positions todo stored))
    (hstored : 0 < stored) : s.step (.chunk conn none) =
      some (s.setHandler conn (.serving sess (.publishing positions))) := by
  obtain _ | ⟨chunk, rest⟩ := todo
  · simp [LiveState.step, hhandler, FrameWork.afterBatch, hstored]
  · simp [LiveState.step, hhandler, FrameWork.afterBatch, hstored]

theorem step_publish {s : LiveState Conn} {conn : Conn} {sess : DeviceSession} {pos : Position}
    {rest : List Position} (hhandler : s.handler conn = .serving sess (.publishing (pos :: rest))) :
    s.step (.publish conn true) =
      some { s.setHandler conn (.serving sess (.publishing rest)) with
        published := s.published ++ [⟨s.db.devices, liveEvent sess pos⟩] } := by
  simp [LiveState.step, hhandler]

theorem run_live_cons {db : Database} {nextDevice : Int} {s s' : LiveState Conn} {a : LiveStep Conn}
    {as : List (LiveStep Conn)} (h : s.step a = some s') :
    (liveSessions Conn db nextDevice).run s (a :: as) = (liveSessions Conn db nextDevice).run s' as :=
  Machine.run_cons h

/-- The next frame of an idle session is stored and published under it, whatever the registry says
by now. -/
theorem run_frame {db : Database} {nextDevice : Int} {s : LiveState Conn} {conn : Conn}
    {sess : DeviceSession} {payload : List UInt8} {positions : List Position}
    (hhandler : s.handler conn = .serving sess .none)
    (hparse : parseFrame payload sess.deviceID = .returns positions none)
    (hne : positions ≠ []) (clock : Nat → Int) :
    ∃ pos s', pos.deviceID = sess.deviceID ∧ ⟨s.db.devices, pos⟩ ∈ s'.stored ∧
      ⟨s.db.devices, liveEvent sess pos⟩ ∈ s'.published ∧
      (liveSessions Conn db nextDevice).run s [.frame conn payload clock, .chunk conn (some 0),
        .chunk conn none, .publish conn true] = some s' := by
  have hspec := normalise_spec clock positions 0
  have hids := normalise_deviceID clock (parseFrame_deviceID hparse) 0
  have hframe : s.step (.frame conn payload clock) = some (s.setHandler conn (.serving sess
      (.storing (normalise clock positions 0).1 (chunks (normalise clock positions 0).1) 0))) := by
    simp [LiveState.step, hhandler, hparse]
  generalize (normalise clock positions 0).1 = qs at hspec hids hframe
  obtain _ | ⟨pos, ps⟩ := qs
  · cases hspec
    exact absurd rfl hne
  · obtain ⟨chunk, rest, hchunks⟩ := chunks_cons pos ps
    rw [hchunks] at hframe
    -- the rest of the chunks does not matter: if there is one, its statement fails
    obtain ⟨s₁, hstep₁, hhandler₁, hdevices₁⟩ : ∃ s₁, s.step (.frame conn payload clock) = some s₁ ∧
        s₁.handler conn = .serving sess (.storing (pos :: ps) ((pos :: chunk) :: rest) 0) ∧
        s₁.db.devices = s.db.devices :=
      ⟨_, hframe, LiveState.setHandler_handler _ _ _, rfl⟩
    obtain ⟨s₂, hstep₂, hhandler₂, hdevices₂, hstored₂⟩ : ∃ s₂,
        s₁.step (.chunk conn (some 0)) = some s₂ ∧
        s₂.handler conn = .serving sess (.storing (pos :: ps) rest (0 + (pos :: chunk).length)) ∧
        s₂.db.devices = s₁.db.devices ∧ ⟨s₁.db.devices, pos⟩ ∈ s₂.stored :=
      ⟨_, step_chunk hhandler₁ 0, LiveState.setHandler_handler _ _ _, rfl,
        List.mem_append_right _ List.mem_cons_self⟩
    have hstep₃ := step_afterBatch hhandler₂ (by simp)
    obtain ⟨s₄, hstep₄, hstored₄, hpublished₄⟩ : ∃ s₄,
        (s₂.setHandler conn (.serving sess (.publishing (pos :: ps)))).step (.publish conn true) =
          some s₄ ∧ s₄.stored = s₂.stored ∧ ⟨s₂.db.devices, liveEvent sess pos⟩ ∈ s₄.published :=
      ⟨_, step_publish (LiveState.setHandler_handler _ _ _), rfl,
        List.mem_append_right _ (List.mem_singleton_self _)⟩
    rw [← hdevices₁]
    refine ⟨pos, s₄, hids pos List.mem_cons_self, hstored₄ ▸ hstored₂, hdevices₂ ▸ hpublished₄, ?_⟩
    rw [run_live_cons hstep₁, run_live_cons hstep₂, run_live_cons hstep₃, run_live_cons hstep₄]
    rfl

/-- A vehicle of company 1, and its device. -/
def trackedVehicle : Database := ⟨[⟨7, some 1, [0x31], none⟩], [⟨1, some 7, "GJ-01", none, 0⟩], []⟩

/-- The device connects. -/
def deviceConnects : List (LiveStep Unit) := [.accept (), .resolve () [0x31], .context ()]

theorem parkedReport_nonempty : parkedReport.positions ≠ [] := List.cons_ne_nil _ _

end RudraNetra
