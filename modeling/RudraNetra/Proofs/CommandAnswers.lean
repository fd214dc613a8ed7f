/-
When the answers of a device are recorded on the commands they answer.

A response carries no id.  It is recorded on the command that `lastCommand` holds when
the response is loaded, so what has to hold is that it is the one that is answered: the
subscriber has stored it, and since then neither stored another one nor has an earlier
response cleared it (`LoadsAnswered`).

Commands are written, answered, received and recorded in one order, so the commands
written to the socket are, from front to back, those whose answers are recorded, at the
responder, on the way, and those that are not answered (`Pipeline`).
-/
import RudraNetra.Proofs.CommandLifecycle

namespace RudraNetra

/-- When a response is loaded, `lastCommand` holds the command it answers. -/
def LoadsAnswered (s : CommandState Unit) : CommandEvent Unit → Prop
  | .load _ => ∀ text id, (s.link ()).responder = .received text (some id) →
      (s.link ()).lastCommand = id
  | _ => True

instance (s : CommandState Unit) : ∀ event, Decidable (LoadsAnswered s event)
  | .load _ =>
    match h : (s.link ()).responder with
    | .received text (some id) =>
      decidable_of_iff ((s.link ()).lastCommand = id) (by
        simp [LoadsAnswered, h])
    | .received text none => isTrue (by simp [LoadsAnswered, h])
    | .waiting | .loaded _ _ _ | .recorded => isTrue (by simp [LoadsAnswered, h])
  | .issue _ _ _ _ _ | .publish _ _ | .connect _ _ | .disconnect _ | .take | .write _ | .store
  | .mark _ | .answer _ _ | .send _ _ | .receive _ | .record _ _ | .clear _ => isTrue trivial

/-- The subscriber is idle and nothing is under way on the connection. -/
structure CommandState.Finished (s : CommandState Unit) : Prop where
  subscriber : s.subscriber = .idle
  downstream : (s.link ()).downstream = []
  upstream : (s.link ()).upstream = []
  responder : (s.link ()).responder = .waiting

/-- Every response is on the row of the command it answers, and in the end every command that was
written to the socket is acknowledged with what the device answered to it, which is one answer. -/
structure CommandState.Attributed (s : CommandState Unit) : Prop where
  right : ∀ r ∈ s.recorded, r.answers = some r.row
  once : (s.recorded.map (·.row)).Nodup
  answeredOnce : (s.answered.map Prod.fst).Nodup
  complete : s.Finished → ∀ id ∈ s.written, ∃ text, (id, text) ∈ s.answered ∧
    ∃ r ∈ s.rows, r.id = id ∧ r.status = .acknowledged ∧ r.response = some text

/-! ### What a step does -/

/-- What can happen on the only connection, with all that was checked. -/
inductive Moves (s : CommandState Unit) : CommandEvent Unit → CommandState Unit → Prop where
  | refuse {event : CommandEvent Unit} : Moves s event s
  | issue {event : CommandEvent Unit} (imei : List UInt8) (command : String) (row : CommandRow)
      (hid : row.id = s.nextID) :
      Moves s event { s with
        rows := s.rows ++ [row]
        nextID := s.nextID + 1
        unpublished := s.unpublished ++ [⟨imei, s.nextID, command⟩] }
  | publish {i : Nat} {ok : Bool} (cmd : CommandMessage) (hcmd : s.unpublished[i]? = some cmd) :
      Moves s (.publish i ok) { s with
        unpublished := s.unpublished.eraseIdx i
        channel := if ok then s.channel ++ [cmd] else s.channel }
  | skip (cmd : CommandMessage) (channel : List CommandMessage) (hidle : s.subscriber = .idle)
      (hchannel : s.channel = cmd :: channel) :
      Moves s .take { s with channel := channel }
  | take (cmd : CommandMessage) (channel : List CommandMessage) (hidle : s.subscriber = .idle)
      (hchannel : s.channel = cmd :: channel) :
      Moves s .take { s with channel := channel, subscriber := .writing () cmd }
  | fail (cmd : CommandMessage) (hwriting : s.subscriber = .writing () cmd) :
      Moves s (.write false) { s with subscriber := .idle }
  | write (cmd : CommandMessage) (frame : List UInt8) (hwriting : s.subscriber = .writing () cmd) :
      Moves s (.write true) { s.setLink () { s.link () with
          downstream := (s.link ()).downstream ++ [⟨cmd.commandID, frame⟩] } with
        subscriber := .storing () cmd
        written := s.written ++ [cmd.commandID] }
  | store (cmd : CommandMessage) (hstoring : s.subscriber = .storing () cmd) :
      Moves s .store { s.setLink () { s.link () with lastCommand := cmd.commandID } with
        subscriber := .marking cmd }
  | mark {now : Int} (cmd : CommandMessage) (hmarking : s.subscriber = .marking cmd) :
      Moves s (.mark now) { s with
        rows := markDelivered now cmd.commandID s.rows
        subscriber := .idle }
  | answer {payload : List UInt8} (sent : Downlink) (downstream : List Downlink)
      (text : List UInt8) (hsent : (s.link ()).downstream = sent :: downstream)
      (htext : parseCommandPayload payload = .returns [text] none) :
      Moves s (.answer () payload) { s.setLink () { s.link () with
          downstream := downstream
          upstream := (s.link ()).upstream ++ [⟨payload, some sent.commandID⟩] } with
        answered := s.answered ++ [(sent.commandID, text)] }
  | drop (up : Uplink) (upstream : List Uplink) (hwaiting : (s.link ()).responder = .waiting)
      (hup : (s.link ()).upstream = up :: upstream) (htext : responseText up.payload = none) :
      Moves s (.receive ()) (s.setLink () { s.link () with upstream := upstream })
  | receive (up : Uplink) (upstream : List Uplink) (text : List UInt8)
      (hwaiting : (s.link ()).responder = .waiting) (hup : (s.link ()).upstream = up :: upstream)
      (htext : responseText up.payload = some text) :
      Moves s (.receive ()) (s.setLink () { s.link () with
        upstream := upstream
        responder := .received text up.answers })
  | load (text : List UInt8) (answers : Option Int)
      (hreceived : (s.link ()).responder = .received text answers) :
      Moves s (.load ()) (s.setLink () { s.link () with
        responder := if (s.link ()).lastCommand > 0 then
          .loaded text answers (s.link ()).lastCommand else .waiting })
  | record {now : Int} (text : List UInt8) (answers : Option Int) (id : Int)
      (hloaded : (s.link ()).responder = .loaded text answers id) :
      Moves s (.record () now) { s.setLink () { s.link () with responder := .recorded } with
        rows := markAcknowledged now text id s.rows
        recorded := s.recorded ++ [⟨answers, id, text⟩] }
  | clear (hrecorded : (s.link ()).responder = .recorded) :
      Moves s (.clear ()) (s.setLink () { s.link () with lastCommand := 0, responder := .waiting })

theorem moves_of_step {imei : List UInt8} {s s' : CommandState Unit} {event : CommandEvent Unit}
    (h : (answering imei).step s event = some s') : Moves s event s' := by
  have hstep : event.fromAnsweringDevice = true ∧ s.step event = some s' := by
    simpa [answering] using h
  obtain ⟨hdevice, h⟩ := hstep
  rcases event with ⟨req, pin, device, vehicleID, now⟩ | ⟨i, ok⟩ | ⟨conn, device⟩ | ⟨device⟩ | _ | ok |
    _ | ⟨now⟩ | ⟨conn, payload⟩ | ⟨conn, payload⟩ | ⟨conn⟩ | ⟨conn⟩ | ⟨conn, now⟩ | ⟨conn⟩ <;>
    simp only [CommandState.step] at h
  · rcases hcheck : checkCommand req pin device with refusal | ⟨deviceID, device, command⟩
    · rw [hcheck] at h
      obtain rfl := Option.some.inj h
      exact .refuse
    · rw [hcheck] at h
      obtain rfl := Option.some.inj h
      exact .issue device command _ rfl
  · rcases hcmd : s.unpublished[i]? with _ | cmd
    · rw [hcmd] at h
      cases h
    · rw [hcmd] at h
      obtain rfl := Option.some.inj h
      exact .publish cmd hcmd
  · cases hdevice
  · cases hdevice
  · split at h
    · rename_i cmd channel hidle hchannel
      rcases hsess : s.sessions cmd.imei with _ | conn
      · rw [hsess] at h
        obtain rfl := Option.some.inj h
        exact .skip cmd channel hidle hchannel
      · rw [hsess] at h
        obtain rfl := Option.some.inj h
        exact .take cmd channel hidle hchannel
    · cases h
  · split at h
    · rename_i conn cmd hwriting
      obtain _ | _ := ok
      · obtain rfl := Option.some.inj h
        exact .fail cmd hwriting
      · obtain rfl := Option.some.inj h
        exact .write cmd _ hwriting
    · cases h
  · split at h
    · rename_i conn cmd hstoring
      obtain rfl := Option.some.inj h
      exact .store cmd hstoring
    · cases h
  · split at h
    · rename_i cmd hmarking
      obtain rfl := Option.some.inj h
      exact .mark cmd hmarking
    · cases h
  · split at h
    · rename_i sent downstream text hsent htext
      obtain rfl := Option.some.inj h
      exact .answer sent downstream text hsent htext
    · cases h
  · cases hdevice
  · split at h
    · rename_i up upstream hwaiting hup
      rcases htext : responseText up.payload with _ | text
      · rw [htext] at h
        obtain rfl := Option.some.inj h
        exact .drop up upstream hwaiting hup htext
      · rw [htext] at h
        obtain rfl := Option.some.inj h
        exact .receive up upstream text hwaiting hup htext
    · cases h
  · split at h
    · rename_i text answers hreceived
      obtain rfl := Option.some.inj h
      exact .load text answers hreceived
    · cases h
  · split at h
    · rename_i text answers id hloaded
      obtain rfl := Option.some.inj h
      exact .record text answers id hloaded
    · cases h
  · split at h
    · rename_i hrecorded
      obtain rfl := Option.some.inj h
      exact .clear hrecorded
    · cases h

/-! ### Every command has an id of its own -/

/-- The id of a command that has been taken and not written. -/
def Subscriber.todo {Conn : Type} : Subscriber Conn → List Int
  | .writing _ cmd => [cmd.commandID]
  | _ => []

/-- The ids of all commands that are or will be written. -/
def CommandState.ids (s : CommandState Unit) : List Int :=
  s.written ++ (s.subscriber.todo ++ (s.channel.map (·.commandID) ++
    s.unpublished.map (·.commandID)))

theorem markDelivered_ids (now id : Int) (rows : List CommandRow) :
    (markDelivered now id rows).map (·.id) = rows.map (·.id) := by
  simp [markDelivered]

theorem markAcknowledged_ids (now : Int) (text : List UInt8) (id : Int) (rows : List CommandRow) :
    (markAcknowledged now text id rows).map (·.id) = rows.map (·.id) := by
  simp [markAcknowledged]

/-- A step makes a new id for a new row, or no new id. -/
theorem Moves.ids {s s' : CommandState Unit} {event : CommandEvent Unit} (h : Moves s event s') :
    (s'.ids.Subperm s.ids ∧ s'.rows.map (·.id) = s.rows.map (·.id) ∧ s'.nextID = s.nextID) ∨
    (s'.ids = s.ids ++ [s.nextID] ∧ s'.rows.map (·.id) = s.rows.map (·.id) ++ [s.nextID] ∧
      s'.nextID = s.nextID + 1) := by
  cases h with
  | issue imei command row hid =>
      right
      refine ⟨?_, ?_, rfl⟩
      · simp [CommandState.ids]
      · simp [hid]
  | publish cmd hcmd =>
      left
      refine ⟨?_, rfl, rfl⟩
      obtain ⟨hlt, rfl⟩ := List.getElem?_eq_some_iff.mp hcmd
      rename_i i ok
      have hperm := (List.getElem_cons_eraseIdx_perm hlt).map (·.commandID)
      apply List.Subperm.append (List.Subperm.refl _)
      apply List.Subperm.append (List.Subperm.refl _)
      obtain _ | _ := ok
      · exact (((List.eraseIdx_sublist _ _).map _).append_left _).subperm
      · show List.Subperm ((s.channel ++ [_]).map _ ++ _) _
        rw [List.map_append, List.append_assoc]
        exact (hperm.append_left _).subperm
  | skip cmd channel hidle hchannel =>
      left
      refine ⟨?_, rfl, rfl⟩
      simp only [CommandState.ids, hidle, hchannel, Subscriber.todo, List.map_cons, List.nil_append]
      exact ((List.sublist_cons_self _ _).append_left _).subperm
  | take cmd channel hidle hchannel =>
      left
      refine ⟨?_, rfl, rfl⟩
      apply List.Perm.subperm
      apply List.Perm.of_eq
      simp [CommandState.ids, hidle, hchannel, Subscriber.todo]
  | fail cmd hwriting =>
      left
      refine ⟨?_, rfl, rfl⟩
      simp only [CommandState.ids, hwriting, Subscriber.todo, List.nil_append]
      exact ((List.sublist_append_right _ _).append_left _).subperm
  | write cmd frame hwriting =>
      left
      refine ⟨?_, rfl, rfl⟩
      apply List.Perm.subperm
      apply List.Perm.of_eq
      simp [CommandState.ids, CommandState.setLink, hwriting, Subscriber.todo]
  | store cmd hstoring =>
      left
      refine ⟨?_, rfl, rfl⟩
      apply List.Perm.subperm
      apply List.Perm.of_eq
      simp [CommandState.ids, CommandState.setLink, hstoring, Subscriber.todo]
  | mark cmd hmarking =>
      left
      refine ⟨?_, markDelivered_ids _ _ _, rfl⟩
      apply List.Perm.subperm
      apply List.Perm.of_eq
      simp [CommandState.ids, hmarking, Subscriber.todo]
  | record text answers id hloaded =>
      exact .inl ⟨List.Subperm.refl _, markAcknowledged_ids _ _ _ _, rfl⟩
  | _ => exact .inl ⟨List.Subperm.refl _, rfl, rfl⟩

/-- The ids are distinct, each has a row, and the rows' ids have been given out. -/
structure CommandState.Ids (s : CommandState Unit) : Prop where
  once : s.ids.Nodup
  stored : ∀ id ∈ s.ids, id ∈ s.rows.map (·.id)
  range : ∀ id ∈ s.rows.map (·.id), 0 < id ∧ id < s.nextID
  next : 0 < s.nextID

theorem CommandState.Ids.step {s s' : CommandState Unit} {event : CommandEvent Unit} (hs : s.Ids)
    (h : Moves s event s') : s'.Ids := by
  have hnext := hs.next
  rcases h.ids with ⟨hids, hrows, hid⟩ | ⟨hids, hrows, hid⟩
  · refine ⟨?_, ?_, ?_, by omega⟩
    · obtain ⟨ids, hperm, hsub⟩ := hids
      exact hperm.nodup_iff.mp (hs.once.sublist hsub)
    · rw [hrows]
      exact fun id h => hs.stored id (hids.subset h)
    · rw [hrows, hid]
      exact hs.range
  · refine ⟨?_, ?_, ?_, by omega⟩
    · rw [hids]
      refine List.nodup_append.mpr ⟨hs.once, List.nodup_singleton _, ?_⟩
      intro id hold new hnew heq
      obtain rfl := List.mem_singleton.mp hnew
      have hlt := (hs.range id (hs.stored id hold)).2
      omega
    · intro id h
      rw [hrows]
      rw [hids] at h
      rcases List.mem_append.mp h with h | h
      · exact List.mem_append_left _ (hs.stored id h)
      · exact List.mem_append_right _ h
    · intro id h
      rw [hid]
      rw [hrows] at h
      rcases List.mem_append.mp h with h | h
      · have hrange := hs.range id h
        omega
      · obtain rfl := List.mem_singleton.mp h
        omega

/-! ### Commands are answered in the order in which they are written -/

/-- The command whose response the responder holds. -/
def Responder.underway : Responder → List (Option Int)
  | .received _ answers => [answers]
  | .loaded _ answers _ => [answers]
  | _ => []

/-- The commands that are written and whose responses are not recorded. -/
def CommandLink.pending (l : CommandLink) : List (Option Int) :=
  l.responder.underway ++ (l.upstream.map (·.answers) ++
    l.downstream.map fun sent => some sent.commandID)

structure CommandState.Pipeline (s : CommandState Unit) : Prop where
  order : s.written.map some = s.recorded.map (·.answers) ++ (s.link ()).pending
  answered : s.written = s.answered.map Prod.fst ++ (s.link ()).downstream.map (·.commandID)
  upstream : ∀ up ∈ (s.link ()).upstream, ∃ id text, up.answers = some id ∧
    parseCommandPayload up.payload = .returns [text] none ∧ (id, text) ∈ s.answered
  received : ∀ text answers, (s.link ()).responder = .received text answers →
    ∃ id, answers = some id ∧ (id, text) ∈ s.answered
  loaded : ∀ text answers id, (s.link ()).responder = .loaded text answers id →
    answers = some id ∧ (id, text) ∈ s.answered
  recorded : ∀ r ∈ s.recorded, r.answers = some r.row ∧ (r.row, r.text) ∈ s.answered

/-- Steps that neither write nor answer, and keep what is under way. -/
theorem CommandState.Pipeline.of_underway {s s' : CommandState Unit} (hs : s.Pipeline)
    (hwritten : s'.written = s.written) (hanswered : s'.answered = s.answered)
    (hrecorded : s'.recorded = s.recorded)
    (hdown : (s'.link ()).downstream = (s.link ()).downstream)
    (hup : (s'.link ()).upstream = (s.link ()).upstream)
    (hunderway : (s'.link ()).responder.underway = (s.link ()).responder.underway)
    (hreceived : ∀ text answers, (s'.link ()).responder = .received text answers →
      ∃ id, answers = some id ∧ (id, text) ∈ s.answered)
    (hloaded : ∀ text answers id, (s'.link ()).responder = .loaded text answers id →
      answers = some id ∧ (id, text) ∈ s.answered) : s'.Pipeline where
  order := by
    rw [CommandLink.pending, hwritten, hrecorded, hdown, hup, hunderway]
    exact hs.order
  answered := by
    rw [hwritten, hanswered, hdown]
    exact hs.answered
  upstream := by
    rw [hup, hanswered]
    exact hs.upstream
  received := by
    rw [hanswered]
    exact hreceived
  loaded := by
    rw [hanswered]
    exact hloaded
  recorded := by
    rw [hrecorded, hanswered]
    exact hs.recorded

/-- Steps that are not about the responder either. -/
theorem CommandState.Pipeline.of_same {s s' : CommandState Unit} (hs : s.Pipeline)
    (hwritten : s'.written = s.written) (hanswered : s'.answered = s.answered)
    (hrecorded : s'.recorded = s.recorded)
    (hdown : (s'.link ()).downstream = (s.link ()).downstream)
    (hup : (s'.link ()).upstream = (s.link ()).upstream)
    (hresponder : (s'.link ()).responder = (s.link ()).responder) : s'.Pipeline := by
  refine hs.of_underway hwritten hanswered hrecorded hdown hup (by rw [hresponder]) ?_ ?_
  · rw [hresponder]
    exact hs.received
  · rw [hresponder]
    exact hs.loaded

theorem CommandState.Pipeline.step {s s' : CommandState Unit} {event : CommandEvent Unit}
    (hs : s.Pipeline) (hids : s.Ids) (hload : LoadsAnswered s event) (h : Moves s event s') :
    s'.Pipeline := by
  cases h with
  | write cmd frame hwriting =>
      refine ⟨?_, ?_, ?_, ?_, ?_, hs.recorded⟩
      · simp [CommandLink.pending, hs.order]
      · simp [hs.answered]
      · simpa using hs.upstream
      · simpa using hs.received
      · simpa using hs.loaded
  | answer sent downstream text hsent htext =>
      have hmore : ∀ {entry}, entry ∈ s.answered →
          entry ∈ s.answered ++ [(sent.commandID, text)] := List.mem_append_left _
      refine ⟨?_, ?_, ?_, ?_, ?_, ?_⟩
      · have horder := hs.order
        simp only [CommandLink.pending, hsent] at horder
        simpa [CommandLink.pending] using horder
      · have hanswered := hs.answered
        simp only [hsent] at hanswered
        simpa using hanswered
      · intro up hup
        simp only [CommandState.setLink_link] at hup
        rcases List.mem_append.mp hup with hup | hup
        · obtain ⟨id, text', hid, hparse, hmem⟩ := hs.upstream up hup
          exact ⟨id, text', hid, hparse, hmore hmem⟩
        · obtain rfl := List.mem_singleton.mp hup
          exact ⟨_, text, rfl, htext, List.mem_append_right _ (List.mem_singleton_self _)⟩
      · intro text' answers hreceived
        simp only [CommandState.setLink_link] at hreceived
        obtain ⟨id, hid, hmem⟩ := hs.received text' answers hreceived
        exact ⟨id, hid, hmore hmem⟩
      · intro text' answers id hloaded
        simp only [CommandState.setLink_link] at hloaded
        exact ⟨(hs.loaded text' answers id hloaded).1, hmore (hs.loaded text' answers id hloaded).2⟩
      · exact fun r hr => ⟨(hs.recorded r hr).1, hmore (hs.recorded r hr).2⟩
  | drop up upstream hwaiting hup htext =>
      -- every response has one entry
      obtain ⟨id, text, -, hparse, -⟩ := hs.upstream up (by rw [hup]; exact List.mem_cons_self)
      rw [responseText, hparse] at htext
      cases htext
  | receive up upstream text hwaiting hup htext =>
      obtain ⟨id, text', hid, hparse, hmem⟩ :=
        hs.upstream up (by rw [hup]; exact List.mem_cons_self)
      rw [responseText, hparse] at htext
      obtain rfl := Option.some.inj htext
      refine ⟨?_, ?_, ?_, ?_, ?_, hs.recorded⟩
      · have horder := hs.order
        simp only [CommandLink.pending, hwaiting, hup, Responder.underway] at horder
        simpa [CommandLink.pending, Responder.underway] using horder
      · simpa using hs.answered
      · intro other hother
        simp only [CommandState.setLink_link] at hother
        exact hs.upstream other (by rw [hup]; exact List.mem_cons_of_mem _ hother)
      · intro text answers hreceived
        simp only [CommandState.setLink_link] at hreceived
        obtain ⟨rfl, rfl⟩ := Responder.received.inj hreceived
        exact ⟨id, hid, hmem⟩
      · intro text answers other hloaded
        simp at hloaded
  | load text answers hreceived =>
      obtain ⟨id, rfl, hmem⟩ := hs.received text answers hreceived
      have hslot : (s.link ()).lastCommand = id := hload text id hreceived
      -- the command has been written, so its id is one that was given out
      have hwritten : id ∈ s.written := by
        rw [hs.answered]
        exact List.mem_append_left _ (List.mem_map_of_mem hmem)
      have hpos : id > 0 := (hids.range id (hids.stored id (List.mem_append_left _ hwritten))).1
      rw [hslot, if_pos hpos]
      refine hs.of_underway rfl rfl rfl (by simp) (by simp) ?_ (by simp) ?_
      · simp [hreceived, Responder.underway]
      · intro text' answers id' hloaded
        simp only [CommandState.setLink_link] at hloaded
        obtain ⟨rfl, rfl, rfl⟩ := Responder.loaded.inj hloaded
        exact ⟨rfl, hmem⟩
  | record text answers id hloaded =>
      obtain ⟨rfl, hmem⟩ := hs.loaded text answers id hloaded
      refine ⟨?_, ?_, ?_, ?_, ?_, ?_⟩
      · have horder := hs.order
        simp only [CommandLink.pending, hloaded, Responder.underway] at horder
        simpa [CommandLink.pending, Responder.underway] using horder
      · simpa using hs.answered
      · simpa using hs.upstream
      · intro text' answers hreceived
        simp at hreceived
      · intro text' answers id' hloaded'
        simp at hloaded'
      · intro r hr
        rcases List.mem_append.mp hr with hr | hr
        · exact hs.recorded r hr
        · obtain rfl := List.mem_singleton.mp hr
          exact ⟨rfl, hmem⟩
  | clear hrecorded =>
      refine hs.of_underway rfl rfl rfl (by simp) (by simp) ?_ (by simp) (by simp)
      simp [hrecorded, Responder.underway]
  | store cmd hstoring =>
      exact hs.of_same rfl rfl rfl (by simp) (by simp) (by simp)
  | _ => exact hs.of_same rfl rfl rfl rfl rfl rfl

/-! ### Recorded responses stay on their rows -/

/-- What was recorded is on the row. -/
def CommandState.Done (s : CommandState Unit) : Prop :=
  ∀ r ∈ s.recorded, ∃ row ∈ s.rows, row.id = r.row ∧ row.status = .acknowledged ∧
    row.response = some r.text

/-- No command is both recorded and under way. -/
theorem CommandState.Pipeline.ne_of_pending {s : CommandState Unit} (hs : s.Pipeline)
    (hids : s.Ids) {r : RecordedResponse} {id : Int} (hr : r ∈ s.recorded)
    (hid : some id ∈ (s.link ()).pending) : r.row ≠ id := by
  have hnodup : (s.written.map some).Nodup :=
    ((List.nodup_append.mp hids.once).1).map (Option.some_injective _)
  rw [hs.order] at hnodup
  intro heq
  have hanswers : r.answers = some id := by rw [(hs.recorded r hr).1, heq]
  exact (List.nodup_append.mp hnodup).2.2 _ (List.mem_map_of_mem hr) _ hid hanswers

theorem CommandState.Done.step {s s' : CommandState Unit} {event : CommandEvent Unit}
    (hs : s.Done) (hpipe : s.Pipeline) (hids : s.Ids) (h : Moves s event s') : s'.Done := by
  cases h with
  | issue imei command row hid =>
      intro r hr
      obtain ⟨old, hold, hdone⟩ := hs r hr
      exact ⟨old, List.mem_append_left _ hold, hdone⟩
  | mark cmd hmarking =>
      intro r hr
      obtain ⟨old, hold, hid, hstatus, hresponse⟩ := hs r hr
      have hne : old.status ≠ .sent := by
        rw [hstatus]
        exact nofun
      exact ⟨old, List.mem_map.mpr ⟨old, hold, CommandRow.deliver_of_ne hne⟩, hid, hstatus, hresponse⟩
  | record text answers id hloaded =>
      obtain ⟨rfl, hmem⟩ := hpipe.loaded text answers id hloaded
      have hpending : some id ∈ (s.link ()).pending := by
        rw [CommandLink.pending, hloaded]
        exact List.mem_cons_self
      intro r hr
      rcases List.mem_append.mp hr with hr | hr
      · obtain ⟨old, hold, hid, hdone⟩ := hs r hr
        have hne : old.id ≠ id := by
          rw [hid]
          exact hpipe.ne_of_pending hids hr hpending
        exact ⟨old, List.mem_map.mpr ⟨old, hold, CommandRow.acknowledge_of_ne hne⟩, hid, hdone⟩
      · obtain rfl := List.mem_singleton.mp hr
        have hwritten : id ∈ s.written := by
          rw [hpipe.answered]
          exact List.mem_append_left _ (List.mem_map_of_mem hmem)
        obtain ⟨row, hrow, rfl⟩ :=
          List.mem_map.mp (hids.stored id (List.mem_append_left _ hwritten))
        refine ⟨_, List.mem_map_of_mem hrow, row.acknowledge_id _ _ _, ?_, ?_⟩ <;>
          rw [CommandRow.acknowledge_self]
  | _ => exact hs

/-! ### Whole runs -/

structure CommandState.Inv (s : CommandState Unit) : Prop where
  ids : s.Ids
  pipeline : s.Pipeline
  done : s.Done

theorem inv_connected (imei : List UInt8) : (CommandState.connected imei).Inv where
  ids := ⟨List.nodup_nil, fun _ h => absurd h List.not_mem_nil, fun _ h => absurd h List.not_mem_nil,
    Int.one_pos⟩
  pipeline := by
    refine ⟨rfl, rfl, fun _ h => absurd h List.not_mem_nil, ?_, ?_,
      fun _ h => absurd h List.not_mem_nil⟩
    · intro text answers h
      cases h
    · intro text answers id h
      cases h
  done := fun _ h => absurd h List.not_mem_nil

theorem CommandState.Inv.step {imei : List UInt8} {s s' : CommandState Unit}
    {event : CommandEvent Unit} (hs : s.Inv) (hload : LoadsAnswered s event)
    (h : (answering imei).step s event = some s') : s'.Inv where
  ids := hs.ids.step (moves_of_step h)
  pipeline := hs.pipeline.step hs.ids hload (moves_of_step h)
  done := hs.done.step hs.pipeline hs.ids (moves_of_step h)

theorem CommandState.Inv.attributed {s : CommandState Unit} (hs : s.Inv) : s.Attributed where
  right r hr := (hs.pipeline.recorded r hr).1
  once := by
    have hnodup : (s.written.map some).Nodup :=
      ((List.nodup_append.mp hs.ids.once).1).map (Option.some_injective _)
    rw [hs.pipeline.order] at hnodup
    have hanswers : s.recorded.map (·.answers) = (s.recorded.map (·.row)).map some := by
      rw [List.map_map]
      exact List.map_congr_left fun r hr => (hs.pipeline.recorded r hr).1
    have hrows := (List.nodup_append.mp hnodup).1
    rw [hanswers] at hrows
    exact hrows.of_map _
  answeredOnce := by
    have hnodup := (List.nodup_append.mp hs.ids.once).1
    rw [hs.pipeline.answered] at hnodup
    exact (List.nodup_append.mp hnodup).1
  complete hfinished id hid := by
    have horder := hs.pipeline.order
    have hpending : (s.link ()).pending = [] := by
      rw [CommandLink.pending, hfinished.responder, hfinished.upstream, hfinished.downstream]
      rfl
    rw [hpending, List.append_nil] at horder
    have hmem : some id ∈ s.recorded.map (·.answers) := by
      rw [← horder]
      exact List.mem_map_of_mem hid
    obtain ⟨r, hr, hanswers⟩ := List.mem_map.mp hmem
    obtain ⟨hrow, hanswered⟩ := hs.pipeline.recorded r hr
    obtain rfl : r.row = id := Option.some.inj (hrow.symm.trans hanswers)
    exact ⟨r.text, hanswered, hs.done r hr⟩

/-- **If every response is loaded while `lastCommand` holds the command it answers, then in every
state of the run the responses are on the rows of the commands they answer, and in the end every
command that was written is acknowledged with its own answer.** -/
theorem attributed_of_loadsAnswered (imei : List UInt8) (events : List (CommandEvent Unit))
    (h : (answering imei).AllSteps LoadsAnswered (answering imei).init events) :
    (answering imei).AllStates CommandState.Attributed (answering imei).init events :=
  Machine.allStates_of_allSteps (I := CommandState.Inv)
    (fun _ _ _ hs hload hstep => hs.step hload hstep) (fun _ hs => hs.attributed) events _
    (inv_connected imei) h

/-- A device that answers when its command has been marked. -/
def answeredInTime : List (CommandEvent Unit) :=
  writeCommand ++ [.store, .mark 101, .answer () okPayload, .receive (), .load (), .record () 102,
    .clear ()]

/-- Its answer is recorded as it should be. -/
theorem answeredInTime_attributed : (answering testIMEI).AllStates CommandState.Attributed
    (answering testIMEI).init answeredInTime := by
  apply attributed_of_loadsAnswered
  decide

/-- A response that is loaded at the wrong time is dropped, or recorded on another row. -/
theorem not_attributed_of_load {imei : List UInt8} {s s' : CommandState Unit}
    (hnot : ¬ LoadsAnswered s (.load ())) (h : (answering imei).step s (.load ()) = some s') :
    (s'.link ()).responder = .waiting ∨
    ∀ now s'', (answering imei).step s' (.record () now) = some s'' → ¬ s''.Attributed := by
  obtain ⟨text, id, hreceived, hslot⟩ : ∃ text id,
      (s.link ()).responder = .received text (some id) ∧ (s.link ()).lastCommand ≠ id := by
    simpa [LoadsAnswered] using hnot
  simp only [answering, CommandEvent.fromAnsweringDevice, if_true, CommandState.step,
    hreceived] at h
  obtain rfl := Option.some.inj h
  by_cases hpos : (s.link ()).lastCommand > 0
  · right
    intro now s'' hrecord hattributed
    simp only [answering, CommandEvent.fromAnsweringDevice, if_true, CommandState.step,
      CommandState.setLink_link, if_pos hpos] at hrecord
    obtain rfl := Option.some.inj hrecord
    have hright := hattributed.right _ (List.mem_append_right _ (List.mem_singleton_self _))
    exact hslot (Option.some.inj hright).symm
  · left
    simp [hpos]

/-- The device answers before the subscriber has stored the id. -/
def lostAnswer : List (CommandEvent Unit) :=
  writeCommand ++ [.answer () okPayload, .receive (), .load (), .store, .mark 101]

/-- The device answers one command when the next one has been stored. -/
def crossedAnswer : List (CommandEvent Unit) :=
  writeCommand ++ [.store, .mark 101] ++ writeCommand ++
    [.store, .mark 102, .answer () okPayload, .receive (), .load (), .record () 103]

/-- In the first run all is over and the command is not acknowledged; in the second one the response
is recorded on another command. -/
theorem lostAnswer_crossedAnswer :
    (∃ s, (answering testIMEI).Reachable s ∧ s.Finished ∧
      ∃ r ∈ s.rows, r.id ∈ s.written ∧ r.status = .delivered ∧ r.response = none) ∧
    ∃ s, (answering testIMEI).Reachable s ∧ ∃ r ∈ s.recorded, r.answers = some 1 ∧ r.row = 2 := by
  constructor
  · have hrun : (answering testIMEI).run (answering testIMEI).init lostAnswer = some _ := rfl
    exact ⟨_, Machine.Reachable.init.run hrun, ⟨rfl, rfl, rfl, rfl⟩, _, List.mem_cons_self,
      List.mem_cons_self, rfl, rfl⟩
  · have hrun : (answering testIMEI).run (answering testIMEI).init crossedAnswer = some _ := rfl
    exact ⟨_, Machine.Reachable.init.run hrun, _, List.mem_cons_self, rfl, rfl⟩

end RudraNetra
