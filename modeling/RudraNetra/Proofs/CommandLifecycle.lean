/-
When a command's row goes through its states as documented.

A row starts as `Sent` and only moves forward, whatever the goroutines do (`Known`,
`rows_forward`).  What can go wrong is a time that is missing: the device may answer
before the subscriber has marked the row, and as the mark is only for rows that are still
`Sent`, an acknowledged row then never gets its delivery time.
-/
import RudraNetra.Ingest.Commands

namespace RudraNetra

variable {Conn : Type} [DecidableEq Conn]

/-- What the documented lifecycle says of a row. -/
structure CommandRow.Lifecycle (r : CommandRow) : Prop where
  status : r.status = .sent ∨ r.status = .delivered ∨ r.status = .acknowledged
  delivered : r.status = .delivered → r.deliveredAt.isSome ∧ r.ackAt = none
  acknowledged : r.status = .acknowledged → r.deliveredAt.isSome ∧ r.ackAt.isSome

/-- A response is recorded only on a row that the subscriber has marked. -/
def RecordsMarked (s : CommandState Conn) : CommandEvent Conn → Prop
  | .record conn _ => ∀ text answers id, (s.link conn).responder = .loaded text answers id →
      ∀ r ∈ s.rows, r.id = id → r.status ≠ .sent
  | _ => True

/-- What holds of a row in any case. -/
structure CommandRow.Known (r : CommandRow) : Prop where
  status : r.status = .sent ∨ r.status = .delivered ∨ r.status = .acknowledged
  sent : r.status = .sent → r.deliveredAt = none ∧ r.ackAt = none
  delivered : r.status = .delivered → r.deliveredAt.isSome ∧ r.ackAt = none
  acknowledged : r.status = .acknowledged → r.ackAt.isSome

/-! ### What a step does to the table -/

/-- A step leaves the table alone, adds a row that has just been sent, marks a row, or records a
response. -/
theorem rows_cases {s s' : CommandState Conn} {event : CommandEvent Conn}
    (h : s.step event = some s') :
    (s'.rows = s.rows ∧ RecordsMarked s event) ∨
    (∃ req deviceID vehicleID command now, RecordsMarked s event ∧
      s'.rows = s.rows ++ [sentRow s.nextID req deviceID vehicleID command now]) ∨
    (∃ now id, RecordsMarked s event ∧ s'.rows = markDelivered now id s.rows) ∨
    ∃ conn now text answers id, event = .record conn now ∧
      (s.link conn).responder = .loaded text answers id ∧
      s'.rows = markAcknowledged now text id s.rows := by
  rcases event with ⟨req, pin, imei, vehicleID, now⟩ | ⟨i, ok⟩ | ⟨conn, imei⟩ | ⟨imei⟩ | _ | ok | _ |
    ⟨now⟩ | ⟨conn, payload⟩ | ⟨conn, payload⟩ | ⟨conn⟩ | ⟨conn⟩ | ⟨conn, now⟩ | ⟨conn⟩
  · simp only [CommandState.step] at h
    rcases hcheck : checkCommand req pin imei with refusal | ⟨deviceID, device, command⟩
    · rw [hcheck] at h
      obtain rfl := Option.some.inj h
      exact .inl ⟨rfl, trivial⟩
    · rw [hcheck] at h
      obtain rfl := Option.some.inj h
      exact .inr (.inl ⟨req, deviceID, vehicleID, command, now, trivial, rfl⟩)
  case mark =>
    simp only [CommandState.step] at h
    split at h
    · obtain rfl := Option.some.inj h
      exact .inr (.inr (.inl ⟨now, _, trivial, rfl⟩))
    · cases h
  case record =>
    simp only [CommandState.step] at h
    split at h
    · rename_i text answers id hresponder
      obtain rfl := Option.some.inj h
      exact .inr (.inr (.inr ⟨conn, now, text, answers, id, rfl, hresponder, rfl⟩))
    · cases h
  all_goals
    refine .inl ⟨?_, trivial⟩
    simp only [CommandState.step] at h
    repeat' split at h
    all_goals first | (obtain rfl := Option.some.inj h; rfl) | cases h

theorem markDelivered_getElem? {rows : List CommandRow} {i : Nat} {r : CommandRow} (now id : Int)
    (h : rows[i]? = some r) : (markDelivered now id rows)[i]? = some (r.deliver now id) := by
  rw [markDelivered, List.getElem?_map, h]
  rfl

theorem markAcknowledged_getElem? {rows : List CommandRow} {i : Nat} {r : CommandRow} (now : Int)
    (text : List UInt8) (id : Int) (h : rows[i]? = some r) :
    (markAcknowledged now text id rows)[i]? = some (r.acknowledge now text id) := by
  rw [markAcknowledged, List.getElem?_map, h]
  rfl

/-! ### What holds in any case -/

theorem CommandRow.Known.deliver {r : CommandRow} (h : r.Known) (now id : Int) :
    (r.deliver now id).Known := by
  rcases r.deliver_cases now id with heq | ⟨-, hsent, heq⟩
  · rw [heq]
    exact h
  · rw [heq]
    exact ⟨.inr (.inl rfl), nofun, fun _ => ⟨rfl, (h.sent hsent).2⟩, nofun⟩

theorem CommandRow.Known.acknowledge {r : CommandRow} (h : r.Known) (now : Int)
    (text : List UInt8) (id : Int) : (r.acknowledge now text id).Known := by
  rcases r.acknowledge_cases now text id with heq | ⟨-, heq⟩
  · rw [heq]
    exact h
  · rw [heq]
    exact ⟨.inr (.inr rfl), nofun, nofun, fun _ => rfl⟩

theorem sentRow_known (id : Int) (req : CommandRequest) (deviceID : Int) (vehicleID : Option Int)
    (command : String) (now : Int) : (sentRow id req deviceID vehicleID command now).Known :=
  ⟨.inl rfl, fun _ => ⟨rfl, rfl⟩, nofun, nofun⟩

/-- What holds of every row and of a row that has just been sent, and is kept by both updates, is
kept by every step. -/
theorem rows_step {P : CommandRow → Prop} {s s' : CommandState Conn} {event : CommandEvent Conn}
    (hsent : ∀ id req deviceID vehicleID command now,
      P (sentRow id req deviceID vehicleID command now))
    (hdeliver : ∀ r now id, P r → P (r.deliver now id))
    (hack : ∀ conn now text answers id, event = .record conn now →
      (s.link conn).responder = .loaded text answers id →
      ∀ r ∈ s.rows, P r → P (r.acknowledge now text id))
    (hs : ∀ r ∈ s.rows, P r) (h : s.step event = some s') : ∀ r ∈ s'.rows, P r := by
  rcases rows_cases h with ⟨hrows, -⟩ | ⟨req, deviceID, vehicleID, command, now, -, hrows⟩ |
    ⟨now, id, -, hrows⟩ | ⟨conn, now, text, answers, id, hevent, hresponder, hrows⟩ <;>
    rw [hrows]
  · exact hs
  · intro r hr
    rcases List.mem_append.mp hr with hr | hr
    · exact hs r hr
    · obtain rfl := List.mem_singleton.mp hr
      exact hsent _ _ _ _ _ _
  · intro r hr
    obtain ⟨old, hold, rfl⟩ := List.mem_map.mp hr
    exact hdeliver old now id (hs old hold)
  · intro r hr
    obtain ⟨old, hold, rfl⟩ := List.mem_map.mp hr
    exact hack conn now text answers id hevent hresponder old hold (hs old hold)

def CommandState.Known (s : CommandState Conn) : Prop := ∀ r ∈ s.rows, r.Known

theorem CommandState.Known.step {s s' : CommandState Conn} {event : CommandEvent Conn}
    (hs : s.Known) (h : s.step event = some s') : s'.Known :=
  rows_step sentRow_known (fun _ now id hr => hr.deliver now id)
    (fun _ now text _ id _ _ _ _ hr => hr.acknowledge now text id) hs h

theorem known_init : (commands Conn).init.Known := fun _ h => absurd h List.not_mem_nil

/-- A row stays where it is and does not move backwards. -/
theorem rows_forward {s s' : CommandState Conn} {event : CommandEvent Conn} (hs : s.Known)
    (h : s.step event = some s') {i : Nat} {r : CommandRow} (hr : s.rows[i]? = some r) :
    ∃ r', s'.rows[i]? = some r' ∧ r'.id = r.id ∧ r.status.rank ≤ r'.status.rank := by
  have hmem : r ∈ s.rows := List.mem_of_getElem? hr
  rcases rows_cases h with ⟨hrows, -⟩ | ⟨req, deviceID, vehicleID, command, now, -, hrows⟩ |
    ⟨now, id, -, hrows⟩ | ⟨conn, now, text, answers, id, -, -, hrows⟩ <;>
    rw [hrows]
  · exact ⟨r, hr, rfl, Nat.le_refl _⟩
  · obtain ⟨hlt, -⟩ := List.getElem?_eq_some_iff.mp hr
    exact ⟨r, by rw [List.getElem?_append_left hlt, hr], rfl, Nat.le_refl _⟩
  · refine ⟨_, markDelivered_getElem? now id hr, r.deliver_id now id, ?_⟩
    rcases r.deliver_cases now id with heq | ⟨-, hsent, heq⟩
    · rw [heq]
    · rw [heq, hsent]
      exact Nat.zero_le _
  · refine ⟨_, markAcknowledged_getElem? now text id hr, r.acknowledge_id now text id, ?_⟩
    rcases r.acknowledge_cases now text id with heq | ⟨-, heq⟩
    · rw [heq]
    · rw [heq]
      show r.status.rank ≤ 2
      rcases (hs r hmem).status with hstatus | hstatus | hstatus <;>
        simp [hstatus, CommandStatus.rank]

/-! ### The lifecycle -/

theorem CommandRow.Known.lifecycle_iff {r : CommandRow} (h : r.Known) :
    r.Lifecycle ↔ (r.status = .acknowledged → r.deliveredAt.isSome) :=
  ⟨fun hr hack => (hr.acknowledged hack).1,
    fun hr => ⟨h.status, h.delivered, fun hack => ⟨hr hack, h.acknowledged hack⟩⟩⟩

/-- A response completes the lifecycle of its row exactly if the row has been marked. -/
theorem CommandRow.acknowledge_lifecycle_iff {r : CommandRow} (h : r.Known) (hr : r.Lifecycle)
    (now : Int) (text : List UInt8) (id : Int) :
    (r.acknowledge now text id).Lifecycle ↔ (r.id = id → r.status ≠ .sent) := by
  rw [(h.acknowledge now text id).lifecycle_iff]
  rcases r.acknowledge_cases now text id with heq | ⟨hid, heq⟩
  · rw [heq]
    refine ⟨fun _ hid hsent => ?_, fun _ => (h.lifecycle_iff).mp hr⟩
    -- the row would have been updated
    rw [← hid, r.acknowledge_self] at heq
    have hstatus := congrArg CommandRow.status heq
    rw [hsent] at hstatus
    cases hstatus
  · rw [heq]
    constructor
    · intro hdelivered _ hsent
      have hnone := (h.sent hsent).1
      have hsome : r.deliveredAt.isSome := hdelivered rfl
      rw [hnone] at hsome
      cases hsome
    · intro hmarked _
      show r.deliveredAt.isSome
      rcases hr.status with hstatus | hstatus | hstatus
      · exact absurd hstatus (hmarked hid)
      · exact (hr.delivered hstatus).1
      · exact (hr.acknowledged hstatus).1

theorem sentRow_lifecycle (id : Int) (req : CommandRequest) (deviceID : Int)
    (vehicleID : Option Int) (command : String) (now : Int) :
    (sentRow id req deviceID vehicleID command now).Lifecycle := ⟨.inl rfl, nofun, nofun⟩

theorem CommandRow.Lifecycle.deliver {r : CommandRow} (hr : r.Lifecycle) (hk : r.Known)
    (now id : Int) : (r.deliver now id).Lifecycle := by
  rw [(hk.deliver now id).lifecycle_iff]
  rcases r.deliver_cases now id with heq | ⟨-, -, heq⟩
  · rw [heq]
    exact hk.lifecycle_iff.mp hr
  · rw [heq]
    exact fun _ => rfl

theorem lifecycle_step_iff {s s' : CommandState Conn} {event : CommandEvent Conn} (hk : s.Known)
    (hs : ∀ r ∈ s.rows, r.Lifecycle) (h : s.step event = some s') :
    (∀ r ∈ s'.rows, r.Lifecycle) ↔ RecordsMarked s event := by
  rcases rows_cases h with ⟨hrows, hother⟩ |
    ⟨req, deviceID, vehicleID, command, now, hother, hrows⟩ | ⟨now, id, hother, hrows⟩ |
    ⟨conn, now, text, answers, id, rfl, hresponder, hrows⟩ <;>
    rw [hrows]
  · exact ⟨fun _ => hother, fun _ => hs⟩
  · refine ⟨fun _ => hother, fun _ r hr => ?_⟩
    rcases List.mem_append.mp hr with hr | hr
    · exact hs r hr
    · obtain rfl := List.mem_singleton.mp hr
      exact sentRow_lifecycle _ _ _ _ _ _
  · refine ⟨fun _ => hother, fun _ r hr => ?_⟩
    obtain ⟨old, hold, rfl⟩ := List.mem_map.mp hr
    exact (hs old hold).deliver (hk old hold) now id
  · constructor
    · intro hall text' answers' id' hresponder' r hr hid
      rw [hresponder] at hresponder'
      obtain ⟨rfl, rfl, rfl⟩ := Responder.loaded.inj hresponder'
      have hlife := hall _ (List.mem_map_of_mem hr)
      exact (CommandRow.acknowledge_lifecycle_iff (hk r hr) (hs r hr) now text id).mp hlife hid
    · intro hmarked r hr
      obtain ⟨old, hold, rfl⟩ := List.mem_map.mp hr
      exact (CommandRow.acknowledge_lifecycle_iff (hk old hold) (hs old hold) now text id).mpr
        (hmarked text answers id hresponder old hold)

/-- **Rows never move backwards, and every row of every state of a run is as the documented
lifecycle says exactly if each response is recorded on a row that has been marked.** -/
theorem lifecycle_iff_recordsMarked (events : List (CommandEvent Conn)) :
    ((commands Conn).AllStates (fun s => ∀ r ∈ s.rows, r.Lifecycle) (commands Conn).init events ↔
      (commands Conn).AllSteps RecordsMarked (commands Conn).init events) ∧
    ∀ (s s' : CommandState Conn) event, (commands Conn).Reachable s → s.step event = some s' →
      ∀ (i : Nat) (r : CommandRow), s.rows[i]? = some r →
        ∃ r', s'.rows[i]? = some r' ∧ r'.id = r.id ∧ r.status.rank ≤ r'.status.rank := by
  constructor
  · refine Machine.allStates_iff_allSteps (I := CommandState.Known) ?_ ?_ events _ known_init
      (fun _ h => absurd h List.not_mem_nil)
    · exact fun s event s' hs h => hs.step h
    · exact fun s event s' hk hs h => lifecycle_step_iff hk hs h
  · intro s s' event hreach h i r hr
    have hknown : s.Known := hreach.invariant known_init fun _ _ _ hs h => hs.step h
    exact rows_forward hknown h hr

/-! ### A device that answers at once -/

def testIMEI : List UInt8 := List.replicate 15 0x31

/-- A command is issued, published and written to the socket. -/
def writeCommand : List (CommandEvent Unit) :=
  [.issue ⟨1, some 7, "Reboot", "", ""⟩ none (some testIMEI) none 100, .publish 0 true, .take,
    .write true]

/-- A Codec 12 payload with the one entry "ok". -/
def okPayload : List UInt8 := [0x0C, 1, 0, 0, 0, 2, 0x6F, 0x6B, 1]

/-- The device answers before the row is marked. -/
def earlyAnswer : List (CommandEvent Unit) :=
  .connect () testIMEI :: writeCommand ++
    [.store, .answer () okPayload, .receive (), .load (), .record () 101, .clear (), .mark 102]

/-- In the end its command is acknowledged, and has no delivery time. -/
theorem earlyAnswer_undelivered : ∃ s, (commands Unit).Reachable s ∧
    ∃ r ∈ s.rows, r.status = .acknowledged ∧ r.deliveredAt = none := by
  have hrun : (commands Unit).run (commands Unit).init earlyAnswer = some _ := rfl
  exact ⟨_, Machine.Reachable.init.run hrun, _, List.mem_cons_self, rfl, rfl⟩

end RudraNetra
