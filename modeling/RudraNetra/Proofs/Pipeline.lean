/-
What reaches a browser, from the device on.

Every message in a client's buffer is the text of a live event or an alert that was published
under the client's own company (`sent_own`), in whatever order the three programs take their
steps and whatever Redis loses.  The positions come in the order in which they were
published, and none twice; so do the alerts.

What each subscription was sent and what was taken out of it is kept by its channel, and what
was put into the queue of the hub by the pipeline.  The invariant (`Pipeline.Inv`) says
how these hang together, and that the hub on its own has made a run.
-/
import RudraNetra.Live.Pipeline
import RudraNetra.Proofs.HubDelivery
import RudraNetra.Proofs.Ledger
import RudraNetra.Proofs.LiveStored
import RudraNetra.Proofs.Tenancy

namespace RudraNetra

/-! ### The queue of the hub -/

/-- The messages that a run puts into the queue. -/
def enqueued (events : List HubEvent) : List BroadcastMessage :=
  events.filterMap fun event =>
    match event with
    | .enqueue msg => some msg
    | _ => none

theorem enqueued_append (events more : List HubEvent) :
    enqueued (events ++ more) = enqueued events ++ enqueued more := List.filterMap_append

theorem remove_broadcast (h : Hub) (c : Nat) : (h.remove c).broadcast = h.broadcast := by
  unfold Hub.remove
  dsimp only
  split_ifs <;> rfl

theorem offer_broadcast (h : Hub) (c : Nat) (msg : BroadcastMessage) (todo : Finset Nat) :
    (h.offer c msg todo).broadcast = h.broadcast := by
  unfold Hub.offer
  dsimp only
  split_ifs <;> rfl

theorem queue_of_step {h h' : Hub} {event : HubEvent} (hstep : h.step event = some h') :
    h.broadcast ++ enqueued [event] = processed [event] ++ h'.broadcast := by
  cases hubMoves_of_step hstep with
  | remove c => simp [enqueued, processed, remove_broadcast]
  | visit c msg todo => simp [enqueued, processed, offer_broadcast]
  | discard msg rest hphase hqueue => simp [enqueued, processed, hqueue]
  | start msg rest todo hphase hqueue => simp [enqueued, processed, hqueue]
  | _ => simp [enqueued, processed, Hub.setClient]

/-- What goes into the queue comes out in order, or is still in it. -/
theorem queue_of_run {events : List HubEvent} : ∀ {h h' : Hub}, hub.run h events = some h' →
    h.broadcast ++ enqueued events = processed events ++ h'.broadcast := by
  induction events with
  | nil =>
      intro h h' hrun
      obtain rfl := Option.some.inj hrun
      exact List.append_nil _
  | cons event events ih =>
      intro h h' hrun
      obtain ⟨h₁, hstep, hrun⟩ := Option.bind_eq_some_iff.mp hrun
      have hqueue := queue_of_step hstep
      have hrest := ih hrun
      have henqueued := enqueued_append [event] events
      have hprocessed := processed_append [event] events
      rw [List.singleton_append] at henqueued hprocessed
      rw [henqueued, hprocessed, ← List.append_assoc, hqueue, List.append_assoc, hrest,
        List.append_assoc]

/-- What a client was sent went into the queue for its company, in that order. -/
theorem sent_sublist {events : List HubEvent} {h : Hub}
    (hrun : hub.run hub.init events = some h) (c : Nat) :
    (h.sent c).Sublist (((enqueued events).filter fun msg =>
      msg.companyID = (h.client c).companyID).map (·.data)) := by
  obtain ⟨hright, hown⟩ := run_watch c events [] _ h _ inv_hub (watch_right c)
    (List.Sublist.refl []) hrun
  have hqueue : enqueued events = processed events ++ h.broadcast := queue_of_run hrun
  rw [← hright.company, hqueue, List.filter_append, List.map_append]
  have hexpected : (h.sent c).Sublist (watch c events).expected := by
    rw [watch, hright.expected]
    exact List.sublist_append_left _ _
  exact (hexpected.trans ((List.sublist_append_left _ _).trans hown)).trans
    (List.sublist_append_left _ _)

/-- What is true of the company of every client that connects stays true. -/
theorem companies_of_step {P : Int → Prop} {h h' : Hub} {event : HubEvent}
    (hP : ∀ c < h.next, P (h.client c).companyID)
    (hconnect : ∀ c id companyID, event = .connect c id companyID → P companyID)
    (hstep : h.step event = some h') : ∀ c < h'.next, P (h'.client c).companyID := by
  have hother : ∀ {h' : Hub}, h'.next = h.next →
      (∀ c, (h'.client c).companyID = (h.client c).companyID) →
      ∀ c < h'.next, P (h'.client c).companyID := by
    intro h' hnext hsame c hc
    rw [hsame]
    exact hP c (hnext ▸ hc)
  have hset : ∀ (c : Nat) (client : Client), client.companyID = (h.client c).companyID →
      ∀ c', ((h.setClient c client).client c').companyID = (h.client c').companyID := by
    intro c client hclient c'
    by_cases hc : c' = c
    · rw [hc, Hub.setClient_self, hclient]
    · rw [Hub.setClient_ne _ _ hc]
  cases hubMoves_of_step hstep with
  | connect id companyID =>
      intro c hc
      by_cases hnew : c = h.next
      · subst hnew
        simpa [Client.new] using hconnect h.next id companyID rfl
      · have hlt : c < h.next := Nat.lt_of_le_of_ne (Nat.le_of_lt_succ hc) hnew
        simpa [hnew] using hP c hlt
  | remove c' =>
      unfold Hub.remove
      dsimp only
      split_ifs
      · exact hother rfl fun _ => rfl
      · exact hother rfl (hset c' _ rfl)
      · exact hother rfl (hset c' _ rfl)
  | subscribe c' deviceIDs => exact hother rfl (hset c' _ rfl)
  | read c' first send => exact hother rfl (hset c' _ rfl)
  | visit c' msg todo =>
      exact hother (offer_clients h c' msg (todo.erase c')).2.2
        fun c => (offer_client h c' msg (todo.erase c') c).1
  | _ => exact hother rfl fun _ => rfl

/-! ### Steps of the pipeline -/

section

variable {Conn : Type} {marshal : LiveMessage → List UInt8}

theorem forward_cases {s s' : Pipeline Conn} {m : LiveMessage}
    (h : s.forward marshal m = some s') :
    (m.broadcast marshal = none ∧ s' = s) ∨
    ∃ msg hub', m.broadcast marshal = some msg ∧ s.hub.step (.enqueue msg) = some hub' ∧
      s' = { s with hub := hub', forwarded := s.forwarded ++ [m] } := by
  unfold Pipeline.forward at h
  split at h
  · rename_i hnone
    exact .inl ⟨hnone, (Option.some.inj h).symm⟩
  · rename_i msg hsome
    obtain ⟨hub', hstep, rfl⟩ := Option.map_eq_some_iff.mp h
    exact .inr ⟨msg, hub', hsome, hstep, rfl⟩

variable [DecidableEq Conn]

/-- A step of the ingest server publishes behind what was published before. -/
theorem newEvents_of_step {s s' : LiveState Conn} {a : LiveStep Conn} (h : s.step a = some s') :
    s'.published.map (·.event) = s.published.map (·.event) ++ s.newEvents s' := by
  have hprefix : s.published <+: s'.published := by
    rcases a with ⟨conn⟩ | ⟨conn, imei⟩ | ⟨conn⟩ | ⟨conn⟩ | ⟨conn, payload, clock⟩ |
      ⟨conn, outcome⟩ | ⟨conn, ok⟩ | ⟨imei, companyID⟩ | ⟨deviceID, companyID⟩ <;>
      simp only [LiveState.step] at h
    case publish =>
      split at h
      · obtain rfl := Option.some.inj h
        exact List.prefix_rfl
      · obtain rfl := Option.some.inj h
        dsimp only
        split_ifs
        · exact List.prefix_append _ _
        · exact List.prefix_rfl
      · cases h
    all_goals
      repeat' split at h
      all_goals
        first
        | (obtain rfl := Option.some.inj h; exact List.prefix_rfl)
        | cases h
  obtain ⟨new, hnew⟩ := hprefix
  rw [LiveState.newEvents, ← hnew, List.drop_left, List.map_append]

end

/-- An event that the engine evaluates. -/
def evaluated (event : LiveEvent) : Bool := event.deviceID ≠ 0 ∧ event.companyID ≠ 0

/-- An alert that the API does not drop. -/
def heard (event : AlertEvent) : Bool := Go.float64 event.companyID ≠ 0

section

variable {Conn : Type} {marshal : LiveMessage → List UInt8}

variable (marshal) in
/-- How the parts of the pipeline hang together. -/
structure Pipeline.Inv (s : Pipeline Conn) : Prop where
  positions : s.positions.sent = s.ingest.published.map (·.event)
  telemetry : s.telemetry.sent = s.ingest.published.map (·.event)
  /-- The worker has evaluated what it took. -/
  ledger : ∃ tr, s.ledger = Ledger.after tr ∧
    tr.map (·.arrival.event) = s.telemetry.taken.filter evaluated
  alerts : s.alerts.sent = s.ledger.published
  /-- The hub has made a run of its own, with what was forwarded. -/
  hub : ∃ events, RudraNetra.hub.run RudraNetra.hub.init events = some s.hub ∧
    enqueued events = s.forwarded.filterMap (·.broadcast marshal)
  kept : ∀ m ∈ s.forwarded, (m.broadcast marshal).isSome
  forwardedPositions : s.forwarded.filterMap (·.position?) =
    s.positions.taken.filter (·.deviceID ≠ 0)
  forwardedAlerts : s.forwarded.filterMap (·.alert?) = s.alerts.taken.filter heard
  companies : ∀ c < s.hub.next, 0 < (s.hub.client c).companyID

/-- Steps of the hub that put nothing into its queue. -/
theorem Pipeline.Inv.hubStep {s : Pipeline Conn} (hs : s.Inv marshal) {event : HubEvent}
    {hub' : Hub} (hstep : s.hub.step event = some hub') (hother : enqueued [event] = [])
    (hconnect : ∀ c id companyID, event = .connect c id companyID → 0 < companyID) :
    ({ s with hub := hub' } : Pipeline Conn).Inv marshal := by
  obtain ⟨events, hrun, henqueued⟩ := hs.hub
  refine { hs with
    hub := ⟨events ++ [event], ?_, ?_⟩
    companies := companies_of_step hs.companies hconnect hstep }
  · rw [Machine.run_append hrun]
    exact Machine.run_singleton hstep
  · rw [enqueued_append, hother, List.append_nil]
    exact henqueued

/-- A message is taken from a subscription and forwarded. -/
theorem Pipeline.Inv.enqueue {s : Pipeline Conn} (hs : s.Inv marshal) {m : LiveMessage}
    {msg : BroadcastMessage} {hub' : Hub} (hm : m.broadcast marshal = some msg)
    (hstep : s.hub.step (.enqueue msg) = some hub') :
    (∃ events, RudraNetra.hub.run RudraNetra.hub.init events = some hub' ∧
      enqueued events = (s.forwarded ++ [m]).filterMap (·.broadcast marshal)) ∧
    (∀ m' ∈ s.forwarded ++ [m], (m'.broadcast marshal).isSome) ∧
    ∀ c < hub'.next, 0 < (hub'.client c).companyID := by
  obtain ⟨events, hrun, henqueued⟩ := hs.hub
  refine ⟨⟨events ++ [.enqueue msg], ?_, ?_⟩, fun m' hm' => ?_,
    companies_of_step hs.companies (by simp) hstep⟩
  · rw [Machine.run_append hrun]
    exact Machine.run_singleton hstep
  · rw [enqueued_append, henqueued, List.filterMap_append]
    simp [enqueued, hm]
  · rcases List.mem_append.mp hm' with hold | hnew
    · exact hs.kept m' hold
    · rw [List.mem_singleton.mp hnew, hm]
      rfl

/-! ### What a client was sent -/

/-- The alerts are stored and published together, each for an event that was evaluated. -/
theorem ledger_entries (tr : List Incident) : ∃ entries : List (AlertRow × AlertEvent),
    (Ledger.after tr).alerts = entries.map (·.1) ∧
    (Ledger.after tr).published = entries.map (·.2) ∧
    ∀ entry ∈ entries, entry.1.id = entry.2.id ∧ ∃ i ∈ tr,
      entry.1.companyID = i.arrival.event.companyID ∧
      entry.1.deviceID = i.arrival.event.deviceID ∧
      entry.2.companyID = i.arrival.event.companyID ∧
      entry.2.deviceID = i.arrival.event.deviceID := by
  induction tr using List.reverseRecOn with
  | nil => exact ⟨[], rfl, rfl, fun _ he => absurd he List.not_mem_nil⟩
  | append_singleton tr i ih =>
      obtain ⟨entries, halerts, hpublished, hall⟩ := ih
      have hstep : Ledger.after (tr ++ [i]) = (Ledger.after tr).evaluate i := by
        simp [Ledger.after]
      refine ⟨entries ++ i.stores (Ledger.after tr).engine, ?_, ?_, ?_⟩
      · rw [hstep, List.map_append, ← halerts]
        rfl
      · rw [hstep, List.map_append, ← hpublished]
        rfl
      · intro entry hentry
        rcases List.mem_append.mp hentry with hold | hnew
        · obtain ⟨hid, i', hi', hsame⟩ := hall entry hold
          exact ⟨hid, i', List.mem_append_left _ hi', hsame⟩
        · obtain ⟨call, hcall, hraise⟩ := List.mem_filterMap.mp hnew
          obtain ⟨inserted, -, rfl⟩ := Option.map_eq_some_iff.mp hraise
          have hevent : call.event = i.arrival.event := (applyRules_calls _ _ _).2 call hcall
          refine ⟨rfl, i, List.mem_append_right _ (List.mem_singleton.mpr rfl), ?_⟩
          rw [← hevent]
          exact ⟨rfl, rfl, rfl, rfl⟩

/-- What a client was sent, as messages. -/
structure Pipeline.SentTo (marshal : LiveMessage → List UInt8) (s : Pipeline Conn) (c : Nat)
    (got : List LiveMessage) : Prop where
  texts : s.hub.sent c = got.map marshal
  own : ∀ m ∈ got, m.companyID = (s.hub.client c).companyID
  positions : (got.filterMap (·.position?)).Sublist (s.ingest.published.map (·.event))
  alerts : (got.filterMap (·.alert?)).Sublist s.ledger.published
  /-- Each message is about a live event; a position is the event itself. -/
  source : ∀ m ∈ got, ∃ e ∈ s.ingest.published,
    e.event.companyID = m.companyID ∧ e.event.deviceID = m.deviceID
  /-- The worker has a row for each alert. -/
  stored : ∀ m ∈ got, ∀ alert, m.alert? = some alert → ∃ row ∈ s.ledger.alerts,
    row.id = alert.id ∧ row.companyID = alert.companyID

/-- The numbers of companies are exact as `float64`. -/
def SmallCompanies (s : LiveState Conn) : Prop :=
  ∀ e ∈ s.published, e.event.companyID.natAbs < 2 ^ 53

/-- The alerts are about live events. -/
theorem Pipeline.Inv.entries {s : Pipeline Conn} (hs : s.Inv marshal) :
    ∃ entries : List (AlertRow × AlertEvent), s.ledger.alerts = entries.map (·.1) ∧
      s.ledger.published = entries.map (·.2) ∧
      ∀ entry ∈ entries, entry.1.id = entry.2.id ∧ ∃ e ∈ s.ingest.published,
        entry.1.companyID = e.event.companyID ∧ entry.1.deviceID = e.event.deviceID ∧
        entry.2.companyID = e.event.companyID ∧ entry.2.deviceID = e.event.deviceID := by
  obtain ⟨tr, hledger, hevents⟩ := hs.ledger
  obtain ⟨entries, halerts, hpublished, hall⟩ := ledger_entries tr
  rw [← hledger] at halerts hpublished
  refine ⟨entries, halerts, hpublished, fun entry hentry => ?_⟩
  obtain ⟨hid, i, hi, hsame⟩ := hall entry hentry
  have hevaluated : i.arrival.event ∈ s.telemetry.taken.filter evaluated := by
    rw [← hevents]
    exact List.mem_map_of_mem hi
  have hsent := s.telemetry.taken_sublist.subset (List.mem_of_mem_filter hevaluated)
  rw [hs.telemetry] at hsent
  obtain ⟨e, he, heq⟩ := List.mem_map.mp hsent
  refine ⟨hid, e, he, ?_⟩
  rw [heq]
  exact hsame

/-- A message that was forwarded is about a live event. -/
theorem Pipeline.Inv.source {s : Pipeline Conn} (hs : s.Inv marshal) {m : LiveMessage}
    (hm : m ∈ s.forwarded) : ∃ e ∈ s.ingest.published,
      e.event.companyID = m.companyID ∧ e.event.deviceID = m.deviceID := by
  cases m with
  | position event =>
      have htaken : event ∈ s.positions.taken := by
        have hin : event ∈ s.forwarded.filterMap (·.position?) :=
          List.mem_filterMap.mpr ⟨_, hm, rfl⟩
        rw [hs.forwardedPositions] at hin
        exact List.mem_of_mem_filter hin
      have hsent := s.positions.taken_sublist.subset htaken
      rw [hs.positions] at hsent
      obtain ⟨e, he, rfl⟩ := List.mem_map.mp hsent
      exact ⟨e, he, rfl, rfl⟩
  | alert event =>
      have htaken : event ∈ s.alerts.taken := by
        have hin : event ∈ s.forwarded.filterMap (·.alert?) :=
          List.mem_filterMap.mpr ⟨_, hm, rfl⟩
        rw [hs.forwardedAlerts] at hin
        exact List.mem_of_mem_filter hin
      have hsent := s.alerts.taken_sublist.subset htaken
      rw [hs.alerts] at hsent
      obtain ⟨entries, -, hpublished, hall⟩ := hs.entries
      rw [hpublished] at hsent
      obtain ⟨entry, hentry, rfl⟩ := List.mem_map.mp hsent
      obtain ⟨-, e, he, -, -, hcompany, hdevice⟩ := hall entry hentry
      exact ⟨e, he, hcompany.symm, hdevice.symm⟩

theorem Pipeline.Inv.small {s : Pipeline Conn} (hs : s.Inv marshal)
    (hsmall : SmallCompanies s.ingest) : ∀ m ∈ s.forwarded, m.companyID.natAbs < 2 ^ 53 := by
  intro m hm
  obtain ⟨e, he, hsame, -⟩ := hs.source hm
  rw [← hsame]
  exact hsmall e he

/-- A message is broadcast to the company it is about, and its text is what `marshal` makes. -/
theorem broadcast_company {m : LiveMessage} {msg : BroadcastMessage}
    (h : m.broadcast marshal = some msg) (hsmall : m.companyID.natAbs < 2 ^ 53) :
    msg.companyID = m.companyID ∧ msg.data = marshal m := by
  cases m with
  | position event =>
      simp only [LiveMessage.broadcast, RudraNetra.forwardPosition] at h
      split_ifs at h
      obtain rfl := Option.some.inj h
      exact ⟨rfl, rfl⟩
  | alert event =>
      simp only [LiveMessage.broadcast, RudraNetra.forwardAlert] at h
      split_ifs at h
      obtain rfl := Option.some.inj h
      have hlt : event.companyID.natAbs < 2 ^ 53 := hsmall
      refine ⟨?_, rfl⟩
      show Go.int64 (Go.float64 event.companyID) = event.companyID
      rw [Go.float64_of_lt hlt, Go.int64_of_lt hlt]

/-- The texts of the messages that are forwarded for a company. -/
theorem texts_of_forwarded {ms : List LiveMessage} {companyID : Int}
    (hkept : ∀ m ∈ ms, (m.broadcast marshal).isSome)
    (hsmall : ∀ m ∈ ms, m.companyID.natAbs < 2 ^ 53) :
    ((ms.filterMap (·.broadcast marshal)).filter fun msg => msg.companyID = companyID).map (·.data) =
      (ms.filter fun m => m.companyID = companyID).map marshal := by
  induction ms with
  | nil => rfl
  | cons m ms ih =>
      obtain ⟨msg, hmsg⟩ := Option.isSome_iff_exists.mp (hkept m List.mem_cons_self)
      obtain ⟨hto, hdata⟩ := broadcast_company hmsg (hsmall m List.mem_cons_self)
      have hrest := ih (fun m' hm' => hkept m' (List.mem_cons_of_mem _ hm'))
        (fun m' hm' => hsmall m' (List.mem_cons_of_mem _ hm'))
      rw [List.filterMap_cons_some hmsg, List.filter_cons, List.filter_cons, hto]
      split_ifs
      · rw [List.map_cons, List.map_cons, hdata, hrest]
      · exact hrest

theorem Pipeline.Inv.sentTo {s : Pipeline Conn} (hs : s.Inv marshal)
    (hsmall : SmallCompanies s.ingest) (c : Nat) : ∃ got, s.SentTo marshal c got := by
  obtain ⟨events, hrun, henqueued⟩ := hs.hub
  have hsent := sent_sublist hrun c
  have hcompany := hs.small hsmall
  rw [henqueued, texts_of_forwarded hs.kept hcompany] at hsent
  obtain ⟨got, hgot, htext⟩ := List.sublist_map_iff.mp hsent
  have hforwarded : got.Sublist s.forwarded := hgot.trans List.filter_sublist
  refine ⟨got, htext, ?_, ?_, ?_, fun m hm => hs.source (hforwarded.subset hm), ?_⟩
  · intro m hm
    simpa using List.of_mem_filter (hgot.subset hm)
  · have htaken := hforwarded.filterMap (·.position?)
    rw [hs.forwardedPositions] at htaken
    rw [← hs.positions]
    exact (htaken.trans List.filter_sublist).trans s.positions.taken_sublist
  · have htaken := hforwarded.filterMap (·.alert?)
    rw [hs.forwardedAlerts] at htaken
    rw [← hs.alerts]
    exact (htaken.trans List.filter_sublist).trans s.alerts.taken_sublist
  · intro m hm alert halert
    have hin : alert ∈ s.forwarded.filterMap (·.alert?) :=
      List.mem_filterMap.mpr ⟨m, hforwarded.subset hm, halert⟩
    rw [hs.forwardedAlerts] at hin
    have hpublished := s.alerts.taken_sublist.subset (List.mem_of_mem_filter hin)
    rw [hs.alerts] at hpublished
    obtain ⟨entries, halerts, hevents, hall⟩ := hs.entries
    rw [hevents] at hpublished
    obtain ⟨entry, hentry, rfl⟩ := List.mem_map.mp hpublished
    obtain ⟨hid, e, he, hcompany, -, hcompany', -⟩ := hall entry hentry
    refine ⟨entry.1, ?_, hid, hcompany.trans hcompany'.symm⟩
    rw [halerts]
    exact List.mem_map_of_mem hentry

/-- What a client gets, and what the worker stores, is about devices that belonged to the company
when their events were published. -/
def Pipeline.OfOwnDevices (marshal : LiveMessage → List UInt8) (s : Pipeline Conn) : Prop :=
  (SmallCompanies s.ingest → ∀ c, ∃ got, s.SentTo marshal c got ∧ ∀ m ∈ got,
    ∃ e ∈ s.ingest.published, e.event.deviceID = m.deviceID ∧
      Database.Owns e.devices (s.hub.client c).companyID m.deviceID) ∧
  ∀ row ∈ s.ledger.alerts, ∃ e ∈ s.ingest.published, e.event.deviceID = row.deviceID ∧
    Database.Owns e.devices row.companyID row.deviceID

theorem Pipeline.Inv.ofOwnDevices {s : Pipeline Conn} (hs : s.Inv marshal)
    (howned : s.ingest.Owned) : s.OfOwnDevices marshal := by
  refine ⟨fun hsmall c => ?_, fun row hrow => ?_⟩
  · obtain ⟨got, hgot⟩ := hs.sentTo hsmall c
    refine ⟨got, hgot, fun m hm => ?_⟩
    obtain ⟨e, he, hcompany, hdevice⟩ := hgot.source m hm
    refine ⟨e, he, hdevice, ?_⟩
    rw [← hgot.own m hm, ← hcompany, ← hdevice]
    exact howned.published e he
  · obtain ⟨entries, halerts, -, hall⟩ := hs.entries
    rw [halerts] at hrow
    obtain ⟨entry, hentry, rfl⟩ := List.mem_map.mp hrow
    obtain ⟨-, e, he, hcompany, hdevice, -⟩ := hall entry hentry
    refine ⟨e, he, hdevice.symm, ?_⟩
    rw [hcompany, hdevice]
    exact howned.published e he

/-! ### What keeps the invariant -/

variable [DecidableEq Conn]

theorem Pipeline.Inv.forwardPosition {s s' : Pipeline Conn} (hs : s.Inv marshal)
    (h : s.step marshal .forwardPosition = some s') : s'.Inv marshal := by
  obtain ⟨⟨event, positions⟩, htake, h⟩ := Option.bind_eq_some_iff.mp h
  obtain ⟨-, hsent, htaken⟩ := Channel.take_eq_some htake
  have hpositions := hs.forwardedPositions
  rcases forward_cases h with ⟨hnone, rfl⟩ | ⟨msg, hub', hmsg, hstep, rfl⟩
  · have hzero : event.deviceID = 0 := by
      by_contra hne
      simp [LiveMessage.broadcast, RudraNetra.forwardPosition, hne] at hnone
    refine { hs with positions := hsent.trans hs.positions, forwardedPositions := ?_ }
    simp [htaken, hpositions, hzero]
  · have hne : event.deviceID ≠ 0 := by
      intro hzero
      simp [LiveMessage.broadcast, RudraNetra.forwardPosition, hzero] at hmsg
    obtain ⟨hhub, hkept, hcompanies⟩ := hs.enqueue hmsg hstep
    exact ⟨hsent.trans hs.positions, hs.telemetry, hs.ledger, hs.alerts, hhub, hkept,
      by simp [List.filterMap_append, htaken, hpositions, hne],
      by simp [List.filterMap_append, hs.forwardedAlerts], hcompanies⟩

theorem Pipeline.Inv.forwardAlert {s s' : Pipeline Conn} (hs : s.Inv marshal)
    (h : s.step marshal .forwardAlert = some s') : s'.Inv marshal := by
  obtain ⟨⟨event, alerts⟩, htake, h⟩ := Option.bind_eq_some_iff.mp h
  obtain ⟨-, hsent, htaken⟩ := Channel.take_eq_some htake
  rcases forward_cases h with ⟨hnone, rfl⟩ | ⟨msg, hub', hmsg, hstep, rfl⟩
  · have hzero : heard event = false := by
      by_contra hne
      simp only [heard, ne_eq, decide_not, Bool.not_eq_false, Bool.not_eq_true',
        decide_eq_false_iff_not] at hne
      simp [LiveMessage.broadcast, RudraNetra.forwardAlert, hne] at hnone
    refine { hs with alerts := hsent.trans hs.alerts, forwardedAlerts := ?_ }
    simp [htaken, hs.forwardedAlerts, hzero]
  · have hne : heard event = true := by
      simp only [heard, ne_eq, decide_eq_true_eq]
      intro hzero
      simp [LiveMessage.broadcast, RudraNetra.forwardAlert, hzero] at hmsg
    obtain ⟨hhub, hkept, hcompanies⟩ := hs.enqueue hmsg hstep
    exact ⟨hs.positions, hs.telemetry, hs.ledger, hsent.trans hs.alerts, hhub, hkept,
      by simp [List.filterMap_append, hs.forwardedPositions],
      by simp [List.filterMap_append, htaken, hs.forwardedAlerts, hne], hcompanies⟩

theorem Pipeline.Inv.ingest {s s' : Pipeline Conn} (hs : s.Inv marshal) {step : LiveStep Conn}
    (h : s.step marshal (.ingest step) = some s') : s'.Inv marshal := by
  obtain ⟨ingest, hstep, h⟩ := Option.bind_eq_some_iff.mp h
  obtain rfl := Option.some.inj h
  have hnew := newEvents_of_step hstep
  exact { hs with
    positions := by rw [Channel.send_sent, hs.positions, hnew]
    telemetry := by rw [Channel.send_sent, hs.telemetry, hnew] }

theorem Pipeline.Inv.lose {s s' : Pipeline Conn} (hs : s.Inv marshal) {channel : Subscription}
    {i : Nat} (h : s.step marshal (.lose channel i) = some s') : s'.Inv marshal := by
  cases channel with
  | positions =>
      obtain rfl := Option.some.inj h
      exact { hs with positions := hs.positions, forwardedPositions := hs.forwardedPositions }
  | telemetry =>
      obtain rfl := Option.some.inj h
      exact { hs with telemetry := hs.telemetry, ledger := hs.ledger }
  | alerts =>
      obtain rfl := Option.some.inj h
      exact { hs with alerts := hs.alerts, forwardedAlerts := hs.forwardedAlerts }

theorem Pipeline.Inv.evaluate {s s' : Pipeline Conn} (hs : s.Inv marshal)
    {checkedAt loadedAt now : Nat} {settings : Option (Int × Int)}
    {answer : AlertType → Option Inserted}
    (h : s.step marshal (.evaluate checkedAt loadedAt now settings answer) = some s') :
    s'.Inv marshal := by
  obtain ⟨⟨event, telemetry⟩, htake, h⟩ := Option.bind_eq_some_iff.mp h
  obtain ⟨-, hsent, htaken⟩ := Channel.take_eq_some htake
  obtain ⟨tr, hledger, hevents⟩ := hs.ledger
  by_cases hskip : event.deviceID = 0 ∨ event.companyID = 0
  · have hnone : (Message.mk (some event) checkedAt loadedAt now settings).arrival = none :=
      if_pos hskip
    have hnot : evaluated event = false := by
      rw [evaluated, decide_eq_false_iff_not]
      tauto
    simp only [hnone] at h
    obtain rfl := Option.some.inj h
    refine { hs with telemetry := hsent.trans hs.telemetry, ledger := ⟨tr, hledger, ?_⟩ }
    simp [htaken, hevents, hnot]
  · have hsome : (Message.mk (some event) checkedAt loadedAt now settings).arrival =
        some ⟨event, checkedAt, loadedAt, now, settings⟩ := if_neg hskip
    have hyes : evaluated event = true := by
      rw [evaluated, decide_eq_true_eq]
      tauto
    simp only [hsome] at h
    obtain rfl := Option.some.inj h
    refine { hs with
      telemetry := hsent.trans hs.telemetry
      ledger := ⟨tr ++ [⟨⟨event, checkedAt, loadedAt, now, settings⟩, answer⟩], ?_, ?_⟩
      alerts := ?_ }
    · rw [hledger, Ledger.after, Ledger.after, List.foldl_append]
      rfl
    · simp [htaken, hevents, hyes]
    · rw [Channel.send_sent, hs.alerts]
      rfl

theorem Pipeline.Inv.hubEvent {s s' : Pipeline Conn} (hs : s.Inv marshal) {event : HubEvent}
    (h : s.step marshal (.hub event) = some s') : s'.Inv marshal := by
  cases event with
  | enqueue msg => cases h
  | connect c id companyID =>
      simp only [Pipeline.step] at h
      split_ifs at h with hpos
      obtain ⟨hub', hstep, rfl⟩ := Option.map_eq_some_iff.mp h
      refine hs.hubStep hstep rfl fun _ _ _ hsame => ?_
      obtain ⟨-, -, rfl⟩ := HubEvent.connect.inj hsame
      exact Int.not_le.mp hpos
  | _ =>
      obtain ⟨hub', hstep, rfl⟩ := Option.map_eq_some_iff.mp h
      exact hs.hubStep hstep rfl (by simp)

theorem Pipeline.Inv.step {s s' : Pipeline Conn} {a : PipelineStep Conn} (hs : s.Inv marshal)
    (h : s.step marshal a = some s') : s'.Inv marshal := by
  cases a with
  | ingest step => exact hs.ingest h
  | lose channel i => exact hs.lose h
  | evaluate checkedAt loadedAt now settings answer => exact hs.evaluate h
  | forwardPosition => exact hs.forwardPosition h
  | forwardAlert => exact hs.forwardAlert h
  | hub event => exact hs.hubEvent h

theorem inv_pipeline (db : Database) (nextDevice : Int) :
    ((pipeline marshal db nextDevice).init : Pipeline Conn).Inv marshal where
  positions := rfl
  telemetry := rfl
  ledger := ⟨[], rfl, rfl⟩
  alerts := rfl
  hub := ⟨[], rfl, rfl⟩
  kept := fun _ hm => absurd hm List.not_mem_nil
  forwardedPositions := rfl
  forwardedAlerts := rfl
  companies := fun _ hc => absurd hc (Nat.not_lt_zero _)

/-- **A browser gets messages of its own company only**: live events and alerts that were published
for it, in the order in which they were published, and none of them twice. -/
theorem sent_own {db : Database} {nextDevice : Int} {s : Pipeline Conn}
    (hreach : (pipeline marshal db nextDevice).Reachable s) (hsmall : SmallCompanies s.ingest)
    (c : Nat) : ∃ got, s.SentTo marshal c got := by
  have hs : s.Inv marshal :=
    hreach.invariant (inv_pipeline db nextDevice) fun _ _ _ hs hstep => hs.step hstep
  exact hs.sentTo hsmall c

end

/-- A device of company 1 connects and uploads a position. -/
def deviceUploads : List (LiveStep Unit) :=
  deviceConnects ++ [.frame () (bareFrame 1) fun _ => 0, .chunk () (some 0), .chunk () none,
    .publish () true]

/-- The position reaches a browser of the company. -/
def positionReaches : List (PipelineStep Unit) :=
  deviceUploads.map .ingest ++ [.hub (.connect 0 "client-0" 1), .hub (.register 0),
    .forwardPosition, .hub (.process ⟨1, 7, [0x61]⟩), .hub (.visit 0), .hub .finish]

theorem sent_own_reached : ∃ s : Pipeline Unit, s.hub.sent 0 = [[0x61]] ∧
    ∃ got, s.SentTo (fun _ => [0x61]) 0 got := by
  obtain ⟨s, hrun, hsent, hsmall⟩ : ∃ s, (pipeline (fun _ => [0x61]) trackedVehicle 8).run
      (pipeline (fun _ => [0x61]) trackedVehicle 8).init positionReaches = some s ∧
      s.hub.sent 0 = [[0x61]] ∧ SmallCompanies s.ingest := by
    refine ⟨_, rfl, rfl, fun e he => ?_⟩
    obtain rfl := List.mem_singleton.mp he
    decide
  exact ⟨s, hsent, sent_own (Machine.Reachable.init.run hrun) hsmall 0⟩

section

variable {Conn : Type} [DecidableEq Conn] {marshal : LiveMessage → List UInt8}

/-! ### Whose devices a client hears of -/

/-- A step that leaves the sessions of the ingest server undisturbed. -/
def LeavesSessions (s : Pipeline Conn) : PipelineStep Conn → Prop
  | .ingest step => Undisturbed s.ingest step
  | _ => True

/-- Only its own steps change the ingest server. -/
theorem ingest_of_step {s s' : Pipeline Conn} {a : PipelineStep Conn}
    (h : s.step marshal a = some s') : s'.ingest = s.ingest ∨
      ∃ step, a = .ingest step ∧ s.ingest.step step = some s'.ingest := by
  cases a with
  | ingest step =>
      obtain ⟨ingest, hstep, h⟩ := Option.bind_eq_some_iff.mp h
      obtain rfl := Option.some.inj h
      exact .inr ⟨step, rfl, hstep⟩
  | lose channel i =>
      cases channel <;>
        · obtain rfl := Option.some.inj h
          exact .inl rfl
  | evaluate checkedAt loadedAt now settings answer =>
      obtain ⟨⟨event, telemetry⟩, -, h⟩ := Option.bind_eq_some_iff.mp h
      dsimp only at h
      split at h <;>
        · obtain rfl := Option.some.inj h
          exact .inl rfl
  | forwardPosition =>
      obtain ⟨⟨event, positions⟩, -, h⟩ := Option.bind_eq_some_iff.mp h
      obtain ⟨-, rfl⟩ | ⟨msg, hub', -, -, rfl⟩ := forward_cases h
      · exact .inl rfl
      · exact .inl rfl
  | forwardAlert =>
      obtain ⟨⟨event, alerts⟩, -, h⟩ := Option.bind_eq_some_iff.mp h
      obtain ⟨-, rfl⟩ | ⟨msg, hub', -, -, rfl⟩ := forward_cases h
      · exact .inl rfl
      · exact .inl rfl
  | hub event =>
      left
      cases event with
      | enqueue msg => cases h
      | connect c id companyID =>
          simp only [Pipeline.step] at h
          split_ifs at h
          obtain ⟨hub', -, rfl⟩ := Option.map_eq_some_iff.mp h
          rfl
      | _ =>
          obtain ⟨hub', -, rfl⟩ := Option.map_eq_some_iff.mp h
          rfl

end

end RudraNetra
