/-
What a browser does not miss.

Between two moments at which nothing is under way, a client that stays in the hub and has no
subscription is put everything that was published for its company meanwhile, once and in
order, unless Redis has lost some of it (`quiet_delivers`).

The channels lose nothing, so what was published was taken out of them and forwarded; the
hub has processed what was forwarded; and an observer of a client that only listens expects
every message of its company that is processed (`watch_listening`).
-/
import RudraNetra.Proofs.Pipeline

namespace RudraNetra

/-! ### A client that listens -/

/-- The client is not taken out of the hub, and does not subscribe. -/
def Listens (c : Nat) (event : HubEvent) : Prop :=
  event ≠ .unregister c ∧ ∀ deviceIDs, event ≠ .subscribe c deviceIDs

/-- What the observer expects and what is due, for a client of this company that gets all of it. -/
structure Watch.Listening (w : Watch) (companyID : Int) (got : List (List UInt8)) : Prop where
  company : w.companyID = companyID
  member : w.member = true
  subscribed : w.subscribedDevs = ∅
  expected : w.expected ++ (w.due.map (·.data)).toList = got

variable {c : Nat} {w : Watch} {companyID : Int} {got : List (List UInt8)}

theorem Watch.Listening.settle (hw : w.Listening companyID got) :
    w.settle.Listening companyID got := by
  rcases hdue : w.due with _ | msg
  · rw [settle_of_due_none hdue]
    exact hw
  · have hexpected := hw.expected
    rw [hdue] at hexpected
    rw [Watch.settle, hdue]
    dsimp only
    rw [if_pos (.inl hw.subscribed)]
    exact ⟨hw.company, hw.member, hw.subscribed, by simpa using hexpected⟩

theorem Watch.Listening.process (hw : w.Listening companyID got) (hdue : w.due = none)
    (msg : BroadcastMessage) : (w.observe c (.process msg)).Listening companyID
      (got ++ ([msg].filter fun msg => msg.companyID = companyID).map (·.data)) := by
  have hexpected := hw.expected
  rw [hdue, Option.map_none, Option.toList_none, List.append_nil] at hexpected
  refine ⟨hw.company, hw.member, hw.subscribed, ?_⟩
  show w.expected ++ (Option.map (·.data)
    (if w.member = true ∧ msg.companyID = w.companyID then some msg else none)).toList = _
  rw [hexpected, hw.company]
  by_cases hsame : msg.companyID = companyID
  · rw [if_pos ⟨hw.member, hsame⟩]
    simp [hsame]
  · rw [if_neg fun hboth => hsame hboth.2]
    simp [hsame]

/-- One step: a message of the company that is processed becomes due. -/
theorem Watch.Listening.step {h h' : Hub} {event : HubEvent} (hw : w.Listening companyID got)
    (hh : h.Inv) (hright : w.Right c h) (hevent : Listens c event)
    (hstep : h.step event = some h') : (w.observe c event).Listening companyID
      (got ++ ((processed [event]).filter fun msg => msg.companyID = companyID).map (·.data)) := by
  have hother : ∀ {w' : Watch}, w'.Listening companyID got → processed [event] = [] →
      w'.Listening companyID (got ++
        ((processed [event]).filter fun msg => msg.companyID = companyID).map (·.data)) := by
    intro w' hw' hnone
    simpa [hnone] using hw'
  cases hubMoves_of_step hstep with
  | connect id companyID' =>
      refine hother ?_ rfl
      have hlt := hh.registered_lt c (hh.mem (hright.member.mp hw.member)).1
      rw [Watch.observe, if_neg (Nat.ne_of_gt hlt)]
      exact hw
  | register c' =>
      refine hother ?_ rfl
      rw [Watch.observe]
      split_ifs
      · exact ⟨hw.company, rfl, hw.subscribed, hw.expected⟩
      · exact hw
  | absent c' =>
      refine hother ?_ rfl
      have hne : c' ≠ c := fun heq => hevent.1 (heq ▸ rfl)
      rw [Watch.observe, if_neg hne]
      exact hw
  | remove c' =>
      refine hother ?_ rfl
      have hne : c' ≠ c := fun heq => hevent.1 (heq ▸ rfl)
      rw [Watch.observe, if_neg hne]
      exact hw
  | subscribe c' deviceIDs =>
      refine hother ?_ rfl
      have hne : c' ≠ c := fun heq => hevent.2 deviceIDs (heq ▸ rfl)
      rw [Watch.observe, if_neg hne]
      exact hw
  | read c' => exact hother hw rfl
  | enqueue msg => exact hother hw rfl
  | visit c' =>
      refine hother ?_ rfl
      rw [Watch.observe]
      split_ifs
      · exact hw.settle
      · exact hw
  | finish => exact hother hw.settle rfl
  | discard msg rest hphase =>
      exact hw.process (hright.due.trans (dueFor_selecting hphase c)) msg
  | start msg rest todo hphase =>
      exact hw.process (hright.due.trans (dueFor_selecting hphase c)) msg

/-- A client that listens gets every message of its company that is processed. -/
theorem watch_listening {events : List HubEvent} : ∀ {h h' : Hub} {w : Watch}
    {got : List (List UInt8)}, h.Inv → w.Right c h → w.Listening companyID got →
    (∀ event ∈ events, Listens c event) → hub.run h events = some h' →
    ∃ w' : Watch, w'.Right c h' ∧ w'.Listening companyID (got ++
      ((processed events).filter fun msg => msg.companyID = companyID).map (·.data)) := by
  induction events with
  | nil =>
      intro h h' w got _ hright hw _ hrun
      obtain rfl := Option.some.inj hrun
      exact ⟨w, hright, by simpa [processed] using hw⟩
  | cons event events ih =>
      intro h h' w got hh hright hw hall hrun
      obtain ⟨h₁, hstep, hrun⟩ := Option.bind_eq_some_iff.mp hrun
      have hevent := hall event List.mem_cons_self
      obtain ⟨w', hright', hw'⟩ := ih (hh.step hstep) (hright.step hh hstep)
        (hw.step hh hright hevent hstep) (fun e he => hall e (List.mem_cons_of_mem _ he)) hrun
      have hsplit := processed_append [event] events
      rw [List.singleton_append] at hsplit
      refine ⟨w', hright', ?_⟩
      rw [hsplit, List.filter_append, List.map_append, ← List.append_assoc]
      exact hw'

/-- Between two moments at which the hub has nothing to do, a client that listens is sent what is
put into the queue for its company. -/
theorem sent_of_listening {events more : List HubEvent} {h h' : Hub}
    (hrun : hub.run hub.init events = some h) (hmore : hub.run h more = some h')
    (hidle : h.phase = .selecting ∧ h.broadcast = [])
    (hidle' : h'.phase = .selecting ∧ h'.broadcast = [])
    (hmember : c ∈ h.companyClients (h.client c).companyID)
    (hsubscribed : (h.client c).subscribedDevs = ∅) (hall : ∀ event ∈ more, Listens c event) :
    (h'.client c).companyID = (h.client c).companyID ∧
    h'.sent c = h.sent c ++ ((enqueued more).filter fun msg =>
      msg.companyID = (h.client c).companyID).map (·.data) := by
  obtain ⟨hright, -⟩ := run_watch c events [] _ h _ inv_hub (watch_right c)
    (List.Sublist.refl []) hrun
  have hinv : h.Inv := Hub.Inv.of_reachable (Machine.Reachable.init.run hrun)
  have hstuck : ∀ {h : Hub}, h.phase = .selecting → h.stuckOn c = [] := by
    intro h hphase
    rw [Hub.stuckOn, hphase]
  have hstart : Watch.Listening (events.foldl (Watch.observe c) ⟨0, false, ∅, none, []⟩)
      (h.client c).companyID (h.sent c) := by
    refine ⟨hright.company, hright.member.mpr hmember, hright.subscribed.trans hsubscribed, ?_⟩
    rw [hright.due, dueFor_selecting hidle.1, hright.expected, hstuck hidle.1]
    simp
  obtain ⟨w', hright', hw'⟩ := watch_listening hinv hright hstart hall hmore
  have hqueue := queue_of_run hmore
  rw [hidle.2, hidle'.2, List.nil_append, List.append_nil] at hqueue
  have hexpected := hw'.expected
  rw [hright'.due, dueFor_selecting hidle'.1, hright'.expected, hstuck hidle'.1] at hexpected
  refine ⟨hright'.company.symm.trans hw'.company, ?_⟩
  rw [hqueue]
  simpa using hexpected

/-! ### Nothing lost -/

/-- Nothing is under way. -/
structure Pipeline.Quiet {Conn : Type} (s : Pipeline Conn) : Prop where
  positions : s.positions.contents = []
  telemetry : s.telemetry.contents = []
  alerts : s.alerts.contents = []
  hub : s.hub.phase = .selecting ∧ s.hub.broadcast = []

/-- A step at which Redis loses nothing and the client keeps listening. -/
def Attentive {Conn : Type} (c : Nat) : PipelineStep Conn → Prop
  | .lose _ _ => False
  | .hub event => Listens c event
  | _ => True

section

variable {Conn : Type} {marshal : LiveMessage → List UInt8} {s₀ s s' : Pipeline Conn}

variable (c marshal) in
/-- What has happened since a state, if nothing was lost and the client listened. -/
structure Pipeline.Lossless (s₀ s : Pipeline Conn) : Prop where
  positions : Channel.Since s₀.positions s.positions
  telemetry : Channel.Since s₀.telemetry s.telemetry
  alerts : Channel.Since s₀.alerts s.alerts
  hub : ∃ more new, RudraNetra.hub.run s₀.hub more = some s.hub ∧
    s.forwarded = s₀.forwarded ++ new ∧ enqueued more = new.filterMap (·.broadcast marshal) ∧
    ∀ event ∈ more, Listens c event

theorem Pipeline.Lossless.refl (s : Pipeline Conn) : s.Lossless c marshal s where
  positions := .refl _
  telemetry := .refl _
  alerts := .refl _
  hub := ⟨[], [], rfl, (List.append_nil _).symm, rfl, fun _ he => absurd he List.not_mem_nil⟩

/-- Another step of the hub, with what was forwarded at it. -/
theorem Pipeline.Lossless.more (hs : s₀.Lossless c marshal s) {event : HubEvent} {hub' : Hub}
    {ms : List LiveMessage} (hstep : s.hub.step event = some hub') (hevent : Listens c event)
    (hms : enqueued [event] = ms.filterMap (·.broadcast marshal)) :
    ∃ more new, RudraNetra.hub.run s₀.hub more = some hub' ∧
      s.forwarded ++ ms = s₀.forwarded ++ new ∧
      enqueued more = new.filterMap (·.broadcast marshal) ∧
      ∀ event ∈ more, Listens c event := by
  obtain ⟨more, new, hrun, hforwarded, henqueued, hall⟩ := hs.hub
  refine ⟨more ++ [event], new ++ ms, ?_, ?_, ?_, fun e he => ?_⟩
  · rw [Machine.run_append hrun]
    exact Machine.run_singleton hstep
  · rw [hforwarded, List.append_assoc]
  · rw [enqueued_append, henqueued, hms, List.filterMap_append]
  · rcases List.mem_append.mp he with hold | hnew
    · exact hall e hold
    · rw [List.mem_singleton.mp hnew]
      exact hevent

theorem Pipeline.Lossless.forward (hs : s₀.Lossless c marshal s) {m : LiveMessage}
    (h : s.forward marshal m = some s') : s₀.Lossless c marshal s' := by
  rcases forward_cases h with ⟨-, rfl⟩ | ⟨msg, hub', hmsg, hstep, rfl⟩
  · exact hs
  · have hlistens : Listens c (.enqueue msg) := ⟨by simp, by simp⟩
    exact ⟨hs.positions, hs.telemetry, hs.alerts,
      hs.more hstep hlistens (by simp [enqueued, hmsg])⟩

/-- What was published behind what there was at a state. -/
theorem newEvents_of_append {s s' : LiveState Conn} {new : List LiveEvent}
    (h : s'.published.map (·.event) = s.published.map (·.event) ++ new) :
    s.newEvents s' = new := by
  have hlength : s.published.length = (s.published.map (·.event)).length := by simp
  rw [LiveState.newEvents, List.map_drop, h, hlength, List.drop_left]

variable [DecidableEq Conn]

theorem Pipeline.Lossless.step (hs : s₀.Lossless c marshal s) {a : PipelineStep Conn}
    (ha : Attentive c a) (h : s.step marshal a = some s') : s₀.Lossless c marshal s' := by
  cases a with
  | ingest step =>
      obtain ⟨ingest, -, h⟩ := Option.bind_eq_some_iff.mp h
      obtain rfl := Option.some.inj h
      exact ⟨hs.positions.send _, hs.telemetry.send _, hs.alerts, hs.hub⟩
  | lose channel i => exact absurd ha id
  | evaluate checkedAt loadedAt now settings answer =>
      obtain ⟨⟨event, telemetry⟩, htake, h⟩ := Option.bind_eq_some_iff.mp h
      dsimp only at h
      split at h
      · obtain rfl := Option.some.inj h
        exact ⟨hs.positions, hs.telemetry.take htake, hs.alerts, hs.hub⟩
      · obtain rfl := Option.some.inj h
        exact ⟨hs.positions, hs.telemetry.take htake, hs.alerts.send _, hs.hub⟩
  | forwardPosition =>
      obtain ⟨⟨event, positions⟩, htake, h⟩ := Option.bind_eq_some_iff.mp h
      have htaken : s₀.Lossless c marshal { s with positions := positions } :=
        ⟨hs.positions.take htake, hs.telemetry, hs.alerts, hs.hub⟩
      exact htaken.forward h
  | forwardAlert =>
      obtain ⟨⟨event, alerts⟩, htake, h⟩ := Option.bind_eq_some_iff.mp h
      have htaken : s₀.Lossless c marshal { s with alerts := alerts } :=
        ⟨hs.positions, hs.telemetry, hs.alerts.take htake, hs.hub⟩
      exact htaken.forward h
  | hub event =>
      have hother : ∀ {hub' : Hub}, s.hub.step event = some hub' → enqueued [event] = [] →
          s₀.Lossless c marshal { s with hub := hub' } := by
        intro hub' hstep hnone
        have hms : enqueued [event] = ([] : List LiveMessage).filterMap (·.broadcast marshal) :=
          hnone
        have hmore := hs.more hstep ha hms
        rw [List.append_nil] at hmore
        exact ⟨hs.positions, hs.telemetry, hs.alerts, hmore⟩
      cases event with
      | enqueue msg => cases h
      | connect c' id companyID =>
          simp only [Pipeline.step] at h
          split_ifs at h
          obtain ⟨hub', hstep, rfl⟩ := Option.map_eq_some_iff.mp h
          exact hother hstep rfl
      | _ =>
          obtain ⟨hub', hstep, rfl⟩ := Option.map_eq_some_iff.mp h
          exact hother hstep rfl

theorem lossless_of_run {db : Database} {nextDevice : Int} {events : List (PipelineStep Conn)} :
    ∀ {s : Pipeline Conn}, s₀.Lossless c marshal s →
      (∀ a ∈ events, Attentive c a) →
      (pipeline marshal db nextDevice).run s events = some s' → s₀.Lossless c marshal s' := by
  induction events with
  | nil =>
      intro s hs _ hrun
      obtain rfl := Option.some.inj hrun
      exact hs
  | cons a events ih =>
      intro s hs hall hrun
      obtain ⟨s₁, hstep, hrun⟩ := Option.bind_eq_some_iff.mp hrun
      exact ih (hs.step (hall a List.mem_cons_self) hstep)
        (fun b hb => hall b (List.mem_cons_of_mem _ hb)) hrun

variable (c marshal) in
/-- A client was put all that was published for its company since a state, and nothing else. -/
def Pipeline.Delivered (s₀ s : Pipeline Conn) : Prop :=
  ∃ got : List LiveMessage, s.hub.sent c = s₀.hub.sent c ++ got.map marshal ∧
    got.filterMap (·.position?) = (s₀.ingest.newEvents s.ingest).filter (fun e =>
      e.companyID = (s₀.hub.client c).companyID ∧ e.deviceID ≠ 0) ∧
    got.filterMap (·.alert?) = (s.ledger.published.drop s₀.ledger.published.length).filter
      fun a => a.companyID = (s₀.hub.client c).companyID

theorem filterMap_filter_company {β : Type} {f : LiveMessage → Option β} {g : β → Int}
    (hf : ∀ m b, f m = some b → g b = m.companyID) (companyID : Int)
    (ms : List LiveMessage) :
    (ms.filter fun m => m.companyID = companyID).filterMap f =
      (ms.filterMap f).filter fun b => g b = companyID := by
  induction ms with
  | nil => rfl
  | cons m ms ih =>
      rw [List.filter_cons]
      cases hm : f m with
      | none =>
          rw [List.filterMap_cons_none hm, ← ih]
          split_ifs
          · rw [List.filterMap_cons_none hm]
          · rfl
      | some b =>
          rw [List.filterMap_cons_some hm, List.filter_cons, hf m b hm, ← ih]
          split_ifs
          · rw [List.filterMap_cons_some hm]
          · rfl

/-- **Between two quiet moments a client that listens is put all that is published for its company**,
once and in order, unless Redis loses some of it. -/
theorem quiet_delivers {db : Database} {nextDevice : Int}
    (hreach : (pipeline marshal db nextDevice).Reachable s₀) {events : List (PipelineStep Conn)}
    (hrun : (pipeline marshal db nextDevice).run s₀ events = some s) (hquiet₀ : s₀.Quiet)
    (hquiet : s.Quiet) (hsmall : SmallCompanies s.ingest)
    (hmember : c ∈ s₀.hub.companyClients (s₀.hub.client c).companyID)
    (hsubscribed : (s₀.hub.client c).subscribedDevs = ∅)
    (hall : ∀ a ∈ events, Attentive c a) : s₀.Delivered c marshal s := by
  have hinv : ∀ {s : Pipeline Conn}, (pipeline marshal db nextDevice).Reachable s →
      s.Inv marshal := fun hreach =>
    hreach.invariant (inv_pipeline db nextDevice) fun _ _ _ hs hstep => hs.step hstep
  have hs₀ := hinv hreach
  have hs := hinv (hreach.run hrun)
  have hlossless := lossless_of_run (.refl s₀) hall hrun
  obtain ⟨more, new, hmore, hforwarded, henqueued, hlistens⟩ := hlossless.hub
  obtain ⟨before, hbefore, -⟩ := hs₀.hub
  obtain ⟨-, hsent⟩ := sent_of_listening hbefore hmore hquiet₀.hub hquiet.hub hmember hsubscribed
    hlistens
  have hin : ∀ m ∈ new, m ∈ s.forwarded := by
    intro m hm
    rw [hforwarded]
    exact List.mem_append_right _ hm
  rw [henqueued, texts_of_forwarded (fun m hm => hs.kept m (hin m hm))
    (fun m hm => hs.small hsmall m (hin m hm))] at hsent
  -- what was published is what was forwarded
  obtain ⟨events', hpublished, htaken⟩ :=
    hlossless.positions.taken hquiet₀.positions hquiet.positions
  rw [hs.positions, hs₀.positions] at hpublished
  have hpositions : new.filterMap (·.position?) = events'.filter (·.deviceID ≠ 0) := by
    have hnew := hs.forwardedPositions
    rw [hforwarded, htaken, List.filterMap_append, List.filter_append,
      hs₀.forwardedPositions] at hnew
    exact List.append_cancel_left hnew
  obtain ⟨alerts', hraised, htaken'⟩ := hlossless.alerts.taken hquiet₀.alerts hquiet.alerts
  rw [hs.alerts, hs₀.alerts] at hraised
  have halerts : new.filterMap (·.alert?) = alerts'.filter heard := by
    have hnew := hs.forwardedAlerts
    rw [hforwarded, htaken', List.filterMap_append, List.filter_append,
      hs₀.forwardedAlerts] at hnew
    exact List.append_cancel_left hnew
  have hcompany : (s₀.hub.client c).companyID ≠ 0 := by
    have hhub : s₀.hub.Inv := Hub.Inv.of_reachable (Machine.Reachable.init.run hbefore)
    exact Int.ne_of_gt (hs₀.companies c (hhub.registered_lt c (hhub.mem hmember).1))
  refine ⟨_, hsent, ?_, ?_⟩
  · rw [filterMap_filter_company (g := LiveEvent.companyID), hpositions,
      newEvents_of_append hpublished, List.filter_filter]
    · refine List.filter_congr fun e _ => ?_
      simp
    · rintro (event | event) b hb
      · obtain rfl := Option.some.inj hb
        rfl
      · cases hb
  · rw [filterMap_filter_company (g := AlertEvent.companyID), halerts, hraised,
      List.drop_left, List.filter_filter]
    · refine List.filter_congr fun a ha => ?_
      by_cases hsame : a.companyID = (s₀.hub.client c).companyID
      · obtain ⟨entries, -, hentries, hsource⟩ := hs.entries
        have hin : a ∈ s.ledger.published := by
          rw [hraised]
          exact List.mem_append_right _ ha
        rw [hentries] at hin
        obtain ⟨entry, hentry, rfl⟩ := List.mem_map.mp hin
        obtain ⟨-, e, he, -, -, hcompany', -⟩ := hsource entry hentry
        have hlt := hsmall e he
        rw [← hcompany'] at hlt
        have hheard : heard entry.2 = true := by
          rw [heard, Go.float64_of_lt hlt, hsame]
          exact decide_eq_true hcompany
        simp [hheard]
      · simp [hsame]
    · rintro (event | event) b hb
      · cases hb
      · obtain rfl := Option.some.inj hb
        rfl

end

/-- A browser of company 1 is there, and a position is uploaded, evaluated and delivered. -/
def positionDelivered : List (PipelineStep Unit) :=
  deviceUploads.map .ingest ++ [.evaluate 0 0 0 none fun _ => none, .forwardPosition,
    .hub (.process ⟨1, 7, [0x61]⟩), .hub (.visit 0), .hub .finish]

theorem quiet_delivers_one : ∃ s₀ s : Pipeline Unit, s.hub.sent 0 = [[0x61]] ∧
    s₀.Delivered 0 (fun _ => [0x61]) s := by
  obtain ⟨s₀, hrun₀, hquiet₀, hmember, hsubscribed, s, hrun, hquiet, hsent, hsmall⟩ :
      ∃ s₀, (pipeline (fun _ => [0x61]) trackedVehicle 8).run
        (pipeline (fun _ => [0x61]) trackedVehicle 8).init
        [.hub (.connect 0 "client-0" 1), .hub (.register 0)] = some s₀ ∧ s₀.Quiet ∧
      0 ∈ s₀.hub.companyClients (s₀.hub.client 0).companyID ∧
      (s₀.hub.client 0).subscribedDevs = ∅ ∧
      ∃ s, (pipeline (fun _ => [0x61]) trackedVehicle 8).run s₀ positionDelivered = some s ∧
        s.Quiet ∧ s.hub.sent 0 = [[0x61]] ∧ SmallCompanies s.ingest := by
    refine ⟨_, rfl, ⟨rfl, rfl, rfl, rfl, rfl⟩, by decide, rfl, _, rfl, ⟨rfl, rfl, rfl, rfl, rfl⟩,
      rfl, fun e he => ?_⟩
    obtain rfl := List.mem_singleton.mp he
    decide
  refine ⟨s₀, s, hsent, quiet_delivers (Machine.Reachable.init.run hrun₀) hrun hquiet₀ hquiet
    hsmall hmember hsubscribed ?_⟩
  simp [positionDelivered, deviceUploads, deviceConnects, Attentive, Listens]

end RudraNetra
