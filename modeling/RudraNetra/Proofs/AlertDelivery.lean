/-
Whom an alert reaches.

Alerts are meant for all clients of a company, but they go through the same loop as positions,
with 0 for the device.  A client that has subscribed to devices gets them only if 0 is one
of those, and once the loop has stopped at a client whose buffer is full, the clients
that still wait get nothing at all.  Otherwise each client with room in its buffer gets the
alert (`alert_heard_iff`).
-/
import RudraNetra.Proofs.Hub

namespace RudraNetra

/-- There is room in the client's buffer. -/
def Hub.HasSpace (h : Hub) (c : Nat) : Prop := (h.client c).send.length < sendCapacity

instance (h : Hub) (c : Nat) : Decidable (h.HasSpace c) := inferInstanceAs (Decidable (_ < _))

/-- The clients whose buffer is full at the moment that counts: when the loop comes to them, or when
it stops for good at a client that it should send to. -/
def Hub.foundFull (h : Hub) : HubEvent → Finset Nat
  | .visit c =>
    match h.phase with
    | .broadcasting msg todo =>
      if h.HasSpace c then ∅
      else if (h.client c).isSubscribed msg.deviceID then todo.filter fun d => ¬h.HasSpace d
      else {c}
    | _ => ∅
  | _ => ∅

/-- The hub until it takes the next message, and the clients found full so far. -/
def alertRound (h : Hub) : Machine (Hub × Finset Nat) HubEvent where
  init := (h, ∅)
  step := fun (h, full) event =>
    match event with
    | .process _ => none
    | event => (h.step event).map fun h' => (h', full ∪ h.foundFull event)

/-- The clients that the loop will come to. -/
def Hub.waiting (h : Hub) : Finset Nat :=
  match h.phase with
  | .broadcasting _ todo => todo
  | _ => ∅

/-- All clients that the company had have got the message, but for those that the loop will come to
and those whose buffer was full. -/
def Heard (before : Hub) (companyID : Int) (data : List UInt8) : Hub × Finset Nat → Prop :=
  fun (h, full) => ∀ c ∈ before.companyClients companyID, c ∉ h.waiting → c ∉ full →
    h.sent c = before.sent c ++ [data]

/-- A client with room has no subscriptions, or one to 0; and at one without room that it would
send to the loop stops only if no client with room waits. -/
def Attends : Hub × Finset Nat → HubEvent → Prop := fun (h, _) event =>
  ∀ c, event = .visit c →
    (h.HasSpace c → (h.client c).subscribedDevs = ∅ ∨ 0 ∈ (h.client c).subscribedDevs) ∧
    (¬h.HasSpace c → (h.client c).subscribedDevs = ∅ ∨ 0 ∈ (h.client c).subscribedDevs →
      ∀ d ∈ h.waiting, ¬h.HasSpace d)

theorem isSubscribed_zero_iff {c : Client} :
    c.isSubscribed 0 = true ↔ c.subscribedDevs = ∅ ∨ 0 ∈ c.subscribedDevs := by
  simp [Client.isSubscribed]

/-! ### The invariant of a round -/

/-- What holds while an alert is handled. -/
structure InRound (before : Hub) (companyID : Int) (data : List UInt8) (h : Hub)
    (full : Finset Nat) : Prop where
  inv : h.Inv
  msg : ∀ msg todo, h.phase = .broadcasting msg todo → msg = alertMessage companyID data
  clients : ∀ c ∈ h.waiting, c ∈ before.companyClients companyID
  unsent : ∀ c ∈ h.waiting, h.sent c = before.sent c ∧ c ∉ full

/-- Other events change nothing that the round is about. -/
theorem quiet_step {h h' : Hub} {event : HubEvent} (hinv : h.Inv) (hmoves : HubMoves h event h')
    (hvisit : ∀ c, event ≠ .visit c) (hprocess : ∀ msg, event ≠ .process msg) :
    h'.sent = h.sent ∧ h'.waiting = h.waiting ∧
      ∀ msg todo, h'.phase = .broadcasting msg todo → h.phase = .broadcasting msg todo := by
  cases hmoves with
  | discard msg => exact absurd rfl (hprocess msg)
  | start msg => exact absurd rfl (hprocess msg)
  | visit c => exact absurd rfl (hvisit c)
  | remove c hphase hin =>
      have hopen := (hinv.mem hin).2
      have hphase' : (h.remove c).phase = h.phase := by simp [Hub.remove, hopen, Hub.setClient]
      refine ⟨by simp [Hub.remove, hopen, Hub.setClient], ?_, ?_⟩
      · rw [Hub.waiting, hphase', Hub.waiting]
      · exact fun msg todo hbroadcasting => hphase' ▸ hbroadcasting
  | finish msg hphase =>
      refine ⟨rfl, ?_, fun msg' todo hselecting => by simp at hselecting⟩
      rw [Hub.waiting, Hub.waiting, hphase]
  | _ => exact ⟨rfl, rfl, fun _ _ hphase => hphase⟩

section

variable {before h : Hub} {companyID : Int} {data : List UInt8} {full : Finset Nat}

theorem waiting_of_phase {msg : BroadcastMessage} {todo : Finset Nat}
    (hphase : h.phase = .broadcasting msg todo) : h.waiting = todo := by
  rw [Hub.waiting, hphase]

/-- Whether everybody has heard once the loop is past one more client. -/
theorem heard_visited_iff {h' : Hub} {full' : Finset Nat} {c : Nat}
    (hround : InRound before companyID data h full) (hheard : Heard before companyID data (h, full))
    (hin : c ∈ h.waiting) (hwaiting : h'.waiting ⊆ h.waiting.erase c) (hfull : full ⊆ full')
    (hsent : ∀ d, d ≠ c → h'.sent d = h.sent d) :
    Heard before companyID data (h', full') ↔
      (c ∉ full' → h'.sent c = before.sent c ++ [data]) ∧
      ∀ d ∈ h.waiting, d ≠ c → d ∉ h'.waiting → d ∈ full' := by
  have hunsent : ∀ d ∈ h.waiting, d ≠ c → h'.sent d ≠ before.sent d ++ [data] := by
    intro d hd hne hsame
    rw [hsent d hne, (hround.unsent d hd).1] at hsame
    simpa using congrArg List.length hsame
  have hpast : c ∉ h'.waiting := fun hmem => (Finset.mem_erase.mp (hwaiting hmem)).1 rfl
  constructor
  · intro hall
    refine ⟨hall c (hround.clients c hin) hpast, fun d hd hne hlater => ?_⟩
    by_contra hroom
    exact hunsent d hd hne (hall d (hround.clients d hd) hlater hroom)
  · rintro ⟨hc, hrest⟩ d hd hlater hroom
    by_cases hne : d = c
    · exact hne ▸ hc (hne ▸ hroom)
    · by_cases hwait : d ∈ h.waiting
      · exact absurd (hrest d hwait hne hlater) hroom
      · rw [hsent d hne]
        exact hheard d hd hwait fun hold => hroom (hfull hold)

/-- **One more client: all have heard exactly if it attends.** -/
theorem visit_heard_iff {c : Nat} {msg : BroadcastMessage} {todo : Finset Nat}
    (hround : InRound before companyID data h full) (hheard : Heard before companyID data (h, full))
    (hphase : h.phase = .broadcasting msg todo) (hin : c ∈ todo) :
    Heard before companyID data (h.offer c msg (todo.erase c), full ∪ h.foundFull (.visit c)) ↔
      Attends (h, full) (.visit c) := by
  have hopen := (hround.inv.mem (hround.inv.loop msg todo hphase hin)).2
  have hwaiting : h.waiting = todo := waiting_of_phase hphase
  have hwait : c ∈ h.waiting := hwaiting ▸ hin
  obtain ⟨hunsent, hnew⟩ := hround.unsent c hwait
  have hshort : h.sent c ≠ before.sent c ++ [data] := by
    intro hsame
    rw [hunsent] at hsame
    simpa using congrArg List.length hsame
  have hattends : Attends (h, full) (.visit c) ↔
      (h.HasSpace c → (h.client c).isSubscribed 0 = true) ∧
        (¬h.HasSpace c → (h.client c).isSubscribed 0 = true → ∀ d ∈ todo, ¬h.HasSpace d) := by
    simp only [Attends, HubEvent.visit.injEq, forall_eq', isSubscribed_zero_iff, hwaiting]
  obtain rfl := hround.msg msg todo hphase
  have hfull : full ⊆ full ∪ h.foundFull (.visit c) := Finset.subset_union_left
  rw [hattends]
  rcases offer_cases (alertMessage companyID data) (todo.erase c) hopen with
    ⟨hsub, heq⟩ | ⟨hsub, hroom, heq⟩ | ⟨hsub, hroom, heq⟩ <;>
    simp only [alertMessage] at hsub <;> rw [heq, hsub]
  · -- The client is passed over.
    refine (heard_visited_iff hround hheard hwait (by simp [Hub.waiting, hphase]) hfull
      (by simp)).trans ?_
    have hfound : c ∈ full ∪ h.foundFull (.visit c) ↔ ¬h.HasSpace c := by
      by_cases hspace : h.HasSpace c <;>
        simp [Hub.foundFull, hphase, alertMessage, hspace, hsub, hnew]
    rw [hfound, not_not]
    constructor
    · rintro ⟨hc, -⟩
      exact ⟨fun hspace => absurd (hc hspace) hshort, fun _ hsub' => by simp at hsub'⟩
    · rintro ⟨hc, -⟩
      refine ⟨fun hspace => by simpa using hc hspace, fun d hd hne hpast => ?_⟩
      exact absurd (Finset.mem_erase.mpr ⟨hne, hwaiting ▸ hd⟩) hpast
  · -- The client gets the alert.
    have hothers : ∀ d, d ≠ c → (h.push c data).sent d = h.sent d :=
      fun d hne => Function.update_of_ne hne ..
    refine (heard_visited_iff hround hheard hwait ?_ hfull ?_).trans ?_
    · simp [Hub.waiting, hphase]
    · exact hothers
    refine iff_of_true ⟨fun _ => ?_, fun d hd hne hpast => ?_⟩ ⟨fun _ => rfl, fun hnot => ?_⟩
    · show Function.update h.sent c (h.sent c ++ [data]) c = _
      rw [Function.update_self, hunsent]
    · exact absurd (Finset.mem_erase.mpr ⟨hne, hwaiting ▸ hd⟩) hpast
    · exact absurd hroom hnot
  · -- The loop stops.
    have hfound : ∀ d ∈ todo, d ∈ full ∪ h.foundFull (.visit c) ↔ ¬h.HasSpace d := by
      intro d hd
      have hnew' := (hround.unsent d (hwaiting ▸ hd)).2
      have hspace : ¬h.HasSpace c := hroom
      simp [Hub.foundFull, hphase, alertMessage, hspace, hsub, hnew', hd]
    refine (heard_visited_iff hround hheard hwait (by simp [Hub.waiting]) hfull
      (by simp)).trans ?_
    constructor
    · rintro ⟨-, hrest⟩
      refine ⟨fun hspace => absurd hspace hroom, fun _ _ d hd => ?_⟩
      by_cases hne : d = c
      · exact hne ▸ hroom
      · exact (hfound d hd).mp (hrest d (hwaiting ▸ hd) hne (by simp [Hub.waiting]))
    · rintro ⟨-, hrest⟩
      refine ⟨fun hnot => absurd ((hfound c hin).mpr hroom) hnot, fun d hd _ _ => ?_⟩
      rw [hwaiting] at hd
      exact (hfound d hd).mpr (hrest hroom rfl d hd)

end

/-! ### Rounds -/

theorem round_step {h₁ : Hub} {s s' : Hub × Finset Nat} {event : HubEvent}
    (hstep : (alertRound h₁).step s event = some s') :
    (∀ msg, event ≠ .process msg) ∧ s.1.step event = some s'.1 ∧
      s'.2 = s.2 ∪ s.1.foundFull event := by
  obtain ⟨h, full⟩ := s
  have hmap : (∀ msg, event ≠ .process msg) ∧
      (h.step event).map (fun h' => (h', full ∪ h.foundFull event)) = some s' := by
    cases event with
    | process msg => simp [alertRound] at hstep
    | _ => exact ⟨by simp, hstep⟩
  obtain ⟨hprocess, hsome⟩ := hmap
  obtain ⟨h', hmoved, rfl⟩ := Option.map_eq_some_iff.mp hsome
  exact ⟨hprocess, hmoved, rfl⟩

theorem foundFull_of_ne {h : Hub} {event : HubEvent} (hvisit : ∀ c, event ≠ .visit c) :
    h.foundFull event = ∅ := by
  cases event with
  | visit c => exact absurd rfl (hvisit c)
  | _ => rfl

theorem InRound.visit {before h : Hub} {companyID : Int} {data : List UInt8} {full : Finset Nat}
    {c : Nat} {msg : BroadcastMessage} {todo : Finset Nat}
    (hround : InRound before companyID data h full) (hinv : (h.offer c msg (todo.erase c)).Inv)
    (hphase : h.phase = .broadcasting msg todo) (hin : c ∈ todo) :
    InRound before companyID data (h.offer c msg (todo.erase c))
      (full ∪ h.foundFull (.visit c)) := by
  have hopen := (hround.inv.mem (hround.inv.loop msg todo hphase hin)).2
  have hwaiting : h.waiting = todo := waiting_of_phase hphase
  have hmsg := hround.msg msg todo hphase
  have hold : ∀ d ∈ todo.erase c, d ≠ c ∧ d ∈ h.waiting := fun d hd =>
    ⟨Finset.ne_of_mem_erase hd, hwaiting ▸ Finset.mem_of_mem_erase hd⟩
  rcases offer_cases msg (todo.erase c) hopen with
    ⟨hsub, heq⟩ | ⟨hsub, hroom, heq⟩ | ⟨hsub, hroom, heq⟩ <;> rw [heq] at hinv ⊢
  · refine ⟨hinv, ?_, fun d hd => hround.clients d (hold d hd).2, fun d hd => ?_⟩
    · rintro _ _ ⟨⟩
      exact hmsg
    · obtain ⟨hsent, hnew⟩ := hround.unsent d (hold d hd).2
      refine ⟨hsent, ?_⟩
      by_cases hspace : h.HasSpace c <;>
        simp [Hub.foundFull, hphase, hspace, hsub, hnew, (hold d hd).1]
  · refine ⟨hinv, ?_, fun d hd => hround.clients d (hold d hd).2, fun d hd => ?_⟩
    · rintro _ _ ⟨⟩
      exact hmsg
    · obtain ⟨hsent, hnew⟩ := hround.unsent d (hold d hd).2
      have hspace : h.HasSpace c := hroom
      refine ⟨(Function.update_of_ne (hold d hd).1 ..).trans hsent, ?_⟩
      simp [Hub.foundFull, hphase, hspace, hnew]
  · refine ⟨hinv, ?_, ?_, ?_⟩
    · rintro _ _ ⟨⟩
    · simp [Hub.waiting]
    · simp [Hub.waiting]

theorem InRound.step {before h₁ : Hub} {companyID : Int} {data : List UInt8}
    {s s' : Hub × Finset Nat} {event : HubEvent} (hround : InRound before companyID data s.1 s.2)
    (hstep : (alertRound h₁).step s event = some s') : InRound before companyID data s'.1 s'.2 := by
  obtain ⟨hprocess, hmoved, hfull⟩ := round_step hstep
  obtain ⟨h, full⟩ := s
  obtain ⟨h', full'⟩ := s'
  dsimp only at hround hmoved hfull ⊢
  subst hfull
  have hinv := hround.inv.step hmoved
  by_cases hvisit : ∃ c, event = .visit c
  · obtain ⟨c, rfl⟩ := hvisit
    cases hubMoves_of_step hmoved with
    | visit _ msg todo hphase hin => exact hround.visit hinv hphase hin
  · have hvisit' : ∀ c, event ≠ .visit c := not_exists.mp hvisit
    obtain ⟨hsent, hwaiting, hphase⟩ :=
      quiet_step hround.inv (hubMoves_of_step hmoved) hvisit' hprocess
    rw [foundFull_of_ne hvisit', Finset.union_empty]
    refine ⟨hinv, fun msg todo hnow => hround.msg msg todo (hphase msg todo hnow), ?_, ?_⟩
    · rw [hwaiting]
      exact hround.clients
    · rw [hwaiting, hsent]
      exact hround.unsent

theorem heard_step_iff {before h₁ : Hub} {companyID : Int} {data : List UInt8}
    {s s' : Hub × Finset Nat} {event : HubEvent} (hround : InRound before companyID data s.1 s.2)
    (hheard : Heard before companyID data s) (hstep : (alertRound h₁).step s event = some s') :
    Heard before companyID data s' ↔ Attends s event := by
  obtain ⟨hprocess, hmoved, hfull⟩ := round_step hstep
  obtain ⟨h, full⟩ := s
  obtain ⟨h', full'⟩ := s'
  dsimp only at hmoved hfull
  subst hfull
  have hmoves := hubMoves_of_step hmoved
  by_cases hvisit : ∃ c, event = .visit c
  · obtain ⟨c, rfl⟩ := hvisit
    cases hmoves with
    | visit _ msg todo hphase hin => exact visit_heard_iff hround hheard hphase hin
  · have hvisit' : ∀ c, event ≠ .visit c := not_exists.mp hvisit
    obtain ⟨hsent, hwaiting, -⟩ := quiet_step hround.inv hmoves hvisit' hprocess
    refine iff_of_true ?_ fun c hc => absurd hc (hvisit' c)
    rw [foundFull_of_ne hvisit', Finset.union_empty]
    intro c hc hpast hroom
    rw [hwaiting] at hpast
    rw [hsent]
    exact hheard c hc hpast hroom

/-- **In every state of the round that an alert starts, everybody with room has heard it exactly if
all clients that the loop comes to attend.** -/
theorem alert_heard_iff {h h₁ : Hub} (hreach : hub.Reachable h) {companyID : Int} {data : List UInt8}
    (hstart : h.step (.process (alertMessage companyID data)) = some h₁) (events : List HubEvent) :
    (alertRound h₁).AllStates (Heard h companyID data) (h₁, ∅) events ↔
      (alertRound h₁).AllSteps Attends (h₁, ∅) events := by
  have hinv := Hub.Inv.of_reachable hreach
  have hstarted : InRound h companyID data h₁ ∅ ∧ Heard h companyID data (h₁, ∅) := by
    have hinv₁ := hinv.step hstart
    cases hubMoves_of_step hstart with
    | discard _ rest hphase hqueue hnone =>
        have hlookup : h.clients.lookup companyID = none := hnone
        have hnobody : h.companyClients companyID = ∅ := by
          rw [Hub.companyClients, hlookup, Option.getD_none]
        refine ⟨⟨hinv₁, by simp [hphase], by simp [Hub.waiting, hphase],
          by simp [Hub.waiting, hphase]⟩, ?_⟩
        intro c hc
        simp [hnobody] at hc
    | start _ rest todo hphase hqueue hsome =>
        have hlookup : h.clients.lookup companyID = some todo := hsome
        have hall : h.companyClients companyID = todo := by
          rw [Hub.companyClients, hlookup, Option.getD_some]
        refine ⟨⟨hinv₁, ?_, fun c hc => hall ▸ hc, fun c _ => ⟨rfl, by simp⟩⟩, ?_⟩
        · rintro _ _ ⟨⟩
          rfl
        · exact fun c hc hpast => absurd (hall ▸ hc) hpast
  exact Machine.allStates_iff_allSteps (I := fun s => InRound h companyID data s.1 s.2)
    (fun _ _ _ hround hstep => hround.step hstep)
    (fun _ _ _ hround hheard hstep => heard_step_iff hround hheard hstep) events (h₁, ∅)
    hstarted.1 hstarted.2

/-! ### A client with a subscription -/

/-- A client of company 7 subscribes to devices, and an alert waits for the hub. -/
def alertWaits (deviceIDs : List Int) : List HubEvent :=
  [.connect 0 "client-0" 7, .register 0, .subscribe 0 deviceIDs, .enqueue (alertMessage 7 [0x7B])]

/-- **A client that has subscribed to a device does not get the alert.** -/
theorem subscriber_not_heard : ∃ h h₁, hub.Reachable h ∧
    h.step (.process (alertMessage 7 [0x7B])) = some h₁ ∧
    ¬(alertRound h₁).AllStates (Heard h 7 [0x7B]) (h₁, ∅) [.visit 0, .finish] := by
  have hrun : hub.run hub.init (alertWaits [5]) = some _ := rfl
  refine ⟨_, _, Machine.Reachable.init.run hrun, rfl, fun hstates => ?_⟩
  have hend := (hstates.2 _ rfl).2 _ rfl
  have hsent := hend 0 (by decide) (by decide) (by decide)
  exact absurd hsent (by decide)

theorem everyone_heard : ∃ h h₁, hub.Reachable h ∧
    h.step (.process (alertMessage 7 [0x7B])) = some h₁ ∧
    (alertRound h₁).AllStates (Heard h 7 [0x7B]) (h₁, ∅) [.visit 0, .finish] := by
  have hrun : hub.run hub.init (alertWaits []) = some _ := rfl
  have hreach := Machine.Reachable.init.run hrun
  refine ⟨_, _, hreach, rfl, (alert_heard_iff hreach rfl _).mpr ?_⟩
  refine fun s hs => ⟨?_, fun s' _ => ⟨fun c hc => by simp at hc, trivial⟩⟩
  rintro _ ⟨⟩
  exact ⟨fun _ => .inl (by decide), fun hfull => absurd (by decide) hfull⟩

end RudraNetra
