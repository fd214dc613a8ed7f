/-
What the hub delivers to a client.

An observer of one client (`Watch`) sees when the client is registered and removed, what
it subscribes to, which messages the hub processes, and when the hub comes to the client;
it looks at no map and no buffer.  From that alone it can say what the client should get:
the messages of its company that are processed while it is registered, if it is
subscribed to them when the hub comes to it, or at the end if the hub never does.

The hub puts exactly that into the client's buffer, except the message whose delivery it
is blocked on.
-/
import RudraNetra.Proofs.Hub

namespace RudraNetra

/-- What an observer knows of a client. -/
structure Watch where
  companyID : Int
  /-- The client has been registered and not removed. -/
  member : Bool
  subscribedDevs : Finset Int
  /-- The message being processed, if it is for the client's company and the client is a member. -/
  due : Option BroadcastMessage
  /-- What the client should have got. -/
  expected : List (List UInt8)

/-- The client gets the message that is due if it is subscribed to it. -/
def Watch.settle (w : Watch) : Watch :=
  match w.due with
  | none => w
  | some msg =>
    if w.subscribedDevs = ∅ ∨ msg.deviceID ∈ w.subscribedDevs then
      { w with due := none, expected := w.expected ++ [msg.data] }
    else { w with due := none }

def Watch.observe (c : Nat) (w : Watch) : HubEvent → Watch
  | .connect c' _ companyID =>
    if c' = c then { w with companyID := companyID, subscribedDevs := ∅ } else w
  | .register c' => if c' = c then { w with member := true } else w
  | .unregister c' => if c' = c then { w with member := false } else w
  | .subscribe c' deviceIDs =>
    if c' = c then { w with subscribedDevs := w.subscribedDevs ∪ deviceIDs.toFinset } else w
  | .process msg =>
    { w with due := if w.member ∧ msg.companyID = w.companyID then some msg else none }
  | .visit c' => if c' = c then w.settle else w
  | .finish => w.settle
  | .read _ => w
  | .enqueue _ => w

/-- What an observer of a client knows after a run. -/
def watch (c : Nat) (events : List HubEvent) : Watch :=
  events.foldl (Watch.observe c) ⟨0, false, ∅, none, []⟩

/-- The messages that a run processes. -/
def processed (events : List HubEvent) : List BroadcastMessage :=
  events.filterMap fun event =>
    match event with
    | .process msg => some msg
    | _ => none

/-- The message whose delivery to the client the hub is blocked on. -/
def Hub.stuckOn (h : Hub) (c : Nat) : List (List UInt8) :=
  match h.phase with
  | .disconnecting c' msg _ => if c' = c then [msg.data] else []
  | _ => []

/-- The message the hub is going to come to the client with. -/
def Hub.dueFor (h : Hub) (c : Nat) : Option BroadcastMessage :=
  match h.phase with
  | .broadcasting msg todo => if c ∈ todo then some msg else none
  | .disconnecting _ msg todo => if c ∈ todo then some msg else none
  | _ => none

/-- The observer is right. -/
structure Watch.Right (c : Nat) (w : Watch) (h : Hub) : Prop where
  company : w.companyID = (h.client c).companyID
  member : w.member = true ↔ c ∈ h.companyClients (h.client c).companyID
  subscribed : w.subscribedDevs = (h.client c).subscribedDevs
  due : w.due = h.dueFor c
  expected : w.expected = h.sent c ++ h.stuckOn c
  /-- There is nothing before the client connects. -/
  fresh : h.next ≤ c → w.expected = [] ∧ w.due = none

/-! ### The observer stays right -/

variable {c : Nat} {w : Watch} {h : Hub}

/-- The observer settles a message as the loop's body does. -/
theorem Watch.Right.settle {msg : BroadcastMessage} (hw : w.Right c h) (hdue : w.due = some msg) :
    w.settle = { w with
      due := none
      expected := if (h.client c).isSubscribed msg.deviceID then w.expected ++ [msg.data]
        else w.expected } := by
  have hiff : (w.subscribedDevs = ∅ ∨ msg.deviceID ∈ w.subscribedDevs) ↔
      (h.client c).isSubscribed msg.deviceID = true := by
    rw [hw.subscribed, Client.isSubscribed, Bool.or_eq_true, decide_eq_true_iff,
      decide_eq_true_iff]
  rw [Watch.settle, hdue]
  by_cases hsub : (h.client c).isSubscribed msg.deviceID = true
  · rw [if_pos hsub]
    exact if_pos (hiff.mpr hsub)
  · rw [if_neg hsub]
    exact if_neg fun hc => hsub (hiff.mp hc)

theorem settle_of_due_none (hdue : w.due = none) : w.settle = w := by
  rw [Watch.settle, hdue]

/-- Steps that the observer does not see, and that change nothing of what it knows. -/
theorem Watch.Right.of_same {h' : Hub} (hw : w.Right c h) (hclients : h'.clients = h.clients)
    (hphase : h'.phase = h.phase) (hsent : h'.sent c = h.sent c)
    (hcompany : (h'.client c).companyID = (h.client c).companyID)
    (hsubscribed : (h'.client c).subscribedDevs = (h.client c).subscribedDevs)
    (hnext : h'.next ≤ c → h.next ≤ c) : w.Right c h' where
  company := by rw [hw.company, hcompany]
  member := by
    rw [hw.member, hcompany, Hub.companyClients, Hub.companyClients, hclients]
  subscribed := by rw [hw.subscribed, hsubscribed]
  due := by rw [hw.due, Hub.dueFor, Hub.dueFor, hphase]
  expected := by rw [hw.expected, hsent, Hub.stuckOn, Hub.stuckOn, hphase]
  fresh hle := hw.fresh (hnext hle)

theorem dueFor_selecting (hphase : h.phase = .selecting) (c : Nat) : h.dueFor c = none := by
  rw [Hub.dueFor, hphase]

theorem stuckOn_of_ne (hphase : ∀ c msg todo, h.phase ≠ .disconnecting c msg todo) (c : Nat) :
    h.stuckOn c = [] := by
  unfold Hub.stuckOn
  split
  · rename_i c' msg todo hbusy
    exact absurd hbusy (hphase c' msg todo)
  · rfl

theorem Watch.Right.connect (hw : w.Right c h) (hh : h.Inv) (id : String) (companyID : Int) :
    (w.observe c (.connect h.next id companyID)).Right c
      { h.setClient h.next (Client.new id companyID) with next := h.next + 1 } := by
  by_cases hc : h.next = c
  · subst hc
    have hnew : h.next ∉ h.registered := fun hin => Nat.lt_irrefl _ (hh.registered_lt _ hin)
    have hout : ∀ k, h.next ∉ h.companyClients k := fun k hin => hnew (hh.mem hin).1
    have hobserve : w.observe h.next (.connect h.next id companyID) =
        { w with companyID := companyID, subscribedDevs := ∅ } := if_pos rfl
    rw [hobserve]
    refine ⟨?_, ?_, ?_, hw.due, hw.expected, fun hle => absurd hle (Nat.not_succ_le_self _)⟩
    · simp [Client.new]
    · exact ⟨fun hmember => absurd (hw.member.mp hmember) (hout _), fun hin => absurd hin (hout _)⟩
    · simp [Client.new]
  · have hobserve : w.observe c (.connect h.next id companyID) = w := if_neg hc
    rw [hobserve]
    have hclient : (h.setClient h.next (Client.new id companyID)).client c = h.client c :=
      Hub.setClient_ne _ _ fun heq => hc heq.symm
    exact hw.of_same rfl rfl rfl (congrArg Client.companyID hclient)
      (congrArg Client.subscribedDevs hclient) Nat.le_of_succ_le

theorem Watch.Right.register (hw : w.Right c h) (c' : Nat) :
    (w.observe c (.register c')).Right c { h with
      clients := h.clients.insert (h.client c').companyID
        (insert c' (h.companyClients (h.client c').companyID))
      registered := insert c' h.registered } := by
  have hsets := companyClients_register h c' (insert c' h.registered) (h.client c').companyID
  by_cases hc : c' = c
  · subst hc
    have hobserve : w.observe c' (.register c') = { w with member := true } := if_pos rfl
    rw [hobserve]
    refine ⟨hw.company, ?_, hw.subscribed, hw.due, hw.expected, hw.fresh⟩
    rw [hsets, if_pos rfl]
    simp
  · have hobserve : w.observe c (.register c') = w := if_neg hc
    rw [hobserve]
    refine ⟨hw.company, ?_, hw.subscribed, hw.due, hw.expected, hw.fresh⟩
    rw [hw.member, hsets]
    by_cases hk : (h.client c).companyID = (h.client c').companyID
    · rw [if_pos hk, Finset.mem_insert, hk]
      simp [Ne.symm hc]
    · rw [if_neg hk]

theorem Watch.Right.remove (hw : w.Right c h) (hh : h.Inv) {c' : Nat}
    (hin : c' ∈ h.companyClients (h.client c').companyID) :
    (w.observe c (.unregister c')).Right c (h.remove c') := by
  have hopen := (hh.mem hin).2
  have hsets := companyClients_remove hopen
  have hphase' : (h.remove c').phase = h.phase := by simp [Hub.remove, hopen, Hub.setClient]
  have hsent : (h.remove c').sent = h.sent := by simp [Hub.remove, hopen, Hub.setClient]
  have hnext : (h.remove c').next = h.next := by simp [Hub.remove, hopen, Hub.setClient]
  have hcompany : ((h.remove c').client c).companyID = (h.client c).companyID ∧
      ((h.remove c').client c).subscribedDevs = (h.client c).subscribedDevs := by
    by_cases hc : c = c'
    · subst hc
      simp [Hub.remove, hopen]
    · simp [Hub.remove, hopen, hc]
  have hright : ∀ member : Bool, (member = true ↔
      c ∈ (h.remove c').companyClients (h.client c).companyID) →
      Watch.Right c { w with member := member } (h.remove c') := by
    intro member hmember
    refine ⟨?_, ?_, ?_, ?_, ?_, ?_⟩
    · rw [hcompany.1]
      exact hw.company
    · rw [hcompany.1]
      exact hmember
    · rw [hcompany.2]
      exact hw.subscribed
    · rw [Hub.dueFor, hphase']
      exact hw.due
    · rw [Hub.stuckOn, hphase', hsent]
      exact hw.expected
    · rw [hnext]
      exact hw.fresh
  by_cases hc : c' = c
  · subst hc
    have hobserve : w.observe c' (.unregister c') = { w with member := false } := if_pos rfl
    rw [hobserve]
    apply hright
    rw [hsets, if_pos rfl]
    simp
  · have hobserve : w.observe c (.unregister c') = w := if_neg hc
    rw [hobserve]
    refine hright w.member ?_
    rw [hw.member, hsets]
    by_cases hk : (h.client c).companyID = (h.client c').companyID
    · rw [if_pos hk]
      simp [Ne.symm hc]
    · rw [if_neg hk]

theorem Watch.Right.visit (hw : w.Right c h) (hh : h.Inv) {c' : Nat} {msg : BroadcastMessage}
    {todo : Finset Nat} (hphase : h.phase = .broadcasting msg todo) (hin : c' ∈ todo) :
    (w.observe c (.visit c')).Right c (h.offer c' msg (todo.erase c')) := by
  have hopen := (hh.mem (hh.loop msg todo hphase hin)).2
  obtain ⟨hcompany, -, hsubscribed⟩ := offer_client h c' msg (todo.erase c') c
  obtain ⟨hclients, -, hnext⟩ := offer_clients h c' msg (todo.erase c')
  have hmember : ∀ {w' : Watch}, w'.member = w.member → (w'.member = true ↔
      c ∈ (h.offer c' msg (todo.erase c')).companyClients
        ((h.offer c' msg (todo.erase c')).client c).companyID) := by
    intro w' hmember
    rw [hmember, hw.member, hcompany, Hub.companyClients, Hub.companyClients, hclients]
  have hstuck : h.stuckOn c = [] := stuckOn_of_ne (by
    intro c'' msg' todo' hbusy
    rw [hphase] at hbusy
    cases hbusy) c
  have hexpected : w.expected = h.sent c := by rw [hw.expected, hstuck, List.append_nil]
  by_cases hc : c' = c
  · -- the observed client gets the message, if it is subscribed to it
    subst hc
    have hdue : w.due = some msg := by
      rw [hw.due, Hub.dueFor, hphase]
      exact if_pos hin
    have hobserve : w.observe c' (.visit c') = w.settle := if_pos rfl
    have hlt : c' < h.next := hh.registered_lt c' (hh.mem (hh.loop msg todo hphase hin)).1
    rw [hobserve, hw.settle hdue]
    refine ⟨?_, hmember rfl, ?_, ?_, ?_, ?_⟩
    · rw [hcompany]
      exact hw.company
    · rw [hsubscribed]
      exact hw.subscribed
    · rcases offer_cases msg (todo.erase c') hopen with ⟨-, heq⟩ | ⟨-, -, heq⟩ | ⟨-, -, heq⟩ <;>
        simp [heq, Hub.dueFor]
    · rcases offer_cases msg (todo.erase c') hopen with ⟨hsub, heq⟩ | ⟨hsub, -, heq⟩ |
        ⟨hsub, -, heq⟩ <;>
        simp [heq, hsub, Hub.stuckOn, Hub.push, hexpected]
    · rw [hnext]
      exact fun hle => absurd hlt (Nat.not_lt.mpr hle)
  · have hobserve : w.observe c (.visit c') = w := if_neg hc
    rw [hobserve]
    refine ⟨?_, hmember rfl, ?_, ?_, ?_, ?_⟩
    · rw [hcompany]
      exact hw.company
    · rw [hsubscribed]
      exact hw.subscribed
    · rw [hw.due, Hub.dueFor, hphase]
      rcases offer_cases msg (todo.erase c') hopen with ⟨-, heq⟩ | ⟨-, -, heq⟩ | ⟨-, -, heq⟩ <;>
        simp [heq, Hub.dueFor, Ne.symm hc]
    · rcases offer_cases msg (todo.erase c') hopen with ⟨-, heq⟩ | ⟨-, -, heq⟩ | ⟨-, -, heq⟩ <;>
        simp [heq, Hub.stuckOn, Hub.push, Hub.setClient, hexpected, hc, Ne.symm hc]
    · rw [hnext]
      exact hw.fresh

theorem Watch.Right.step {h' : Hub} {event : HubEvent} (hw : w.Right c h) (hh : h.Inv)
    (hstep : h.step event = some h') : (w.observe c event).Right c h' := by
  cases hubMoves_of_step hstep with
  | connect id companyID => exact hw.connect hh id companyID
  | register c' hphase hlt hnew => exact hw.register c'
  | absent c' hphase hout =>
      by_cases hc : c' = c
      · subst hc
        have hobserve : w.observe c' (.unregister c') = { w with member := false } := if_pos rfl
        rw [hobserve]
        exact ⟨hw.company, ⟨nofun, fun hin => absurd hin hout⟩, hw.subscribed, hw.due, hw.expected,
          hw.fresh⟩
      · have hobserve : w.observe c (.unregister c') = w := if_neg hc
        rw [hobserve]
        exact hw
  | remove c' hphase hin => exact hw.remove hh hin
  | subscribe c' deviceIDs hlt =>
      by_cases hc : c' = c
      · subst hc
        have hobserve : w.observe c' (.subscribe c' deviceIDs) =
            { w with subscribedDevs := w.subscribedDevs ∪ deviceIDs.toFinset } := if_pos rfl
        rw [hobserve]
        refine ⟨?_, ?_, ?_, hw.due, hw.expected, hw.fresh⟩
        · simpa [Client.subscribe] using hw.company
        · rw [hw.member, Hub.setClient_self]
          rfl
        · simp [Client.subscribe, hw.subscribed]
      · have hobserve : w.observe c (.subscribe c' deviceIDs) = w := if_neg hc
        have hclient : (h.setClient c' ((h.client c').subscribe deviceIDs)).client c = h.client c :=
          Hub.setClient_ne _ _ fun heq => hc heq.symm
        rw [hobserve]
        exact hw.of_same rfl rfl rfl (congrArg Client.companyID hclient)
          (congrArg Client.subscribedDevs hclient) id
  | read c' first send hsend =>
      have hclient : ((h.setClient c' { h.client c' with send := send }).client c).companyID =
          (h.client c).companyID ∧
          ((h.setClient c' { h.client c' with send := send }).client c).subscribedDevs =
            (h.client c).subscribedDevs := by
        by_cases hc : c = c'
        · subst hc
          simp
        · simp [hc]
      exact hw.of_same rfl rfl rfl hclient.1 hclient.2 id
  | enqueue msg hroom => exact hw.of_same rfl rfl rfl rfl rfl id
  | discard msg rest hphase hqueue hnone =>
      -- a member of the message's company would be in the map
      have hnot : ¬ (w.member = true ∧ msg.companyID = w.companyID) := by
        intro hboth
        have hin := hw.member.mp hboth.1
        rw [← hw.company, ← hboth.2, Hub.companyClients, hnone] at hin
        exact Finset.notMem_empty _ hin
      have hobserve : w.observe c (.process msg) = { w with due := none } :=
        congrArg (fun due => { w with due := due }) (if_neg hnot)
      rw [hobserve]
      exact ⟨hw.company, hw.member, hw.subscribed, (dueFor_selecting hphase c).symm, hw.expected,
        fun hle => ⟨(hw.fresh hle).1, rfl⟩⟩
  | start msg rest todo hphase hqueue hsome =>
      have htodo : h.companyClients msg.companyID = todo := by rw [Hub.companyClients, hsome]; rfl
      have hiff : (w.member = true ∧ msg.companyID = w.companyID) ↔ c ∈ todo := by
        rw [hw.member, hw.company, ← htodo]
        constructor
        · intro hboth
          rw [hboth.2]
          exact hboth.1
        · intro hin
          have hcompany := hh.filed _ c hin
          rw [hcompany]
          exact ⟨hin, rfl⟩
      have hexpected : w.expected = h.sent c := by
        rw [hw.expected, stuckOn_of_ne, List.append_nil]
        intro c' msg' todo' hbusy
        rw [hphase] at hbusy
        cases hbusy
      refine ⟨hw.company, hw.member, hw.subscribed, ?_, ?_, ?_⟩
      · show (if w.member = true ∧ msg.companyID = w.companyID then some msg else none) =
          if c ∈ todo then some msg else none
        by_cases hin : c ∈ todo
        · rw [if_pos hin, if_pos (hiff.mpr hin)]
        · rw [if_neg hin, if_neg fun hboth => hin (hiff.mp hboth)]
      · show w.expected = h.sent c ++ []
        rw [List.append_nil]
        exact hexpected
      · intro hle
        refine ⟨(hw.fresh hle).1, if_neg fun hboth => ?_⟩
        have hin := hiff.mp hboth
        rw [← htodo] at hin
        exact absurd (hh.registered_lt c (hh.mem hin).1) (Nat.not_lt.mpr hle)
  | visit c' msg todo hphase hin => exact hw.visit hh hphase hin
  | finish msg hphase =>
      have hdue : w.due = none := by
        rw [hw.due, Hub.dueFor, hphase]
        exact if_neg (Finset.notMem_empty c)
      have hobserve : w.observe c .finish = w := settle_of_due_none hdue
      rw [hobserve]
      refine ⟨hw.company, hw.member, hw.subscribed, hdue, ?_, hw.fresh⟩
      rw [hw.expected, Hub.stuckOn, hphase]
      rfl

/-! ### What is expected is of the client's own company -/

/-- What is expected and what is due were processed, in that order, for the client's company. -/
def Watch.Own (w : Watch) (events : List HubEvent) : Prop :=
  (w.expected ++ (w.due.map (·.data)).toList).Sublist
    (((processed events).filter fun msg => msg.companyID = w.companyID).map (·.data))

theorem Watch.Own.settle {events : List HubEvent} (hw : w.Own events) : w.settle.Own events := by
  rcases hdue : w.due with _ | msg
  · rw [settle_of_due_none hdue]
    exact hw
  · rw [Watch.Own, hdue] at hw
    rw [Watch.settle, hdue]
    dsimp only
    by_cases hsub : w.subscribedDevs = ∅ ∨ msg.deviceID ∈ w.subscribedDevs
    · rw [if_pos hsub]
      simpa [Watch.Own] using hw
    · rw [if_neg hsub]
      have hexpected : w.expected.Sublist _ := (List.sublist_append_left _ _).trans hw
      simpa [Watch.Own] using hexpected

theorem processed_append (events more : List HubEvent) :
    processed (events ++ more) = processed events ++ processed more := List.filterMap_append

theorem Watch.Own.process {events : List HubEvent} (hw : w.Own events) (msg : BroadcastMessage) :
    (w.observe c (.process msg)).Own (events ++ [.process msg]) := by
  have hexpected := (List.sublist_append_left _ _).trans hw
  show (w.expected ++ (Option.map (·.data)
    (if w.member = true ∧ msg.companyID = w.companyID then some msg else none)).toList).Sublist
    (((processed (events ++ [.process msg])).filter fun msg => msg.companyID = w.companyID).map
      (·.data))
  rw [processed_append, List.filter_append, List.map_append]
  by_cases hdue : w.member = true ∧ msg.companyID = w.companyID
  · rw [if_pos hdue]
    refine hexpected.append ?_
    simp [processed, hdue.2]
  · rw [if_neg hdue]
    exact hexpected.append (List.nil_sublist _)

theorem Watch.Own.step {events : List HubEvent} {event : HubEvent} {h' : Hub} (hw : w.Own events)
    (hright : w.Right c h) (hstep : h.step event = some h') :
    (w.observe c event).Own (events ++ [event]) := by
  have hother : ∀ {w' : Watch}, w'.Own events → processed [event] = [] →
      w'.Own (events ++ [event]) := by
    intro w' hw' hnone
    rw [Watch.Own, processed_append, hnone, List.append_nil]
    exact hw'
  cases hubMoves_of_step hstep with
  | connect id companyID =>
      refine hother ?_ rfl
      by_cases hc : h.next = c
      · subst hc
        obtain ⟨hexpected, hdue⟩ := hright.fresh (Nat.le_refl _)
        simp [Watch.Own, Watch.observe, hexpected, hdue]
      · rw [Watch.observe, if_neg hc]
        exact hw
  | register c' =>
      refine hother ?_ rfl
      rw [Watch.observe]
      split_ifs <;> exact hw
  | absent c' =>
      refine hother ?_ rfl
      rw [Watch.observe]
      split_ifs <;> exact hw
  | remove c' =>
      refine hother ?_ rfl
      rw [Watch.observe]
      split_ifs <;> exact hw
  | subscribe c' deviceIDs =>
      refine hother ?_ rfl
      rw [Watch.observe]
      split_ifs <;> exact hw
  | read c' => exact hother hw rfl
  | enqueue msg => exact hother hw rfl
  | visit c' =>
      refine hother ?_ rfl
      rw [Watch.observe]
      split_ifs
      · exact hw.settle
      · exact hw
  | finish => exact hother hw.settle rfl
  | discard msg => exact hw.process msg
  | start msg => exact hw.process msg

/-! ### Whole runs -/

theorem run_watch (c : Nat) (events : List HubEvent) : ∀ (before : List HubEvent) (h h' : Hub)
    (w : Watch), h.Inv → w.Right c h → w.Own before → hub.run h events = some h' →
    (events.foldl (Watch.observe c) w).Right c h' ∧
      (events.foldl (Watch.observe c) w).Own (before ++ events) := by
  induction events with
  | nil =>
      intro before h h' w _ hright hown hrun
      obtain rfl := Option.some.inj hrun
      rw [List.append_nil]
      exact ⟨hright, hown⟩
  | cons event events ih =>
      intro before h h' w hh hright hown hrun
      obtain ⟨h₁, hstep, hrun⟩ := Option.bind_eq_some_iff.mp hrun
      rw [List.foldl_cons, List.append_cons]
      exact ih _ h₁ h' _ (hh.step hstep) (hright.step hh hstep) (hown.step hright hstep) hrun

theorem watch_right (c : Nat) : Watch.Right c ⟨0, false, ∅, none, []⟩ hub.init where
  company := rfl
  member := ⟨nofun, fun h => absurd h (Finset.notMem_empty _)⟩
  subscribed := rfl
  due := rfl
  expected := rfl
  fresh _ := ⟨rfl, rfl⟩

/-- Two clients of different companies, one of which has a subscription. -/
def twoCompanies : List HubEvent :=
  [.connect 0 "client-0" 7, .register 0, .connect 1 "client-1" 8, .register 1, .subscribe 0 [5],
    .enqueue ⟨7, 5, [0x61]⟩, .enqueue ⟨8, 5, [0x62]⟩, .enqueue ⟨7, 6, [0x63]⟩,
    .process ⟨7, 5, [0x61]⟩, .visit 0, .finish, .process ⟨8, 5, [0x62]⟩, .visit 1, .finish,
    .process ⟨7, 6, [0x63]⟩, .visit 0, .finish]

end RudraNetra
