/-
What the hub's map of clients knows, and when the hub blocks.

A client is in the map from when it is registered until its channel is closed, and only
under its own company (`Consistent`).  Closing and removing are one step of `Run`, and
while `Run` goes over the clients of a company nobody else changes the map, so every
client that it comes to has an open channel.

`Run` blocks exactly when it comes to a client whose buffer is full: it then sends on a
channel that only `Run` itself receives from, and stays there.
-/
import RudraNetra.Live.Hub

namespace RudraNetra

/-! ### What a step does -/

/-- What can happen, with all that was checked. -/
inductive HubMoves (h : Hub) : HubEvent → Hub → Prop where
  | connect (id : String) (companyID : Int) :
      HubMoves h (.connect h.next id companyID)
        { h.setClient h.next (Client.new id companyID) with next := h.next + 1 }
  | register (c : Nat) (hphase : h.phase = .selecting) (hlt : c < h.next) (hnew : c ∉ h.registered) :
      HubMoves h (.register c) { h with
        clients := h.clients.insert (h.client c).companyID
          (insert c (h.companyClients (h.client c).companyID))
        registered := insert c h.registered }
  | absent (c : Nat) (hphase : h.phase = .selecting)
      (hout : c ∉ h.companyClients (h.client c).companyID) : HubMoves h (.unregister c) h
  | remove (c : Nat) (hphase : h.phase = .selecting)
      (hin : c ∈ h.companyClients (h.client c).companyID) : HubMoves h (.unregister c) (h.remove c)
  | subscribe (c : Nat) (deviceIDs : List Int) (hlt : c < h.next) :
      HubMoves h (.subscribe c deviceIDs) (h.setClient c ((h.client c).subscribe deviceIDs))
  | read (c : Nat) (first : List UInt8) (send : List (List UInt8))
      (hsend : (h.client c).send = first :: send) :
      HubMoves h (.read c) (h.setClient c { h.client c with send := send })
  | enqueue (msg : BroadcastMessage) (hroom : h.broadcast.length < broadcastCapacity) :
      HubMoves h (.enqueue msg) { h with broadcast := h.broadcast ++ [msg] }
  | discard (msg : BroadcastMessage) (rest : List BroadcastMessage) (hphase : h.phase = .selecting)
      (hqueue : h.broadcast = msg :: rest) (hnone : h.clients.lookup msg.companyID = none) :
      HubMoves h (.process msg) { h with broadcast := rest }
  | start (msg : BroadcastMessage) (rest : List BroadcastMessage) (todo : Finset Nat)
      (hphase : h.phase = .selecting) (hqueue : h.broadcast = msg :: rest)
      (hsome : h.clients.lookup msg.companyID = some todo) :
      HubMoves h (.process msg) { h with broadcast := rest, phase := .broadcasting msg todo }
  | visit (c : Nat) (msg : BroadcastMessage) (todo : Finset Nat)
      (hphase : h.phase = .broadcasting msg todo) (hin : c ∈ todo) :
      HubMoves h (.visit c) (h.offer c msg (todo.erase c))
  | finish (msg : BroadcastMessage) (hphase : h.phase = .broadcasting msg ∅) :
      HubMoves h .finish { h with phase := .selecting }

theorem hubMoves_of_step {h h' : Hub} {event : HubEvent} (hstep : h.step event = some h') :
    HubMoves h event h' := by
  rcases event with ⟨c, id, companyID⟩ | c | c | ⟨c, deviceIDs⟩ | c | msg | msg | c | _ <;>
    simp only [Hub.step] at hstep
  · split at hstep
    · rename_i hc
      subst hc
      obtain rfl := Option.some.inj hstep
      exact .connect id companyID
    · cases hstep
  · split at hstep
    · rename_i hphase
      split at hstep
      · rename_i hc
        obtain rfl := Option.some.inj hstep
        exact .register c hphase hc.1 hc.2
      · cases hstep
    · cases hstep
  · split at hstep
    · rename_i hphase
      split at hstep
      · split at hstep
        · rename_i hin
          obtain rfl := Option.some.inj hstep
          exact .remove c hphase hin
        · rename_i hout
          obtain rfl := Option.some.inj hstep
          exact .absent c hphase hout
      · cases hstep
    · cases hstep
  · split at hstep
    · rename_i hlt
      obtain rfl := Option.some.inj hstep
      exact .subscribe c deviceIDs hlt
    · cases hstep
  · split at hstep
    · cases hstep
    · rename_i first send hsend
      obtain rfl := Option.some.inj hstep
      exact .read c first send hsend
  · split at hstep
    · rename_i hroom
      obtain rfl := Option.some.inj hstep
      exact .enqueue msg hroom
    · cases hstep
  · split at hstep
    · rename_i first rest hphase hqueue
      split at hstep
      · rename_i hfirst
        subst hfirst
        split at hstep
        · rename_i hnone
          obtain rfl := Option.some.inj hstep
          exact .discard msg rest hphase hqueue hnone
        · rename_i todo hsome
          obtain rfl := Option.some.inj hstep
          exact .start msg rest todo hphase hqueue hsome
      · cases hstep
    · cases hstep
  · split at hstep
    · rename_i msg todo hphase
      split at hstep
      · rename_i hin
        obtain rfl := Option.some.inj hstep
        exact .visit c msg todo hphase hin
      · cases hstep
    · cases hstep
  · split at hstep
    · rename_i msg todo hphase
      split at hstep
      · rename_i hempty
        subst hempty
        obtain rfl := Option.some.inj hstep
        exact .finish msg hphase
      · cases hstep
    · cases hstep

/-! ### The map after a step -/

@[simp] theorem Hub.setClient_self (h : Hub) (c : Nat) (client : Client) :
    (h.setClient c client).client c = client := Function.update_self ..

@[simp] theorem Hub.setClient_ne (h : Hub) {c c' : Nat} (client : Client) (hne : c' ≠ c) :
    (h.setClient c client).client c' = h.client c' := Function.update_of_ne hne ..

theorem companyClients_register (h : Hub) (c : Nat) (registered : Finset Nat) (companyID k : Int) :
    ({ h with
        clients := h.clients.insert companyID (insert c (h.companyClients companyID))
        registered := registered } : Hub).companyClients k =
      if k = companyID then insert c (h.companyClients companyID) else h.companyClients k := by
  by_cases hk : k = companyID
  · subst hk
    simp [Hub.companyClients]
  · simp [Hub.companyClients, hk]

/-- Removing takes the client out of the set of its company. -/
theorem companyClients_remove {h : Hub} {c : Nat} (hopen : (h.client c).closed = false) (k : Int) :
    (h.remove c).companyClients k =
      if k = (h.client c).companyID then (h.companyClients k).erase c else h.companyClients k := by
  have hclients : (h.remove c).clients =
      if (h.companyClients (h.client c).companyID).erase c = ∅ then
        h.clients.erase (h.client c).companyID
      else h.clients.insert (h.client c).companyID
        ((h.companyClients (h.client c).companyID).erase c) := by
    simp [Hub.remove, hopen]
  rw [Hub.companyClients, hclients]
  by_cases hk : k = (h.client c).companyID
  · subst hk
    rw [if_pos rfl]
    by_cases hempty : (h.companyClients (h.client c).companyID).erase c = ∅
    · rw [if_pos hempty, Finmap.lookup_erase, hempty]
      rfl
    · rw [if_neg hempty, Finmap.lookup_insert]
      rfl
  · rw [if_neg hk]
    by_cases hempty : (h.companyClients (h.client c).companyID).erase c = ∅
    · rw [if_pos hempty, Finmap.lookup_erase_ne hk]
      rfl
    · rw [if_neg hempty, Finmap.lookup_insert_of_ne _ hk]
      rfl

/-- The loop's body passes over a client that is not subscribed, puts the message into its buffer,
or is to disconnect it. -/
theorem offer_cases {h : Hub} {c : Nat} (msg : BroadcastMessage) (todo : Finset Nat)
    (hopen : (h.client c).closed = false) :
    ((h.client c).isSubscribed msg.deviceID = false ∧
      h.offer c msg todo = { h with phase := .broadcasting msg todo }) ∨
    ((h.client c).isSubscribed msg.deviceID = true ∧ (h.client c).send.length < sendCapacity ∧
      h.offer c msg todo = { h.push c msg.data with phase := .broadcasting msg todo }) ∨
    ((h.client c).isSubscribed msg.deviceID = true ∧ ¬ (h.client c).send.length < sendCapacity ∧
      h.offer c msg todo = { h with phase := .disconnecting c msg todo }) := by
  rcases hsub : (h.client c).isSubscribed msg.deviceID with _ | _
  · exact .inl ⟨rfl, by simp [Hub.offer, hsub]⟩
  · by_cases hroom : (h.client c).send.length < sendCapacity
    · exact .inr (.inl ⟨rfl, hroom, by simp [Hub.offer, hsub, hopen, hroom]⟩)
    · exact .inr (.inr ⟨rfl, hroom, by simp [Hub.offer, hsub, hopen, hroom]⟩)

/-- The loop's body changes the buffer of the client and nothing else of it. -/
theorem offer_client (h : Hub) (c : Nat) (msg : BroadcastMessage) (todo : Finset Nat) (c' : Nat) :
    ((h.offer c msg todo).client c').companyID = (h.client c').companyID ∧
    ((h.offer c msg todo).client c').closed = (h.client c').closed ∧
    ((h.offer c msg todo).client c').subscribedDevs = (h.client c').subscribedDevs := by
  by_cases hc : c' = c
  · subst hc
    unfold Hub.offer
    dsimp only
    split_ifs <;> simp [Hub.push]
  · unfold Hub.offer
    dsimp only
    split_ifs <;> simp [Hub.push, hc]

theorem offer_clients (h : Hub) (c : Nat) (msg : BroadcastMessage) (todo : Finset Nat) :
    (h.offer c msg todo).clients = h.clients ∧ (h.offer c msg todo).registered = h.registered ∧
    (h.offer c msg todo).next = h.next := by
  unfold Hub.offer
  dsimp only
  split_ifs <;> exact ⟨rfl, rfl, rfl⟩

/-! ### The invariant -/

structure Hub.Inv (h : Hub) : Prop where
  mem_iff : ∀ c, c ∈ h.companyClients (h.client c).companyID ↔
    c ∈ h.registered ∧ (h.client c).closed = false
  filed : ∀ k, ∀ c ∈ h.companyClients k, (h.client c).companyID = k
  nonempty : ∀ k, h.clients.lookup k ≠ some ∅
  closed_registered : ∀ c, (h.client c).closed = true → c ∈ h.registered
  registered_lt : ∀ c ∈ h.registered, c < h.next
  /-- The loop is over clients of the message's company. -/
  loop : ∀ msg todo, h.phase = .broadcasting msg todo → todo ⊆ h.companyClients msg.companyID
  noPanic : h.phase ≠ .panicked

/-- A client in the set of a company is registered, and open. -/
theorem Hub.Inv.mem {h : Hub} (hh : h.Inv) {c : Nat} {k : Int} (hc : c ∈ h.companyClients k) :
    c ∈ h.registered ∧ (h.client c).closed = false := by
  have hk := hh.filed k c hc
  rw [← hk] at hc
  exact (hh.mem_iff c).mp hc

/-- Steps that change neither the map nor the companies and channels of clients. -/
theorem Hub.Inv.of_same {h h' : Hub} (hh : h.Inv) (hclients : h'.clients = h.clients)
    (hregistered : h'.registered = h.registered) (hnext : h'.next = h.next)
    (hcompany : ∀ c, (h'.client c).companyID = (h.client c).companyID)
    (hclosed : ∀ c, (h'.client c).closed = (h.client c).closed)
    (hloop : ∀ msg todo, h'.phase = .broadcasting msg todo → todo ⊆ h.companyClients msg.companyID)
    (hpanic : h'.phase ≠ .panicked) : h'.Inv := by
  have hsets : ∀ k, h'.companyClients k = h.companyClients k := by
    intro k
    rw [Hub.companyClients, hclients, Hub.companyClients]
  refine ⟨?_, ?_, ?_, ?_, ?_, ?_, hpanic⟩
  · intro c
    rw [hsets, hcompany, hclosed, hregistered]
    exact hh.mem_iff c
  · intro k c hc
    rw [hsets] at hc
    rw [hcompany]
    exact hh.filed k c hc
  · rw [hclients]
    exact hh.nonempty
  · intro c hc
    rw [hclosed] at hc
    rw [hregistered]
    exact hh.closed_registered c hc
  · rw [hregistered, hnext]
    exact hh.registered_lt
  · intro msg todo hphase
    rw [hsets]
    exact hloop msg todo hphase

theorem Hub.Inv.connect {h : Hub} (hh : h.Inv) (id : String) (companyID : Int) :
    ({ h.setClient h.next (Client.new id companyID) with next := h.next + 1 } : Hub).Inv := by
  have hnew : h.next ∉ h.registered := fun hin => Nat.lt_irrefl _ (hh.registered_lt _ hin)
  have hout : ∀ k, h.next ∉ h.companyClients k := fun k hin => hnew (hh.mem hin).1
  refine ⟨?_, ?_, hh.nonempty, ?_, ?_, hh.loop, hh.noPanic⟩
  · intro c
    by_cases hc : c = h.next
    · subst hc
      exact ⟨fun hin => absurd hin (hout _), fun hin => absurd hin.1 hnew⟩
    · show c ∈ h.companyClients ((h.setClient h.next _).client c).companyID ↔
        c ∈ h.registered ∧ ((h.setClient h.next _).client c).closed = false
      rw [Hub.setClient_ne _ _ hc]
      exact hh.mem_iff c
  · intro k c hin
    have hc : c ≠ h.next := by
      rintro rfl
      exact hout k hin
    simpa [hc] using hh.filed k c hin
  · intro c hclosed
    by_cases hc : c = h.next
    · subst hc
      simp [Client.new] at hclosed
    · exact hh.closed_registered c (by simpa [hc] using hclosed)
  · exact fun c hin => Nat.lt_succ_of_lt (hh.registered_lt c hin)

theorem Hub.Inv.register {h : Hub} (hh : h.Inv) {c : Nat} (hphase : h.phase = .selecting)
    (hlt : c < h.next) (hnew : c ∉ h.registered) :
    ({ h with
        clients := h.clients.insert (h.client c).companyID
          (insert c (h.companyClients (h.client c).companyID))
        registered := insert c h.registered } : Hub).Inv := by
  have hopen : (h.client c).closed = false := by
    by_contra hclosed
    exact hnew (hh.closed_registered c (by simpa using hclosed))
  refine ⟨?_, ?_, ?_, ?_, ?_, ?_, hh.noPanic⟩
  · intro c'
    rw [companyClients_register]
    show _ ↔ c' ∈ insert c h.registered ∧ (h.client c').closed = false
    by_cases hc : c' = c
    · subst hc
      simp [hopen]
    · have hmem := hh.mem_iff c'
      by_cases hk : (h.client c').companyID = (h.client c).companyID
      · rw [if_pos hk, Finset.mem_insert, Finset.mem_insert, ← hk, hmem]
        simp [hc]
      · rw [if_neg hk, Finset.mem_insert, hmem]
        simp [hc]
  · intro k c' hin
    rw [companyClients_register] at hin
    by_cases hk : k = (h.client c).companyID
    · rw [if_pos hk, ← hk] at hin
      rcases Finset.mem_insert.mp hin with rfl | hin
      · exact hk.symm
      · exact hh.filed k c' hin
    · rw [if_neg hk] at hin
      exact hh.filed k c' hin
  · intro k
    by_cases hk : k = (h.client c).companyID
    · subst hk
      simp
    · simpa [hk] using hh.nonempty k
  · exact fun c' hclosed => Finset.mem_insert_of_mem (hh.closed_registered c' hclosed)
  · intro c' hin
    rcases Finset.mem_insert.mp hin with rfl | hin
    · exact hlt
    · exact hh.registered_lt c' hin
  · intro msg todo hbusy
    rw [hphase] at hbusy
    cases hbusy

theorem Hub.Inv.remove {h : Hub} (hh : h.Inv) {c : Nat} (hphase : h.phase = .selecting)
    (hin : c ∈ h.companyClients (h.client c).companyID) : (h.remove c).Inv := by
  have hopen := (hh.mem hin).2
  have hsets := companyClients_remove hopen
  have hclient : ∀ c', (h.remove c).client c' =
      if c' = c then { h.client c with closed := true } else h.client c' := by
    intro c'
    by_cases hc : c' = c
    · subst hc
      simp [Hub.remove, hopen]
    · simp [Hub.remove, hopen, hc]
  have hregistered : (h.remove c).registered = h.registered := by simp [Hub.remove, hopen, Hub.setClient]
  have hcompany : ∀ c', ((h.remove c).client c').companyID = (h.client c').companyID := by
    intro c'
    rw [hclient]
    by_cases hc : c' = c
    · rw [if_pos hc, hc]
    · rw [if_neg hc]
  refine ⟨?_, ?_, ?_, ?_, ?_, ?_, ?_⟩
  · intro c'
    rw [hcompany, hsets, hregistered, hclient]
    by_cases hc : c' = c
    · subst hc
      simp
    · rw [if_neg hc, ← hh.mem_iff c']
      by_cases hk : (h.client c').companyID = (h.client c).companyID
      · simp [hk, hc]
      · simp [hk]
  · intro k c' hin'
    rw [hsets] at hin'
    rw [hcompany]
    by_cases hk : k = (h.client c).companyID
    · rw [if_pos hk] at hin'
      exact hh.filed k c' (Finset.mem_of_mem_erase hin')
    · rw [if_neg hk] at hin'
      exact hh.filed k c' hin'
  · intro k
    by_cases hempty : (h.companyClients (h.client c).companyID).erase c = ∅
    · by_cases hk : k = (h.client c).companyID
      · subst hk
        simp [Hub.remove, hopen, hempty]
      · simpa [Hub.remove, hopen, hempty, hk] using hh.nonempty k
    · by_cases hk : k = (h.client c).companyID
      · subst hk
        simp [Hub.remove, hopen, hempty]
      · simpa [Hub.remove, hopen, hempty, hk] using hh.nonempty k
  · intro c' hclosed
    rw [hregistered]
    rw [hclient] at hclosed
    by_cases hc : c' = c
    · rw [hc]
      exact (hh.mem hin).1
    · rw [if_neg hc] at hclosed
      exact hh.closed_registered c' hclosed
  · intro c' hin'
    rw [hregistered] at hin'
    have hnext : (h.remove c).next = h.next := by simp [Hub.remove, hopen, Hub.setClient]
    rw [hnext]
    exact hh.registered_lt c' hin'
  · intro msg todo hbusy
    simp [Hub.remove, hopen, Hub.setClient, hphase] at hbusy
  · simp [Hub.remove, hopen, Hub.setClient, hphase]

theorem Hub.Inv.offer {h : Hub} (hh : h.Inv) {c : Nat} {msg : BroadcastMessage} {todo : Finset Nat}
    (hphase : h.phase = .broadcasting msg todo) (hin : c ∈ todo) :
    (h.offer c msg (todo.erase c)).Inv := by
  have hsub := hh.loop msg todo hphase
  have hopen := (hh.mem (hsub hin)).2
  obtain ⟨hclients, hregistered, hnext⟩ := offer_clients h c msg (todo.erase c)
  refine hh.of_same hclients hregistered hnext (fun c' => (offer_client h c msg _ c').1)
    (fun c' => (offer_client h c msg _ c').2.1) ?_ ?_
  · intro msg' todo' hbusy
    rcases offer_cases msg (todo.erase c) hopen with ⟨-, heq⟩ | ⟨-, -, heq⟩ | ⟨-, -, heq⟩ <;>
      rw [heq] at hbusy
    · obtain ⟨rfl, rfl⟩ := HubPhase.broadcasting.inj hbusy
      exact (Finset.erase_subset _ _).trans hsub
    · obtain ⟨rfl, rfl⟩ := HubPhase.broadcasting.inj hbusy
      exact (Finset.erase_subset _ _).trans hsub
    · cases hbusy
  · rcases offer_cases msg (todo.erase c) hopen with ⟨-, heq⟩ | ⟨-, -, heq⟩ | ⟨-, -, heq⟩ <;>
      rw [heq] <;> exact nofun

theorem Hub.Inv.step {h h' : Hub} {event : HubEvent} (hh : h.Inv) (hstep : h.step event = some h') :
    h'.Inv := by
  cases hubMoves_of_step hstep with
  | connect id companyID => exact hh.connect id companyID
  | register c hphase hlt hnew => exact hh.register hphase hlt hnew
  | absent c hphase hout => exact hh
  | remove c hphase hin => exact hh.remove hphase hin
  | subscribe c deviceIDs hlt =>
      refine hh.of_same rfl rfl rfl ?_ ?_ hh.loop hh.noPanic <;>
        intro c' <;> by_cases hc : c' = c
      · rw [hc, Hub.setClient_self, Client.subscribe]
      · rw [Hub.setClient_ne _ _ hc]
      · rw [hc, Hub.setClient_self, Client.subscribe]
      · rw [Hub.setClient_ne _ _ hc]
  | read c first send hsend =>
      refine hh.of_same rfl rfl rfl ?_ ?_ hh.loop hh.noPanic <;>
        intro c' <;> by_cases hc : c' = c
      · rw [hc, Hub.setClient_self]
      · rw [Hub.setClient_ne _ _ hc]
      · rw [hc, Hub.setClient_self]
      · rw [Hub.setClient_ne _ _ hc]
  | enqueue msg hroom =>
      exact hh.of_same rfl rfl rfl (fun _ => rfl) (fun _ => rfl) hh.loop hh.noPanic
  | discard msg rest hphase hqueue hnone =>
      exact hh.of_same rfl rfl rfl (fun _ => rfl) (fun _ => rfl) hh.loop hh.noPanic
  | start msg rest todo hphase hqueue hsome =>
      refine hh.of_same rfl rfl rfl (fun _ => rfl) (fun _ => rfl) ?_ nofun
      intro msg' todo' hbusy
      obtain ⟨rfl, rfl⟩ := HubPhase.broadcasting.inj hbusy
      rw [Hub.companyClients, hsome]
      exact Finset.Subset.refl _
  | visit c msg todo hphase hin => exact hh.offer hphase hin
  | finish msg hphase =>
      refine hh.of_same rfl rfl rfl (fun _ => rfl) (fun _ => rfl) ?_ nofun
      intro msg' todo' hbusy
      cases hbusy

theorem inv_hub : hub.init.Inv where
  mem_iff _ := ⟨fun h => absurd h (Finset.notMem_empty _), fun h => absurd h.1 (Finset.notMem_empty _)⟩
  filed _ _ h := absurd h (Finset.notMem_empty _)
  nonempty _ h := by cases h
  closed_registered _ h := by cases h
  registered_lt _ h := absurd h (Finset.notMem_empty _)
  loop _ _ h := by cases h
  noPanic h := by cases h

theorem Hub.Inv.of_reachable {h : Hub} (hreach : hub.Reachable h) : h.Inv :=
  hreach.invariant inv_hub fun _ _ _ hh hstep => hh.step hstep

/-! ### What the map knows -/

/-- The clients that are registered and whose channel is open. -/
def Hub.connected (h : Hub) : Finset Nat :=
  h.registered.filter fun c => (h.client c).closed = false

/-- A client is in the map exactly if it is connected, only under its own company; no company has
an empty set; the count is right; and no channel was closed twice or sent to when closed. -/
structure Hub.Consistent (h : Hub) : Prop where
  mem_iff : ∀ c, (∃ k, c ∈ h.companyClients k) ↔ c ∈ h.connected
  filed : ∀ k, ∀ c ∈ h.companyClients k, (h.client c).companyID = k
  nonempty : ∀ k, h.clients.lookup k ≠ some ∅
  count : h.connectedCount = h.connected.card
  noPanic : h.phase ≠ .panicked

theorem Hub.Inv.mem_connected {h : Hub} (hh : h.Inv) (c : Nat) :
    (∃ k, c ∈ h.companyClients k) ↔ c ∈ h.connected := by
  rw [Hub.connected, Finset.mem_filter]
  constructor
  · intro ⟨k, hin⟩
    exact hh.mem hin
  · intro hin
    exact ⟨_, (hh.mem_iff c).mpr hin⟩

/-- The sets of different companies have no client in common, so their sizes add up. -/
theorem Hub.Inv.count {h : Hub} (hh : h.Inv) : h.connectedCount = h.connected.card := by
  have hunion : h.clients.keys.biUnion h.companyClients = h.connected := by
    ext c
    rw [← hh.mem_connected c, Finset.mem_biUnion]
    constructor
    · intro ⟨k, _, hin⟩
      exact ⟨k, hin⟩
    · intro ⟨k, hin⟩
      refine ⟨k, ?_, hin⟩
      rw [Finmap.mem_keys, ← Finmap.lookup_isSome]
      by_contra hnone
      rw [Hub.companyClients, Option.not_isSome_iff_eq_none.mp hnone] at hin
      exact Finset.notMem_empty c hin
  have hdisjoint : ∀ k ∈ h.clients.keys, ∀ k' ∈ h.clients.keys, k ≠ k' →
      Disjoint (h.companyClients k) (h.companyClients k') := by
    intro k _ k' _ hne
    rw [Finset.disjoint_left]
    intro c hin hin'
    exact hne ((hh.filed k c hin).symm.trans (hh.filed k' c hin'))
  rw [Hub.connectedCount, ← hunion, Finset.card_biUnion hdisjoint]

/-- **In every state of every run the hub's map knows the connected clients.** -/
theorem hub_consistent {events : List HubEvent} {h : Hub} (hrun : hub.run hub.init events = some h) :
    h.Consistent := by
  have hh := Hub.Inv.of_reachable (Machine.Reachable.init.run hrun)
  exact ⟨hh.mem_connected, hh.filed, hh.nonempty, hh.count, hh.noPanic⟩

/-- A client that is unregistered twice, and a message after that. -/
theorem hub_consistent_unregistered_twice : ∃ h : Hub, h.Consistent ∧ (h.client 0).closed = true := by
  have hrun : hub.run hub.init [.connect 0 "client-0" 7, .register 0, .unregister 0, .unregister 0,
    .enqueue ⟨7, 1, [0x7B]⟩, .process ⟨7, 1, [0x7B]⟩] = some _ := rfl
  exact ⟨_, hub_consistent hrun, rfl⟩

/-! ### When the hub blocks -/

/-- `Run` waits to send on the channel that only it receives from. -/
def Hub.Blocked (h : Hub) : Prop := ∃ c msg todo, h.phase = .disconnecting c msg todo

/-- A client that `Run` comes to with a message it is subscribed to has room for it. -/
def HasRoom (h : Hub) : HubEvent → Prop
  | .visit c => ∀ msg todo, h.phase = .broadcasting msg todo →
      (h.client c).isSubscribed msg.deviceID = true → (h.client c).send.length < sendCapacity
  | _ => True

theorem not_blocked_of_phase {h : Hub} (hphase : h.phase = .selecting ∨
    (∃ msg todo, h.phase = .broadcasting msg todo) ∨ h.phase = .panicked) : ¬ h.Blocked := by
  rintro ⟨c, msg, todo, hblocked⟩
  rw [hblocked] at hphase
  rcases hphase with hphase | ⟨_, _, hphase⟩ | hphase <;> cases hphase

/-- The loop's body blocks exactly if the client is to get the message and has no room. -/
theorem offer_blocked_iff {h : Hub} {c : Nat} (msg : BroadcastMessage) (todo : Finset Nat)
    (hopen : (h.client c).closed = false) :
    ¬ (h.offer c msg todo).Blocked ↔
      ((h.client c).isSubscribed msg.deviceID = true → (h.client c).send.length < sendCapacity) := by
  rcases offer_cases msg todo hopen with ⟨hsub, heq⟩ | ⟨hsub, hroom, heq⟩ | ⟨hsub, hroom, heq⟩ <;>
    rw [heq, hsub]
  · exact ⟨fun _ => nofun, fun _ => not_blocked_of_phase (.inr (.inl ⟨msg, todo, rfl⟩))⟩
  · exact ⟨fun _ _ => hroom, fun _ => not_blocked_of_phase (.inr (.inl ⟨msg, todo, rfl⟩))⟩
  · exact ⟨fun hnot => absurd ⟨c, msg, todo, rfl⟩ hnot, fun hall => absurd (hall rfl) hroom⟩

theorem blocked_step_iff {h h' : Hub} {event : HubEvent} (hh : h.Inv) (hnot : ¬ h.Blocked)
    (hstep : h.step event = some h') : ¬ h'.Blocked ↔ HasRoom h event := by
  cases hubMoves_of_step hstep with
  | start msg rest todo hphase hqueue hsome =>
      exact ⟨fun _ => trivial, fun _ => not_blocked_of_phase (.inr (.inl ⟨msg, todo, rfl⟩))⟩
  | finish msg hphase => exact ⟨fun _ => trivial, fun _ => not_blocked_of_phase (.inl rfl)⟩
  | remove c hphase hin =>
      have hopen := (hh.mem hin).2
      have hphase' : (h.remove c).phase = .selecting := by
        simp [Hub.remove, hopen, Hub.setClient, hphase]
      exact ⟨fun _ => trivial, fun _ => not_blocked_of_phase (.inl hphase')⟩
  | visit c msg todo hphase hin =>
      have hopen := (hh.mem (hh.loop msg todo hphase hin)).2
      rw [offer_blocked_iff msg _ hopen]
      constructor
      · intro hall msg' todo' hphase'
        rw [hphase] at hphase'
        obtain ⟨rfl, rfl⟩ := HubPhase.broadcasting.inj hphase'
        exact hall
      · exact fun hall => hall msg todo hphase
  | _ => exact ⟨fun _ => trivial, fun _ => hnot⟩

/-- **The hub is not blocked in any state of a run exactly if each client that it comes to with a
message it is subscribed to has room in its buffer.** -/
theorem not_blocked_iff_hasRoom (events : List HubEvent) :
    hub.AllStates (fun h => ¬ h.Blocked) hub.init events ↔ hub.AllSteps HasRoom hub.init events :=
  Machine.allStates_iff_allSteps (I := Hub.Inv) (fun _ _ _ hh hstep => hh.step hstep)
    (fun _ _ _ hh hnot hstep => blocked_step_iff hh hnot hstep) events _ inv_hub
    (not_blocked_of_phase (.inl rfl))

/-- A blocked hub stays where it is: it takes no client and no message any more. -/
theorem blocked_forever {h h' : Hub} {event : HubEvent} (hblocked : h.Blocked)
    (hstep : h.step event = some h') :
    h'.Blocked ∧ h'.clients = h.clients ∧ h'.sent = h.sent ∧ h.broadcast <+: h'.broadcast := by
  obtain ⟨c, msg, todo, hphase⟩ := hblocked
  have hne : ∀ {p : HubPhase}, h.phase = p → p = .disconnecting c msg todo := by
    rintro p rfl
    exact hphase
  cases hubMoves_of_step hstep with
  | register _ hphase' => cases hne hphase'
  | remove _ hphase' => cases hne hphase'
  | discard _ _ hphase' => cases hne hphase'
  | start _ _ _ hphase' => cases hne hphase'
  | visit _ _ _ hphase' => cases hne hphase'
  | finish _ hphase' => cases hne hphase'
  | enqueue msg' _ => exact ⟨⟨c, msg, todo, hphase⟩, rfl, rfl, List.prefix_append _ _⟩
  | _ => exact ⟨⟨c, msg, todo, hphase⟩, rfl, rfl, List.prefix_refl _⟩

/-! ### A client that stops reading -/

def floodMessage : BroadcastMessage := ⟨7, 1, [0x7B]⟩

/-- One client of a company has `n` messages in its buffer, and the hub has nothing to do. -/
structure Hub.Flooded (n : Nat) (h : Hub) : Prop where
  phase : h.phase = .selecting
  broadcast : h.broadcast = []
  clients : h.clients.lookup 7 = some {0}
  client : h.client 0 = ⟨"client-0", 7, List.replicate n [0x7B], false, ∅⟩

/-- The hub comes to the client with a message. -/
theorem Hub.Flooded.offered {n : Nat} {h : Hub} (hflood : h.Flooded n) :
    hub.run h [.enqueue floodMessage, .process floodMessage, .visit 0] =
      some (({ h with broadcast := [], phase := .broadcasting floodMessage {0} } : Hub).offer 0
        floodMessage ∅) := by
  have hlookup : h.clients.lookup floodMessage.companyID = some {0} := hflood.clients
  simp [Machine.run, hub, Hub.step, hflood.phase, hflood.broadcast, hlookup, broadcastCapacity]

theorem Hub.Flooded.more {n : Nat} {h : Hub} (hflood : h.Flooded n) (hlt : n < sendCapacity) :
    ∃ h', hub.run h [.enqueue floodMessage, .process floodMessage, .visit 0, .finish] = some h' ∧
      h'.Flooded (n + 1) := by
  have hrun : hub.run h ([.enqueue floodMessage, .process floodMessage, .visit 0] ++ [.finish]) =
      hub.run _ [.finish] := Machine.run_append hflood.offered
  have hoffer : (({ h with broadcast := [], phase := .broadcasting floodMessage {0} } : Hub).offer 0
      floodMessage ∅) = { ({ h with
        broadcast := []
        phase := .broadcasting floodMessage {0} } : Hub).push 0 [0x7B] with
        phase := .broadcasting floodMessage ∅ } := by
    simp [Hub.offer, hflood.client, Client.isSubscribed, hlt, floodMessage]
  rw [hoffer] at hrun
  refine ⟨_, hrun, rfl, rfl, hflood.clients, ?_⟩
  simp [Hub.push, Hub.setClient, hflood.client, List.replicate_succ']

/-- A client that never reads comes to have as many messages as fit. -/
theorem flooded : ∀ n ≤ sendCapacity, ∃ h, hub.Reachable h ∧ h.Flooded n := by
  intro n
  induction n with
  | zero =>
      intro _
      have hrun : hub.run hub.init [.connect 0 "client-0" 7, .register 0] = some _ := rfl
      exact ⟨_, Machine.Reachable.init.run hrun, rfl, rfl, rfl, rfl⟩
  | succ n ih =>
      intro hle
      obtain ⟨h, hreach, hflood⟩ := ih (Nat.le_of_succ_le hle)
      obtain ⟨h', hrun, hflood'⟩ := hflood.more hle
      exact ⟨h', hreach.run hrun, hflood'⟩

/-- One more message blocks the hub. -/
theorem flooded_blocked : ∃ h, hub.Reachable h ∧ h.Blocked := by
  obtain ⟨h, hreach, hflood⟩ := flooded sendCapacity (Nat.le_refl _)
  refine ⟨_, hreach.run hflood.offered, 0, floodMessage, ∅, ?_⟩
  simp [Hub.offer, hflood.client, Client.isSubscribed]

end RudraNetra
