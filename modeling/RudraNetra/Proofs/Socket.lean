/-
The sockets and timers of the page.

A closed socket always starts a timer that reconnects, also if the cleanup of the effect closed it.  So
a hook keeps to one socket as long as its session stays the same, however often the
server closes the socket; after a change of the session, or the end of the component, it
does so only if no timer is pending and the old socket's closing is not reported
(`oneSocket_iff_quiet`).
-/
import RudraNetra.Proofs.VehicleStore
import RudraNetra.Web.Socket

namespace RudraNetra.Web

/-- How many sockets are open or being opened. -/
def liveIn (sockets : List Socket) : Nat := sockets.countP (·.isLive)

/-- There is at most one socket or pending timer, and it has the token of the session; and none if the
component is not mounted. -/
def Hook.OneSocket (h : Hook) : Prop :=
  match h.mounted with
  | some session => liveIn h.sockets + h.timers.length ≤ 1 ∧
      (∀ s ∈ h.sockets, s.isLive → s.session.token = session.token) ∧
      ∀ captured ∈ h.timers, captured.token = session.token
  | none => liveIn h.sockets = 0 ∧ h.timers = []

/-- What leaves it so: the session changes or ends while no timer is pending, and a socket is reported
closed while it is live, or else with no other socket or timer, and its token is the session's. -/
def Quiet (h : Hook) : HookEvent → Prop
  | .change _ => h.timers = []
  | .unmount => h.timers = []
  | .closed i => ∀ s, h.sockets[i]? = some s → s.isLive ∨
      liveIn h.sockets = 0 ∧ h.timers = [] ∧ ∃ session, h.mounted = some session ∧
        s.session.token = session.token
  | _ => True

/-- A live socket is the one that the reference holds. -/
def Referenced (sockets : List Socket) (ref : Option Nat) : Prop :=
  ∀ i s, sockets[i]? = some s → s.isLive → ref = some i

variable {h h' : Hook} {sockets : List Socket} {ref : Option Nat} {s : Socket} {i : Nat}

/-! ### Sockets -/

theorem liveIn_eq_zero : liveIn sockets = 0 ↔ ∀ s ∈ sockets, ¬s.isLive := List.countP_eq_zero

theorem liveIn_set (hi : sockets[i]? = some s) (s' : Socket) :
    liveIn (sockets.set i s') + (if s.isLive then 1 else 0) =
      liveIn sockets + if s'.isLive then 1 else 0 := by
  obtain ⟨hlt, hget⟩ := List.getElem?_eq_some_iff.mp hi
  have hset := List.countP_set (p := (·.isLive)) (a := s') hlt
  rw [hget] at hset
  have hpos : s.isLive = true → 0 < liveIn sockets := fun hlive =>
    List.countP_pos_iff.mpr ⟨s, List.mem_of_getElem? hi, hlive⟩
  unfold liveIn at hpos ⊢
  by_cases hlive : s.isLive = true
  · have := hpos hlive
    rw [hset, if_pos hlive]
    omega
  · rw [hset, if_neg hlive]
    omega

@[simp] theorem isLive_close (s : Socket) : s.close.isLive = false := by
  unfold Socket.close
  split
  · simp [Socket.isLive]
  · rename_i hlive
    simpa using hlive

@[simp] theorem session_close (s : Socket) : s.close.session = s.session := by
  unfold Socket.close
  split <;> rfl

/-- What replaces a socket and is live only if that was keeps the reference right. -/
theorem Referenced.set (href : Referenced sockets ref) (hi : sockets[i]? = some s) {s' : Socket}
    (hlive : s'.isLive → s.isLive) : Referenced (sockets.set i s') ref := by
  intro j t hj ht
  by_cases hij : i = j
  · subst hij
    have hlt := (List.getElem?_eq_some_iff.mp hi).1
    rw [List.getElem?_set_self hlt] at hj
    obtain rfl := Option.some.inj hj
    exact href i s hi (hlive ht)
  · rw [List.getElem?_set_ne hij] at hj
    exact href j t hj ht

/-- A new socket is the one that is referenced, if no other is live. -/
theorem referenced_connect (hlive : liveIn h.sockets = 0) (session : Session) :
    Referenced (h.connect session).sockets (h.connect session).socketRef := by
  intro i s hi hs
  show some h.sockets.length = some i
  by_cases hlt : i < h.sockets.length
  · rw [Hook.connect, List.getElem?_append_left hlt] at hi
    exact absurd hs (liveIn_eq_zero.mp hlive s (List.mem_of_getElem? hi))
  · have hle : i < (h.connect session).sockets.length := (List.getElem?_eq_some_iff.mp hi).1
    have hlength : (h.connect session).sockets.length = h.sockets.length + 1 := by
      simp [Hook.connect]
    rw [show i = h.sockets.length by omega]

theorem liveIn_connect (session : Session) :
    liveIn (h.connect session).sockets = liveIn h.sockets + 1 := by
  simp [liveIn, Hook.connect, Socket.isLive]

/-- The cleanup closes what is live. -/
theorem liveIn_cleanup (href : Referenced h.sockets h.socketRef) : liveIn h.cleanup.sockets = 0 := by
  rw [liveIn_eq_zero]
  intro t ht hlive
  obtain ⟨j, hj⟩ := List.mem_iff_getElem?.mp ht
  unfold Hook.cleanup at hj
  cases hsocket : h.socketRef with
  | none =>
      rw [hsocket] at hj
      simpa [hsocket] using href j t hj hlive
  | some i =>
      simp only [hsocket, Hook.close] at hj
      cases hi : h.sockets[i]? with
      | none =>
          rw [hi] at hj
          obtain rfl : i = j := by simpa [hsocket] using href j t hj hlive
          simp [hi] at hj
      | some s =>
          rw [hi] at hj
          by_cases hij : i = j
          · subst hij
            rw [List.getElem?_set_self (List.getElem?_eq_some_iff.mp hi).1] at hj
            obtain rfl := Option.some.inj hj
            simp at hlive
          · rw [List.getElem?_set_ne hij] at hj
            have := href j t hj hlive
            simp [hsocket, hij] at this

theorem timers_cleanup : h.cleanup.timers = h.timers := by
  unfold Hook.cleanup Hook.close
  split
  · split <;> rfl
  · rfl

/-! ### Steps -/

theorem oneSocket_of_mounted {session : Session} (hmounted : h.mounted = some session) :
    h.OneSocket ↔ liveIn h.sockets + h.timers.length ≤ 1 ∧
      (∀ s ∈ h.sockets, s.isLive → s.session.token = session.token) ∧
      ∀ captured ∈ h.timers, captured.token = session.token := by
  rw [Hook.OneSocket, hmounted]

theorem oneSocket_of_unmounted (hmounted : h.mounted = none) :
    h.OneSocket ↔ liveIn h.sockets = 0 ∧ h.timers = [] := by
  rw [Hook.OneSocket, hmounted]

/-- A hook in which nothing is live opens its one socket, if no timer is pending. -/
theorem oneSocket_connect_iff {session captured : Session} (hmounted : h.mounted = some session)
    (htoken : captured.token = session.token) (hlive : liveIn h.sockets = 0) :
    (h.connect captured).OneSocket ↔ h.timers = [] := by
  rw [oneSocket_of_mounted (h := h.connect captured) hmounted, liveIn_connect, hlive]
  constructor
  · rintro ⟨hcount, -⟩
    exact List.length_eq_zero_iff.mp (by simpa [Hook.connect] using hcount)
  · intro htimers
    refine ⟨by simp [Hook.connect, htimers], ?_, by simp [Hook.connect, htimers]⟩
    intro s hs hs'
    rcases List.mem_append.mp hs with hold | hnew
    · exact absurd hs' (liveIn_eq_zero.mp hlive s hold)
    · obtain rfl := List.mem_singleton.mp hnew
      exact htoken

/-- A socket may go on or be closed. -/
theorem Hook.OneSocket.set (hone : h.OneSocket) (hi : h.sockets[i]? = some s) (s' : Socket)
    (hlive : s'.isLive → s.isLive) (hsession : s'.session = s.session) (isConnected : Bool) :
    Hook.OneSocket { h with sockets := h.sockets.set i s', isConnected := isConnected } := by
  have hle : liveIn (h.sockets.set i s') ≤ liveIn h.sockets := by
    have := liveIn_set hi s'
    by_cases hs' : s'.isLive = true
    · rw [if_pos hs', if_pos (hlive hs')] at this
      omega
    · rw [if_neg hs'] at this
      omega
  cases hmounted : h.mounted with
  | none =>
      obtain ⟨hzero, htimers⟩ := (oneSocket_of_unmounted hmounted).mp hone
      show liveIn (h.sockets.set i s') = 0 ∧ h.timers = []
      exact ⟨Nat.le_zero.mp (hzero ▸ hle), htimers⟩
  | some session =>
      obtain ⟨hcount, htokens, htimers⟩ := (oneSocket_of_mounted hmounted).mp hone
      refine ⟨le_trans (Nat.add_le_add_right hle _) hcount, ?_, htimers⟩
      intro t ht htlive
      rcases List.mem_or_eq_of_mem_set ht with hold | rfl
      · exact htokens t hold htlive
      · rw [hsession]
        exact htokens s (List.mem_of_getElem? hi) (hlive htlive)

/-- The close handler starts a timer: it takes the place of the socket, if that was live. -/
theorem oneSocket_closed_iff (hone : h.OneSocket) (hi : h.sockets[i]? = some s) :
    Hook.OneSocket
      { h with
        sockets := h.sockets.set i { s with state := .closed }
        isConnected := false
        timers := h.timers ++ [s.session] } ↔
      s.isLive ∨ liveIn h.sockets = 0 ∧ h.timers = [] ∧ ∃ session, h.mounted = some session ∧
        s.session.token = session.token := by
  have hset := liveIn_set hi { s with state := .closed }
  have hdead : ({ s with state := .closed } : Socket).isLive = false := rfl
  rw [hdead] at hset
  have hmem : s ∈ h.sockets := List.mem_of_getElem? hi
  cases hmounted : h.mounted with
  | none =>
      obtain ⟨hzero, htimers⟩ := (oneSocket_of_unmounted hmounted).mp hone
      refine iff_of_false ?_ ?_
      · rintro ⟨-, hnil⟩
        simp at hnil
      · rintro (hlive | ⟨-, -, session, hnone, -⟩)
        · exact liveIn_eq_zero.mp hzero s hmem hlive
        · simp at hnone
  | some session =>
      obtain ⟨hcount, htokens, htimers⟩ := (oneSocket_of_mounted hmounted).mp hone
      constructor
      · rintro ⟨hcount', -, htimers'⟩
        by_cases hlive : s.isLive = true
        · exact .inl hlive
        · right
          simp only [List.length_append, List.length_singleton] at hcount'
          rw [if_neg hlive] at hset
          refine ⟨by simp at hset; omega, List.length_eq_zero_iff.mp (by omega), session, rfl, ?_⟩
          exact htimers' s.session (by simp)
      · intro hquiet
        have hnone : liveIn (h.sockets.set i { s with state := .closed }) = 0 ∧ h.timers = [] ∧
            s.session.token = session.token := by
          rcases hquiet with hlive | ⟨hzero, hnil, session', hsession, htoken⟩
          · have hpos : 0 < liveIn h.sockets := List.countP_pos_iff.mpr ⟨s, hmem, hlive⟩
            rw [if_pos hlive] at hset
            refine ⟨by simp at hset; omega, List.length_eq_zero_iff.mp (by omega), ?_⟩
            exact htokens s hmem hlive
          · obtain rfl := Option.some.inj hsession
            exact ⟨by simp at hset; omega, hnil, htoken⟩
        obtain ⟨hzero, hnil, htoken⟩ := hnone
        refine ⟨by simp [hzero, hnil], ?_, by simpa [hnil] using htoken⟩
        intro t ht htlive
        exact absurd htlive (liveIn_eq_zero.mp hzero t ht)

/-- A timer runs only while no socket is live and no other timer is pending. -/
theorem of_timer {k : Nat} {captured : Session} (hone : h.OneSocket)
    (hk : h.timers[k]? = some captured) : liveIn h.sockets = 0 ∧ h.timers.eraseIdx k = [] ∧
      ∃ session, h.mounted = some session ∧ captured.token = session.token := by
  have hmem : captured ∈ h.timers := List.mem_of_getElem? hk
  cases hmounted : h.mounted with
  | none =>
      obtain ⟨-, hnil⟩ := (oneSocket_of_unmounted hmounted).mp hone
      simp [hnil] at hmem
  | some session =>
      obtain ⟨hcount, -, htimers⟩ := (oneSocket_of_mounted hmounted).mp hone
      have hpos : 0 < h.timers.length := List.length_pos_of_mem hmem
      have hlt : k < h.timers.length := (List.getElem?_eq_some_iff.mp hk).1
      have hlength := List.length_eraseIdx_of_lt hlt
      exact ⟨by omega, List.length_eq_zero_iff.mp (by omega), session, rfl, htimers captured hmem⟩

/-- What a step that closes or opens a socket does to it. -/
theorem step_error (hstep : h.step (.error i) = some h') :
    ∃ s, h.sockets[i]? = some s ∧ h' = { h with sockets := h.sockets.set i s.close } := by
  simp only [Hook.step] at hstep
  split at hstep
  · rename_i s hs
    split at hstep
    · simp at hstep
    · obtain rfl := Option.some.inj hstep
      exact ⟨s, hs, by simp [Hook.close, hs]⟩
  · simp at hstep

theorem step_opened (hstep : h.step (.opened i) = some h') :
    ∃ s, h.sockets[i]? = some s ∧ s.state = .connecting ∧ h' =
      { h with sockets := h.sockets.set i { s with state := .opened }, isConnected := true } := by
  simp only [Hook.step] at hstep
  split at hstep
  · rename_i s hs
    split at hstep
    · rename_i hstate
      exact ⟨s, hs, hstate, (Option.some.inj hstep).symm⟩
    · simp at hstep
  · simp at hstep

theorem step_closed (hstep : h.step (.closed i) = some h') :
    ∃ s, h.sockets[i]? = some s ∧ h' =
      { h with
        sockets := h.sockets.set i { s with state := .closed }
        isConnected := false
        timers := h.timers ++ [s.session] } := by
  simp only [Hook.step] at hstep
  split at hstep
  · rename_i s hs
    split at hstep
    · simp at hstep
    · exact ⟨s, hs, (Option.some.inj hstep).symm⟩
  · simp at hstep

theorem step_timer {k : Nat} (hstep : h.step (.timer k) = some h') :
    ∃ captured, h.timers[k]? = some captured ∧
      h' = { h with timers := h.timers.eraseIdx k }.connect captured := by
  simp only [Hook.step] at hstep
  split at hstep
  · rename_i captured hcaptured
    exact ⟨captured, hcaptured, (Option.some.inj hstep).symm⟩
  · simp at hstep

theorem step_mount {session : Session} (hstep : h.step (.mount session) = some h') :
    h.mounted = none ∧ h' = { h with mounted := some session }.connect session := by
  simp only [Hook.step] at hstep
  split at hstep
  · rename_i hnone
    exact ⟨hnone, (Option.some.inj hstep).symm⟩
  · simp at hstep

theorem step_change {session : Session} (hstep : h.step (.change session) = some h') :
    h' = { h.cleanup with mounted := some session }.connect session := by
  simp only [Hook.step] at hstep
  split at hstep
  · simp at hstep
  · exact (Option.some.inj hstep).symm

theorem step_unmount (hstep : h.step .unmount = some h') :
    h' = { h.cleanup with mounted := none } := by
  simp only [Hook.step] at hstep
  split at hstep
  · simp at hstep
  · exact (Option.some.inj hstep).symm

/-- **One step.** -/
theorem oneSocket_step_iff {e : HookEvent} (href : Referenced h.sockets h.socketRef)
    (hone : h.OneSocket) (hstep : h.step e = some h') : h'.OneSocket ↔ Quiet h e := by
  cases e with
  | mount session =>
      obtain ⟨hnone, rfl⟩ := step_mount hstep
      obtain ⟨hzero, hnil⟩ := (oneSocket_of_unmounted hnone).mp hone
      exact (oneSocket_connect_iff (h := { h with mounted := some session }) rfl rfl hzero).trans
        (iff_of_true hnil trivial)
  | change session =>
      obtain rfl := step_change hstep
      refine (oneSocket_connect_iff (h := { h.cleanup with mounted := some session }) rfl rfl
        (liveIn_cleanup href)).trans ?_
      rw [timers_cleanup]
      rfl
  | unmount =>
      obtain rfl := step_unmount hstep
      show liveIn h.cleanup.sockets = 0 ∧ h.cleanup.timers = [] ↔ h.timers = []
      rw [timers_cleanup]
      exact and_iff_right (liveIn_cleanup href)
  | opened i =>
      obtain ⟨s, hi, hstate, rfl⟩ := step_opened hstep
      refine iff_of_true (hone.set hi { s with state := .opened } (fun _ => ?_) rfl true) trivial
      simp [Socket.isLive, hstate]
  | error i =>
      obtain ⟨s, hi, rfl⟩ := step_error hstep
      exact iff_of_true (hone.set hi s.close (by simp) (session_close s) h.isConnected) trivial
  | closed i =>
      obtain ⟨s, hi, rfl⟩ := step_closed hstep
      refine (oneSocket_closed_iff hone hi).trans ?_
      simp only [Quiet, hi, Option.some.injEq, forall_eq']
  | timer k =>
      obtain ⟨captured, hk, rfl⟩ := step_timer hstep
      obtain ⟨hzero, hnil, session, hmounted, htoken⟩ := of_timer hone hk
      exact (oneSocket_connect_iff (h := { h with timers := h.timers.eraseIdx k }) hmounted htoken
        hzero).trans (iff_of_true hnil trivial)

theorem referenced_step {e : HookEvent} (href : Referenced h.sockets h.socketRef)
    (hone : h.OneSocket) (hstep : h.step e = some h') : Referenced h'.sockets h'.socketRef := by
  cases e with
  | mount session =>
      obtain ⟨hnone, rfl⟩ := step_mount hstep
      exact referenced_connect ((oneSocket_of_unmounted hnone).mp hone).1 session
  | change session =>
      obtain rfl := step_change hstep
      exact referenced_connect (liveIn_cleanup href) session
  | unmount =>
      obtain rfl := step_unmount hstep
      intro i s hi hlive
      exact absurd hlive (liveIn_eq_zero.mp (liveIn_cleanup href) s (List.mem_of_getElem? hi))
  | opened i =>
      obtain ⟨s, hi, hstate, rfl⟩ := step_opened hstep
      exact href.set hi fun _ => by simp [Socket.isLive, hstate]
  | error i =>
      obtain ⟨s, hi, rfl⟩ := step_error hstep
      exact href.set hi (by simp)
  | closed i =>
      obtain ⟨s, hi, rfl⟩ := step_closed hstep
      exact href.set hi (by simp [Socket.isLive])
  | timer k =>
      obtain ⟨captured, hk, rfl⟩ := step_timer hstep
      exact referenced_connect (of_timer hone hk).1 captured

/-- **Along a run a hook keeps to one socket or timer with the token of its session exactly if every
step is quiet.** -/
theorem oneSocket_iff_quiet (loc : Location) (events : List HookEvent) :
    (hook loc).AllStates Hook.OneSocket (Hook.unmounted loc) events ↔
      (hook loc).AllSteps Quiet (Hook.unmounted loc) events :=
  Machine.allStates_iff_allSteps_of (I := fun h => Referenced h.sockets h.socketRef)
    (fun _ _ _ href hone _ hstep => referenced_step href hone hstep)
    (fun _ _ _ href hone hstep => oneSocket_step_iff href hone hstep) events _
    (by simp [Referenced, Hook.unmounted]) ⟨rfl, rfl⟩

def firstSession : Session := ⟨some "a", some 1⟩

def nextSession : Session := ⟨some "b", some 1⟩

/-- The user signs in anew, and the old socket is reported closed. -/
def sessionChange : List HookEvent :=
  [.mount firstSession, .opened 0, .change nextSession, .closed 0]

/-- Then there are the new socket and a timer with the old token. -/
theorem not_oneSocket_sessionChange :
    ¬(hook here).AllStates Hook.OneSocket (Hook.unmounted here) sessionChange := by
  intro hall
  have hlast := (((hall.2 _ rfl).2 _ rfl).2 _ rfl).2 _ rfl
  have htoken : firstSession.token = nextSession.token :=
    hlast.2.2 firstSession (List.mem_singleton_self firstSession)
  simp [firstSession, nextSession] at htoken

end RudraNetra.Web
