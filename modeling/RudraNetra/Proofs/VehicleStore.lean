/-
What the page shows while requests are under way.

Neither writer of the store looks at what is there.  `updatePosition` compares no timestamps, and
`fetchVehicles` does not notice that it was called again, or that the store was cleared,
since it asked.  So the page shows the calls that were made only if no response comes after a
later call has taken effect (`current_iff_inTime`), and the timestamps go forward only if
messages and responses come in order (`forward_iff_inOrder`).
-/
import RudraNetra.Lib.Display
import RudraNetra.Web.VehicleStore

namespace RudraNetra.Web

open Machine

/-! ### The calls -/

/-- What the store holds after a call that took effect. -/
def Call.effect : Call → Option Held
  | .cleared => some .none
  | .answered held => some held
  | .pending _ => none
  | .failed => none

/-- What the last call that took effect leaves. -/
def lastEffect (calls : List Call) : Option Held := (calls.filterMap Call.effect).getLast?

/-- What the store should hold: what came of the last call, not counting those that failed or
wait for their response. -/
def meant (calls : List Call) : Held := (lastEffect calls).getD .none

/-- The store holds what it should. -/
def Page.Current (p : Page) : Prop := p.store.held = meant p.calls

/-- A response is in time if no later call has taken effect, or left the same. -/
def InTime (p : Page) : Event → Prop
  | .response i response => ∀ request data total, p.calls[i]? = some (.pending request) →
      response.payload = .ok (data, total) →
      ∀ later, lastEffect (p.calls.drop (i + 1)) = some later → later = heldOf request data
  | _ => True

/-- The page without a socket. -/
def polling (loc : Location) (auth : AuthState) : Machine Page Event where
  init := Page.opened loc auth
  step p
    | .message _ => none
    | e => p.step e

variable {calls : List Call} {p p' : Page}

@[simp] theorem lastEffect_nil : lastEffect [] = none := rfl

theorem lastEffect_append (before after : List Call) :
    lastEffect (before ++ after) = (lastEffect after).or (lastEffect before) := by
  simp [lastEffect, List.getLast?_append]

/-- A call that has no effect yet changes nothing. -/
theorem meant_append_of_none {call : Call} (h : call.effect = none) :
    meant (calls ++ [call]) = meant calls := by
  simp [meant, lastEffect, h]

theorem meant_append_cleared : meant (calls ++ [.cleared]) = .none := by
  simp [meant, lastEffect, Call.effect]

/-- The call and those around it. -/
theorem lastEffect_set {i : Nat} (hi : i < calls.length) (call : Call) :
    lastEffect (calls.set i call) =
      ((lastEffect (calls.drop (i + 1))).or call.effect).or (lastEffect (calls.take i)) := by
  have hcons : call :: calls.drop (i + 1) = [call] ++ calls.drop (i + 1) := rfl
  have hone : lastEffect [call] = call.effect := by
    cases h : call.effect <;> simp [lastEffect, h]
  rw [List.set_eq_take_append_cons_drop, if_pos hi, hcons, lastEffect_append, lastEffect_append,
    hone]

/-- A call that failed is as one that waits. -/
theorem meant_set_failed {i : Nat} {request : Request}
    (h : calls[i]? = some (.pending request)) : meant (calls.set i .failed) = meant calls := by
  obtain ⟨hi, hget⟩ := List.getElem?_eq_some_iff.mp h
  have hsame : calls.set i (.pending request) = calls := by
    rw [← hget, List.set_getElem_self]
  have heffect : lastEffect (calls.set i .failed) = lastEffect (calls.set i (.pending request)) := by
    rw [lastEffect_set hi, lastEffect_set hi]
    rfl
  rw [meant, heffect, hsame, meant]

/-- An answer is what the store should hold, unless a later call has taken effect. -/
theorem meant_set_answered {i : Nat} (hi : i < calls.length) (held : Held) :
    meant (calls.set i (.answered held)) = (lastEffect (calls.drop (i + 1))).getD held := by
  rw [meant, lastEffect_set hi]
  cases lastEffect (calls.drop (i + 1)) <;> rfl

theorem held_fetchVehicles (token : Option String) (companyID : Option Int) :
    (p.fetchVehicles token companyID).store.held = p.store.held := by
  unfold Page.fetchVehicles
  split <;> rfl

theorem meant_fetchVehicles (token : Option String) (companyID : Option Int) :
    meant (p.fetchVehicles token companyID).calls = meant p.calls := by
  unfold Page.fetchVehicles
  split <;> exact meant_append_of_none rfl

/-- A response comes for a call that waits for one. -/
theorem step_response {i : Nat} {response : Response}
    (h : p.step (.response i response) = some p') : ∃ request,
      p.calls[i]? = some (.pending request) ∧ p' = p.receive i request response := by
  simp only [Page.step] at h
  split at h
  · rename_i request hcall
    exact ⟨request, hcall, (Option.some.inj h).symm⟩
  · simp at h

/-- What a response does. -/
theorem current_receive_iff {i : Nat} {request : Request} {response : Response}
    (hcurrent : p.Current) (hcall : p.calls[i]? = some (.pending request)) :
    (p.receive i request response).Current ↔ InTime p (.response i response) := by
  unfold Page.Current at hcurrent ⊢
  unfold Page.receive
  cases hpayload : response.payload with
  | error message =>
      refine iff_of_true ?_ ?_
      · show p.store.held = meant (p.calls.set i .failed)
        rw [meant_set_failed hcall, hcurrent]
      · intro request' data total _ hok
        simp [hpayload] at hok
  | ok payload =>
      obtain ⟨data, total⟩ := payload
      show heldOf request data = meant (p.calls.set i (.answered (heldOf request data))) ↔ _
      rw [meant_set_answered (List.getElem?_eq_some_iff.mp hcall).1]
      constructor
      · intro hmeant request' data' total' hcall' hok later hlater
        obtain rfl : request = request' := by simpa [hcall] using hcall'
        obtain ⟨rfl, rfl⟩ : data = data' ∧ total = total' := by simpa [hpayload] using hok
        rw [hlater] at hmeant
        exact hmeant.symm
      · intro htime
        cases hlater : lastEffect (p.calls.drop (i + 1)) with
        | none => rfl
        | some later => exact (htime request data total hcall hpayload later hlater).symm

theorem current_step_iff {loc : Location} {auth : AuthState} {e : Event} (hcurrent : p.Current)
    (hstep : (polling loc auth).step p e = some p') : p'.Current ↔ InTime p e := by
  cases e with
  | setAuth token user =>
      obtain rfl := Option.some.inj hstep
      exact iff_of_true hcurrent trivial
  | logout =>
      obtain rfl := Option.some.inj hstep
      exact iff_of_true hcurrent trivial
  | message data => exact absurd hstep (by simp [polling])
  | clearVehicles =>
      obtain rfl := Option.some.inj hstep
      exact iff_of_true meant_append_cleared.symm trivial
  | fetchVehicles token companyID =>
      obtain rfl := Option.some.inj hstep
      refine iff_of_true ?_ trivial
      rw [Page.Current, held_fetchVehicles, meant_fetchVehicles]
      exact hcurrent
  | response i response =>
      obtain ⟨request, hcall, rfl⟩ := step_response hstep
      exact current_receive_iff hcurrent hcall

/-- **Along a run the store holds what it should exactly if every response is in time.** -/
theorem current_iff_inTime (loc : Location) (auth : AuthState) (events : List Event) :
    (polling loc auth).AllStates Page.Current (Page.opened loc auth) events ↔
      (polling loc auth).AllSteps InTime (Page.opened loc auth) events :=
  allStates_iff_allSteps (I := fun _ => True) (fun _ _ _ _ _ => trivial)
    (fun _ _ _ _ hcurrent hstep => current_step_iff hcurrent hstep) events _ trivial rfl

/-! ### The timestamps -/

/-- A page, and what the server had to answer it with. -/
structure Tracking where
  page : Page
  /-- The rows of the vehicles with their latest positions, the present ones last. -/
  served : List (List Members)
  /-- For each call the number of the rows that the server had when it was made. -/
  since : List Nat

inductive Happening where
  /-- Positions come in, and the server has new rows. -/
  | serve (rows : List Members)
  | page (e : Event)

/-- A response with rows brings some that the server had since the request. -/
def Tracking.serves (t : Tracking) : Event → Bool
  | .response i response =>
    match response.payload with
    | .ok (data, _) => data ∈ t.served.drop (t.since[i]?.getD 0)
    | .error _ => true
  | _ => true

def Tracking.step (t : Tracking) : Happening → Option Tracking
  | .serve rows => some { t with served := t.served ++ [rows] }
  | .page e =>
    if t.serves e then
      (t.page.step e).map fun page =>
        { t with
          page := page
          since := t.since ++
            List.replicate (page.calls.length - t.since.length) (t.served.length - 1) }
    else none

def tracking (loc : Location) (auth : AuthState) (rows : List Members) :
    Machine Tracking Happening :=
  ⟨⟨Page.opened loc auth, [rows], []⟩, Tracking.step⟩

/-- A reading of timestamps. -/
abbrev Clock : Type := Option Scalar → Option Int

/-- The time that is shown for a device. -/
def VehicleState.shown (clock : Clock) (state : VehicleState) (device : Device) : Option Int :=
  (state.vehicles.lookup device).bind fun pos => clock pos.timestamp

def Tracking.shown (clock : Clock) (t : Tracking) : Device → Option Int := t.page.store.shown clock

/-- The time that a message or the rows of a response have for a device. -/
def Happening.delivers (clock : Clock) : Happening → Device → Option Int
  | .page (.message data), device => (onmessage data).bind fun pos =>
      if pos.deviceID = device then clock pos.timestamp else none
  | .page (.response _ response), device =>
    match response.payload with
    | .ok (data, _) => ((mapOf data).lookup device).bind fun pos => clock pos.timestamp
    | .error _ => none
  | _, _ => none

variable {clock : Clock} {device : Device}

theorem shown_updatePosition (state : VehicleState) (pos : VehiclePosition) :
    (state.updatePosition pos).shown clock device =
      if pos.deviceID = device then clock pos.timestamp else state.shown clock device := by
  unfold VehicleState.shown VehicleState.updatePosition
  by_cases h : pos.deviceID = device
  · subst h
    simp
  · rw [if_neg h, Finmap.lookup_insert_of_ne _ (Ne.symm h)]

/-- A step of the page shows what it delivers; if that is nothing, it may leave what was shown. -/
theorem shown_step {e : Event} (h : p.step e = some p') :
    p'.store.shown clock device = (Happening.page e).delivers clock device ∨
      (Happening.page e).delivers clock device = none ∧
        p'.store.shown clock device = p.store.shown clock device := by
  cases e with
  | setAuth token user =>
      obtain rfl := Option.some.inj h
      exact .inr ⟨rfl, rfl⟩
  | logout =>
      obtain rfl := Option.some.inj h
      exact .inr ⟨rfl, rfl⟩
  | message data =>
      simp only [Page.step] at h
      cases hpos : onmessage data with
      | none =>
          rw [hpos] at h
          obtain rfl := Option.some.inj h
          exact .inr ⟨by simp [Happening.delivers, hpos], rfl⟩
      | some pos =>
          rw [hpos] at h
          obtain rfl := Option.some.inj h
          show (p.store.updatePosition pos).shown clock device = _ ∨ _ ∧
            (p.store.updatePosition pos).shown clock device = _
          rw [shown_updatePosition]
          by_cases hdevice : pos.deviceID = device
          · exact .inl (by simp [Happening.delivers, hpos, hdevice])
          · exact .inr ⟨by simp [Happening.delivers, hpos, hdevice], if_neg hdevice⟩
  | clearVehicles =>
      obtain rfl := Option.some.inj h
      exact .inl rfl
  | fetchVehicles token companyID =>
      obtain rfl := Option.some.inj h
      refine .inr ⟨rfl, ?_⟩
      unfold VehicleState.shown
      rw [show (p.fetchVehicles token companyID).store.vehicles = p.store.vehicles from
        congrArg Held.vehicles (held_fetchVehicles token companyID)]
  | response i response =>
      obtain ⟨request, -, rfl⟩ := step_response h
      unfold Page.receive
      cases hpayload : response.payload with
      | error message => exact .inr ⟨by simp [Happening.delivers, hpayload], rfl⟩
      | ok payload =>
          exact .inl (by simp [Happening.delivers, hpayload, VehicleState.shown, heldOf])

/-- The page displays what messages and responses deliver. -/
theorem tracking_displays (loc : Location) (auth : AuthState) (rows : List Members) :
    (tracking loc auth rows).Displays (Tracking.shown clock) (Happening.delivers clock) := by
  have hstep : ∀ {t t' : Tracking} {e : Event}, t.step (.page e) = some t' →
      t.page.step e = some t'.page := by
    intro t t' e h
    simp only [Tracking.step] at h
    split at h
    · obtain ⟨page, hpage, rfl⟩ := Option.map_eq_some_iff.mp h
      exact hpage
    · simp at h
  refine ⟨fun _ => rfl, ?_, ?_⟩
  · intro t a t' device time h hdelivers
    cases a with
    | serve rows => simp [Happening.delivers] at hdelivers
    | page e =>
        rcases shown_step (hstep h) with hshown | ⟨hnone, -⟩
        · exact hshown.trans hdelivers
        · simp [hnone] at hdelivers
  · intro t a t' device time h hshown
    cases a with
    | serve rows =>
        obtain rfl := Option.some.inj h
        exact .inr hshown
    | page e =>
        rcases shown_step (hstep h) with hdelivered | ⟨-, hsame⟩
        · exact .inl (hdelivered.symm.trans hshown)
        · exact .inr (hsame.symm.trans hshown)

/-- **What is shown of the devices goes forward in a run exactly if, for each of them, the timestamps
of the messages and the responses come in order.** -/
theorem forward_iff_inOrder (clock : Clock) (loc : Location) (auth : AuthState)
    (rows : List Members) (happenings : List Happening) {t : Tracking}
    (hrun : (tracking loc auth rows).run (tracking loc auth rows).init happenings = some t) :
    (tracking loc auth rows).Forward (Tracking.shown clock) happenings ↔
      DeliveredInOrder (Happening.delivers clock) happenings :=
  (tracking_displays loc auth rows).forward_iff hrun

def here : Location := ⟨"https:", "fleet.example", "", "fleet.example"⟩

def signedIn : AuthState := ⟨some "t", some ⟨1⟩, true, some "t"⟩

/-- The rows of one vehicle. -/
def rowsAt (plate time : String) : List Members :=
  [[("device_id", .number 7), ("reg_number", .text plate), ("timestamp", .text time)]]

def answer (data : List Members) : Response := .reply 200 "OK" (.ok ⟨true, some data, none, none⟩)

/-- A user looks at company 1 and changes to company 2, whose fleet comes first. -/
def companySwitch : List Event :=
  [.fetchVehicles none (some 1), .fetchVehicles none (some 2),
    .response 1 (answer (rowsAt "GJ-02" "12:00")), .response 0 (answer (rowsAt "GJ-01" "12:00"))]

/-- In the end the page holds the fleet of company 1. -/
theorem not_current_companySwitch :
    ¬(polling here signedIn).AllStates Page.Current (Page.opened here signedIn) companySwitch := by
  intro hall
  have hlast := (((hall.2 _ rfl).2 _ rfl).2 _ rfl).2 _ rfl
  have hcompany := congrArg Held.companyID hlast
  have hheld : some (1 : Int) = some 2 := hcompany
  simp at hheld

/-- A time of day as a number. -/
def noonClock : Clock
  | some (.text "12:00") => some 0
  | some (.text "12:01") => some 1
  | _ => none

/-- A position of the vehicle, pushed. -/
def push (time : String) : Happening :=
  .page (.message (some ⟨[("type", .text "position")], some [("device_id", .number 7),
    ("lat", .number 23), ("lng", .number 72), ("timestamp", .text time)]⟩))

/-- The vehicles are asked for, and the answer comes before the next position. -/
def promptAnswer : List Happening :=
  [.page (.fetchVehicles none (some 1)), .page (.response 0 (answer (rowsAt "GJ-01" "12:00"))),
    .serve (rowsAt "GJ-01" "12:01"), push "12:01"]

theorem forward_iff_inOrder_prompt :
    (tracking here signedIn (rowsAt "GJ-01" "12:00")).Forward (Tracking.shown noonClock)
      promptAnswer := by
  refine (forward_iff_inOrder noonClock here signedIn (rowsAt "GJ-01" "12:00") promptAnswer
    rfl).2 ?_
  have hrow : ∀ device, (Happening.page (.response 0 (answer (rowsAt "GJ-01" "12:00")))).delivers
      noonClock device = if device = some (.number 7) then some 0 else none := by
    intro device
    show ((mapOf (rowsAt "GJ-01" "12:00")).lookup device).bind _ = _
    by_cases h : device = some (.number 7)
    · subst h
      rfl
    · rw [if_neg h]
      show ((Finmap.insert (some (Scalar.number 7)) _ ∅).lookup device).bind _ = _
      rw [Finmap.lookup_insert_of_ne _ h]
      simp
  have hpush : ∀ device, (push "12:01").delivers noonClock device =
      if some (.number 7) = device then some 1 else none := fun device => rfl
  have hfetch : ∀ device, (Happening.page (.fetchVehicles none (some 1))).delivers noonClock device =
      none := fun device => rfl
  have hserve : ∀ device, (Happening.serve (rowsAt "GJ-01" "12:01")).delivers noonClock device =
      none := fun device => rfl
  simp only [DeliveredInOrder, promptAnswer, List.pairwise_cons, List.mem_cons]
  simp [hrow, hpush, hfetch, hserve]
  omega

/-- The same with a late answer: it has the rows of the time when it was asked for. -/
def lateAnswer : List Happening :=
  [.page (.fetchVehicles none (some 1)), .serve (rowsAt "GJ-01" "12:01"), push "12:01",
    .page (.response 0 (answer (rowsAt "GJ-01" "12:00")))]

theorem not_forward_late :
    ¬(tracking here signedIn (rowsAt "GJ-01" "12:00")).Forward (Tracking.shown noonClock)
      lateAnswer := by
  intro hforward
  have hback := hforward (lateAnswer.take 3) (lateAnswer.drop 3) [] rfl _ _ rfl rfl
    (some (.number 7)) 1 0 rfl rfl
  omega

end RudraNetra.Web
