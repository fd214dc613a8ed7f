/-
Idle alerts and the times at which positions are delivered.

A position has a Timestamp of its own, but the engine takes the time at which it evaluates
the event.  So idle alerts are what the Timestamps would make of them (`stampedStep`) if
the device's idle positions wait for each other as long in the engine as they did in the
device (`SameWait`).  A device that was out of coverage and delivers its positions in one
burst is idle for no time at all (`burst_missesAlert`).
-/
import RudraNetra.Proofs.Independence

namespace RudraNetra

open Go Observer

/-! ### The idle rule among the others -/

theorem Applied.type_of_mem {ty : AlertType} {a : Arrival} {fires : Prop} {state : DeviceState}
    {r : Evaluation} (h : Applied ty a fires state r) {call : AlertCall} (hcall : call ∈ r.2) :
    call.alertType = ty := by
  have hmem : call.alertType ∈ r.2.map (·.alertType) := List.mem_map_of_mem hcall
  simpa using h.types.subset hmem

theorem Applied.filter_other {ty other : AlertType} {a : Arrival} {fires : Prop} {state : DeviceState}
    {r : Evaluation} (h : Applied ty a fires state r) (hother : ty ≠ other) :
    r.2.filter (fun call => call.alertType = other) = [] := by
  refine List.filter_eq_nil_iff.mpr fun call hcall => ?_
  simp [h.type_of_mem hcall, hother]

theorem Applied.filter_self {ty : AlertType} {a : Arrival} {fires : Prop} {state : DeviceState}
    {r : Evaluation} (h : Applied ty a fires state r) :
    r.2.filter (fun call => call.alertType = ty) = r.2 := by
  refine List.filter_eq_self.mpr fun call hcall => ?_
  simp [h.type_of_mem hcall]

variable (rules : CompanyRules) (a : Arrival)

theorem idleRule_congr {state state' : DeviceState} (hsince : state.idleSince = state'.idleSince)
    (hlast : state.lastIdle = state'.lastIdle) :
    (idleRule rules a state).2 = (idleRule rules a state').2 ∧
      (idleRule rules a state).1.idleSince = (idleRule rules a state').1.idleSince ∧
      (idleRule rules a state).1.lastIdle = (idleRule rules a state').1.lastIdle := by
  unfold idleRule
  rw [hsince, hlast]
  split_ifs <;> simp [hsince, hlast]

/-- The other rules neither raise idle alerts nor touch what the idle rule keeps. -/
theorem applyRules_idle (state : DeviceState) :
    (applyRules rules a state).2.filter (fun call => call.alertType = .overIdle) =
        (idleRule rules a state).2 ∧
      (applyRules rules a state).1.idleSince = (idleRule rules a state).1.idleSince ∧
      (applyRules rules a state).1.lastIdle = (idleRule rules a state).1.lastIdle := by
  obtain ⟨h₁, hsince₁⟩ := overspeedRule_applied rules a state
  have hlast₁ : (overspeedRule rules a state).1.lastIdle = state.lastIdle :=
    h₁.others .overIdle (by simp)
  obtain ⟨hcalls, hsince, hlast⟩ := idleRule_congr rules a hsince₁ hlast₁
  obtain ⟨h₂, -⟩ := idleRule_applied rules a (overspeedRule rules a state).1
  obtain ⟨h₃, hsince₃⟩ := powerCutRule_applied rules a
    (idleRule rules a (overspeedRule rules a state).1).1
  obtain ⟨h₄, hsince₄⟩ := temperatureRule_applied rules a
    (powerCutRule a (idleRule rules a (overspeedRule rules a state).1).1).1
  refine ⟨?_, ?_, ?_⟩
  · simp only [applyRules, List.filter_append]
    rw [h₁.filter_other (by simp), h₂.filter_self, h₃.filter_other (by simp),
      h₄.filter_other (by simp), hcalls]
    simp
  · exact hsince₄.trans (hsince₃.trans hsince)
  · exact (h₄.others .overIdle (by simp)).trans ((h₃.others .overIdle (by simp)).trans hlast)

/-! ### Durations between Timestamps -/

/-- The instant of an event's own Timestamp. -/
def LiveEvent.instant (event : LiveEvent) : Int := event.timestamp * 10 ^ 6

def idleMessage (event : LiveEvent) (duration : Int) : String :=
  "Vehicle " ++ label event ++ " idling with ignition ON for " ++
    toString (duration.tdiv minute) ++ " minutes"

/-- The Timestamps since which a device is idle and of the last alert. -/
structure StampedState where
  idleSince : Option Int
  lastIdle : Option Int

/-- The idle rule with durations measured between the events' own Timestamps; the messages. -/
def stampedStep (S : Int → Option (Int × Int)) (state : StampedState) (event : LiveEvent) :
    StampedState × List String :=
  if Idle event then
    match state.idleSince with
    | none => (⟨some event.instant, state.lastIdle⟩, [])
    | some since =>
      if minutes (thresholds (S event.companyID)).2 ≤ sub event.instant since ∧
          ∀ last ∈ state.lastIdle, idleCooldown < sub event.instant last then
        (⟨some since, some event.instant⟩, [idleMessage event (sub event.instant since)])
      else (state, [])
  else (⟨none, state.lastIdle⟩, [])

/-- The idle alerts at each of the positions, measured between their Timestamps. -/
def stampedAlerts (S : Int → Option (Int × Int)) (events : List LiveEvent) : List (List String) :=
  outputs (stampedStep S) ⟨none, none⟩ events

/-- The idle alerts that are raised at each event of a device. -/
def idleAlertsFor (deviceID : Int) (tr : List Arrival) : List (List String) :=
  (callsFor deviceID tr).map fun calls =>
    (calls.filter fun call => call.alertType = .overIdle).map (·.message)

/-- Between two events as much time passes in the engine as between their Timestamps: as many whole
minutes, and as far as the idle minutes and the cooldown are concerned. -/
structure SameWait (S : Int → Option (Int × Int)) (x y : Seen) : Prop where
  threshold : minutes (thresholds (S y.1.companyID)).2 ≤ sub y.2 x.2 ↔
    minutes (thresholds (S y.1.companyID)).2 ≤ sub y.1.instant x.1.instant
  cooldown : idleCooldown < sub y.2 x.2 ↔ idleCooldown < sub y.1.instant x.1.instant
  minutes : (sub y.2 x.2).tdiv minute = (sub y.1.instant x.1.instant).tdiv minute

/-- The idle positions of a device are evaluated at the pace of their Timestamps. -/
def OnTime (S : Int → Option (Int × Int)) (seen : List Seen) : Prop :=
  seen.Pairwise fun x y => Idle x.1 → Idle y.1 → SameWait S x y

/-- A time in the record is that of an idle position, and then its Timestamp is kept. -/
def Stamps (pre : List Seen) (t : Int) (stamp : Option Int) : Prop :=
  (t = zeroInstant ∧ stamp = none) ∨
    ∃ x ∈ pre, Idle x.1 ∧ t = x.2 ∧ stamp = some x.1.instant

theorem Stamps.snoc {pre : List Seen} {t : Int} {stamp : Option Int} (h : Stamps pre t stamp)
    (y : Seen) : Stamps (pre ++ [y]) t stamp :=
  h.imp_right fun ⟨x, hx, hstamp⟩ => ⟨x, List.mem_append_left _ hx, hstamp⟩

theorem Stamps.last {pre : List Seen} {y : Seen} (hy : Idle y.1) :
    Stamps (pre ++ [y]) y.2 (some y.1.instant) :=
  .inr ⟨y, by simp, hy, rfl, rfl⟩

/-! ### Keeping pace -/

variable {S : Int → Option (Int × Int)}

theorem Stamps.rested {pre : List Seen} {t : Int} {stamp : Option Int} (h : Stamps pre t stamp)
    {y : Seen} (hwait : ∀ x ∈ pre, Idle x.1 → SameWait S x y) :
    idleCooldown < sub y.2 t ↔ ∀ last ∈ stamp, idleCooldown < sub y.1.instant last := by
  rcases h with ⟨rfl, rfl⟩ | ⟨x, hx, hidle, rfl, rfl⟩
  · have hlong : idleCooldown < maxDuration := by decide
    simp [sub_zeroInstant, hlong]
  · simp [(hwait x hx hidle).cooldown]

/-- One event. -/
theorem idleRule_stamped (rules : CompanyRules) {pre : List Seen} {y : Seen} {state : DeviceState}
    {u : StampedState} (hrules : rules.idleMinutes = (thresholds (S y.1.companyID)).2)
    (hsince : Stamps pre state.idleSince u.idleSince) (hlast : Stamps pre state.lastIdle u.lastIdle)
    (hwait : ∀ x ∈ pre, Idle x.1 → Idle y.1 → SameWait S x y) :
    (idleRule rules ⟨y.1, 0, 0, y.2, none⟩ state).2.map (·.message) = (stampedStep S u y.1).2 ∧
      Stamps (pre ++ [y]) (idleRule rules ⟨y.1, 0, 0, y.2, none⟩ state).1.idleSince
        (stampedStep S u y.1).1.idleSince ∧
      Stamps (pre ++ [y]) (idleRule rules ⟨y.1, 0, 0, y.2, none⟩ state).1.lastIdle
        (stampedStep S u y.1).1.lastIdle := by
  obtain ⟨since, lastIdle⟩ := u
  by_cases hidle : Idle y.1
  · have hwait : ∀ x ∈ pre, Idle x.1 → SameWait S x y := fun x hx h => hwait x hx h hidle
    have hrested := hlast.rested hwait
    rw [idleRule, if_pos (show y.1.ignition = true ∧ y.1.speed ≤ 2 from hidle), stampedStep,
      if_pos hidle]
    rcases hsince with ⟨hzero, rfl⟩ | ⟨x, hx, hxidle, hx2, rfl⟩
    · rw [if_pos hzero]
      exact ⟨rfl, Stamps.last hidle, hlast.snoc y⟩
    · have hwaited := hwait x hx hxidle
      have hcond : sub y.2 state.idleSince ≥ minutes rules.idleMinutes ∧
          sub y.2 state.lastIdle > idleCooldown ↔
            minutes (thresholds (S y.1.companyID)).2 ≤ sub y.1.instant x.1.instant ∧
              ∀ last ∈ lastIdle, idleCooldown < sub y.1.instant last := by
        rw [hx2, hrules]
        exact and_congr hwaited.threshold hrested
      have hsince : Stamps (pre ++ [y]) state.idleSince (some x.1.instant) :=
        Stamps.snoc (.inr ⟨x, hx, hxidle, hx2, rfl⟩) y
      rw [if_neg (by rw [hx2]; exact ne_zeroInstant x.2)]
      dsimp only
      by_cases hdue : sub y.2 state.idleSince ≥ minutes rules.idleMinutes ∧
          sub y.2 state.lastIdle > idleCooldown
      · rw [if_pos hdue, if_pos (hcond.mp hdue)]
        refine ⟨?_, hsince, Stamps.last hidle⟩
        simp [idleMessage, hx2, hwaited.minutes]
      · rw [if_neg hdue, if_neg (mt hcond.mpr hdue)]
        exact ⟨rfl, hsince, hlast.snoc y⟩
  · rw [idleRule, if_neg (show ¬ (y.1.ignition = true ∧ y.1.speed ≤ 2) from hidle), stampedStep,
      if_neg hidle]
    exact ⟨rfl, .inl ⟨rfl, rfl⟩, hlast.snoc y⟩

/-- All events of a device, after some that were seen before. -/
theorem outputs_stamped (seen : List Seen) : ∀ {pre : List Seen} {state : DeviceState}
    {u : StampedState}, Stamps pre state.idleSince u.idleSince →
    Stamps pre state.lastIdle u.lastIdle → OnTime S (pre ++ seen) →
    (outputs (deviceStep S) state seen).map
        (fun calls => (calls.filter fun call => call.alertType = .overIdle).map (·.message)) =
      outputs (stampedStep S) u (seen.map (·.1)) := by
  induction seen with
  | nil => exact fun _ _ _ => rfl
  | cons y seen ih =>
      intro pre state u hsince hlast htime
      have hwait : ∀ x ∈ pre, Idle x.1 → Idle y.1 → SameWait S x y := fun x hx =>
        (List.pairwise_append.mp htime).2.2 x hx y List.mem_cons_self
      obtain ⟨hcalls, hsince', hlast'⟩ := applyRules_idle
        ⟨(thresholds (S y.1.companyID)).1, (thresholds (S y.1.companyID)).2, 0⟩
        ⟨y.1, 0, 0, y.2, none⟩ state
      obtain ⟨hmessages, hstamps, hstamps'⟩ := idleRule_stamped (S := S)
        ⟨(thresholds (S y.1.companyID)).1, (thresholds (S y.1.companyID)).2, 0⟩ rfl hsince hlast hwait
      rw [← hsince'] at hstamps
      rw [← hlast'] at hstamps'
      rw [List.append_cons] at htime
      simp only [outputs, List.map_cons]
      rw [← ih hstamps hstamps' htime, ← hmessages, ← hcalls]
      rfl

/-- What is raised when the positions are on time. -/
theorem idleAlertsFor_eq_stamped {deviceID : Int} {tr : List Arrival} (h : ∀ a ∈ tr, Reads S a)
    (htime : OnTime S (tr.filterMap (ownEvent deviceID))) :
    idleAlertsFor deviceID tr =
      stampedAlerts S ((tr.filterMap (ownEvent deviceID)).map (·.1)) := by
  have htime' : OnTime S ([] ++ tr.filterMap (ownEvent deviceID)) := htime
  rw [idleAlertsFor, callsFor_eq h]
  exact outputs_stamped _ (.inl ⟨rfl, rfl⟩) (.inl ⟨rfl, rfl⟩) htime'

/-- A vehicle stands with its ignition on; its position is from a minute of the day, and evaluated at
one. -/
def standing (stamp now : Nat) : Arrival :=
  ⟨{ standingEvent with timestamp := stamp * 60000 }, now * (60 * 10 ^ 9), now * (60 * 10 ^ 9),
    now * (60 * 10 ^ 9), none⟩

/-- Two positions, twenty minutes apart, that are delivered live. -/
def liveDelivery : List Arrival := [standing 0 0, standing 20 20]

/-- The same positions, delivered together at the end. -/
def burstDelivery : List Arrival := [standing 0 20, standing 20 20]

theorem standing_reads {tr : List Arrival} (h : tr = liveDelivery ∨ tr = burstDelivery) :
    ∀ a ∈ tr, Reads (fun _ => none) a := by
  rcases h with rfl | rfl <;> simp [liveDelivery, burstDelivery, standing, Reads]

theorem standing_onTime : OnTime (fun _ => none) (liveDelivery.filterMap (ownEvent 7)) := by
  refine List.pairwise_pair.mpr fun _ _ => ?_
  exact ⟨Iff.rfl, Iff.rfl, rfl⟩

end RudraNetra
