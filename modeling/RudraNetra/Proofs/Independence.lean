/-
Which events have a part in the alerts of a device.

The engine is one for all devices and companies: it keeps the records of all devices in
one map and the rules of all companies in another.  While the settings stay as they are,
what it does for one device is all the same done by an engine that sees the events of that
device only (`deviceStep`), however the events of the others come between.
-/
import RudraNetra.Lib.Observer
import RudraNetra.Proofs.Idling

namespace RudraNetra

open Go Observer

/-! ### Thresholds -/

/-- The thresholds that settings stand for. -/
def thresholds : Option (Int × Int) → Int × Int
  | none => (defaultSpeedLimit, defaultIdleMinutes)
  | some (speed, idle) =>
    (if speed > 0 then speed else defaultSpeedLimit, if idle > 0 then idle else defaultIdleMinutes)

def CompanyRules.thresholds (rules : CompanyRules) : Int × Int := (rules.speedLimit, rules.idleMinutes)

theorem Arrival.loadRules_thresholds (a : Arrival) :
    a.loadRules.thresholds = RudraNetra.thresholds a.settings := by
  unfold Arrival.loadRules
  rcases a.settings with _ | ⟨speed, idle⟩
  · rfl
  · rfl

/-- The rules that are kept are those of the settings `S`. -/
def RulesOf (S : Int → Option (Int × Int)) (e : Engine) : Prop :=
  ∀ companyID rules, e.companies.lookup companyID = some rules →
    rules.thresholds = thresholds (S companyID)

/-- The settings are read, and are `S`. -/
def Reads (S : Int → Option (Int × Int)) (a : Arrival) : Prop := a.settings = S a.event.companyID

variable {S : Int → Option (Int × Int)} {e : Engine} {a : Arrival}

theorem RulesOf.rules (h : RulesOf S e) (ha : Reads S a) :
    (e.rules a).thresholds = thresholds (S a.event.companyID) := by
  have hload : a.loadRules.thresholds = thresholds (S a.event.companyID) := by
    rw [a.loadRules_thresholds, ha]
  cases hkept : e.companies.lookup a.event.companyID with
  | none => simpa only [Engine.rules, hkept] using hload
  | some rules =>
      rw [Engine.rules_of_kept hkept]
      split_ifs
      · exact h _ rules hkept
      · exact hload

theorem RulesOf.evaluate (h : RulesOf S e) (ha : Reads S a) : RulesOf S (e.evaluate a).1 := by
  intro companyID rules hlookup
  by_cases hcompany : companyID = a.event.companyID
  · subst hcompany
    have hself : (e.evaluate a).1.companies.lookup a.event.companyID = some (e.rules a) :=
      Finmap.lookup_insert _
    obtain rfl := Option.some.inj (hself.symm.trans hlookup)
    exact h.rules ha
  · have hother : (e.evaluate a).1.companies.lookup companyID = e.companies.lookup companyID :=
      Finmap.lookup_insert_of_ne _ hcompany
    exact h companyID rules (hother.symm.trans hlookup)

/-! ### One device -/

/-- What an evaluation reads of an arrival: the event, and when it is evaluated. -/
abbrev Seen : Type := LiveEvent × Nat

/-- The view of a device: its own events. -/
def ownEvent (deviceID : Int) (a : Arrival) : Option Seen :=
  if a.event.deviceID = deviceID then some (a.event, a.now) else none

/-- The rules for one device, whose company has settings `S`. -/
def deviceStep (S : Int → Option (Int × Int)) (state : DeviceState) (seen : Seen) :
    DeviceState × List AlertCall :=
  let (speed, idle) := thresholds (S seen.1.companyID)
  applyRules ⟨speed, idle, 0⟩ ⟨seen.1, 0, 0, seen.2, none⟩ state

/-- Of the rules it takes the thresholds, and of the arrival the event and the time. -/
theorem applyRules_congr {rules rules' : CompanyRules} {a a' : Arrival} (state : DeviceState)
    (hrules : rules.thresholds = rules'.thresholds) (hevent : a.event = a'.event)
    (hnow : a.now = a'.now) : applyRules rules a state = applyRules rules' a' state := by
  obtain ⟨speed, idle, _⟩ := rules
  obtain ⟨event, _, _, now, _⟩ := a
  obtain ⟨hspeed, hidle⟩ := Prod.mk.inj hrules
  subst hspeed hidle hevent hnow
  rfl

/-- **One device keeps up with the engine.** -/
theorem deviceStep_follows (S : Int → Option (Int × Int)) (deviceID : Int) :
    Follows Engine.evaluate (ownEvent deviceID) (deviceStep S) (Reads S)
      fun e state => RulesOf S e ∧ e.deviceState deviceID = state where
  unseen := by
    rintro e state a ⟨hrules, rfl⟩ ha hview
    have hother : a.event.deviceID ≠ deviceID := by
      intro hown
      simp [ownEvent, hown] at hview
    refine ⟨hrules.evaluate ha, ?_⟩
    simp only [Engine.deviceState, Engine.evaluate]
    rw [Finmap.lookup_insert_of_ne _ hother.symm]
  seen := by
    rintro e state a seen ⟨hrules, rfl⟩ ha hview
    have hown : a.event.deviceID = deviceID := by
      by_contra hother
      simp [ownEvent, hother] at hview
    subst hown
    obtain rfl : (a.event, a.now) = seen := by simpa [ownEvent] using hview
    have happly : applyRules (e.rules a) a (e.deviceState a.event.deviceID) =
        deviceStep S (e.deviceState a.event.deviceID) (a.event, a.now) :=
      applyRules_congr _ (hrules.rules ha) rfl rfl
    refine ⟨⟨hrules.evaluate ha, ?_⟩, ?_⟩
    · rw [← happly]
      simp [Engine.deviceState, Engine.evaluate, Finmap.lookup_insert]
    · rw [← happly]
      rfl

/-! ### The calls for a device -/

/-- The calls of `raise` at each event of a device, along the arrivals from a new engine. -/
def callsFor (deviceID : Int) (tr : List Arrival) : List (List AlertCall) :=
  observed Engine.evaluate (ownEvent deviceID) Engine.new tr

theorem rulesOf_new (S : Int → Option (Int × Int)) : RulesOf S Engine.new := by
  intro companyID rules h
  cases h

/-- What is raised for a device is a matter of its own events. -/
theorem callsFor_eq {tr : List Arrival} (h : ∀ a ∈ tr, Reads S a) (deviceID : Int) :
    callsFor deviceID tr =
      outputs (deviceStep S) DeviceState.zero (tr.filterMap (ownEvent deviceID)) :=
  (deviceStep_follows S deviceID).observed_eq ⟨rulesOf_new S, rfl⟩ h

/-- The loop makes these calls, among those for other devices. -/
theorem run_calls_filter (deviceID : Int) (msgs : List Message) : ∀ e : Engine,
    (e.run msgs).2.filter (fun call => call.event.deviceID = deviceID) =
      (observed Engine.evaluate (ownEvent deviceID) e (msgs.filterMap Message.arrival)).flatten := by
  induction msgs with
  | nil => exact fun _ => rfl
  | cons msg msgs ih =>
      intro e
      rw [Engine.run]
      cases harrival : msg.arrival with
      | none =>
          rw [List.filterMap_cons_none harrival]
          exact ih e
      | some a =>
          have hevent := (applyRules_calls (e.rules a) a (e.deviceState a.event.deviceID)).2
          rw [List.filterMap_cons_some harrival, observed]
          simp only [List.filter_append, ih, ownEvent]
          by_cases hown : a.event.deviceID = deviceID
          · have hall : ∀ call ∈ (e.evaluate a).2, decide (call.event.deviceID = deviceID) = true :=
              fun call hcall => by simp [hevent call hcall, hown]
            rw [List.filter_eq_self.mpr hall]
            simp [hown]
          · have hnone : ∀ call ∈ (e.evaluate a).2, ¬ decide (call.event.deviceID = deviceID) = true :=
              fun call hcall => by simp [hevent call hcall, hown]
            rw [List.filter_eq_nil_iff.mpr hnone]
            simp [hown]

/-- The calls of `raise` for a device, each with its type, its time and its message. -/
def raisesFor (deviceID : Int) (tr : List Arrival) : List (AlertType × Nat × String) :=
  ((tr.filterMap (ownEvent deviceID)).zip (callsFor deviceID tr)).flatMap fun entry =>
    entry.2.map fun call => (call.alertType, entry.1.2, call.message)

/-- **Devices are independent.**  While the settings stay as they are, two streams with the same events
of a device, evaluated at the same times, raise the same alerts for it, whatever the events of other
devices and companies are. -/
theorem raisesFor_congr (S : Int → Option (Int × Int)) (deviceID : Int) (tr₁ tr₂ : List Arrival)
    (h₁ : ∀ a ∈ tr₁, Reads S a) (h₂ : ∀ a ∈ tr₂, Reads S a)
    (hsame : tr₁.filterMap (ownEvent deviceID) = tr₂.filterMap (ownEvent deviceID)) :
    raisesFor deviceID tr₁ = raisesFor deviceID tr₂ := by
  have hcalls : callsFor deviceID tr₁ = callsFor deviceID tr₂ :=
    (deviceStep_follows S deviceID).observed_congr ⟨rulesOf_new S, rfl⟩ h₁ h₂ hsame
  rw [raisesFor, raisesFor, hcalls, hsame]

/-- Another vehicle of the same company comes between. -/
theorem raisesFor_congr_driving :
    raisesFor 7 [drivingAt 100 0] =
      raisesFor 7 [⟨{ drivingEvent 120 with deviceID := 8 }, 0, 0, 0, none⟩, drivingAt 100 0] :=
  raisesFor_congr (fun _ => none) 7 _ _ (by simp [Reads, drivingAt]) (by simp [Reads, drivingAt])
    (by simp [ownEvent, drivingAt, drivingEvent])

end RudraNetra
