/-
What the alert engine raises over a history of events.

For each type of alert the device's record holds the time of the last call, so that for
each device and type the engine is a limiter (`alertLimiter`); what is particular to a type
is when it is due.  For three types that is a matter of the event and the company's rules
alone; for idling it is a streak, which `Proofs/Idling.lean` looks at.
-/
import RudraNetra.Alerts.Engine
import RudraNetra.Lib.History

namespace RudraNetra

open Go History

/-! ### One event -/

def AlertType.cooldown : AlertType → Int
  | .overspeed => overspeedCooldown
  | .overIdle => idleCooldown
  | .powerCut => powerCutCooldown
  | .temperature => temperatureCooldown

/-- When an alert of the type was last raised. -/
def AlertType.last : AlertType → DeviceState → Int
  | .overspeed, state => state.lastOverspeed
  | .overIdle, state => state.lastIdle
  | .powerCut, state => state.lastPowerCut
  | .temperature, state => state.lastTemperature

/-- Ignition on, and stationary. -/
def Idle (event : LiveEvent) : Prop := event.ignition = true ∧ event.speed ≤ 2

instance (event : LiveEvent) : Decidable (Idle event) :=
  inferInstanceAs (Decidable (event.ignition = true ∧ event.speed ≤ 2))

/-- The condition of a type, as far as the event shows it. -/
def Breach (rules : CompanyRules) (event : LiveEvent) : AlertType → Prop
  | .overspeed => 0 < rules.speedLimit ∧ (rules.speedLimit : ℚ) < event.speed
  | .overIdle => Idle event
  | .powerCut => ∃ voltage, event.voltage = some voltage ∧ 0 < voltage ∧ voltage < powerCutVoltage
  | .temperature => ∃ temperature, event.temperature = some temperature ∧
      reeferBreachHigh ≤ temperature ∧ temperature ≤ reeferBreachLow

/-- When a rule raises an alert unless it rests: idling has to last. -/
def Due (rules : CompanyRules) (a : Arrival) (state : DeviceState) (ty : AlertType) : Prop :=
  Breach rules a.event ty ∧ (ty = .overIdle → state.idleSince ≠ zeroInstant ∧
    minutes rules.idleMinutes ≤ sub a.now state.idleSince)

def Fires (rules : CompanyRules) (a : Arrival) (state : DeviceState) (ty : AlertType) : Prop :=
  Due rules a state ty ∧ ty.cooldown < sub a.now (ty.last state)

/-- A rule of type `ty` raises its alert and notes the time if `fires`, and else it does neither. -/
structure Applied (ty : AlertType) (a : Arrival) (fires : Prop) (state : DeviceState)
    (r : Evaluation) : Prop where
  last_of_fires : fires → ty.last r.1 = a.now
  last_of_waits : ¬ fires → ty.last r.1 = ty.last state
  others : ∀ other, other ≠ ty → other.last r.1 = other.last state
  raised : ∀ other, (∃ call ∈ r.2, call.alertType = other) ↔ other = ty ∧ fires
  types : (r.2.map (·.alertType)).Sublist [ty]
  event : ∀ call ∈ r.2, call.event = a.event

theorem Applied.fired {ty : AlertType} {a : Arrival} {fires : Prop} {state state' : DeviceState}
    {call : AlertCall} (h : fires) (hlast : ty.last state' = a.now)
    (hothers : ∀ other, other ≠ ty → other.last state' = other.last state)
    (hcall : call.alertType = ty) (hevent : call.event = a.event) :
    Applied ty a fires state (state', [call]) where
  last_of_fires := fun _ => hlast
  last_of_waits := fun hno => absurd h hno
  others := hothers
  raised := by simp [hcall, h, eq_comm]
  types := by simp [hcall]
  event := by simp [hevent]

theorem Applied.waited {ty : AlertType} {a : Arrival} {fires : Prop} {state state' : DeviceState}
    (h : ¬ fires) (hlast : ∀ other : AlertType, other.last state' = other.last state) :
    Applied ty a fires state (state', []) where
  last_of_fires := fun hfires => absurd hfires h
  last_of_waits := fun _ => hlast ty
  others := fun other _ => hlast other
  raised := by simp [h]
  types := by simp
  event := by simp

variable (rules : CompanyRules) (a : Arrival) (state : DeviceState)

theorem overspeedRule_applied :
    Applied .overspeed a (Fires rules a state .overspeed) state (overspeedRule rules a state) ∧
      (overspeedRule rules a state).1.idleSince = state.idleSince := by
  unfold overspeedRule
  split_ifs with h
  · refine ⟨.fired ⟨⟨⟨h.1, h.2.1⟩, nofun⟩, h.2.2⟩ rfl ?_ rfl rfl, rfl⟩
    rintro (_ | _ | _ | _) hother
    · exact absurd rfl hother
    all_goals rfl
  · refine ⟨.waited ?_ fun _ => rfl, rfl⟩
    rintro ⟨⟨⟨hpos, hspeed⟩, -⟩, hrested⟩
    exact h ⟨hpos, hspeed, hrested⟩

theorem powerCutRule_applied :
    Applied .powerCut a (Fires rules a state .powerCut) state (powerCutRule a state) ∧
      (powerCutRule a state).1.idleSince = state.idleSince := by
  unfold powerCutRule
  cases hvoltage : a.event.voltage with
  | none =>
      refine ⟨.waited ?_ fun _ => rfl, rfl⟩
      rintro ⟨⟨⟨voltage, hsome, -⟩, -⟩, -⟩
      rw [hvoltage] at hsome
      cases hsome
  | some voltage =>
      dsimp only
      split_ifs with h
      · refine ⟨.fired ⟨⟨⟨voltage, hvoltage, h.1, h.2.1⟩, nofun⟩, h.2.2⟩ rfl ?_ rfl rfl, rfl⟩
        rintro (_ | _ | _ | _) hother
        case powerCut => exact absurd rfl hother
        all_goals rfl
      · refine ⟨.waited ?_ fun _ => rfl, rfl⟩
        rintro ⟨⟨⟨voltage', hsome, hpos, hlow⟩, -⟩, hrested⟩
        obtain rfl := Option.some.inj (hvoltage.symm.trans hsome)
        exact h ⟨hpos, hlow, hrested⟩

theorem temperatureRule_applied :
    Applied .temperature a (Fires rules a state .temperature) state (temperatureRule a state) ∧
      (temperatureRule a state).1.idleSince = state.idleSince := by
  unfold temperatureRule
  cases htemperature : a.event.temperature with
  | none =>
      refine ⟨.waited ?_ fun _ => rfl, rfl⟩
      rintro ⟨⟨⟨temperature, hsome, -⟩, -⟩, -⟩
      rw [htemperature] at hsome
      cases hsome
  | some temperature =>
      dsimp only
      split_ifs with h
      · refine ⟨.fired ⟨⟨⟨temperature, htemperature, h.1, h.2.1⟩, nofun⟩, h.2.2⟩ rfl ?_ rfl rfl,
          rfl⟩
        rintro (_ | _ | _ | _) hother
        case temperature => exact absurd rfl hother
        all_goals rfl
      · refine ⟨.waited ?_ fun _ => rfl, rfl⟩
        rintro ⟨⟨⟨temperature', hsome, hhigh, hlow⟩, -⟩, hrested⟩
        obtain rfl := Option.some.inj (htemperature.symm.trans hsome)
        exact h ⟨hhigh, hlow, hrested⟩

/-- The record of idling: a streak begins, goes on or ends. -/
def idleSinceAfter (a : Arrival) (since : Int) : Int :=
  if Idle a.event then if since = zeroInstant then a.now else since else zeroInstant

theorem idleRule_applied :
    Applied .overIdle a (Fires rules a state .overIdle) state (idleRule rules a state) ∧
      (idleRule rules a state).1.idleSince = idleSinceAfter a state.idleSince := by
  unfold idleRule
  by_cases hidle : a.event.ignition = true ∧ a.event.speed ≤ 2
  · rw [if_pos hidle, idleSinceAfter, if_pos (show Idle a.event from hidle)]
    split_ifs with hfirst h
    · refine ⟨.waited ?_ fun other => by cases other <;> rfl, rfl⟩
      intro ⟨⟨_, hlong⟩, _⟩
      exact (hlong rfl).1 hfirst
    · refine ⟨.fired ⟨⟨hidle, fun _ => ⟨hfirst, h.1⟩⟩, h.2⟩ rfl ?_ rfl rfl, rfl⟩
      intro other hother
      cases other
      case overIdle => exact absurd rfl hother
      all_goals rfl
    · refine ⟨.waited ?_ fun _ => rfl, rfl⟩
      intro ⟨⟨_, hlong⟩, hrested⟩
      exact h ⟨(hlong rfl).2, hrested⟩
  · rw [if_neg hidle, idleSinceAfter, if_neg (show ¬ Idle a.event from hidle)]
    refine ⟨.waited ?_ fun other => by cases other <;> rfl, rfl⟩
    intro ⟨⟨hbreach, _⟩, _⟩
    exact hidle hbreach

variable {rules a state}

theorem fires_congr {state' : DeviceState} {ty : AlertType} (hlast : ty.last state' = ty.last state)
    (hsince : ty = .overIdle → state'.idleSince = state.idleSince) :
    Fires rules a state' ty ↔ Fires rules a state ty := by
  unfold Fires Due
  rw [hlast]
  by_cases hty : ty = .overIdle
  · rw [hsince hty]
  · simp only [hty, false_imp_iff]

variable (rules a state) in
/-- An event calls `raise` for itself, and at most once with a type. -/
theorem applyRules_calls : ((applyRules rules a state).2.map (·.alertType)).Nodup ∧
    ∀ call ∈ (applyRules rules a state).2, call.event = a.event := by
  have h₁ := (overspeedRule_applied rules a state).1
  have h₂ := (idleRule_applied rules a (overspeedRule rules a state).1).1
  generalize hr₂ : idleRule rules a (overspeedRule rules a state).1 = r₂ at h₂
  have h₃ := (powerCutRule_applied rules a r₂.1).1
  have h₄ := (temperatureRule_applied rules a (powerCutRule a r₂.1).1).1
  have hcalls : (applyRules rules a state).2 = (overspeedRule rules a state).2 ++ r₂.2 ++
      (powerCutRule a r₂.1).2 ++ (temperatureRule a (powerCutRule a r₂.1).1).2 := by
    rw [← hr₂]
    rfl
  rw [hcalls]
  constructor
  · have hall : [AlertType.overspeed, .overIdle, .powerCut, .temperature].Nodup := by simp
    refine List.Nodup.sublist ?_ hall
    simp only [List.map_append]
    exact ((h₁.types.append h₂.types).append h₃.types).append h₄.types
  · simp only [List.mem_append]
    intro call hcall
    obtain ((hcall | hcall) | hcall) | hcall := hcall
    · exact h₁.event call hcall
    · exact h₂.event call hcall
    · exact h₃.event call hcall
    · exact h₄.event call hcall

variable (rules a state) in
/-- **Each type is raised as if its rule were the only one.** -/
theorem applyRules_spec (ty : AlertType) :
    ((∃ call ∈ (applyRules rules a state).2, call.alertType = ty) ↔ Fires rules a state ty) ∧
      (Fires rules a state ty → ty.last (applyRules rules a state).1 = a.now) ∧
      (¬ Fires rules a state ty → ty.last (applyRules rules a state).1 = ty.last state) ∧
      (applyRules rules a state).1.idleSince = idleSinceAfter a state.idleSince := by
  have happly : applyRules rules a state =
      ((temperatureRule a (powerCutRule a (idleRule rules a (overspeedRule rules a state).1).1).1).1,
        (overspeedRule rules a state).2 ++ (idleRule rules a (overspeedRule rules a state).1).2 ++
          (powerCutRule a (idleRule rules a (overspeedRule rules a state).1).1).2 ++
          (temperatureRule a
            (powerCutRule a (idleRule rules a (overspeedRule rules a state).1).1).1).2) := rfl
  rw [happly]
  obtain ⟨h₁, hsince₁⟩ := overspeedRule_applied rules a state
  generalize overspeedRule rules a state = r₁ at h₁ hsince₁
  obtain ⟨h₂, hsince₂⟩ := idleRule_applied rules a r₁.1
  generalize idleRule rules a r₁.1 = r₂ at h₂ hsince₂
  obtain ⟨h₃, hsince₃⟩ := powerCutRule_applied rules a r₂.1
  generalize powerCutRule a r₂.1 = r₃ at h₃ hsince₃
  obtain ⟨h₄, hsince₄⟩ := temperatureRule_applied rules a r₃.1
  generalize temperatureRule a r₃.1 = r₄ at h₄ hsince₄
  -- a rule finds of its own type what the rules before it have left
  have hidle : Fires rules a r₁.1 .overIdle ↔ Fires rules a state .overIdle :=
    fires_congr (h₁.others _ (by simp)) fun _ => hsince₁
  have hpower : Fires rules a r₂.1 .powerCut ↔ Fires rules a state .powerCut :=
    fires_congr ((h₂.others _ (by simp)).trans (h₁.others _ (by simp))) (by simp)
  have htemperature : Fires rules a r₃.1 .temperature ↔ Fires rules a state .temperature :=
    fires_congr ((h₃.others _ (by simp)).trans
      ((h₂.others _ (by simp)).trans (h₁.others _ (by simp)))) (by simp)
  rw [hidle] at h₂
  rw [hpower] at h₃
  rw [htemperature] at h₄
  have hlast : (Fires rules a state ty → ty.last r₄.1 = a.now) ∧
      (¬ Fires rules a state ty → ty.last r₄.1 = ty.last state) := by
    cases ty with
    | overspeed =>
        rw [h₄.others _ (by simp), h₃.others _ (by simp), h₂.others _ (by simp)]
        exact ⟨h₁.last_of_fires, h₁.last_of_waits⟩
    | overIdle =>
        rw [h₄.others _ (by simp), h₃.others _ (by simp), ← h₁.others _ (by simp)]
        exact ⟨h₂.last_of_fires, h₂.last_of_waits⟩
    | powerCut =>
        rw [h₄.others _ (by simp), ← h₁.others _ (by simp), ← h₂.others _ (by simp)]
        exact ⟨h₃.last_of_fires, h₃.last_of_waits⟩
    | temperature =>
        rw [← h₁.others _ (by simp), ← h₂.others _ (by simp), ← h₃.others _ (by simp)]
        exact ⟨h₄.last_of_fires, h₄.last_of_waits⟩
  refine ⟨?_, hlast.1, hlast.2, ?_⟩
  · simp only [List.mem_append, or_and_right, exists_or, h₁.raised, h₂.raised, h₃.raised, h₄.raised]
    cases ty <;> simp
  · rw [hsince₄, hsince₃, hsince₂, hsince₁]

/-! ### Histories -/

/-- The engine after a history. -/
def Engine.after (pre : List Arrival) : Engine :=
  pre.foldl (fun e a => (e.evaluate a).1) Engine.new

@[simp] theorem Engine.after_snoc (pre : List Arrival) (a : Arrival) :
    Engine.after (pre ++ [a]) = ((Engine.after pre).evaluate a).1 := by
  simp [Engine.after]

/-- The rules in force for an event that comes after a history. -/
def rulesAt (pre : List Arrival) (a : Arrival) : CompanyRules := (Engine.after pre).rules a

/-- The record of a device after a history. -/
def stateAt (pre : List Arrival) (deviceID : Int) : DeviceState :=
  (Engine.after pre).deviceState deviceID

/-- An event calls `raise` with a type. -/
def Raised (ty : AlertType) (pre : List Arrival) (a : Arrival) : Prop :=
  ∃ call ∈ ((Engine.after pre).evaluate a).2, call.alertType = ty

theorem stateAt_nil (deviceID : Int) : stateAt [] deviceID = DeviceState.zero := rfl

theorem stateAt_snoc_self (pre : List Arrival) (a : Arrival) :
    stateAt (pre ++ [a]) a.event.deviceID =
      (applyRules (rulesAt pre a) a (stateAt pre a.event.deviceID)).1 := by
  rw [stateAt, Engine.after_snoc, Engine.deviceState, Engine.evaluate, Finmap.lookup_insert,
    Option.getD_some]
  rfl

theorem stateAt_snoc_other (pre : List Arrival) {a : Arrival} {deviceID : Int}
    (h : a.event.deviceID ≠ deviceID) : stateAt (pre ++ [a]) deviceID = stateAt pre deviceID := by
  rw [stateAt, Engine.after_snoc, Engine.deviceState, Engine.evaluate,
    Finmap.lookup_insert_of_ne _ h.symm]
  rfl

theorem raised_iff (ty : AlertType) (pre : List Arrival) (a : Arrival) :
    Raised ty pre a ↔ Fires (rulesAt pre a) a (stateAt pre a.event.deviceID) ty :=
  (applyRules_spec _ _ _ ty).1

/-- The loop evaluates the events in its messages, and calls `raise` as they do. -/
theorem Engine.run_spec (msgs : List Message) : ∀ pre : List Arrival,
    ((Engine.after pre).run msgs).1 = Engine.after (pre ++ msgs.filterMap Message.arrival) ∧
      ∀ call, call ∈ ((Engine.after pre).run msgs).2 ↔
        ∃ before a rest, msgs.filterMap Message.arrival = before ++ a :: rest ∧
          call ∈ ((Engine.after (pre ++ before)).evaluate a).2 := by
  induction msgs with
  | nil =>
      intro pre
      rw [List.filterMap_nil, List.append_nil]
      refine ⟨rfl, fun call => iff_of_false List.not_mem_nil ?_⟩
      intro ⟨before, a, rest, hnil, _⟩
      simp at hnil
  | cons msg msgs ih =>
      intro pre
      rw [Engine.run]
      cases harrival : msg.arrival with
      | none =>
          rw [List.filterMap_cons_none harrival]
          exact ih pre
      | some a =>
          obtain ⟨hstate, hcalls⟩ := ih (pre ++ [a])
          rw [Engine.after_snoc] at hstate hcalls
          rw [List.filterMap_cons_some harrival]
          refine ⟨?_, fun call => ?_⟩
          · rw [← List.append_cons] at hstate
            exact hstate
          · refine List.mem_append.trans ?_
            rw [hcalls call]
            constructor
            · rintro (hcall | ⟨before, b, rest, hsplit, hcall⟩)
              · exact ⟨[], a, _, rfl, by rwa [List.append_nil]⟩
              · refine ⟨a :: before, b, rest, by rw [hsplit]; rfl, ?_⟩
                rwa [List.append_cons]
            · rintro ⟨_ | ⟨c, before⟩, b, rest, hsplit, hcall⟩
              · obtain ⟨rfl, -⟩ := List.cons.inj hsplit
                rw [List.append_nil] at hcall
                exact .inl hcall
              · obtain ⟨rfl, htail⟩ := List.cons.inj hsplit
                rw [List.append_cons] at hcall
                exact .inr ⟨before, b, rest, htail, hcall⟩

/-! ### One device and one type -/

theorem AlertType.cooldown_lt (ty : AlertType) :
    minDuration ≤ ty.cooldown ∧ ty.cooldown < maxDuration := by
  cases ty <;> decide

theorem AlertType.last_zero (ty : AlertType) : ty.last DeviceState.zero = zeroInstant := by
  cases ty <;> rfl

/-- Cooldowns are told right by the clock. -/
theorem fires_iff (rules : CompanyRules) (a : Arrival) (state : DeviceState) (ty : AlertType) :
    Fires rules a state ty ↔ Due rules a state ty ∧ ty.cooldown < a.now - ty.last state :=
  and_congr_right fun _ => lt_sub_iff ty.cooldown_lt.1 ty.cooldown_lt.2

/-- The events of a device at which an alert of a type is due. -/
def DueFor (ty : AlertType) (deviceID : Int) (pre : List Arrival) (a : Arrival) : Prop :=
  a.event.deviceID = deviceID ∧ Due (rulesAt pre a) a (stateAt pre deviceID) ty

/-- The alerts of a type that are raised for a device. -/
def RaisedFor (ty : AlertType) (deviceID : Int) (pre : List Arrival) (a : Arrival) : Prop :=
  a.event.deviceID = deviceID ∧ Raised ty pre a

/-- Whatever the events of other devices and the other rules do, the engine is a limiter for each
device and type. -/
def alertLimiter (ty : AlertType) (deviceID : Int) : Limiter Arrival where
  clock a := a.now
  cooldown := ty.cooldown
  due := DueFor ty deviceID
  last pre := ty.last (stateAt pre deviceID)
  fresh a := by
    obtain ⟨hmin, hmax⟩ := ty.cooldown_lt
    rw [stateAt_nil, ty.last_zero, ← lt_sub_iff hmin hmax, sub_zeroInstant]
    exact hmax
  last_of_fires pre a hdue hrested := by
    obtain ⟨rfl, hdue⟩ := hdue
    rw [stateAt_snoc_self]
    exact (applyRules_spec _ _ _ ty).2.1 ((fires_iff _ _ _ _).mpr ⟨hdue, hrested⟩)
  last_of_waits pre a hno := by
    by_cases hown : a.event.deviceID = deviceID
    · subst hown
      rw [stateAt_snoc_self]
      refine (applyRules_spec _ _ _ ty).2.2.1 fun hfires => hno ?_
      obtain ⟨hdue, hrested⟩ := (fires_iff _ _ _ _).mp hfires
      exact ⟨⟨rfl, hdue⟩, hrested⟩
    · rw [stateAt_snoc_other pre hown]

theorem alertLimiter_fires (ty : AlertType) (deviceID : Int) :
    (alertLimiter ty deviceID).Fires = RaisedFor ty deviceID := by
  funext pre a
  refine propext ?_
  constructor
  · rintro ⟨⟨rfl, hdue⟩, hrested⟩
    exact ⟨rfl, (raised_iff ty pre a).mpr ((fires_iff _ _ _ _).mpr ⟨hdue, hrested⟩)⟩
  · rintro ⟨rfl, hraised⟩
    obtain ⟨hdue, hrested⟩ := (fires_iff _ _ _ _).mp ((raised_iff ty pre a).mp hraised)
    exact ⟨⟨rfl, hdue⟩, hrested⟩

/-- **An alert is raised exactly if it is due and the last one of its type for the device is more
than the cooldown ago.** -/
theorem raisedFor_iff {pre : List Arrival} (horder : InOrder (fun a => (a.now : Int)) pre)
    (ty : AlertType) (deviceID : Int) (a : Arrival) : RaisedFor ty deviceID pre a ↔
      DueFor ty deviceID pre a ∧
        ∀ x, Earlier (RaisedFor ty deviceID) pre x → ty.cooldown < a.now - x.now := by
  have hlimiter := Limiter.fires_iff (L := alertLimiter ty deviceID) horder a
  rwa [alertLimiter_fires] at hlimiter

end RudraNetra
