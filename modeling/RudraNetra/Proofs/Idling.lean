/-
When idling raises an alert.

The device's record keeps when the present streak of idle events started, so an alert is
due at an event of the streak that comes the idle minutes after its start.  The minutes
are turned into a duration first, and from 153722868 of them on that wraps around
(`raised_tooEarly`).
-/
import RudraNetra.Proofs.Cooldown

namespace RudraNetra

open Go History

/-! ### The minutes in force -/

theorem Arrival.loadRules_pos (a : Arrival) : 0 < a.loadRules.idleMinutes := by
  have hdefault : 0 < defaultIdleMinutes := by decide
  unfold Arrival.loadRules
  split
  · exact hdefault
  · dsimp only
    split_ifs with hpos
    · exact hpos
    · exact hdefault

theorem Engine.rules_of_kept {e : Engine} {a : Arrival} {rules : CompanyRules}
    (h : e.companies.lookup a.event.companyID = some rules) : e.rules a =
      if sub a.checkedAt rules.loadedAt < rulesCacheTTL then rules else a.loadRules := by
  rw [Engine.rules, h]

theorem Engine.rules_pos {e : Engine}
    (h : ∀ companyID rules, e.companies.lookup companyID = some rules → 0 < rules.idleMinutes)
    (a : Arrival) : 0 < (e.rules a).idleMinutes := by
  cases hkept : e.companies.lookup a.event.companyID with
  | none =>
      rw [Engine.rules, hkept]
      exact a.loadRules_pos
  | some rules =>
      rw [Engine.rules_of_kept hkept]
      split_ifs
      · exact h _ rules hkept
      · exact a.loadRules_pos

/-- The rules that are kept ask for some minutes. -/
theorem companies_pos (pre : List Arrival) : ∀ companyID rules,
    (Engine.after pre).companies.lookup companyID = some rules → 0 < rules.idleMinutes := by
  induction pre using List.reverseRecOn with
  | nil =>
      intro companyID rules h
      cases h
  | append_singleton pre a ih =>
      intro companyID rules h
      rw [Engine.after_snoc, Engine.evaluate] at h
      by_cases hcompany : companyID = a.event.companyID
      · subst hcompany
        rw [Finmap.lookup_insert] at h
        obtain rfl := Option.some.inj h
        exact Engine.rules_pos ih a
      · rw [Finmap.lookup_insert_of_ne _ hcompany] at h
        exact ih companyID rules h

theorem rulesAt_pos (pre : List Arrival) (a : Arrival) : 0 < (rulesAt pre a).idleMinutes :=
  Engine.rules_pos (companies_pos pre) a

/-! ### The streak -/

/-- The record of a device says since when it is idle. -/
def idleSince (pre : List Arrival) (deviceID : Int) : Option Int :=
  if (stateAt pre deviceID).idleSince = zeroInstant then none
  else some (stateAt pre deviceID).idleSince

theorem ne_zeroInstant (now : Nat) : (now : Int) ≠ zeroInstant := by
  unfold zeroInstant
  omega

theorem idleSince_snoc (pre : List Arrival) (a : Arrival) :
    (stateAt (pre ++ [a]) a.event.deviceID).idleSince =
      idleSinceAfter a (stateAt pre a.event.deviceID).idleSince := by
  rw [stateAt_snoc_self]
  exact (applyRules_spec _ _ _ .overIdle).2.2.2

/-- For each device the record is a streak, whatever the events of other devices do. -/
def idleStreak (deviceID : Int) : Streak Arrival where
  own a := a.event.deviceID = deviceID
  holds a := Idle a.event
  clock a := a.now
  since pre := idleSince pre deviceID
  since_nil := rfl
  since_other pre a hother := by
    rw [idleSince, idleSince, stateAt_snoc_other pre hother]
  since_ends pre a hown hends := by
    subst hown
    rw [idleSince, idleSince_snoc, idleSinceAfter, if_neg hends, if_pos rfl]
  since_goesOn pre a hown hidle := by
    subst hown
    rw [idleSince, idleSince, idleSince_snoc, idleSinceAfter, if_pos hidle]
    split_ifs with hfirst hzero
    · exact absurd hzero (ne_zeroInstant a.now)
    · rfl
    · rfl

/-- The events of a device from `j` on are idle, and the one before is not. -/
def StartedIdling (pre : List Arrival) (deviceID : Int) (j : Arrival) : Prop :=
  Started (fun a => a.event.deviceID = deviceID) (fun a => Idle a.event) pre j

theorem idleSince_eq_some {pre : List Arrival} {deviceID t : Int} :
    idleSince pre deviceID = some t ↔
      (stateAt pre deviceID).idleSince ≠ zeroInstant ∧ (stateAt pre deviceID).idleSince = t := by
  unfold idleSince
  split_ifs with hzero
  · simp [hzero]
  · simp [hzero]

theorem dueFor_overIdle_iff (pre : List Arrival) (a : Arrival) :
    DueFor .overIdle a.event.deviceID pre a ↔ Idle a.event ∧ ∃ j,
      StartedIdling pre a.event.deviceID j ∧
        minutes (rulesAt pre a).idleMinutes ≤ sub a.now j.now := by
  have hstarted : ∀ t, idleSince pre a.event.deviceID = some t ↔
      ∃ j, StartedIdling pre a.event.deviceID j ∧ (j.now : Int) = t :=
    ((idleStreak a.event.deviceID).since_spec pre).2
  have hdue : DueFor .overIdle a.event.deviceID pre a ↔ Idle a.event ∧
      ∃ t, idleSince pre a.event.deviceID = some t ∧
        minutes (rulesAt pre a).idleMinutes ≤ sub a.now t := by
    simp only [idleSince_eq_some, DueFor, Due, Breach, true_and, forall_const]
    exact and_congr_right fun _ =>
      ⟨fun ⟨hne, hle⟩ => ⟨_, ⟨hne, rfl⟩, hle⟩, fun ⟨_, ⟨hne, ht⟩, hle⟩ => ⟨hne, ht ▸ hle⟩⟩
  rw [hdue]
  refine and_congr_right fun _ => ?_
  constructor
  · intro ⟨t, ht, hle⟩
    obtain ⟨j, hj, rfl⟩ := (hstarted t).mp ht
    exact ⟨j, hj, hle⟩
  · intro ⟨j, hj, hle⟩
    exact ⟨j.now, (hstarted _).mpr ⟨j, hj, rfl⟩, hle⟩

/-! ### The alert -/

/-- What an idle alert should say: the event is idle, the streak it is in has lasted the idle minutes
in force, and the last alert is more than half an hour ago. -/
def IdleTooLong (pre : List Arrival) (a : Arrival) : Prop :=
  Idle a.event ∧
    (∃ j, StartedIdling pre a.event.deviceID j ∧
      (rulesAt pre a).idleMinutes * minute ≤ a.now - j.now) ∧
    ∀ x, Earlier (RaisedFor .overIdle a.event.deviceID) pre x → idleCooldown < a.now - x.now

/-- An idle alert is raised at exactly the events at which it should. -/
def IdleExact (tr : List Arrival) : Prop :=
  ∀ pre a rest, tr = pre ++ a :: rest → (Raised .overIdle pre a ↔ IdleTooLong pre a)

/-- The idle minutes in force at the events are all of a kind. -/
def MinutesIn (M : Set Int) (tr : List Arrival) : Prop :=
  ∀ pre a rest, tr = pre ++ a :: rest → (rulesAt pre a).idleMinutes ∈ M

theorem raised_overIdle_iff {pre : List Arrival}
    (horder : InOrder (fun a => (a.now : Int)) pre) (a : Arrival) :
    Raised .overIdle pre a ↔ Idle a.event ∧
      (∃ j, StartedIdling pre a.event.deviceID j ∧
        minutes (rulesAt pre a).idleMinutes ≤ sub a.now j.now) ∧
      ∀ x, Earlier (RaisedFor .overIdle a.event.deviceID) pre x → idleCooldown < a.now - x.now := by
  have hraised : Raised .overIdle pre a ↔ RaisedFor .overIdle a.event.deviceID pre a :=
    (and_iff_right rfl).symm
  rw [hraised, raisedFor_iff horder, dueFor_overIdle_iff, and_assoc]
  rfl

/-- Minutes that fit into a duration are measured right. -/
theorem raised_iff_idleTooLong {pre : List Arrival}
    (horder : InOrder (fun a => (a.now : Int)) pre) {a : Arrival}
    (hle : (rulesAt pre a).idleMinutes ≤ maxMinutes) :
    Raised .overIdle pre a ↔ IdleTooLong pre a := by
  have hpos := rulesAt_pos pre a
  have hfits : ∀ t : Int, minutes (rulesAt pre a).idleMinutes ≤ sub a.now t ↔
      (rulesAt pre a).idleMinutes * minute ≤ a.now - t := by
    intro t
    rw [le_sub_iff ?_ (minutes_le_maxDuration _), minutes_eq hpos hle]
    rw [minutes_eq hpos hle]
    unfold minDuration minute
    omega
  rw [raised_overIdle_iff horder, IdleTooLong]
  simp only [hfits]

/-! ### Minutes that do not fit -/

/-- A vehicle of company 1 that stands with its ignition on. -/
def standingEvent : LiveEvent :=
  ⟨1, 7, "GJ-01", 0, 0, 0, 0, true, "idle", none, none, none, none, none, 0, 0⟩

/-- It is evaluated at a time, with idle minutes in the settings of its company. -/
def standingAt (idleMinutes : Int) (now : Nat) : Arrival :=
  ⟨standingEvent, now, now, now, some (0, idleMinutes)⟩

theorem standing_loadRules {m : Int} (hm : 0 < m) (now : Nat) :
    (standingAt m now).loadRules.idleMinutes = m := if_pos hm

theorem standing_rulesAt {m : Int} (hm : 0 < m) {pre : List Arrival}
    (hpre : pre = [] ∨ pre = [standingAt m 0]) (now : Nat) :
    (rulesAt pre (standingAt m now)).idleMinutes = m := by
  obtain rfl | rfl := hpre
  · exact standing_loadRules hm now
  · have hkept : (Engine.after [standingAt m 0]).companies.lookup
        (standingAt m now).event.companyID = some (standingAt m 0).loadRules :=
      Finmap.lookup_insert _
    rw [rulesAt, Engine.rules_of_kept hkept]
    split_ifs
    · exact standing_loadRules hm 0
    · exact standing_loadRules hm now

theorem standing_idle (m : Int) (now : Nat) : Idle (standingAt m now).event :=
  ⟨rfl, show standingEvent.speed ≤ 2 by decide⟩

theorem standing_started (m : Int) (j : Arrival) :
    StartedIdling [standingAt m 0] 7 j ↔ j = standingAt m 0 := by
  have hstarted : StartedIdling ([] ++ [standingAt m 0]) 7 j ↔ _ :=
    started_snoc fun _ => standing_idle m 0
  refine hstarted.trans ?_
  simp [not_started_nil, broken_nil, standingAt, standingEvent]

/-- With more minutes than fit, the alert comes before it should: at the second event of a vehicle
that stands. -/
theorem raised_tooEarly {m : Int} (hm : maxMinutes < m) :
    Raised .overIdle [standingAt m 0] (standingAt m (minutes m).toNat) ∧
      ¬ IdleTooLong [standingAt m 0] (standingAt m (minutes m).toNat) := by
  have hpos : 0 < m := lt_trans (by decide) hm
  have hless := minutes_lt hm
  have hmax := minutes_le_maxDuration m
  have hrules := standing_rulesAt hpos (.inr rfl) (minutes m).toNat
  have htrue : 0 < m * minute := Int.mul_pos hpos (by decide)
  constructor
  · rw [raised_overIdle_iff (List.pairwise_singleton _ _)]
    refine ⟨standing_idle m _, ⟨standingAt m 0, (standing_started m _).mpr rfl, ?_⟩, ?_⟩
    · rw [hrules]
      show minutes m ≤ sub ((minutes m).toNat : Int) (0 : Nat)
      unfold sub
      omega
    · -- the first event of a streak raises nothing
      intro x hx
      have hx' : Earlier (RaisedFor .overIdle 7) ([] ++ [standingAt m 0]) x := hx
      rcases earlier_snoc.mp hx' with hnone | ⟨-, -, hraised⟩
      · exact absurd hnone (not_earlier_nil x)
      · obtain ⟨-, ⟨j, hj, -⟩, -⟩ := (raised_overIdle_iff List.Pairwise.nil _).mp hraised
        exact absurd hj (not_started_nil j)
  · intro ⟨_, ⟨j, hj, hlong⟩, _⟩
    obtain rfl := (standing_started m j).mp hj
    rw [hrules] at hlong
    have hnow : m * minute ≤ ((minutes m).toNat : Int) - (0 : Nat) := hlong
    omega

/-- **Idle alerts are raised exactly when they should for all idle minutes that fit into a duration,
and for no others.** -/
theorem idleExact_iff_le_maxMinutes (M : Set Int) :
    (∀ tr : List Arrival, InOrder (fun a => (a.now : Int)) tr → MinutesIn M tr → IdleExact tr) ↔
      ∀ m ∈ M, m ≤ maxMinutes := by
  constructor
  · intro hall m hm
    by_contra hlong
    have hmore : maxMinutes < m := Int.not_le.mp hlong
    have hpos : 0 < m := lt_trans (by decide) hmore
    obtain ⟨hraised, hnot⟩ := raised_tooEarly hmore
    have horder : InOrder (fun a => (a.now : Int))
        [standingAt m 0, standingAt m (minutes m).toNat] := by
      simp [InOrder, standingAt]
    refine hnot ((hall _ horder ?_ [_] _ [] rfl).mp hraised)
    intro pre a rest hsplit
    obtain _ | ⟨b, _ | ⟨c, pre⟩⟩ := pre
    · obtain ⟨rfl, -⟩ := List.cons.inj hsplit
      rw [standing_rulesAt hpos (.inl rfl)]
      exact hm
    · obtain ⟨rfl, htail⟩ := List.cons.inj hsplit
      obtain ⟨rfl, -⟩ := List.cons.inj htail
      rw [standing_rulesAt hpos (.inr rfl)]
      exact hm
    · have htail := (List.cons.inj (List.cons.inj hsplit).2).2
      simp at htail
  · intro hle tr horder hM pre a rest hsplit
    subst hsplit
    exact raised_iff_idleTooLong horder.left (hle _ (hM pre a rest rfl))

/-- A vehicle stands for no time at all, and its company allows 153722868 minutes. -/
theorem standing_raised_atOnce :
    ∃ tr : List Arrival, InOrder (fun a => (a.now : Int)) tr ∧
      ∃ pre a, tr = pre ++ [a] ∧ (rulesAt pre a).idleMinutes = 153722868 ∧
        (∀ x ∈ tr, x.now = 0) ∧ Raised .overIdle pre a ∧ ¬ IdleTooLong pre a := by
  have hwraps : (minutes 153722868).toNat = 0 := by decide
  have htooEarly := raised_tooEarly (m := 153722868) (by decide)
  rw [hwraps] at htooEarly
  refine ⟨[standingAt 153722868 0, standingAt 153722868 0], ?_, [standingAt 153722868 0], _, rfl,
    standing_rulesAt (by decide) (.inr rfl) 0, ?_, htooEarly⟩
  · simp [InOrder]
  · simp [standingAt]

end RudraNetra
