/-
What an alert that could not be stored does to the ones after it.

The engine rests after every call of `raise`, whether or not the alert was stored.  So no
incident is muted exactly if every alert that is raised is stored (`noneMuted_iff`).
-/
import RudraNetra.Alerts.Ledger
import RudraNetra.Proofs.Idling

namespace RudraNetra

open Go History

/-! ### The rows of an incident -/

theorem AlertType.text_inj {ty ty' : AlertType} (h : ty.text = ty'.text) : ty = ty' := by
  revert h
  cases ty <;> cases ty' <;> simp [AlertType.text]

/-- The events of a history of incidents. -/
abbrev arrivals (tr : List Incident) : List Arrival := tr.map (·.arrival)

theorem Ledger.after_engine (tr : List Incident) :
    (Ledger.after tr).engine = Engine.after (arrivals tr) := by
  induction tr using List.reverseRecOn with
  | nil => rfl
  | append_singleton tr i ih =>
      have hstep : Ledger.after (tr ++ [i]) = (Ledger.after tr).evaluate i := by
        simp [Ledger.after]
      have harrivals : arrivals (tr ++ [i]) = arrivals tr ++ [i.arrival] := by simp
      rw [hstep, harrivals, Engine.after_snoc, ← ih]
      rfl

/-- An alert of a type is stored by an incident, for its device. -/
def Stored (ty : AlertType) (pre : List Incident) (i : Incident) : Prop :=
  ∃ entry ∈ i.stores (Engine.after (arrivals pre)),
    entry.1.deviceID = i.arrival.event.deviceID ∧ entry.1.alertType = ty.text

/-- An alert of a type is stored for a device. -/
def StoredFor (ty : AlertType) (deviceID : Int) (pre : List Incident) (i : Incident) : Prop :=
  i.arrival.event.deviceID = deviceID ∧ Stored ty pre i

/-- A row that is stored comes from a call of `raise` that the database answered. -/
theorem mem_stores {pre : List Incident} {i : Incident} {entry : AlertRow × AlertEvent}
    (h : entry ∈ i.stores (Engine.after (arrivals pre))) :
    ∃ ty : AlertType, entry.1.alertType = ty.text ∧ Raised ty (arrivals pre) i.arrival ∧
      (i.answer ty).isSome := by
  obtain ⟨call, hcall, hraise⟩ := List.mem_filterMap.mp h
  obtain ⟨inserted, hanswer, rfl⟩ := Option.map_eq_some_iff.mp hraise
  exact ⟨call.alertType, rfl, ⟨call, hcall, rfl⟩, by simp [hanswer]⟩

theorem stored_iff (ty : AlertType) (pre : List Incident) (i : Incident) :
    Stored ty pre i ↔ Raised ty (arrivals pre) i.arrival ∧ (i.answer ty).isSome := by
  obtain ⟨-, hevent⟩ := applyRules_calls (rulesAt (arrivals pre) i.arrival) i.arrival
    (stateAt (arrivals pre) i.arrival.event.deviceID)
  constructor
  · rintro ⟨entry, hentry, -, htext⟩
    obtain ⟨ty', htext', hstored⟩ := mem_stores hentry
    obtain rfl := AlertType.text_inj (htext'.symm.trans htext)
    exact hstored
  · rintro ⟨⟨call, hcall, rfl⟩, hanswer⟩
    obtain ⟨inserted, hinserted⟩ := Option.isSome_iff_exists.mp hanswer
    have hraise : raise call (i.answer call.alertType) = some _ :=
      Option.map_eq_some_iff.mpr ⟨inserted, hinserted, rfl⟩
    exact ⟨_, List.mem_filterMap.mpr ⟨call, hcall, hraise⟩,
      congrArg LiveEvent.deviceID (hevent call hcall), rfl⟩

/-- The rows of the ledger are those of its incidents. -/
theorem mem_alerts_iff {tr : List Incident} {row : AlertRow} : row ∈ (Ledger.after tr).alerts ↔
    ∃ pre i rest, tr = pre ++ i :: rest ∧
      ∃ entry ∈ i.stores (Engine.after (arrivals pre)), entry.1 = row := by
  induction tr using List.reverseRecOn with
  | nil => simp [Ledger.after, Ledger.new]
  | append_singleton tr i ih =>
      have hstep : (Ledger.after (tr ++ [i])).alerts = (Ledger.after tr).alerts ++
          (i.stores (Engine.after (arrivals tr))).map (·.1) := by
        rw [← Ledger.after_engine]
        simp [Ledger.after, Ledger.evaluate]
      rw [hstep, List.mem_append, ih, List.mem_map]
      constructor
      · rintro (⟨pre, j, rest, rfl, hrow⟩ | hrow)
        · exact ⟨pre, j, rest ++ [i], by simp, hrow⟩
        · exact ⟨tr, i, [], rfl, hrow⟩
      · rintro ⟨pre, j, rest, hsplit, hrow⟩
        rcases snoc_eq_append_cons.mp hsplit with ⟨-, rfl, rfl⟩ | ⟨rest', rfl, hsplit'⟩
        · exact .inr hrow
        · exact .inl ⟨pre, j, rest', hsplit', hrow⟩

/-! ### Muted incidents -/

/-- An event satisfies the condition of a type: for idling, that the streak the event is in has
lasted the idle minutes in force. -/
def Shows (ty : AlertType) (pre : List Arrival) (a : Arrival) : Prop :=
  Breach (rulesAt pre a) a.event ty ∧ (ty = .overIdle →
    ∃ j, StartedIdling pre a.event.deviceID j ∧
      (rulesAt pre a).idleMinutes * minute ≤ a.now - j.now)

/-- An event that satisfies the condition stores an alert, or one was stored at most the cooldown
before; and an alert that is not stored leaves the cooldown as it was. -/
def NoneMuted (tr : List Incident) : Prop :=
  ∀ pre i rest, tr = pre ++ i :: rest → ∀ ty : AlertType,
    (Shows ty (arrivals pre) i.arrival → Stored ty pre i ∨
      ∃ x, Earlier (StoredFor ty i.arrival.event.deviceID) pre x ∧
        i.arrival.now - x.arrival.now ≤ ty.cooldown) ∧
    (Raised ty (arrivals pre) i.arrival → ¬ Stored ty pre i →
      ty.last (stateAt (arrivals (pre ++ [i])) i.arrival.event.deviceID) =
        ty.last (stateAt (arrivals pre) i.arrival.event.deviceID))

/-- Every `INSERT` that is issued succeeds. -/
def InsertsSucceed (tr : List Incident) : Prop :=
  ∀ pre i rest, tr = pre ++ i :: rest → ∀ ty : AlertType,
    Raised ty (arrivals pre) i.arrival → (i.answer ty).isSome

/-- No time is too short for minutes, as they are turned into a duration. -/
theorem minutes_le_sub {m : Int} (hpos : 0 < m) {t u : Int} (h : m * minute ≤ t - u) :
    minutes m ≤ sub t u := by
  have hmax := minutes_le_maxDuration m
  have hle : minutes m ≤ m * minute := by
    rcases le_or_gt m maxMinutes with hfits | hmore
    · exact (minutes_eq hpos hfits).le
    · exact (minutes_lt hmore).le
  unfold sub
  omega

theorem dueFor_of_shows {ty : AlertType} {pre : List Arrival} {a : Arrival} (h : Shows ty pre a) :
    DueFor ty a.event.deviceID pre a := by
  obtain ⟨hbreach, hidle⟩ := h
  by_cases hty : ty = .overIdle
  · subst hty
    obtain ⟨j, hj, hlong⟩ := hidle rfl
    exact (dueFor_overIdle_iff pre a).mpr
      ⟨hbreach, j, hj, minutes_le_sub (rulesAt_pos pre a) hlong⟩
  · exact ⟨rfl, hbreach, fun h => absurd h hty⟩

/-- The time of an alert that is raised is a new one. -/
theorem last_changes {ty : AlertType} {pre : List Arrival} {a : Arrival} (h : Raised ty pre a) :
    ty.last (stateAt (pre ++ [a]) a.event.deviceID) ≠ ty.last (stateAt pre a.event.deviceID) := by
  have hfires := (raised_iff ty pre a).mp h
  rw [stateAt_snoc_self, (applyRules_spec _ _ _ ty).2.1 hfires]
  obtain ⟨-, hrested⟩ := (fires_iff _ _ _ _).mp hfires
  have hcooldown : 0 < ty.cooldown := by
    cases ty <;> simp [AlertType.cooldown, overspeedCooldown, idleCooldown, powerCutCooldown,
      temperatureCooldown, minute]
  omega

/-- The alerts of a type that incidents raise for a device, stored or not. -/
def incidentLimiter (ty : AlertType) (deviceID : Int) : Limiter Incident :=
  (alertLimiter ty deviceID).comap (·.arrival)

theorem incidentLimiter_fires {ty : AlertType} {deviceID : Int} {pre : List Incident} {i : Incident} :
    (incidentLimiter ty deviceID).Fires pre i ↔
      i.arrival.event.deviceID = deviceID ∧ Raised ty (arrivals pre) i.arrival := by
  have hraised : (incidentLimiter ty deviceID).Fires pre i ↔
      (alertLimiter ty deviceID).Fires (arrivals pre) i.arrival := Iff.rfl
  rw [hraised, alertLimiter_fires]
  rfl

/-- **No incident is muted exactly if every alert that is raised is stored.** -/
theorem noneMuted_iff (tr : List Incident) : NoneMuted tr ↔ InsertsSucceed tr := by
  constructor
  · intro hnone pre i rest hsplit ty hraised
    by_contra hfails
    have hkept := (hnone pre i rest hsplit ty).2 hraised fun hstored =>
      hfails ((stored_iff ty pre i).mp hstored).2
    exact last_changes hraised (by simpa using hkept)
  · intro hall pre i rest hsplit ty
    have hstored : ∀ before x after, tr = before ++ x :: after →
        Raised ty (arrivals before) x.arrival → Stored ty before x := by
      intro before x after hsplit hraised
      exact (stored_iff ty before x).mpr ⟨hraised, hall before x after hsplit ty hraised⟩
    refine ⟨fun hshows => ?_, fun hraised hno => absurd (hstored pre i rest hsplit hraised) hno⟩
    rcases (incidentLimiter ty _).fires_or_rests (dueFor_of_shows hshows) with hfires | hrests
    · exact .inl (hstored pre i rest hsplit (incidentLimiter_fires.mp hfires).2)
    · obtain ⟨x, ⟨before, mid, rfl, hx⟩, hnear⟩ := hrests
      obtain ⟨hdevice, hraised⟩ := incidentLimiter_fires.mp hx
      have hx : Stored ty before x := hstored before x (mid ++ i :: rest) (by simpa using hsplit) hraised
      exact .inr ⟨x, ⟨before, mid, rfl, hdevice, hx⟩, hnear⟩

/-- A vehicle at 100 km/h, whose alert is stored or not. -/
def drivingIncident (now : Nat) (answer : Option Inserted) : Incident :=
  ⟨drivingAt 100 now, fun _ => answer⟩

/-- An alert that cannot be stored, and a minute later a moment at which it could be. -/
def failedInsert : List Incident :=
  [drivingIncident 0 none, drivingIncident (60 * 10 ^ 9) (some ⟨1, 0, 0⟩)]

theorem driving_breach {pre : List Arrival} (hpre : pre = [] ∨ pre = [drivingAt 100 0]) (now : Nat) :
    Breach (rulesAt pre (drivingAt 100 now)) (drivingAt 100 now).event .overspeed := by
  have hlimit : (rulesAt pre (drivingAt 100 now)).speedLimit = 80 := by
    rcases hpre with rfl | rfl
    · rfl
    · have hkept : (Engine.after [drivingAt 100 0]).companies.lookup
          (drivingAt 100 now).event.companyID = some (drivingAt 100 0).loadRules :=
        Finmap.lookup_insert _
      rw [rulesAt, Engine.rules_of_kept hkept]
      split_ifs <;> rfl
  rw [Breach, hlimit]
  refine ⟨by norm_num, ?_⟩
  show ((80 : Int) : ℚ) < 100
  norm_num

/-- The second event of a vehicle at 100 km/h shows that it is too fast, and raises no alert; and no
alert is stored at all. -/
theorem failedInsert_mutes : ¬ NoneMuted failedInsert ∧
    Shows .overspeed [drivingAt 100 0] (drivingAt 100 (60 * 10 ^ 9)) ∧
      ∀ row ∈ (Ledger.after failedInsert).alerts, row.alertType ≠ "overspeed" := by
  have hfirst : Raised .overspeed [] (drivingAt 100 0) := by
    refine (raised_iff_breach (by simp) List.Pairwise.nil _).mpr ⟨driving_breach (.inl rfl) 0, ?_⟩
    exact fun x hx => absurd hx (not_earlier_nil x)
  have hsecond : ¬ Raised .overspeed [drivingAt 100 0] (drivingAt 100 (60 * 10 ^ 9)) := by
    rw [raised_iff_breach (by simp) (List.pairwise_singleton _ _)]
    rintro ⟨-, hrested⟩
    exact absurd (hrested _ ⟨[], [], rfl, rfl, hfirst⟩) (by decide)
  refine ⟨fun hnone => ?_, ⟨driving_breach (.inr rfl) _, by simp⟩, ?_⟩
  · refine last_changes hfirst ((hnone [] _ [_] rfl .overspeed).2 hfirst fun hstored => ?_)
    exact absurd ((stored_iff _ _ _).mp hstored).2 (by simp [drivingIncident])
  · intro row hrow htype
    obtain ⟨pre, i, rest, hsplit, entry, hentry, rfl⟩ := mem_alerts_iff.mp hrow
    obtain ⟨ty, htext, hraised, hanswer⟩ := mem_stores hentry
    obtain rfl : ty = .overspeed := AlertType.text_inj (htext.symm.trans htype)
    obtain _ | ⟨j, _ | ⟨k, pre⟩⟩ := pre
    · obtain ⟨rfl, -⟩ := List.cons.inj hsplit
      simp [drivingIncident] at hanswer
    · obtain ⟨rfl, htail⟩ := List.cons.inj hsplit
      obtain ⟨rfl, -⟩ := List.cons.inj htail
      exact hsecond hraised
    · have htail := (List.cons.inj (List.cons.inj hsplit).2).2
      simp at htail

end RudraNetra
