/-
The speed limits of the backend.

There are four.  The alert engine takes the tenant's threshold, or 80.  The report takes the
threshold, and lists nothing without one.  The log view takes the threshold, or the limit of
the vehicle, and the query for violations takes them the other way round.  So the four
agree on a position only if its speed lies on one side of the limits that differ
(`agree_iff_oneLimit`).
-/
import RudraNetra.Api.Reports
import RudraNetra.Proofs.Alerts

namespace RudraNetra

open Go

/-- The settings as the query of the alert engine has them. -/
def SettingsRecord.loaded (settings : SettingsRecord) : Int × Int :=
  (settings.speedThreshold.getD 0, settings.idleThreshold.getD 0)

/-- A position of a vehicle, stored and as a live event, and the settings of its company. -/
structure Judged where
  vehicle : VehicleRecord
  settings : Option SettingsRecord
  position : PositionRecord
  speed : ℚ
  arrival : Arrival
  stored : position.speed = some speed
  live : arrival.event.speed = speed
  loaded : arrival.settings = settings.map (·.loaded)

/-- The engine raises an alert, if it has not seen the device before. -/
def Judged.alerted (j : Judged) : Prop := Raised .overspeed [] j.arrival

def Judged.logged (j : Judged) : Prop :=
  (logStatus (logSpeedLimit j.vehicle j.settings) j.position).1 = "alert"

def Judged.reported (j : Judged) : Prop :=
  reportsOverspeed (companySpeedThreshold j.settings) j.position = true

/-- A violation, if the caller supplies the tenant's threshold. -/
def Judged.violates (j : Judged) : Prop :=
  j.position.exceeds (violationLimit j.vehicle (companySpeedThreshold j.settings)) = true

/-- The four agree. -/
def Judged.Agree (j : Judged) : Prop :=
  (j.alerted ↔ j.logged) ∧ (j.alerted ↔ j.reported) ∧ (j.alerted ↔ j.violates)

/-- The limits that apply lie on one side of the speed.  Without a threshold of the tenant nothing
may be an overspeed, for the report has no limit then. -/
def Judged.OneLimit (j : Judged) : Prop :=
  let limit := j.vehicle.maxSpeed.getD 0
  let threshold := companySpeedThreshold j.settings
  if 0 < threshold then
    if limit = 0 then j.settings.bind (·.idleThreshold) = none → j.speed ≤ threshold
    else j.speed ≤ min limit threshold ∨ max limit threshold < j.speed
  else j.speed ≤ 80 ∧ j.speed ≤ limit

variable (j : Judged)

theorem companySpeedThreshold_nonneg (settings : Option SettingsRecord) :
    0 ≤ companySpeedThreshold settings := by
  unfold companySpeedThreshold
  split
  · split <;> omega
  · exact le_refl 0

/-- The limit of the engine: the threshold, or 80. -/
theorem speedLimit_loadRules : j.arrival.loadRules.speedLimit =
    if 0 < companySpeedThreshold j.settings then companySpeedThreshold j.settings else 80 := by
  unfold Arrival.loadRules companySpeedThreshold
  rw [j.loaded]
  cases j.settings with
  | none => rfl
  | some settings =>
      cases hspeed : settings.speedThreshold with
      | none => simp [SettingsRecord.loaded, hspeed, defaultSpeedLimit]
      | some limit => by_cases hlimit : 0 < limit <;>
          simp [SettingsRecord.loaded, hspeed, hlimit, defaultSpeedLimit]

theorem alerted_iff :
    j.alerted ↔ (j.arrival.loadRules.speedLimit : ℚ) < j.speed := by
  have hpos : 0 < j.arrival.loadRules.speedLimit := by
    rw [speedLimit_loadRules]
    split <;> omega
  have hrested : AlertType.overspeed.cooldown < sub j.arrival.now zeroInstant := by
    rw [sub_zeroInstant]
    exact AlertType.overspeed.cooldown_lt.2
  have hrules : rulesAt [] j.arrival = j.arrival.loadRules := by
    simp [rulesAt, Engine.after, Engine.rules, Engine.new]
  have hbreach : Breach j.arrival.loadRules j.arrival.event .overspeed ↔
      (j.arrival.loadRules.speedLimit : ℚ) < j.speed := by
    rw [← j.live]
    exact and_iff_right hpos
  rw [Judged.alerted, raised_iff, hrules, stateAt_nil, Fires, Due, AlertType.last_zero,
    and_iff_left hrested, and_iff_left (by simp), hbreach]

theorem logged_iff : j.logged ↔
    0 < logSpeedLimit j.vehicle j.settings ∧ (logSpeedLimit j.vehicle j.settings : ℚ) < j.speed := by
  rw [Judged.logged, logStatus, j.stored]
  simp only [Option.getD_some]
  split
  · rename_i hover
    exact iff_of_true rfl hover
  · rename_i hover
    refine iff_of_false ?_ hover
    cases j.position.temperature with
    | none => simp
    | some temperature =>
        dsimp only
        split <;> simp

theorem exceeds_iff (limit : ℚ) : j.position.exceeds limit = true ↔ limit < j.speed := by
  simp [PositionRecord.exceeds, j.stored]

theorem reported_iff : j.reported ↔
    0 < companySpeedThreshold j.settings ∧ (companySpeedThreshold j.settings : ℚ) < j.speed := by
  simp [Judged.reported, reportsOverspeed, exceeds_iff]

/-- The threshold goes before the vehicle's limit, if both thresholds are set. -/
theorem logSpeedLimit_eq (hthreshold : 0 < companySpeedThreshold j.settings) :
    logSpeedLimit j.vehicle j.settings =
      if j.settings.bind (·.idleThreshold) = none then j.vehicle.maxSpeed.getD 0
      else companySpeedThreshold j.settings := by
  unfold logSpeedLimit
  unfold companySpeedThreshold at hthreshold ⊢
  cases hsettings : j.settings with
  | none => simp [hsettings] at hthreshold
  | some settings =>
      cases hspeed : settings.speedThreshold with
      | none => simp [hsettings, hspeed] at hthreshold
      | some speed =>
          have hpos : 0 < speed := by
            by_contra hnot
            simp [hsettings, hspeed, hnot] at hthreshold
          cases hidle : settings.idleThreshold with
          | none => simp [hspeed, hidle]
          | some idle => simp [hspeed, hidle, hpos]

theorem logSpeedLimit_of_none (hthreshold : ¬0 < companySpeedThreshold j.settings) :
    logSpeedLimit j.vehicle j.settings = j.vehicle.maxSpeed.getD 0 := by
  unfold logSpeedLimit
  unfold companySpeedThreshold at hthreshold
  cases hsettings : j.settings with
  | none => simp
  | some settings =>
      cases hspeed : settings.speedThreshold with
      | none => simp [hspeed]
      | some speed =>
          have hnot : ¬0 < speed := by
            intro hpos
            simp [hsettings, hspeed, hpos] at hthreshold
          cases hidle : settings.idleThreshold with
          | none => simp [hspeed, hidle]
          | some idle => simp [hspeed, hidle, hnot]

theorem violationLimit_eq (threshold : Int) : violationLimit j.vehicle threshold =
    if j.vehicle.maxSpeed.getD 0 = 0 then threshold else j.vehicle.maxSpeed.getD 0 := by
  unfold violationLimit
  cases j.vehicle.maxSpeed with
  | none => simp
  | some limit => rfl

/-- Two limits judge a speed alike exactly if it lies on one side of both. -/
theorem sides_iff (limit threshold : Int) (speed : ℚ) :
    ((threshold : ℚ) < speed ↔ (limit : ℚ) < speed) ↔
      speed ≤ ↑(min limit threshold) ∨ ↑(max limit threshold) < speed := by
  rw [Int.cast_min, Int.cast_max, le_min_iff, max_lt_iff]
  constructor
  · intro hiff
    by_cases hover : (limit : ℚ) < speed
    · exact .inr ⟨hover, hiff.2 hover⟩
    · exact .inl ⟨not_lt.1 hover, not_lt.1 fun h => hover (hiff.1 h)⟩
  · rintro (⟨hlimit, hthreshold⟩ | ⟨hlimit, hthreshold⟩)
    · exact iff_of_false (not_lt.2 hthreshold) (not_lt.2 hlimit)
    · exact iff_of_true hthreshold hlimit

/-- With a threshold, the log and the query for violations may take the limit of the vehicle. -/
theorem agree_iff_of_threshold (hlimit : 0 ≤ j.vehicle.maxSpeed.getD 0)
    (hthreshold : 0 < companySpeedThreshold j.settings) : j.Agree ↔ j.OneLimit := by
  unfold Judged.Agree Judged.OneLimit
  rw [alerted_iff, logged_iff, reported_iff, Judged.violates, exceeds_iff, speedLimit_loadRules,
    violationLimit_eq, logSpeedLimit_eq j hthreshold]
  generalize j.vehicle.maxSpeed.getD 0 = limit at *
  generalize companySpeedThreshold j.settings = threshold at *
  by_cases hzero : limit = 0
  · subst hzero
    by_cases hidle : j.settings.bind (·.idleThreshold) = none <;> simp [hidle, hthreshold]
  · have hpos : 0 < limit := by omega
    rw [if_pos hthreshold, if_pos hthreshold, if_neg hzero, if_neg hzero, ← sides_iff]
    by_cases hidle : j.settings.bind (·.idleThreshold) = none <;>
      simp [hidle, hthreshold, hpos]

/-- Without one the report has no limit, so none of the others may be exceeded. -/
theorem agree_iff_of_none (hthreshold : ¬0 < companySpeedThreshold j.settings) :
    j.Agree ↔ j.OneLimit := by
  have hzero : companySpeedThreshold j.settings = 0 := by
    have := companySpeedThreshold_nonneg j.settings
    omega
  unfold Judged.Agree Judged.OneLimit
  rw [alerted_iff, logged_iff, reported_iff, Judged.violates, exceeds_iff, speedLimit_loadRules,
    violationLimit_eq, logSpeedLimit_of_none j hthreshold, hzero]
  generalize j.vehicle.maxSpeed.getD 0 = limit at *
  have hover : ((if limit = 0 then (0 : Int) else limit : Int) : ℚ) = limit := by
    by_cases h : limit = 0 <;> simp [h]
  rw [hover]
  simp only [lt_self_iff_false, if_false, false_and, iff_false, not_lt, Int.cast_ofNat]
  constructor
  · rintro ⟨-, hdefault, hviolates⟩
    exact ⟨hdefault, not_lt.1 fun h => absurd hdefault (not_le.2 (hviolates.2 h))⟩
  · rintro ⟨hdefault, hle⟩
    have hnot : ¬(80 : ℚ) < j.speed := not_lt.2 hdefault
    have hnot' : ¬(limit : ℚ) < j.speed := not_lt.2 hle
    simp [hnot, hnot', hdefault]

/-- **The four judge a position alike exactly if its speed lies on one side of the limits that
apply.** -/
theorem agree_iff_oneLimit (hmax : ∀ limit, j.vehicle.maxSpeed = some limit → 0 ≤ limit) :
    j.Agree ↔ j.OneLimit := by
  have hlimit : 0 ≤ j.vehicle.maxSpeed.getD 0 := by
    cases hv : j.vehicle.maxSpeed with
    | none => simp
    | some limit => exact hmax limit hv
  by_cases hthreshold : 0 < companySpeedThreshold j.settings
  · exact agree_iff_of_threshold j hlimit hthreshold
  · exact agree_iff_of_none j hthreshold

/-- A vehicle at a speed, with thresholds of 80 km/h and 20 minutes. -/
def fastPosition (maxSpeed : Option Int) (speed : ℚ) : Judged where
  vehicle := { (default : VehicleRecord) with maxSpeed := maxSpeed }
  settings := some ⟨1, some 20, some 80⟩
  position := ⟨0, 7, 0, 0, some speed, none, none, none, some true, none, none, none, none, none,
    none, none, none, none⟩
  speed := speed
  arrival := ⟨⟨1, 7, "GJ-01", 0, 0, speed, 0, true, "moving", none, none, none, none, none, 0, 0⟩,
    0, 0, 0, some (80, 20)⟩
  stored := rfl
  live := rfl
  loaded := rfl

theorem agree_iff_oneLimit_fast : (fastPosition (some 80) 90).Agree := by
  refine (agree_iff_oneLimit _ (by simp [fastPosition])).2 ?_
  norm_num [Judged.OneLimit, fastPosition, companySpeedThreshold]

/-- At 90 km/h a vehicle that may drive 100 is no violation, but an alert. -/
theorem not_agree_fast : ¬(fastPosition (some 100) 90).Agree := by
  have hviolates : ¬(fastPosition (some 100) 90).violates := by
    rw [Judged.violates, exceeds_iff, violationLimit_eq]
    norm_num [fastPosition]
  have halerted : (fastPosition (some 100) 90).alerted := by
    rw [alerted_iff, speedLimit_loadRules]
    norm_num [fastPosition, companySpeedThreshold]
  rintro ⟨-, -, hagree⟩
  exact hviolates (hagree.1 halerted)

end RudraNetra
