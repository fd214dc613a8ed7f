/-
Cooldowns of the alerts that one event decides.

Overspeed, power cuts and temperatures are due whenever the event shows them.  So two
alerts of one type and device are more than a cooldown apart, nothing that the event shows
goes without an alert for longer than that, and alerts of other types and devices have no
part in it.
-/
import RudraNetra.Proofs.Alerts

namespace RudraNetra

open Go History

theorem dueFor_iff_breach {ty : AlertType} (hty : ty ≠ .overIdle) (pre : List Arrival) (a : Arrival) :
    DueFor ty a.event.deviceID pre a ↔ Breach (rulesAt pre a) a.event ty := by
  unfold DueFor Due
  rw [and_iff_right rfl, and_iff_left fun h => absurd h hty]

theorem raised_iff_breach {ty : AlertType} (hty : ty ≠ .overIdle) {pre : List Arrival}
    (horder : InOrder (fun a => (a.now : Int)) pre) (a : Arrival) :
    Raised ty pre a ↔ Breach (rulesAt pre a) a.event ty ∧
      ∀ x, Earlier (RaisedFor ty a.event.deviceID) pre x → ty.cooldown < a.now - x.now := by
  rw [← dueFor_iff_breach hty, ← raisedFor_iff horder]
  exact (and_iff_right rfl).symm

/-- **Cooldowns are exact.**  In any sequence of events in the order of their times, for each of
the types and every device: an event calls `raise` for itself, at most once with a type; alerts are
more than the cooldown apart; an event that shows the condition raises an alert, or one was raised
at most the cooldown before; and whether it does is a matter of the earlier alerts of its type and
device alone. -/
theorem cooldown_exact (tr : List Arrival) (horder : InOrder (fun a => (a.now : Int)) tr)
    (ty : AlertType) (hty : ty ≠ .overIdle) :
    (∀ pre y, (((Engine.after pre).evaluate y).2.map (·.alertType)).Nodup ∧
      ∀ call ∈ ((Engine.after pre).evaluate y).2, call.event = y.event) ∧
    (∀ before x mid y rest, tr = before ++ x :: (mid ++ y :: rest) →
      x.event.deviceID = y.event.deviceID → Raised ty before x →
      Raised ty (before ++ x :: mid) y → ty.cooldown < y.now - x.now) ∧
    (∀ pre y rest, tr = pre ++ y :: rest → Breach (rulesAt pre y) y.event ty →
      Raised ty pre y ∨ ∃ x, Earlier (RaisedFor ty y.event.deviceID) pre x ∧
        y.now - x.now ≤ ty.cooldown) ∧
    ∀ pre y rest, tr = pre ++ y :: rest → (Raised ty pre y ↔
      Breach (rulesAt pre y) y.event ty ∧
        ∀ x, Earlier (RaisedFor ty y.event.deviceID) pre x → ty.cooldown < y.now - x.now) := by
  have hexact : ∀ pre y rest, tr = pre ++ y :: rest → (Raised ty pre y ↔
      Breach (rulesAt pre y) y.event ty ∧
        ∀ x, Earlier (RaisedFor ty y.event.deviceID) pre x → ty.cooldown < y.now - x.now) := by
    rintro pre y rest rfl
    exact raised_iff_breach hty horder.left y
  refine ⟨fun pre y => applyRules_calls _ y _, ?_, ?_, hexact⟩
  · rintro before x mid y rest rfl hdevice hx hy
    have hsplit : before ++ x :: (mid ++ y :: rest) = (before ++ x :: mid) ++ y :: rest := by simp
    exact ((hexact _ _ _ hsplit).mp hy).2 x ⟨before, mid, rfl, hdevice, hx⟩
  · intro pre y rest hsplit hbreach
    by_cases hraised : Raised ty pre y
    · exact .inl hraised
    · rw [hexact pre y rest hsplit, and_iff_right hbreach, not_forall] at hraised
      obtain ⟨x, hx⟩ := hraised
      obtain ⟨hearlier, hnear⟩ := Classical.not_imp.mp hx
      exact .inr ⟨x, hearlier, Int.not_lt.mp hnear⟩

/-- A vehicle of company 1 at a speed, with its ignition on. -/
def drivingEvent (speed : ℚ) : LiveEvent :=
  ⟨1, 7, "GJ-01", 0, 0, speed, 0, true, "moving", none, none, none, none, none, 0, 0⟩

/-- It is evaluated at a time, with no settings. -/
def drivingAt (speed : ℚ) (now : Nat) : Arrival := ⟨drivingEvent speed, now, now, now, none⟩

/-- A vehicle at 100 km/h raises an alert, and none a minute later. -/
theorem cooldown_exact_driving :
    Raised .overspeed [] (drivingAt 100 0) ∧
      ¬ Raised .overspeed [drivingAt 100 0] (drivingAt 100 (60 * 10 ^ 9)) := by
  have horder : InOrder (fun a => (a.now : Int)) [drivingAt 100 0, drivingAt 100 (60 * 10 ^ 9)] := by
    simp [InOrder, drivingAt]
  have hexact := (cooldown_exact _ horder .overspeed (by simp)).2.2.2
  have hfirst : Raised .overspeed [] (drivingAt 100 0) := by
    refine (hexact [] _ [_] rfl).mpr ⟨⟨?_, ?_⟩, fun x hx => absurd hx (not_earlier_nil x)⟩
    · show (0 : Int) < 80
      norm_num
    · show ((80 : Int) : ℚ) < 100
      norm_num
  refine ⟨hfirst, fun hsecond => ?_⟩
  have hrested := ((hexact [_] _ [] rfl).mp hsecond).2 _ ⟨[], [], rfl, rfl, hfirst⟩
  exact absurd hrested (by decide)

end RudraNetra
