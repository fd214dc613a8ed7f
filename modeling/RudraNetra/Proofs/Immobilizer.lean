/-
Which commands stop a vehicle, and which of them ask for the PIN.

The handler asks for the PIN by the type of the command, and the device obeys what the
type is translated to.  Types without a translation are sent as they are, so that the
payloads of the protected types can be sent without one (`authorized_iff`).
-/
import RudraNetra.Ingest.Commands

namespace RudraNetra

/-- The payloads of the types for which a PIN is asked. -/
def Immobilizes (payload : String) : Prop :=
  payload = commandPayload "IEngineOff" ∨ payload = commandPayload "IDoorOff"

/-- The types that are such a payload themselves. -/
def RawImmobilizer (commandType : String) : Prop :=
  commandType = "setdigout 1" ∨ commandType = "setdigout 001"

/-- The company has a PIN, and the request carries it. -/
def Authorized (req : CommandRequest) (pin : Option String) : Prop :=
  pin.getD "" ≠ "" ∧ req.pin = pin.getD ""

/-- All types with a payload that stops the vehicle. -/
theorem immobilizes_iff (commandType : String) : Immobilizes (commandPayload commandType) ↔
    (commandType = "IEngineOff" ∨ commandType = "IDoorOff") ∨ RawImmobilizer commandType := by
  have hengine : commandPayload "IEngineOff" = "setdigout 1" := rfl
  have hdoor : commandPayload "IDoorOff" = "setdigout 001" := rfl
  rw [Immobilizes, RawImmobilizer, hengine, hdoor]
  unfold commandPayload
  split_ifs <;> simp_all

/-- Requests of the protected types are accepted with the PIN only. -/
theorem authorized_of_checkCommand {req : CommandRequest} {pin : Option String}
    {imei : Option (List UInt8)} {r : Int × List UInt8 × String}
    (h : checkCommand req pin imei = .ok r)
    (hprotected : req.commandType = "IEngineOff" ∨ req.commandType = "IDoorOff") :
    Authorized req pin := by
  by_contra hno
  have hbad : pin.getD "" = "" ∨ req.pin ≠ pin.getD "" := by
    rw [Authorized, not_and_or, not_not] at hno
    exact hno
  unfold checkCommand at h
  split at h
  · simp at h
  · split_ifs at h
    simp_all

/-- An accepted request is sent the payload of its type. -/
theorem payload_of_checkCommand {req : CommandRequest} {pin : Option String}
    {imei : Option (List UInt8)} {r : Int × List UInt8 × String}
    (h : checkCommand req pin imei = .ok r) : r.2.2 = commandPayload req.commandType := by
  unfold checkCommand at h
  split at h
  · simp at h
  · split_ifs at h
    split at h
    · simp at h
    · obtain rfl := Except.ok.inj h
      rfl

/-- What an accepted request stores and hands on for publication. -/
theorem issue_accepted {Conn : Type} [DecidableEq Conn] {s s' : CommandState Conn}
    {req : CommandRequest} {pin : Option String} {imei : Option (List UInt8)}
    {vehicleID : Option Int} {now : Int} {row : CommandRow} {msg : CommandMessage}
    (hstep : s.step (.issue req pin imei vehicleID now) = some s') (hrow : s'.rows = s.rows ++ [row])
    (hmsg : s'.unpublished = s.unpublished ++ [msg]) :
    row.commandPayload = commandPayload req.commandType ∧
      msg.command = commandPayload req.commandType ∧ ∃ r, checkCommand req pin imei = .ok r := by
  rw [CommandState.step] at hstep
  cases hcheck : checkCommand req pin imei with
  | error refusal =>
      simp only [hcheck, Option.some.injEq] at hstep
      subst hstep
      simp at hrow
  | ok r =>
      have hpayload := payload_of_checkCommand hcheck
      simp only [hcheck, Option.some.injEq] at hstep
      subst hstep
      obtain rfl := List.head_eq_of_cons_eq (List.append_cancel_left hrow)
      obtain rfl := List.head_eq_of_cons_eq (List.append_cancel_left hmsg)
      exact ⟨hpayload, hpayload, r, rfl⟩

/-- **The PIN is asked for, unless the type is the payload itself.**  What an accepted request stores
and publishes stops the vehicle only if the request carries the company's PIN, exactly if a type that
is such a payload comes with the PIN. -/
theorem authorized_iff {Conn : Type} [DecidableEq Conn] {s s' : CommandState Conn}
    {req : CommandRequest} {pin : Option String} {imei : Option (List UInt8)}
    {vehicleID : Option Int} {now : Int} {row : CommandRow} {msg : CommandMessage}
    (hstep : s.step (.issue req pin imei vehicleID now) = some s') (hrow : s'.rows = s.rows ++ [row])
    (hmsg : s'.unpublished = s.unpublished ++ [msg]) :
    (Immobilizes row.commandPayload ∨ Immobilizes msg.command → Authorized req pin) ↔
      (RawImmobilizer req.commandType → Authorized req pin) := by
  obtain ⟨hpayload, hcommand, r, hcheck⟩ := issue_accepted hstep hrow hmsg
  rw [hpayload, hcommand, or_self, immobilizes_iff]
  refine ⟨fun h hraw => h (.inr hraw), fun h himmobilizes => ?_⟩
  rcases himmobilizes with hprotected | hraw
  · exact authorized_of_checkCommand hcheck hprotected
  · exact h hraw

/-- A request of company 1 for a type of command to device 7. -/
def commandRequest (commandType pin : String) : CommandRequest := ⟨1, some 7, commandType, pin, "admin"⟩

/-- Without its translation the command stops the engine and asks for no PIN. -/
theorem rawCommand_bypassesPin : ∃ s' row msg,
    (commands Unit).init.step
        (.issue (commandRequest "setdigout 1" "") (some "4321") (some [0x31]) none 0) = some s' ∧
      s'.rows = (commands Unit).init.rows ++ [row] ∧
      s'.unpublished = (commands Unit).init.unpublished ++ [msg] ∧
      row.commandPayload = commandPayload "IEngineOff" ∧ msg.command = commandPayload "IEngineOff" ∧
      ¬ Authorized (commandRequest "setdigout 1" "") (some "4321") := by
  refine ⟨_, _, _, rfl, rfl, rfl, rfl, rfl, ?_⟩
  simp [Authorized, commandRequest]

/-- With the PIN the engine is stopped by its own type of command. -/
theorem authorized_iff_engineOff :
    (Immobilizes "setdigout 1" ∨ Immobilizes "setdigout 1" →
        Authorized (commandRequest "IEngineOff" "4321") (some "4321")) ↔
      (RawImmobilizer "IEngineOff" → Authorized (commandRequest "IEngineOff" "4321") (some "4321")) := by
  have hstep : (commands Unit).init.step
      (.issue (commandRequest "IEngineOff" "4321") (some "4321") (some [0x31]) none 0) = some _ := rfl
  exact authorized_iff hstep rfl rfl

end RudraNetra
