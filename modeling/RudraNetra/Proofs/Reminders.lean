/-
The list of the reminders and their report.

The list takes the days from the hours that are left and the status from the lead time of the
reminder, the report the days from the dates and the status from a lead time of its own.  They say
the same of a reminder exactly if neither makes a difference (`reminders_agree_iff`).
-/
import RudraNetra.Api.Reminders

namespace RudraNetra

variable {tables : ReminderTables} {companyID : Int}

/-- A row of the list and one of the report say the same. -/
def SaysSame (x : ReminderResp) (row : ReminderRow) : Prop :=
  x.daysRemaining = row.daysRemaining ∧ x.status = row.status

/-- The reminders of which the list and the report say the same. -/
structure ReminderRecord.Unambiguous (r : ReminderRecord) (now : Int) : Prop where
  flagged : r.isAcknowledged ≠ none
  days : Go.CountsDays (r.dueDate - now / Go.day) (now % Go.day)
  /-- A reminder that is neither acknowledged nor expired has a lead time that reaches as far as 15
  days do. -/
  lead : r.isAcknowledged = some true ∨ r.dueDate - now / Go.day < 0 ∨
    (r.dueDate - now / Go.day ≤ 15 ↔
      0 < r.alertBeforeDays.getD 0 ∧ r.dueDate - now / Go.day ≤ r.alertBeforeDays.getD 0)

theorem name_inj {s t : ReminderStatus} : s.name = t.name ↔ s = t := by
  cases s <;> cases t <;> simp [ReminderStatus.name]

/-- The statuses differ only by the lead times. -/
theorem status_eq_iff (ack : Bool) (days lead : Int) :
    listedStatus ack days lead = reportedStatus ack days ↔
      ack = true ∨ days < 0 ∨ (days ≤ 15 ↔ 0 < lead ∧ days ≤ lead) := by
  unfold listedStatus reportedStatus
  cases ack with
  | true => simp
  | false =>
    split_ifs <;> simp_all
    omega

theorem saysSame_iff (now : Int) (r : ReminderRecord) :
    (∃ row, tables.reported now r = some row ∧ SaysSame (tables.listed now r) row) ↔
      r.Unambiguous now := by
  have hdays := Go.wholeDays_sub_iff r.dueDate now
  cases hflag : r.isAcknowledged with
  | none =>
    refine iff_of_false ?_ fun h => h.flagged hflag
    simp [ReminderTables.reported, hflag]
  | some ack =>
    simp only [ReminderTables.reported, hflag, Option.map_some, Option.some.injEq, exists_eq_left',
      SaysSame, ReminderTables.listed, hdays, Option.getD_some]
    constructor
    · rintro ⟨hcounts, hstatus⟩
      rw [hdays.mpr hcounts, name_inj, status_eq_iff] at hstatus
      exact ⟨by simp [hflag], hcounts, by simpa [hflag] using hstatus⟩
    · rintro ⟨-, hcounts, hlead⟩
      refine ⟨hcounts, ?_⟩
      rw [hdays.mpr hcounts, name_inj, status_eq_iff]
      simpa [hflag] using hlead

/-- A list of rows that all scan, each to what is meant. -/
theorem forall₂_mapM_iff {α β γ : Type} {R : β → γ → Prop} {f : α → β} {g : α → Option γ}
    (rows : List α) :
    (∃ out, rows.mapM g = some out ∧ List.Forall₂ R (rows.map f) out) ↔
      ∀ r ∈ rows, ∃ row, g r = some row ∧ R (f r) row := by
  induction rows with
  | nil => simp
  | cons r rows ih =>
    rw [List.forall_mem_cons, ← ih]
    constructor
    · rintro ⟨out, hout, hall⟩
      simp only [List.mapM_cons, Option.bind_eq_bind, Option.bind_eq_some_iff, Option.pure_def,
        Option.some.injEq] at hout
      obtain ⟨row, hrow, out, hout, rfl⟩ := hout
      rw [List.map_cons, List.forall₂_cons] at hall
      exact ⟨⟨row, hrow, hall.1⟩, out, hout, hall.2⟩
    · rintro ⟨⟨row, hrow, hr⟩, out, hout, hall⟩
      exact ⟨row :: out, by simp [List.mapM_cons, hrow, hout], .cons hr hall⟩

/--
**The list and the report say the same of a reminder exactly if it is unambiguous**, and in the rows
that the report has room for exactly if all of these are.
-/
theorem reminders_agree_iff (tables : ReminderTables) (now : Int) :
    (∀ r : ReminderRecord,
      (∃ row, tables.reported now r = some row ∧ SaysSame (tables.listed now r) row) ↔
        r.Unambiguous now) ∧
    ∀ (companyID : Int) (query : tables.Query companyID),
      (∃ rows, reportReminders now query = some rows ∧
        List.Forall₂ SaysSame ((listRemindersHandler now query).take maxReportRows) rows) ↔
          ∀ r ∈ query.rows.take maxReportRows, r.Unambiguous now := by
  refine ⟨saysSame_iff now, fun companyID query => ?_⟩
  rw [listRemindersHandler, ← List.map_take, reportReminders, forall₂_mapM_iff]
  exact forall₂_congr fun r _ => saysSame_iff now r

/-- A certificate that is due on the second day of 1970. -/
def renewal : ReminderRecord where
  id := 1
  companyID := 1
  vehicleID := none
  reminderType := "PUC Emission"
  dueDate := 1
  dueKM := none
  alertBeforeDays := none
  alertBeforeKM := none
  notes := none
  isAcknowledged := some false

def oneRenewal : ReminderTables where
  vehicles := []
  drivers := []
  devices := []
  positions := []
  alerts := []
  ids_nodup := by decide
  reminders := [renewal]

/-- On the day before, the report has it due soon in a day.  For the list it is valid, and from the
first nanosecond of that day on there is no day left. -/
theorem renewal_ambiguous :
    ((oneRenewal.listed 0 renewal).daysRemaining = 1 ∧
      (oneRenewal.listed 0 renewal).status = "Valid" ∧
      (oneRenewal.reported 0 renewal).map (·.daysRemaining) = some 1 ∧
      (oneRenewal.reported 0 renewal).map (·.status) = some "Due Soon") ∧
    ((oneRenewal.listed 1 renewal).daysRemaining = 0 ∧
      (oneRenewal.reported 1 renewal).map (·.daysRemaining) = some 1) ∧
    ¬∀ now r, ∃ row, oneRenewal.reported now r = some row ∧
      SaysSame (oneRenewal.listed now r) row := by
  have hlist : (oneRenewal.listed 1 renewal).daysRemaining = 0 := by decide +kernel
  have hreport : (oneRenewal.reported 1 renewal).map (·.daysRemaining) = some 1 := by
    decide +kernel
  refine ⟨by decide +kernel, ⟨hlist, hreport⟩, fun h => ?_⟩
  obtain ⟨row, hrow, hsame, -⟩ := h 1 renewal
  rw [hrow, Option.map_some, ← hsame, hlist] at hreport
  exact absurd hreport (by decide)

end RudraNetra
