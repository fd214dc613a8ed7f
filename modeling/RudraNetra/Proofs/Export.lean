/-
The export of a report, read again.

A value with a comma, a quote or a line feed is put between quotes, where it is safe.  A
carriage return alone does not bring the quotes that it needs, and labels are never quoted: the
file has what the report has exactly if neither happens (`export_iff`).
-/
import RudraNetra.Api.Export

namespace RudraNetra.API

/-- CSV as RFC 4180 has it. -/
def rfc4180 : CSV.Dialect UInt8 := ⟨0x2C, 0x22, 0x0A, 0x0D, by decide⟩

example : rfc4180.parse (Go.bytesOf "a,\"b\"\"\r\n\"\r\n,c") =
    some [[Go.bytesOf "a", Go.bytesOf "b\"\r\n"], [[], Go.bytesOf "c"]] := by decide +kernel

section

variable {V : Type} (print : V → List UInt8)

/-- What the file is to have: the labels, and the values of each row. -/
def ReportResult.table (res : ReportResult V) : List (List (List UInt8)) :=
  res.columns.map (·.label) ::
    res.rows.map fun row => res.columns.map fun col => sprintV print (row col.key)

/-- The cells of the file. -/
def ReportResult.cells (res : ReportResult V) : List (List (CSV.Cell UInt8)) :=
  (res.columns.map fun col => ⟨col.label, false⟩) ::
    res.rows.map fun row => res.columns.map fun col =>
      ⟨sprintV print (row col.key), needsQuotes (sprintV print (row col.key))⟩

theorem csvValue_eq (s : List UInt8) : csvValue s = rfc4180.writeCell ⟨s, needsQuotes s⟩ := rfl

/-- The text of the file is that of its cells. -/
theorem csv_eq (res : ReportResult V) : res.csv print = rfc4180.writeFile (res.cells print) := by
  have hrecord : ∀ cell : ReportColumn → CSV.Cell UInt8,
      rfc4180.writeRecord (res.columns.map cell) =
        [0x2C].intercalate (res.columns.map fun col => rfc4180.writeCell (cell col)) ++ [0x0A] := by
    intro cell
    rw [CSV.Dialect.writeRecord, List.map_map]
    rfl
  rw [ReportResult.cells, CSV.Dialect.writeFile, List.flatMap_cons, List.flatMap_map]
  simp only [hrecord, ← csvValue_eq]
  rfl

theorem cells_text (res : ReportResult V) :
    (res.cells print).map (·.map (·.text)) = res.table print := by
  simp [ReportResult.cells, ReportResult.table, Function.comp_def]

end

/-- A label that may stand without quotes. -/
def LabelFits (label : List UInt8) : Prop :=
  0x2C ∉ label ∧ 0x22 ∉ label ∧ 0x0A ∉ label ∧ 0x0D ∉ label
deriving Decidable

/-- A value that is quoted if it has a carriage return. -/
def ValueFits (s : List UInt8) : Prop := 0x0D ∈ s → 0x2C ∈ s ∨ 0x22 ∈ s ∨ 0x0A ∈ s
deriving Decidable

theorem needsQuotes_iff {s : List UInt8} :
    needsQuotes s = true ↔ 0x2C ∈ s ∨ 0x22 ∈ s ∨ 0x0A ∈ s := by
  simp only [needsQuotes, List.any_eq_true, decide_eq_true_eq]
  constructor
  · rintro ⟨b, hb, rfl | rfl | rfl⟩
    · exact .inl hb
    · exact .inr (.inl hb)
    · exact .inr (.inr hb)
  · rintro (hb | hb | hb)
    · exact ⟨_, hb, .inl rfl⟩
    · exact ⟨_, hb, .inr (.inl rfl)⟩
    · exact ⟨_, hb, .inr (.inr rfl)⟩

theorem forall_ordinary_iff {s : List UInt8} :
    (∀ b ∈ s, rfc4180.Ordinary b) ↔ LabelFits s := by
  constructor
  · intro h
    exact ⟨fun hb => (h _ hb).1 rfl, fun hb => (h _ hb).2.1 rfl, fun hb => (h _ hb).2.2.1 rfl,
      fun hb => (h _ hb).2.2.2 rfl⟩
  · rintro ⟨hcomma, hquote, hlf, hcr⟩ b hb
    refine ⟨?_, ?_, ?_, ?_⟩ <;> rintro rfl
    · exact hcomma hb
    · exact hquote hb
    · exact hlf hb
    · exact hcr hb

theorem readable_value_iff {s : List UInt8} :
    rfc4180.Readable ⟨s, needsQuotes s⟩ ↔ ValueFits s := by
  rw [CSV.Dialect.Readable, needsQuotes_iff, forall_ordinary_iff]
  unfold LabelFits ValueFits
  tauto

/-- **An export has what the report has exactly if its labels need no quotes, and no value
needs them for a carriage return alone.** -/
theorem export_iff {V : Type} {print : V → List UInt8} {pool : Bool} {today : String}
    {buildReport : Request → Int → String → Option (ReportResult V)} {r : Request}
    {res : ReportResult V} {file : Download}
    (hbuild : buildReport r (getEffectiveCompanyID r) r.type = some res)
    (hcolumns : 2 ≤ res.columns.length)
    (hserve : exportReportHandler print pool today buildReport r = .ok file) :
    rfc4180.parse file.body = some (res.table print) ↔
      (∀ col ∈ res.columns, LabelFits col.label) ∧
        ∀ row ∈ res.rows, ∀ col ∈ res.columns, ValueFits (sprintV print (row col.key)) := by
  have hbody : file.body = res.csv print := by
    unfold exportReportHandler at hserve
    rw [hbuild] at hserve
    split at hserve
    · cases hserve
    · split at hserve
      · cases hserve
      · cases hserve
        rfl
  have hne : res.columns ≠ [] := List.ne_nil_of_length_pos (by omega)
  have hfile : ∀ cells ∈ res.cells print, cells ≠ [] := by
    simp [ReportResult.cells, hne]
  rw [hbody, csv_eq, ← cells_text, CSV.Dialect.parse_writeFile_iff hfile]
  simp only [ReportResult.cells, List.forall_mem_cons, List.forall_mem_map, readable_value_iff]
  refine and_congr_left fun _ => forall₂_congr fun col _ => ?_
  rw [← forall_ordinary_iff]
  simp [CSV.Dialect.Readable]

/-! ### Names of drivers -/

/-- A report of texts. -/
def textReport (columns : List (String × String)) (row : List (String × String)) :
    ReportResult String where
  columns := columns.map fun col => ⟨col.1, Go.bytesOf col.2⟩
  rows := [fun key => row.lookup key]

/-- The columns of the report on idling. -/
def idleColumns : List (String × String) :=
  [("regNumber", "Vehicle"), ("driver", "Driver"), ("from", "Idle From"), ("to", "Idle To"),
    ("idleMinutes", "Duration (Min)")]

/-- The report on idling, for a vehicle with this driver. -/
def idleReport (driver : String) : ReportResult String :=
  textReport idleColumns [("regNumber", "KA01"), ("driver", driver), ("from", "2026-01-05 10:00"),
    ("to", "2026-01-05 10:30"), ("idleMinutes", "30")]

/-- A report that ends with the driver. -/
def driverReport (driver : String) : ReportResult String :=
  textReport [("regNumber", "Vehicle"), ("driver", "Driver")]
    [("regNumber", "KA01"), ("driver", driver)]

/-- A request of company 1. -/
def exportRequest : Request where
  session := ⟨1, 1, "owner", "admin"⟩
  id := none
  type := "idle"
  companyID := none
  body := .error "EOF"

/-- The export of a report. -/
def exported (res : ReportResult String) : Except Response Download :=
  exportReportHandler Go.bytesOf true "20260105" (fun _ _ _ => some res) exportRequest

/-- What is read from an export. -/
def readBack (res : ReportResult String) : Option (List (List (List UInt8))) :=
  (exported res).toOption.bind fun file => rfc4180.parse file.body

/-- A carriage return inside a name leaves no CSV, and at the end of a record it is lost. -/
theorem returnedDriver_lost :
    readBack (idleReport "Asha\rRao") = none ∧
      readBack (driverReport "Asha\r") =
        some [[Go.bytesOf "Vehicle", Go.bytesOf "Driver"],
          [Go.bytesOf "KA01", Go.bytesOf "Asha"]] := by
  decide +kernel

/-- A name with everything that needs quotes is read as it is. -/
theorem quotedDriver_kept : ∃ file, exported (idleReport "Rao, \"Asha\"\r\n") = .ok file ∧
    rfc4180.parse file.body = some ((idleReport "Rao, \"Asha\"\r\n").table Go.bytesOf) := by
  let res := idleReport "Rao, \"Asha\"\r\n"
  let buildReport : Request → Int → String → Option (ReportResult String) := fun _ _ _ => some res
  have hserve : exportReportHandler Go.bytesOf true "20260105" buildReport exportRequest =
      .ok ⟨"attachment; filename=\"report-idle-20260105.csv\"", "text/csv; charset=utf-8",
        res.csv Go.bytesOf⟩ := by rfl
  exact ⟨_, hserve, (export_iff rfl (by decide) hserve).mpr (by decide +kernel)⟩

end RudraNetra.API
