/-
The export of a report: `exportReportHandler` of `internal/handler/handlers_admin.go`.

A text is a Go string here, so it is any bytes.  What a row has under a key is printed with
`%v`, which is a parameter; a key that the row has not prints as `nil` does.
-/
import RudraNetra.Api.Server
import RudraNetra.Lib.CSV
import RudraNetra.Lib.GoJSON

namespace RudraNetra.API

structure ReportColumn where
  key : String
  label : List UInt8

/-- A report whose rows have values of any type under their keys. -/
structure ReportResult (V : Type) where
  columns : List ReportColumn
  rows : List (String → Option V)

section

variable {V : Type} (print : V → List UInt8)

/-- `fmt.Sprintf("%v", v)` -/
def sprintV : Option V → List UInt8
  | some v => print v
  | none => Go.bytesOf "<nil>"

/-- Whether a value has a comma, a quote or a line feed. -/
def needsQuotes (s : List UInt8) : Bool := s.any fun b => b = 0x2C ∨ b = 0x22 ∨ b = 0x0A

/-- A value between commas; quotes are doubled inside of quotes. -/
def csvValue (s : List UInt8) : List UInt8 :=
  if needsQuotes s then
    [0x22] ++ s.flatMap (fun b => if b = 0x22 then [0x22, 0x22] else [b]) ++ [0x22]
  else s

/-- The text of the file. -/
def ReportResult.csv (res : ReportResult V) : List UInt8 :=
  let headers := res.columns.map (·.label)
  [0x2C].intercalate headers ++ [0x0A] ++
    res.rows.flatMap fun row =>
      let vals := res.columns.map fun col => csvValue (sprintV print (row col.key))
      [0x2C].intercalate vals ++ [0x0A]

/-- A file that is sent. -/
structure Download where
  disposition : String
  contentType : String
  body : List UInt8

/-- The answer with a report that `buildReport` makes of the request, the company and the type,
unless a query fails; `today` is the date as `20060102`. -/
def exportReportHandler (pool : Bool) (today : String)
    (buildReport : Request → Int → String → Option (ReportResult V)) (r : Request) :
    Except Response Download :=
  if !pool then .error (.failure 503 "database unavailable")
  else
    match companyScope r with
    | some error => .error error
    | none =>
      match buildReport r (getEffectiveCompanyID r) r.type with
      | none => .error serverError
      | some res => .ok
        ⟨"attachment; filename=\"report-" ++ r.type ++ "-" ++ today ++ ".csv\"",
          "text/csv; charset=utf-8", res.csv print⟩

end

end RudraNetra.API
