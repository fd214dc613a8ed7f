/-
The vehicle list and its pages: `listVehiclesHandler` of `internal/handler/handlers.go`.

A query orders its rows by the id of the vehicle and by nothing else, so rows of one vehicle come
in any order, and each query may take another.
-/
import RudraNetra.Api.Reports

namespace RudraNetra

open SQL

/-- A query at its time.  Rows that are alike to it come in an order of its own. -/
structure Fleet.Query (fleet : Fleet) where
  now : Int
  tie : TieBreak PositionRecord
  drivers : List DriverRecord
  drivers_perm : drivers.Perm fleet.drivers

variable {fleet : Fleet}

/-- The tables in the order in which the query reads them. -/
def Fleet.Query.tables (q : fleet.Query) : Fleet := { fleet with drivers := q.drivers }

/-- What `ListByCompany` returns. -/
def Fleet.Query.page (q : fleet.Query) (companyID limit offset : Int) :
    List VehicleWithTelemetry :=
  q.tables.listByCompany q.tie q.now companyID limit offset

/-- The same listing without a limit. -/
def Fleet.Query.listing (q : fleet.Query) (companyID : Int) : List VehicleWithTelemetry :=
  q.tables.withTelemetry q.tie q.now
    ((q.tables.ofCompany companyID).mergeSort fun v w => v.id ≤ w.id)

/-- The answer of `listVehiclesHandler`. -/
structure VehicleList where
  companyID : Int
  total : Nat
  count : Nat
  data : List VehicleWithTelemetry

/-- The list, for the `limit` and the `offset` of the query string. -/
def listVehiclesHandler (q : fleet.Query) (companyID : Int) (limit offset : String) :
    VehicleList :=
  let limit := atoiDefault limit 500
  let offset := atoiDefault offset 0
  let limit := if limit ≤ 0 ∨ limit > 1000 then 500 else limit
  let vehicles := q.page companyID limit offset
  { companyID := companyID
    total := fleet.countByCompany companyID
    count := vehicles.length
    data := vehicles }

/-- The pages with an offset below the count, each by a query of its own. -/
def Fleet.pages (fleet : Fleet) (companyID : Int) (limit : Nat) (queries : Nat → fleet.Query) :
    List VehicleWithTelemetry :=
  (List.range ((fleet.countByCompany companyID + limit - 1) / limit)).flatMap fun k =>
    (queries k).page companyID limit (k * limit)

end RudraNetra
