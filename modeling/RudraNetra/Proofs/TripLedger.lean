/-
The ledger of the fleet's trips.

The balance of a trip should be its freight less the advance and the expenses.  The handlers compute
it from the amounts of the request, and each column is rounded to cents on its own.  So
the balance of a new trip is right if the errors of the two amounts are close, and that of
a changed trip unless the expense ends in half a cent and the balance stays positive
(`ledger_balanced_iff`).
-/
import RudraNetra.Api.Routes
import RudraNetra.Lib.Machine
import RudraNetra.Lib.Rounding
import RudraNetra.Proofs.Statements

namespace RudraNetra.API

open SQL Effect

/-! ### Amounts in cents -/

/-- So many cents in a `NUMERIC` column. -/
def inCents (n : ℤ) : Datum := .real (n / 100)

theorem cents_eq (x : ℚ) : cents x = roundAway (x * 100) / 100 := by
  unfold cents roundAway
  have hsign : 0 ≤ x ↔ 0 ≤ x * 100 := by
    constructor <;> intro h <;> linarith
  by_cases hx : 0 ≤ x
  · rw [if_pos hx, if_pos (hsign.1 hx)]
  · rw [if_neg hx, if_neg (mt hsign.2 hx), neg_mul, Int.cast_neg, neg_div]

theorem money_eq (x : ℚ) : money x = inCents (roundAway (x * 100)) := by
  rw [money, cents_eq, inCents]

/-- What is added to cents that are not negative adds its own cents. -/
theorem money_add {n : ℤ} (hn : 0 ≤ n) {x : ℚ} (hx : 0 ≤ x) :
    money (n / 100 + x) = inCents (n + roundAway (x * 100)) := by
  have hscale : (n / 100 + x) * 100 = n + x * 100 := by ring
  have hn' : (0 : ℚ) ≤ n := by exact_mod_cast hn
  rw [money_eq, hscale, (roundAway_int_add_iff n (by linarith)).2 (.inr (by linarith))]

theorem money_sub (n : ℤ) (x : ℚ) : money (n / 100 - x) = inCents (roundAway (n - x * 100)) := by
  have hscale : (n / 100 - x) * 100 = n - x * 100 := by ring
  rw [money_eq, hscale]

/-- An amount does not end in half a cent, or what is left is below zero. -/
def Clean (x left : ℚ) : Prop := roundingError (x * 100) ≠ -(1 / 2) ∨ left < 0

/-- Cents less an amount have the cents of the amount taken off exactly if it is clean. -/
theorem clean_iff {n : ℤ} {x : ℚ} (hx : 0 ≤ x) :
    roundAway (n - x * 100) = n - roundAway (x * 100) ↔ Clean x (n / 100 - x) := by
  rw [roundAway_int_sub_iff n (by linarith), Clean]
  have hsign : (n : ℚ) - x * 100 < 0 ↔ (n / 100 - x : ℚ) < 0 := by
    constructor <;> intro h <;> linarith
  rw [hsign]

/-! ### The amounts of a trip -/

/-- The balance of a trip is its freight less the advance and the expenses. -/
def Balanced (row : Row Datum) : Prop :=
  ∃ freight advance expense : ℚ, realOf row "freight_amount" = some freight ∧
    realOf row "advance_amount" = some advance ∧ realOf row "expense_amount" = some expense ∧
    realOf row "balance_amount" = some (freight - advance - expense)

/-- The amounts of a trip, in cents. -/
structure Amounts (row : Row Datum) (freight advance expense balance : ℤ) : Prop where
  freight : row "freight_amount" = some (inCents freight)
  advance : row "advance_amount" = some (inCents advance)
  expense : row "expense_amount" = some (inCents expense)
  balance : row "balance_amount" = some (inCents balance)

theorem realOf_inCents {row : Row Datum} {column : String} {n : ℤ}
    (h : row column = some (inCents n)) : realOf row column = some (n / 100 : ℚ) := by
  simp [realOf, h, inCents]

/-- A trip as the handlers leave it: amounts in cents, and expenses that are not negative. -/
def Kept (row : Row Datum) : Prop :=
  ∃ freight advance expense balance : ℤ, 0 ≤ expense ∧ Amounts row freight advance expense balance

section

variable {row : Row Datum} {freight advance expense balance : ℤ}

theorem Amounts.balanced_iff (h : Amounts row freight advance expense balance) :
    Balanced row ↔ balance = freight - advance - expense := by
  unfold Balanced
  rw [realOf_inCents h.freight, realOf_inCents h.advance, realOf_inCents h.expense,
    realOf_inCents h.balance]
  constructor
  · rintro ⟨f, a, e, hf, ha, he, hb⟩
    simp only [Option.some.injEq] at hf ha he hb
    have hcents : (balance : ℚ) = ((freight - advance - expense : ℤ) : ℚ) := by
      push_cast
      linarith
    exact_mod_cast hcents
  · intro hbalance
    refine ⟨_, _, _, rfl, rfl, rfl, ?_⟩
    rw [hbalance, Option.some.injEq]
    push_cast
    ring

theorem Amounts.create {now : Int} {columns : Columns} {freight advance : ℚ}
    (hfreight : columns.lookup "freight_amount" = some (some (money freight)))
    (hadvance : columns.lookup "advance_amount" = some (some (money advance)))
    (hexpense : columns.lookup "expense_amount" = some (some (money 0)))
    (hbalance : columns.lookup "balance_amount" = some (some (money (freight - advance)))) :
    Amounts (Table.row .fleetTrips now columns) (roundAway (freight * 100))
      (roundAway (advance * 100)) 0 (roundAway (freight * 100 - advance * 100)) where
  freight := by rw [Table.row, hfreight, money_eq]
  advance := by rw [Table.row, hadvance, money_eq]
  expense := by
    rw [Table.row, hexpense, money_eq, zero_mul]
    simpa using congrArg inCents (roundAway_intCast 0)
  balance := by rw [Table.row, hbalance, money_eq, sub_mul]

theorem Amounts.update (h : Amounts row freight advance expense balance) (status : String)
    (now : Int) {amount : ℚ} (hamount : 0 < amount) :
    Amounts (Assignments.apply
        [keepText "status" status, keepPositiveMoney "expense_amount" amount,
          ("balance_amount", balanceAfter amount), touch now] row)
      freight advance (roundAway (amount * 100))
      (roundAway ((freight - advance : ℤ) - amount * 100)) where
  freight := h.freight
  advance := h.advance
  expense := by
    show (if amount > 0 then some (money amount) else none).or _ = _
    rw [if_pos hamount, Option.some_or, money_eq]
  balance := by
    show balanceAfter amount row = _
    simp only [balanceAfter, if_pos hamount, realOf_inCents h.freight, realOf_inCents h.advance]
    show some (money (freight / 100 - advance / 100 - amount)) = _
    rw [← money_sub, Int.cast_sub, sub_div]

/-- Without an expense an update changes no amount. -/
theorem Amounts.update_none (h : Amounts row freight advance expense balance) (status : String)
    (now : Int) {amount : ℚ} (hamount : ¬0 < amount) :
    Amounts (Assignments.apply
        [keepText "status" status, keepPositiveMoney "expense_amount" amount,
          ("balance_amount", balanceAfter amount), touch now] row)
      freight advance expense balance where
  freight := h.freight
  advance := h.advance
  expense := by
    show (if amount > 0 then some (money amount) else none).or (row "expense_amount") = _
    rw [if_neg hamount, Option.none_or, h.expense]
  balance := by
    show balanceAfter amount row = _
    rw [balanceAfter, if_neg hamount, h.balance]

theorem Amounts.voucher (h : Amounts row freight advance expense balance) (now : Int)
    (hexpense : 0 ≤ expense) {amount : ℚ} (hamount : 0 < amount) :
    Amounts (Assignments.apply
        [("expense_amount", addedExpense amount), ("balance_amount", reducedBalance amount),
          touch now] row)
      freight advance (expense + roundAway (amount * 100))
      (roundAway ((freight - advance - expense : ℤ) - amount * 100)) where
  freight := h.freight
  advance := h.advance
  expense := by
    show addedExpense amount row = _
    simp only [addedExpense, realOf_inCents h.expense]
    show some (money (expense / 100 + amount)) = _
    rw [money_add hexpense hamount.le]
  balance := by
    have hleft : (freight / 100 - advance / 100 - (expense / 100 + amount) : ℚ) =
        ((freight - advance - expense : ℤ) : ℚ) / 100 - amount := by
      push_cast
      ring
    show reducedBalance amount row = _
    simp only [reducedBalance, realOf_inCents h.freight, realOf_inCents h.advance,
      realOf_inCents h.expense]
    show some (money (freight / 100 - advance / 100 - (expense / 100 + amount))) = _
    rw [hleft, money_sub]

end

/-! ### Requests that get through -/

/-- The next statements are not disturbed from outside. -/
def Undisturbed (n : Nat) (s : Server) : Prop := ∀ i < n, s.faults[i]? ≠ some true

theorem undisturbed_succ {n : Nat} {s t : Server} (h : t.faults = s.faults.tail) :
    Undisturbed (n + 1) s ↔ s.faults.head? ≠ some true ∧ Undisturbed n t := by
  unfold Undisturbed
  simp only [h, List.getElem?_tail, List.head?_eq_getElem?, Nat.forall_lt_succ_left]

theorem undisturbed_one {s : Server} : Undisturbed 1 s ↔ s.faults.head? ≠ some true := by
  simp [Undisturbed, List.head?_eq_getElem?]

theorem Undisturbed.mono {m n : Nat} {s : Server} (h : Undisturbed n s) (hle : m ≤ n) :
    Undisturbed m s :=
  fun i hi => h i (by omega)

/-- The row of a new trip. -/
def tripRow (s : Server) (r : Request) : Row Datum :=
  Table.row .fleetTrips s.now
    [("id", some (.int (s.serial .fleetTrips))),
      ("company_id", some (.int (getEffectiveCompanyID r))),
      ("trip_no",
        some (.text ("TRP-" ++ toString (Go.year s.now) ++ "-" ++ fourDigits (s.now % 10000)))),
      ("vehicle_id", nonZero (r.fields.int "vehicleId")),
      ("driver1_name", nonEmpty (r.fields.text "driver1Name")),
      ("driver2_name", nonEmpty (r.fields.text "driver2Name")),
      ("party_name", nonEmpty (r.fields.text "partyName")),
      ("source", nonEmpty (r.fields.text "source")),
      ("destination", nonEmpty (r.fields.text "destination")),
      ("planned_start", (r.fields.time "2006-01-02 15:04" "plannedStart").map .instant),
      ("planned_arrival", (r.fields.time "2006-01-02 15:04" "plannedArrival").map .instant),
      ("freight_amount", some (money (r.fields.real "freightAmount"))),
      ("advance_amount", some (money (r.fields.real "advanceAmount"))),
      ("expense_amount", some (money 0)),
      ("balance_amount",
        some (money (r.fields.real "freightAmount" - r.fields.real "advanceAmount"))),
      ("status", some (.text "In Transit"))]

/-- The row of a new voucher. -/
def voucherRow (s : Server) (r : Request) : Row Datum :=
  Table.row .tripVouchers s.now
    [("id", some (.int (s.serial .tripVouchers))),
      ("company_id", some (.int (getEffectiveCompanyID r))),
      ("trip_id", some (.int (r.fields.int "tripId"))),
      ("voucher_type", some (.text (r.fields.text "voucherType"))),
      ("amount", some (money (r.fields.real "amount"))),
      ("bill_no", nonEmpty (r.fields.text "billNo")),
      ("receipt_url", nonEmpty (r.fields.text "receiptUrl")),
      ("notes", nonEmpty (r.fields.text "notes"))]

/-- What an update changes in its trip. -/
def changeTrip (now : Int) (req : Fields) : List Assignment :=
  [keepText "status" (req.text "status"),
    keepPositiveMoney "expense_amount" (req.real "expenseAmount"),
    ("balance_amount", balanceAfter (req.real "expenseAmount")), touch now]

/-- What a voucher changes in its trip. -/
def chargeTrip (now : Int) (r : Request) : List Assignment :=
  [("expense_amount", addedExpense (r.fields.real "amount")),
    ("balance_amount", reducedBalance (r.fields.real "amount")), touch now]

theorem changeTrip_free (now : Int) (req : Fields) :
    schema.Free .fleetTrips (changeTrip now req) :=
  .of_columns ["status", "expense_amount", "balance_amount", "updated_at"] rfl (by decide)
    (by decide) (by decide)

theorem chargeTrip_free (now : Int) (r : Request) : schema.Free .fleetTrips (chargeTrip now r) :=
  .of_columns ["expense_amount", "balance_amount", "updated_at"] rfl (by decide) (by decide)
    (by decide)

/-- The trip that an update is about, if it is the company's. -/
def changedTrip (r : Request) : Condition Datum :=
  ownRow (r.id.getD 0) (getEffectiveCompanyID r)

/-- The trip that a voucher names, if it is the company's. -/
def namedTrip (r : Request) : Condition Datum :=
  ownRow (r.fields.int "tripId") (getEffectiveCompanyID r)

/-- A request to write to the ledger. -/
inductive TripRequest where
  | create
  | update
  | voucher

def TripRequest.endpoint : TripRequest → Endpoint
  | .create => .createFleetTrip
  | .update => .updateFleetTrip
  | .voucher => .createVoucher

/-- The request passes the checks, and neither the schema nor anything outside refuses it. -/
structure TripRequest.Taken (kind : TripRequest) (s : Server) (r : Request) : Prop where
  pool : s.pool = true
  checks : kind.endpoint.handler.refuses r = none
  statements :
    match kind with
    | .create => s.Clear ∧ schema.Fits s.db.tables .fleetTrips (tripRow s r)
    | .update => s.Clear
    | .voucher => Undisturbed 4 s ∧ schema.Fits s.db.tables .tripVouchers (voucherRow s r)

/-- The trips after a request that gets through. -/
def TripRequest.trips (kind : TripRequest) (s : Server) (r : Request) : List (Row Datum) :=
  let trips := s.db.tables .fleetTrips
  match kind with
  | .create => trips ++ [tripRow s r]
  | .update =>
    trips.map fun row =>
      if (changedTrip r).selects row then Assignments.apply (changeTrip s.now r.fields) row else row
  | .voucher =>
    trips.map fun row =>
      if (namedTrip r).selects row then Assignments.apply (chargeTrip s.now r) row else row

def TripRequest.vouchers (kind : TripRequest) (s : Server) (r : Request) : List (Row Datum) :=
  match kind with
  | .create | .update => s.db.tables .tripVouchers
  | .voucher => s.db.tables .tripVouchers ++ [voucherRow s r]

/-- The ledger after a request that gets through. -/
structure TripRequest.Leads (kind : TripRequest) (s : Server) (r : Request)
    (db : SQL.Database schema Datum) : Prop where
  trips : db.tables .fleetTrips = kind.trips s r
  vouchers : db.tables .tripVouchers = kind.vouchers s r

section

variable {s : Server} {r : Request}

theorem amount_pos (h : createVoucherHandler.refuses r = none) : 0 < r.fields.real "amount" := by
  have hchecks : ∀ check ∈ createVoucherHandler.checks, check r = none :=
    List.findSome?_eq_none_iff.mp h
  have hbound := bindWith_eq_none (hchecks _ (List.mem_cons_of_mem _ (List.mem_singleton_self _)))
  simp only [decide_eq_true_eq] at hbound
  exact hbound.2.2

theorem createVoucher_refuses {error : Response} (h : createVoucherHandler.refuses r = some error) :
    error.status = 400 := by
  obtain ⟨check, hcheck, herror⟩ := List.exists_of_findSome?_eq_some h
  simp only [createVoucherHandler, List.mem_cons, List.not_mem_nil, or_false] at hcheck
  rcases hcheck with rfl | rfl
  · exact companyScope_status herror
  · exact bindWith_status herror

/-- What is done in the transaction of a voucher. -/
def recordVoucher (r : Request) : Api Int := do
  let newID ← insertReturning .tripVouchers
    [("company_id", some (.int (getEffectiveCompanyID r))),
      ("trip_id", some (.int (r.fields.int "tripId"))),
      ("voucher_type", some (.text (r.fields.text "voucherType"))),
      ("amount", some (money (r.fields.real "amount"))),
      ("bill_no", nonEmpty (r.fields.text "billNo")),
      ("receipt_url", nonEmpty (r.fields.text "receiptUrl")),
      ("notes", nonEmpty (r.fields.text "notes"))]
  let _ ← exec (.update .fleetTrips (chargeTrip (← now) r) (namedTrip r))
  return newID

theorem createVoucher_work (r : Request) :
    createVoucherHandler.work r (getEffectiveCompanyID r) (r.id.getD 0) r.fields =
      transaction (recordVoucher r) >>= fun newID =>
        pure (.created newID "Expense voucher recorded and deducted from trip ledger") :=
  rfl

/-- The schema accepts a voucher exactly if its row fits. -/
theorem exec_voucher_iff (db : SQL.Database schema Datum) (row : Row Datum) :
    (∃ db' n, db.exec (.insert .tripVouchers row) = some (db', n)) ↔
      schema.Fits db.tables .tripVouchers row :=
  db.exec_insert_iff row (by decide)

theorem recordVoucher_cases (s : Server) (r : Request) :
    (∃ db n m s', (∀ k, Undisturbed (k + 2) s ↔ Undisturbed k s') ∧
      s.db.exec (.insert .tripVouchers (voucherRow s r)) = some (db, n) ∧
      db.exec (.update .fleetTrips (chargeTrip s.now r) (namedTrip r)) = some (s'.db, m) ∧
      s'.tx = s.tx ∧ outcome (recordVoucher r) s = (.ok (s.serial .tripVouchers), s')) ∨
    ∃ s', outcome (recordVoucher r) s = (.error serverError, s') ∧
      (s.tx ≠ some true → Undisturbed 2 s →
        ¬schema.Fits s.db.tables .tripVouchers (voucherRow s r)) := by
  unfold recordVoucher
  rcases outcome_insertReturning_cases s .tripVouchers _ with
    ⟨db, n, mid, hclear, hinsert, hout, rfl, hnow, htx, hfaults, -⟩ | ⟨s', hout, -, -, -, hrefused⟩
  · rw [outcome_bind_of_ok hout, outcome_bind, outcome_now]
    dsimp only
    rcases outcome_exec_cases mid (.update .fleetTrips (chargeTrip mid.now r) (namedTrip r)) with
      ⟨db, m, hclear', hupdate, hout'⟩ | ⟨hout', hrefused⟩
    · rw [outcome_bind_of_ok hout', outcome_pure]
      rw [hnow] at hupdate
      let after : Server := { mid with db := db, faults := mid.faults.tail }
      refine .inl ⟨mid.db, n, m, after, fun k => ?_, hinsert, hupdate, htx, rfl⟩
      have hmid : Undisturbed (k + 1) mid ↔ _ ∧ Undisturbed k after := undisturbed_succ rfl
      rw [undisturbed_succ hfaults, hmid, and_iff_right hclear.2, and_iff_right hclear'.2]
    · rw [outcome_bind_of_error hout']
      refine .inr ⟨_, rfl, fun htx' hfree _ => ?_⟩
      have hmid := ((undisturbed_succ hfaults).mp hfree).2
      obtain ⟨db, hexec⟩ := mid.db.exec_update (chargeTrip_free mid.now r) (namedTrip r)
      rw [hrefused ⟨htx ▸ htx', undisturbed_one.mp hmid⟩] at hexec
      simp at hexec
  · rw [outcome_bind_of_error hout]
    refine .inr ⟨_, rfl, fun htx hfree hfits => ?_⟩
    obtain ⟨db, n, hexec⟩ := (exec_voucher_iff s.db (voucherRow s r)).mpr hfits
    have hnone := hrefused ⟨htx, undisturbed_one.mp (hfree.mono (by omega))⟩
    exact absurd (hexec.symm.trans hnone) (by simp)

theorem createVoucher_cases (s : Server) (r : Request) :
    (∃ answer s' db n m, outcome (createVoucherHandler.serve r) s = (.ok answer, s') ∧
      answer.status = 201 ∧ TripRequest.voucher.Taken s r ∧
      s.db.exec (.insert .tripVouchers (voucherRow s r)) = some (db, n) ∧
      db.exec (.update .fleetTrips (chargeTrip s.now r) (namedTrip r)) = some (s'.db, m)) ∨
    ∃ error s', outcome (createVoucherHandler.serve r) s = (.error error, s') ∧
      400 ≤ error.status ∧ s'.db = s.db ∧ ¬TripRequest.voucher.Taken s r := by
  rcases outcome_serve_cases createVoucherHandler r s with
    ⟨error, hout, hwhy⟩ | ⟨hpool, hrefuses, hout⟩
  · refine .inr ⟨error, s, hout, ?_⟩
    rcases hwhy with ⟨hpool, rfl⟩ | hrefuses
    · exact ⟨by simp [Response.failure], rfl, fun htaken => by simp [htaken.pool] at hpool⟩
    · refine ⟨(createVoucher_refuses hrefuses).ge, rfl, fun htaken => ?_⟩
      exact absurd (htaken.checks.symm.trans hrefuses) (by simp)
  let begun : Server := { s with faults := s.faults.tail, tx := some false }
  rw [hout, createVoucher_work]
  have hbegun := recordVoucher_cases begun r
  rcases outcome_transaction_cases (recordVoucher r) s with
    ⟨id, s', t, hbegin, hbody, hcommit, htx, hdb⟩ | ⟨error, s', htx, hdb, hwhy, hnot⟩
  · rw [outcome_bind_of_ok htx]
    rcases hbegun with ⟨db, n, m, t', hfree, hinsert, hupdate, -, hrecorded⟩ | ⟨t', hrecorded, -⟩
    · obtain rfl : t = t' := congrArg Prod.snd (hbody.symm.trans hrecorded)
      have hfour : Undisturbed 4 s := (undisturbed_succ (t := begun) rfl).mpr
        ⟨hbegin, (hfree 1).mpr (undisturbed_one.mpr hcommit.2)⟩
      have hfits := (exec_voucher_iff s.db (voucherRow s r)).mp ⟨db, n, hinsert⟩
      exact .inl ⟨_, s', db, n, m, rfl, rfl, ⟨hpool, hrefuses, hfour, hfits⟩, hinsert,
        by rw [hdb]; exact hupdate⟩
    · exact absurd (congrArg Prod.fst (hbody.symm.trans hrecorded)) (by simp)
  · rw [outcome_bind_of_error htx]
    refine .inr ⟨error, s', rfl, ?_, hdb, fun htaken => ?_⟩
    · rcases hwhy with rfl | hbody
      · simp [serverError]
      · rcases hbegun with ⟨db, n, m, t', -, -, -, -, hrecorded⟩ | ⟨t', hrecorded, -⟩
        · exact absurd ((congrArg Prod.fst hrecorded).symm.trans hbody) (by simp)
        · obtain rfl : serverError = error := by
            simpa using (congrArg Prod.fst hrecorded).symm.trans hbody
          simp [serverError]
    · obtain ⟨hfour, hfits⟩ := htaken.statements
      obtain ⟨hbegin, hthree⟩ := (undisturbed_succ (t := begun) rfl).mp hfour
      rcases hbegun with ⟨db, n, m, t', hfree, -, -, htx', hrecorded⟩ | ⟨t', -, hrefused⟩
      · refine hnot _ t' hbegin hrecorded ⟨by simp [htx', begun], ?_⟩
        exact undisturbed_one.mp ((hfree 1).mp hthree)
      · exact hrefused (by simp [begun]) (hthree.mono (by omega)) hfits

end

/-! ### The trips after a request -/

section

variable (s : Server) (r : Request)

theorem createFleetTrip_cases :
    TripRequest.create.Taken s r ∧
      TripRequest.create.Leads s r (outcome (createFleetTripHandler.serve r) s).2.db ∨
    ¬TripRequest.create.Taken s r ∧ (outcome (createFleetTripHandler.serve r) s).2.db = s.db := by
  have hfits := s.db.exec_insert_iff (t := .fleetTrips) (tripRow s r) (by decide)
  rcases outcome_serve_cases createFleetTripHandler r s with
    ⟨error, hout, hwhy⟩ | ⟨hpool, hrefuses, hout⟩
  · rw [hout]
    refine .inr ⟨fun htaken => ?_, rfl⟩
    rcases hwhy with ⟨hpool, -⟩ | hrefuses
    · simp [htaken.pool] at hpool
    · exact absurd (htaken.checks.symm.trans hrefuses) (by simp)
  rw [hout]
  unfold createFleetTripHandler
  dsimp only
  rw [outcome_bind, outcome_now]
  dsimp only
  rcases outcome_insertReturning_cases s .fleetTrips _ with
    ⟨db, n, s', hclear, hinsert, hout, rfl, -⟩ | ⟨s', hout, hdb, -, -, hrefused⟩
  · rw [outcome_bind_of_ok hout, outcome_pure]
    refine .inl ⟨⟨hpool, hrefuses, hclear, hfits.mp ⟨_, n, hinsert⟩⟩, ?_, ?_⟩
    · exact (Database.insert_tables hinsert _).trans (if_pos rfl)
    · exact (Database.insert_tables hinsert _).trans (if_neg (by decide))
  · rw [outcome_bind_of_error hout]
    refine .inr ⟨fun htaken => ?_, hdb⟩
    obtain ⟨db, n, hexec⟩ := hfits.mpr htaken.statements.2
    exact absurd (hexec.symm.trans (hrefused htaken.statements.1)) (by simp)

theorem updateFleetTrip_cases :
    TripRequest.update.Taken s r ∧
      TripRequest.update.Leads s r (outcome (updateFleetTripHandler.serve r) s).2.db ∨
    ¬TripRequest.update.Taken s r ∧ (outcome (updateFleetTripHandler.serve r) s).2.db = s.db := by
  rcases outcome_serve_cases updateFleetTripHandler r s with
    ⟨error, hout, hwhy⟩ | ⟨hpool, hrefuses, hout⟩
  · rw [hout]
    refine .inr ⟨fun htaken => ?_, rfl⟩
    rcases hwhy with ⟨hpool, -⟩ | hrefuses
    · simp [htaken.pool] at hpool
    · exact absurd (htaken.checks.symm.trans hrefuses) (by simp)
  rw [hout]
  let work := updateFleetTripHandler.work r (getEffectiveCompanyID r) (r.id.getD 0) r.fields
  let change : SQL.Statement Table Datum :=
    .update .fleetTrips (changeTrip s.now r.fields) (changedTrip r)
  have hwork : (∃ n, s.Clear ∧ s.db.exec change = some ((outcome work s).2.db, n)) ∨
      (outcome work s).2.db = s.db ∧ (s.Clear → s.db.exec change = none) :=
    updateRow_cases _ .fleetTrips changeTrip _ _ s r _ _ _
  rcases hwork with ⟨n, hclear, hupdate⟩ | ⟨hdb, hrefused⟩
  · refine .inl ⟨⟨hpool, hrefuses, hclear⟩, ?_, ?_⟩
    · exact Database.update_tables hupdate
    · exact Database.update_other hupdate (by decide)
  · refine .inr ⟨fun htaken => ?_, hdb⟩
    obtain ⟨db, hexec⟩ := s.db.exec_update (changeTrip_free s.now r.fields) (changedTrip r)
    exact absurd (hexec.symm.trans (hrefused htaken.statements)) (by simp)

theorem leads_of_voucher {db db' : SQL.Database schema Datum} {n m : Nat}
    (hinsert : s.db.exec (.insert .tripVouchers (voucherRow s r)) = some (db, n))
    (hupdate : db.exec (.update .fleetTrips (chargeTrip s.now r) (namedTrip r)) = some (db', m)) :
    TripRequest.voucher.Leads s r db' where
  trips := by
    rw [Database.update_tables hupdate, Database.insert_tables hinsert, if_neg (by decide)]
    rfl
  vouchers := by
    rw [Database.update_other hupdate (by decide), Database.insert_tables hinsert, if_pos rfl]
    rfl

/-- The ledger is that of a request that gets through, and otherwise as before. -/
theorem after_cases (kind : TripRequest) :
    kind.Taken s r ∧ kind.Leads s r (s.after kind.endpoint r).db ∨
    ¬kind.Taken s r ∧ (s.after kind.endpoint r).db = s.db := by
  cases kind with
  | create => exact createFleetTrip_cases s r
  | update => exact updateFleetTrip_cases s r
  | voucher =>
      show TripRequest.voucher.Taken s r ∧
        TripRequest.voucher.Leads s r (outcome (createVoucherHandler.serve r) s).2.db ∨ _ ∧
        (outcome (createVoucherHandler.serve r) s).2.db = s.db
      rcases createVoucher_cases s r with
        ⟨answer, s', db, n, m, hout, -, htaken, hinsert, hupdate⟩ | ⟨error, s', hout, -, hdb, hnot⟩
      · rw [hout]
        exact .inl ⟨htaken, leads_of_voucher s r hinsert hupdate⟩
      · rw [hout]
        exact .inr ⟨hnot, hdb⟩

end

/-! ### Runs -/

/-- A request, and the server as it is found but for the database. -/
structure TripCall where
  kind : TripRequest
  request : Request
  circumstances : Server

def TripCall.finds (call : TripCall) (s : Server) : Server := { call.circumstances with db := s.db }

def TripCall.after (call : TripCall) (s : Server) : Server :=
  (call.finds s).after call.kind.endpoint call.request

def tripLedger (s₀ : Server) : Machine Server TripCall := ⟨s₀, fun s call => some (call.after s)⟩

/-- The amounts of a request that gets through make no cent go missing. -/
def ExactAmounts (s : Server) (call : TripCall) : Prop :=
  let req := call.request.fields
  call.kind.Taken (call.finds s) call.request →
    match call.kind with
    | .create => ErrorsClose (req.real "freightAmount" * 100) (req.real "advanceAmount" * 100)
    | .update => ∀ row ∈ s.db.tables .fleetTrips, (changedTrip call.request).selects row = true →
        0 < req.real "expenseAmount" → ∀ freight advance,
        realOf row "freight_amount" = some freight → realOf row "advance_amount" = some advance →
          Clean (req.real "expenseAmount") (freight - advance - req.real "expenseAmount")
    | .voucher => ∀ row ∈ s.db.tables .fleetTrips,
        (namedTrip call.request).selects row = true → ∀ freight advance expense,
        realOf row "freight_amount" = some freight → realOf row "advance_amount" = some advance →
        realOf row "expense_amount" = some expense →
          Clean (req.real "amount") (freight - advance - expense - req.real "amount")

/-- What an update that selects some rows makes of a property of all. -/
theorem forall_map_ite_iff {rows : List (Row Datum)} {selects : Row Datum → Bool}
    {f : Row Datum → Row Datum} {P : Row Datum → Prop} :
    (∀ row ∈ rows.map fun row => if selects row then f row else row, P row) ↔
      ∀ row ∈ rows, if selects row then P (f row) else P row := by
  simp only [List.mem_map, forall_exists_index, and_imp, forall_apply_eq_imp_iff₂]
  exact forall₂_congr fun row _ => by split <;> rfl

/-- A new trip is balanced exactly if the errors of its amounts are close. -/
theorem tripRow_balanced_iff (s : Server) (r : Request) :
    Balanced (tripRow s r) ↔
      ErrorsClose (r.fields.real "freightAmount" * 100) (r.fields.real "advanceAmount" * 100) := by
  have hamounts : Amounts (tripRow s r) _ _ 0 _ := .create rfl rfl rfl rfl
  rw [hamounts.balanced_iff, sub_zero, roundAway_sub_iff]

section

variable {row : Row Datum} {r : Request} (now : Int)

theorem kept_changeTrip (hkept : Kept row) :
    Kept (Assignments.apply (changeTrip now r.fields) row) := by
  obtain ⟨freight, advance, expense, balance, hexpense, hamounts⟩ := hkept
  by_cases hamount : 0 < r.fields.real "expenseAmount"
  · have hround : 0 ≤ roundAway (r.fields.real "expenseAmount" * 100) :=
      roundAway_nonneg (by linarith)
    exact ⟨_, _, _, _, hround, hamounts.update _ now hamount⟩
  · exact ⟨_, _, _, _, hexpense, hamounts.update_none _ now hamount⟩

theorem kept_chargeTrip (hamount : 0 < r.fields.real "amount") (hkept : Kept row) :
    Kept (Assignments.apply (chargeTrip now r) row) := by
  obtain ⟨freight, advance, expense, balance, hexpense, hamounts⟩ := hkept
  have hround : 0 ≤ roundAway (r.fields.real "amount" * 100) := roundAway_nonneg (by linarith)
  exact ⟨_, _, _, _, add_nonneg hexpense hround, hamounts.voucher now hexpense hamount⟩

/-- An update keeps the balance exactly if the expense it sets is clean. -/
theorem changeTrip_balanced_iff (hkept : Kept row) (hbalanced : Balanced row) :
    Balanced (Assignments.apply (changeTrip now r.fields) row) ↔
      (0 < r.fields.real "expenseAmount" → ∀ freight advance,
        realOf row "freight_amount" = some freight → realOf row "advance_amount" = some advance →
          Clean (r.fields.real "expenseAmount")
            (freight - advance - r.fields.real "expenseAmount")) := by
  obtain ⟨freight, advance, expense, balance, hexpense, hamounts⟩ := hkept
  by_cases hamount : 0 < r.fields.real "expenseAmount"
  · have hleft : (freight / 100 - advance / 100 : ℚ) = ((freight - advance : ℤ) : ℚ) / 100 := by
      rw [Int.cast_sub, sub_div]
    rw [changeTrip, (hamounts.update _ now hamount).balanced_iff, clean_iff hamount.le, ← hleft,
      realOf_inCents hamounts.freight, realOf_inCents hamounts.advance]
    constructor
    · rintro hclean - _ _ ⟨⟩ ⟨⟩
      exact hclean
    · exact fun hclean => hclean hamount _ _ rfl rfl
  · rw [changeTrip, (hamounts.update_none _ now hamount).balanced_iff, ← hamounts.balanced_iff]
    exact iff_of_true hbalanced fun hpos => absurd hpos hamount

/-- A voucher keeps the balance exactly if its amount is clean. -/
theorem chargeTrip_balanced_iff (hamount : 0 < r.fields.real "amount") (hkept : Kept row) :
    Balanced (Assignments.apply (chargeTrip now r) row) ↔
      ∀ freight advance expense, realOf row "freight_amount" = some freight →
        realOf row "advance_amount" = some advance → realOf row "expense_amount" = some expense →
          Clean (r.fields.real "amount")
            (freight - advance - expense - r.fields.real "amount") := by
  obtain ⟨freight, advance, expense, balance, hexpense, hamounts⟩ := hkept
  have hleft : (freight / 100 - advance / 100 - expense / 100 : ℚ) =
      ((freight - advance - expense : ℤ) : ℚ) / 100 := by
    push_cast
    ring
  rw [chargeTrip, (hamounts.voucher now hexpense hamount).balanced_iff, ← sub_sub,
    clean_iff hamount.le, ← hleft, realOf_inCents hamounts.freight,
    realOf_inCents hamounts.advance, realOf_inCents hamounts.expense]
  constructor
  · rintro hclean _ _ _ ⟨⟩ ⟨⟩ ⟨⟩
    exact hclean
  · exact fun hclean => hclean _ _ _ rfl rfl rfl

end

theorem kept_trips {kind : TripRequest} {s : Server} {r : Request} (htaken : kind.Taken s r)
    (hkept : ∀ row ∈ s.db.tables .fleetTrips, Kept row) : ∀ row ∈ kind.trips s r, Kept row := by
  cases kind with
  | create =>
      intro row hrow
      rcases List.mem_append.mp hrow with hold | hnew
      · exact hkept row hold
      · obtain rfl := List.mem_singleton.mp hnew
        exact ⟨_, _, 0, _, le_refl 0, .create rfl rfl rfl rfl⟩
  | update =>
      refine forall_map_ite_iff.mpr fun row hrow => ?_
      split
      · exact kept_changeTrip s.now (hkept row hrow)
      · exact hkept row hrow
  | voucher =>
      refine forall_map_ite_iff.mpr fun row hrow => ?_
      split
      · exact kept_chargeTrip s.now (amount_pos htaken.checks) (hkept row hrow)
      · exact hkept row hrow

theorem balanced_trips_iff {s : Server} {call : TripCall}
    (htaken : call.kind.Taken (call.finds s) call.request)
    (hkept : ∀ row ∈ s.db.tables .fleetTrips, Kept row)
    (hbalanced : ∀ row ∈ s.db.tables .fleetTrips, Balanced row) :
    (∀ row ∈ call.kind.trips (call.finds s) call.request, Balanced row) ↔ ExactAmounts s call := by
  rw [ExactAmounts, imp_iff_right htaken]
  obtain ⟨kind, r, circumstances⟩ := call
  cases kind with
  | create =>
      show (∀ row ∈ s.db.tables .fleetTrips ++ [tripRow _ r], Balanced row) ↔ _
      rw [List.forall_mem_append, List.forall_mem_singleton, and_iff_right hbalanced]
      exact tripRow_balanced_iff _ r
  | update =>
      refine forall_map_ite_iff.trans (forall₂_congr fun row hrow => ?_)
      split
      · rename_i hselects
        rw [imp_iff_right hselects]
        exact changeTrip_balanced_iff _ (hkept row hrow) (hbalanced row hrow)
      · rename_i hselects
        exact iff_of_true (hbalanced row hrow) fun hsel => absurd hsel hselects
  | voucher =>
      refine forall_map_ite_iff.trans (forall₂_congr fun row hrow => ?_)
      split
      · rename_i hselects
        rw [imp_iff_right hselects]
        exact chargeTrip_balanced_iff _ (amount_pos htaken.checks) (hkept row hrow)
      · rename_i hselects
        exact iff_of_true (hbalanced row hrow) fun hsel => absurd hsel hselects

/-- A request to company 1 about the trip with id 1. -/
def tripCall (kind : TripRequest) (amount : String → ℚ) : TripCall where
  kind := kind
  request := {
    session := ⟨9, 1, "dispatch", "admin"⟩
    id := some 1
    type := ""
    companyID := none
    body := .ok { Fields.empty with
      text := fun field => if field = "voucherType" then "fuel" else ""
      int := fun field => if field = "tripId" then 1 else 0
      real := amount } }
  circumstances := calm newCompany .lenient []

/-- A freight of 100, and an advance of 10.005. -/
def oddAdvance : TripCall :=
  tripCall .create fun field =>
    if field = "freightAmount" then 100 else if field = "advanceAmount" then 10005 / 1000 else 0

/-- The freight, the advance, the expenses and the balance of each trip. -/
def ledgerOf (s : Server) : List (Option ℚ × Option ℚ × Option ℚ × Option ℚ) :=
  (s.db.tables .fleetTrips).map fun row =>
    (realOf row "freight_amount", realOf row "advance_amount", realOf row "expense_amount",
      realOf row "balance_amount")

theorem oddAdvance_ledger :
    ledgerOf (oddAdvance.after (calm newCompany .lenient [])) =
      [(some 100, some (1001 / 100), some 0, some 90)] := by
  decide +kernel

/-- A trip, a voucher for it, and a correction of its expenses, all in cents. -/
def evenCalls : List TripCall :=
  [tripCall .create fun field =>
      if field = "freightAmount" then 100 else if field = "advanceAmount" then 81 / 4 else 0,
    tripCall .voucher fun _ => 41 / 4, tripCall .update fun _ => 61 / 2]

theorem evenCalls_exact :
    (tripLedger (calm newCompany .lenient [])).AllSteps ExactAmounts (calm newCompany .lenient [])
      evenCalls := by
  have hvoucher : roundingError (41 / 4 * 100) ≠ -(1 / 2) := by decide +kernel
  have hupdate : roundingError (61 / 2 * 100) ≠ -(1 / 2) := by decide +kernel
  have hcreate : ErrorsClose (100 * 100) (81 / 4 * 100) := by
    rw [← roundAway_sub_iff]
    decide +kernel
  refine fun s₁ _ => ⟨fun _ => hcreate, fun s₂ _ => ⟨fun _ row _ _ _ _ _ _ _ _ => .inl hvoucher,
    fun s₃ _ => ⟨fun _ row _ _ _ _ _ _ _ => .inl hupdate, trivial⟩⟩⟩

example : ((tripLedger (calm newCompany .lenient [])).run (calm newCompany .lenient [])
    evenCalls).map ledgerOf = some [(some 100, some (81 / 4), some (61 / 2), some (197 / 4))] := by
  decide +kernel

end RudraNetra.API
