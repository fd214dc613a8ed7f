/-
Vouchers, and the expenses of the trips they are for.

A voucher is added and its trip charged in one transaction.  But the row is accepted if a trip with
the id is there at all, while only a trip of the company is charged.  So the two move
together exactly if the trip named is the company's own and has an expense to add to
(`vouchers_charge`).
-/
import RudraNetra.Proofs.TripLedger

namespace RudraNetra.API

open SQL Effect

/-- A voucher is refused and nothing is changed, or it is added and its amount too, to the expense
of its trip. -/
def MovesTogether (s : Server) (r : Request) : Prop :=
  (∃ error s', outcome (serve .createVoucher r) s = (.error error, s') ∧ 400 ≤ error.status ∧
    s'.db = s.db) ∨
  ∃ answer s' voucher trip trip' amount expense,
    outcome (serve .createVoucher r) s = (.ok answer, s') ∧ answer.status = 201 ∧
    s'.db.tables .tripVouchers = s.db.tables .tripVouchers ++ [voucher] ∧
    voucher "trip_id" = trip "id" ∧ realOf voucher "amount" = some amount ∧
    trip ∈ s.db.tables .fleetTrips ∧ (namedTrip r).selects trip = true ∧
    trip' ∈ s'.db.tables .fleetTrips ∧ trip' "id" = trip "id" ∧
    realOf trip "expense_amount" = some expense ∧
    realOf trip' "expense_amount" = some (expense + amount)

/-- The trip is the company's, and has an expense that the amount can be added to cent by cent. -/
def Chargeable (r : Request) (trip : Row Datum) : Prop :=
  (namedTrip r).selects trip = true ∧
    ∃ expense : ℤ, trip "expense_amount" = some (inCents expense) ∧
      (roundingError (r.fields.real "amount" * 100) ≠ -(1 / 2) ∨
        0 ≤ expense + r.fields.real "amount" * 100)

/-- A voucher that gets through names a trip that can be charged. -/
def ChargesOwn (s : Server) (r : Request) : Prop :=
  TripRequest.voucher.Taken s r → ∃ trip ∈ s.db.tables .fleetTrips, Chargeable r trip

section

variable {s : Server} {r : Request} {trip : Row Datum}

theorem voucherRow_amount (s : Server) (r : Request) :
    realOf (voucherRow s r) "amount" = some (cents (r.fields.real "amount")) :=
  rfl

/-- The expense of a trip that is charged. -/
theorem chargeTrip_expense {expense : ℚ} (h : realOf trip "expense_amount" = some expense)
    (now : Int) :
    realOf (Assignments.apply (chargeTrip now r) trip) "expense_amount" =
      some (cents (expense + r.fields.real "amount")) := by
  have hcolumn : Assignments.apply (chargeTrip now r) trip "expense_amount" =
      addedExpense (r.fields.real "amount") trip := rfl
  rw [realOf, hcolumn, addedExpense, h]
  rfl

theorem chargeTrip_id (now : Int) (trip : Row Datum) :
    Assignments.apply (chargeTrip now r) trip "id" = trip "id" :=
  rfl

/-- The cents of a sum are the sum of the cents exactly if the trip can be charged. -/
theorem chargeable_iff (hamount : 0 < r.fields.real "amount")
    (hselects : (namedTrip r).selects trip = true) :
    Chargeable r trip ↔ ∃ expense, realOf trip "expense_amount" = some expense ∧
      cents (expense + r.fields.real "amount") = expense + cents (r.fields.real "amount") := by
  have hscale : 0 ≤ r.fields.real "amount" * 100 := by linarith
  rw [Chargeable, and_iff_right hselects]
  constructor
  · rintro ⟨expense, hexpense, hclean⟩
    refine ⟨_, realOf_inCents hexpense, ?_⟩
    rw [cents_eq, cents_eq, add_mul, div_mul_cancel₀ _ (by norm_num),
      (roundAway_int_add_iff expense hscale).2 hclean, Int.cast_add, add_div]
  · rintro ⟨expense, hexpense, hadd⟩
    rw [cents_eq, cents_eq] at hadd
    -- The expense is a difference of two amounts in cents.
    obtain ⟨old, rfl⟩ : ∃ old : ℤ, expense = old / 100 := by
      refine ⟨roundAway ((expense + r.fields.real "amount") * 100) -
        roundAway (r.fields.real "amount" * 100), ?_⟩
      rw [Int.cast_sub]
      linarith
    refine ⟨old, eq_of_realOf hexpense, (roundAway_int_add_iff old hscale).1 ?_⟩
    rw [add_mul, div_mul_cancel₀ _ (by norm_num)] at hadd
    have hsum : (roundAway (old + r.fields.real "amount" * 100) : ℚ) =
        ((old + roundAway (r.fields.real "amount" * 100) : ℤ) : ℚ) := by
      push_cast
      linarith
    exact_mod_cast hsum

/-! ### One voucher -/

theorem namedTrip_id (h : (namedTrip r).selects trip = true) :
    trip "id" = some (.int (r.fields.int "tripId")) :=
  Condition.selects_iff.mp h ("id", _) (List.mem_cons_self ..)

/-- A trip with the id of a selected one is the selected one. -/
theorem eq_of_namedTrip {q : Row Datum} (hmem : trip ∈ s.db.tables .fleetTrips)
    (hselects : (namedTrip r).selects trip = true) (hq : q ∈ s.db.tables .fleetTrips)
    (hid : q "id" = trip "id") : q = trip := by
  have hunique : (Table.fleetTrips, ["id"]) ∈ schema.uniques := by decide
  refine s.db.valid.eq_of_agree hunique hq hmem ?_
  simp [Agree, hid, namedTrip_id hselects]

/-- **A voucher and its trip move together exactly if a voucher that gets through names a trip of
the company that can be charged.** -/
theorem movesTogether_iff (s : Server) (r : Request) : MovesTogether s r ↔ ChargesOwn s r := by
  rcases createVoucher_cases s r with
    ⟨answer, s', db, n, m, hout, hstatus, htaken, hinsert, hupdate⟩ |
      ⟨error, s', hout, hstatus, hdb, hnot⟩
  · have hleads := leads_of_voucher s r hinsert hupdate
    have hamount := amount_pos htaken.checks
    rw [ChargesOwn, imp_iff_right htaken]
    constructor
    · rintro (⟨error, s'', hout', -⟩ | ⟨answer', s'', voucher, trip, trip', amount, expense, hout',
        -, hvouchers, -, hvoucher, hmem, hselects, hmem', hid, hexpense, hexpense'⟩)
      · exact absurd (congrArg Prod.fst (hout.symm.trans hout')) (by simp)
      · obtain rfl : s' = s'' := congrArg Prod.snd (hout.symm.trans hout')
        have hrow : [voucher] = [voucherRow s r] :=
          List.append_cancel_left (hvouchers.symm.trans hleads.vouchers)
        obtain rfl := List.singleton_inj.mp hrow
        obtain rfl := Option.some.inj (hvoucher.symm.trans (voucherRow_amount s r))
        rw [hleads.trips] at hmem'
        obtain ⟨q, hq, rfl⟩ := List.mem_map.mp hmem'
        have hqid : q "id" = trip "id" := by split at hid <;> exact hid
        obtain rfl := eq_of_namedTrip hmem hselects hq hqid
        rw [if_pos hselects, chargeTrip_expense hexpense] at hexpense'
        exact ⟨q, hmem, (chargeable_iff hamount hselects).2
          ⟨expense, hexpense, Option.some.inj hexpense'⟩⟩
    · rintro ⟨trip, hmem, hcharge⟩
      obtain ⟨expense, hexpense, hadd⟩ := (chargeable_iff hamount hcharge.1).1 hcharge
      refine .inr ⟨answer, s', voucherRow s r, trip, Assignments.apply (chargeTrip s.now r) trip, _,
        expense, hout, hstatus, hleads.vouchers, ?_, voucherRow_amount s r, hmem, hcharge.1, ?_,
        chargeTrip_id s.now trip, hexpense, ?_⟩
      · exact (namedTrip_id hcharge.1).symm
      · rw [hleads.trips]
        exact List.mem_map.mpr ⟨trip, hmem, if_pos hcharge.1⟩
      · rw [chargeTrip_expense hexpense, hadd]
  · exact iff_of_true (.inl ⟨error, s', hout, hstatus, hdb⟩) fun htaken => absurd htaken hnot

end

/-! ### The sum of the vouchers -/

/-- The sum of the vouchers of a trip. -/
def voucherTotal (vouchers : List (Row Datum)) (id : Datum) : ℚ :=
  ((vouchers.filter (Condition.selects [("trip_id", id)])).map fun voucher =>
    (realOf voucher "amount").getD 0).sum

theorem voucherTotal_append (vouchers : List (Row Datum)) (voucher : Row Datum) (id : Datum) :
    voucherTotal (vouchers ++ [voucher]) id = voucherTotal vouchers id +
      if voucher "trip_id" = some id then (realOf voucher "amount").getD 0 else 0 := by
  unfold voucherTotal
  by_cases hid : voucher "trip_id" = some id <;> simp [hid, List.filter_append]

/-- The expense of each trip is the sum of its vouchers. -/
def AddsUp (db : SQL.Database schema Datum) : Prop :=
  ∀ trip ∈ db.tables .fleetTrips, ∀ id, trip "id" = some id →
    realOf trip "expense_amount" = some (voucherTotal (db.tables .tripVouchers) id)

section

variable {s : Server} {r : Request} {db : SQL.Database schema Datum}

theorem addsUp_create (htaken : TripRequest.create.Taken s r)
    (hleads : TripRequest.create.Leads s r db) (hadds : AddsUp s.db) : AddsUp db := by
  intro trip htrip id hid
  rw [hleads.trips] at htrip
  rw [hleads.vouchers]
  rcases List.mem_append.mp htrip with hold | hnew
  · exact hadds trip hold id hid
  obtain rfl := List.mem_singleton.mp hnew
  -- A voucher for the new trip would refer to a trip that had its id before.
  have hnone : ∀ voucher ∈ s.db.tables .tripVouchers,
      ¬Condition.selects [("trip_id", id)] voucher = true := by
    intro voucher hvoucher hselects
    have hnamed : voucher "trip_id" = some id := by simpa using hselects
    have hfk : (⟨.tripVouchers, "trip_id", .fleetTrips, .cascade⟩ : ForeignKey Table) ∈
        schema.foreignKeys := by simp [schema]
    rcases s.db.valid.refers _ hfk voucher hvoucher with hnull | ⟨old, hold, hsame⟩
    · simp [hnamed] at hnull
    · refine htaken.statements.2.unique (.fleetTrips, ["id"]) (by decide) rfl old hold ?_
      simp only at hsame
      simp [Agree, hsame, hnamed, hid]
  have hzero : voucherTotal (s.db.tables .tripVouchers) id = 0 := by
    rw [voucherTotal, List.filter_eq_nil_iff.mpr hnone, List.map_nil, List.sum_nil]
  have hnothing : cents 0 = 0 := by decide +kernel
  show realOf (tripRow s r) "expense_amount" = some (voucherTotal (s.db.tables .tripVouchers) id)
  rw [hzero]
  exact congrArg some hnothing

theorem addsUp_update (hamount : ¬0 < r.fields.real "expenseAmount")
    (hleads : TripRequest.update.Leads s r db) (hadds : AddsUp s.db) : AddsUp db := by
  intro trip htrip id hid
  rw [hleads.trips] at htrip
  rw [hleads.vouchers]
  obtain ⟨old, hold, rfl⟩ := List.mem_map.mp htrip
  split at hid
  · have hexpense : Assignments.apply (changeTrip s.now r.fields) old "expense_amount" =
        (if r.fields.real "expenseAmount" > 0 then some (money _) else none).or
          (old "expense_amount") := rfl
    rw [if_neg hamount, Option.none_or] at hexpense
    rw [if_pos ‹_›, realOf, hexpense]
    exact hadds old hold id hid
  · rw [if_neg ‹_›]
    exact hadds old hold id hid

theorem addsUp_voucher (htaken : TripRequest.voucher.Taken s r) (hcharges : ChargesOwn s r)
    (hleads : TripRequest.voucher.Leads s r db) (hadds : AddsUp s.db) : AddsUp db := by
  obtain ⟨own, hown, hcharge⟩ := hcharges htaken
  obtain ⟨expense, hexpense, hadd⟩ := (chargeable_iff (amount_pos htaken.checks) hcharge.1).1 hcharge
  intro trip htrip id hid
  rw [hleads.trips] at htrip
  rw [hleads.vouchers]
  show _ = some (voucherTotal (s.db.tables .tripVouchers ++ [voucherRow s r]) id)
  rw [voucherTotal_append, voucherRow_amount, Option.getD_some]
  obtain ⟨old, hold, rfl⟩ := List.mem_map.mp htrip
  have holdid : old "id" = some id := by split at hid <;> exact hid
  have hbefore := hadds old hold id holdid
  by_cases hnamed : (voucherRow s r) "trip_id" = some id
  · have hsame : old "id" = own "id" :=
      holdid.trans (hnamed.symm.trans (namedTrip_id hcharge.1).symm)
    obtain rfl := eq_of_namedTrip hown hcharge.1 hold hsame
    obtain rfl := Option.some.inj (hexpense.symm.trans hbefore)
    rw [if_pos hcharge.1, if_pos hnamed, chargeTrip_expense hexpense, hadd]
  · have hother : ¬(namedTrip r).selects old = true := fun hselects =>
      hnamed ((namedTrip_id hselects).symm.trans holdid)
    rw [if_neg hother, if_neg hnamed, add_zero, hbefore]

end

/-- A request that does not set an expense, and charges a trip of the company. -/
def LeavesExpenses (s : Server) (call : TripCall) : Prop :=
  match call.kind with
  | .create => True
  | .update => ¬0 < call.request.fields.real "expenseAmount"
  | .voucher => ChargesOwn (call.finds s) call.request

/-- **In a run without manual expenses whose vouchers charge trips of the company, the expenses are
the sums of the vouchers.** -/
theorem expenses_addUp (s₀ : Server) (calls : List TripCall) (hstart : AddsUp s₀.db)
    (h : (tripLedger s₀).AllSteps LeavesExpenses s₀ calls) :
    (tripLedger s₀).AllStates (fun s => AddsUp s.db) s₀ calls := by
  refine Machine.allStates_of_allSteps ?_ (fun _ hadds => hadds) calls s₀ hstart h
  intro s call s' hadds hleaves hstep
  obtain rfl := Option.some.inj hstep
  rcases after_cases (call.finds s) call.request call.kind with ⟨htaken, hleads⟩ | ⟨-, hdb⟩
  · obtain ⟨kind, r, circumstances⟩ := call
    cases kind with
    | create => exact addsUp_create htaken hleads hadds
    | update => exact addsUp_update hleaves hleads hadds
    | voucher => exact addsUp_voucher htaken hleaves hleads hadds
  · rw [TripCall.after, hdb]
    exact hadds

/-- **A voucher moves together with its trip exactly if it charges a trip of the company, and runs
of such vouchers keep the expenses at their sums.** -/
theorem vouchers_charge (s : Server) :
    (∀ r : Request, MovesTogether s r ↔ ChargesOwn s r) ∧
      ∀ calls : List TripCall, AddsUp s.db →
        (tripLedger s).AllSteps LeavesExpenses s calls →
          (tripLedger s).AllStates (fun s => AddsUp s.db) s calls :=
  ⟨movesTogether_iff s, expenses_addUp s⟩

/-- A trip with a freight of 100. -/
def newTrip : TripCall := tripCall .create fun field => if field = "freightAmount" then 100 else 0

/-- A voucher of 10.25 for the trip with id 1. -/
def newVoucher : TripCall := tripCall .voucher fun _ => 41 / 4

theorem newTrip_row :
    ((newTrip.after (calm newCompany .lenient [])).db.tables .fleetTrips).map (fun row =>
      ((namedTrip newVoucher.request).selects row, row "expense_amount")) =
        [(true, some (inCents 0))] := by
  decide +kernel

theorem newVoucher_leavesExpenses :
    LeavesExpenses (newTrip.after (calm newCompany .lenient [])) newVoucher := by
  intro _
  obtain ⟨trip, htrips, hrow⟩ := List.map_eq_singleton_iff.mp newTrip_row
  obtain ⟨hselects, hexpense⟩ := Prod.mk.inj hrow
  have hround : roundingError (41 / 4 * 100) ≠ -(1 / 2) := by decide +kernel
  refine ⟨trip, ?_, hselects, 0, hexpense, .inl hround⟩
  show trip ∈ (newTrip.after (calm newCompany .lenient [])).db.tables .fleetTrips
  simp [htrips]

theorem newVoucher_addsUp :
    (tripLedger (calm newCompany .lenient [])).AllStates (fun s => AddsUp s.db)
      (calm newCompany .lenient []) [newTrip, newVoucher] := by
  refine (vouchers_charge _).2 _ (fun trip htrip => by simp [calm, newCompany] at htrip) ?_
  intro s hstep
  obtain rfl := Option.some.inj hstep
  exact ⟨trivial, fun s' _ => ⟨newVoucher_leavesExpenses, trivial⟩⟩

/-! ### A voucher for the trip of someone else -/

/-- The trip with id 1 is company 2's. -/
def foreignTrip : SQL.Database schema Datum where
  tables
    | .companies =>
      [Table.row .companies 0 [("id", some (.int 1)), ("code", some (.text "one"))],
        Table.row .companies 0 [("id", some (.int 2)), ("code", some (.text "two"))]]
    | .fleetTrips =>
      [Table.row .fleetTrips 0 [("id", some (.int 1)), ("company_id", some (.int 2))]]
    | _ => []
  valid := by decide +kernel

theorem foreignTrip_answered :
    (outcome (serve .createVoucher newVoucher.request) (calm foreignTrip .lenient [])).1.isOk =
      true := by
  decide +kernel

/-- **A voucher that is added and charges no trip.** -/
theorem foreignTrip_not_movesTogether :
    ¬MovesTogether (calm foreignTrip .lenient []) newVoucher.request := by
  have hanswered := foreignTrip_answered
  have hnone : ∀ trip ∈ (calm foreignTrip .lenient []).db.tables .fleetTrips,
      (namedTrip newVoucher.request).selects trip = false := by
    decide +kernel
  rintro (⟨error, s', hout, -⟩ | ⟨_, _, _, trip, _, _, _, -, -, -, -, -, hmem, hselects, -⟩)
  · rw [hout] at hanswered
    simp [Except.isOk, Except.toBool] at hanswered
  · exact absurd hselects (by simp [hnone trip hmem])

example : ((outcome (serve .createVoucher newVoucher.request)
    (calm foreignTrip .lenient [])).2.db.tables .tripVouchers).map (realOf · "amount") =
      [some (41 / 4)] := by
  decide +kernel

end RudraNetra.API
