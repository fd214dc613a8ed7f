/-
The amounts of an invoice.

The handlers compute amount, tax and total from the unrounded rate, and the columns round each to
cents on its own.  So an invoice adds up exactly if the errors of amount and tax fit together and
that of the rate is still small for all devices (`invoice_exact_iff`).
-/
import RudraNetra.Proofs.Numbering
import RudraNetra.Proofs.TripLedger

namespace RudraNetra.API

open SQL Effect

/-- The total is the amount and the tax, and the amount is the rate for every device. -/
def Exact (row : Row Datum) : Prop :=
  ∃ (count : Int) (rate amount tax total : ℚ), intOf row "device_count" = some count ∧
    realOf row "rate_per_device" = some rate ∧ realOf row "amount" = some amount ∧
    realOf row "tax_amount" = some tax ∧ realOf row "total_amount" = some total ∧
    total = amount + tax ∧ amount = count * rate

/-- The errors in cents fit: of the amount and the tax, and of the rate once for every device. -/
def CentsFit (n : Int) (rate vat : ℚ) : Prop :=
  ErrorsFit (n * rate * 100) (n * rate * vat) ∧
    -(1 / 2) ≤ n * roundingError (rate * 100) ∧ n * roundingError (rate * 100) < 1 / 2

/-- The columns of an invoice for `n` devices at the rate `x`. -/
structure Priced (columns : Columns) (n : Int) (x vat : ℚ) : Prop where
  count : columns.lookup "device_count" = some (some (.int n))
  rate : columns.lookup "rate_per_device" = some (some (money x))
  amount : columns.lookup "amount" = some (some (money (n * x)))
  tax : columns.lookup "tax_amount" = some (some (money (n * x * vat / 100)))
  total : columns.lookup "total_amount" = some (some (money (n * x + n * x * vat / 100)))

theorem Priced.cons {columns : Columns} {n : Int} {x vat : ℚ} (h : Priced columns n x vat)
    (id : Option Datum) : Priced (("id", id) :: columns) n x vat :=
  ⟨h.count, h.rate, h.amount, h.tax, h.total⟩

/-- The value of a column in cents. -/
theorem realOf_row_money {t : Table} {now : Int} {columns : Columns} {column : String} {x : ℚ}
    (h : columns.lookup column = some (some (money x))) :
    realOf (t.row now columns) column = some (roundAway (x * 100) / 100 : ℚ) := by
  refine realOf_inCents ?_
  rw [Table.row, h, money_eq]

/-- **An invoice adds up exactly if the errors fit.** -/
theorem Priced.exact_iff {columns : Columns} {n : Int} {x vat : ℚ} (h : Priced columns n x vat)
    (now : Int) (hpositive : 0 ≤ n * x) :
    Exact (Table.row .invoices now columns) ↔ CentsFit n x vat := by
  have hcount : intOf (Table.row .invoices now columns) "device_count" = some n := by
    rw [intOf, Table.row, h.count]
  have hmul : (n : ℚ) * x * 100 = n * (x * 100) := by ring
  have htax : (n : ℚ) * x * vat / 100 * 100 = n * x * vat := by ring
  have htotal : (n * x + n * x * vat / 100) * 100 = n * x * 100 + n * x * vat := by ring
  unfold Exact CentsFit
  rw [hcount, realOf_row_money h.rate, realOf_row_money h.amount, realOf_row_money h.tax,
    realOf_row_money h.total, htax, htotal, ← roundAway_add_iff,
    ← roundAway_mul_iff n (by linarith), ← hmul]
  simp only [Option.some.injEq, exists_eq_left', exists_and_left]
  refine and_congr ?_ ?_
  · rw [← add_div, div_left_inj' (by norm_num)]
    exact_mod_cast Iff.rfl
  · rw [mul_div_assoc', div_left_inj' (by norm_num)]
    exact_mod_cast Iff.rfl

/-! ### The drafts -/

/-- The VAT percentage of a company, as the next query reads it. -/
def Server.vat (s : Server) (companyID : Int) : ℚ :=
  ((s.first .companySettings (Condition.selects [("company_id", .int companyID)])).bind
    (realOf · "vat_percent")).getD 0

theorem outcome_vatPercent (s : Server) (companyID : Int) :
    outcome (vatPercent companyID) s = (.ok (s.vat companyID), s.asked) := by
  rw [vatPercent, outcome_bind_of_ok (outcome_selectFirst_eq _ _ _)]
  rfl

/-- The percentage that an invoice is computed with. -/
def invoiceVat (s : Server) (r : Request) : ℚ :=
  s.vat (if r.session.role = "superadmin" ∧ r.fields.int "companyId" > 0 then
    r.fields.int "companyId" else getEffectiveCompanyID r)

/-- The percentage that a bill is computed with; its company may be given by name. -/
def billingVat (s : Server) (req : Fields) : ℚ :=
  if req.int "companyId" ≤ 0 ∧ req.text "companyName" ≠ "" then
    s.asked.vat (((s.first .companies (likeName "name" (req.text "companyName"))).bind
      (intOf · "id")).getD (req.int "companyId"))
  else s.vat (req.int "companyId")

/-- Amount, tax and total are left to be computed. -/
structure Computed (req : Fields) : Prop where
  amount : req.real "amount" = 0
  tax : req.real "taxAmount" = 0
  total : req.real "totalAmount" = 0
  count : req.int "deviceCount" > 0
  rate : req.real "ratePerDevice" > 0

/-- The draft is an invoice for the devices and the rate of the request. -/
def Draft.Prices (req : Fields) (vat : ℚ) (draft : Draft) : Prop :=
  ∃ invoice columns answer, draft = .insert invoice .invoices columns answer ∧
    Priced columns (req.int "deviceCount") (req.real "ratePerDevice") vat

theorem sameInvoices_asked (s : Server) : SameInvoices s s.asked := by
  unfold Server.asked
  split <;> exact ⟨rfl, rfl, rfl⟩

theorem draftBilling_prices (req : Fields) (s : Server) :
    Effect.Yields (draftBilling req)
      (fun draft s' => SameInvoices s s' ∧ draft.Prices req (billingVat s req)) s := by
  unfold draftBilling billingVat
  extract_lets amount rest
  have hrest : ∀ companyID s₁, SameInvoices s s₁ → Effect.Yields (rest companyID)
      (fun draft s' => SameInvoices s s' ∧ draft.Prices req (s₁.vat companyID)) s₁ := by
    intro companyID s₁ h₁
    refine Effect.Yields.ite (yields_throw _ _ _) ((yields_of_ok (outcome_vatPercent s₁ companyID)
      (Q := fun vat s' => vat = s₁.vat companyID ∧ SameInvoices s s') ⟨rfl, ?_⟩).bind ?_)
    · exact trans_of SameInvoices h₁ (sameInvoices_asked s₁)
    rintro vat s₂ ⟨rfl, h₂⟩
    refine (yields_readInvoices h₂).bind ?_
    rintro read s₃ ⟨-, h₃⟩
    refine (yields_now h₃).bind ?_
    rintro now s₄ ⟨-, h₄⟩
    exact yields_pure ⟨h₄, _, _, _, rfl, rfl, rfl, rfl, rfl, rfl⟩
  split
  · refine (yields_of_ok (outcome_selectFirst_eq s _ _)
      (Q := fun company s' => company = s.first .companies (likeName "name" (req.text "companyName")) ∧
        s' = s.asked) ⟨rfl, rfl⟩).bind ?_
    rintro company s₁ ⟨rfl, rfl⟩
    rw [pure_bind]
    exact hrest _ _ (sameInvoices_asked s)
  · exact hrest _ s (refl_of SameInvoices s)

theorem draftInvoice_prices {r : Request} (h : Computed r.fields) (s : Server) :
    Effect.Yields (draftInvoice r.session.role (getEffectiveCompanyID r) r.fields)
      (fun draft s' => SameInvoices s s' ∧ draft.Prices r.fields (invoiceVat s r)) s := by
  have hamount : (if r.fields.real "amount" = 0 ∧ r.fields.int "deviceCount" > 0 ∧
      r.fields.real "ratePerDevice" > 0 then
        (r.fields.int "deviceCount" : ℚ) * r.fields.real "ratePerDevice"
      else r.fields.real "amount") = r.fields.int "deviceCount" * r.fields.real "ratePerDevice" :=
    if_pos ⟨h.amount, h.count, h.rate⟩
  have hcount : nonZero (r.fields.int "deviceCount") = some (.int (r.fields.int "deviceCount")) :=
    if_neg h.count.ne'
  have hrate : nonZeroMoney (r.fields.real "ratePerDevice") =
      some (money (r.fields.real "ratePerDevice")) := if_neg h.rate.ne'
  have htotal : ∀ x : ℚ, (if r.fields.real "totalAmount" = 0 then x
      else r.fields.real "totalAmount") = x := fun x => if_pos h.total
  have hpositive : (r.fields.int "deviceCount" : ℚ) * r.fields.real "ratePerDevice" > 0 :=
    mul_pos (by exact_mod_cast h.count) h.rate
  unfold draftInvoice
  rw [hamount]
  refine (yields_of_ok (outcome_now s) (Q := fun _ s' => s' = s) rfl).bind ?_
  rintro now s₁ rfl
  extract_lets amount status rest
  have hrest : ∀ tax s₂, SameInvoices s₁ s₂ → tax = amount * invoiceVat s₁ r / 100 →
      Effect.Yields (rest tax) (fun draft s' => SameInvoices s₁ s' ∧
        draft.Prices r.fields (invoiceVat s₁ r)) s₂ := by
    rintro tax s₂ h₂ rfl
    refine Effect.Yields.ite ((yields_readInvoices h₂).bind ?_) (yields_pure ⟨h₂, _, _, _, rfl,
      congrArg some hcount, congrArg some hrate, rfl, rfl, congrArg (some <| some <| money ·) (htotal _)⟩)
    rintro read s₃ ⟨-, h₃⟩
    exact yields_pure ⟨h₃, _, _, _, rfl, congrArg some hcount, congrArg some hrate, rfl, rfl,
      congrArg (some <| some <| money ·) (htotal _)⟩
  rw [if_pos ⟨h.tax, hpositive⟩]
  refine (yields_of_ok (outcome_vatPercent s₁ _)
    (Q := fun vat s' => vat = invoiceVat s₁ r ∧ SameInvoices s₁ s') ⟨rfl, sameInvoices_asked s₁⟩).bind ?_
  rintro vat s₂ ⟨rfl, h₂⟩
  exact hrest _ s₂ h₂ rfl

/-! ### The rows -/

/-- A priced draft stores an invoice, which is exact if the errors fit. -/
theorem stored_of_prices {x : Api Draft} {req : Fields} {vat : ℚ} {s s' : Server}
    {answer : Response}
    (hdraft : Effect.Yields x (fun draft s' => SameInvoices s s' ∧ draft.Prices req vat) s)
    (hcount : 0 < req.int "deviceCount") (hrate : 0 < req.real "ratePerDevice")
    (h : outcome (x >>= Draft.finish) s = (.ok answer, s')) :
    ∃ row, s'.db.tables .invoices = s.db.tables .invoices ++ [row] ∧
      (Exact row ↔ CentsFit (req.int "deviceCount") (req.real "ratePerDevice") vat) := by
  rw [outcome_bind] at h
  rcases hmid : outcome x s with ⟨error | draft, mid⟩
  · simp [hmid] at h
  · rw [hmid] at h
    obtain ⟨hsame, invoice, columns, respond, rfl, hpriced⟩ := hdraft draft mid hmid
    have hpositive : 0 ≤ (req.int "deviceCount" : ℚ) * req.real "ratePerDevice" :=
      mul_nonneg (by exact_mod_cast hcount.le) hrate.le
    refine ⟨_, ?_, (hpriced.cons (some (.int (mid.serial .invoices)))).exact_iff mid.now hpositive⟩
    rw [insertReturning_answer h, hsame.1]

theorem billing_positive {r : Request} (h : createBillingHandler.refuses r = none) :
    0 < r.fields.int "deviceCount" ∧ 0 < r.fields.real "ratePerDevice" := by
  have hchecks : ∀ check ∈ createBillingHandler.checks, check r = none :=
    List.findSome?_eq_none_iff.mp h
  have hrequired := hchecks _ (List.mem_cons_of_mem _ (List.mem_singleton_self _))
  by_contra hnot
  rw [require, if_neg (by simpa using hnot)] at hrequired
  cases hrequired

/-- A company with its settings, at 5% VAT. -/
def taxedCompany : SQL.Database schema Datum where
  tables
    | .companies => [Table.row .companies 0 [("id", some (.int 1))]]
    | .companySettings => [Table.row .companySettings 0 [("company_id", some (.int 1))]]
    | _ => []
  valid := by decide

/-- A bill of company 1 for some devices at a rate. -/
def billRequest (count : Int) (rate : ℚ) : Request where
  session := ⟨1, 0, "root", "superadmin"⟩
  id := none
  type := ""
  companyID := none
  body := .ok
    { Fields.empty with
      int := fun field => if field = "companyId" then 1 else count
      real := fun _ => rate }

/-- The server after the bill. -/
def billed (count : Int) (rate : ℚ) : Except Response Response × Server :=
  outcome (createBillingHandler.serve (billRequest count rate)) (calm taxedCompany .lenient [])

/-- The rate, the amount, the tax and the total of each invoice. -/
def invoicesOf (s : Server) : List (Option ℚ × Option ℚ × Option ℚ × Option ℚ) :=
  (s.db.tables .invoices).map fun row =>
    (realOf row "rate_per_device", realOf row "amount", realOf row "tax_amount",
      realOf row "total_amount")

theorem billed_invoices : (billed 7 (2444 / 1000)).1.isOk = true ∧
    invoicesOf (billed 7 (2444 / 1000)).2 =
      [(some (244 / 100), some (1711 / 100), some (86 / 100), some (1796 / 100))] := by
  decide +kernel

end RudraNetra.API
