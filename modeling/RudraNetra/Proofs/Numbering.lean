/-
When document numbers are unique.

Gate passes are numbered by their id modulo 10000, trips and tickets by the clock's
nanoseconds modulo 10000 and a million, and invoices by the highest id there is.  So two
documents of a kind have the same number exactly if their origins clash: ids or readings
of the clock that differ by a multiple of the modulus, or two readings of the same
invoices, which happens when one invoice is read for before another is added.  A
run issues no number twice exactly if no document that is issued clashes with an earlier
one (`numbers_unique_iff`).
-/
import RudraNetra.Api.Numbering
import RudraNetra.Proofs.Statements

namespace RudraNetra.API

open SQL Effect

/-! ### Numbers as text -/

theorem toString_natCast (n : Nat) : toString (n : Int) = n.repr := rfl

theorem toList_pushn_zero (n : Nat) : ("".pushn '0' n).toList = List.replicate n '0' := by
  rw [String.pushn_eq_repeat_push]
  induction n with
  | zero => rfl
  | succ n ih => rw [Nat.repeat, String.toList_push, ih, List.replicate_succ']

/-- The digits give the number back, zeros in front or not. -/
theorem ofDigitChars_fourDigits (n : Nat) :
    Nat.ofDigitChars 10 (fourDigits n).toList 0 = n := by
  rw [fourDigits, toString_natCast, String.toList_append, toList_pushn_zero, Nat.toList_repr,
    Nat.ofDigitChars_append, Nat.ofDigitChars_replicate_zero, Nat.mul_zero,
    Nat.ofDigitChars_ten_toDigits]

theorem fourDigits_inj {m n : Int} (hm : 0 ≤ m) (hn : 0 ≤ n) :
    fourDigits m = fourDigits n ↔ m = n := by
  obtain ⟨m, rfl⟩ := Int.eq_ofNat_of_zero_le hm
  obtain ⟨n, rfl⟩ := Int.eq_ofNat_of_zero_le hn
  refine ⟨fun h => ?_, congrArg fourDigits⟩
  have hdigits := congrArg (fun text => Nat.ofDigitChars 10 (String.toList text) 0) h
  simp only [ofDigitChars_fourDigits] at hdigits
  rw [hdigits]

theorem toString_inj {m n : Int} (hm : 0 ≤ m) (hn : 0 ≤ n) : toString m = toString n ↔ m = n := by
  obtain ⟨m, rfl⟩ := Int.eq_ofNat_of_zero_le hm
  obtain ⟨n, rfl⟩ := Int.eq_ofNat_of_zero_le hn
  refine ⟨fun h => ?_, congrArg toString⟩
  rw [toString_natCast, toString_natCast] at h
  have hdigits := congrArg (fun text => Nat.ofDigitChars 10 (String.toList text) 0) h
  simp only [Nat.toList_repr, Nat.ofDigitChars_ten_toDigits] at hdigits
  rw [hdigits]

/-! ### The two halves of a request -/

/-- Adding a gate pass takes no time. -/
theorem gatePass_phases (s : Server) (r : Request) (c id : Int) (req : Fields) :
    outcome (createGatePassHandler.work r c id req) s =
      outcome (draftGatePass c req >>= Draft.finish) s := by
  unfold createGatePassHandler draftGatePass
  simp only [bind_assoc, pure_bind]
  refine outcome_bind_congr fun vehicle s₁ _ => outcome_bind_congr fun driver s₂ _ => ?_
  rw [outcome_bind, outcome_now, outcome_bind, outcome_now]
  refine outcome_bind_congr fun newID s₃ hinsert => ?_
  rw [Draft.finish, outcome_bind_of_ok (outcome_now s₃), insertReturning_now hinsert]
  rfl

theorem invoice_phases (s : Server) (r : Request) (c id : Int) (req : Fields) :
    outcome (createInvoiceHandler.work r c id req) s =
      outcome (draftInvoice r.session.role c req >>= Draft.finish) s := by
  unfold createInvoiceHandler draftInvoice
  simp only [bind_assoc, pure_bind, ite_bind, nextInvoiceID, readInvoices]
  refine outcome_bind_congr fun now s₁ _ => outcome_ite_congr ?_ ?_
  · exact outcome_bind_congr fun vat s₂ _ => outcome_ite_congr rfl rfl
  · exact outcome_ite_congr rfl rfl

theorem billing_phases (s : Server) (r : Request) (c id : Int) (req : Fields) :
    outcome (createBillingHandler.work r c id req) s =
      outcome (draftBilling req >>= Draft.finish) s := by
  have hthrown : ∀ (s : Server) (f g : PUnit → Api Response) (error : Response),
      outcome (throw error >>= f) s = outcome (throw error >>= g) s :=
    fun s f g error => outcome_bind_congr fun _ _ hthrow => by simp at hthrow
  unfold createBillingHandler draftBilling
  simp only [bind_assoc, pure_bind, ite_bind, nextInvoiceID, readInvoices]
  refine outcome_ite_congr ?_ (outcome_ite_congr (hthrown s _ _ _) rfl)
  exact outcome_bind_congr fun company s₁ _ => outcome_ite_congr (hthrown s₁ _ _ _) rfl

theorem work_phases (kind : Creation) (s : Server) (r : Request) (c id : Int) (req : Fields) :
    outcome (kind.handler.work r c id req) s =
      outcome (kind.draft r c req >>= Draft.finish) s := by
  cases kind with
  | gatePass => exact gatePass_phases s r c id req
  | fleetTrip => rfl
  | complaint => rfl
  | invoice => exact invoice_phases s r c id req
  | billing => exact billing_phases s r c id req

/-- **A handler is its two halves, one after the other.** -/
theorem serve_phases (kind : Creation) (s : Server) (r : Request) :
    outcome (kind.handler.serve r) s = outcome (kind.start r >>= Draft.finish) s := by
  unfold Creation.start
  cases hpool : s.pool with
  | false => simp [Handler.serve, outcome_bind, hpool]
  | true =>
      cases hrefuses : kind.handler.refuses r with
      | some error => simp [Handler.serve, outcome_bind, hpool, hrefuses]
      | none =>
          rw [outcome_serve hpool hrefuses, work_phases, bind_assoc]
          simp [outcome_bind, hpool]

/-! ### The numbers of invoices -/

theorem lt_nextNumber {rows : List (Row Datum)} {row : Row Datum} {id : Int} (hrow : row ∈ rows)
    (hid : intOf row "id" = some id) : id < nextNumber (some rows) := by
  have hmem : id ∈ rows.filterMap (intOf · "id") := List.mem_filterMap.mpr ⟨row, hrow, hid⟩
  cases hmax : (rows.filterMap (intOf · "id")).max? with
  | none => simp [List.max?_eq_none_iff.mp hmax] at hmem
  | some top =>
      have hle := (List.max?_eq_some_iff.mp hmax).2 id hmem
      rw [nextNumber, hmax, Option.getD_some]
      exact Int.lt_add_one_of_le hle

/-- The number after a row whose id is not below that of the next one. -/
theorem nextNumber_concat {rows : List (Row Datum)} {row : Row Datum} {id : Int}
    (hid : intOf row "id" = some id) (hle : nextNumber (some rows) ≤ id) :
    nextNumber (some (rows ++ [row])) = id + 1 := by
  have hmax : ((rows ++ [row]).filterMap (intOf · "id")).max? = some id := by
    rw [List.max?_eq_some_iff]
    simp only [List.filterMap_append, List.filterMap_cons, hid, List.filterMap_nil,
      List.mem_append, List.mem_singleton]
    refine ⟨.inr trivial, ?_⟩
    rintro b (hb | rfl)
    · obtain ⟨old, hold, hb⟩ := List.mem_filterMap.mp hb
      exact (lt_nextNumber hold hb).le.trans hle
    · exact le_refl b
  rw [nextNumber, hmax, Option.getD_some]

/-- With ids from 1 up to a bound, the next number is between 1 and the bound. -/
theorem nextNumber_bounds {rows : List (Row Datum)} {bound : Int} (hbound : 0 < bound)
    (hids : ∀ row ∈ rows, ∀ id, intOf row "id" = some id → 0 < id ∧ id < bound) :
    0 < nextNumber (some rows) ∧ nextNumber (some rows) ≤ bound := by
  cases hmax : (rows.filterMap (intOf · "id")).max? with
  | none =>
      rw [nextNumber, hmax, Option.getD_none]
      omega
  | some top =>
      obtain ⟨row, hrow, hid⟩ := List.mem_filterMap.mp (List.max?_eq_some_iff.mp hmax).1
      have htop := hids row hrow top hid
      rw [nextNumber, hmax, Option.getD_some]
      omega

/-- Each row beyond the first ones raises the next number. -/
structure Rising (opening rows : List (Row Datum)) : Prop where
  opens : opening <+: rows
  rises : ∀ read row, opening <+: read → read ++ [row] <+: rows →
    nextNumber (some read) < nextNumber (some (read ++ [row]))

section

variable {opening rows : List (Row Datum)}

theorem Rising.concat (h : Rising opening rows) {row : Row Datum}
    (hrises : nextNumber (some rows) < nextNumber (some (rows ++ [row]))) :
    Rising opening (rows ++ [row]) where
  opens := h.opens.trans (List.prefix_append _ _)
  rises := by
    intro read last hread hlast
    rcases List.prefix_concat_iff.mp hlast with heq | hold
    · obtain ⟨rfl, hsame⟩ := List.append_inj' heq rfl
      obtain rfl := List.singleton_inj.mp hsame
      exact hrises
    · exact h.rises read last hread hold

/-- More rows, a higher number. -/
theorem Rising.lt (h : Rising opening rows) {read : List (Row Datum)} (hread : opening <+: read)
    {more : List (Row Datum)} (hmore : more ≠ []) (hrows : read ++ more <+: rows) :
    nextNumber (some read) < nextNumber (some (read ++ more)) := by
  induction more using List.reverseRecOn with
  | nil => exact absurd rfl hmore
  | append_singleton init last ih =>
      rw [← List.append_assoc] at hrows ⊢
      have hlast : nextNumber (some (read ++ init)) < _ :=
        h.rises _ _ (hread.trans (List.prefix_append _ _)) hrows
      by_cases hinit : init = []
      · simpa [hinit] using hlast
      · exact (ih hinit ((List.prefix_append _ _).trans hrows)).trans hlast

/-- Two readings give the same number exactly if they are of the same invoices. -/
theorem Rising.eq_iff (h : Rising opening rows) {a b : List (Row Datum)} (ha : opening <+: a)
    (ha' : a <+: rows) (hb : opening <+: b) (hb' : b <+: rows) :
    nextNumber (some a) = nextNumber (some b) ↔ a = b := by
  refine ⟨fun hsame => ?_, fun hsame => by rw [hsame]⟩
  rcases List.prefix_or_prefix_of_prefix ha' hb' with ⟨more, rfl⟩ | ⟨more, rfl⟩
  · by_contra hne
    have hmore : more ≠ [] := fun hnil => hne (by simp [hnil])
    exact absurd hsame (h.lt ha hmore hb').ne
  · by_contra hne
    have hmore : more ≠ [] := fun hnil => hne (by simp [hnil])
    exact absurd hsame (h.lt hb hmore ha').ne'

theorem Rising.nextNumber_pos (h : Rising opening rows) (hopening : 0 < nextNumber (some opening))
    {read : List (Row Datum)} (hread : opening <+: read) (hrows : read <+: rows) :
    0 < nextNumber (some read) := by
  obtain ⟨more, rfl⟩ := hread
  by_cases hmore : more = []
  · simpa [hmore] using hopening
  · exact hopening.trans (h.lt (List.prefix_refl _) hmore hrows)

end

/-! ### Origins and numbers -/

/-- The documents are of one kind. -/
def Origin.SameKind : Origin → Origin → Prop
  | .pass _, .pass _ | .trip _, .trip _ | .ticket _, .ticket _ | .invoice _, .invoice _ => True
  | _, _ => False

/-- Two ids, two readings of the clock, or two readings of the invoices that make one number. -/
def Origin.Clash : Origin → Origin → Prop
  | .pass a, .pass b => a % 10000 = b % 10000
  | .trip a, .trip b => a % 10000 = b % 10000
  | .ticket a, .ticket b => a % 1000000 = b % 1000000
  | .invoice a, .invoice b => a = b
  | _, _ => False

/-- A document made in the year, from invoices that were there. -/
structure Document.Made (year : Int) (opening rows : List (Row Datum)) (d : Document) : Prop where
  number : d.number = d.origin.number year
  read : ∀ read, d.origin = .invoice (some read) → opening <+: read ∧ read <+: rows

theorem append_inj_right {text a b : String} : text ++ a = text ++ b ↔ a = b := by
  rw [← String.toList_inj, ← String.toList_inj, String.toList_append, String.toList_append,
    List.append_cancel_left_eq]

/-- **Documents of a kind have the same number exactly if their origins clash.** -/
theorem number_eq_iff {year : Int} {opening rows : List (Row Datum)} (hrising : Rising opening rows)
    (hopening : 0 < nextNumber (some opening)) {d e : Document} (hd : d.Made year opening rows)
    (he : e.Made year opening rows) (hkind : d.origin.SameKind e.origin) :
    d.number = e.number ↔ d.origin.Clash e.origin := by
  rw [hd.number, he.number]
  have hread := hd.read
  have hread' := he.read
  cases hdo : d.origin <;> cases heo : e.origin <;> rw [hdo, heo] at hkind <;>
    try exact hkind.elim
  · exact append_inj_right.trans (fourDigits_inj (by omega) (by omega))
  · exact append_inj_right.trans (fourDigits_inj (by omega) (by omega))
  · exact append_inj_right.trans (toString_inj (by omega) (by omega))
  · rename_i a b
    rw [hdo] at hread
    rw [heo] at hread'
    refine append_inj_right.trans ?_
    change fourDigits (nextNumber a) = fourDigits (nextNumber b) ↔ a = b
    cases a with
    | none =>
        cases b with
        | none => simp
        | some b =>
            have hpos := hrising.nextNumber_pos hopening (hread' b rfl).1 (hread' b rfl).2
            refine (fourDigits_inj (le_refl 0) hpos.le).trans ?_
            exact ⟨fun h => absurd h hpos.ne, fun h => by cases h⟩
    | some a =>
        obtain ⟨ha, ha'⟩ := hread a rfl
        have hpos := hrising.nextNumber_pos hopening ha ha'
        cases b with
        | none =>
            refine (fourDigits_inj hpos.le (le_refl 0)).trans ?_
            exact ⟨fun h => absurd h hpos.ne', fun h => by cases h⟩
        | some b =>
            obtain ⟨hb, hb'⟩ := hread' b rfl
            rw [fourDigits_inj hpos.le (hrising.nextNumber_pos hopening hb hb').le,
              hrising.eq_iff ha ha' hb hb', Option.some_inj]


/-! ### What half a request does -/

/-- The invoices and their sequence are the same, and the time is. -/
def SameInvoices (s t : Server) : Prop :=
  t.db.tables .invoices = s.db.tables .invoices ∧ t.serial .invoices = s.serial .invoices ∧
    t.now = s.now

instance : Std.Refl SameInvoices := ⟨fun _ => ⟨rfl, rfl, rfl⟩⟩

instance : IsTrans Server SameInvoices :=
  ⟨fun _ _ _ hst htu => ⟨htu.1.trans hst.1, htu.2.1.trans hst.2.1, htu.2.2.trans hst.2.2⟩⟩

theorem sameInvoices_now : Keeps SameInvoices now := fun s => refl_of SameInvoices s

theorem sameInvoices_selectFirst (t : Table) (cond : Row Datum → Bool) :
    Keeps SameInvoices (selectFirst t cond) := by
  intro s
  rw [selectFirst, outcome_ofOutcome]
  split <;> exact ⟨rfl, rfl, rfl⟩

theorem sameInvoices_selectAll (t : Table) (cond : Row Datum → Bool) :
    Keeps SameInvoices (selectAll t cond) := by
  intro s
  rw [selectAll, outcome_ofOutcome]
  split <;> exact ⟨rfl, rfl, rfl⟩

theorem sameInvoices_vatPercent (companyID : Int) : Keeps SameInvoices (vatPercent companyID) :=
  (sameInvoices_selectFirst _ _).bind fun _ => keeps_pure _

theorem sameInvoices_exec {t : Table} {set : List Assignment} {cond : Condition Datum}
    (ht : Table.invoices ≠ t) : Keeps SameInvoices (exec (.update t set cond)) := by
  intro s
  rcases outcome_exec_cases s (.update t set cond) with ⟨db, n, -, hexec, hout⟩ | ⟨hout, -⟩
  · rw [hout]
    exact ⟨Database.update_other hexec ht, rfl, rfl⟩
  · rw [hout]
    exact ⟨rfl, rfl, rfl⟩

theorem sameInvoices_insertReturning {t : Table} (ht : Table.invoices ≠ t) (columns : Columns) :
    Keeps SameInvoices (insertReturning t columns) := by
  intro s
  rcases outcome_insertReturning_cases s t columns with
    ⟨db, n, s', -, hexec, hout, rfl, hnow, -, -, hserial⟩ | ⟨s', hout, hdb, hserial, hnow, -⟩
  · rw [hout]
    refine ⟨?_, ?_, hnow⟩
    · rw [Database.insert_tables hexec, if_neg ht]
    · rw [hserial, Function.update_of_ne ht]
  · rw [hout]
    refine ⟨congrArg (SQL.Database.tables · _) hdb, ?_, hnow⟩
    rw [hserial, Function.update_of_ne ht]

/-- A document made from what a server holds. -/
structure Document.MadeFrom (s : Server) (d : Document) : Prop where
  number : d.number = d.origin.number (Go.year s.now)
  read : ∀ read, d.origin = .invoice (some read) → read = s.db.tables .invoices

def Draft.MadeFrom (s : Server) : Draft → Prop
  | .gatePass _ => True
  | .insert document .. => ∀ d, document = some d → d.MadeFrom s

theorem yields_now {s : Server} {t : Server} (h : SameInvoices s t) :
    Yields now (fun now s' => now = s.now ∧ SameInvoices s s') t := by
  intro a s' hout
  obtain ⟨rfl, rfl⟩ : t.now = a ∧ t = s' := by simpa using hout
  exact ⟨h.2.2, h⟩

/-- The invoices that are read are those there are. -/
theorem yields_readInvoices {s : Server} {t : Server} (h : SameInvoices s t) :
    Yields readInvoices (fun read s' =>
      (∀ rows, read = some rows → rows = s.db.tables .invoices) ∧ SameInvoices s s') t := by
  intro read s' hout
  have hkept : SameInvoices t s' := by
    have hread := (sameInvoices_selectAll .invoices fun _ => true).attempt t
    rwa [← readInvoices, hout] at hread
  refine ⟨fun rows hrows => ?_, trans_of SameInvoices h hkept⟩
  by_cases hblocked : t.tx = some true ∨ t.faults.head? = some true
  · simp [readInvoices, selectAll, hblocked] at hout
    simp [← hout.1] at hrows
  · simp [readInvoices, selectAll, hblocked] at hout
    rw [← hout.1, Option.some_inj] at hrows
    rw [← hrows, h.1]

theorem Keeps.yields {x : Api α} {s t : Server} (h : Keeps SameInvoices x)
    (hst : SameInvoices s t) : Yields x (fun _ s' => SameInvoices s s') t := by
  intro a s' hout
  have hkept := h t
  rw [hout] at hkept
  exact trans_of SameInvoices hst hkept

theorem madeFrom_make {s : Server} {origin : Origin}
    (hread : ∀ read, origin = .invoice (some read) → read = s.db.tables .invoices) :
    (Document.make (Go.year s.now) origin).MadeFrom s :=
  ⟨rfl, hread⟩

theorem draftGatePass_madeFrom (companyID : Int) (req : Fields) (s : Server) :
    Yields (draftGatePass companyID req) (fun draft _ => draft.MadeFrom s) s := by
  unfold draftGatePass
  refine Yields.bind (P := fun _ _ => True) (fun _ _ _ => trivial) fun vehicle s₁ _ => ?_
  refine Yields.bind (P := fun _ _ => True) (fun _ _ _ => trivial) fun driver s₂ _ => ?_
  refine Yields.bind (P := fun _ _ => True) (fun _ _ _ => trivial) fun now s₃ _ => ?_
  refine Yields.bind (P := fun _ _ => True) (fun _ _ _ => trivial) fun newID s₄ _ => ?_
  exact yields_pure trivial

theorem draftInvoice_madeFrom (role : String) (companyID : Int) (req : Fields) (s : Server) :
    Yields (draftInvoice role companyID req) (fun draft _ => draft.MadeFrom s) s := by
  unfold draftInvoice
  refine (yields_now (refl_of SameInvoices s)).bind ?_
  rintro now s₁ ⟨rfl, h₁⟩
  extract_lets targetCompany amount rest
  have hrest : ∀ tax s₂, SameInvoices s s₂ →
      Yields (rest tax) (fun draft _ => draft.MadeFrom s) s₂ := by
    intro tax s₂ h₂
    refine Yields.ite ((yields_readInvoices h₂).bind ?_) (yields_pure fun d hd => by simp at hd)
    rintro read s₃ ⟨hread, -⟩
    refine yields_pure fun d hd => ?_
    obtain rfl := Option.some.inj hd
    exact madeFrom_make fun rows hrows => hread rows (Origin.invoice.inj hrows)
  refine Yields.ite ?_ (hrest _ s₁ h₁)
  exact (Keeps.yields (sameInvoices_vatPercent _) h₁).bind fun vat s₂ h₂ => hrest _ s₂ h₂

theorem draftBilling_madeFrom (req : Fields) (s : Server) :
    Yields (draftBilling req) (fun draft _ => draft.MadeFrom s) s := by
  unfold draftBilling
  extract_lets amount rest
  have hrest : ∀ companyID s₁, SameInvoices s s₁ →
      Yields (rest companyID) (fun draft _ => draft.MadeFrom s) s₁ := by
    intro companyID s₁ h₁
    refine Yields.ite (yields_throw _ _ _) ?_
    refine (Keeps.yields (sameInvoices_vatPercent _) h₁).bind fun vat s₂ h₂ => ?_
    refine (yields_readInvoices h₂).bind ?_
    rintro read s₃ ⟨hread, h₃⟩
    refine (yields_now h₃).bind ?_
    rintro now s₄ ⟨rfl, -⟩
    refine yields_pure fun d hd => ?_
    obtain rfl := Option.some.inj hd
    exact madeFrom_make fun rows hrows => hread rows (Origin.invoice.inj hrows)
  refine Yields.ite ?_ (hrest _ s (refl_of SameInvoices s))
  exact (Keeps.yields (sameInvoices_selectFirst _ _) (refl_of SameInvoices s)).bind
    fun company s₁ h₁ => hrest _ s₁ h₁

theorem draft_madeFrom (kind : Creation) (r : Request) (companyID : Int) (req : Fields)
    (s : Server) : Yields (kind.draft r companyID req) (fun draft _ => draft.MadeFrom s) s := by
  cases kind with
  | gatePass => exact draftGatePass_madeFrom companyID req s
  | fleetTrip =>
      refine (yields_now (refl_of SameInvoices s)).bind ?_
      rintro now s₁ ⟨rfl, -⟩
      refine yields_pure fun d hd => ?_
      obtain rfl := Option.some.inj hd
      exact madeFrom_make fun rows hrows => by simp at hrows
  | complaint =>
      refine (yields_now (refl_of SameInvoices s)).bind ?_
      rintro now s₁ ⟨rfl, -⟩
      refine yields_pure fun d hd => ?_
      obtain rfl := Option.some.inj hd
      exact madeFrom_make fun rows hrows => by simp at hrows
  | invoice => exact draftInvoice_madeFrom _ companyID req s
  | billing => exact draftBilling_madeFrom req s


theorem draft_sameInvoices (kind : Creation) (r : Request) (companyID : Int) (req : Fields) :
    Keeps SameInvoices (kind.draft r companyID req) := by
  cases kind with
  | gatePass =>
      refine (sameInvoices_selectFirst _ _).bind fun vehicle => ?_
      refine (sameInvoices_selectFirst _ _).bind fun driver => sameInvoices_now.bind fun now => ?_
      exact (sameInvoices_insertReturning (by decide) _).bind fun newID => keeps_pure _
  | fleetTrip => exact sameInvoices_now.bind fun now => keeps_pure _
  | complaint => exact sameInvoices_now.bind fun now => keeps_pure _
  | invoice =>
      refine sameInvoices_now.bind fun now => ?_
      extract_lets targetCompany amount rest
      have hrest : ∀ tax, Keeps SameInvoices (rest tax) := fun tax =>
        Keeps.ite ((sameInvoices_selectAll _ _).attempt.bind fun read => keeps_pure _) (keeps_pure _)
      exact Keeps.ite ((sameInvoices_vatPercent _).bind fun vat => hrest _) (hrest _)
  | billing =>
      unfold Creation.draft draftBilling
      extract_lets amount rest
      have hrest : ∀ companyID, Keeps SameInvoices (rest companyID) := by
        intro companyID
        refine Keeps.ite (keeps_throw _) ((sameInvoices_vatPercent _).bind fun vat => ?_)
        refine (sameInvoices_selectAll _ _).attempt.bind fun read => ?_
        exact sameInvoices_now.bind fun now => keeps_pure _
      exact Keeps.ite ((sameInvoices_selectFirst _ _).bind fun company => hrest _) (hrest _)

theorem start_cases (kind : Creation) (r : Request) (s : Server) :
    (∃ error, outcome (kind.start r) s = (.error error, s)) ∨
    outcome (kind.start r) s = outcome (kind.draft r (getEffectiveCompanyID r) r.fields) s := by
  unfold Creation.start
  cases hpool : s.pool with
  | false => simp [outcome_bind, hpool]
  | true =>
      cases kind.handler.refuses r with
      | some error => exact .inl ⟨error, by simp [outcome_bind, hpool]⟩
      | none => exact .inr (by simp [outcome_bind, hpool])

/-- The first half of a request leaves the invoices alone. -/
theorem start_sameInvoices (kind : Creation) (r : Request) : Keeps SameInvoices (kind.start r) := by
  intro s
  rcases start_cases kind r s with ⟨error, hout⟩ | hout
  · rw [hout]
    exact refl_of SameInvoices s
  · rw [hout]
    exact draft_sameInvoices kind r _ _ s

/-- A draft is made from the clock and the invoices there are. -/
theorem start_madeFrom (kind : Creation) (r : Request) (s : Server) :
    Yields (kind.start r) (fun draft _ => draft.MadeFrom s) s := by
  intro draft s' hdraft
  rcases start_cases kind r s with ⟨error, hout⟩ | hout
  · rw [hout] at hdraft
    simp at hdraft
  · rw [hout] at hdraft
    exact draft_madeFrom kind r _ _ s draft s' hdraft

/-- At most one invoice is added, with the next id. -/
def MoreInvoices (s t : Server) : Prop :=
  t.db.tables .invoices = s.db.tables .invoices ∧ s.serial .invoices ≤ t.serial .invoices ∨
  ∃ row, intOf row "id" = some (s.serial .invoices) ∧
    t.db.tables .invoices = s.db.tables .invoices ++ [row] ∧
    t.serial .invoices = s.serial .invoices + 1

theorem SameInvoices.more {s t : Server} (h : SameInvoices s t) : MoreInvoices s t :=
  .inl ⟨h.1, h.2.1.ge⟩

theorem intOf_newRow (t : Table) (now id : Int) (columns : Columns) :
    intOf (t.row now (("id", some (.int id)) :: columns)) "id" = some id := rfl

theorem moreInvoices_insertReturning (t : Table) (columns : Columns) (s : Server) :
    MoreInvoices s (outcome (insertReturning t columns) s).2 := by
  by_cases ht : Table.invoices = t
  · subst ht
    rcases outcome_insertReturning_cases s .invoices columns with
      ⟨db, n, s', -, hexec, hout, rfl, -, -, -, hserial⟩ | ⟨s', hout, hdb, hserial, -, -⟩
    · rw [hout]
      refine .inr ⟨_, intOf_newRow .invoices s.now (s.serial .invoices) columns, ?_, ?_⟩
      · rw [Database.insert_tables hexec, if_pos rfl]
      · rw [hserial, Function.update_self]
    · rw [hout]
      refine .inl ⟨congrArg (SQL.Database.tables · _) hdb, ?_⟩
      rw [hserial, Function.update_self]
      exact (lt_add_one _).le
  · exact (sameInvoices_insertReturning ht columns s).more

theorem noSelfReference : ∀ fk ∈ schema.foreignKeys, fk.parent ≠ fk.child := by decide

/-- The second half of a request will be accepted. -/
def Draft.Accepted (s : Server) : Draft → Prop
  | .gatePass _ => True
  | .insert _ t columns _ => s.Clear ∧
      schema.Fits s.db.tables t (t.row s.now (("id", some (.int (s.serial t))) :: columns))

theorem finish_cases (draft : Draft) (s : Server) :
    (draft.Accepted s ∧ ∃ answer s', outcome draft.finish s = (.ok answer, s') ∧
      MoreInvoices s s') ∨
    ¬draft.Accepted s ∧ ∃ error s', outcome draft.finish s = (.error error, s') ∧
      MoreInvoices s s' := by
  cases draft with
  | gatePass newID =>
      have hkept : Keeps SameInvoices (Draft.gatePass newID).finish :=
        sameInvoices_now.bind fun now =>
          (sameInvoices_exec (by decide)).attempt.bind fun _ => keeps_pure _
      have hok : ∃ answer s', outcome (Draft.gatePass newID).finish s = (.ok answer, s') := by
        unfold Draft.finish
        simp only [outcome_bind, outcome_now, outcome_attempt]
        rcases outcome (exec _) s with ⟨error | affected, s'⟩ <;> exact ⟨_, _, rfl⟩
      obtain ⟨answer, s', hout⟩ := hok
      have hmore := (hkept s).more
      rw [hout] at hmore
      exact .inl ⟨trivial, answer, s', hout, hmore⟩
  | insert document t columns answer =>
      have hmore := moreInvoices_insertReturning t columns s
      have hfits := s.db.exec_insert_iff (t := t)
        (t.row s.now (("id", some (.int (s.serial t))) :: columns))
        fun fk hfk hchild hparent => noSelfReference fk hfk (hparent.trans hchild.symm)
      unfold Draft.finish Draft.Accepted
      rcases outcome_insertReturning_cases s t columns with
        ⟨db, n, s', hclear, hexec, hout, -⟩ | ⟨s', hout, -, -, -, hrefused⟩
      · rw [hout] at hmore
        refine .inl ⟨⟨hclear, hfits.mp ⟨db, n, hexec⟩⟩, answer (s.serial t), s', ?_, hmore⟩
        rw [outcome_bind_of_ok hout, outcome_pure]
      · rw [hout] at hmore
        refine .inr ⟨?_, serverError, s', outcome_bind_of_error hout _, hmore⟩
        rintro ⟨hclear, hrow⟩
        obtain ⟨db, n, hexec⟩ := hfits.mpr hrow
        rw [hrefused hclear] at hexec
        simp at hexec


/-! ### A year at the desk -/

/-- Whenever in the year the draft is finished, its document is made in the year. -/
def Draft.Made (year : Int) (opening rows : List (Row Datum)) (draft : Draft) : Prop :=
  ∀ now d, Go.year now = year → draft.document now = some d → d.Made year opening rows

/-- Every document is made in the year, and the invoices' ids come from their sequence. -/
structure Desk.Sound (year : Int) (opening : List (Row Datum)) (desk : Desk) : Prop where
  rising : Rising opening (desk.db.tables .invoices)
  bound : nextNumber (some (desk.db.tables .invoices)) ≤ desk.serial .invoices
  drafted : ∀ key draft, desk.drafts key = some draft →
    draft.Made year opening (desk.db.tables .invoices)
  issued : ∀ d ∈ desk.issued, d.Made year opening (desk.db.tables .invoices)

section

variable {year : Int} {opening rows more : List (Row Datum)} {desk desk' : Desk}

theorem Document.Made.mono {d : Document} (h : d.Made year opening rows) (hrows : rows <+: more) :
    d.Made year opening more where
  number := h.number
  read := fun read hread => ⟨(h.read read hread).1, (h.read read hread).2.trans hrows⟩

theorem Draft.MadeFrom.made {draft : Draft} {s : Server} (h : draft.MadeFrom s)
    (hyear : Go.year s.now = year) (hrows : opening <+: s.db.tables .invoices) :
    draft.Made year opening (s.db.tables .invoices) := by
  intro now d hnow hd
  cases draft with
  | gatePass newID =>
      obtain rfl := Option.some.inj hd
      exact ⟨by rw [← hnow]; rfl, fun read hread => by simp [Document.make] at hread⟩
  | insert document t columns answer =>
      have hmade := h d hd
      refine ⟨by rw [hmade.number, hyear], fun read hread => ?_⟩
      rw [hmade.read read hread]
      exact ⟨hrows, List.prefix_refl _⟩

/-- Half a request keeps the order of the invoices' ids. -/
theorem MoreInvoices.rising {s t : Server} (h : MoreInvoices s t)
    (hrising : Rising opening (s.db.tables .invoices))
    (hbound : nextNumber (some (s.db.tables .invoices)) ≤ s.serial .invoices) :
    s.db.tables .invoices <+: t.db.tables .invoices ∧ Rising opening (t.db.tables .invoices) ∧
      nextNumber (some (t.db.tables .invoices)) ≤ t.serial .invoices := by
  rcases h with ⟨hrows, hserial⟩ | ⟨row, hid, hrows, hserial⟩
  · rw [hrows]
    exact ⟨List.prefix_refl _, hrising, hbound.trans hserial⟩
  · have hnext := nextNumber_concat hid hbound
    rw [hrows, hserial]
    refine ⟨List.prefix_append _ _, hrising.concat ?_, hnext.le⟩
    rw [hnext]
    exact Int.lt_add_one_of_le hbound

/-- Half a request that leaves a sound draft leaves a sound desk. -/
theorem Desk.Sound.left (h : desk.Sound year opening) {circumstances s : Server}
    (hmore : MoreInvoices (desk.found circumstances) s) (key : Nat) {draft : Option Draft}
    (hdraft : ∀ d, draft = some d → d.Made year opening (desk.db.tables .invoices)) :
    (desk.left s key draft).Sound year opening ∧
      desk.db.tables .invoices <+: s.db.tables .invoices := by
  obtain ⟨hrows, hrising, hbound⟩ := hmore.rising h.rising h.bound
  refine ⟨⟨hrising, hbound, fun other d hd => ?_, fun d hd => (h.issued d hd).mono hrows⟩, hrows⟩
  have hmade : d.Made year opening (desk.db.tables .invoices) := by
    by_cases hother : other = key
    · subst hother
      exact hdraft d (by simpa [Desk.left] using hd)
    · exact h.drafted other d (by simpa [Desk.left, hother] using hd)
  exact fun now document hnow hdocument => (hmade now document hnow hdocument).mono hrows

/-- What half a request can do at the desk. -/
theorem Desk.step_cases {event : DeskEvent} (h : desk.step year event = some desk') :
    (∃ key kind r circumstances draft s, event = .start key kind r circumstances ∧
      Go.year circumstances.now = year ∧ MoreInvoices (desk.found circumstances) s ∧
      (∀ d, draft = some d → d.MadeFrom (desk.found circumstances)) ∧
      desk' = desk.left s key draft) ∨
    ∃ key circumstances draft s new, event = .finish key circumstances ∧
      Go.year circumstances.now = year ∧ MoreInvoices (desk.found circumstances) s ∧
      desk.drafts key = some draft ∧
      (∀ d, new = some d ↔ draft.Accepted (desk.found circumstances) ∧
        draft.document circumstances.now = some d) ∧
      desk' = { desk.left s key none with issued := desk.issued ++ new.toList } := by
  cases event with
  | start key kind r circumstances =>
      have hmore := (start_sameInvoices kind r (desk.found circumstances)).more
      have hmade := start_madeFrom kind r (desk.found circumstances)
      rw [Desk.step] at h
      split at h
      · rename_i hfree
        rcases hout : outcome (kind.start r) (desk.found circumstances) with ⟨error | draft, s⟩
        · rw [hout] at h hmore
          obtain rfl := Option.some.inj h
          exact .inl ⟨key, kind, r, circumstances, none, s, rfl, hfree.2, hmore, by simp, rfl⟩
        · rw [hout] at h hmore
          obtain rfl := Option.some.inj h
          refine .inl ⟨key, kind, r, circumstances, some draft, s, rfl, hfree.2, hmore, ?_, rfl⟩
          intro d hd
          obtain rfl := Option.some.inj hd
          exact hmade draft s hout
      · simp at h
  | finish key circumstances =>
      rw [Desk.step] at h
      split at h
      · simp at h
      · rename_i draft hdraft
        split at h
        · rename_i hyear
          rcases finish_cases draft (desk.found circumstances) with
            ⟨haccepted, answer, s, hout, hmore⟩ | ⟨hrefused, error, s, hout, hmore⟩
          · rw [hout] at h
            obtain rfl := Option.some.inj h
            exact .inr ⟨key, circumstances, draft, s, draft.document circumstances.now, rfl, hyear,
              hmore, hdraft, by simp [haccepted], rfl⟩
          · rw [hout] at h
            obtain rfl := Option.some.inj h
            exact .inr ⟨key, circumstances, draft, s, none, rfl, hyear, hmore, hdraft,
              by simp [hrefused], by simp [Desk.left]⟩
        · simp at h

/-- **Every half of a request keeps the desk sound.** -/
theorem Desk.Sound.step (h : desk.Sound year opening) {event : DeskEvent}
    (hstep : desk.step year event = some desk') : desk'.Sound year opening := by
  rcases Desk.step_cases hstep with
    ⟨key, kind, r, circumstances, draft, s, rfl, hyear, hmore, hdraft, rfl⟩ |
    ⟨key, circumstances, draft, s, new, rfl, hyear, hmore, hdraft, hnew, rfl⟩
  · exact (h.left hmore key fun d hd => (hdraft d hd).made hyear h.rising.opens).1
  · have hnone : ∀ d : Draft, none = some d → d.Made year opening (desk.db.tables .invoices) :=
      fun d hd => by simp at hd
    obtain ⟨hsound, hrows⟩ := h.left hmore key hnone
    refine ⟨hsound.rising, hsound.bound, hsound.drafted, fun d hd => ?_⟩
    rcases List.mem_append.mp hd with hold | hd
    · exact hsound.issued d hold
    · have hdocument := ((hnew d).mp (Option.mem_toList.mp hd)).2
      exact (h.drafted key draft hdraft circumstances.now d hyear hdocument).mono hrows

/-- No two documents of a kind have the same number. -/
def Desk.Unique (desk : Desk) : Prop :=
  desk.issued.Pairwise fun d e => d.origin.SameKind e.origin → d.number ≠ e.number

/-- The document that a request is about to issue clashes with no earlier one. -/
def Desk.NewNumber (desk : Desk) : DeskEvent → Prop
  | .start .. => True
  | .finish key circumstances => ∀ draft, desk.drafts key = some draft →
      draft.Accepted (desk.found circumstances) →
      ∀ d, draft.document circumstances.now = some d →
        ∀ e ∈ desk.issued, ¬e.origin.Clash d.origin

theorem Origin.Clash.sameKind {a b : Origin} (h : a.Clash b) : a.SameKind b := by
  cases a <;> cases b <;> trivial

/-- **A document has a new number of its kind exactly if its origin clashes with no other.** -/
theorem newNumber_iff (hrising : Rising opening rows) (hopening : 0 < nextNumber (some opening))
    {d e : Document} (he : e.Made year opening rows) (hd : d.Made year opening rows) :
    (e.origin.SameKind d.origin → e.number ≠ d.number) ↔ ¬e.origin.Clash d.origin := by
  constructor
  · intro hnew hclash
    exact hnew hclash.sameKind ((number_eq_iff hrising hopening he hd hclash.sameKind).mpr hclash)
  · intro hclash hkind hsame
    exact hclash ((number_eq_iff hrising hopening he hd hkind).mp hsame)

theorem unique_issue (desk : Desk) (new : Option Document) :
    (desk.issued ++ new.toList).Pairwise
        (fun d e => d.origin.SameKind e.origin → d.number ≠ e.number) ↔
      desk.Unique ∧ ∀ d, new = some d → ∀ e ∈ desk.issued,
        e.origin.SameKind d.origin → e.number ≠ d.number := by
  cases new with
  | none => simp [Desk.Unique]
  | some d => simp [Desk.Unique, List.pairwise_append]

theorem Desk.unique_step_iff (h : desk.Sound year opening)
    (hopening : 0 < nextNumber (some opening)) (hunique : desk.Unique) {event : DeskEvent}
    (hstep : desk.step year event = some desk') : desk'.Unique ↔ desk.NewNumber event := by
  rcases Desk.step_cases hstep with
    ⟨key, kind, r, circumstances, draft, s, rfl, hyear, hmore, hdraft, rfl⟩ |
    ⟨key, circumstances, draft, s, new, rfl, hyear, hmore, hdraft, hnew, rfl⟩
  · exact ⟨fun _ => trivial, fun _ => hunique⟩
  · have hmade : ∀ d, draft.document circumstances.now = some d →
        d.Made year opening (desk.db.tables .invoices) := fun d hd =>
      h.drafted key draft hdraft circumstances.now d hyear hd
    refine (unique_issue desk new).trans ?_
    constructor
    · rintro ⟨-, hlast⟩ draft' hdraft' haccepted d hd e he
      obtain rfl : draft = draft' := Option.some.inj (hdraft.symm.trans hdraft')
      exact (newNumber_iff h.rising hopening (h.issued e he) (hmade d hd)).mp
        (hlast d ((hnew d).mpr ⟨haccepted, hd⟩) e he)
    · intro hclash
      refine ⟨hunique, fun d hd e he => ?_⟩
      obtain ⟨haccepted, hdocument⟩ := (hnew d).mp hd
      exact (newNumber_iff h.rising hopening (h.issued e he) (hmade d hdocument)).mpr
        (hclash draft hdraft haccepted d hdocument e he)

end

/-- A desk where no request is in flight, and the ids of the invoices come from a sequence. -/
structure Desk.Opens (desk : Desk) : Prop where
  drafts : ∀ key, desk.drafts key = none
  issued : desk.issued = []
  serial : 0 < desk.serial .invoices
  ids : ∀ row ∈ desk.db.tables .invoices, ∀ id, intOf row "id" = some id →
    0 < id ∧ id < desk.serial .invoices

theorem Desk.Opens.sound {desk : Desk} (h : desk.Opens) (year : Int) :
    desk.Sound year (desk.db.tables .invoices) where
  rising := ⟨List.prefix_refl _, fun read row hread hrow => by
    have hlength := hrow.length_le.trans hread.length_le
    simp at hlength⟩
  bound := (nextNumber_bounds h.serial h.ids).2
  drafted := fun key draft hdraft => by simp [h.drafts key] at hdraft
  issued := fun d hd => by simp [h.issued] at hd

/-- **No number is issued twice in a year exactly if no document clashes with an earlier one.** -/
theorem numbers_unique_iff {year : Int} {opening : Desk} (hopens : opening.Opens)
    (events : List DeskEvent) :
    (desk year opening).AllStates Desk.Unique opening events ↔
      (desk year opening).AllSteps Desk.NewNumber opening events := by
  refine Machine.allStates_iff_allSteps (m := desk year opening)
    (I := Desk.Sound year (opening.db.tables .invoices)) ?_ ?_ events opening
    (hopens.sound year) ?_
  · exact fun current event next hsound hstep => hsound.step hstep
  · intro current event next hsound hunique hstep
    exact Desk.unique_step_iff hsound (nextNumber_bounds hopens.serial hopens.ids).1 hunique hstep
  · rw [Desk.Unique, hopens.issued]
    exact List.Pairwise.nil

/-! ### Two invoices at a time -/

/-- The desk of a company without anything. -/
def newDesk : Desk := ⟨newCompany, fun _ => 1, fun _ => none, []⟩

/-- A request for an invoice without a number. -/
def invoiceRequest : Request where
  session := ⟨9, 1, "accounts", "admin"⟩
  id := none
  type := ""
  companyID := none
  body := .ok .empty

/-- The first half of a request for an invoice. -/
def startInvoice (key : Nat) : DeskEvent :=
  .start key .invoice invoiceRequest (calm newCompany .lenient [])

/-- The second half of a request for an invoice. -/
def finishInvoice (key : Nat) : DeskEvent := .finish key (calm newCompany .lenient [])

instance : DecidableRel Origin.SameKind := fun a b => by
  cases a <;> cases b <;> first | exact isTrue trivial | exact isFalse id

instance (desk : Desk) : Decidable desk.Unique :=
  inferInstanceAs (Decidable (desk.issued.Pairwise _))

/-- **Two invoices read for at once have one number.** -/
theorem crossingInvoices_not_unique :
    ∃ closing, (desk 1970 newDesk).run newDesk
        [startInvoice 1, startInvoice 2, finishInvoice 1, finishInvoice 2] = some closing ∧
      closing.issued.map (·.number) = ["INV-1970-0001", "INV-1970-0001"] ∧ ¬closing.Unique := by
  refine ⟨_, rfl, ?_, ?_⟩
  · decide +kernel
  · decide +kernel

theorem newDesk_opens : newDesk.Opens where
  drafts := fun key => rfl
  issued := rfl
  serial := by decide
  ids := fun row hrow => by simp [newDesk, newCompany] at hrow

/-- One invoice after the other. -/
theorem orderlyInvoices_unique :
    (desk 1970 newDesk).AllStates Desk.Unique newDesk
      [startInvoice 1, finishInvoice 1, startInvoice 2, finishInvoice 2] := by
  refine (numbers_unique_iff newDesk_opens _).mpr ?_
  intro s₁ h₁
  refine ⟨trivial, fun s₂ h₂ => ⟨?_, fun s₃ h₃ => ⟨trivial, fun s₄ h₄ => ⟨?_, trivial⟩⟩⟩⟩
  · intro draft _ _ d _ e he
    obtain rfl := Option.some.inj h₁
    simp [Desk.left, newDesk] at he
  · intro draft hdraft _ d hd e he hclash
    obtain rfl := Option.some.inj h₁
    obtain rfl := Option.some.inj h₂
    obtain rfl := Option.some.inj h₃
    obtain rfl := Option.some.inj hdraft
    obtain rfl := Option.some.inj hd
    obtain rfl := List.mem_singleton.mp he
    have hread : some ([] : List (Row Datum)) = some [_] := hclash
    simp at hread

end RudraNetra.API
