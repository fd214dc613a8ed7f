/-
The thresholds that the events of a company are measured against.

`rules` begins with the defaults whenever it asks for the settings, and keeps what it has
then for a minute, whether there was an answer or not.  So a query that fails does not leave
the thresholds as they were read before: it puts the defaults in their place.  They are
those of the last successful read exactly as long as no query fails for a company that has
others than the defaults (`thresholds_read_iff`).

A `QueryLog` is the engine beside a record of the queries it made.
-/
import RudraNetra.Lib.Machine
import RudraNetra.Proofs.Independence

namespace RudraNetra

open Go

/-! ### When the settings are asked for -/

/-- There are no rules of the company, or they are a minute old. -/
def Engine.asks (e : Engine) (a : Arrival) : Bool :=
  match e.companies.lookup a.event.companyID with
  | none => true
  | some rules => rulesCacheTTL ≤ sub a.checkedAt rules.loadedAt

theorem Engine.rules_of_asks {e : Engine} {a : Arrival} (h : e.asks a = true) :
    e.rules a = a.loadRules := by
  unfold Engine.asks at h
  cases hkept : e.companies.lookup a.event.companyID with
  | none => rw [Engine.rules, hkept]
  | some rules =>
      rw [hkept] at h
      rw [Engine.rules_of_kept hkept, if_neg (Int.not_lt.mpr (of_decide_eq_true h))]

/-- Rules that are not asked for are kept, and younger than a minute. -/
theorem Engine.rules_of_not_asks {e : Engine} {a : Arrival} (h : e.asks a = false) :
    e.companies.lookup a.event.companyID = some (e.rules a) ∧
      sub a.checkedAt (e.rules a).loadedAt < rulesCacheTTL := by
  unfold Engine.asks at h
  cases hkept : e.companies.lookup a.event.companyID with
  | none => simp [hkept] at h
  | some rules =>
      rw [hkept] at h
      have hyoung : sub a.checkedAt rules.loadedAt < rulesCacheTTL :=
        Int.not_le.mp (of_decide_eq_false h)
      rw [Engine.rules_of_kept hkept, if_pos hyoung]
      exact ⟨rfl, hyoung⟩

theorem Arrival.loadRules_loadedAt (a : Arrival) : a.loadRules.loadedAt = a.loadedAt := by
  unfold Arrival.loadRules
  rcases a.settings with _ | ⟨speed, idle⟩
  · rfl
  · rfl

theorem Engine.lookup_evaluate (e : Engine) (a : Arrival) :
    (e.evaluate a).1.companies.lookup a.event.companyID = some (e.rules a) :=
  Finmap.lookup_insert _

theorem Engine.lookup_evaluate_of_ne (e : Engine) {a : Arrival} {companyID : Int}
    (h : companyID ≠ a.event.companyID) :
    (e.evaluate a).1.companies.lookup companyID = e.companies.lookup companyID :=
  Finmap.lookup_insert_of_ne _ h

/-! ### The queries of a run -/

/-- The engine, and the arrivals at which it asked for the settings, the last one first. -/
structure QueryLog where
  engine : Engine
  queries : List Arrival

namespace QueryLog

def arrive (w : QueryLog) (a : Arrival) : QueryLog where
  engine := (w.engine.evaluate a).1
  queries := if w.engine.asks a then a :: w.queries else w.queries

/-- The last query for a company. -/
def lastQuery (w : QueryLog) (companyID : Int) : Option Arrival :=
  w.queries.find? (·.event.companyID = companyID)

/-- The last query for a company that succeeded. -/
def lastRead (w : QueryLog) (companyID : Int) : Option Arrival :=
  w.queries.find? fun q => q.event.companyID = companyID ∧ q.settings.isSome

/-- The thresholds that were read last, or else the defaults. -/
def readThresholds (w : QueryLog) (companyID : Int) : Int × Int :=
  thresholds ((w.lastRead companyID).bind (·.settings))

/-- An event is measured against the thresholds that were read last. -/
def UsesRead (w : QueryLog) (a : Arrival) : Prop :=
  (w.engine.rules a).thresholds = (w.arrive a).readThresholds a.event.companyID

/-- A query fails for a company with other thresholds than the defaults. -/
def Interrupted (w : QueryLog) (a : Arrival) : Prop :=
  w.engine.asks a = true ∧ a.settings = none ∧
    w.readThresholds a.event.companyID ≠ thresholds none

/-- If the last query succeeded, it was made for this event or is younger than a minute. -/
def Recent (w : QueryLog) (a : Arrival) : Prop :=
  ∃ q, (w.arrive a).lastQuery a.event.companyID = some q ∧
    (q.settings.isSome → (w.arrive a).lastRead a.event.companyID = some q ∧
      (q = a ∨ sub a.checkedAt q.loadedAt < rulesCacheTTL))

/-! ### One event -/

theorem arrive_of_not_asks {w : QueryLog} {a : Arrival} (h : w.engine.asks a = false) :
    (w.arrive a).queries = w.queries := by
  simp [arrive, h]

theorem arrive_of_asks {w : QueryLog} {a : Arrival} (h : w.engine.asks a = true) :
    (w.arrive a).queries = a :: w.queries := by
  simp [arrive, h]

/-- Only what is read for a company changes its thresholds. -/
theorem readThresholds_arrive (w : QueryLog) (a : Arrival) (companyID : Int) :
    (w.arrive a).readThresholds companyID =
      if w.engine.asks a = true ∧ a.event.companyID = companyID ∧ a.settings.isSome = true then
        thresholds a.settings
      else w.readThresholds companyID := by
  unfold readThresholds lastRead
  cases hasks : w.engine.asks a with
  | false => simp [arrive_of_not_asks hasks]
  | true =>
      rw [arrive_of_asks hasks, List.find?_cons]
      by_cases hown : a.event.companyID = companyID ∧ a.settings.isSome = true
      · simp [hown]
      · simp [hown]

/-- The rules that are kept have the thresholds that were read last. -/
def Kept (w : QueryLog) : Prop :=
  ∀ companyID rules, w.engine.companies.lookup companyID = some rules →
    rules.thresholds = w.readThresholds companyID

theorem Kept.arrive {w : QueryLog} {a : Arrival} (h : w.Kept) (huses : w.UsesRead a) :
    (w.arrive a).Kept := by
  intro companyID rules hlookup
  by_cases hown : companyID = a.event.companyID
  · subst hown
    obtain rfl := Option.some.inj ((w.engine.lookup_evaluate a).symm.trans hlookup)
    exact huses
  · have hother := (w.engine.lookup_evaluate_of_ne hown).symm.trans hlookup
    rw [readThresholds_arrive, if_neg (fun hread => hown hread.2.1.symm)]
    exact h companyID rules hother

/-- An event is measured so unless the settings are asked for and not given. -/
theorem Kept.usesRead_iff {w : QueryLog} {a : Arrival} (h : w.Kept) :
    w.UsesRead a ↔ ¬w.Interrupted a := by
  unfold UsesRead Interrupted
  rw [readThresholds_arrive]
  cases hasks : w.engine.asks a with
  | false =>
      simp [h _ _ (Engine.rules_of_not_asks hasks).1]
  | true =>
      rw [Engine.rules_of_asks hasks, Arrival.loadRules_thresholds]
      cases hsettings : a.settings with
      | none => simp [eq_comm]
      | some settings => simp

/-- The rules that are kept are those that the last query left. -/
def Loaded (w : QueryLog) : Prop :=
  ∀ companyID rules, w.engine.companies.lookup companyID = some rules →
    ∃ q, w.lastQuery companyID = some q ∧ q.loadRules = rules

theorem lastQuery_arrive_of_ne (w : QueryLog) {a : Arrival} {companyID : Int}
    (h : companyID ≠ a.event.companyID) :
    (w.arrive a).lastQuery companyID = w.lastQuery companyID := by
  unfold lastQuery
  cases hasks : w.engine.asks a with
  | false => rw [arrive_of_not_asks hasks]
  | true => rw [arrive_of_asks hasks, List.find?_cons_of_neg (by simpa using h.symm)]

/-- After an event its company's rules are those that the last query left. -/
theorem Loaded.own {w : QueryLog} (h : w.Loaded) (a : Arrival) :
    ∃ q, (w.arrive a).lastQuery a.event.companyID = some q ∧ q.loadRules = w.engine.rules a ∧
      (q = a ∨ sub a.checkedAt q.loadedAt < rulesCacheTTL) := by
  unfold lastQuery
  cases hasks : w.engine.asks a with
  | false =>
      obtain ⟨hkept, hyoung⟩ := Engine.rules_of_not_asks hasks
      obtain ⟨q, hq, hrules⟩ := h _ _ hkept
      rw [arrive_of_not_asks hasks]
      refine ⟨q, hq, hrules, .inr ?_⟩
      rwa [← hrules, q.loadRules_loadedAt] at hyoung
  | true =>
      rw [arrive_of_asks hasks, List.find?_cons_of_pos (by simp), Engine.rules_of_asks hasks]
      exact ⟨a, rfl, rfl, .inl rfl⟩

theorem Loaded.arrive {w : QueryLog} (h : w.Loaded) (a : Arrival) : (w.arrive a).Loaded := by
  intro companyID rules hlookup
  by_cases hown : companyID = a.event.companyID
  · subst hown
    obtain rfl := Option.some.inj ((w.engine.lookup_evaluate a).symm.trans hlookup)
    obtain ⟨q, hq, hrules, -⟩ := h.own a
    exact ⟨q, hq, hrules⟩
  · rw [w.lastQuery_arrive_of_ne hown]
    exact h companyID rules ((w.engine.lookup_evaluate_of_ne hown).symm.trans hlookup)

/-- A last query that succeeded is the last that did. -/
theorem lastRead_of_lastQuery {w : QueryLog} {companyID : Int} {q : Arrival}
    (h : w.lastQuery companyID = some q) (hread : q.settings.isSome = true) :
    w.lastRead companyID = some q := by
  unfold lastQuery at h
  unfold lastRead
  obtain ⟨hown, pre, post, hqueries, hpre⟩ := List.find?_eq_some_iff_append.mp h
  refine List.find?_eq_some_iff_append.mpr ⟨by simp_all, pre, post, hqueries, ?_⟩
  intro x hx
  have hother := hpre x hx
  simp_all

theorem Loaded.recent {w : QueryLog} (h : w.Loaded) (a : Arrival) : w.Recent a := by
  obtain ⟨q, hq, -, hage⟩ := h.own a
  exact ⟨q, hq, fun hread => ⟨lastRead_of_lastQuery hq hread, hage⟩⟩

end QueryLog

/-! ### Runs -/

/-- The engine takes one event after the other. -/
def queryLog : Machine QueryLog Arrival where
  init := ⟨Engine.new, []⟩
  step w a := some (w.arrive a)

/-- **Every event is measured against the thresholds read last, exactly if no query fails for a
company that has others than the defaults**; and if the last query succeeded, it is recent. -/
theorem thresholds_read_iff (arrivals : List Arrival) :
    (queryLog.AllSteps QueryLog.UsesRead queryLog.init arrivals ↔
      queryLog.AllSteps (fun w a => ¬w.Interrupted a) queryLog.init arrivals) ∧
    queryLog.AllSteps QueryLog.Recent queryLog.init arrivals := by
  have hnone : ∀ companyID, queryLog.init.engine.companies.lookup companyID = none :=
    fun companyID => Finmap.lookup_empty companyID
  constructor
  · refine Machine.allSteps_congr (I := QueryLog.Kept) ?_ (fun w a h => h.usesRead_iff) _ _ ?_
    · intro w a w' h huses hstep
      obtain rfl := Option.some.inj hstep
      exact h.arrive huses
    · intro companyID rules hlookup
      simp [hnone] at hlookup
  · refine Machine.allSteps_of_invariant (I := QueryLog.Loaded) ?_ _ _ ?_
    · intro w a w' h hstep
      obtain rfl := Option.some.inj hstep
      exact ⟨h.recent a, h.arrive a⟩
    · intro companyID rules hlookup
      simp [hnone] at hlookup

/-- A vehicle at 90 km/h. -/
def fastEvent : LiveEvent := { standingEvent with speed := 90 }

/-- It may go at 120, and a minute later the settings cannot be read. -/
def outage : List Arrival :=
  [⟨fastEvent, 0, 0, 0, some (120, 30)⟩,
    ⟨fastEvent, 60000000000, 60000000000, 60000000000, none⟩]

/-- The second event is measured against the defaults. -/
theorem outage_not_usesRead : ¬queryLog.AllSteps QueryLog.UsesRead queryLog.init outage := by
  intro h
  have hsecond := ((h _ rfl).2 _ rfl).1
  revert hsecond
  unfold QueryLog.UsesRead
  decide +kernel

end RudraNetra
