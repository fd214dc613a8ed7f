/-
Machines that take labelled steps.

A `Machine` is an initial state and a step function: `step s a` is the state after the
step `a`, or nothing if `a` cannot happen in `s`.  The same function replays a given run
(`run`) and is what invariants are proved about (`Reachable.invariant`).

Some properties hold of a run only if its steps are of a certain kind.  `AllStates` says
that every state of a run has a property and `AllSteps` that every step is of a kind;
if a step keeps the property exactly when it is of the kind, then so do whole runs
(`allStates_iff_allSteps`).
-/
import Mathlib

/-- A transition system with labelled steps. -/
structure Machine (σ α : Type) where
  init : σ
  step : σ → α → Option σ

namespace Machine

variable {σ α : Type} (m : Machine σ α)

/-- The state after a run, if each of its steps can happen. -/
def run : σ → List α → Option σ
  | s, [] => some s
  | s, a :: as => (m.step s a).bind fun s' => run s' as

/-- The states that runs from the initial state come to. -/
inductive Reachable : σ → Prop where
  | init : Reachable m.init
  | step {s s' : σ} {a : α} (h : Reachable s) (hstep : m.step s a = some s') : Reachable s'

variable {m}

/-- What holds at the beginning and is kept by every step holds in every reachable state. -/
theorem Reachable.invariant {P : σ → Prop} (hinit : P m.init)
    (hstep : ∀ s a s', P s → m.step s a = some s' → P s') {s : σ} (h : m.Reachable s) : P s := by
  induction h with
  | init => exact hinit
  | step _ h ih => exact hstep _ _ _ ih h

theorem run_cons {s s' : σ} {a : α} {as : List α} (h : m.step s a = some s') :
    m.run s (a :: as) = m.run s' as := by
  rw [run, h, Option.bind_some]

theorem run_singleton {s s' : σ} {a : α} (h : m.step s a = some s') : m.run s [a] = some s' :=
  run_cons h

/-- Runs are put together end to end. -/
theorem run_append {as bs : List α} : ∀ {s s' : σ}, m.run s as = some s' →
    m.run s (as ++ bs) = m.run s' bs := by
  induction as with
  | nil =>
      intro s s' h
      obtain rfl := Option.some.inj h
      rfl
  | cons a as ih =>
      intro s s' h
      obtain ⟨s₁, hstep, hrun⟩ := Option.bind_eq_some_iff.mp h
      rw [List.cons_append, run_cons hstep, ih hrun]

/-- A run over inputs end to end comes through a state in between. -/
theorem run_append_eq_some {as bs : List α} : ∀ {s t : σ},
    m.run s (as ++ bs) = some t ↔ ∃ u, m.run s as = some u ∧ m.run u bs = some t := by
  induction as with
  | nil => simp [run]
  | cons a as ih =>
      intro s t
      simp only [List.cons_append, run, Option.bind_eq_some_iff, ih]
      constructor
      · rintro ⟨s₁, hstep, u, has, hbs⟩
        exact ⟨u, ⟨s₁, hstep, has⟩, hbs⟩
      · rintro ⟨u, ⟨s₁, hstep, has⟩, hbs⟩
        exact ⟨s₁, hstep, u, has, hbs⟩

/-- A run from a reachable state stays in reachable states. -/
theorem Reachable.run {as : List α} : ∀ {s s' : σ}, m.Reachable s → m.run s as = some s' →
    m.Reachable s' := by
  induction as with
  | nil =>
      intro s s' hs h
      obtain rfl := Option.some.inj h
      exact hs
  | cons a as ih =>
      intro s s' hs h
      obtain ⟨s₁, hstep, hrun⟩ := Option.bind_eq_some_iff.mp h
      exact ih (hs.step hstep) hrun

variable (m) in
/-- Every state of a run has the property. -/
def AllStates (P : σ → Prop) : σ → List α → Prop
  | s, [] => P s
  | s, a :: as => P s ∧ ∀ s', m.step s a = some s' → AllStates P s' as

variable (m) in
/-- Every step of a run is of the kind. -/
def AllSteps (Q : σ → α → Prop) : σ → List α → Prop
  | _, [] => True
  | s, a :: as => ∀ s', m.step s a = some s' → Q s a ∧ AllSteps Q s' as

theorem AllStates.head {P : σ → Prop} {s : σ} {as : List α} (h : m.AllStates P s as) : P s := by
  obtain _ | _ := as
  · exact h
  · exact h.1

theorem allSteps_cons_iff {Q : σ → α → Prop} {s s' : σ} {a : α} {as : List α}
    (hstep : m.step s a = some s') : m.AllSteps Q s (a :: as) ↔ Q s a ∧ m.AllSteps Q s' as := by
  refine ⟨fun h => h s' hstep, fun h t ht => ?_⟩
  obtain rfl : s' = t := Option.some.inj (hstep.symm.trans ht)
  exact h

/-- A run is checked step by step. -/
instance decidableAllSteps (Q : σ → α → Prop) [∀ s a, Decidable (Q s a)] :
    ∀ (s : σ) (as : List α), Decidable (m.AllSteps Q s as)
  | _, [] => isTrue trivial
  | s, a :: as =>
    match h : m.step s a with
    | none => isTrue fun s' hs' => by rw [h] at hs'; cases hs'
    | some s' =>
      have := decidableAllSteps Q s' as
      decidable_of_iff (Q s a ∧ m.AllSteps Q s' as) (allSteps_cons_iff h).symm

/-- All steps of a run are of a kind, if each of them is wherever it is taken. -/
theorem allSteps_of_mem {Q : σ → α → Prop} :
    ∀ (as : List α), (∀ a ∈ as, ∀ s, Q s a) → ∀ s, m.AllSteps Q s as := by
  intro as
  induction as with
  | nil => exact fun _ _ => trivial
  | cons a as ih =>
      intro h s s' _
      exact ⟨h a List.mem_cons_self s, ih (fun b hb => h b (List.mem_cons_of_mem a hb)) s'⟩

/-- What steps of a kind keep holds along a run whose steps are all of that kind. -/
theorem allStates_of_allSteps {I P : σ → Prop} {Q : σ → α → Prop}
    (hstep : ∀ s a s', I s → Q s a → m.step s a = some s' → I s') (hP : ∀ s, I s → P s) :
    ∀ (as : List α) (s : σ), I s → m.AllSteps Q s as → m.AllStates P s as := by
  intro as
  induction as with
  | nil => exact fun s hI _ => hP s hI
  | cons a as ih =>
      intro s hI hall
      refine ⟨hP s hI, fun s' hs' => ?_⟩
      obtain ⟨hQ, hrest⟩ := hall s' hs'
      exact ih s' (hstep s a s' hI hQ hs') hrest

/-- Under an invariant that every step keeps all steps of a run are of a kind. -/
theorem allSteps_of_invariant {I : σ → Prop} {Q : σ → α → Prop}
    (hstep : ∀ s a s', I s → m.step s a = some s' → Q s a ∧ I s') :
    ∀ (as : List α) (s : σ), I s → m.AllSteps Q s as := by
  intro as
  induction as with
  | nil => exact fun _ _ => trivial
  | cons a as ih =>
      intro s hI s' hs'
      obtain ⟨hQ, hI'⟩ := hstep s a s' hI hs'
      exact ⟨hQ, ih s' hI'⟩

/-- Two kinds of steps that are the same under an invariant that they keep. -/
theorem allSteps_congr {I : σ → Prop} {P Q : σ → α → Prop}
    (hinv : ∀ s a s', I s → P s a → m.step s a = some s' → I s')
    (hstep : ∀ s a, I s → (P s a ↔ Q s a)) :
    ∀ (as : List α) (s : σ), I s → (m.AllSteps P s as ↔ m.AllSteps Q s as) := by
  intro as
  induction as with
  | nil => exact fun _ _ => Iff.rfl
  | cons a as ih =>
      intro s hI
      constructor
      · intro hall s' hs'
        obtain ⟨hP, hrest⟩ := hall s' hs'
        exact ⟨(hstep s a hI).mp hP, (ih s' (hinv s a s' hI hP hs')).mp hrest⟩
      · intro hall s' hs'
        obtain ⟨hQ, hrest⟩ := hall s' hs'
        have hP := (hstep s a hI).mpr hQ
        exact ⟨hP, (ih s' (hinv s a s' hI hP hs')).mpr hrest⟩

/-- If, under an invariant, a step keeps a property exactly if it is of a kind, then the property
holds along a run exactly if all its steps are of that kind.  The invariant may need the property. -/
theorem allStates_iff_allSteps_of {I P : σ → Prop} {Q : σ → α → Prop}
    (hinv : ∀ s a s', I s → P s → P s' → m.step s a = some s' → I s')
    (hstep : ∀ s a s', I s → P s → m.step s a = some s' → (P s' ↔ Q s a)) :
    ∀ (as : List α) (s : σ), I s → P s → (m.AllStates P s as ↔ m.AllSteps Q s as) := by
  intro as
  induction as with
  | nil => exact fun _ _ hP => ⟨fun _ => trivial, fun _ => hP⟩
  | cons a as ih =>
      intro s hI hP
      constructor
      · intro hall s' hs'
        have hrest := hall.2 s' hs'
        have hP' : P s' := hrest.head
        exact ⟨(hstep s a s' hI hP hs').mp hP', (ih s' (hinv s a s' hI hP hP' hs') hP').mp hrest⟩
      · intro hall
        refine ⟨hP, fun s' hs' => ?_⟩
        obtain ⟨hQ, hrest⟩ := hall s' hs'
        have hP' : P s' := (hstep s a s' hI hP hs').mpr hQ
        exact (ih s' (hinv s a s' hI hP hP' hs') hP').mpr hrest

/-- The same with an invariant of its own. -/
theorem allStates_iff_allSteps {I P : σ → Prop} {Q : σ → α → Prop}
    (hinv : ∀ s a s', I s → m.step s a = some s' → I s')
    (hstep : ∀ s a s', I s → P s → m.step s a = some s' → (P s' ↔ Q s a)) :
    ∀ (as : List α) (s : σ), I s → P s → (m.AllStates P s as ↔ m.AllSteps Q s as) :=
  allStates_iff_allSteps_of (fun s a s' hI _ _ hs' => hinv s a s' hI hs') hstep

end Machine
