/-
Machines made of components around a shared state.

A component has a state of its own, and its steps read and change that and the shared
state.  Components join at any time, and the steps of all of them come in any order.  A
run of one component is a run of the whole (`run_on`).

Three rules lift what is shown of one step of one component to all runs.  What every
step of a component keeps is true of all components (`Keeps.all`).  If the shared state
and the component log the same additions, then the shared log is what all components
logged, in some order (`Keeps.log_perm`).  If whatever is promised in the shared state is
backed by the component that added it, and stays backed, then every promise is backed by
some component (`Keeps.backed`).
-/
import RudraNetra.Lib.Machine

/-- A component with states `τ` around a shared state `σ`. -/
structure Component (σ τ α : Type) where
  fresh : τ
  step : σ → τ → α → Option (τ × σ)

namespace Component

/-- The shared state and the components that have joined. -/
structure State (σ τ : Type) where
  shared : σ
  parts : List τ

inductive Event (α : Type) where
  | join
  | on (i : Nat) (a : α)

variable {σ τ α : Type} (c : Component σ τ α)

def stepAll (s : State σ τ) : Event α → Option (State σ τ)
  | .join => some { s with parts := s.parts ++ [c.fresh] }
  | .on i a => do
    let t ← s.parts[i]?
    let (t, shared) ← c.step s.shared t a
    return ⟨shared, s.parts.set i t⟩

/-- All components together, none of which has joined at the beginning. -/
def system (shared : σ) : Machine (State σ τ) (Event α) where
  init := ⟨shared, []⟩
  step := c.stepAll

/-- A component on its own. -/
def alone (shared : σ) : Machine (τ × σ) α where
  init := (c.fresh, shared)
  step := fun (t, shared) a => c.step shared t a

variable {c}

theorem stepAll_on {s : State σ τ} {i : Nat} {t t' : τ} {shared : σ} {a : α}
    (ht : s.parts[i]? = some t) (h : c.step s.shared t a = some (t', shared)) :
    c.stepAll s (.on i a) = some ⟨shared, s.parts.set i t'⟩ := by
  rw [stepAll, ht]
  show (c.step s.shared t a).bind _ = _
  rw [h]
  rfl

/-- A step is a new component, or a step of one that has joined. -/
theorem stepAll_cases {s s' : State σ τ} {event : Event α} (h : c.stepAll s event = some s') :
    s' = { s with parts := s.parts ++ [c.fresh] } ∨
    ∃ i t a t' shared, s.parts[i]? = some t ∧ c.step s.shared t a = some (t', shared) ∧
      s' = ⟨shared, s.parts.set i t'⟩ := by
  obtain _ | ⟨i, a⟩ := event
  · exact .inl (Option.some.inj h).symm
  · obtain ⟨t, ht, h⟩ := Option.bind_eq_some_iff.mp h
    obtain ⟨⟨t', shared⟩, hstep, h⟩ := Option.bind_eq_some_iff.mp h
    exact .inr ⟨i, t, a, t', shared, ht, hstep, (Option.some.inj h).symm⟩

theorem getElem?_set_same {i : Nat} {ts : List τ} {t t' : τ} (ht : ts[i]? = some t) :
    (ts.set i t')[i]? = some t' := by
  obtain ⟨hlt, -⟩ := List.getElem?_eq_some_iff.mp ht
  exact List.getElem?_set_self hlt

/-- A run of one component is a run of the whole. -/
theorem run_on {init : σ} {i : Nat} {t' : τ} {shared : σ} {as : List α} :
    ∀ {s : State σ τ} {t : τ}, s.parts[i]? = some t →
      (c.alone init).run (t, s.shared) as = some (t', shared) →
      (c.system init).run s (as.map (.on i)) = some ⟨shared, s.parts.set i t'⟩ := by
  induction as with
  | nil =>
      intro s t ht h
      obtain ⟨rfl, rfl⟩ := Prod.mk.inj (Option.some.inj h)
      obtain ⟨hlt, rfl⟩ := List.getElem?_eq_some_iff.mp ht
      rw [List.set_getElem_self hlt]
      rfl
  | cons a as ih =>
      intro s t ht h
      obtain ⟨⟨t₁, shared₁⟩, hstep, hrun⟩ := Option.bind_eq_some_iff.mp h
      have hall : (c.system init).step s (.on i a) = some ⟨shared₁, s.parts.set i t₁⟩ :=
        stepAll_on ht hstep
      rw [List.map_cons, Machine.run_cons hall, ih (getElem?_set_same ht) hrun, List.set_set]

/-! ### Replacing one component -/

/-- If an element of a list is replaced, what it contributed grows and the rest stays. -/
theorem flatMap_set_perm {β : Type} {f : τ → List β} {new : List β} {t t' : τ}
    (hf : f t' = f t ++ new) : ∀ {ts : List τ} {i : Nat}, ts[i]? = some t →
      ((ts.set i t').flatMap f).Perm (ts.flatMap f ++ new) := by
  intro ts
  induction ts with
  | nil => exact fun h => nomatch h
  | cons other rest ih =>
      intro i hi
      obtain _ | i := i
      · obtain rfl := Option.some.inj hi
        rw [List.set_cons_zero, List.flatMap_cons, List.flatMap_cons, hf, List.append_assoc,
          List.append_assoc]
        exact List.perm_append_comm.append_left _
      · rw [List.set_cons_succ, List.flatMap_cons, List.flatMap_cons, List.append_assoc]
        exact (ih hi).append_left _

/-- An element that is not there any more is the one that was replaced. -/
theorem mem_set_or_eq {ts : List τ} {i : Nat} {t t' other : τ} (ht : ts[i]? = some t)
    (hother : other ∈ ts) : other ∈ ts.set i t' ∨ other = t := by
  obtain ⟨j, hj⟩ := List.getElem?_of_mem hother
  by_cases hij : i = j
  · subst hij
    rw [ht] at hj
    exact .inr (Option.some.inj hj).symm
  · left
    apply List.mem_of_getElem?
    rw [List.getElem?_set_ne hij]
    exact hj

/-! ### From one step to all runs -/

variable (c) in
/-- The property is true of a new component and kept by its steps. -/
structure Keeps (P : τ → Prop) : Prop where
  fresh : P c.fresh
  step : ∀ {shared t a t' shared'}, P t → c.step shared t a = some (t', shared') → P t'

variable {P : τ → Prop} {init : σ} {s : State σ τ}

theorem Keeps.all (hP : c.Keeps P) (h : (c.system init).Reachable s) : ∀ t ∈ s.parts, P t := by
  refine h.invariant (P := fun s => ∀ t ∈ s.parts, P t)
    (fun _ ht => absurd ht List.not_mem_nil) ?_
  intro s event s' hs hstep
  obtain rfl | ⟨i, t, a, t', shared, ht, hpart, rfl⟩ := stepAll_cases hstep
  · intro t ht
    rcases List.mem_append.mp ht with ht | ht
    · exact hs t ht
    · obtain rfl := List.mem_singleton.mp ht
      exact hP.fresh
  · intro other hother
    rcases List.mem_or_eq_of_mem_set hother with hother | rfl
    · exact hs other hother
    · exact hP.step (hs t (List.mem_of_getElem? ht)) hpart

/-- What is logged in the shared state is what the components logged. -/
theorem Keeps.log_perm (hP : c.Keeps P) {β : Type} (log : σ → List β) (own : τ → List β)
    (hfresh : own c.fresh = [])
    (hlog : ∀ {shared t a t' shared'}, P t → c.step shared t a = some (t', shared') →
      ∃ new, log shared' = log shared ++ new ∧ own t' = own t ++ new)
    (h : (c.system init).Reachable s) :
    (log s.shared).Perm (log init ++ s.parts.flatMap own) := by
  induction h with
  | init =>
      show (log init).Perm (log init ++ [])
      rw [List.append_nil]
  | step hreach hstep ih =>
      obtain rfl | ⟨i, t, a, t', shared, ht, hpart, rfl⟩ := stepAll_cases hstep
      · rw [List.flatMap_append, List.flatMap_singleton, hfresh, List.append_nil]
        exact ih
      · obtain ⟨new, hshared, hown⟩ := hlog (hP.all hreach t (List.mem_of_getElem? ht)) hpart
        show (log shared).Perm _
        rw [hshared]
        refine (ih.append_right new).trans ?_
        rw [List.append_assoc]
        exact (flatMap_set_perm hown ht).symm.append_left _

/-- What is promised in the shared state is backed by a component. -/
theorem Keeps.backed (hP : c.Keeps P) {γ : Type} (promised : σ → γ → Prop) (backs : τ → γ → Prop)
    (hinit : ∀ x, ¬ promised init x)
    (hnew : ∀ {shared t a t' shared'}, P t → c.step shared t a = some (t', shared') →
      ∀ x, promised shared' x → promised shared x ∨ backs t' x)
    (hkeep : ∀ {shared t a t' shared'}, P t → c.step shared t a = some (t', shared') →
      ∀ x, backs t x → backs t' x)
    (h : (c.system init).Reachable s) {x : γ} (hx : promised s.shared x) :
    ∃ t ∈ s.parts, backs t x := by
  induction h generalizing x with
  | init => exact absurd hx (hinit x)
  | @step before _ _ hreach hstep ih =>
      obtain rfl | ⟨i, t, a, t', shared, ht, hpart, rfl⟩ := stepAll_cases hstep
      · obtain ⟨t, ht, hback⟩ := ih hx
        exact ⟨t, List.mem_append_left _ ht, hback⟩
      · have hP' := hP.all hreach t (List.mem_of_getElem? ht)
        have hmem : t' ∈ before.parts.set i t' := List.mem_of_getElem? (getElem?_set_same ht)
        rcases hnew hP' hpart x hx with hold | hback
        · obtain ⟨other, hother, hback⟩ := ih hold
          rcases mem_set_or_eq ht hother with hother | rfl
          · exact ⟨other, hother, hback⟩
          · exact ⟨t', hmem, hkeep hP' hpart x hback⟩
        · exact ⟨t', hmem, hback⟩

end Component
