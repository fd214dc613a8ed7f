/-
Runs over a list of inputs that are kept in full.

`run f as s` gives the inputs `as` to the step function `f` one after the other, from the
state `s` on.  The result has an entry for each input, with the states before and after
it, and the last state; there is none if some step has none.
-/
import Mathlib

namespace Trace

variable {σ α β : Type}

/-- One input, and the states around it. -/
structure Entry (σ α : Type) where
  input : α
  before : σ
  after : σ

/-- The run of `f` over a list of inputs. -/
def run (f : σ → α → Option σ) : List α → σ → Option (List (Entry σ α) × σ)
  | [], s => some ([], s)
  | a :: as, s =>
    (f s a).bind fun s' => (run f as s').map fun r => (⟨a, s, s'⟩ :: r.1, r.2)

variable {f : σ → α → Option σ}

theorem run_cons_eq_some {a : α} {as : List α} {s t : σ} {es : List (Entry σ α)}
    (h : run f (a :: as) s = some (es, t)) :
    ∃ s' rest, f s a = some s' ∧ run f as s' = some (rest, t) ∧ es = ⟨a, s, s'⟩ :: rest := by
  obtain ⟨s', hstep, h⟩ := Option.bind_eq_some_iff.mp h
  obtain ⟨⟨rest, t'⟩, hrest, h⟩ := Option.map_eq_some_iff.mp h
  obtain ⟨rfl, rfl⟩ := Prod.mk.inj h
  exact ⟨s', rest, hstep, hrest, rfl⟩

theorem run_cons {a : α} {as : List α} {s s' t : σ} {es : List (Entry σ α)}
    (hstep : f s a = some s') (h : run f as s' = some (es, t)) :
    run f (a :: as) s = some (⟨a, s, s'⟩ :: es, t) := by
  rw [run, hstep, Option.bind_some, h]
  rfl

/-- A run over inputs end to end is the two runs end to end. -/
theorem run_append (as bs : List α) : ∀ s, run f (as ++ bs) s =
    (run f as s).bind fun r => (run f bs r.2).map fun r' => (r.1 ++ r'.1, r'.2) := by
  induction as with
  | nil =>
      intro s
      simp [run]
  | cons a as ih =>
      intro s
      rw [List.cons_append, run, run]
      cases f s a with
      | none => rfl
      | some s' =>
          simp only [Option.bind_some, ih s']
          cases run f as s' with
          | none => rfl
          | some r =>
              simp only [Option.bind_some, Option.map_some, Option.map_map]
              rfl

/-- If every input has a step in every state, there is a run. -/
theorem run_total {as : List α} (h : ∀ a ∈ as, ∀ s, ∃ s', f s a = some s') :
    ∀ s, ∃ r, run f as s = some r := by
  induction as with
  | nil => exact fun s => ⟨_, rfl⟩
  | cons a as ih =>
      intro s
      obtain ⟨s', hstep⟩ := h a List.mem_cons_self s
      obtain ⟨⟨es, t⟩, hrest⟩ := ih (fun a' ha' => h a' (List.mem_cons_of_mem _ ha')) s'
      exact ⟨_, run_cons hstep hrest⟩

/-- The entries of a run are those of its inputs, in order. -/
theorem run_inputs : ∀ {as : List α} {s t : σ} {es : List (Entry σ α)},
    run f as s = some (es, t) → es.map (·.input) = as := by
  intro as
  induction as with
  | nil =>
      intro s t es h
      obtain ⟨rfl, -⟩ := Prod.mk.inj (Option.some.inj h)
      rfl
  | cons a as ih =>
      intro s t es h
      obtain ⟨s', rest, -, hrest, rfl⟩ := run_cons_eq_some h
      rw [List.map_cons, ih hrest]

/-- Each entry is a step. -/
theorem run_steps : ∀ {as : List α} {s t : σ} {es : List (Entry σ α)},
    run f as s = some (es, t) → ∀ e ∈ es, f e.before e.input = some e.after := by
  intro as
  induction as with
  | nil =>
      intro s t es h e he
      obtain ⟨rfl, -⟩ := Prod.mk.inj (Option.some.inj h)
      exact absurd he List.not_mem_nil
  | cons a as ih =>
      intro s t es h e he
      obtain ⟨s', rest, hstep, hrest, rfl⟩ := run_cons_eq_some h
      rcases List.mem_cons.mp he with rfl | he
      · exact hstep
      · exact ih hrest e he

/-- If steps only append to a list, a run appends what its steps do. -/
theorem run_grows {g : σ → List β} (hg : ∀ s a s', f s a = some s' → g s <+: g s') :
    ∀ {as : List α} {s t : σ} {es : List (Entry σ α)}, run f as s = some (es, t) →
      g t = g s ++ es.flatMap fun e => (g e.after).drop (g e.before).length := by
  intro as
  induction as with
  | nil =>
      intro s t es h
      obtain ⟨rfl, rfl⟩ := Prod.mk.inj (Option.some.inj h)
      exact (List.append_nil _).symm
  | cons a as ih =>
      intro s t es h
      obtain ⟨s', rest, hstep, hrest, rfl⟩ := run_cons_eq_some h
      obtain ⟨more, hmore⟩ := hg s a s' hstep
      rw [ih hrest, List.flatMap_cons, ← hmore, List.drop_left, List.append_assoc]

/-- If what steps amount to adds up, a run amounts to what its steps do. -/
theorem run_accumulates {P : List β → σ → σ → Prop} {Q : α → β → Prop}
    (hnil : ∀ s, P [] s s)
    (happ : ∀ {bs bs' s t u}, P bs s t → P bs' t u → P (bs ++ bs') s u) :
    ∀ {as : List α}, (∀ a ∈ as, ∀ s, ∃ s' b, f s a = some s' ∧ Q a b ∧ P [b] s s') →
      ∀ s, ∃ es t bs, run f as s = some (es, t) ∧ List.Forall₂ Q as bs ∧ P bs s t := by
  intro as
  induction as with
  | nil => exact fun _ s => ⟨[], s, [], rfl, .nil, hnil s⟩
  | cons a as ih =>
      intro hstep s
      obtain ⟨s', b, hs', hb, hfirst⟩ := hstep a List.mem_cons_self s
      obtain ⟨es, t, bs, hrun, hbs, hrest⟩ :=
        ih (fun a' ha' => hstep a' (List.mem_cons_of_mem _ ha')) s'
      exact ⟨_, t, b :: bs, run_cons hs' hrun, .cons hb hbs, happ hfirst hrest⟩

end Trace
