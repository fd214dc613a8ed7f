/-
What an observer sees of a machine.

A machine takes inputs and puts out something at each of them.  An observer has a view of
some inputs and none of the others, and sees the outputs at the inputs of which it has a
view.  If a smaller machine, which takes the views, keeps up with the machine
(`Follows`), then it is all the observer sees (`observed_eq`); and so two runs with the
same views look the same to it (`observed_congr`).
-/
import Mathlib

namespace Observer

variable {σ τ α β ν : Type}

/-- The outputs of a machine at a list of inputs. -/
def outputs (step : σ → α → σ × β) : σ → List α → List β
  | _, [] => []
  | s, a :: as => (step s a).2 :: outputs step (step s a).1 as

/-- The outputs at the inputs of which there is a view. -/
def observed (step : σ → α → σ × β) (view : α → Option ν) : σ → List α → List β
  | _, [] => []
  | s, a :: as =>
    match view a with
    | none => observed step view (step s a).1 as
    | some _ => (step s a).2 :: observed step view (step s a).1 as

/-- The smaller machine keeps up: the inputs that are not seen leave its state right, and at those
that are it puts out the same. -/
structure Follows (step : σ → α → σ × β) (view : α → Option ν) (small : τ → ν → τ × β)
    (valid : α → Prop) (R : σ → τ → Prop) : Prop where
  unseen : ∀ {s t a}, R s t → valid a → view a = none → R (step s a).1 t
  seen : ∀ {s t a v}, R s t → valid a → view a = some v →
    R (step s a).1 (small t v).1 ∧ (step s a).2 = (small t v).2

variable {step : σ → α → σ × β} {view : α → Option ν} {small : τ → ν → τ × β} {valid : α → Prop}
  {R : σ → τ → Prop}

/-- **The observer sees the smaller machine.** -/
theorem Follows.observed_eq (h : Follows step view small valid R) {as : List α} :
    ∀ {s t}, R s t → (∀ a ∈ as, valid a) →
      observed step view s as = outputs small t (as.filterMap view) := by
  induction as with
  | nil => exact fun _ _ => rfl
  | cons a as ih =>
      intro s t hR hvalid
      have ha := hvalid a List.mem_cons_self
      have hrest : ∀ b ∈ as, valid b := fun b hb => hvalid b (List.mem_cons_of_mem a hb)
      rw [observed]
      cases hview : view a with
      | none =>
          rw [List.filterMap_cons_none hview]
          exact ih (h.unseen hR ha hview) hrest
      | some v =>
          obtain ⟨hR', hout⟩ := h.seen hR ha hview
          rw [List.filterMap_cons_some hview, outputs, ← hout, ih hR' hrest]

/-- Inputs of which the observer has no view make no difference to it. -/
theorem Follows.observed_congr (h : Follows step view small valid R) {as bs : List α} {s : σ} {t : τ}
    (hR : R s t) (has : ∀ a ∈ as, valid a) (hbs : ∀ b ∈ bs, valid b)
    (hviews : as.filterMap view = bs.filterMap view) :
    observed step view s as = observed step view s bs := by
  rw [h.observed_eq hR has, h.observed_eq hR hbs, hviews]

end Observer
