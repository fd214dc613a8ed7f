/-
Computations that undo what they did if they end with an error.

`Restores R x` says that an error of `x` leaves a state that is related to the state before by
`R`.  There are two ways to put such computations together: what has been done so far is nothing
to undo (`Restores.after`), or nothing that follows can fail (`Restores.before`).
-/
import RudraNetra.Lib.Effect

namespace Effect

variable {σ ε α β : Type} {R : σ → σ → Prop} {x : Program σ ε α} {f : α → Program σ ε β}

/-- The state after an error is related to the state before the computation. -/
def Restores (R : σ → σ → Prop) (x : Program σ ε α) : Prop :=
  ∀ s e s', outcome x s = (.error e, s') → R s s'

/-- The computation does not end with an error. -/
def Succeeds (x : Program σ ε α) : Prop := ∀ s, ∃ a s', outcome x s = (.ok a, s')

/-! ### What does not fail -/

theorem succeeds_pure (a : α) : Succeeds (pure a : Program σ ε α) := fun s => ⟨a, s, rfl⟩

theorem succeeds_get : Succeeds (get : Program σ ε σ) := fun s => ⟨s, s, rfl⟩

theorem succeeds_attempt (x : Program σ ε α) : Succeeds (attempt x) := by
  intro s
  rw [outcome_attempt]
  rcases outcome x s with ⟨e | a, s'⟩
  · exact ⟨none, s', rfl⟩
  · exact ⟨some a, s', rfl⟩

theorem Succeeds.bind (hx : Succeeds x) (hf : ∀ a, Succeeds (f a)) : Succeeds (x >>= f) := by
  intro s
  obtain ⟨a, s', hout⟩ := hx s
  rw [outcome_bind_of_ok hout]
  exact hf a s'

theorem Succeeds.ite {p : Prop} [Decidable p] {y : Program σ ε α} (hx : Succeeds x)
    (hy : Succeeds y) : Succeeds (if p then x else y) := by
  split
  · exact hx
  · exact hy

theorem Succeeds.forM {f : β → Program σ ε PUnit} (l : List β) (hf : ∀ b, Succeeds (f b)) :
    Succeeds (l.forM f) := by
  induction l with
  | nil => exact succeeds_pure _
  | cons b rest ih => exact (hf b).bind fun _ => ih

theorem Succeeds.restores (h : Succeeds x) : Restores R x := by
  intro s e s' hout
  obtain ⟨a, t, hok⟩ := h s
  rw [hok] at hout
  cases hout

/-! ### What restores -/

theorem Keeps.restores (h : Keeps R x) : Restores R x := by
  intro s e s' hout
  have hkeeps := h s
  rwa [hout] at hkeeps

theorem Restores.ite {p : Prop} [Decidable p] {y : Program σ ε α} (hx : Restores R x)
    (hy : Restores R y) : Restores R (if p then x else y) := by
  split
  · exact hx
  · exact hy

/-- There is nothing to undo so far. -/
theorem Restores.after [IsTrans σ R] (hx : Keeps R x) (hf : ∀ a, Restores R (f a)) :
    Restores R (x >>= f) := by
  intro s e s' hout
  have hkeeps := hx s
  rcases hmid : outcome x s with ⟨e' | a, mid⟩
  · rw [outcome_bind_of_error hmid] at hout
    obtain ⟨-, rfl⟩ := Prod.mk.inj hout
    rwa [hmid] at hkeeps
  · rw [outcome_bind_of_ok hmid] at hout
    rw [hmid] at hkeeps
    exact trans_of R hkeeps (hf a mid e s' hout)

/-- Nothing that follows fails, where there is something to undo: `Q` says where that is. -/
theorem Restores.before_of [IsTrans σ R] {Q : α → Prop} (hx : Restores R x)
    (hkeeps : ∀ s a s', outcome x s = (.ok a, s') → ¬Q a → R s s')
    (hsucceeds : ∀ a, Q a → Succeeds (f a)) (hf : ∀ a, ¬Q a → Restores R (f a)) :
    Restores R (x >>= f) := by
  intro s e s' hout
  rcases hmid : outcome x s with ⟨e' | a, mid⟩
  · rw [outcome_bind_of_error hmid] at hout
    obtain ⟨-, rfl⟩ := Prod.mk.inj hout
    exact hx s e' mid hmid
  · rw [outcome_bind_of_ok hmid] at hout
    by_cases hQ : Q a
    · obtain ⟨b, t, hok⟩ := hsucceeds a hQ mid
      rw [hok] at hout
      cases hout
    · exact trans_of R (hkeeps s a mid hmid hQ) (hf a hQ mid e s' hout)

/-- Nothing that follows fails. -/
theorem Restores.before [IsTrans σ R] (hx : Restores R x) (hf : ∀ a, Succeeds (f a)) :
    Restores R (x >>= f) :=
  hx.before_of (Q := fun _ => True) (fun _ _ _ _ h => absurd trivial h) (fun a _ => hf a)
    fun _ h => absurd trivial h

end Effect
