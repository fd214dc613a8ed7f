/-
Computations on a state that outlives their errors.

A request handler changes the database step by step and may answer with an error at any
point; what it did before stays done.  `Keeps R x` says that, however `x` ends, the state
after it is related to the state before by `R`.  With a preorder for `R` this is shown one
operation at a time.
-/
import Mathlib

namespace Effect

/-- A computation over states `σ` with errors `ε`. -/
abbrev Program (σ ε : Type) : Type → Type := ExceptT ε (StateM σ)

variable {σ ε α β : Type}

/-- The result of a computation and the state after it. -/
def outcome (x : Program σ ε α) (s : σ) : Except ε α × σ := x.run s

/-- A computation given by its outcomes. -/
def ofOutcome (f : σ → Except ε α × σ) : Program σ ε α := ExceptT.mk f

/-- Goes on after an error, without a result. -/
def attempt (x : Program σ ε α) : Program σ ε (Option α) :=
  ofOutcome fun s =>
    match outcome x s with
    | (.ok a, s) => (.ok (some a), s)
    | (.error _, s) => (.ok none, s)

@[simp] theorem outcome_ofOutcome (f : σ → Except ε α × σ) (s : σ) :
    outcome (ofOutcome f) s = f s := rfl

@[simp] theorem outcome_pure (a : α) (s : σ) :
    outcome (pure a : Program σ ε α) s = (.ok a, s) := rfl

@[simp] theorem outcome_throw (e : ε) (s : σ) :
    outcome (throw e : Program σ ε α) s = (.error e, s) := rfl

@[simp] theorem outcome_get (s : σ) : outcome (get : Program σ ε σ) s = (.ok s, s) := rfl

@[simp] theorem outcome_modify (f : σ → σ) (s : σ) :
    outcome (modify f : Program σ ε PUnit) s = (.ok ⟨⟩, f s) := rfl

theorem outcome_bind (x : Program σ ε α) (f : α → Program σ ε β) (s : σ) :
    outcome (x >>= f) s =
      match outcome x s with
      | (.ok a, s) => outcome (f a) s
      | (.error e, s) => (.error e, s) := by
  rcases h : outcome x s with ⟨e | a, s'⟩
  · simp only [outcome, ExceptT.run_bind] at h ⊢
    simp [bind, StateT.bind, h]
    rfl
  · simp only [outcome, ExceptT.run_bind] at h ⊢
    simp [bind, StateT.bind, h]

theorem outcome_bind_of_ok {x : Program σ ε α} {s s' : σ} {a : α}
    (h : outcome x s = (.ok a, s')) (f : α → Program σ ε β) :
    outcome (x >>= f) s = outcome (f a) s' := by
  rw [outcome_bind, h]

theorem outcome_bind_of_error {x : Program σ ε α} {s s' : σ} {e : ε}
    (h : outcome x s = (.error e, s')) (f : α → Program σ ε β) :
    outcome (x >>= f) s = (.error e, s') := by
  rw [outcome_bind, h]

/-- Computations that go on alike have the same outcome. -/
theorem outcome_bind_congr {x : Program σ ε α} {f g : α → Program σ ε β} {s : σ}
    (h : ∀ a s', outcome x s = (.ok a, s') → outcome (f a) s' = outcome (g a) s') :
    outcome (x >>= f) s = outcome (x >>= g) s := by
  rw [outcome_bind, outcome_bind]
  rcases hout : outcome x s with ⟨e | a, s'⟩
  · rfl
  · exact h a s' hout

theorem ite_bind {p : Prop} [Decidable p] (x y : Program σ ε α) (f : α → Program σ ε β) :
    (if p then x else y) >>= f = if p then x >>= f else y >>= f := by
  split <;> rfl

theorem outcome_ite_congr {p : Prop} [Decidable p] {x x' y y' : Program σ ε α} {s : σ}
    (hx : outcome x s = outcome x' s) (hy : outcome y s = outcome y' s) :
    outcome (if p then x else y) s = outcome (if p then x' else y') s := by
  split
  · exact hx
  · exact hy

@[simp] theorem outcome_attempt (x : Program σ ε α) (s : σ) :
    outcome (attempt x) s =
      match outcome x s with
      | (.ok a, s) => (.ok (some a), s)
      | (.error _, s) => (.ok none, s) := rfl

theorem attempt_snd (x : Program σ ε α) (s : σ) :
    (outcome (attempt x) s).2 = (outcome x s).2 := by
  rw [outcome_attempt]
  rcases outcome x s with ⟨e | a, s'⟩ <;> rfl

/-! ### What a computation keeps -/

/-- The state after the computation is related to the state before it. -/
def Keeps (R : σ → σ → Prop) (x : Program σ ε α) : Prop := ∀ s, R s (outcome x s).2

variable {R : σ → σ → Prop}

section

variable [Std.Refl R]

theorem keeps_pure (a : α) : Keeps R (pure a : Program σ ε α) := fun s => refl_of R s

theorem keeps_throw (e : ε) : Keeps R (throw e : Program σ ε α) := fun s => refl_of R s

theorem keeps_get : Keeps R (get : Program σ ε σ) := fun s => refl_of R s

end

theorem Keeps.attempt {x : Program σ ε α} (h : Keeps R x) : Keeps R (attempt x) := by
  intro s
  rw [attempt_snd]
  exact h s

/-- From a given state on: whatever follows may use what the first computation came to. -/
theorem related_bind [IsTrans σ R] {x : Program σ ε α} {f : α → Program σ ε β} {s : σ}
    (hx : R s (outcome x s).2)
    (hf : ∀ a s', outcome x s = (.ok a, s') → R s' (outcome (f a) s').2) :
    R s (outcome (x >>= f) s).2 := by
  rw [outcome_bind]
  rcases hout : outcome x s with ⟨e | a, s'⟩
  · simpa [hout] using hx
  · rw [hout] at hx
    exact trans_of R hx (hf a s' hout)

/-- Whatever follows may use what is known after the first computation. -/
theorem Keeps.bind_of [IsTrans σ R] {x : Program σ ε α} {f : α → Program σ ε β}
    {Q : α → σ → Prop} (hx : Keeps R x)
    (hQ : ∀ s a s', outcome x s = (.ok a, s') → Q a s')
    (hf : ∀ a s, Q a s → R s (outcome (f a) s).2) : Keeps R (x >>= f) := fun s =>
  related_bind (hx s) fun a s' hout => hf a s' (hQ s a s' hout)

theorem Keeps.bind [IsTrans σ R] {x : Program σ ε α} {f : α → Program σ ε β} (hx : Keeps R x)
    (hf : ∀ a, Keeps R (f a)) : Keeps R (x >>= f) :=
  hx.bind_of (fun _ _ _ _ => trivial) fun a s _ => hf a s

theorem Keeps.ite {p : Prop} [Decidable p] {x y : Program σ ε α} (hx : Keeps R x)
    (hy : Keeps R y) : Keeps R (if p then x else y) := by
  split
  · exact hx
  · exact hy

theorem Keeps.forM [Std.Refl R] [IsTrans σ R] {f : β → Program σ ε PUnit} (l : List β)
    (hf : ∀ b, Keeps R (f b)) : Keeps R (l.forM f) := by
  induction l with
  | nil => exact keeps_pure _
  | cons b rest ih => exact (hf b).bind fun _ => ih

/-! ### What a computation comes to -/

/-- What holds of the result and the state after it, unless there is an error. -/
def Yields (x : Program σ ε α) (Q : α → σ → Prop) (s : σ) : Prop :=
  ∀ a s', outcome x s = (.ok a, s') → Q a s'

theorem yields_pure {Q : α → σ → Prop} {a : α} {s : σ} (h : Q a s) :
    Yields (pure a : Program σ ε α) Q s := by
  intro a' s' hout
  obtain ⟨rfl, rfl⟩ : a = a' ∧ s = s' := by simpa using hout
  exact h

/-- A computation whose outcome is known. -/
theorem yields_of_ok {x : Program σ ε α} {Q : α → σ → Prop} {s s' : σ} {a : α}
    (hout : outcome x s = (.ok a, s')) (h : Q a s') : Yields x Q s := by
  intro a' t hout'
  obtain ⟨rfl, rfl⟩ : a = a' ∧ s' = t := by simpa using hout.symm.trans hout'
  exact h

theorem yields_throw (e : ε) (Q : α → σ → Prop) (s : σ) :
    Yields (throw e : Program σ ε α) Q s := by
  intro a s' hout
  simp at hout

theorem Yields.bind {x : Program σ ε α} {f : α → Program σ ε β} {P : α → σ → Prop}
    {Q : β → σ → Prop} {s : σ} (hx : Yields x P s) (hf : ∀ a s', P a s' → Yields (f a) Q s') :
    Yields (x >>= f) Q s := by
  intro b s' hout
  rw [outcome_bind] at hout
  rcases hmid : outcome x s with ⟨e | a, mid⟩
  · simp [hmid] at hout
  · rw [hmid] at hout
    exact hf a mid (hx a mid hmid) b s' hout

theorem Yields.ite {p : Prop} [Decidable p] {x y : Program σ ε α} {Q : α → σ → Prop} {s : σ}
    (hx : Yields x Q s) (hy : Yields y Q s) : Yields (if p then x else y) Q s := by
  split
  · exact hx
  · exact hy

end Effect
