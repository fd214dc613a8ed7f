/-
Displays.

A display shows, for some keys, what it was delivered.  It may blank a key, but makes
nothing up: what it shows after a step was delivered by that step or shown before it.  Such a
display goes forward in a run exactly if its deliveries come in order (`forward_iff`).
-/
import RudraNetra.Lib.Machine

namespace Machine

variable {σ α δ τ : Type}

/-- The machine shows what its steps deliver. -/
structure Displays (m : Machine σ α) (shown : σ → δ → Option τ) (delivers : α → δ → Option τ) :
    Prop where
  blank : ∀ d, shown m.init d = none
  delivered : ∀ {s a s' d t}, m.step s a = some s' → delivers a d = some t → shown s' d = some t
  kept : ∀ {s a s' d t}, m.step s a = some s' → shown s' d = some t →
    delivers a d = some t ∨ shown s d = some t

/-- Of a key, nothing is shown in the run that comes before what was shown earlier. -/
def Forward [LE τ] (m : Machine σ α) (shown : σ → δ → Option τ) (as : List α) : Prop :=
  ∀ pre mid post, as = pre ++ mid ++ post → ∀ s s', m.run m.init pre = some s →
    m.run s mid = some s' → ∀ d t t', shown s d = some t → shown s' d = some t' → t ≤ t'

/-- For each key, the deliveries come in order. -/
def DeliveredInOrder [LE τ] (delivers : α → δ → Option τ) (as : List α) : Prop :=
  as.Pairwise fun a b => ∀ d t t', delivers a d = some t → delivers b d = some t' → t ≤ t'

variable {m : Machine σ α} {shown : σ → δ → Option τ} {delivers : α → δ → Option τ}

/-- What a run shows in the end, it delivered, or it was there from the start. -/
theorem Displays.kept_run (h : m.Displays shown delivers) {as : List α} : ∀ {s s' : σ} {d t},
    m.run s as = some s' → shown s' d = some t →
      (∃ a ∈ as, delivers a d = some t) ∨ shown s d = some t := by
  induction as with
  | nil =>
      intro s s' d t hrun hshown
      obtain rfl := Option.some.inj hrun
      exact .inr hshown
  | cons a as ih =>
      intro s s' d t hrun hshown
      obtain ⟨u, hstep, hrest⟩ := Option.bind_eq_some_iff.mp hrun
      rcases ih hrest hshown with ⟨b, hb, hdelivers⟩ | hbefore
      · exact .inl ⟨b, List.mem_cons_of_mem a hb, hdelivers⟩
      · rcases h.kept hstep hbefore with hdelivers | hstart
        · exact .inl ⟨a, List.mem_cons_self, hdelivers⟩
        · exact .inr hstart

/-- A run shows in the end what its last step delivers. -/
theorem Displays.delivered_run (h : m.Displays shown delivers) {as : List α} {a : α} {s s' : σ}
    {d : δ} {t : τ} (hrun : m.run s (as ++ [a]) = some s') (hdelivers : delivers a d = some t) :
    shown s' d = some t := by
  obtain ⟨u, -, hlast⟩ := run_append_eq_some.mp hrun
  obtain ⟨v, hstep, hend⟩ := Option.bind_eq_some_iff.mp hlast
  obtain rfl := Option.some.inj hend
  exact h.delivered hstep hdelivers

/-- Deliveries that come in order take the display forward. -/
theorem Displays.forward [Preorder τ] (h : m.Displays shown delivers) {as : List α}
    (horder : DeliveredInOrder delivers as) : m.Forward shown as := by
  rintro pre mid post rfl s s' hpre hmid d t t' hs hs'
  obtain ⟨a, ha, hat⟩ := (h.kept_run hpre hs).resolve_right (by simp [h.blank])
  have hpair := (List.pairwise_append.mp (List.pairwise_append.mp horder).1).2.2
  rcases h.kept_run hmid hs' with ⟨b, hb, hbt⟩ | hsame
  · exact hpair a ha b hb d t t' hat hbt
  · exact (Option.some.inj (hs.symm.trans hsame)).le

/-- **A display goes forward in a run exactly if its deliveries come in order.** -/
theorem Displays.forward_iff [Preorder τ] (h : m.Displays shown delivers) {as : List α} :
    ∀ {s : σ}, m.run m.init as = some s →
      (m.Forward shown as ↔ DeliveredInOrder delivers as) := by
  refine fun {s} hrun => ⟨fun hforward => ?_, h.forward⟩
  induction as using List.reverseRecOn generalizing s with
  | nil => exact List.Pairwise.nil
  | append_singleton as b ih =>
      obtain ⟨u, has, -⟩ := run_append_eq_some.mp hrun
      have hbefore : m.Forward shown as := by
        rintro pre mid post rfl
        exact hforward pre mid (post ++ [b]) (by simp)
      refine List.pairwise_append.mpr ⟨ih has hbefore, List.pairwise_singleton _ _, ?_⟩
      intro a ha c hc d t t' hat hct
      obtain rfl := List.mem_singleton.mp hc
      obtain ⟨l, r, rfl⟩ := List.append_of_mem ha
      have hsplit : l ++ a :: r ++ [c] = (l ++ [a]) ++ (r ++ [c]) := by simp
      rw [hsplit] at hrun
      obtain ⟨v, hpre, hmid⟩ := run_append_eq_some.mp hrun
      exact hforward (l ++ [a]) (r ++ [c]) [] (by simp) v s hpre hmid d t t'
        (h.delivered_run hpre hat) (h.delivered_run hmid hct)

end Machine
