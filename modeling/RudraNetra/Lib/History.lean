/-
What a few fields remember of a history.

An input comes after the list `pre` of all inputs before it, and a field is a function of
that list.  A `Limiter` keeps the time of the last input at which it fired, and fires again
only after its cooldown; a `Streak` keeps the time at which an unbroken row of inputs
began.  If the inputs come in the order of their times, the two fields say about the
history what they are meant to say: `Limiter.fires_iff` and `Streak.since_spec`.
-/
import Mathlib

namespace History

variable {α : Type}

/-- `x` came in `pre`, and `F` held of it when it came. -/
def Earlier (F : List α → α → Prop) (pre : List α) (x : α) : Prop :=
  ∃ before mid, pre = before ++ x :: mid ∧ F before x

/-- The last input of a history is the one that is looked at, or comes after it. -/
theorem snoc_eq_append_cons {pre before mid : List α} {a x : α} :
    pre ++ [a] = before ++ x :: mid ↔
      (mid = [] ∧ x = a ∧ before = pre) ∨ ∃ mid', mid = mid' ++ [a] ∧ pre = before ++ x :: mid' := by
  rcases List.eq_nil_or_concat' mid with rfl | ⟨mid', b, rfl⟩
  · constructor
    · intro h
      obtain ⟨rfl, hlast⟩ := List.append_inj' h rfl
      exact .inl ⟨rfl, (List.head_eq_of_cons_eq hlast).symm, rfl⟩
    · rintro (⟨-, rfl, rfl⟩ | ⟨mid', hmid, -⟩)
      · rfl
      · simp at hmid
  · constructor
    · intro h
      rw [← List.cons_append, ← List.append_assoc] at h
      obtain ⟨rfl, hlast⟩ := List.append_inj' h rfl
      rw [List.head_eq_of_cons_eq hlast]
      exact .inr ⟨mid', rfl, rfl⟩
    · rintro (⟨hnil, -, -⟩ | ⟨mid'', hmid, rfl⟩)
      · simp at hnil
      · rw [hmid, List.append_assoc, List.cons_append]

theorem not_earlier_nil {F : List α → α → Prop} (x : α) : ¬ Earlier F [] x := by
  intro ⟨before, mid, hnil, _⟩
  simp at hnil

theorem earlier_snoc {F : List α → α → Prop} {pre : List α} {a x : α} :
    Earlier F (pre ++ [a]) x ↔ Earlier F pre x ∨ (x = a ∧ F pre a) := by
  constructor
  · rintro ⟨before, mid, hsplit, hF⟩
    rcases snoc_eq_append_cons.mp hsplit with ⟨-, rfl, rfl⟩ | ⟨mid', -, rfl⟩
    · exact .inr ⟨rfl, hF⟩
    · exact .inl ⟨before, mid', rfl, hF⟩
  · rintro (⟨before, mid, rfl, hF⟩ | ⟨rfl, hF⟩)
    · exact ⟨before, mid ++ [a], by simp, hF⟩
    · exact ⟨pre, [], rfl, hF⟩

theorem Earlier.mem {F : List α → α → Prop} {pre : List α} {x : α} (h : Earlier F pre x) :
    x ∈ pre := by
  obtain ⟨before, mid, rfl, -⟩ := h
  exact List.mem_append_right _ List.mem_cons_self

/-! ### Cooldowns -/

/-- It fires at an input that is due, unless it fired at most a cooldown ago. -/
structure Limiter (α : Type) where
  clock : α → Int
  cooldown : Int
  due : List α → α → Prop
  /-- When it last fired. -/
  last : List α → Int
  fresh : ∀ a, cooldown < clock a - last []
  last_of_fires : ∀ pre a, due pre a → cooldown < clock a - last pre → last (pre ++ [a]) = clock a
  last_of_waits : ∀ pre a, ¬ (due pre a ∧ cooldown < clock a - last pre) →
    last (pre ++ [a]) = last pre

variable (L : Limiter α)

def Limiter.Fires (pre : List α) (a : α) : Prop :=
  L.due pre a ∧ L.cooldown < L.clock a - L.last pre

/-- The inputs come in the order of their times. -/
def InOrder (clock : α → Int) (as : List α) : Prop := as.Pairwise fun a b => clock a ≤ clock b

theorem InOrder.left {clock : α → Int} {as bs : List α} (h : InOrder clock (as ++ bs)) :
    InOrder clock as := (List.pairwise_append.mp h).1

variable {L}

/-- The field holds the time of the last firing, if there was one. -/
theorem Limiter.last_spec {pre : List α} : InOrder L.clock pre →
    (L.last pre = L.last [] ∧ ∀ x, ¬ Earlier L.Fires pre x) ∨
      ∃ x, Earlier L.Fires pre x ∧ L.last pre = L.clock x ∧
        ∀ y, Earlier L.Fires pre y → L.clock y ≤ L.clock x := by
  induction pre using List.reverseRecOn with
  | nil => exact fun _ => .inl ⟨rfl, not_earlier_nil⟩
  | append_singleton pre a ih =>
      intro horder
      by_cases hfires : L.Fires pre a
      · right
        refine ⟨a, earlier_snoc.mpr (.inr ⟨rfl, hfires⟩), L.last_of_fires pre a hfires.1 hfires.2, ?_⟩
        intro y hy
        rcases earlier_snoc.mp hy with hy | ⟨rfl, -⟩
        · exact (List.pairwise_append.mp horder).2.2 y hy.mem a (List.mem_singleton_self a)
        · exact Int.le_refl _
      · have hsame : ∀ x, Earlier L.Fires (pre ++ [a]) x ↔ Earlier L.Fires pre x := fun x =>
          earlier_snoc.trans (or_iff_left fun h => hfires h.2)
        simp only [hsame, L.last_of_waits pre a hfires]
        exact ih horder.left

/-- **A limiter fires exactly at the inputs that are due and more than a cooldown after every
earlier firing.** -/
theorem Limiter.fires_iff {pre : List α} (horder : InOrder L.clock pre) (a : α) :
    L.Fires pre a ↔ L.due pre a ∧
      ∀ x, Earlier L.Fires pre x → L.cooldown < L.clock a - L.clock x := by
  refine and_congr_right fun _ => ?_
  rcases L.last_spec horder with ⟨hlast, hnone⟩ | ⟨x, hx, hlast, hmax⟩
  · rw [hlast]
    exact ⟨fun _ x hx => absurd hx (hnone x), fun _ => L.fresh a⟩
  · rw [hlast]
    constructor
    · intro hlt y hy
      have hle := hmax y hy
      omega
    · exact fun h => h x hx

variable (L) in
/-- Whatever the order of the times: what is due and does not fire comes at most a cooldown after
something that fired. -/
theorem Limiter.fires_or_rests {pre : List α} {a : α} (hdue : L.due pre a) :
    L.Fires pre a ∨ ∃ x, Earlier L.Fires pre x ∧ L.clock a - L.clock x ≤ L.cooldown := by
  have hlast : ∀ pre, L.last pre = L.last [] ∨
      ∃ x, Earlier L.Fires pre x ∧ L.last pre = L.clock x := by
    intro pre
    induction pre using List.reverseRecOn with
    | nil => exact .inl rfl
    | append_singleton pre b ih =>
        by_cases hfires : L.Fires pre b
        · exact .inr ⟨b, earlier_snoc.mpr (.inr ⟨rfl, hfires⟩),
            L.last_of_fires pre b hfires.1 hfires.2⟩
        · rw [L.last_of_waits pre b hfires]
          exact ih.imp_right fun ⟨x, hx, hlast⟩ => ⟨x, earlier_snoc.mpr (.inl hx), hlast⟩
  by_cases hrested : L.cooldown < L.clock a - L.last pre
  · exact .inl ⟨hdue, hrested⟩
  · right
    rcases hlast pre with hfirst | ⟨x, hx, hclock⟩
    · rw [hfirst] at hrested
      exact absurd (L.fresh a) hrested
    · rw [hclock] at hrested
      exact ⟨x, hx, Int.not_lt.mp hrested⟩

/-- A limiter of one kind of inputs is one of any inputs that carry them. -/
def Limiter.comap {β : Type} (L : Limiter α) (f : β → α) : Limiter β where
  clock b := L.clock (f b)
  cooldown := L.cooldown
  due pre b := L.due (pre.map f) (f b)
  last pre := L.last (pre.map f)
  fresh b := L.fresh (f b)
  last_of_fires pre b hdue hrested := by
    rw [List.map_append]
    exact L.last_of_fires _ _ hdue hrested
  last_of_waits pre b hno := by
    rw [List.map_append]
    exact L.last_of_waits _ _ hno

/-! ### Streaks -/

section

variable (own holds : α → Prop)

/-- The last of the own inputs, if there is one, breaks the streak. -/
def Broken (pre : List α) : Prop :=
  ∀ before x mid, pre = before ++ x :: mid → own x → (∀ y ∈ mid, ¬ own y) → ¬ holds x

/-- A streak of own inputs started with `j` and goes on to the end. -/
def Started (pre : List α) (j : α) : Prop :=
  ∃ before mid, pre = before ++ j :: mid ∧ own j ∧ holds j ∧ (∀ x ∈ mid, own x → holds x) ∧
    Broken own holds before

variable {own holds} {pre : List α} {a j : α}

theorem broken_nil : Broken own holds [] := by
  intro before x mid hnil
  simp at hnil

theorem broken_snoc_other (ha : ¬ own a) :
    Broken own holds (pre ++ [a]) ↔ Broken own holds pre := by
  constructor
  · rintro h before x mid rfl hx hmid
    refine h before x (mid ++ [a]) (by simp) hx ?_
    intro y hy
    rcases List.mem_append.mp hy with hy | hy
    · exact hmid y hy
    · rwa [List.mem_singleton.mp hy]
  · intro h before x mid hsplit hx hmid
    rcases snoc_eq_append_cons.mp hsplit with ⟨-, rfl, -⟩ | ⟨mid', rfl, rfl⟩
    · exact absurd hx ha
    · exact h before x mid' rfl hx fun y hy => hmid y (List.mem_append_left _ hy)

theorem broken_snoc_own (ha : own a) : Broken own holds (pre ++ [a]) ↔ ¬ holds a := by
  constructor
  · exact fun h => h pre a [] rfl ha fun _ hy => absurd hy List.not_mem_nil
  · intro h before x mid hsplit _ hmid
    rcases snoc_eq_append_cons.mp hsplit with ⟨-, rfl, -⟩ | ⟨mid', rfl, -⟩
    · exact h
    · exact absurd ha (hmid a (List.mem_append_right _ (List.mem_singleton_self a)))

theorem not_started_nil (j : α) : ¬ Started own holds [] j := by
  intro ⟨before, mid, hnil, _⟩
  simp at hnil

/-- An input that is not an end: it goes on, or it starts, or it is not looked at. -/
theorem started_snoc (ha : own a → holds a) : Started own holds (pre ++ [a]) j ↔
    Started own holds pre j ∨ (j = a ∧ own a ∧ Broken own holds pre) := by
  constructor
  · rintro ⟨before, mid, hsplit, hj, hholds, hmid, hbroken⟩
    rcases snoc_eq_append_cons.mp hsplit with ⟨-, rfl, rfl⟩ | ⟨mid', rfl, rfl⟩
    · exact .inr ⟨rfl, hj, hbroken⟩
    · exact .inl ⟨before, mid', rfl, hj, hholds,
        fun x hx => hmid x (List.mem_append_left _ hx), hbroken⟩
  · rintro (⟨before, mid, rfl, hj, hholds, hmid, hbroken⟩ | ⟨rfl, hj, hbroken⟩)
    · refine ⟨before, mid ++ [a], by simp, hj, hholds, ?_, hbroken⟩
      intro x hx
      rcases List.mem_append.mp hx with hx | hx
      · exact hmid x hx
      · rwa [List.mem_singleton.mp hx]
    · exact ⟨pre, [], rfl, hj, ha hj, fun _ hx => absurd hx List.not_mem_nil, hbroken⟩

theorem not_started_snoc (ha : own a) (hends : ¬ holds a) : ¬ Started own holds (pre ++ [a]) j := by
  rintro ⟨before, mid, hsplit, -, hholds, hmid, -⟩
  rcases snoc_eq_append_cons.mp hsplit with ⟨-, rfl, -⟩ | ⟨mid', rfl, -⟩
  · exact hends hholds
  · exact hends (hmid a (List.mem_append_right _ (List.mem_singleton_self a)) ha)

end

/-- It keeps when the streak began in which the own inputs are. -/
structure Streak (α : Type) where
  own : α → Prop
  holds : α → Prop
  clock : α → Int
  since : List α → Option Int
  since_nil : since [] = none
  since_other : ∀ pre a, ¬ own a → since (pre ++ [a]) = since pre
  since_ends : ∀ pre a, own a → ¬ holds a → since (pre ++ [a]) = none
  since_goesOn : ∀ pre a, own a → holds a →
    since (pre ++ [a]) = some ((since pre).getD (clock a))

/-- **The field holds the time of the input with which the present streak started.** -/
theorem Streak.since_spec (S : Streak α) (pre : List α) :
    (S.since pre = none ↔ Broken S.own S.holds pre) ∧
      ∀ t, S.since pre = some t ↔ ∃ j, Started S.own S.holds pre j ∧ S.clock j = t := by
  induction pre using List.reverseRecOn with
  | nil =>
      rw [S.since_nil]
      refine ⟨iff_of_true rfl broken_nil, fun t => ?_⟩
      exact iff_of_false (Option.some_ne_none t).symm fun ⟨j, hj, _⟩ => not_started_nil j hj
  | append_singleton pre a ih =>
      obtain ⟨hnone, hsome⟩ := ih
      by_cases hown : S.own a
      · by_cases hholds : S.holds a
        · rw [S.since_goesOn pre a hown hholds, broken_snoc_own hown]
          refine ⟨iff_of_false (Option.some_ne_none _) (not_not_intro hholds), fun t => ?_⟩
          simp only [started_snoc fun _ => hholds]
          cases hsince : S.since pre with
          | none =>
              have hbroken := hnone.mp hsince
              rw [Option.getD_none, Option.some.injEq]
              constructor
              · rintro rfl
                exact ⟨a, .inr ⟨rfl, hown, hbroken⟩, rfl⟩
              · rintro ⟨j, hj | ⟨rfl, -⟩, rfl⟩
                · have hstarted := (hsome _).mpr ⟨j, hj, rfl⟩
                  rw [hsince] at hstarted
                  cases hstarted
                · rfl
          | some u =>
              rw [Option.getD_some, ← hsince, hsome t]
              constructor
              · rintro ⟨j, hj, rfl⟩
                exact ⟨j, .inl hj, rfl⟩
              · rintro ⟨j, hj | ⟨-, -, hbroken⟩, rfl⟩
                · exact ⟨j, hj, rfl⟩
                · rw [hnone.mpr hbroken] at hsince
                  cases hsince
        · rw [S.since_ends pre a hown hholds, broken_snoc_own hown]
          refine ⟨iff_of_true rfl hholds, fun t => ?_⟩
          exact iff_of_false (Option.some_ne_none t).symm
            fun ⟨j, hj, _⟩ => not_started_snoc hown hholds hj
      · rw [S.since_other pre a hown, broken_snoc_other hown]
        simp only [started_snoc fun h => absurd h hown, hown, false_and, and_false, or_false]
        exact ⟨hnone, hsome⟩

end History
