/-
Queries over nullable columns.

SQL computes with three truth values: a comparison with `NULL` is unknown, and a row is
selected or counted only if its condition is true.  So a condition and its negation need
not cover a row between them.

`ORDER BY` leaves the order of equal rows open.  A `TieBreak` is one way the database may
settle it; a statement about a query with `LIMIT 1` is a statement for all of them.
-/
import Mathlib

namespace SQL

/-- A truth value; `none` is unknown. -/
abbrev Truth : Type := Option Bool

/-- A comparison is unknown if a side of it is `NULL`. -/
def compare {α : Type} (r : α → α → Bool) (a b : Option α) : Truth :=
  a.bind fun x => b.map fun y => r x y

def Truth.and : Truth → Truth → Truth
  | some false, _ => some false
  | _, some false => some false
  | some true, some true => some true
  | _, _ => none

def Truth.not (t : Truth) : Truth := t.map (!·)

/-- Whether a row with this condition is selected. -/
def Truth.holds (t : Truth) : Bool := t == some true

/-- `IS NULL`, which is never unknown. -/
def isNull {α : Type} (a : Option α) : Truth := some a.isNone

def isNotNull {α : Type} (a : Option α) : Truth := some a.isSome

@[simp] theorem holds_some (b : Bool) : Truth.holds (some b) = b := by cases b <;> rfl

@[simp] theorem holds_none : Truth.holds none = false := rfl

@[simp] theorem holds_and (s t : Truth) : (s.and t).holds = (s.holds && t.holds) := by
  rcases s with - | (- | -) <;> rcases t with - | (- | -) <;> rfl

@[simp] theorem not_some (b : Bool) : Truth.not (some b) = some (!b) := rfl

@[simp] theorem not_none : Truth.not none = none := rfl

@[simp] theorem compare_some {α : Type} (r : α → α → Bool) (x y : α) :
    compare r (some x) (some y) = some (r x y) := rfl

@[simp] theorem compare_none {α : Type} (r : α → α → Bool) (b : Option α) :
    compare r none b = none := rfl

@[simp] theorem holds_isNull {α : Type} (a : Option α) : (isNull a).holds = a.isNone := by
  simp [isNull]

@[simp] theorem holds_isNotNull {α : Type} (a : Option α) : (isNotNull a).holds = a.isSome := by
  simp [isNotNull]

/-! ### The first row of an ordered query -/

section Newest

variable {α : Type} (key : α → Int)

/-- The rows that may come first under `ORDER BY key DESC`. -/
def newest (rows : List α) : List α := rows.filter fun r => rows.all fun q => key q ≤ key r

variable {key} in
/-- Leaving out rows, but not all that come first, leaves out the same of those. -/
theorem newest_filter {rows : List α} {row : α} {p : α → Bool} (hrow : row ∈ newest key rows)
    (hp : p row = true) : newest key (rows.filter p) = (newest key rows).filter p := by
  obtain ⟨hmem, hmax⟩ := List.mem_filter.mp hrow
  unfold newest
  rw [List.filter_filter, List.filter_filter]
  refine List.filter_congr fun r _ => ?_
  cases hr : p r with
  | false => simp
  | true =>
      simp only [List.all_eq_true, decide_eq_true_eq, Bool.and_true, Bool.true_and] at hmax ⊢
      rw [Bool.eq_iff_iff, List.all_eq_true, List.all_eq_true]
      constructor
      · intro hall q hq
        have hfirst := hall row (List.mem_filter.mpr ⟨hmem, hp⟩)
        simp only [decide_eq_true_eq] at hfirst ⊢
        exact (hmax q hq).trans hfirst
      · intro hall q hq
        exact hall q (List.mem_filter.mp hq).1

/-- A way to settle which of some equal rows comes first. -/
structure TieBreak (α : Type) where
  first : List α → Option α
  first_mem : ∀ rows row, first rows = some row → row ∈ rows
  first_isSome : ∀ rows, rows ≠ [] → (first rows).isSome

/-- `ORDER BY key DESC LIMIT 1` -/
def TieBreak.newest (tie : TieBreak α) (rows : List α) : Option α :=
  tie.first (SQL.newest key rows)

/-- Ties settled by the order in which the rows are stored. -/
def TieBreak.stored : TieBreak α where
  first := List.head?
  first_mem := fun _ _ h => List.mem_of_head? h
  first_isSome := fun rows h => by cases rows <;> simp_all

/-- Ties settled for one row wherever it is among the equal ones. -/
def TieBreak.prefer [DecidableEq α] (row : α) : TieBreak α where
  first := fun rows => if row ∈ rows then some row else rows.head?
  first_mem := by
    intro rows other h
    split at h
    · simp_all
    · exact List.mem_of_head? h
  first_isSome := by
    intro rows h
    cases rows <;> grind

/-- Whichever of some rows comes first has a property if there is one and all have it. -/
theorem TieBreak.forall_first {rows : List α} {P : α → Prop} :
    (∀ tie : TieBreak α, ∃ row, tie.first rows = some row ∧ P row) ↔
      rows ≠ [] ∧ ∀ row ∈ rows, P row := by
  classical
  constructor
  · intro h
    refine ⟨?_, fun row hrow => ?_⟩
    · rintro rfl
      obtain ⟨row, hfirst, -⟩ := h .stored
      exact nomatch hfirst
    · obtain ⟨first, hfirst, hp⟩ := h (.prefer row)
      obtain rfl : row = first := Option.some.inj ((if_pos hrow).symm.trans hfirst)
      exact hp
  · rintro ⟨hne, hall⟩ tie
    obtain ⟨row, hfirst⟩ := Option.isSome_iff_exists.mp (tie.first_isSome rows hne)
    exact ⟨row, hfirst, hall row (tie.first_mem rows row hfirst)⟩

variable {key}

theorem TieBreak.newest_mem {tie : TieBreak α} {rows : List α} {row : α}
    (h : tie.newest key rows = some row) : row ∈ SQL.newest key rows :=
  tie.first_mem _ _ h

/-- Only a query that selects nothing has no first row. -/
theorem TieBreak.newest_eq_none {tie : TieBreak α} {rows : List α} :
    tie.newest key rows = none ↔ SQL.newest key rows = [] := by
  constructor
  · intro h
    by_contra hne
    simpa [show tie.first (SQL.newest key rows) = none from h] using tie.first_isSome _ hne
  · intro h
    cases hrow : tie.newest key rows with
    | none => rfl
    | some row => simpa [h] using TieBreak.newest_mem hrow

theorem TieBreak.prefer_newest [DecidableEq α] {rows : List α} {row : α}
    (h : row ∈ SQL.newest key rows) : (TieBreak.prefer row).newest key rows = some row :=
  if_pos h

/-- Of rows with different keys the newest is the last in their order. -/
theorem TieBreak.newest_eq_getLast? {tie : TieBreak α} {rows : List α}
    (hkeys : (rows.map key).Nodup) :
    tie.newest key rows = (rows.mergeSort fun p q => key p ≤ key q).getLast? := by
  have hsorted : (rows.mergeSort fun p q => key p ≤ key q).Pairwise fun p q => key p ≤ key q := by
    refine (List.pairwise_mergeSort ?_ ?_ rows).imp (by simp) <;> grind
  have hmem : ∀ r, r ∈ rows.mergeSort (fun p q => key p ≤ key q) ↔ r ∈ rows := fun _ =>
    List.mem_mergeSort
  cases hlast : (rows.mergeSort fun p q => key p ≤ key q).getLast? with
  | none =>
    rw [List.getLast?_eq_none_iff] at hlast
    simp only [hlast, List.not_mem_nil, false_iff] at hmem
    rw [TieBreak.newest_eq_none, List.eq_nil_iff_forall_not_mem]
    exact fun r hr => hmem r (List.mem_filter.mp hr).1
  | some last =>
    obtain ⟨older, hrows⟩ := List.getLast?_eq_some_iff.mp hlast
    simp only [hrows, List.mem_append, List.mem_singleton] at hmem
    rw [hrows, List.pairwise_append] at hsorted
    have hmax : ∀ r ∈ rows, key r ≤ key last := by
      intro r hr
      rcases (hmem r).mpr hr with holder | rfl
      · exact hsorted.2.2 r holder last (List.mem_singleton_self last)
      · exact le_rfl
    have hlast' : last ∈ rows := (hmem last).mp (.inr rfl)
    have hnewest : last ∈ SQL.newest key rows := List.mem_filter.mpr ⟨hlast', by simpa using hmax⟩
    have hsome : tie.newest key rows ≠ none := fun hnone =>
      List.ne_nil_of_mem hnewest (TieBreak.newest_eq_none.mp hnone)
    obtain ⟨row, hrow⟩ := Option.ne_none_iff_exists'.mp hsome
    obtain ⟨hrow', hge⟩ := List.mem_filter.mp (TieBreak.newest_mem hrow)
    have hge' : key last ≤ key row := by simpa using List.all_eq_true.mp hge last hlast'
    rw [hrow, List.inj_on_of_nodup_map hkeys hrow' hlast' (le_antisymm (hmax row hrow') hge')]

end Newest

/-! ### Windows and groups -/

section Windows

variable {α β κ : Type} [DecidableEq β] [DecidableEq κ]

/-- `LAG(...) OVER (PARTITION BY part ORDER BY key)`: the row before a row of its part, where no two
rows of a part have the same key. -/
def lag (part : α → β) (key : α → Int) (rows : List α) (row : α) : Option α :=
  (newest key (rows.filter fun r => part r = part row ∧ key r < key row)).head?

/-- `GROUP BY key` -/
def groups (key : α → κ) (rows : List α) : List (κ × List α) :=
  (rows.map key).dedup.map fun k => (k, rows.filter (key · = k))

omit [DecidableEq κ] in
theorem lag_mem {part : α → β} {key : α → Int} {rows : List α} {row prev : α}
    (h : lag part key rows row = some prev) :
    prev ∈ rows ∧ part prev = part row ∧ key prev < key row := by
  have hmem := (List.mem_filter.mp (List.mem_of_head? h)).1
  simpa using hmem

/-- A row has the same row before it among fewer rows, if all that come before it are there. -/
theorem lag_filter {part : α → β} {key : α → Int} {rows : List α} {row : α} {p : α → Bool}
    (h : ∀ r ∈ rows, part r = part row → key r < key row → p r = true) :
    lag part key (rows.filter p) row = lag part key rows row := by
  unfold lag
  rw [List.filter_filter]
  congr 2
  refine List.filter_congr fun r hr => ?_
  by_cases hbefore : part r = part row ∧ key r < key row
  · simp [hbefore, h r hr hbefore.1 hbefore.2]
  · simp [hbefore]

omit [DecidableEq κ] in
/-- No row comes between a row and the row before it. -/
theorem lag_newest {part : α → β} {key : α → Int} {rows : List α} {row prev r : α}
    (h : lag part key rows row = some prev) (hr : r ∈ rows) (hpart : part r = part row)
    (hkey : key r < key row) : key r ≤ key prev := by
  have hall := (List.mem_filter.mp (List.mem_of_head? h)).2
  rw [List.all_eq_true] at hall
  simpa using hall r (List.mem_filter.mpr ⟨hr, by simp [hpart, hkey]⟩)

omit [DecidableEq κ] in
/-- A row has the same row before it among fewer rows, if that one is there. -/
theorem lag_filter_of_mem {part : α → β} {key : α → Int} {rows : List α} {row prev : α}
    {p : α → Bool} (h : lag part key rows row = some prev) (hp : p prev = true) :
    lag part key (rows.filter p) row = some prev := by
  unfold lag at h ⊢
  rw [List.filter_comm, newest_filter (List.mem_of_head? h) hp]
  cases hrows : newest key (rows.filter fun r => part r = part row ∧ key r < key row) with
  | nil => rw [hrows] at h; simp at h
  | cons first rest =>
      rw [hrows] at h
      obtain rfl : first = prev := by simpa using h
      simp [hp]

omit [DecidableEq β] in
/-- Sums over the rows of each key add up to the sum over the rows with one of the keys. -/
theorem sum_fibers {M : Type} [AddCommMonoid M] (key : α → κ) (f : α → M) (keys : Finset κ)
    (rows : List α) :
    ∑ k ∈ keys, ((rows.filter (key · = k)).map f).sum =
      ((rows.filter fun r => key r ∈ keys).map f).sum := by
  induction rows with
  | nil => simp
  | cons row rest ih =>
      have hsplit : ∀ k, (((row :: rest).filter (key · = k)).map f).sum =
          (if key row = k then f row else 0) + ((rest.filter (key · = k)).map f).sum := by
        intro k
        by_cases hk : key row = k
        · simp [hk]
        · simp [hk]
      simp only [hsplit, Finset.sum_add_distrib, ih, Finset.sum_ite_eq]
      by_cases hmem : key row ∈ keys
      · simp [hmem]
      · simp [hmem]

omit [DecidableEq β] in
/-- Sums over the groups add up to the sum over the rows. -/
theorem sum_groups {M : Type} [AddCommMonoid M] (key : α → κ) (rows : List α) (f : α → M)
    (p : κ → Bool) :
    (((groups key rows).filter fun g => p g.1).map fun g => (g.2.map f).sum).sum =
      ((rows.filter fun r => p (key r)).map f).sum := by
  let keys := (rows.map key).dedup.filter p
  have hnodup : keys.Nodup := (List.nodup_dedup _).filter _
  have hkeys : ∀ r ∈ rows, (p (key r) = true ↔ key r ∈ keys.toFinset) := by
    intro r hr
    have hmem : key r ∈ rows.map key := List.mem_map_of_mem hr
    simp [keys, hmem]
  calc (((groups key rows).filter fun g => p g.1).map fun g => (g.2.map f).sum).sum
      = (keys.map fun k => ((rows.filter (key · = k)).map f).sum).sum := by
        simp [groups, keys, List.filter_map, Function.comp_def]
    _ = ∑ k ∈ keys.toFinset, ((rows.filter (key · = k)).map f).sum :=
        (List.sum_toFinset _ hnodup).symm
    _ = ((rows.filter fun r => key r ∈ keys.toFinset).map f).sum := sum_fibers key f _ rows
    _ = ((rows.filter fun r => p (key r)).map f).sum := by
        congr 2
        refine List.filter_congr fun r hr => ?_
        simp [← hkeys r hr]

end Windows

/-! ### Counting -/

/-- If every row meets exactly one of some conditions, the counts add up to all rows. -/
theorem sum_countP {α β : Type} [Fintype β] (p : β → α → Bool) (rows : List α)
    (h : ∀ row ∈ rows, ∃! b, p b row = true) : ∑ b, rows.countP (p b) = rows.length := by
  induction rows with
  | nil => simp
  | cons row rest ih =>
      obtain ⟨b, hb, huniq⟩ := h row (by simp)
      have hone : (∑ b, if p b row then 1 else 0) = 1 := by
        rw [Finset.sum_eq_single b (fun c _ hc => if_neg fun hp => hc (huniq c hp)) (by simp),
          if_pos hb]
      simp only [List.countP_cons, Finset.sum_add_distrib, List.length_cons, hone,
        ih fun r hr => h r (List.mem_cons_of_mem _ hr)]

end SQL
