/-
What statements leave alone, from what they say they write.

A `Write` is an insert into a table, an update of some of its columns, or a delete from it.
Rows go where a delete takes them, directly or along references that cascade, and a column
changes where an update assigns it or a delete sets a reference to `NULL`.  All else stays:
over any number of statements a row of another table is still there, and a row that is there
either has its other columns from a row that was there before, or is a new one (`Evolves`).

A row is known by its `id`, which no write may change.
-/
import RudraNetra.Lib.Relational

namespace SQL

inductive Write (T : Type) where
  | insert (table : T)
  | update (table : T) (columns : List String)
  | delete (table : T)
  deriving DecidableEq

section

variable {T V : Type}

/-- The assignments are to columns of such an update, and not to the `id`. -/
def Assignments.Within (writes : List (Write T)) (t : T) (set : Assignments V) : Prop :=
  ∃ columns, .update t columns ∈ writes ∧ ∀ c ∈ set.map Prod.fst, c ∈ columns ∧ c ≠ "id"

/-- The statement writes no more than this. -/
def Statement.Within (writes : List (Write T)) : Statement T V → Prop
  | .insert t _ => .insert t ∈ writes
  | .insertOrIgnore t _ => .insert t ∈ writes
  | .insertOrUpdate t _ _ set => .insert t ∈ writes ∧ set.Within writes t
  | .update t set _ => set.Within writes t
  | .delete t _ => .delete t ∈ writes

/-- The row that a statement may insert. -/
def Statement.brings : Statement T V → Option (T × Row V)
  | .insert t row | .insertOrIgnore t row | .insertOrUpdate t row _ _ => some (t, row)
  | .update _ _ _ | .delete _ _ => none

/-- Rows of the table may go. -/
inductive Loses (schema : Schema T) (writes : List (Write T)) : T → Prop
  | delete {t : T} (h : .delete t ∈ writes) : Loses schema writes t
  | cascade {fk : ForeignKey T} (hfk : fk ∈ schema.foreignKeys) (haction : fk.onDelete = .cascade)
      (h : Loses schema writes fk.parent) : Loses schema writes fk.child

/-- The column of the table may change. -/
inductive Changes (schema : Schema T) (writes : List (Write T)) : T → String → Prop
  | update {t : T} {columns : List String} {c : String} (h : .update t columns ∈ writes)
      (hc : c ∈ columns) (hid : c ≠ "id") : Changes schema writes t c
  | setNull {fk : ForeignKey T} (hfk : fk ∈ schema.foreignKeys) (haction : fk.onDelete = .setNull)
      (h : Loses schema writes fk.parent) (hid : fk.column ≠ "id") :
      Changes schema writes fk.child fk.column

variable {schema : Schema T} {writes writes' : List (Write T)} {t : T} {c : String}

theorem Loses.mono (h : Loses schema writes t) (hsub : writes ⊆ writes') :
    Loses schema writes' t := by
  induction h with
  | delete h => exact .delete (hsub h)
  | cascade hfk haction _ ih => exact .cascade hfk haction ih

theorem Changes.mono (h : Changes schema writes t c) (hsub : writes ⊆ writes') :
    Changes schema writes' t c := by
  cases h with
  | update h hc hid => exact .update (hsub h) hc hid
  | setNull hfk haction h hid => exact .setNull hfk haction (h.mono hsub) hid

theorem not_changes_id : ¬Changes schema writes t "id" := by
  intro h
  generalize hc : "id" = c at h
  cases h with
  | update _ _ hid => exact hid hc.symm
  | setNull _ _ _ hid => exact hid hc.symm

theorem Assignments.Within.mono {set : Assignments V} (h : set.Within writes t)
    (hsub : writes ⊆ writes') : set.Within writes' t := by
  obtain ⟨columns, hwrite, hcolumns⟩ := h
  exact ⟨columns, hsub hwrite, hcolumns⟩

/-- Rows go from tables of a kind only, if deletes are from such tables and those that cascade
from them are such. -/
theorem Loses.of_closed {P : T → Prop} (hdelete : ∀ t, .delete t ∈ writes → P t)
    (hcascade : ∀ fk ∈ schema.foreignKeys, fk.onDelete = .cascade → P fk.parent → P fk.child)
    (h : Loses schema writes t) : P t := by
  induction h with
  | delete h => exact hdelete _ h
  | cascade hfk haction _ ih => exact hcascade _ hfk haction ih

theorem not_loses_nil : ¬Loses schema ([] : List (Write T)) t := fun h =>
  h.of_closed (P := fun _ => False) (fun _ hdelete => absurd hdelete List.not_mem_nil)
    fun _ _ _ hparent => hparent

theorem not_changes_nil : ¬Changes schema ([] : List (Write T)) t c := by
  intro h
  cases h with
  | update h _ _ => exact absurd h List.not_mem_nil
  | setNull _ _ h _ => exact not_loses_nil h

/-! ### Rows that keep their columns -/

/-- The rows agree on the columns that do not change. -/
def SameRow (schema : Schema T) (writes : List (Write T)) (t : T) (row row' : Row V) : Prop :=
  ∀ c, ¬Changes schema writes t c → row' c = row c

theorem SameRow.refl (row : Row V) : SameRow schema writes t row row := fun _ _ => rfl

theorem SameRow.trans {row row' row'' : Row V} (h : SameRow schema writes t row row')
    (h' : SameRow schema writes t row' row'') : SameRow schema writes t row row'' :=
  fun c hc => (h' c hc).trans (h c hc)

theorem SameRow.mono {row row' : Row V} (h : SameRow schema writes t row row')
    (hsub : writes ⊆ writes') : SameRow schema writes' t row row' :=
  fun c hc => h c fun hchange => hc (hchange.mono hsub)

theorem SameRow.id {row row' : Row V} (h : SameRow schema writes t row row') :
    row' "id" = row "id" := h "id" not_changes_id

theorem Assignments.Within.sameRow {set : Assignments V} (h : set.Within writes t) (row : Row V) :
    SameRow schema writes t row (set.apply row) := by
  obtain ⟨columns, hwrite, hcolumns⟩ := h
  intro c hc
  refine Assignments.apply_of_lookup (lookup_eq_none fun hmem => hc ?_) row
  exact .update hwrite (hcolumns c hmem).1 (hcolumns c hmem).2

/-- How tables may come to differ: `New` is what is known of rows that are new. -/
structure Evolves (schema : Schema T) (writes : List (Write T)) (New : T → Row V → Prop)
    (tables tables' : Tables T V) : Prop where
  /-- A row was there before, but for columns that change, or it has been inserted. -/
  descends : ∀ t, ∀ row' ∈ tables' t, (∃ row ∈ tables t, SameRow schema writes t row row') ∨
    .insert t ∈ writes ∧ New t row'
  survives : ∀ t, ¬Loses schema writes t → ∀ row ∈ tables t,
    ∃ row' ∈ tables' t, SameRow schema writes t row row'

variable {New New' : T → Row V → Prop} {tables tables' tables'' : Tables T V}

theorem Evolves.refl (tables : Tables T V) : Evolves schema writes New tables tables where
  descends := fun _ row hrow => .inl ⟨row, hrow, .refl row⟩
  survives := fun _ _ row hrow => ⟨row, hrow, .refl row⟩

theorem Evolves.mono (h : Evolves schema writes New tables tables') (hsub : writes ⊆ writes')
    (hnew : ∀ t row, New t row → New' t row) : Evolves schema writes' New' tables tables' where
  descends := by
    intro t row' hrow'
    rcases h.descends t row' hrow' with ⟨row, hrow, hsame⟩ | ⟨hinsert, hrow⟩
    · exact .inl ⟨row, hrow, hsame.mono hsub⟩
    · exact .inr ⟨hsub hinsert, hnew t row' hrow⟩
  survives := by
    intro t hloses row hrow
    obtain ⟨row', hrow', hsame⟩ := h.survives t (fun h => hloses (h.mono hsub)) row hrow
    exact ⟨row', hrow', hsame.mono hsub⟩

/-- One after the other, if new rows are known by their `id`. -/
theorem Evolves.trans (hnew : ∀ t (row row' : Row V), row' "id" = row "id" → New t row → New t row')
    (h : Evolves schema writes New tables tables')
    (h' : Evolves schema writes New tables' tables'') :
    Evolves schema writes New tables tables'' where
  descends := by
    intro t row'' hrow''
    rcases h'.descends t row'' hrow'' with ⟨row', hrow', hsame'⟩ | hinserted
    · rcases h.descends t row' hrow' with ⟨row, hrow, hsame⟩ | ⟨hinsert, hnewrow⟩
      · exact .inl ⟨row, hrow, hsame.trans hsame'⟩
      · exact .inr ⟨hinsert, hnew t row' row'' hsame'.id hnewrow⟩
    · exact .inr hinserted
  survives := by
    intro t hloses row hrow
    obtain ⟨row', hrow', hsame⟩ := h.survives t hloses row hrow
    obtain ⟨row'', hrow'', hsame'⟩ := h'.survives t hloses row' hrow'
    exact ⟨row'', hrow'', hsame.trans hsame'⟩

end

/-! ### One statement -/

section

variable {T V : Type} [DecidableEq T] [DecidableEq V] {schema : Schema T}
  {writes : List (Write T)} {New : T → Row V → Prop} {tables tables' : Tables T V} {t : T}

omit [DecidableEq V] in
/-- Rows of one table that are changed one by one. -/
theorem evolves_map {change : Row V → Row V}
    (h : ∀ row, SameRow schema writes t row (change row)) :
    Evolves schema writes New tables (Function.update tables t ((tables t).map change)) where
  descends := by
    intro u row' hrow'
    by_cases hu : u = t
    · subst hu
      rw [Function.update_self] at hrow'
      obtain ⟨row, hrow, rfl⟩ := List.mem_map.mp hrow'
      exact .inl ⟨row, hrow, h row⟩
    · rw [Function.update_of_ne hu] at hrow'
      exact .inl ⟨row', hrow', .refl row'⟩
  survives := by
    intro u _ row hrow
    by_cases hu : u = t
    · subst hu
      rw [Function.update_self]
      exact ⟨change row, List.mem_map_of_mem hrow, h row⟩
    · rw [Function.update_of_ne hu]
      exact ⟨row, hrow, .refl row⟩

omit [DecidableEq V] in
theorem evolves_insert {row : Row V} (hinsert : .insert t ∈ writes) (hnew : New t row) :
    Evolves schema writes New tables (Function.update tables t (tables t ++ [row])) where
  descends := by
    intro u row' hrow'
    by_cases hu : u = t
    · subst hu
      rw [Function.update_self] at hrow'
      rcases List.mem_append.mp hrow' with hold | hlast
      · exact .inl ⟨row', hold, .refl row'⟩
      · obtain rfl := List.mem_singleton.mp hlast
        exact .inr ⟨hinsert, hnew⟩
    · rw [Function.update_of_ne hu] at hrow'
      exact .inl ⟨row', hrow', .refl row'⟩
  survives := by
    intro u _ r hr
    by_cases hu : u = t
    · subst hu
      rw [Function.update_self]
      exact ⟨r, List.mem_append_left _ hr, .refl r⟩
    · rw [Function.update_of_ne hu]
      exact ⟨r, hr, .refl r⟩

omit [DecidableEq T] [DecidableEq V] in
theorem Assignments.Within.sameRow_ite {set : Assignments V} (h : set.Within writes t) {p : Prop}
    [Decidable p] (row : Row V) :
    SameRow schema writes t row (if p then set.apply row else row) := by
  split
  · exact h.sameRow row
  · exact .refl row

/-! ### Deletes -/

/-- A row that may have lost references. -/
def Decays (schema : Schema T) (writes : List (Write T)) (t : T) (row row' : Row V) : Prop :=
  ∀ c, row' c = row c ∨ row' c = none ∧ Changes schema writes t c

omit [DecidableEq T] [DecidableEq V] in
theorem Decays.sameRow {row row' : Row V} (h : Decays schema writes t row row') :
    SameRow schema writes t row row' :=
  fun c hc => (h c).resolve_right fun hnull => hc hnull.2

omit [DecidableEq T] [DecidableEq V] in
theorem Decays.trans {row row' row'' : Row V} (h : Decays schema writes t row row')
    (h' : Decays schema writes t row' row'') : Decays schema writes t row row'' := by
  intro c
  rcases h' c with hsame | hnull
  · rw [hsame]
    exact h c
  · exact .inr hnull

/-- How tables may look on the way from those before a delete to those after it. -/
structure Decayed (schema : Schema T) (writes : List (Write T)) (tables tables' : Tables T V) :
    Prop where
  descends : ∀ t, ∀ row' ∈ tables' t, ∃ row ∈ tables t, Decays schema writes t row row'
  survives : ∀ t, ¬Loses schema writes t → ∀ row ∈ tables t,
    ∃ row' ∈ tables' t, Decays schema writes t row row'

omit [DecidableEq T] [DecidableEq V] in
theorem Decayed.evolves (h : Decayed schema writes tables tables') :
    Evolves schema writes New tables tables' where
  descends := by
    intro t row' hrow'
    obtain ⟨row, hrow, hdecays⟩ := h.descends t row' hrow'
    exact .inl ⟨row, hrow, hdecays.sameRow⟩
  survives := by
    intro t hloses row hrow
    obtain ⟨row', hrow', hdecays⟩ := h.survives t hloses row hrow
    exact ⟨row', hrow', hdecays.sameRow⟩

theorem decayed_without (hdelete : .delete t ∈ writes) (cond : Condition V) :
    Decayed schema writes tables (tables.without t cond) where
  descends := fun _ row hrow => ⟨row, (mem_without.mp hrow).1, fun _ => .inl rfl⟩
  survives := by
    intro u hloses row hrow
    refine ⟨row, mem_without.mpr ⟨hrow, fun hu => ?_⟩, fun _ => .inl rfl⟩
    subst hu
    exact absurd (Loses.delete hdelete) hloses

/-- One referential action: there is something to do only where rows of the parent go. -/
theorem Decayed.enforce (h : Decayed schema writes tables tables')
    (hids : ∀ fk ∈ schema.foreignKeys, fk.column ≠ "id") {fk : ForeignKey T}
    (hfk : fk ∈ schema.foreignKeys) (hvalid : ∀ row ∈ tables fk.child, fk.Refers tables row) :
    Decayed schema writes tables (fk.enforce tables') := by
  by_cases hloses : Loses schema writes fk.parent
  · refine ⟨fun u row'' hrow'' => ?_, fun u hu row hrow => ?_⟩
    · obtain ⟨row', hrow', -, hcols⟩ := ForeignKey.mem_enforce hrow''
      obtain ⟨row, hrow, hdecays⟩ := h.descends u row' hrow'
      refine ⟨row, hrow, hdecays.trans fun c => ?_⟩
      rcases hcols c with hsame | ⟨hnull, hchild, hcolumn, haction⟩
      · exact .inl hsame
      · subst hchild hcolumn
        exact .inr ⟨hnull, .setNull hfk haction hloses (hids fk hfk)⟩
    · obtain ⟨row', hrow', hdecays⟩ := h.survives u hu row hrow
      by_cases hchild : u = fk.child
      · subst hchild
        cases haction : fk.onDelete with
        | cascade => exact absurd (Loses.cascade hfk haction hloses) hu
        | setNull =>
            rw [ForeignKey.enforce, Function.update_self, haction]
            refine ⟨_, List.mem_map_of_mem hrow', hdecays.trans fun c => ?_⟩
            split
            · exact .inl rfl
            · by_cases hc : c = fk.column
              · subst hc
                exact .inr ⟨Function.update_self _ _ _,
                  .setNull hfk haction hloses (hids fk hfk)⟩
              · exact .inl (Function.update_of_ne hc _ _)
      · rw [ForeignKey.enforce, Function.update_of_ne hchild]
        exact ⟨row', hrow', hdecays⟩
  · -- The rows that are referred to are all still there.
    have hrefers : ∀ row' ∈ tables' fk.child, fk.Refers tables' row' := by
      intro row' hrow'
      obtain ⟨row, hrow, hdecays⟩ := h.descends fk.child row' hrow'
      rcases hdecays fk.column with hsame | hnull
      · rcases hvalid row hrow with hnone | ⟨p, hp, hid⟩
        · exact .inl (hsame.trans hnone)
        · obtain ⟨p', hp', hsurvives⟩ := h.survives fk.parent hloses p hp
          exact .inr ⟨p', hp', hsurvives.sameRow.id.trans (hid.trans hsame.symm)⟩
      · exact .inl hnull.1
    rw [ForeignKey.enforce_of_refers hrefers]
    exact h

theorem Decayed.foldl (hids : ∀ fk ∈ schema.foreignKeys, fk.column ≠ "id")
    (hvalid : ∀ fk ∈ schema.foreignKeys, ∀ row ∈ tables fk.child, fk.Refers tables row) :
    ∀ (fks : List (ForeignKey T)) (tables' : Tables T V), (∀ fk ∈ fks, fk ∈ schema.foreignKeys) →
      Decayed schema writes tables tables' →
        Decayed schema writes tables (fks.foldl (fun tables fk => fk.enforce tables) tables') := by
  intro fks
  induction fks with
  | nil => exact fun _ _ h => h
  | cons fk rest ih =>
      intro tables' hsub h
      have hfk := hsub fk List.mem_cons_self
      exact ih _ (fun fk' hfk' => hsub fk' (List.mem_cons_of_mem fk hfk'))
        (h.enforce hids hfk (hvalid fk hfk))

/-- **What a statement leaves alone.** -/
theorem Database.exec_evolves {db db' : Database schema V} {stmt : Statement T V} {n : Nat}
    (hids : ∀ fk ∈ schema.foreignKeys, fk.column ≠ "id") (hwithin : stmt.Within writes)
    (hnew : ∀ t row, stmt.brings = some (t, row) → New t row)
    (h : db.exec stmt = some (db', n)) :
    Evolves schema writes New db.tables db'.tables := by
  rw [Database.exec_eq_some] at h
  have htables : (stmt.eval schema db.tables).1 = db'.tables := congrArg Prod.fst h
  rw [← htables]
  cases stmt with
  | insert t row => exact evolves_insert hwithin (hnew t row rfl)
  | insertOrIgnore t row =>
      simp only [Statement.eval]
      split
      · exact .refl _
      · exact evolves_insert hwithin (hnew t row rfl)
  | insertOrUpdate t row key set =>
      simp only [Statement.eval]
      split
      · exact evolves_map fun _ => hwithin.2.sameRow_ite _
      · exact evolves_insert hwithin.1 (hnew t row rfl)
  | update t set cond => exact evolves_map fun _ => Assignments.Within.sameRow_ite hwithin _
  | delete t cond =>
      exact (Decayed.foldl hids db.valid.refers schema.foreignKeys _ (fun _ hfk => hfk)
        (decayed_without hwithin cond)).evolves

/-! ### Rows by their id -/

omit [DecidableEq T] in
/-- A row that is still there, and not under a new `id`, keeps the columns that do not change. -/
theorem Evolves.column {db db' : Database schema V} (h : Evolves schema writes New db.tables db'.tables)
    (hunique : (t, ["id"]) ∈ schema.uniques) {row row' : Row V} {c : String}
    (hrow : row ∈ db.tables t) (hrow' : row' ∈ db'.tables t) (hid : row "id" ≠ none)
    (hsame : row' "id" = row "id") (hold : ¬New t row') (hc : ¬Changes schema writes t c) :
    row' c = row c := by
  rcases h.descends t row' hrow' with ⟨before, hbefore, hcols⟩ | ⟨-, hnew⟩
  · have hagree : Agree ["id"] row before := by
      simpa [Agree, hid] using hsame.symm.trans hcols.id
    obtain rfl := db.valid.eq_of_agree hunique hrow hbefore hagree
    exact hcols c hc
  · exact absurd hnew hold

end

end SQL
