/-
Relational tables with constraints, and the statements that change them.

A row gives each column a value or `NULL`, and a table is a list of rows.  A schema says
which columns are unique together, and which columns refer to the `id` of a row elsewhere,
with what happens to a reference when its row is deleted.  A `Database` carries the proof
that its schema holds, so a statement either ends in a valid database or is refused.

A delete that leaves references behind is followed by the referential actions.  If rows
are only removed along with the deleted ones where nothing refers to them in turn, then the
actions touch exactly the rows that referred to a deleted row, and the delete is never
refused (`exec_delete`).
-/
import RudraNetra.Lib.SQL

namespace SQL

/-- A row: a value for each column, or `NULL`. -/
abbrev Row (V : Type) : Type := String → Option V

/-- The rows of each table. -/
abbrev Tables (T V : Type) : Type := T → List (Row V)

/-- What becomes of a reference whose row is deleted. -/
inductive OnDelete where
  | cascade
  | setNull
  deriving DecidableEq

/-- The column of a table that refers to the `id` of another table's rows. -/
structure ForeignKey (T : Type) where
  child : T
  column : String
  parent : T
  onDelete : OnDelete

structure Schema (T : Type) where
  /-- Columns of a table that no two rows agree on. -/
  uniques : List (T × List String)
  foreignKeys : List (ForeignKey T)

section

variable {T V : Type} [DecidableEq T] [DecidableEq V]

/-- Rows that agree on some columns, none of them `NULL`. -/
def Agree (columns : List String) (r q : Row V) : Prop := ∀ c ∈ columns, r c ≠ none ∧ r c = q c

instance (columns : List String) (r q : Row V) : Decidable (Agree columns r q) :=
  inferInstanceAs (Decidable (∀ c ∈ columns, _))

omit [DecidableEq V] in
theorem Agree.symm {columns : List String} {r q : Row V} (h : Agree columns r q) :
    Agree columns q r := by
  intro c hc
  obtain ⟨hnull, hsame⟩ := h c hc
  exact ⟨hsame ▸ hnull, hsame.symm⟩

/-- Some row of the table has this `id`. -/
def HasID (rows : List (Row V)) (v : Option V) : Prop := ∃ p ∈ rows, p "id" = v

instance (rows : List (Row V)) (v : Option V) : Decidable (HasID rows v) :=
  inferInstanceAs (Decidable (∃ p ∈ rows, _))

/-- The row's reference is `NULL` or to a row that is there. -/
def ForeignKey.Refers (fk : ForeignKey T) (tables : Tables T V) (row : Row V) : Prop :=
  row fk.column = none ∨ HasID (tables fk.parent) (row fk.column)

instance (fk : ForeignKey T) (tables : Tables T V) (row : Row V) :
    Decidable (fk.Refers tables row) :=
  inferInstanceAs (Decidable (_ ∨ _))

structure Schema.Holds (schema : Schema T) (tables : Tables T V) : Prop where
  unique : ∀ u ∈ schema.uniques, (tables u.1).Pairwise fun r q => ¬Agree u.2 r q
  refers : ∀ fk ∈ schema.foreignKeys, ∀ row ∈ tables fk.child, fk.Refers tables row

instance (schema : Schema T) (tables : Tables T V) : Decidable (schema.Holds tables) :=
  decidable_of_iff
    ((∀ u ∈ schema.uniques, (tables u.1).Pairwise fun r q => ¬Agree u.2 r q) ∧
      ∀ fk ∈ schema.foreignKeys, ∀ row ∈ tables fk.child, fk.Refers tables row)
    ⟨fun h => ⟨h.1, h.2⟩, fun h => ⟨h.unique, h.refers⟩⟩

/-- Tables in which a schema holds. -/
structure Database (schema : Schema T) (V : Type) [DecidableEq V] where
  tables : Tables T V
  valid : schema.Holds tables

/-! ### Statements -/

/-- A conjunction of `column = value`. -/
abbrev Condition (V : Type) : Type := List (String × V)

/-- A comparison with `NULL` is not true. -/
def Condition.selects (cond : Condition V) (row : Row V) : Bool :=
  cond.all fun (column, value) => (compare (· == ·) (row column) (some value)).holds

/-- A list of `column = expression`, the expressions over the row as it was. -/
abbrev Assignments (V : Type) : Type := List (String × (Row V → Option V))

def Assignments.apply (set : Assignments V) (row : Row V) : Row V := fun column =>
  match set.lookup column with
  | some expression => expression row
  | none => row column

inductive Statement (T V : Type) where
  | insert (table : T) (row : Row V)
  /-- `INSERT ... ON CONFLICT DO NOTHING` -/
  | insertOrIgnore (table : T) (row : Row V)
  /-- `INSERT ... ON CONFLICT (key) DO UPDATE SET ...` -/
  | insertOrUpdate (table : T) (row : Row V) (key : List String) (set : Assignments V)
  | update (table : T) (set : Assignments V) (cond : Condition V)
  | delete (table : T) (cond : Condition V)

/-- The referential action of a foreign key, for the references without a row. -/
def ForeignKey.enforce (fk : ForeignKey T) (tables : Tables T V) : Tables T V :=
  Function.update tables fk.child <|
    match fk.onDelete with
    | .cascade => (tables fk.child).filter fun row => fk.Refers tables row
    | .setNull => (tables fk.child).map fun row =>
        if fk.Refers tables row then row else Function.update row fk.column none

/-- The rows of a table that a delete leaves. -/
def Tables.without (tables : Tables T V) (table : T) (cond : Condition V) : Tables T V :=
  Function.update tables table ((tables table).filter fun row => !cond.selects row)

/-- The tables a statement asks for, and the number of rows it affects. -/
def Statement.eval (schema : Schema T) (tables : Tables T V) : Statement T V → Tables T V × Nat
  | .insert t row => (Function.update tables t (tables t ++ [row]), 1)
  | .insertOrIgnore t row =>
    if schema.uniques.any fun u => u.1 = t ∧ (tables t).any (Agree u.2 row ·) then (tables, 0)
    else (Function.update tables t (tables t ++ [row]), 1)
  | .insertOrUpdate t row key set =>
    if (tables t).any (Agree key row ·) then
      (Function.update tables t
        ((tables t).map fun q => if Agree key row q then set.apply q else q), 1)
    else (Function.update tables t (tables t ++ [row]), 1)
  | .update t set cond =>
    (Function.update tables t
      ((tables t).map fun row => if cond.selects row then set.apply row else row),
      (tables t).countP cond.selects)
  | .delete t cond =>
    (schema.foreignKeys.foldl (fun tables fk => fk.enforce tables) (tables.without t cond),
      (tables t).countP cond.selects)

variable {schema : Schema T}

/-- Carries a statement out, unless the schema refuses the tables it leads to. -/
def Database.exec (db : Database schema V) (stmt : Statement T V) :
    Option (Database schema V × Nat) :=
  if h : schema.Holds (stmt.eval schema db.tables).1 then
    some (⟨_, h⟩, (stmt.eval schema db.tables).2)
  else none

theorem Database.exec_eq_some {db db' : Database schema V} {stmt : Statement T V} {n : Nat} :
    db.exec stmt = some (db', n) ↔ stmt.eval schema db.tables = (db'.tables, n) := by
  unfold Database.exec
  split
  · rename_i h
    simp only [Option.some.injEq, Prod.ext_iff]
    cases db'
    simp
  · rename_i h
    constructor
    · exact fun hnone => by simp at hnone
    · intro heval
      rw [heval] at h
      exact absurd db'.valid h

/-- A statement goes through if it leads to the tables of a database. -/
theorem Database.exec_of_tables {db db' : Database schema V} {stmt : Statement T V}
    (h : (stmt.eval schema db.tables).1 = db'.tables) : ∃ n, db.exec stmt = some (db', n) :=
  ⟨(stmt.eval schema db.tables).2, exec_eq_some.mpr (Prod.ext h rfl)⟩

/-- A statement goes through if it leads to valid tables. -/
theorem Database.exec_of_holds {db : Database schema V} {stmt : Statement T V}
    (h : schema.Holds (stmt.eval schema db.tables).1) :
    ∃ db', db.exec stmt = some (db', (stmt.eval schema db.tables).2) ∧
      db'.tables = (stmt.eval schema db.tables).1 :=
  ⟨⟨_, h⟩, dif_pos h, rfl⟩

@[simp] theorem Condition.selects_nil (row : Row V) : Condition.selects [] row = true := rfl

@[simp] theorem Condition.selects_cons (column : String) (value : V) (cond : Condition V)
    (row : Row V) : Condition.selects ((column, value) :: cond) row =
      (decide (row column = some value) && Condition.selects cond row) := by
  cases hrow : row column <;> simp [Condition.selects, hrow, beq_eq_decide]

/-- A condition selects the rows that have its values. -/
theorem Condition.selects_iff {cond : Condition V} {row : Row V} :
    cond.selects row = true ↔ ∀ e ∈ cond, row e.1 = some e.2 := by
  induction cond with
  | nil => simp
  | cons e rest ih =>
      obtain ⟨column, value⟩ := e
      simp [ih]

/-! ### Rows that stay

What a statement leaves alone: every row that it does not select. -/

section

variable (schema : Schema T) {tables : Tables T V} {t u : T} {row r : Row V}

theorem insert_keeps (h : r ∈ tables u) :
    r ∈ ((Statement.insert t row).eval schema tables).1 u := by
  by_cases hu : u = t
  · subst hu
    simp [Statement.eval, h]
  · simpa [Statement.eval, hu] using h

theorem insertOrIgnore_keeps (h : r ∈ tables u) :
    r ∈ ((Statement.insertOrIgnore t row).eval schema tables).1 u := by
  simp only [Statement.eval]
  split
  · exact h
  · exact insert_keeps schema h

theorem insertOrUpdate_keeps {key : List String} {set : Assignments V} (h : r ∈ tables u)
    (hkey : u = t → ¬Agree key row r) :
    r ∈ ((Statement.insertOrUpdate t row key set).eval schema tables).1 u := by
  simp only [Statement.eval]
  split
  · by_cases hu : u = t
    · subst hu
      simpa using ⟨r, h, if_neg (hkey rfl)⟩
    · simpa [hu] using h
  · exact insert_keeps schema h

/-- An update keeps the rows whose assignments give what is there already. -/
theorem update_keeps {set : Assignments V} {cond : Condition V} (h : r ∈ tables u)
    (hset : u = t → cond.selects r = true → set.apply r = r) :
    r ∈ ((Statement.update t set cond).eval schema tables).1 u := by
  by_cases hu : u = t
  · subst hu
    have hr : (if cond.selects r then set.apply r else r) = r := by
      split
      · exact hset rfl ‹_›
      · rfl
    simpa [Statement.eval] using ⟨r, h, hr⟩
  · simpa [Statement.eval, hu] using h

end

omit [DecidableEq T] [DecidableEq V] in
/-- Rows that agree on columns that are unique together are one row. -/
theorem Schema.Holds.eq_of_agree {schema : Schema T} {tables : Tables T V} {u : T × List String}
    (h : schema.Holds tables) (hu : u ∈ schema.uniques) {r q : Row V} (hr : r ∈ tables u.1)
    (hq : q ∈ tables u.1) (hagree : Agree u.2 r q) : r = q := by
  by_contra hne
  have hsymm : Std.Symm fun r q : Row V => ¬Agree u.2 r q :=
    ⟨fun _ _ hrq hqr => hrq hqr.symm⟩
  exact (h.unique u hu).forall hr hq hne hagree

/-! ### Inserts and updates that go through -/

/-- An insert goes through if the new row repeats nothing unique and its references are fine. -/
theorem Schema.Holds.insert {tables : Tables T V} {t : T} {row : Row V}
    (hvalid : schema.Holds tables)
    (hunique : ∀ u ∈ schema.uniques, u.1 = t → ∀ q ∈ tables t, ¬Agree u.2 q row)
    (hrefers : ∀ fk ∈ schema.foreignKeys, fk.child = t → fk.Refers tables row) :
    schema.Holds ((Statement.insert t row).eval schema tables).1 := by
  have hmem : ∀ u r, r ∈ tables u → r ∈ ((Statement.insert t row).eval schema tables).1 u :=
    fun u r h => insert_keeps schema h
  have hgrows : ∀ fk : ForeignKey T, ∀ r, fk.Refers tables r →
      fk.Refers ((Statement.insert t row).eval schema tables).1 r :=
    fun fk r => .imp id fun ⟨p, hp, hid⟩ => ⟨p, hmem _ p hp, hid⟩
  refine ⟨fun u hu => ?_, fun fk hfk r hr => hgrows fk r ?_⟩
  · by_cases ht : u.1 = t
    · have hold : (tables t).Pairwise fun r q => ¬Agree u.2 r q := ht ▸ hvalid.unique u hu
      simp only [Statement.eval, ht, Function.update_self]
      rw [List.pairwise_append]
      exact ⟨hold, List.pairwise_singleton _ _, by simpa using hunique u hu ht⟩
    · simpa [Statement.eval, ht] using hvalid.unique u hu
  · by_cases ht : fk.child = t
    · simp only [Statement.eval, ht, Function.update_self, List.mem_append,
        List.mem_singleton] at hr
      rcases hr with hold | rfl
      · exact hvalid.refers fk hfk r (ht ▸ hold)
      · exact hrefers fk hfk ht
    · exact hvalid.refers fk hfk r (by simpa [Statement.eval, ht] using hr)

omit [DecidableEq V] in
/-- A column without an assignment keeps its value. -/
theorem Assignments.apply_of_lookup {set : Assignments V} {c : String} (h : set.lookup c = none)
    (row : Row V) : set.apply row c = row c := by
  simp [Assignments.apply, h]

/-- The assignments do not touch the ids, make nothing repeat that is unique, and bring no
reference to a row that is not there. -/
structure Schema.Admits (schema : Schema T) (tables : Tables T V) (t : T) (set : Assignments V)
    (cond : Condition V) : Prop where
  id : set.lookup "id" = none
  unique : ∀ u ∈ schema.uniques, u.1 = t → (∀ c ∈ u.2, set.lookup c = none) ∨
    ((tables t).map fun row => if cond.selects row then set.apply row else row).Pairwise
      fun r q => ¬Agree u.2 r q
  reference : ∀ fk ∈ schema.foreignKeys, fk.child = t → set.lookup fk.column = none ∨
    ∀ row ∈ tables t, cond.selects row = true → fk.Refers tables (set.apply row)

/-- An update of columns that the schema lets have their new values leads to valid tables. -/
theorem Schema.Admits.holds {tables : Tables T V} {t : T} {set : Assignments V}
    {cond : Condition V} (h : schema.Admits tables t set cond) (hvalid : schema.Holds tables) :
    schema.Holds ((Statement.update t set cond).eval schema tables).1 := by
  let change (row : Row V) : Row V := if cond.selects row then set.apply row else row
  have hsame : ∀ c, set.lookup c = none → ∀ row, change row c = row c := by
    intro c hc row
    simp only [change]
    split
    · exact Assignments.apply_of_lookup hc row
    · rfl
  have hids : ∀ u v, HasID (((Statement.update t set cond).eval schema tables).1 u) v ↔
      HasID (tables u) v := by
    intro u v
    by_cases hu : u = t
    · subst hu
      have hid : ∀ row, change row "id" = row "id" := hsame "id" h.id
      simp only [HasID, Statement.eval, Function.update_self, List.mem_map,
        exists_exists_and_eq_and]
      exact exists_congr fun row => and_congr_right fun _ => by rw [← hid row]
    · simp [Statement.eval, hu]
  have hrefers : ∀ fk : ForeignKey T, ∀ row,
      fk.Refers ((Statement.update t set cond).eval schema tables).1 row ↔ fk.Refers tables row :=
    fun fk row => or_congr_right (hids _ _)
  refine ⟨fun u hu => ?_, fun fk hfk row hrow => (hrefers fk row).mpr ?_⟩
  · by_cases ht : u.1 = t
    · simp only [Statement.eval, ht, Function.update_self]
      rcases h.unique u hu ht with hfree | hpair
      · have hagree : ∀ r q, Agree u.2 (change r) (change q) → Agree u.2 r q := by
          intro r q hrq c hc
          simpa only [hsame c (hfree c hc)] using hrq c hc
        have hpair : (tables t).Pairwise fun r q => ¬Agree u.2 r q := ht ▸ hvalid.unique u hu
        exact List.pairwise_map.mpr (hpair.imp fun hne hrq => hne (hagree _ _ hrq))
      · exact hpair
    · simpa [Statement.eval, ht] using hvalid.unique u hu
  · by_cases ht : fk.child = t
    · simp only [Statement.eval, ht, Function.update_self, List.mem_map] at hrow
      obtain ⟨old, hold, rfl⟩ := hrow
      have hfine := hvalid.refers fk hfk old (ht ▸ hold)
      split
      · rename_i hselects
        rcases h.reference fk hfk ht with hfree | href
        · simpa [ForeignKey.Refers, Assignments.apply_of_lookup hfree] using hfine
        · exact href old hold hselects
      · exact hfine
    · exact hvalid.refers fk hfk row (by simpa [Statement.eval, ht] using hrow)

/-- The assignments are to columns that neither identify a row nor refer to one. -/
structure Schema.Free (schema : Schema T) (t : T) (set : Assignments V) : Prop where
  id : set.lookup "id" = none
  unique : ∀ u ∈ schema.uniques, u.1 = t → ∀ c ∈ u.2, set.lookup c = none
  reference : ∀ fk ∈ schema.foreignKeys, fk.child = t → set.lookup fk.column = none

omit [DecidableEq V] in
/-- A column that is none of those assigned to. -/
theorem lookup_eq_none {set : Assignments V} {c : String} (hc : c ∉ set.map Prod.fst) :
    set.lookup c = none := by
  refine List.lookup_eq_none_iff.mpr fun e he => bne_iff_ne.mpr fun heq => ?_
  exact hc (List.mem_map.mpr ⟨e, he, heq.symm⟩)

omit [DecidableEq T] [DecidableEq V] in
theorem Schema.Free.of_columns {schema : Schema T} {t : T} {set : Assignments V}
    (columns : List String) (hcolumns : set.map Prod.fst = columns) (hid : "id" ∉ columns)
    (hunique : ∀ u ∈ schema.uniques, u.1 = t → ∀ c ∈ u.2, c ∉ columns)
    (href : ∀ fk ∈ schema.foreignKeys, fk.child = t → fk.column ∉ columns) :
    schema.Free t set := by
  subst hcolumns
  exact ⟨lookup_eq_none hid, fun u hu ht c hc => lookup_eq_none (hunique u hu ht c hc),
    fun fk hfk hchild => lookup_eq_none (href fk hfk hchild)⟩

omit [DecidableEq T] in
theorem Schema.Free.admits {t : T} {set : Assignments V} (h : schema.Free t set)
    (tables : Tables T V) (cond : Condition V) : schema.Admits tables t set cond :=
  ⟨h.id, fun u hu ht => .inl (h.unique u hu ht), fun fk hfk ht => .inl (h.reference fk hfk ht)⟩

/-- **An update that the schema admits goes through.** -/
theorem Database.exec_of_admits (db : Database schema V) {t : T} {set : Assignments V}
    {cond : Condition V} (h : schema.Admits db.tables t set cond) :
    ∃ db', db.exec (.update t set cond) = some (db', (db.tables t).countP cond.selects) :=
  let ⟨db', hexec, _⟩ := exec_of_holds (h.holds db.valid)
  ⟨db', hexec⟩

theorem Database.exec_update (db : Database schema V) {t : T} {set : Assignments V}
    (hfree : schema.Free t set) (cond : Condition V) :
    ∃ db', db.exec (.update t set cond) = some (db', (db.tables t).countP cond.selects) :=
  db.exec_of_admits (hfree.admits db.tables cond)

theorem Database.update_tables {db db' : Database schema V} {t : T} {set : Assignments V}
    {cond : Condition V} {n : Nat} (h : db.exec (.update t set cond) = some (db', n)) :
    db'.tables t = (db.tables t).map fun row => if cond.selects row then set.apply row else row := by
  rw [Database.exec_eq_some] at h
  have htables : Function.update db.tables t _ = db'.tables := (Prod.ext_iff.mp h).1
  rw [← htables, Function.update_self]

theorem Database.mem_update_iff {db db' : Database schema V} {t : T} {set : Assignments V}
    {cond : Condition V} {n : Nat} {r : Row V} (h : db.exec (.update t set cond) = some (db', n)) :
    r ∈ db'.tables t ↔ ∃ q ∈ db.tables t, (if cond.selects q then set.apply q else q) = r := by
  rw [Database.update_tables h, List.mem_map]

theorem Database.update_other {db db' : Database schema V} {t u : T} {set : Assignments V}
    {cond : Condition V} {n : Nat} (h : db.exec (.update t set cond) = some (db', n))
    (hu : u ≠ t) : db'.tables u = db.tables u := by
  rw [Database.exec_eq_some] at h
  have htables : Function.update db.tables t _ = db'.tables := (Prod.ext_iff.mp h).1
  rw [← htables, Function.update_of_ne hu]

theorem Database.insert_tables {db db' : Database schema V} {t : T} {row : Row V} {n : Nat}
    (h : db.exec (.insert t row) = some (db', n)) (u : T) :
    db'.tables u = if u = t then db.tables t ++ [row] else db.tables u := by
  rw [Database.exec_eq_some] at h
  have htables : Function.update db.tables t (db.tables t ++ [row]) = db'.tables :=
    (Prod.ext_iff.mp h).1
  rw [← htables, Function.update_apply]

/-- The row repeats nothing unique, and its references are to rows that are there. -/
structure Schema.Fits (schema : Schema T) (tables : Tables T V) (t : T) (row : Row V) : Prop where
  unique : ∀ u ∈ schema.uniques, u.1 = t → ∀ q ∈ tables t, ¬Agree u.2 q row
  refers : ∀ fk ∈ schema.foreignKeys, fk.child = t → fk.Refers tables row

/-- **An insert goes through exactly if the row fits**, if the table does not refer to itself. -/
theorem Database.exec_insert_iff (db : Database schema V) {t : T} (row : Row V)
    (hparent : ∀ fk ∈ schema.foreignKeys, fk.child = t → fk.parent ≠ t) :
    (∃ db' n, db.exec (.insert t row) = some (db', n)) ↔ schema.Fits db.tables t row := by
  constructor
  · rintro ⟨db', n, h⟩
    have htables := Database.insert_tables h
    refine ⟨fun u hu ht q hq => ?_, fun fk hfk ht => ?_⟩
    · have hpairwise := db'.valid.unique u hu
      rw [ht, htables, if_pos rfl, List.pairwise_append] at hpairwise
      exact hpairwise.2.2 q hq row (List.mem_singleton_self row)
    · have hmem : row ∈ db'.tables fk.child := by simp [ht, htables]
      have hrefers := db'.valid.refers fk hfk row hmem
      rwa [ForeignKey.Refers, htables, if_neg (hparent fk hfk ht)] at hrefers
  · intro hfits
    obtain ⟨db', hexec, -⟩ :=
      exec_of_holds (db.valid.insert hfits.unique hfits.refers)
    exact ⟨db', _, hexec⟩

/-- Such an update takes nothing from the fit of a row. -/
theorem Schema.Free.fits_iff {db db' : Database schema V} {t : T} {set : Assignments V}
    {cond : Condition V} {n : Nat} (hfree : schema.Free t set)
    (h : db.exec (.update t set cond) = some (db', n)) {row : Row V}
    (hparent : ∀ fk ∈ schema.foreignKeys, fk.child = t → fk.parent ≠ t) :
    schema.Fits db'.tables t row ↔ schema.Fits db.tables t row := by
  have hunique : ∀ u ∈ schema.uniques, u.1 = t →
      ((∀ q ∈ db'.tables t, ¬Agree u.2 q row) ↔ ∀ q ∈ db.tables t, ¬Agree u.2 q row) := by
    intro u hu ht
    rw [Database.update_tables h, List.forall_mem_map]
    refine forall₂_congr fun q _ => not_congr <| forall₂_congr fun c hc => ?_
    split
    · rw [Assignments.apply_of_lookup (hfree.unique u hu ht c hc)]
    · rfl
  have hrefers : ∀ fk ∈ schema.foreignKeys, fk.child = t →
      (fk.Refers db'.tables row ↔ fk.Refers db.tables row) := by
    intro fk hfk ht
    rw [ForeignKey.Refers, ForeignKey.Refers, Database.update_other h (hparent fk hfk ht)]
  constructor
  · exact fun hfits => ⟨fun u hu ht => (hunique u hu ht).mp (hfits.unique u hu ht),
      fun fk hfk ht => (hrefers fk hfk ht).mp (hfits.refers fk hfk ht)⟩
  · exact fun hfits => ⟨fun u hu ht => (hunique u hu ht).mpr (hfits.unique u hu ht),
      fun fk hfk ht => (hrefers fk hfk ht).mpr (hfits.refers fk hfk ht)⟩

/-- An update that selects nothing changes nothing. -/
theorem Database.exec_update_none (db : Database schema V) {t : T} {cond : Condition V}
    (set : Assignments V) (h : ∀ row ∈ db.tables t, ¬cond.selects row = true) :
    ∃ n, db.exec (.update t set cond) = some (db, n) := by
  refine exec_of_tables (Function.update_eq_self_iff.mpr ?_)
  exact (List.map_congr_left fun row hrow => if_neg (h row hrow)).trans (List.map_id _)

/-- An `ON CONFLICT` on one column is an update of the row that has its value, or an insert. -/
theorem insertOrUpdate_eval (schema : Schema T) (tables : Tables T V) {t : T} {row : Row V}
    {column : String} {v : V} {set : Assignments V} (hrow : row column = some v) :
    ((Statement.insertOrUpdate t row [column] set).eval schema tables).1 =
      if (tables t).any (Agree [column] row ·) then
        ((Statement.update t set [(column, v)]).eval schema tables).1
      else ((Statement.insert t row).eval schema tables).1 := by
  have hagree : ∀ q : Row V, Agree [column] row q ↔
      Condition.selects [(column, v)] q = true := by
    intro q
    simp [Agree, hrow, eq_comm]
  simp only [Statement.eval]
  split
  · simp [hagree]
  · rfl

theorem Database.insertOrUpdate_cases {db db' : Database schema V} {t : T} {row : Row V}
    {column : String} {v : V} {set : Assignments V} {n : Nat} (hrow : row column = some v)
    (h : db.exec (.insertOrUpdate t row [column] set) = some (db', n)) :
    (∃ m, db.exec (.insert t row) = some (db', m)) ∨
      ∃ m, db.exec (.update t set [(column, v)]) = some (db', m) := by
  have htables := congrArg Prod.fst (Database.exec_eq_some.mp h)
  rw [insertOrUpdate_eval schema db.tables hrow] at htables
  split at htables
  · exact .inr (exec_of_tables htables)
  · exact .inl (exec_of_tables htables)

/-- With a row that has the value, the update decides. -/
theorem Database.insertOrUpdate_of_update {db db' : Database schema V} {t : T} {row q : Row V}
    {column : String} {v : V} {set : Assignments V} {m : Nat} (hrow : row column = some v)
    (hq : q ∈ db.tables t) (hqv : q column = some v)
    (h : db.exec (.update t set [(column, v)]) = some (db', m)) :
    ∃ n, db.exec (.insertOrUpdate t row [column] set) = some (db', n) := by
  have hany : (db.tables t).any (Agree [column] row ·) = true := by
    simpa [Agree, hrow] using ⟨q, hq, hqv.symm⟩
  have htables := congrArg Prod.fst (Database.exec_eq_some.mp h)
  refine exec_of_tables ?_
  rw [insertOrUpdate_eval schema db.tables hrow, if_pos hany]
  exact htables

/-- An update takes away what it changes in a row. -/
theorem Database.update_changes {db db' : Database schema V} {t : T} {set : Assignments V}
    {cond : Condition V} {n : Nat} {r : Row V} (hfree : schema.Free t set)
    (h : db.exec (.update t set cond) = some (db', n)) (hunique : (t, ["id"]) ∈ schema.uniques)
    (hr : r ∈ db.tables t) (hcond : cond.selects r = true) (hid : r "id" ≠ none)
    (hchange : set.apply r ≠ r) : r ∉ db'.tables t := by
  intro hstays
  obtain ⟨q, hq, hqr⟩ := (mem_update_iff h).mp hstays
  split at hqr
  · have hsame : q "id" = r "id" := by
      rw [← hqr, Assignments.apply_of_lookup hfree.id]
    have hagree : Agree ["id"] r q := by simpa [Agree, hsame] using hid
    obtain rfl := db.valid.eq_of_agree hunique hr hq hagree
    exact hchange hqr
  · subst hqr
    contradiction

/-! ### Deletes -/

/-- References are not kept in `id`, and nothing refers to a table whose rows go along with a
deleted row of `t`. -/
structure Schema.Shallow (schema : Schema T) (t : T) : Prop where
  not_id : ∀ fk ∈ schema.foreignKeys, fk.column ≠ "id"
  leaf : ∀ fk ∈ schema.foreignKeys, fk.parent = t → fk.onDelete = .cascade →
    ∀ fk' ∈ schema.foreignKeys, fk'.parent ≠ fk.child

/-- How tables may look on the way from those that a delete from `t` leaves to valid ones, once
the actions of some foreign keys are done. -/
structure Swept (schema : Schema T) (t : T) (left : Tables T V) (done : List (ForeignKey T))
    (tables : Tables T V) : Prop where
  ids : ∀ fk ∈ schema.foreignKeys, ∀ v, HasID (tables fk.parent) v ↔ HasID (left fk.parent) v
  /-- A row is one of those that were left, up to references that became `NULL`. -/
  derived : ∀ u, ∀ row ∈ tables u, ∃ old ∈ left u, ∀ c, row c = old c ∨ row c = none ∧
    ∃ fk ∈ schema.foreignKeys, fk.child = u ∧ fk.parent = t ∧ fk.column = c ∧
      fk.onDelete = .setNull
  kept : ∀ u, ∀ row ∈ left u,
    (∀ fk ∈ schema.foreignKeys, fk.child = u → fk.Refers left row) → row ∈ tables u
  clean : ∀ fk ∈ done, ∀ row ∈ tables fk.child, fk.Refers left row
  unique : ∀ u ∈ schema.uniques, (tables u.1).Pairwise fun r q => ¬Agree u.2 r q

/-- Where all references are fine there is nothing to do. -/
theorem ForeignKey.enforce_of_refers {fk : ForeignKey T} {tables : Tables T V}
    (h : ∀ row ∈ tables fk.child, fk.Refers tables row) : fk.enforce tables = tables := by
  unfold ForeignKey.enforce
  refine Function.update_eq_self_iff.mpr ?_
  cases fk.onDelete with
  | cascade => simpa using h
  | setNull => exact (List.map_congr_left fun row hrow => if_pos (h row hrow)).trans (List.map_id _)

/-- A row after a referential action is a row from before it, up to the reference. -/
theorem ForeignKey.mem_enforce {fk : ForeignKey T} {tables : Tables T V} {u : T} {row : Row V}
    (h : row ∈ fk.enforce tables u) :
    ∃ old ∈ tables u, (u = fk.child → fk.Refers tables row) ∧ ∀ c, row c = old c ∨
      row c = none ∧ fk.child = u ∧ fk.column = c ∧ fk.onDelete = .setNull := by
  by_cases hu : u = fk.child
  · subst hu
    simp only [ForeignKey.enforce, Function.update_self] at h
    cases haction : fk.onDelete with
    | cascade =>
      rw [haction] at h
      obtain ⟨hmem, hrefers⟩ := List.mem_filter.mp h
      exact ⟨row, hmem, fun _ => of_decide_eq_true hrefers, fun _ => .inl rfl⟩
    | setNull =>
      rw [haction] at h
      obtain ⟨old, hold, rfl⟩ := List.mem_map.mp h
      refine ⟨old, hold, fun _ => ?_, fun c => ?_⟩
      · split
        · assumption
        · exact .inl (by simp)
      · split
        · exact .inl rfl
        · by_cases hc : c = fk.column
          · exact .inr ⟨by simp [hc], rfl, hc.symm, rfl⟩
          · exact .inl (by simp [hc])
  · rw [ForeignKey.enforce, Function.update_of_ne hu] at h
    exact ⟨row, h, fun heq => absurd heq hu, fun _ => .inl rfl⟩

/-- An action keeps the rows whose references are fine. -/
theorem ForeignKey.enforce_keeps {fk : ForeignKey T} {tables : Tables T V} {u : T} {row : Row V}
    (h : row ∈ tables u) (hrefers : fk.child = u → fk.Refers tables row) :
    row ∈ fk.enforce tables u := by
  by_cases hu : u = fk.child
  · subst hu
    simp only [ForeignKey.enforce, Function.update_self]
    cases fk.onDelete with
    | cascade => exact List.mem_filter.mpr ⟨h, decide_eq_true (hrefers rfl)⟩
    | setNull => exact List.mem_map.mpr ⟨row, h, if_pos (hrefers rfl)⟩
  · rwa [ForeignKey.enforce, Function.update_of_ne hu]

/-- An action that removes no rows keeps every `id`. -/
theorem ForeignKey.enforce_hasID {fk : ForeignKey T} {tables : Tables T V} {u : T}
    (hcolumn : fk.column ≠ "id") (hstays : fk.child = u → fk.onDelete = .setNull) (v : Option V) :
    HasID (fk.enforce tables u) v ↔ HasID (tables u) v := by
  by_cases hu : u = fk.child
  · subst hu
    have hid : ∀ row : Row V,
        (if fk.Refers tables row then row else Function.update row fk.column none) "id" =
          row "id" := by
      intro row
      split
      · rfl
      · exact Function.update_of_ne hcolumn.symm _ _
    simp only [HasID, ForeignKey.enforce, Function.update_self, hstays rfl, List.mem_map,
      exists_exists_and_eq_and]
    exact exists_congr fun row => and_congr_right fun _ => by rw [hid row]
  · rw [ForeignKey.enforce, Function.update_of_ne hu]

omit [DecidableEq V] in
/-- Rows that agree still do if they had the references that became `NULL`. -/
theorem Agree.of_nulled {columns : List String} {r q old old' : Row V}
    (hr : ∀ c, r c = old c ∨ r c = none) (hq : ∀ c, q c = old' c ∨ q c = none)
    (h : Agree columns r q) : Agree columns old old' := by
  intro c hc
  obtain ⟨hne, heq⟩ := h c hc
  have hr' := (hr c).resolve_right hne
  have hq' := (hq c).resolve_right (heq ▸ hne)
  exact ⟨hr' ▸ hne, by rw [← hr', ← hq', heq]⟩

theorem ForeignKey.enforce_pairwise {fk : ForeignKey T} {tables : Tables T V} {u : T}
    {columns : List String} (h : (tables u).Pairwise fun r q => ¬Agree columns r q) :
    (fk.enforce tables u).Pairwise fun r q => ¬Agree columns r q := by
  by_cases hu : u = fk.child
  · subst hu
    simp only [ForeignKey.enforce, Function.update_self]
    cases fk.onDelete with
    | cascade => exact h.filter _
    | setNull =>
      have hnulled : ∀ (row : Row V) (c : String),
          (if fk.Refers tables row then row else Function.update row fk.column none) c = row c ∨
            (if fk.Refers tables row then row else Function.update row fk.column none) c =
              none := by
        intro row c
        split
        · exact .inl rfl
        · by_cases hc : c = fk.column
          · exact .inr (by simp [hc])
          · exact .inl (by simp [hc])
      exact List.pairwise_map.mpr
        (h.imp fun hne hagree => hne (hagree.of_nulled (hnulled _) (hnulled _)))
  · rwa [ForeignKey.enforce, Function.update_of_ne hu]

section

variable {t : T} {left tables : Tables T V} {done : List (ForeignKey T)}

omit [DecidableEq T] [DecidableEq V] in
/-- Which references are fine is known from the tables that were left. -/
theorem Swept.refers_iff (h : Swept schema t left done tables) {fk : ForeignKey T}
    (hfk : fk ∈ schema.foreignKeys) (row : Row V) :
    fk.Refers tables row ↔ fk.Refers left row :=
  or_congr_right (h.ids fk hfk _)

omit [DecidableEq T] [DecidableEq V] in
/-- A reference of a row that became `NULL` or stayed is as fine as it was. -/
theorem ForeignKey.Refers.of_nulled {fk : ForeignKey T} {row old : Row V}
    (h : fk.Refers left old) (hrow : row fk.column = old fk.column ∨ row fk.column = none) :
    fk.Refers left row := by
  rcases hrow with hsame | hnull
  · simpa [ForeignKey.Refers, hsame] using h
  · exact .inl hnull

/-- What one referential action does. -/
theorem Swept.enforce (h : Swept schema t left done tables) (hshallow : schema.Shallow t)
    (hleft : ∀ fk ∈ schema.foreignKeys, fk.parent ≠ t → ∀ row ∈ left fk.child, fk.Refers left row)
    {fk : ForeignKey T} (hfk : fk ∈ schema.foreignKeys) :
    Swept schema t left (fk :: done) (fk.enforce tables) := by
  by_cases hparent : fk.parent = t
  · refine ⟨?_, ?_, ?_, ?_, ?_⟩
    · intro fk' hfk' v
      have hstays : fk.child = fk'.parent → fk.onDelete = .setNull := by
        intro hchild
        cases haction : fk.onDelete with
        | setNull => rfl
        | cascade => exact absurd hchild.symm (hshallow.leaf fk hfk hparent haction fk' hfk')
      rw [ForeignKey.enforce_hasID (hshallow.not_id fk hfk) hstays, h.ids fk' hfk']
    · intro u row hrow
      obtain ⟨mid, hmid, -, hcols⟩ := ForeignKey.mem_enforce hrow
      obtain ⟨old, hold, hcols'⟩ := h.derived u mid hmid
      refine ⟨old, hold, fun c => ?_⟩
      rcases hcols c with hsame | ⟨hnull, hchild, hcolumn, haction⟩
      · rw [hsame]
        exact hcols' c
      · exact .inr ⟨hnull, fk, hfk, hchild, hparent, hcolumn, haction⟩
    · intro u row hrow hrefers
      refine ForeignKey.enforce_keeps (h.kept u row hrow hrefers) fun hchild => ?_
      exact (h.refers_iff hfk row).mpr (hrefers fk hfk hchild)
    · intro fk' hfk' row hrow
      obtain ⟨mid, hmid, hrefers, hcols⟩ := ForeignKey.mem_enforce hrow
      rcases List.mem_cons.mp hfk' with rfl | hdone
      · exact (h.refers_iff hfk row).mp (hrefers rfl)
      · refine (h.clean fk' hdone mid hmid).of_nulled ?_
        exact (hcols fk'.column).imp id fun hnull => hnull.1
    · exact fun u hu => ForeignKey.enforce_pairwise (h.unique u hu)
  · have hrefers : ∀ row ∈ tables fk.child, fk.Refers left row := by
      intro row hrow
      obtain ⟨old, hold, hcols⟩ := h.derived fk.child row hrow
      refine (hleft fk hfk hparent old hold).of_nulled ?_
      exact (hcols fk.column).imp id fun hnull => hnull.1
    have hsame : fk.enforce tables = tables :=
      ForeignKey.enforce_of_refers fun row hrow => (h.refers_iff hfk row).mpr (hrefers row hrow)
    rw [hsame]
    refine { h with clean := fun fk' hfk' => ?_ }
    rcases List.mem_cons.mp hfk' with rfl | hdone
    · exact hrefers
    · exact h.clean fk' hdone

theorem Swept.foldl (hshallow : schema.Shallow t)
    (hleft : ∀ fk ∈ schema.foreignKeys, fk.parent ≠ t → ∀ row ∈ left fk.child, fk.Refers left row)
    (fks : List (ForeignKey T)) :
    ∀ (done : List (ForeignKey T)) (tables : Tables T V), (∀ fk ∈ fks, fk ∈ schema.foreignKeys) →
      Swept schema t left done tables →
        Swept schema t left (fks.reverse ++ done)
          (fks.foldl (fun tables fk => fk.enforce tables) tables) := by
  induction fks with
  | nil => exact fun _ _ _ h => h
  | cons fk rest ih =>
      intro done tables hsub h
      have hstep := h.enforce hshallow hleft (hsub fk (by simp))
      have hrest := ih (fk :: done) _ (fun fk' hfk' => hsub fk' (by simp [hfk'])) hstep
      simpa using hrest

end

/-- **A delete goes through**, and leaves the rows it does not select, up to those that referred
to a row it does select. -/
theorem Database.exec_delete (db : Database schema V) {t : T} (hshallow : schema.Shallow t)
    (cond : Condition V) :
    ∃ db', db.exec (.delete t cond) = some (db', (db.tables t).countP cond.selects) ∧
      Swept schema t (db.tables.without t cond) schema.foreignKeys db'.tables := by
  have hleft : ∀ fk ∈ schema.foreignKeys, fk.parent ≠ t →
      ∀ row ∈ db.tables.without t cond fk.child, fk.Refers (db.tables.without t cond) row := by
    intro fk hfk hparent row hrow
    have hmem : row ∈ db.tables fk.child := by
      by_cases hchild : fk.child = t
      · simp only [Tables.without, hchild, Function.update_self] at hrow
        rw [hchild]
        exact List.mem_of_mem_filter hrow
      · simpa [Tables.without, hchild] using hrow
    simpa [ForeignKey.Refers, Tables.without, hparent] using db.valid.refers fk hfk row hmem
  have hstart : Swept schema t (db.tables.without t cond) [] (db.tables.without t cond) := by
    refine ⟨fun _ _ _ => Iff.rfl, fun u row hrow => ⟨row, hrow, fun _ => .inl rfl⟩,
      fun _ _ hrow _ => hrow, by simp, fun u hu => ?_⟩
    by_cases ht : u.1 = t
    · simp only [Tables.without, ht, Function.update_self]
      exact (ht ▸ db.valid.unique u hu : (db.tables t).Pairwise _).filter _
    · simpa [Tables.without, ht] using db.valid.unique u hu
  have hswept := Swept.foldl hshallow hleft schema.foreignKeys [] _ (fun _ h => h) hstart
  have hclean : ∀ fk ∈ schema.foreignKeys, fk ∈ schema.foreignKeys.reverse ++ [] := by simp
  have hvalid : schema.Holds ((Statement.delete t cond).eval schema db.tables).1 :=
    ⟨hswept.unique, fun fk hfk row hrow =>
      (hswept.refers_iff hfk row).mpr (hswept.clean fk (hclean fk hfk) row hrow)⟩
  obtain ⟨db', hexec, htables⟩ := Database.exec_of_holds hvalid
  refine ⟨db', hexec, ?_⟩
  rw [htables]
  exact { hswept with clean := fun fk hfk => hswept.clean fk (hclean fk hfk) }

/-- A delete that selects nothing changes nothing. -/
theorem Database.exec_delete_none (db : Database schema V) {t : T} {cond : Condition V}
    (h : ∀ row ∈ db.tables t, ¬cond.selects row = true) :
    ∃ n, db.exec (.delete t cond) = some (db, n) := by
  have hleft : db.tables.without t cond = db.tables := by
    refine Function.update_eq_self_iff.mpr (List.filter_eq_self.mpr fun row hrow => ?_)
    simpa using h row hrow
  have hsweep : ∀ fks : List (ForeignKey T), (∀ fk ∈ fks, fk ∈ schema.foreignKeys) →
      fks.foldl (fun tables fk => fk.enforce tables) db.tables = db.tables := by
    intro fks
    induction fks with
    | nil => exact fun _ => rfl
    | cons fk rest ih =>
        intro hfks
        have hfine : fk.enforce db.tables = db.tables :=
          ForeignKey.enforce_of_refers (db.valid.refers fk (hfks fk (by simp)))
        rw [List.foldl_cons, hfine]
        exact ih fun fk' hfk' => hfks fk' (List.mem_cons_of_mem _ hfk')
  refine exec_of_tables ?_
  show schema.foreignKeys.foldl (fun tables fk => fk.enforce tables) (db.tables.without t cond) = _
  rw [hleft]
  exact hsweep schema.foreignKeys fun _ hfk => hfk

/-! ### The rows around a delete -/

section

variable {db db' : Database schema V} {t u : T} {cond : Condition V} {n : Nat} {r p : Row V}

theorem Database.swept_of_exec (hshallow : schema.Shallow t)
    (h : db.exec (.delete t cond) = some (db', n)) :
    Swept schema t (db.tables.without t cond) schema.foreignKeys db'.tables := by
  obtain ⟨swept, hexec, hswept⟩ := db.exec_delete hshallow cond
  obtain rfl : swept = db' := by
    rw [hexec] at h
    exact (Prod.ext_iff.mp (Option.some.inj h)).1
  exact hswept

theorem mem_without {tables : Tables T V} :
    r ∈ tables.without t cond u ↔ r ∈ tables u ∧ (u = t → cond.selects r = false) := by
  by_cases hu : u = t
  · subst hu
    simp [Tables.without]
  · simp [Tables.without, hu]

/-- A delete keeps a row that it does not select and that refers to no row it selects. -/
theorem Database.delete_keeps (hshallow : schema.Shallow t)
    (h : db.exec (.delete t cond) = some (db', n)) (hr : r ∈ db.tables u)
    (hcond : u = t → cond.selects r = false)
    (hrefers : ∀ fk ∈ schema.foreignKeys, fk.child = u → fk.parent = t → ∀ p ∈ db.tables t,
      cond.selects p = true → r fk.column ≠ none → p "id" ≠ r fk.column) :
    r ∈ db'.tables u := by
  refine (swept_of_exec hshallow h).kept u r (mem_without.mpr ⟨hr, hcond⟩) fun fk hfk hchild => ?_
  by_cases hnull : r fk.column = none
  · exact .inl hnull
  obtain ⟨p, hp, hid⟩ := (db.valid.refers fk hfk r (hchild ▸ hr)).resolve_left hnull
  refine .inr ⟨p, mem_without.mpr ⟨hp, fun hparent => ?_⟩, hid⟩
  by_contra hsel
  exact hrefers fk hfk hchild hparent p (hparent ▸ hp) (by simpa using hsel) hnull hid

/-- A row that a delete selects is gone. -/
theorem Database.delete_takes (hshallow : schema.Shallow t)
    (h : db.exec (.delete t cond) = some (db', n)) (hunique : (t, ["id"]) ∈ schema.uniques)
    (hr : r ∈ db.tables t) (hcond : cond.selects r = true) (hid : r "id" ≠ none) :
    r ∉ db'.tables t := by
  intro hstays
  obtain ⟨old, hold, hsame⟩ := (swept_of_exec hshallow h).derived t r hstays
  obtain ⟨hmem, hleft⟩ := mem_without.mp hold
  have hold_id : r "id" = old "id" := (hsame "id").resolve_right fun hnull => hid hnull.1
  have hagree : Agree ["id"] r old := by simpa [Agree, ← hold_id] using hid
  obtain rfl := db.valid.eq_of_agree hunique hr hmem hagree
  simp [hcond] at hleft

/-- A row that refers to one that a delete selects is gone, or changed. -/
theorem Database.delete_reaches (hshallow : schema.Shallow t)
    (h : db.exec (.delete t cond) = some (db', n)) (hunique : (t, ["id"]) ∈ schema.uniques)
    {fk : ForeignKey T} (hfk : fk ∈ schema.foreignKeys) (hparent : fk.parent = t)
    (hp : p ∈ db.tables t) (hcond : cond.selects p = true) (hid : p "id" ≠ none)
    (hrefers : r fk.column = p "id") : r ∉ db'.tables fk.child := by
  intro hstays
  rcases (swept_of_exec hshallow h).clean fk hfk r hstays with hnull | ⟨q, hq, hqid⟩
  · exact hid (hrefers ▸ hnull)
  · rw [hparent] at hq
    obtain ⟨hmem, hleft⟩ := mem_without.mp hq
    have hagree : Agree ["id"] p q := by simpa [Agree, hqid, hrefers] using hid
    obtain rfl := db.valid.eq_of_agree hunique hp hmem hagree
    simp [hcond] at hleft

end

end

end SQL
