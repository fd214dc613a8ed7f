/-
Comma-separated values, as RFC 4180 has them.

A record ends with LF or CRLF.  A field stands between quotes, where a quote is doubled, or it
stands bare and has no comma, quote, CR or LF.  A file of cells, each written bare or between
quotes, is read as the texts of the cells exactly if every bare one may stand so
(`read_writeFile_iff`).

The only way to mistake a bare text for itself would be between quotes of its own.  It cannot
be: of the quotes a field begins with, reading leaves at most half (`lead_of_read_quoted`).
-/
import Mathlib.Data.List.TakeWhile

namespace CSV

/-- The characters that structure a file. -/
structure Dialect (α : Type) where
  comma : α
  quote : α
  lf : α
  cr : α
  nodup : [comma, quote, lf, cr].Nodup

/-- What a reader has just met. -/
inductive Place where
  /-- The beginning of a record. -/
  | start
  /-- The comma before a field. -/
  | field
  | bare
  | quoted
  /-- A quote inside a quoted field. -/
  | closed
  /-- A CR outside of quotes. -/
  | ended

/-- Records of fields. -/
abbrev Records (α : Type) : Type := List (List (List α))

section

variable {α : Type}

/-- The records with a character before their first field. -/
def addChar (c : α) : Records α → Records α
  | (f :: fs) :: rs => ((c :: f) :: fs) :: rs
  | rs => rs

/-- The records with an empty field before their first one. -/
def addField : Records α → Records α
  | r :: rs => ([] :: r) :: rs
  | [] => []

/-- The records behind one with an empty field. -/
def addRecord (rs : Records α) : Records α := [[]] :: rs

/-- The records with a text before their first field. -/
def addText (text : List α) (rs : Records α) : Records α := text.foldr addChar rs

theorem map_addChar_eq_some {c : α} {o : Option (Records α)} {f : List α} {fs : List (List α)}
    {rs : Records α} : o.map (addChar c) = some ((f :: fs) :: rs) ↔
      ∃ f', f = c :: f' ∧ o = some ((f' :: fs) :: rs) := by
  rcases o with _ | (_ | ⟨_ | ⟨g, gs⟩, rest⟩) <;> simp only [Option.map_none, Option.map_some, addChar]
  all_goals grind

theorem map_addField_eq_some {o : Option (Records α)} {f : List α} {fs : List (List α)}
    {rs : Records α} : o.map addField = some ((f :: fs) :: rs) ↔ f = [] ∧ o = some (fs :: rs) := by
  rcases o with _ | (_ | ⟨r, rest⟩) <;> simp [addField, and_assoc]

theorem map_addRecord_eq_some {o : Option (Records α)} {f : List α} {fs : List (List α)}
    {rs : Records α} : o.map addRecord = some ((f :: fs) :: rs) ↔
      f = [] ∧ fs = [] ∧ o = some rs := by
  cases o <;> simp [addRecord, and_assoc]

theorem map_addText_eq_some {text : List α} {o : Option (Records α)} {f : List α}
    {fs : List (List α)} {rs : Records α} : o.map (addText text) = some ((f :: fs) :: rs) ↔
      ∃ f', f = text ++ f' ∧ o = some ((f' :: fs) :: rs) := by
  induction text generalizing f with
  | nil =>
    cases o <;> simp [addText]
  | cons c text ih =>
    have hfold : o.map (addText (c :: text)) = (o.map (addText text)).map (addChar c) := by
      rw [Option.map_map]
      rfl
    rw [hfold, map_addChar_eq_some]
    simp only [ih]
    constructor
    · rintro ⟨f', rfl, f'', rfl, ho⟩
      exact ⟨f'', rfl, ho⟩
    · rintro ⟨f'', rfl, ho⟩
      exact ⟨text ++ f'', rfl, f'', rfl, ho⟩

end

namespace Dialect

variable {α : Type} [DecidableEq α] (d : Dialect α)

/-! ### Reading -/

/-- The character may stand outside of quotes. -/
def Ordinary (c : α) : Prop := c ≠ d.comma ∧ c ≠ d.quote ∧ c ≠ d.lf ∧ c ≠ d.cr

instance (c : α) : Decidable (d.Ordinary c) := inferInstanceAs (Decidable (_ ∧ _))

/-- What a character does behind a complete field. -/
def after (c : α) : Option (Place × (Records α → Records α)) :=
  if c = d.comma then some (.field, addField)
  else if c = d.lf then some (.start, addRecord)
  else if c = d.cr then some (.ended, id)
  else none

/-- Where a character leads to, and what it adds to the records of the text behind it. -/
def next : Place → α → Option (Place × (Records α → Records α))
  | .start, c | .field, c =>
    if c = d.quote then some (.quoted, id)
    else if d.Ordinary c then some (.bare, addChar c)
    else d.after c
  | .bare, c => if d.Ordinary c then some (.bare, addChar c) else d.after c
  | .quoted, c => if c = d.quote then some (.closed, id) else some (.quoted, addChar c)
  | .closed, c => if c = d.quote then some (.quoted, addChar c) else d.after c
  | .ended, c => if c = d.lf then some (.start, addRecord) else none

/-- The records of a text; nothing if a quote stands where it must not, or is not closed, or if
a CR stands before something else than LF. -/
def read : Place → List α → Option (Records α)
  | .start, [] => some []
  | .field, [] | .bare, [] | .closed, [] => some [[[]]]
  | .quoted, [] | .ended, [] => none
  | place, c :: cs => (d.next place c).bind fun next => (read next.1 cs).map next.2

/-- The records of a file. -/
def parse (text : List α) : Option (Records α) := d.read .start text

/-- A character that stands behind a field. -/
def Separates (c : α) : Prop := c = d.comma ∨ c = d.lf

/-! ### Writing -/

/-- A text with its quotes doubled. -/
def double (text : List α) : List α :=
  text.flatMap fun c => if c = d.quote then [d.quote, d.quote] else [c]

end Dialect

/-- A text, and whether it is put between quotes. -/
structure Cell (α : Type) where
  text : List α
  quoted : Bool

namespace Dialect

variable {α : Type} [DecidableEq α] (d : Dialect α)

def writeCell (cell : Cell α) : List α :=
  if cell.quoted then d.quote :: d.double cell.text ++ [d.quote] else cell.text

def writeRecord (cells : List (Cell α)) : List α :=
  [d.comma].intercalate (cells.map d.writeCell) ++ [d.lf]

def writeFile (file : List (List (Cell α))) : List α := file.flatMap d.writeRecord

/-- The cell may be written as it is. -/
def Readable (cell : Cell α) : Prop := cell.quoted = true ∨ ∀ c ∈ cell.text, d.Ordinary c

variable {d}

/-! ### What follows a field -/

theorem read_cons (place : Place) (c : α) (cs : List α) :
    d.read place (c :: cs) =
      (d.next place c).bind fun next => (d.read next.1 cs).map next.2 := by
  cases place <;> rfl

theorem read_of_next {place : Place} {c : α} {next : Place × (Records α → Records α)}
    (h : d.next place c = some next) (cs : List α) :
    d.read place (c :: cs) = (d.read next.1 cs).map next.2 := by
  rw [read_cons, h, Option.bind_some]

omit [DecidableEq α] in
theorem Separates.not_quote {c : α} (h : d.Separates c) : c ≠ d.quote := by
  have hnodup := d.nodup
  rcases h with rfl | rfl <;> intro heq <;> simp [heq] at hnodup

omit [DecidableEq α] in
theorem Separates.not_ordinary {c : α} (h : d.Separates c) : ¬d.Ordinary c := by
  rintro ⟨hcomma, -, hlf, -⟩
  exact h.elim hcomma hlf

theorem next_of_not_ordinary {c : α} (h : ¬d.Ordinary c) (hquote : c ≠ d.quote) {place : Place}
    (hplace : place ∈ [.start, .field, .bare, .closed]) : d.next place c = d.after c := by
  cases place <;> simp [next, h, hquote] at hplace ⊢

theorem after_quote : d.after d.quote = none := by
  have hnodup := d.nodup
  rw [after, if_neg, if_neg, if_neg] <;> intro heq <;> simp [heq] at hnodup

/-- A separator is the same behind every field that is complete. -/
theorem read_separator {c : α} (h : d.Separates c) (cs : List α) {place : Place}
    (hplace : place ∈ [.start, .field, .bare, .closed]) :
    d.read place (c :: cs) = d.read .bare (c :: cs) := by
  rw [read_cons, read_cons, next_of_not_ordinary h.not_ordinary h.not_quote hplace,
    next_of_not_ordinary h.not_ordinary h.not_quote (by simp)]

theorem read_comma (cs : List α) :
    d.read .bare (d.comma :: cs) = (d.read .field cs).map addField := by
  simp [read_cons, next, Ordinary, after]

theorem read_lf (cs : List α) :
    d.read .bare (d.lf :: cs) = (d.read .start cs).map addRecord := by
  have hnodup := d.nodup
  have hcomma : d.lf ≠ d.comma := by
    intro heq
    simp [heq] at hnodup
  simp [read_cons, next, Ordinary, after, hcomma]

section

variable {c : α} {cs f : List α} {fs : List (List α)} {rs : Records α}

/-- What stands behind a complete field adds nothing to it. -/
theorem empty_of_after
    (h : ((d.after c).bind fun next => (d.read next.1 cs).map next.2) =
      some ((f :: fs) :: rs)) : f = [] := by
  unfold after at h
  split at h
  · exact (map_addField_eq_some.mp h).1
  · split at h
    · exact (map_addRecord_eq_some.mp h).1
    · split at h
      · match cs with
        | [] => cases h
        | b :: cs =>
          have hended : d.read .ended (b :: cs) = some ((f :: fs) :: rs) := by simpa using h
          rw [read_cons, next] at hended
          split at hended
          · exact (map_addRecord_eq_some.mp hended).1
          · cases hended
      · cases h

end

/-! ### Fields that are read as they were written -/

theorem read_ordinary {c : α} (h : d.Ordinary c) (cs : List α) {place : Place}
    (hplace : place ∈ [.start, .field, .bare]) :
    d.read place (c :: cs) = (d.read .bare cs).map (addChar c) := by
  have hquote : c ≠ d.quote := h.2.1
  have hnext : d.next place c = some (.bare, addChar c) := by
    cases place <;> simp [next, h, hquote] at hplace ⊢
  rw [read_of_next hnext]

theorem read_bare {text : List α} (h : ∀ c ∈ text, d.Ordinary c) {c : α} (hc : d.Separates c)
    (cs : List α) : ∀ {place : Place}, place ∈ [.start, .field, .bare] →
      d.read place (text ++ c :: cs) = (d.read .bare (c :: cs)).map (addText text) := by
  induction text with
  | nil =>
    intro place hplace
    rw [List.nil_append, read_separator hc cs (List.mem_append_left [Place.closed] hplace)]
    exact Option.map_id'.symm
  | cons b text ih =>
    intro place hplace
    rw [List.cons_append, read_ordinary (h b List.mem_cons_self) _ hplace,
      ih (fun a ha => h a (List.mem_cons_of_mem b ha)) (by simp), Option.map_map]
    rfl

theorem read_quote (cs : List α) {place : Place} (hplace : place ∈ [.start, .field]) :
    d.read place (d.quote :: cs) = d.read .quoted cs := by
  have hnext : d.next place d.quote = some (.quoted, id) := by
    cases place <;> simp [next] at hplace ⊢
  rw [read_of_next hnext, Option.map_id_fun, id]

theorem read_quoted_quote (cs : List α) :
    d.read .quoted (d.quote :: cs) = d.read .closed cs := by
  have hnext : d.next .quoted d.quote = some (.closed, id) := if_pos rfl
  rw [read_of_next hnext, Option.map_id_fun, id]

theorem read_quoted_of_ne {c : α} (h : c ≠ d.quote) (cs : List α) :
    d.read .quoted (c :: cs) = (d.read .quoted cs).map (addChar c) := by
  have hnext : d.next .quoted c = some (.quoted, addChar c) := if_neg h
  rw [read_of_next hnext]

theorem read_closed_quote (cs : List α) :
    d.read .closed (d.quote :: cs) = (d.read .quoted cs).map (addChar d.quote) := by
  have hnext : d.next .closed d.quote = some (.quoted, addChar d.quote) := if_pos rfl
  rw [read_of_next hnext]

/-- Between quotes, any text is read as it was. -/
theorem read_double (text : List α) {c : α} (hc : d.Separates c) (cs : List α) :
    d.read .quoted (d.double text ++ d.quote :: c :: cs) =
      (d.read .bare (c :: cs)).map (addText text) := by
  induction text with
  | nil =>
    rw [double, List.flatMap_nil, List.nil_append, read_quoted_quote,
      read_separator hc cs (by simp)]
    exact Option.map_id'.symm
  | cons b text ih =>
    have hfold : (d.read .bare (c :: cs)).map (addText (b :: text)) =
        ((d.read .bare (c :: cs)).map (addText text)).map (addChar b) := by
      rw [Option.map_map]
      rfl
    rw [hfold, ← ih]
    by_cases hb : b = d.quote
    · subst hb
      simp [double, read_quoted_quote, read_closed_quote]
    · simp [double, read_quoted_of_ne hb, hb]

/-! ### Bare texts that are no fields -/

/-- How many quotes the text begins with. -/
def lead (d : Dialect α) (text : List α) : Nat := (text.takeWhile (· = d.quote)).length

theorem lead_quote (text : List α) : d.lead (d.quote :: text) = d.lead text + 1 := by
  simp [lead]

theorem lead_of_ne {c : α} (h : c ≠ d.quote) (text : List α) : d.lead (c :: text) = 0 := by
  simp [lead, h]

theorem lead_append_separator {c : α} (h : d.Separates c) (cs : List α) (text : List α) :
    d.lead (text ++ c :: cs) = d.lead text := by
  induction text with
  | nil => exact lead_of_ne h.not_quote cs
  | cons b text ih =>
    by_cases hb : b = d.quote
    · subst hb
      rw [List.cons_append, lead_quote, lead_quote, ih]
    · rw [List.cons_append, lead_of_ne hb, lead_of_ne hb]

section

variable {f : List α} {fs : List (List α)} {rs : Records α}

/-- Of the quotes behind the opening one, at most half are left. -/
theorem lead_of_read_quoted {f : List α} :
    ∀ text : List α, d.read .quoted text = some ((f :: fs) :: rs) → 2 * d.lead f ≤ d.lead text
  | [], hread => by cases hread
  | [c], hread => by
    by_cases hc : c = d.quote
    · subst hc
      rw [read_quoted_quote] at hread
      obtain ⟨⟨rfl, -⟩, -⟩ : ([] = f ∧ [] = fs) ∧ [] = rs := by simpa [read] using hread
      simp [lead]
    · rw [read_quoted_of_ne hc] at hread
      cases hread
  | c :: b :: text, hread => by
    by_cases hc : c = d.quote
    · subst hc
      rw [read_quoted_quote] at hread
      by_cases hb : b = d.quote
      · subst hb
        rw [read_closed_quote] at hread
        obtain ⟨f', rfl, hrest⟩ := map_addChar_eq_some.mp hread
        have ih := lead_of_read_quoted text hrest
        simp only [lead_quote]
        omega
      · -- The field is over before it has begun.
        rw [read_cons, next, if_neg hb] at hread
        simp [empty_of_after hread, lead]
    · rw [read_quoted_of_ne hc] at hread
      obtain ⟨f', rfl, -⟩ := map_addChar_eq_some.mp hread
      simp [lead_of_ne hc]

/-- A bare text that is read as itself is ordinary. -/
theorem ordinary_of_read {c : α} (hc : d.Separates c) (cs : List α) : ∀ {text : List α}
    {place : Place}, place ∈ [.start, .field, .bare] →
      d.read place (text ++ c :: cs) = some ((text :: fs) :: rs) → ∀ b ∈ text, d.Ordinary b
  | [], _, _, _ => by simp
  | b :: text, place, hplace, hread => by
    rw [List.cons_append] at hread
    by_cases hb : d.Ordinary b
    · rw [read_ordinary hb _ hplace] at hread
      obtain ⟨f', hsame, hrest⟩ := map_addChar_eq_some.mp hread
      obtain rfl : text = f' := (List.cons.inj hsame).2
      exact List.forall_mem_cons.mpr ⟨hb, ordinary_of_read hc cs (by simp) hrest⟩
    · by_cases hquote : b = d.quote
      · subst hquote
        by_cases hbare : place = .bare
        · subst hbare
          rw [read_cons, next, if_neg hb, after_quote] at hread
          cases hread
        · rw [read_quote _ (by simpa [hbare] using hplace)] at hread
          have hlead := lead_of_read_quoted _ hread
          rw [lead_quote, lead_append_separator hc] at hlead
          omega
      · rw [read_cons, next_of_not_ordinary hb hquote (List.mem_append_left [Place.closed] hplace)]
          at hread
        exact absurd (empty_of_after hread) (by simp)

end

/-! ### Files -/

/-- **A cell is read as its text exactly if it may be written as it is.** -/
theorem read_writeCell_iff {cell : Cell α} {c : α} (hc : d.Separates c) (cs : List α)
    {place : Place} (hplace : place ∈ [.start, .field]) {fs : List (List α)} {rs : Records α} :
    d.read place (d.writeCell cell ++ c :: cs) = some ((cell.text :: fs) :: rs) ↔
      d.Readable cell ∧ d.read .bare (c :: cs) = some (([] :: fs) :: rs) := by
  have hopen : place ∈ [Place.start, .field, .bare] := List.mem_append_left [Place.bare] hplace
  have hback : (d.read .bare (c :: cs)).map (addText cell.text) = some ((cell.text :: fs) :: rs) ↔
      d.read .bare (c :: cs) = some (([] :: fs) :: rs) := by
    rw [map_addText_eq_some]
    simp
  cases hquoted : cell.quoted with
  | true =>
    have hwrite : d.writeCell cell ++ c :: cs =
        d.quote :: (d.double cell.text ++ d.quote :: c :: cs) := by simp [writeCell, hquoted]
    rw [hwrite, read_quote _ hplace, read_double _ hc, hback]
    exact (and_iff_right (.inl hquoted)).symm
  | false =>
    have hwrite : d.writeCell cell = cell.text := by simp [writeCell, hquoted]
    have hreadable : d.Readable cell ↔ ∀ c ∈ cell.text, d.Ordinary c := by
      simp [Readable, hquoted]
    rw [hwrite, hreadable]
    constructor
    · intro hread
      have hordinary := ordinary_of_read hc cs hopen hread
      rw [read_bare hordinary hc cs hopen, hback] at hread
      exact ⟨hordinary, hread⟩
    · rintro ⟨hordinary, hrest⟩
      rw [read_bare hordinary hc cs hopen, hback]
      exact hrest

theorem read_writeRecord_iff {cs : List α} {rs : Records α} : ∀ {cells : List (Cell α)}, cells ≠ [] →
    ∀ {place : Place}, place ∈ [.start, .field] →
      (d.read place (d.writeRecord cells ++ cs) = some (cells.map (·.text) :: rs) ↔
        (∀ cell ∈ cells, d.Readable cell) ∧ d.read .start cs = some rs)
  | [], hcells, _, _ => absurd rfl hcells
  | [cell], _, place, hplace => by
    have hwrite : d.writeRecord [cell] ++ cs = d.writeCell cell ++ d.lf :: cs := by
      simp [writeRecord]
    rw [hwrite, List.map_singleton, read_writeCell_iff (.inr rfl) cs hplace, read_lf,
      map_addRecord_eq_some]
    simp
  | cell :: next :: cells, _, place, hplace => by
    have hwrite : d.writeRecord (cell :: next :: cells) ++ cs =
        d.writeCell cell ++ d.comma :: (d.writeRecord (next :: cells) ++ cs) := by
      simp [writeRecord, List.intercalate_cons_cons]
    rw [hwrite, List.map_cons, read_writeCell_iff (.inl rfl) _ hplace, read_comma,
      map_addField_eq_some, read_writeRecord_iff (List.cons_ne_nil next cells) (by simp)]
    simp [and_assoc]

/-- **A file of cells is read as their texts exactly if every cell may be written as it is.** -/
theorem parse_writeFile_iff {file : List (List (Cell α))} (h : ∀ cells ∈ file, cells ≠ []) :
    d.parse (d.writeFile file) = some (file.map (·.map (·.text))) ↔
      ∀ cells ∈ file, ∀ cell ∈ cells, d.Readable cell := by
  unfold parse writeFile
  induction file with
  | nil => simp [read]
  | cons cells file ih =>
    rw [List.flatMap_cons, List.map_cons, read_writeRecord_iff (h cells List.mem_cons_self) (by simp),
      ih fun cells hcells => h cells (List.mem_cons_of_mem _ hcells), List.forall_mem_cons]

end Dialect

end CSV
