/-
The order of the IO elements in a group.

A device's configuration decides in which order it writes the elements of a group.  For
nearly every field of a position the order does not matter: the field has one IO id, and
with different ids in a group two elements that are swapped write different fields.

Two fields have two ids each, and the source settles them in opposite ways.  Of the
elements 1 and 239 the last decides the ignition; of the elements 7 and 66 the first that
is not zero decides the voltage, behind an explicit check.  So an order can matter only
where one group holds both, the two disagree, and no later group (for the ignition) or
earlier group (for the voltage) settles the field anyway.
-/
import RudraNetra.Proofs.Fields

namespace RudraNetra

open Wire Go

variable {layout : Layout} {idWidth : Nat}

/-! ### Fields with two ids -/

/-- What the elements of a group say about the ignition. -/
def Group.ignitions (g : Group idWidth) : List Bool :=
  g.elements.filterMap fun e => written ignitionRule (g.kind, e)

/-- The voltages that the elements of a group set. -/
def Group.voltages (g : Group idWidth) : List ℚ :=
  g.elements.filterMap fun e => written voltageRule (g.kind, e)

/-- Two values in the list differ. -/
def Disagree {α : Type} (xs : List α) : Prop := ∃ x ∈ xs, ∃ y ∈ xs, x ≠ y

/-- The last group that says anything about the ignition says that it is on and that it is off. -/
def IOSection.IgnitionClash (io : IOSection layout) : Prop :=
  ∃ g, io.groups.reverse.find? (fun g => !g.ignitions.isEmpty) = some g ∧ Disagree g.ignitions

/-- The first group that sets a voltage holds two different ones. -/
def IOSection.VoltageClash (io : IOSection layout) : Prop :=
  ∃ g, io.groups.find? (fun g => !g.voltages.isEmpty) = some g ∧ Disagree g.voltages

/-! ### Reordering -/

/-- The same elements in another order. -/
def Group.Reorders (g h : Group idWidth) : Prop := h.kind = g.kind ∧ g.elements.Perm h.elements

/-- The same record, but for the order of the elements in each group. -/
structure AVLRecord.Reorders (a b : AVLRecord layout) : Prop where
  gps : b.gps = a.gps
  event : b.io.event = a.io.event
  total : b.io.total = a.io.total
  groups : List.Forall₂ Group.Reorders a.io.groups b.io.groups

/-- In no group does an id come twice. -/
def IOSection.Distinct (io : IOSection layout) : Prop :=
  ∀ g ∈ io.groups, (g.elements.map (·.id)).Nodup

def Group.reverse (g : Group idWidth) : Group idWidth where
  kind := g.kind
  elements := g.elements.reverse
  count_lt := by
    rw [List.length_reverse]
    exact g.count_lt
  fits := fun e he => g.fits e (List.mem_reverse.mp he)

/-- The record with the elements of each group in the opposite order. -/
def AVLRecord.reverse (a : AVLRecord layout) : AVLRecord layout where
  gps := a.gps
  io :=
    { a.io with
      groups := a.io.groups.map Group.reverse
      in_order := by
        rw [List.map_map]
        exact a.io.in_order }

theorem AVLRecord.reorders_reverse (a : AVLRecord layout) : a.Reorders a.reverse where
  gps := rfl
  event := rfl
  total := rfl
  groups := by
    rw [AVLRecord.reverse, List.forall₂_map_right_iff, List.forall₂_same]
    intro g _
    exact ⟨rfl, g.elements.reverse_perm.symm⟩

theorem Group.Reorders.encode_length {g h : Group idWidth} (hgh : g.Reorders h) :
    h.encode.length = g.encode.length := by
  have hkind := hgh.1
  have hflat := (hgh.2.flatMap_right (Element.encode idWidth g.kind)).length_eq
  rw [Group.encode, Group.encode, List.length_append, List.length_append, beBytes_length,
    beBytes_length, hkind, hflat]

/-- A reordered record takes as many bytes, and has the same groups. -/
theorem AVLRecord.Reorders.shape {a b : AVLRecord layout} (h : a.Reorders b) :
    b.encode.length = a.encode.length ∧ (b.io.Complete ↔ a.io.Complete) := by
  have hgroups : b.io.groups.map (·.kind) = a.io.groups.map (·.kind) ∧
      (b.io.groups.flatMap Group.encode).length = (a.io.groups.flatMap Group.encode).length := by
    have hforall := h.groups
    generalize a.io.groups = gs, b.io.groups = hs at hforall
    induction hforall with
    | nil => exact ⟨rfl, rfl⟩
    | cons hgh _ ih =>
        rw [List.map_cons, List.map_cons, List.flatMap_cons, List.flatMap_cons, List.length_append,
          List.length_append, hgh.encode_length, hgh.1, ih.1, ih.2]
        exact ⟨rfl, rfl⟩
  refine ⟨?_, by rw [IOSection.Complete, IOSection.Complete, hgroups.1]⟩
  rw [AVLRecord.encode_length, AVLRecord.encode_length, IOSection.encode_length,
    IOSection.encode_length, hgroups.2]

/-! ### The fields with one id -/

theorem ite_id_comm {α : Type} {i j k : Nat} (hij : i ≠ j) (x y z : α) :
    (if j = k then y else if i = k then x else z) = if i = k then x else if j = k then y else z := by
  split_ifs with hj hi
  · exact absurd (hi.trans hj.symm) hij
  · rfl
  · rfl
  · rfl

/-- Elements with different ids write different fields. -/
theorem writeOthers_comm (pos : Position) {i j : Nat} (hij : i ≠ j) (v w : Int) :
    (pos.writeOthers i v).writeOthers j w = (pos.writeOthers j w).writeOthers i v := by
  simp only [Position.writeOthers, Position.others, ite_id_comm hij]

/-- The state without these two fields. -/
def IOState.others (st : IOState) : IOState := ⟨st.pos.others, st.raw⟩

/-- Storing an element, but for these two fields. -/
def Element.storeOthers (kind : GroupKind) (st : IOState) (e : Element) : IOState where
  pos :=
    match kind with
    | .fixed _ => st.pos.writeOthers e.id (int64 (beNat e.bytes))
    | .x => st.pos
  raw := st.raw.insert (toString e.id) (kind.rawValue e.bytes)

theorem Element.store_others (kind : GroupKind) (st : IOState) (e : Element) :
    e.storeOthers kind st.others = (e.store kind st).others := by
  obtain _ | _ := kind
  · unfold IOState.others Element.store
    rw [applyIOValue_others]
    rfl
  · rfl

theorem Element.storeOthers_comm (kind : GroupKind) (st : IOState) {e f : Element}
    (hid : e.id ≠ f.id) :
    f.storeOthers kind (e.storeOthers kind st) = e.storeOthers kind (f.storeOthers kind st) := by
  have hkey : toString e.id ≠ toString f.id := fun h => hid (toString_injective h)
  unfold Element.storeOthers
  rw [Finmap.insert_insert_of_ne _ hkey]
  obtain _ | _ := kind
  · simp only [writeOthers_comm _ hid]
  · rfl

theorem Group.store_others (g : Group idWidth) (st : IOState) :
    (Group.store st g).others = g.elements.foldl (Element.storeOthers g.kind) st.others := by
  rw [Group.store, List.foldl_hom IOState.others]
  exact fun st e => e.store_others g.kind st

/-- The groups of a reordered record leave the same state behind, but for these two fields. -/
theorem storeGroups_others {gs hs : List (Group idWidth)} (h : List.Forall₂ Group.Reorders gs hs)
    (hdistinct : ∀ g ∈ gs, (g.elements.map (·.id)).Nodup) {st st' : IOState}
    (hst : st'.others = st.others) :
    (hs.foldl Group.store st').others = (gs.foldl Group.store st).others := by
  induction h generalizing st st' with
  | nil => exact hst
  | @cons g g' gs hs hgg' _ ih =>
      rw [List.foldl_cons, List.foldl_cons]
      apply ih fun g hg => hdistinct g (List.mem_cons_of_mem _ hg)
      obtain ⟨hkind, hperm⟩ := hgg'
      rw [Group.store_others, Group.store_others, hkind, hst]
      refine (hperm.foldl_eq' ?_ _).symm
      intro e he f hf st
      by_cases hef : e = f
      · rw [hef]
      · have hnodup := hdistinct g List.mem_cons_self
        exact e.storeOthers_comm g.kind st fun hid => hef (List.inj_on_of_nodup_map hnodup he hf hid)

/-! ### What the groups settle -/

/-- The ignition that the groups settle. -/
def IOSection.ignition (io : IOSection layout) : Bool :=
  (io.groups.reverse.findSome? fun g => g.ignitions.getLast?).getD false

/-- The voltage that they settle. -/
def IOSection.voltage (io : IOSection layout) : ℚ :=
  (io.groups.findSome? fun g => g.voltages.head?).getD 0

theorem AVLRecord.decode_ignition_groups (a : AVLRecord layout) (deviceID : Int) :
    (a.decode deviceID).ignition = a.io.ignition := by
  rw [AVLRecord.decode_ignition, IOSection.elements, List.filterMap_flatMap, List.getLast?_flatMap]
  simp only [List.filterMap_map]
  rfl

theorem AVLRecord.decode_voltage_groups (a : AVLRecord layout) (deviceID : Int) :
    (a.decode deviceID).voltage = a.io.voltage := by
  rw [AVLRecord.decode_voltage, IOSection.elements, List.filterMap_flatMap, List.head?_flatMap]
  simp only [List.filterMap_map]
  rfl

/-! ### The group that decides

Both fields are settled by one group, the first of a list of groups that says anything at all,
and there by one end of what it says.
-/

section Decide

variable {α : Type} {t : Group idWidth → List α} {p : List α → Option α}

theorem findSome?_eq_of_find {gs : List (Group idWidth)} {g : Group idWidth} {x : α}
    (hnil : p [] = none) (hx : p (t g) = some x)
    (hfind : gs.find? (fun g => !(t g).isEmpty) = some g) :
    gs.findSome? (fun g => p (t g)) = some x := by
  induction gs with
  | nil => exact absurd hfind (by simp)
  | cons h gs ih =>
      rw [List.findSome?_cons]
      by_cases hempty : t h = []
      · rw [List.find?_cons_of_neg (by simp [hempty])] at hfind
        rw [hempty, hnil]
        exact ih hfind
      · rw [List.find?_cons_of_pos (by simpa using hempty)] at hfind
        obtain rfl := Option.some.inj hfind
        rw [hx]

/-- Where the group that decides does not disagree with itself, its order is irrelevant. -/
theorem findSome?_reorders (hmem : ∀ xs x, p xs = some x → x ∈ xs)
    (hsome : ∀ xs, xs ≠ [] → (p xs).isSome)
    (hperm : ∀ g h : Group idWidth, g.Reorders h → (t g).Perm (t h))
    {gs hs : List (Group idWidth)} (h : List.Forall₂ Group.Reorders gs hs)
    (hagree : ∀ g, gs.find? (fun g => !(t g).isEmpty) = some g → ¬ Disagree (t g)) :
    hs.findSome? (fun g => p (t g)) = gs.findSome? (fun g => p (t g)) := by
  have hnil : p [] = none := by
    rcases hp : p [] with _ | x
    · rfl
    · exact absurd (hmem _ _ hp) List.not_mem_nil
  induction h with
  | nil => rfl
  | @cons g g' gs hs hgg' _ ih =>
      have hperm' := hperm g g' hgg'
      rw [List.findSome?_cons, List.findSome?_cons]
      by_cases hempty : t g = []
      · have hempty' : t g' = [] := (hempty ▸ hperm').nil_eq.symm
        rw [hempty, hempty', hnil]
        apply ih
        intro k hk
        exact hagree k (by rwa [List.find?_cons_of_neg (by simp [hempty])])
      · obtain ⟨x, hx⟩ := Option.isSome_iff_exists.mp (hsome _ hempty)
        obtain ⟨y, hy⟩ := Option.isSome_iff_exists.mp (hsome (t g') fun h' =>
          hempty (hperm'.trans (h' ▸ List.Perm.refl _)).eq_nil)
        have hdecides := hagree g (List.find?_cons_of_pos (by simpa using hempty))
        have hxy : x = y := by
          by_contra hne
          exact hdecides ⟨x, hmem _ _ hx, y, hperm'.mem_iff.mpr (hmem _ _ hy), hne⟩
        rw [hx, hy, hxy]

/-- In the opposite order the group that decides is still the same one. -/
theorem find?_reverse (ht : ∀ g, t (Group.reverse g) = (t g).reverse) {gs : List (Group idWidth)}
    {g : Group idWidth} (hfind : gs.find? (fun g => !(t g).isEmpty) = some g) :
    (gs.map Group.reverse).find? (fun g => !(t g).isEmpty) = some g.reverse := by
  simp only [List.find?_map, Function.comp_def, ht, List.isEmpty_reverse, hfind, Option.map_some]

/-- Where the two ends of what the deciding group says differ, its order matters. -/
theorem findSome?_reverse_ne (ht : ∀ g, t (Group.reverse g) = (t g).reverse) (hnil : p [] = none)
    {gs : List (Group idWidth)} {g : Group idWidth} {x y : α}
    (hfind : gs.find? (fun g => !(t g).isEmpty) = some g) (hx : p (t g) = some x)
    (hy : p (t g).reverse = some y) (hne : x ≠ y) (d : α) :
    ((gs.map Group.reverse).findSome? fun g => p (t g)).getD d ≠
      (gs.findSome? fun g => p (t g)).getD d := by
  have hold := findSome?_eq_of_find hnil hx hfind
  have hnew := findSome?_eq_of_find hnil ((ht g).symm ▸ hy) (find?_reverse ht hfind)
  rw [hold, hnew]
  exact hne.symm

end Decide

theorem Group.Reorders.ignitions {g h : Group idWidth} (hgh : g.Reorders h) :
    g.ignitions.Perm h.ignitions := by
  rw [Group.ignitions, Group.ignitions, hgh.1]
  exact hgh.2.filterMap _

theorem Group.Reorders.voltages {g h : Group idWidth} (hgh : g.Reorders h) :
    g.voltages.Perm h.voltages := by
  rw [Group.voltages, Group.voltages, hgh.1]
  exact hgh.2.filterMap _

/-- With different ids at most two elements of a group can have one of two ids. -/
theorem length_filterMap_le_two {α : Type} {rule : Nat → Int → Option α} {i j : Nat}
    (hrule : ∀ k v x, rule k v = some x → k = i ∨ k = j) {g : Group idWidth}
    (hnodup : (g.elements.map (·.id)).Nodup) :
    (g.elements.filterMap fun e => written rule (g.kind, e)).length ≤ 2 := by
  set f : Element → Option α := fun e => written rule (g.kind, e) with hf
  rw [List.length_filterMap_eq_countP, List.countP_eq_length_filter]
  have hsub : (g.elements.filter fun e => (f e).isSome).map (·.id) ⊆ [i, j] := by
    intro n hn
    obtain ⟨e, he, rfl⟩ := List.mem_map.mp hn
    obtain ⟨x, hx⟩ := Option.isSome_iff_exists.mp (by simpa using (List.mem_filter.mp he).2)
    simp only [hf, written] at hx
    split at hx
    · simpa using hrule _ _ _ hx
    · exact absurd hx (by simp)
  have hnodup' : ((g.elements.filter fun e => (f e).isSome).map (·.id)).Nodup :=
    hnodup.sublist (List.filter_sublist.map _)
  simpa using (hnodup'.subperm hsub).length_le

theorem Group.ignitions_length_le {g : Group idWidth} (h : (g.elements.map (·.id)).Nodup) :
    g.ignitions.length ≤ 2 :=
  length_filterMap_le_two (fun _ _ _ hx => (Option.ite_none_right_eq_some.mp hx).1) h

theorem Group.voltages_length_le {g : Group idWidth} (h : (g.elements.map (·.id)).Nodup) :
    g.voltages.length ≤ 2 :=
  length_filterMap_le_two (fun _ _ _ hx => (Option.ite_none_right_eq_some.mp hx).1.1) h

/-- Of two different values the ends of the list are the two. -/
theorem Disagree.ends_ne {α : Type} {xs : List α} (h : Disagree xs) (hlen : xs.length ≤ 2) :
    ∃ x y, xs.head? = some x ∧ xs.getLast? = some y ∧ x ≠ y := by
  obtain ⟨x, hx, y, hy, hne⟩ := h
  obtain _ | ⟨a, _ | ⟨b, _ | ⟨c, xs⟩⟩⟩ := xs
  · simp at hx
  · simp only [List.mem_singleton] at hx hy
    exact absurd (hx.trans hy.symm) hne
  · refine ⟨a, b, rfl, rfl, ?_⟩
    rintro rfl
    simp only [List.mem_cons, List.not_mem_nil, or_false, or_self] at hx hy
    exact hne (hx.trans hy.symm)
  · simp at hlen

theorem AVLRecord.Reorders.ignition {a b : AVLRecord layout} (h : a.Reorders b)
    (hclash : ¬ a.io.IgnitionClash) : b.io.ignition = a.io.ignition := by
  unfold IOSection.ignition
  rw [findSome?_reorders (fun _ _ => List.mem_of_getLast?) (fun xs hxs => by simpa using hxs)
    (fun _ _ => Group.Reorders.ignitions) (List.forall₂_reverse_iff.mpr h.groups)]
  exact fun g hg hdis => hclash ⟨g, hg, hdis⟩

theorem AVLRecord.Reorders.voltage {a b : AVLRecord layout} (h : a.Reorders b)
    (hclash : ¬ a.io.VoltageClash) : b.io.voltage = a.io.voltage := by
  unfold IOSection.voltage
  rw [findSome?_reorders (fun _ _ => List.mem_of_head?) (fun xs hxs => by simpa using hxs)
    (fun _ _ => Group.Reorders.voltages) h.groups]
  exact fun g hg hdis => hclash ⟨g, hg, hdis⟩

theorem Group.reverse_ignitions (g : Group idWidth) : g.reverse.ignitions = g.ignitions.reverse :=
  List.filterMap_reverse

theorem Group.reverse_voltages (g : Group idWidth) : g.reverse.voltages = g.voltages.reverse :=
  List.filterMap_reverse

theorem AVLRecord.reverse_ignition_ne {a : AVLRecord layout} (hdistinct : a.io.Distinct)
    (hclash : a.io.IgnitionClash) : a.reverse.io.ignition ≠ a.io.ignition := by
  obtain ⟨g, hfind, hdis⟩ := hclash
  have hmem : g ∈ a.io.groups := List.mem_reverse.mp (List.mem_of_find?_eq_some hfind)
  obtain ⟨x, y, hx, hy, hne⟩ := hdis.ends_ne (Group.ignitions_length_le (hdistinct g hmem))
  unfold IOSection.ignition AVLRecord.reverse
  rw [← List.map_reverse]
  exact findSome?_reverse_ne Group.reverse_ignitions rfl hfind hy
    (List.getLast?_reverse.trans hx) hne.symm _

theorem AVLRecord.reverse_voltage_ne {a : AVLRecord layout} (hdistinct : a.io.Distinct)
    (hclash : a.io.VoltageClash) : a.reverse.io.voltage ≠ a.io.voltage := by
  obtain ⟨g, hfind, hdis⟩ := hclash
  have hmem : g ∈ a.io.groups := List.mem_of_find?_eq_some hfind
  obtain ⟨x, y, hx, hy, hne⟩ := hdis.ends_ne (Group.voltages_length_le (hdistinct g hmem))
  unfold IOSection.voltage AVLRecord.reverse
  exact findSome?_reverse_ne Group.reverse_voltages rfl hfind hx
    (List.head?_reverse.trans hy) hne _

/-! ### What an order can change -/

theorem Position.eq_of_others {p q : Position} (h : p.others = q.others) :
    p = { q with ignition := p.ignition, voltage := p.voltage } := by
  obtain ⟨⟩ := p
  obtain ⟨⟩ := q
  simp only [Position.others, Position.mk.injEq] at h
  simp only [h]

theorem IOState.position_others {st st' : IOState} (h : st'.others = st.others) :
    st'.position.others = st.position.others := by
  unfold IOState.others at h
  obtain ⟨hpos, hraw⟩ := IOState.mk.inj h
  unfold IOState.position
  rw [hraw]
  split_ifs
  · exact hpos
  · simp only [Position.others, Position.mk.injEq] at hpos ⊢
    simp only [hpos, and_self]

/-- A reordered record is decoded as the record is, but for the ignition and the voltage. -/
theorem AVLRecord.Reorders.decode {a b : AVLRecord layout} (h : a.Reorders b)
    (hdistinct : a.io.Distinct) (deviceID : Int) :
    b.decode deviceID =
      { a.decode deviceID with ignition := b.io.ignition, voltage := b.io.voltage } := by
  have hothers : (b.decode deviceID).others = (a.decode deviceID).others := by
    apply IOState.position_others
    rw [h.gps]
    exact storeGroups_others h.groups hdistinct rfl
  rw [← b.decode_ignition_groups deviceID, ← b.decode_voltage_groups deviceID]
  exact Position.eq_of_others hothers

theorem AVLRecord.Reorders.parse {extended : Bool} {a b : AVLRecord (layoutOf extended)}
    (h : a.Reorders b) {rest : List UInt8}
    (hend : a.io.Complete ∨ rest.length < (layoutOf extended).idWidth) (deviceID : Int) :
    parseAVLRecord (b.encode ++ rest) deviceID extended =
      .ok (b.decode deviceID, a.encode.length) := by
  obtain ⟨hlen, hcomplete⟩ := h.shape
  apply parseAVLRecord_eq_ok.mpr
  exact ⟨b, rest, rfl, hend.imp_left hcomplete.mpr, by rw [hlen]⟩

theorem AVLRecord.reorders_refl (a : AVLRecord layout) : a.Reorders a where
  gps := rfl
  event := rfl
  total := rfl
  groups := List.forall₂_same.mpr fun _ _ => ⟨rfl, List.Perm.refl _⟩

/-- **The order of the elements in the groups changes nothing but the ignition and the voltage, and
these exactly if the group that decides one of them disagrees with itself.** -/
theorem order_irrelevant_iff {extended : Bool} (a : AVLRecord (layoutOf extended))
    (rest : List UInt8) (deviceID : Int) (hdistinct : a.io.Distinct)
    (hend : a.io.Complete ∨ rest.length < (layoutOf extended).idWidth) :
    ((∀ b, a.Reorders b → parseAVLRecord (b.encode ++ rest) deviceID extended =
        parseAVLRecord (a.encode ++ rest) deviceID extended) ↔
      ¬ a.io.IgnitionClash ∧ ¬ a.io.VoltageClash) ∧
    ∀ b, a.Reorders b → ∃ pos ignition voltage n,
      parseAVLRecord (a.encode ++ rest) deviceID extended = .ok (pos, n) ∧
      parseAVLRecord (b.encode ++ rest) deviceID extended =
        .ok ({ pos with ignition := ignition, voltage := voltage }, n) := by
  have hread := a.reorders_refl.parse hend deviceID
  refine ⟨⟨fun hsame => ?_, fun hno b hb => ?_⟩, fun b hb => ?_⟩
  · have hreverse := hsame a.reverse a.reorders_reverse
    rw [a.reorders_reverse.parse hend, hread, Except.ok.injEq, Prod.mk.injEq] at hreverse
    refine ⟨fun hclash => a.reverse_ignition_ne hdistinct hclash ?_,
      fun hclash => a.reverse_voltage_ne hdistinct hclash ?_⟩
    · rw [← a.decode_ignition_groups deviceID, ← a.reverse.decode_ignition_groups deviceID, hreverse.1]
    · rw [← a.decode_voltage_groups deviceID, ← a.reverse.decode_voltage_groups deviceID, hreverse.1]
  · rw [hb.parse hend, hread, hb.decode hdistinct, hb.ignition hno.1, hb.voltage hno.2,
      ← a.decode_ignition_groups deviceID, ← a.decode_voltage_groups deviceID]
  · exact ⟨_, _, _, _, hread, by rw [hb.parse hend, hb.decode hdistinct]⟩

/-- A record that says that the ignition is on (1) and that it is off (239). -/
def crossedRecord : AVLRecord (layoutOf false) :=
  standingRecord 0 2
    [⟨.fixed 1, [⟨1, [1]⟩, ⟨239, [0]⟩], by decide, by decide⟩, .bare (.fixed 2), .bare (.fixed 4),
      .bare (.fixed 8)]
    (by decide)

theorem crossedRecord_distinct : crossedRecord.io.Distinct := by
  intro g hg
  fin_cases hg <;> decide

/-- The other way round the same two elements mean that it is on. -/
theorem crossedRecord_order_matters : crossedRecord.io.Distinct ∧ crossedRecord.io.Complete ∧
    crossedRecord.Reorders crossedRecord.reverse ∧
    parseAVLRecord (crossedRecord.reverse.encode ++ []) 7 false ≠
      parseAVLRecord (crossedRecord.encode ++ []) 7 false := by
  have hcomplete : crossedRecord.io.Complete := rfl
  refine ⟨crossedRecord_distinct, hcomplete, crossedRecord.reorders_reverse, fun hsame => ?_⟩
  rw [crossedRecord.reorders_reverse.parse (.inl hcomplete),
    crossedRecord.reorders_refl.parse (.inl hcomplete), Except.ok.injEq, Prod.mk.injEq] at hsame
  have hignition := congrArg Position.ignition hsame.1
  rw [AVLRecord.decode_ignition_groups, AVLRecord.decode_ignition_groups] at hignition
  exact absurd hignition (by decide)

theorem order_irrelevant_crossed :
    ((∀ b, crossedRecord.Reorders b → parseAVLRecord (b.encode ++ []) 7 false =
        parseAVLRecord (crossedRecord.encode ++ []) 7 false) ↔
      ¬ crossedRecord.io.IgnitionClash ∧ ¬ crossedRecord.io.VoltageClash) ∧
    ∀ b, crossedRecord.Reorders b → ∃ pos ignition voltage n,
      parseAVLRecord (crossedRecord.encode ++ []) 7 false = .ok (pos, n) ∧
      parseAVLRecord (b.encode ++ []) 7 false =
        .ok ({ pos with ignition := ignition, voltage := voltage }, n) :=
  order_irrelevant_iff crossedRecord [] 7 crossedRecord_distinct (.inl rfl)

end RudraNetra
