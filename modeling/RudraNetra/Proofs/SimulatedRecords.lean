/-
The records of the simulator, from the vehicle to the position.

Every record that is made is in range, because the vehicle's state keeps its bounds whatever is
drawn (`nextRecord_valid`).  So a record is written in the layout that the server decodes as long
as its coordinates and its time fit their fields, and not at all otherwise.  What is decoded is
the position that the record reports, field by field and in the raw map (`decode_sent`).
-/
import RudraNetra.Codec.AVLLayout
import RudraNetra.Device.Simulator
import RudraNetra.Lib.GoNumber
import RudraNetra.Proofs.Fields

namespace RudraNetra.Simulator

open Wire Go Binary64

variable {opts : Options} {env : Env}

/-! ### The vehicle -/

/-- A number below one, times `n` and rounded, is below `n`. -/
theorem Env.below_mem (env : Env) {n k : Nat} (hk : k ≤ 50) (hlow : 2 ^ k < n)
    (hhigh : n < 2 ^ (k + 1)) (draws : Nat) :
    0 ≤ env.below n draws ∧ env.below n draws < n := by
  have hnonneg := env.random_nonneg draws
  have hle := env.random_le draws
  have hn : (2 : ℚ) ^ k < n := by exact_mod_cast hlow
  have hpos : (0 : ℚ) < n := by exact_mod_cast (Nat.pow_pos (by omega)).trans hlow
  have hx : 0 ≤ env.random draws * n := by positivity
  have hfar : env.random draws * n < ((n : ℤ) : ℚ) - 2 ^ k / 2 ^ 53 := by
    have hmul := mul_le_mul_of_nonneg_right hle hpos.le
    push_cast
    linarith
  have hnear : nearest (env.random draws * n) ≤ ((n : ℤ) : ℚ) - 2 ^ k / 2 ^ 52 :=
    nearest_le_sub_ulp hk (by exact_mod_cast hlow) (by exact_mod_cast hhigh) hx hfar
  have hsmall : |env.random draws * n| < 2 ^ 53 := by
    rw [abs_of_nonneg hx]
    have hpow : (n : ℚ) < 2 ^ (k + 1) := by exact_mod_cast hhigh
    have hpow' : (2 : ℚ) ^ (k + 1) ≤ 2 ^ 53 := pow_le_pow_right₀ (by norm_num) (by omega)
    nlinarith
  constructor
  · have hzero : ((0 : ℤ) : ℚ) ≤ nearest (env.random draws * n) :=
      le_nearest_of_int_le hsmall (by exact_mod_cast hx)
    exact Int.floor_nonneg.mpr (by exact_mod_cast hzero)
  · refine Int.floor_lt.mpr (hnear.trans_lt ?_)
    have : (0 : ℚ) < 2 ^ k / 2 ^ 52 := by positivity
    linarith

/-- The range of a number that is drawn. -/
theorem Env.plus_below_mem (env : Env) {n k : Nat} {low high : Int} (hsum : low + n = high)
    (hk : k ≤ 50) (hlow : 2 ^ k < n) (hhigh : n < 2 ^ (k + 1)) (draws : Nat) :
    low ≤ low + env.below n draws ∧ low + env.below n draws < high := by
  have hbelow := env.below_mem hk hlow hhigh draws
  omega

/-- The bounds that the vehicle's state keeps. -/
structure Sim.Valid (sim : Sim) : Prop where
  heading : 0 ≤ sim.heading ∧ sim.heading < 360
  speed : 0 ≤ sim.speed ∧ sim.speed < 86
  fuel : 3 ≤ sim.fuel ∧ sim.fuel ≤ 100
  tempC10 : -300 ≤ sim.tempC10 ∧ sim.tempC10 ≤ 80
  xCounter : sim.xCounter < 2 ^ 32

theorem Sim.new_valid : Sim.new.Valid where
  heading := by decide
  speed := by decide
  fuel := by norm_num [Sim.new]
  tempC10 := by decide
  xCounter := by decide

theorem Sim.Valid.drawn {sim : Sim} (h : sim.Valid) : sim.drawn.Valid := ⟨h.1, h.2, h.3, h.4, h.5⟩

theorem Sim.Valid.drive {sim : Sim} (h : sim.Valid) : (sim.drive opts env).Valid where
  heading := by
    have hturn := env.below_mem (n := 7) (k := 2) (by omega) (by decide) (by decide) sim.drawn.draws
    have hbefore : 0 ≤ sim.heading := h.heading.1
    have hsum : 0 ≤ sim.heading + env.below 7 sim.drawn.draws - 3 + 360 := by omega
    exact ⟨Int.tmod_nonneg _ hsum, Int.tmod_lt_of_pos _ (by decide)⟩
  speed := by
    have hmore := env.below_mem (n := 31) (k := 4) (by omega) (by decide) (by decide) sim.draws
    show 0 ≤ 55 + env.below 31 sim.draws ∧ 55 + env.below 31 sim.draws < 86
    omega
  fuel := h.fuel
  tempC10 := h.tempC10
  xCounter := h.xCounter

theorem Sim.Valid.parked {sim : Sim} (h : sim.Valid) (ticks : Int) :
    Sim.Valid { sim with parkTicks := ticks, speed := 0 } :=
  ⟨h.heading, ⟨le_rfl, show (0 : Int) < 86 by decide⟩, h.fuel, h.tempC10, h.xCounter⟩

variable (opts env) in
theorem Sim.Valid.advance {sim : Sim} (h : sim.Valid) : (sim.advance opts env).1.Valid := by
  unfold Sim.advance
  split_ifs
  · exact h.parked _
  · exact h.parked _
  · exact h.drawn.drawn.parked _
  · exact h.drawn.drive
  · exact h.drive

variable (opts env) in
theorem Sim.Valid.millivolts {sim : Sim} (h : sim.Valid) (least range : Nat) :
    (sim.millivolts opts env least range).2.Valid := by
  unfold Sim.millivolts
  split_ifs
  · exact h
  · exact h.drawn

/-- The ranges of a record's values, but for its coordinates, voltages and odometer. -/
structure Rec.Valid (rec : Rec) : Prop where
  priority : rec.priority = 0
  altitude : 12 ≤ rec.altitude ∧ rec.altitude < 22
  angle : 0 ≤ rec.angle ∧ rec.angle < 360
  satellites : 10 ≤ rec.satellites ∧ rec.satellites < 17
  speed : 0 ≤ rec.speed ∧ rec.speed < 86
  ignition : 0 ≤ rec.ignition ∧ rec.ignition ≤ 1
  door : 0 ≤ rec.door ∧ rec.door ≤ 1
  batteryMv : 3800 ≤ rec.batteryMv ∧ rec.batteryMv < 4151
  tempC10 : -300 ≤ rec.tempC10 ∧ rec.tempC10 ≤ 80
  fuel : 3 ≤ rec.fuel ∧ rec.fuel ≤ 100
  xtra : rec.xtra < 2 ^ 32

theorem mathRound_mem {x : ℚ} {low high : Int} (hlow : low ≤ x) (hhigh : x ≤ high) :
    low ≤ mathRound x ∧ mathRound x ≤ high := by
  constructor
  · exact Int.le_floor.mpr (by linarith)
  · refine Int.lt_add_one_iff.mp (Int.floor_lt.mpr ?_)
    push_cast
    linarith

variable (opts env) in
/-- Every record is in range, and the vehicle keeps its bounds. -/
theorem nextRecord_valid (timestamp : Int) {sim : Sim} (h : sim.Valid) :
    (nextRecord opts env timestamp sim).1.Valid ∧ (nextRecord opts env timestamp sim).2.Valid := by
  have hnext : Sim.Valid { sim with records := sim.records + 1 } := ⟨h.1, h.2, h.3, h.4, h.5⟩
  have hadvance := hnext.advance opts env
  rcases hmoved : Sim.advance opts env { sim with records := sim.records + 1 } with ⟨moved, parked⟩
  rw [hmoved] at hadvance
  simp only [nextRecord, hmoved]
  generalize hfuel : (if parked = true then moved.fuel else
    max 3 (min 100 (nearest (moved.fuel - nearest 0.05)))) = fuel
  have hfuel' : 3 ≤ fuel ∧ fuel ≤ 100 := by
    rw [← hfuel]
    split_ifs
    · exact hadvance.fuel
    · exact ⟨le_max_left _ _, max_le (by norm_num) (min_le_left _ _)⟩
  have hsim : Sim.Valid { moved.drawn with
      fuel := fuel
      tempC10 := max (-300) (min 80 (moved.tempC10 + env.below 3 moved.draws - 1))
      xCounter := (moved.xCounter + 1) % 2 ^ 32 } :=
    ⟨hadvance.heading, hadvance.speed, hfuel',
      ⟨le_max_left _ _, max_le (by decide) (min_le_left _ _)⟩, Nat.mod_lt _ (by decide)⟩
  have hlast := ((hsim.drawn.drawn.millivolts opts env 24000 801).millivolts opts env 23900
    901).drawn
  refine ⟨?_, hlast⟩
  exact {
    priority := rfl
    altitude := env.plus_below_mem (k := 3) rfl (by omega) (by decide) (by decide) _
    angle := hlast.heading
    satellites := env.plus_below_mem (k := 2) rfl (by omega) (by decide) (by decide) _
    speed := hlast.speed
    ignition := by
      dsimp only
      split_ifs <;> decide
    door := by
      dsimp only
      omega
    batteryMv := env.plus_below_mem (k := 8) rfl (by omega) (by decide) (by decide) _
    tempC10 := hlast.tempC10
    fuel := mathRound_mem (by exact_mod_cast hlast.fuel.1) (by exact_mod_cast hlast.fuel.2)
    xtra := hlast.xCounter }

variable (opts env) in
theorem burstRecords_valid (base : Int) (n : Nat) : ∀ (i : Nat) {sim : Sim}, sim.Valid →
    (∀ rec ∈ (burstRecords opts env base n i sim).1, rec.Valid) ∧
      (burstRecords opts env base n i sim).2.Valid := by
  induction n with
  | zero => exact fun _ _ h => ⟨fun _ hrec => absurd hrec List.not_mem_nil, h⟩
  | succ n ih =>
      intro i sim h
      obtain ⟨hrec, hsim⟩ := nextRecord_valid opts env (base + i * 1000) h
      obtain ⟨hrecs, hlast⟩ := ih (i + 1) hsim
      refine ⟨?_, hlast⟩
      intro rec hmem
      rcases List.mem_cons.mp hmem with rfl | hmem
      · exact hrec
      · exact hrecs rec hmem

variable (opts env) in
theorem burstRecords_length (base : Int) (n : Nat) : ∀ (i : Nat) (sim : Sim),
    (burstRecords opts env base n i sim).1.length = n := by
  induction n with
  | zero => exact fun _ _ => rfl
  | succ n ih =>
      intro i sim
      exact congrArg (· + 1) (ih (i + 1) _)

/-! ### Writing values -/

/-- The coordinates and the time fit the fields they are written to. -/
structure Rec.Placed (rec : Rec) : Prop where
  longitude : -2 ^ 31 ≤ rec.longitude ∧ rec.longitude < 2 ^ 31
  latitude : -2 ^ 31 ≤ rec.latitude ∧ rec.latitude < 2 ^ 31
  timestamp : -2 ^ 63 ≤ rec.timestamp ∧ rec.timestamp < 2 ^ 63

theorem writeUInt_of_lt {width : Nat} {value : Int} (h : 0 ≤ value ∧ value < 256 ^ width) :
    writeUInt width value = some (beBytes width value.toNat) := if_pos h

theorem writeUInt_natCast {width n : Nat} (h : n < 256 ^ width) :
    writeUInt width n = some (beBytes width n) :=
  writeUInt_of_lt ⟨Int.natCast_nonneg n, by exact_mod_cast h⟩

theorem writeUInt_emod (width : Nat) (value : Int) :
    writeUInt width (value % 256 ^ width) =
      some (beBytes width (value % 256 ^ width).toNat) := by
  have hpos : (0 : Int) < 256 ^ width := by positivity
  exact writeUInt_of_lt ⟨Int.emod_nonneg _ hpos.ne', Int.emod_lt_of_pos _ hpos⟩

theorem writeInt_of_mem {width : Nat} {value : Int}
    (h : -(256 ^ width / 2) ≤ value ∧ value < 256 ^ width / 2) :
    writeInt width value = some (beBytes width (value % 256 ^ width).toNat) := if_pos h

/-- The GPS part of a record. -/
def Rec.gps (rec : Rec) : GPSPart where
  timestamp := UInt64.ofNat (rec.timestamp % 2 ^ 64).toNat
  priority := 0
  longitude := Int32.ofInt rec.longitude
  latitude := Int32.ofInt rec.latitude
  altitude := UInt16.ofNat rec.altitude.toNat
  heading := UInt16.ofNat rec.angle.toNat
  satellites := UInt8.ofNat rec.satellites.toNat
  speed := UInt16.ofNat rec.speed.toNat

theorem toNat_toUInt32_ofInt (v : Int) : (Int32.ofInt v).toUInt32.toNat = (v % 2 ^ 32).toNat := by
  show (Int32.ofInt v).toBitVec.toNat = _
  rw [Int32.toBitVec_ofInt, BitVec.toNat_ofInt]
  rfl

theorem toNat_uint16 {v : Int} (h : 0 ≤ v ∧ v < 65536) :
    (UInt16.ofNat v.toNat).toNat = v.toNat := by
  rw [UInt16.toNat_ofNat']
  omega

theorem Rec.Valid.buildGpsPart {rec : Rec} (h : rec.Valid) (hplaced : rec.Placed) :
    buildGpsPart rec = some rec.gps.encode := by
  have hpriority : writeUInt 1 rec.priority = some (beBytes 1 0) := by rw [h.priority]; rfl
  have htime : writeInt 8 rec.timestamp = some (beBytes 8 (rec.timestamp % 2 ^ 64).toNat) :=
    writeInt_of_mem hplaced.timestamp
  have hlng : writeInt 4 rec.longitude = some (beBytes 4 (rec.longitude % 2 ^ 32).toNat) :=
    writeInt_of_mem hplaced.longitude
  have hlat : writeInt 4 rec.latitude = some (beBytes 4 (rec.latitude % 2 ^ 32).toNat) :=
    writeInt_of_mem hplaced.latitude
  have hword : ∀ {v : Int}, 0 ≤ v ∧ v < 65536 →
      writeUInt 2 (v % 65536) = some (beBytes 2 v.toNat) := by
    intro v hv
    rw [Int.emod_eq_of_lt hv.1 hv.2]
    exact writeUInt_of_lt hv
  have haltitude : 0 ≤ rec.altitude ∧ rec.altitude < 65536 := by have := h.altitude; omega
  have hangle : 0 ≤ rec.angle ∧ rec.angle < 65536 := by have := h.angle; omega
  have hspeed : 0 ≤ rec.speed ∧ rec.speed < 65536 := by have := h.speed; omega
  have hsatellites : 0 ≤ rec.satellites ∧ rec.satellites < 256 := by have := h.satellites; omega
  have hsat : writeUInt 1 rec.satellites = some (beBytes 1 rec.satellites.toNat) :=
    writeUInt_of_lt hsatellites
  have htime' : (UInt64.ofNat (rec.timestamp % 2 ^ 64).toNat).toNat =
      (rec.timestamp % 2 ^ 64).toNat := by
    rw [UInt64.toNat_ofNat']
    omega
  have hsat' : (UInt8.ofNat rec.satellites.toNat).toNat = rec.satellites.toNat := by
    rw [UInt8.toNat_ofNat']
    omega
  simp only [Simulator.buildGpsPart, htime, hpriority, hlng, hlat,
    hword haltitude, hword hangle, hword hspeed, hsat, GPSPart.encode, Rec.gps, htime',
    toNat_toUInt32_ofInt, toNat_uint16 haltitude, toNat_uint16 hangle, toNat_uint16 hspeed, hsat',
    Option.bind_eq_bind, Option.bind_some, Option.pure_def]
  rfl

/-! ### IO sections -/

/-- The element as it is laid out. -/
def IOElem.element (el : IOElem) : Element :=
  ⟨el.id.toNat, beBytes el.size (el.value % 256 ^ el.size).toNat⟩

/-- Elements of one size, with ids of one byte. -/
def Small (size : Nat) (elems : List IOElem) : Prop :=
  elems.length < 256 ∧ ∀ el ∈ elems, el.size = size ∧ 0 ≤ el.id ∧ el.id < 256

/-- The elements can be written: they have a width there is a writer for, and a value with a sign
fits it. -/
def Writable (elems : List IOElem) : Prop :=
  ∀ el ∈ elems, (el.size = 1 ∨ el.size = 2 ∨ el.size = 4) ∧
    (el.signed = true → -2 ^ 15 ≤ el.value ∧ el.value < 2 ^ 15)

theorem writeIOValue_eq {el : IOElem} (hsize : el.size = 1 ∨ el.size = 2 ∨ el.size = 4)
    (hsigned : el.signed = true → -2 ^ 15 ≤ el.value ∧ el.value < 2 ^ 15) :
    writeIOValue el = some el.element.bytes := by
  unfold writeIOValue IOElem.element
  rcases hsize with hsize | hsize | hsize
  · rw [hsize]
    exact writeUInt_emod 1 _
  · rw [hsize]
    dsimp only
    split_ifs with hs
    · exact writeInt_of_mem (hsigned hs)
    · exact writeUInt_emod 2 _
  · rw [hsize]
    exact writeUInt_emod 4 _

/-- If everything is written, a list is written in its order. -/
theorem mapM_eq_some {α β : Type} {f : α → Option β} {g : α → β} {l : List α}
    (h : ∀ a ∈ l, f a = some (g a)) : l.mapM f = some (l.map g) := by
  induction l with
  | nil => rfl
  | cons a rest ih =>
      obtain ⟨ha, hrest⟩ := List.forall_mem_cons.mp h
      rw [List.mapM_cons, ha, ih hrest]
      rfl

/-- Elements are written one behind the other. -/
theorem ioElements_eq {idWidth size : Nat} (hwidth : 0 < idWidth) {elems : List IOElem}
    (hsmall : Small size elems) (hwritable : Writable elems) :
    ioElements idWidth elems =
      some ((elems.map IOElem.element).flatMap (Element.encode idWidth (.fixed size))) := by
  have hone : (256 : Int) ≤ 256 ^ idWidth := le_self_pow₀ (by norm_num) hwidth.ne'
  have hwrite : ∀ el ∈ elems, (do
      return (← writeUInt idWidth el.id) ++ (← writeIOValue el)) =
        some (el.element.encode idWidth (.fixed size)) := by
    intro el hel
    obtain ⟨-, hlow, hhigh⟩ := hsmall.2 el hel
    obtain ⟨hsize, hsigned⟩ := hwritable el hel
    rw [writeUInt_of_lt ⟨hlow, hhigh.trans_le hone⟩, writeIOValue_eq hsize hsigned]
    rfl
  rw [ioElements, mapM_eq_some hwrite, Option.map_some, ← List.flatMap_def, List.flatMap_map]

/-- The group that is written. -/
def fixedGroup {idWidth : Nat} (hwidth : 0 < idWidth) (size : Nat) (elems : List IOElem)
    (h : Small size elems) : Group idWidth where
  kind := .fixed size
  elements := elems.map IOElem.element
  count_lt := by
    rw [List.length_map]
    exact h.1.trans_le (Nat.le_self_pow hwidth.ne' 256)
  fits := by
    intro e he
    obtain ⟨el, hel, rfl⟩ := List.mem_map.mp he
    obtain ⟨hsize, hid⟩ := h.2 el hel
    have hone : 256 ≤ 256 ^ idWidth := Nat.le_self_pow hwidth.ne' 256
    have hbound : el.id.toNat < 256 ^ idWidth := by omega
    have hlength : (beBytes el.size (el.value % 256 ^ el.size).toNat).length = size := by
      rw [beBytes_length, hsize]
    exact ⟨hbound, hlength⟩

theorem ioGroup8_eq {size : Nat} {elems : List IOElem} (hsmall : Small size elems)
    (hwritable : Writable elems) :
    ioGroup8 elems = some (fixedGroup Nat.one_pos size elems hsmall).encode := by
  rw [ioGroup8, ioElements_eq Nat.one_pos hsmall hwritable]
  simp [Group.encode, fixedGroup, beBytes]

theorem ioGroup8e_eq {size : Nat} {elems : List IOElem} (hsmall : Small size elems)
    (hwritable : Writable elems) :
    ioGroup8e elems = some (fixedGroup Nat.two_pos size elems hsmall).encode := by
  have hcount : writeUInt 2 (elems.length : Int) = some (beBytes 2 elems.length) := by
    have hlt := hsmall.1
    exact writeUInt_natCast (by omega)
  rw [ioGroup8e, ioElements_eq Nat.two_pos hsmall hwritable, hcount]
  simp [Group.encode, fixedGroup]

theorem oneByte_small (rec : Rec) : Small 1 (oneByte rec) := by simp [Small, oneByte]
theorem twoByte_small (rec : Rec) : Small 2 (twoByte rec) := by simp [Small, twoByte]
theorem fourByte_small (rec : Rec) : Small 4 (fourByte rec) := by simp [Small, fourByte]
theorem eightByte_small : Small 8 eightByte := by simp [Small, eightByte]

/-- The X group has the counter. -/
def Rec.xGroup (rec : Rec) : Group 2 where
  kind := .x
  elements := [⟨200, beBytes 4 rec.xtra⟩]
  count_lt := show 1 < 256 ^ 2 by decide
  fits := by
    intro e he
    obtain rfl := List.mem_singleton.mp he
    refine ⟨show 200 < 256 ^ 2 by decide, ?_⟩
    show (beBytes 4 rec.xtra).length < 256 ^ 2
    rw [beBytes_length]
    decide

theorem noEvent_lt (extended : Bool) : 0 < 256 ^ (layoutOf extended).eventWidth :=
  Nat.pow_pos (by decide)

theorem eight_lt : 8 < 256 ^ (layoutOf false).idWidth := by decide
theorem nine_lt : 9 < 256 ^ (layoutOf true).idWidth := by decide

/-- The IO section of a record. -/
def Rec.io (rec : Rec) : (extended : Bool) → IOSection (layoutOf extended)
  | false =>
    { event := 0
      total := 8
      groups := [fixedGroup Nat.one_pos 1 _ (oneByte_small rec),
        fixedGroup Nat.one_pos 2 _ (twoByte_small rec),
        fixedGroup Nat.one_pos 4 _ (fourByte_small rec),
        fixedGroup Nat.one_pos 8 _ eightByte_small]
      event_lt := noEvent_lt false
      total_lt := eight_lt
      in_order := List.prefix_rfl }
  | true =>
    { event := 0
      total := 9
      groups := [fixedGroup Nat.two_pos 1 _ (oneByte_small rec),
        fixedGroup Nat.two_pos 2 _ (twoByte_small rec),
        fixedGroup Nat.two_pos 4 _ (fourByte_small rec),
        fixedGroup Nat.two_pos 8 _ eightByte_small, rec.xGroup]
      event_lt := noEvent_lt true
      total_lt := nine_lt
      in_order := List.prefix_rfl }

/-- A record as it is sent. -/
def Rec.sent (rec : Rec) (extended : Bool) : SentRecord (layoutOf extended) where
  gps := rec.gps
  io := rec.io extended
  complete := by cases extended <;> rfl
  total_eq := by cases extended <;> rfl
  distinct := by
    cases extended
    · show [1, 2, 7, 66, 67, 72, 84, 16].Nodup
      decide
    · show [1, 2, 7, 66, 67, 72, 84, 16, 200].Nodup
      decide

theorem Rec.sent_encode_false (rec : Rec) : (rec.sent false).toAVLRecord.encode = rec.gps.encode ++
    (beBytes 1 0 ++ (beBytes 1 8 ++ ((fixedGroup Nat.one_pos 1 _ (oneByte_small rec)).encode ++
      ((fixedGroup Nat.one_pos 2 _ (twoByte_small rec)).encode ++
        ((fixedGroup Nat.one_pos 4 _ (fourByte_small rec)).encode ++
          (fixedGroup Nat.one_pos 8 _ eightByte_small).encode))))) := by
  simp [AVLRecord.encode, IOSection.encode, Rec.sent, Rec.io, layoutOf, codec8Layout]

theorem Rec.sent_encode_true (rec : Rec) : (rec.sent true).toAVLRecord.encode = rec.gps.encode ++
    (beBytes 1 0 ++ (beBytes 2 9 ++ ((fixedGroup Nat.two_pos 1 _ (oneByte_small rec)).encode ++
      ((fixedGroup Nat.two_pos 2 _ (twoByte_small rec)).encode ++
        ((fixedGroup Nat.two_pos 4 _ (fourByte_small rec)).encode ++
          ((fixedGroup Nat.two_pos 8 _ eightByte_small).encode ++ rec.xGroup.encode)))))) := by
  simp [AVLRecord.encode, IOSection.encode, Rec.sent, Rec.io, layoutOf, codec8ELayout]

theorem Rec.xGroup_eq (rec : Rec) :
    ioGroupX8e [(200, beBytes 4 rec.xtra)] = some rec.xGroup.encode := by
  have hid : writeUInt 2 200 = some (beBytes 2 200) := writeUInt_natCast (n := 200) (by norm_num)
  have hlength : writeUInt 2 4 = some (beBytes 2 4) := writeUInt_natCast (n := 4) (by norm_num)
  have hcount : writeUInt 2 1 = some (beBytes 2 1) := writeUInt_natCast (n := 1) (by norm_num)
  simp [ioGroupX8e, hid, hlength, hcount, Group.encode, Rec.xGroup, Element.encode,
    GroupKind.header]

theorem oneByte_writable (rec : Rec) : Writable (oneByte rec) := by simp [Writable, oneByte]
theorem fourByte_writable (rec : Rec) : Writable (fourByte rec) := by simp [Writable, fourByte]
theorem eightByte_writable : Writable eightByte := by simp [Writable, eightByte]

theorem Rec.Valid.twoByte_writable {rec : Rec} (h : rec.Valid) : Writable (twoByte rec) := by
  have htemp := h.tempC10
  simp only [Writable, twoByte, List.forall_mem_cons]
  simp
  omega

theorem Rec.Valid.groups8_eq {rec : Rec} (h : rec.Valid) : groups8 rec =
    some ((fixedGroup Nat.one_pos 1 _ (oneByte_small rec)).encode ++
      ((fixedGroup Nat.one_pos 2 _ (twoByte_small rec)).encode ++
        ((fixedGroup Nat.one_pos 4 _ (fourByte_small rec)).encode ++
          (fixedGroup Nat.one_pos 8 _ eightByte_small).encode))) := by
  rw [groups8, ioGroup8_eq (oneByte_small rec) (oneByte_writable rec),
    ioGroup8_eq (twoByte_small rec) h.twoByte_writable,
    ioGroup8_eq (fourByte_small rec) (fourByte_writable rec),
    ioGroup8_eq eightByte_small eightByte_writable]
  rfl

theorem Rec.Valid.groups8e_eq {rec : Rec} (h : rec.Valid) : groups8e rec =
    some ((fixedGroup Nat.two_pos 1 _ (oneByte_small rec)).encode ++
      ((fixedGroup Nat.two_pos 2 _ (twoByte_small rec)).encode ++
        ((fixedGroup Nat.two_pos 4 _ (fourByte_small rec)).encode ++
          ((fixedGroup Nat.two_pos 8 _ eightByte_small).encode ++ rec.xGroup.encode)))) := by
  have hxtra : writeUInt 4 (rec.xtra : Int) = some (beBytes 4 rec.xtra) := by
    have hlt := h.xtra
    exact writeUInt_natCast (by omega)
  rw [groups8e, hxtra, ioGroup8e_eq (oneByte_small rec) (oneByte_writable rec),
    ioGroup8e_eq (twoByte_small rec) h.twoByte_writable,
    ioGroup8e_eq (fourByte_small rec) (fourByte_writable rec),
    ioGroup8e_eq eightByte_small eightByte_writable, Option.bind_eq_bind, Option.bind_some,
    rec.xGroup_eq]
  rfl

/-- **A record that fits is written in the layout that is decoded.** -/
theorem Rec.Valid.buildRecord {rec : Rec} (h : rec.Valid) (hplaced : rec.Placed) :
    buildRecord opts rec = some (rec.sent opts.extended).toAVLRecord.encode := by
  have hevent : writeUInt 1 0 = some (beBytes 1 0) := writeUInt_natCast (n := 0) (by norm_num)
  have hcount : writeUInt 1 (fixedTotal rec : Int) = some (beBytes 1 8) :=
    writeUInt_natCast (n := 8) (by norm_num)
  have hcount' : writeUInt 2 ((fixedTotal rec : Int) + 1) = some (beBytes 2 9) :=
    writeUInt_natCast (n := 9) (by norm_num)
  rw [Simulator.buildRecord, h.buildGpsPart hplaced]
  by_cases hext : opts.extended = true
  · rw [hext, Rec.sent_encode_true, h.groups8e_eq, hevent, hcount']
    rfl
  · rw [Bool.eq_false_of_not_eq_true hext, Rec.sent_encode_false, h.groups8_eq, hevent, hcount]
    rfl

/-! ### What is decoded -/

/-- The numbers in the IO section of a record.  The temperature stands there without its sign. -/
def Rec.numbers (rec : Rec) : List (Nat × Int) :=
  [(1, rec.ignition), (2, rec.door), (7, rec.vehicleMv % 65536), (66, rec.externalMv % 65536),
    (67, rec.batteryMv), (72, rec.tempC10 % 65536), (84, rec.fuel), (16, rec.odometer % 2 ^ 32)]

/-- What is inserted into the raw IO map. -/
def Rec.rawPairs (rec : Rec) (extended : Bool) : List (String × RawValue) :=
  rec.numbers.map (fun n => (toString n.1, .num n.2)) ++
    if extended then [(toString 200, .hex (hexEncode (beBytes 4 rec.xtra)))] else []

/-- The position that a record reports. -/
def Rec.position (rec : Rec) (extended : Bool) (deviceID : Int) : Position :=
  { Position.zero deviceID with
    time := rec.timestamp
    longitude := (rec.longitude : ℚ) / 10 ^ 7
    latitude := (rec.latitude : ℚ) / 10 ^ 7
    altitude := rec.altitude
    heading := rec.angle
    satellites := rec.satellites
    speed := rec.speed
    ignition := rec.ignition == 1
    doorOpen := some (rec.door == 1)
    -- the voltage of the vehicle, or the external one if that is zero
    voltage := if rec.vehicleMv % 65536 = 0 then ((rec.externalMv % 65536 : Int) : ℚ) / 1000
      else ((rec.vehicleMv % 65536 : Int) : ℚ) / 1000
    backupBatteryV := some ((rec.batteryMv : ℚ) / 1000)
    temperature := (rec.tempC10 : ℚ) / 10
    odometer := rec.odometer % 2 ^ 32
    fuelLevelPct := some (rec.fuel : ℚ)
    rawData := some (insertAll ∅ (rec.rawPairs extended)) }

/-- The number in the bytes of an element. -/
theorem int64_element {size : Nat} (hsize : size ≤ 4) (value : Int) :
    int64 (beNat (beBytes size (value % 256 ^ size).toNat)) = value % 256 ^ size := by
  have hpos : (0 : Int) < 256 ^ size := by positivity
  have hnonneg := Int.emod_nonneg value hpos.ne'
  have hlt := Int.emod_lt_of_pos value hpos
  have hle : (256 : Int) ^ size ≤ 256 ^ 4 := pow_le_pow_right₀ (by norm_num) hsize
  have hnat : (value % 256 ^ size).toNat < 256 ^ size := by
    have hcast : ((256 ^ size : Nat) : Int) = 256 ^ size := by push_cast; rfl
    omega
  rw [beNat_beBytes_of_lt hnat, Int.toNat_of_nonneg hnonneg, int64_of_lt (by omega)]

theorem Rec.Valid.gps_position {rec : Rec} (h : rec.Valid) (hplaced : rec.Placed)
    (deviceID : Int) : rec.gps.position deviceID =
      { Position.zero deviceID with
        time := rec.timestamp
        longitude := (rec.longitude : ℚ) / 10 ^ 7
        latitude := (rec.latitude : ℚ) / 10 ^ 7
        altitude := rec.altitude
        heading := rec.angle
        satellites := rec.satellites
        speed := rec.speed } := by
  have htime : int64 (UInt64.ofNat (rec.timestamp % 2 ^ 64).toNat).toNat = rec.timestamp := by
    have hlow := hplaced.timestamp
    rw [UInt64.toNat_ofNat']
    unfold int64 signed
    have hmod : ((rec.timestamp % 2 ^ 64).toNat % 2 ^ 64 : Nat) =
        (rec.timestamp % 2 ^ 64).toNat := by
      omega
    rw [hmod, Int.bmod_def]
    omega
  have hlng : (Int32.ofInt rec.longitude).toInt = rec.longitude :=
    Int32.toInt_ofInt_of_le hplaced.longitude.1 hplaced.longitude.2
  have hlat : (Int32.ofInt rec.latitude).toInt = rec.latitude :=
    Int32.toInt_ofInt_of_le hplaced.latitude.1 hplaced.latitude.2
  have hword : ∀ {v : Int}, 0 ≤ v ∧ v < 65536 →
      (((UInt16.ofNat v.toNat).toNat : Nat) : ℚ) = (v : ℚ) := by
    intro v hv
    rw [toNat_uint16 hv]
    exact_mod_cast Int.toNat_of_nonneg hv.1
  have haltitude : 0 ≤ rec.altitude ∧ rec.altitude < 65536 := by have := h.altitude; omega
  have hangle : 0 ≤ rec.angle ∧ rec.angle < 65536 := by have := h.angle; omega
  have hspeed : 0 ≤ rec.speed ∧ rec.speed < 65536 := by have := h.speed; omega
  have hsat : ((UInt8.ofNat rec.satellites.toNat).toNat : Int) = rec.satellites := by
    have hrange := h.satellites
    rw [UInt8.toNat_ofNat']
    omega
  simp only [GPSPart.position, Rec.gps, htime, hlng, hlat, hword haltitude, hword hangle,
    hword hspeed, hsat]

/-- An element with a number. -/
def number (e : GroupKind × Element) : Option (Nat × Int) :=
  match e.1 with
  | .fixed _ => some (e.2.id, int64 (beNat e.2.bytes))
  | .x => none

/-- Only the elements with a number are mapped onto the position. -/
theorem storeAll_pos (es : List (GroupKind × Element)) : ∀ st : IOState,
    (storeAll st es).pos =
      (es.filterMap number).foldl (fun pos n => applyIOValue pos n.1 n.2) st.pos := by
  induction es with
  | nil => exact fun _ => rfl
  | cons e rest ih =>
      intro st
      rw [storeAll, List.foldl_cons, ← storeAll, ih]
      obtain ⟨width | _, e⟩ := e
      · rw [Element.store_fixed, List.filterMap_cons]
        dsimp only [number]
        rw [List.foldl_cons]
      · rw [List.filterMap_cons]
        rfl

/-- The elements of a record. -/
theorem Rec.elements_eq (rec : Rec) (extended : Bool) : (rec.io extended).elements =
    (oneByte rec).map (fun el => (.fixed 1, el.element)) ++
      ((twoByte rec).map (fun el => (.fixed 2, el.element)) ++
        ((fourByte rec).map (fun el => (.fixed 4, el.element)) ++
          if extended then [(.x, ⟨200, beBytes 4 rec.xtra⟩)] else [])) := by
  cases extended <;> rfl

/-- The numbers come out of the section as they were written. -/
theorem Rec.Valid.numbers_eq {rec : Rec} (h : rec.Valid) (extended : Bool) :
    (rec.io extended).elements.filterMap number = rec.numbers := by
  have hnumber : ∀ (size : Nat) (value : Int), size ≤ 4 → 0 ≤ value ∧ value < 256 ^ size →
      int64 (beNat (beBytes size (value % 256 ^ size).toNat)) = value := by
    intro size value hsize hvalue
    rw [int64_element hsize, Int.emod_eq_of_lt hvalue.1 hvalue.2]
  have hignition : int64 (beNat (beBytes 1 (rec.ignition % 256).toNat)) = rec.ignition :=
    hnumber 1 _ (by omega) (by have := h.ignition; omega)
  have hdoor : int64 (beNat (beBytes 1 (rec.door % 256).toNat)) = rec.door :=
    hnumber 1 _ (by omega) (by have := h.door; omega)
  have hbattery : int64 (beNat (beBytes 2 (rec.batteryMv % 65536).toNat)) = rec.batteryMv :=
    hnumber 2 _ (by omega) (by have := h.batteryMv; omega)
  have hfuel : int64 (beNat (beBytes 2 (rec.fuel % 65536).toNat)) = rec.fuel :=
    hnumber 2 _ (by omega) (by have := h.fuel; omega)
  have hword : ∀ v : Int, int64 (beNat (beBytes 2 (v % 65536).toNat)) = v % 65536 :=
    fun v => by simpa using int64_element (show 2 ≤ 4 by omega) v
  have hodometer : int64 (beNat (beBytes 4 (rec.odometer % 4294967296).toNat)) =
      rec.odometer % 4294967296 := by
    simpa using int64_element (show 4 ≤ 4 by omega) rec.odometer
  rw [Rec.elements_eq]
  rcases extended with _ | _ <;>
    simp [Rec.numbers, number, oneByte, twoByte, fourByte, IOElem.element, hignition, hdoor,
      hbattery, hfuel, hword, hodometer]

theorem Rec.Valid.rawPairs_eq {rec : Rec} (h : rec.Valid) (extended : Bool) :
    (rec.io extended).elements.map rawPair = rec.rawPairs extended := by
  rw [Rec.rawPairs, ← h.numbers_eq extended, Rec.elements_eq]
  rcases extended with _ | _ <;>
    simp [number, oneByte, twoByte, fourByte, rawPair, GroupKind.rawValue, IOElem.element]

/-- **What a record reports is what is decoded.** -/
theorem Rec.Valid.decode_sent {rec : Rec} (h : rec.Valid) (hplaced : rec.Placed) (extended : Bool)
    (deviceID : Int) :
    (rec.sent extended).toAVLRecord.decode deviceID = rec.position extended deviceID := by
  have hraw : insertAll ∅ (rec.rawPairs extended) ≠ ∅ := by
    intro hempty
    have hmem : toString 1 ∈ (rec.rawPairs extended).map Prod.fst := by
      simp [Rec.rawPairs, Rec.numbers]
    obtain ⟨value, hvalue⟩ := lookup_insertAll_of_mem hmem (∅ : RawMap)
    rw [hempty, Finmap.lookup_empty] at hvalue
    cases hvalue
  have htemp : int16 (rec.tempC10 % 65536) = rec.tempC10 := by
    have hrange := h.tempC10
    unfold int16 signed
    rw [Int.bmod_def]
    omega
  have hio : (rec.io extended).decode ⟨rec.gps.position deviceID, ∅⟩ =
      ⟨rec.numbers.foldl (fun pos n => applyIOValue pos n.1 n.2) (rec.gps.position deviceID),
        insertAll ∅ (rec.rawPairs extended)⟩ := by
    rw [IOSection.decode_eq_storeAll, ← h.rawPairs_eq extended, ← h.numbers_eq extended]
    exact congrArg₂ IOState.mk (storeAll_pos _ _) (storeAll_raw _ _)
  show ((rec.io extended).decode ⟨rec.gps.position deviceID, ∅⟩).position = _
  rw [hio, IOState.position, if_neg hraw, h.gps_position hplaced]
  by_cases hvoltage : rec.vehicleMv % 65536 = 0
  · simp [Rec.numbers, applyIOValue, ioACC, ioIgnition, ioInput2, ioGSM, ioVoltage,
      ioExternalVoltage, ioBatteryVoltage, ioTemperature, ioOdometer, ioRFID, ioFuelLevel, htemp,
      Rec.position, Position.zero, hvoltage]
  · have hrat : ((rec.vehicleMv % 65536 : Int) : ℚ) ≠ 0 := by exact_mod_cast hvoltage
    simp [Rec.numbers, applyIOValue, ioACC, ioIgnition, ioInput2, ioGSM, ioVoltage,
      ioExternalVoltage, ioBatteryVoltage, ioTemperature, ioOdometer, ioRFID, ioFuelLevel, htemp,
      Rec.position, Position.zero, hvoltage, hrat]

/-! ### What cannot be written -/

theorem writeInt_eq_some {width : Nat} {value : Int} {bytes : List UInt8}
    (h : writeInt width value = some bytes) :
    -(256 ^ width / 2) ≤ value ∧ value < 256 ^ width / 2 := by
  unfold writeInt at h
  by_contra hout
  rw [if_neg hout] at h
  cases h

/-- The GPS part of a record that does not fit its fields is not written. -/
theorem placed_of_buildGpsPart {rec : Rec} {bytes : List UInt8}
    (h : buildGpsPart rec = some bytes) : rec.Placed := by
  simp only [buildGpsPart, Option.bind_eq_bind, Option.bind_eq_some_iff] at h
  obtain ⟨time, htime, priority, -, lng, hlng, lat, hlat, -⟩ := h
  exact ⟨by simpa using writeInt_eq_some hlng, by simpa using writeInt_eq_some hlat,
    by simpa using writeInt_eq_some htime⟩

theorem placed_of_buildRecord {rec : Rec} {bytes : List UInt8}
    (h : buildRecord opts rec = some bytes) : rec.Placed := by
  obtain ⟨gps, hgps, -⟩ := Option.bind_eq_some_iff.mp h
  exact placed_of_buildGpsPart hgps

end RudraNetra.Simulator
