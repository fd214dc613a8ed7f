/-
The layout of AVL data on the wire.

What the decoders of `Codec/Teltonika.lean` read is described here as data: a record
is its GPS part and an IO section, a section is a header and a sequence of groups,
and a group is a count and so many elements.  A `Layout` fixes the widths of the
header fields and which groups come in which order; the repository has two of them,
and Teltonika's published Codec 8 Extended is a third.

`encode` writes the data as bytes, and `decode` says which position it stands for.
A section may lack groups at its end, because devices omit them; one that does not
is `Complete`.
-/
import RudraNetra.Codec.Teltonika

namespace RudraNetra

open Wire Go

/-! ### IO elements -/

/-- The kind of an IO group: values of one width, or values that carry their length. -/
inductive GroupKind where
  | fixed (width : Nat)
  | x
  deriving DecidableEq

/-- The values a group of the kind can hold. -/
def GroupKind.Holds : GroupKind → List UInt8 → Prop
  | .fixed width, bytes => bytes.length = width
  | .x, bytes => bytes.length < 256 ^ 2

instance (kind : GroupKind) (bytes : List UInt8) : Decidable (kind.Holds bytes) :=
  match kind with
  | .fixed width => inferInstanceAs (Decidable (bytes.length = width))
  | .x => inferInstanceAs (Decidable (bytes.length < 256 ^ 2))

/-- What stands between an element's id and its value. -/
def GroupKind.header : GroupKind → List UInt8 → List UInt8
  | .fixed _, _ => []
  | .x, bytes => beBytes 2 bytes.length

/-- What a value is in the raw map: a number, or hexadecimal text. -/
def GroupKind.rawValue : GroupKind → List UInt8 → RawValue
  | .fixed _, bytes => .num (int64 (beNat bytes))
  | .x, bytes => .hex (hexEncode bytes)

/-- An IO element: its id and the bytes of its value. -/
structure Element where
  id : Nat
  bytes : List UInt8

def Element.Fits (idWidth : Nat) (kind : GroupKind) (e : Element) : Prop :=
  e.id < 256 ^ idWidth ∧ kind.Holds e.bytes

instance (idWidth : Nat) (kind : GroupKind) (e : Element) : Decidable (e.Fits idWidth kind) :=
  inferInstanceAs (Decidable (_ ∧ _))

def Element.encode (idWidth : Nat) (kind : GroupKind) (e : Element) : List UInt8 :=
  beBytes idWidth e.id ++ (kind.header e.bytes ++ e.bytes)

/-- The raw map gains the element, and a known number is mapped onto the position. -/
def Element.store (kind : GroupKind) (st : IOState) (e : Element) : IOState where
  pos :=
    match kind with
    | .fixed _ => applyIOValue st.pos e.id (int64 (beNat e.bytes))
    | .x => st.pos
  raw := st.raw.insert (toString e.id) (kind.rawValue e.bytes)

/-- A group: a count, and so many elements of one kind. -/
structure Group (idWidth : Nat) where
  kind : GroupKind
  elements : List Element
  count_lt : elements.length < 256 ^ idWidth
  fits : ∀ e ∈ elements, e.Fits idWidth kind

def Group.encode {idWidth : Nat} (g : Group idWidth) : List UInt8 :=
  beBytes idWidth g.elements.length ++ g.elements.flatMap (Element.encode idWidth g.kind)

def Group.store {idWidth : Nat} (st : IOState) (g : Group idWidth) : IOState :=
  g.elements.foldl (Element.store g.kind) st

/-! ### IO sections -/

/-- The widths of the header fields, and the groups in wire order. -/
structure Layout where
  eventWidth : Nat
  idWidth : Nat
  kinds : List GroupKind

/-- Codec 8. -/
def codec8Layout : Layout := ⟨1, 1, groupWidths.map .fixed⟩

/-- Codec 8 Extended as the repository lays it out: the event id is one byte. -/
def codec8ELayout : Layout := ⟨1, 2, groupWidths.map .fixed ++ [.x]⟩

/-- Codec 8 Extended as Teltonika publishes it: the event id is two bytes. -/
def publishedLayout : Layout := ⟨2, 2, groupWidths.map .fixed ++ [.x]⟩

/-- The layout that is decoded. -/
def layoutOf (extended : Bool) : Layout := if extended then codec8ELayout else codec8Layout

variable {layout : Layout}

/-- An IO section: event id, total count, and the groups that are there. -/
structure IOSection (layout : Layout) where
  event : Nat
  total : Nat
  groups : List (Group layout.idWidth)
  event_lt : event < 256 ^ layout.eventWidth
  total_lt : total < 256 ^ layout.idWidth
  in_order : groups.map (·.kind) <+: layout.kinds

/-- No group is missing. -/
def IOSection.Complete (io : IOSection layout) : Prop := io.groups.map (·.kind) = layout.kinds

/-- The elements of all groups, each with its kind. -/
def IOSection.elements (io : IOSection layout) : List (GroupKind × Element) :=
  io.groups.flatMap fun g => g.elements.map (g.kind, ·)

def IOSection.encode (io : IOSection layout) : List UInt8 :=
  beBytes layout.eventWidth io.event ++
    (beBytes layout.idWidth io.total ++ io.groups.flatMap Group.encode)

def IOSection.decode (io : IOSection layout) (st : IOState) : IOState :=
  io.groups.foldl Group.store st

/-! ### Records -/

/-- The 24 bytes every record starts with. -/
structure GPSPart where
  timestamp : UInt64
  priority : UInt8
  longitude : Int32
  latitude : Int32
  altitude : UInt16
  heading : UInt16
  satellites : UInt8
  speed : UInt16

def GPSPart.encode (g : GPSPart) : List UInt8 :=
  beBytes 8 g.timestamp.toNat ++ (beBytes 1 g.priority.toNat ++
    (beBytes 4 g.longitude.toUInt32.toNat ++ (beBytes 4 g.latitude.toUInt32.toNat ++
      (beBytes 2 g.altitude.toNat ++ (beBytes 2 g.heading.toNat ++
        (beBytes 1 g.satellites.toNat ++ beBytes 2 g.speed.toNat))))))

@[simp] theorem GPSPart.encode_length (g : GPSPart) : g.encode.length = 24 := by
  simp [GPSPart.encode]

/-- The position before the IO elements are mapped onto it. -/
def GPSPart.position (g : GPSPart) (deviceID : Int) : Position :=
  { Position.zero deviceID with
    time := int64 g.timestamp.toNat
    longitude := (g.longitude.toInt : ℚ) / 10 ^ 7
    latitude := (g.latitude.toInt : ℚ) / 10 ^ 7
    altitude := (g.altitude.toNat : ℚ)
    heading := (g.heading.toNat : ℚ)
    satellites := g.satellites.toNat
    speed := (g.speed.toNat : ℚ) }

/-- An AVL record. -/
structure AVLRecord (layout : Layout) where
  gps : GPSPart
  io : IOSection layout

def AVLRecord.encode (a : AVLRecord layout) : List UInt8 := a.gps.encode ++ a.io.encode

/-- The position with its raw data, which is absent if the raw map is empty. -/
def IOState.position (st : IOState) : Position :=
  if st.raw = ∅ then st.pos else { st.pos with rawData := some st.raw }

/-- The position a record stands for. -/
def AVLRecord.decode (a : AVLRecord layout) (deviceID : Int) : Position :=
  (a.io.decode ⟨a.gps.position deviceID, ∅⟩).position

/-- A record as an encoder writes it: all groups are there, the total is the number of
elements as far as its field holds it, and no id comes twice. -/
structure SentRecord (layout : Layout) extends AVLRecord layout where
  complete : io.Complete
  total_eq : io.total = io.elements.length % 256 ^ layout.idWidth
  distinct : (io.elements.map (·.2.id)).Nodup

/-! ### Payloads -/

/-- The codec id of a layout that is decoded. -/
def codecOf (extended : Bool) : UInt8 := if extended then codec8E else codec8

/-- A frame payload: codec id, record count, the records, and the count again. -/
def avlPayload (codecID : UInt8) (records : List (AVLRecord layout)) : List UInt8 :=
  codecID :: UInt8.ofNat records.length ::
    (records.flatMap AVLRecord.encode ++ [UInt8.ofNat records.length])

end RudraNetra
