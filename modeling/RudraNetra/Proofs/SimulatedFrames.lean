/-
What the simulator reports is what the server reads.

The timer sends a frame of records at a time.  Whichever way their bytes are cut, the server takes
the frames in order, finds their checksums right or absent, and gets the positions that the
records report (`reported_of_sendFrames`).
-/
import RudraNetra.Ingest.Connection
import RudraNetra.Proofs.Checksum
import RudraNetra.Proofs.SimulatedRecords
import RudraNetra.Proofs.Uploads

namespace RudraNetra.Simulator

open Wire Go

variable {opts : Options} {env : Env}

/-! ### Frames -/

theorem Rec.encode_length (rec : Rec) (extended : Bool) :
    (rec.sent extended).toAVLRecord.encode.length = if extended then 77 else 54 := by
  cases extended
  · rw [Rec.sent_encode_false]
    simp [Group.encode, fixedGroup, oneByte, twoByte, fourByte, eightByte, Element.encode,
      GroupKind.header, IOElem.element]
  · rw [Rec.sent_encode_true]
    simp [Group.encode, fixedGroup, oneByte, twoByte, fourByte, eightByte, Element.encode,
      GroupKind.header, IOElem.element, Rec.xGroup]

variable (opts) in
/-- The checksum field of a frame. -/
def crcField (data : List UInt8) : List UInt8 :=
  if opts.useCrc then littleEndian (crc16 data) ++ [0, 0] else [0, 0, 0, 0]

theorem crcField_length (data : List UInt8) : (crcField opts data).length = frameCRCSize := by
  unfold crcField
  split_ifs
  · simp [frameCRCSize]
  · rfl

theorem crcField_checks (data : List UInt8) (hne : data ≠ []) :
    if opts.useCrc then Frame.crcValid ⟨data, crcField opts data⟩ = true
    else isZeroCRC (crcField opts data) = true := by
  unfold crcField
  split_ifs
  · exact (crcValid_of_carries .little hne).mpr (.inl rfl)
  · rfl

theorem buildFrame_eq {data : List UInt8} (h : data.length < 2 ^ 32) :
    buildFrame opts data = some (Frame.encode ⟨data, crcField opts data⟩) := by
  have hpreamble : writeUInt 4 0 = some preamble := writeUInt_natCast (n := 0) (by norm_num)
  have hlength : writeUInt 4 (data.length : Int) = some (beBytes 4 data.length) :=
    writeUInt_natCast (by omega)
  rw [buildFrame, hpreamble, hlength]
  rfl

variable (opts) in
/-- The payload of the frame for some records. -/
def payload (recs : List Rec) : List UInt8 :=
  avlPayload (codecOf opts.extended) (recs.map fun rec => (rec.sent opts.extended).toAVLRecord)

theorem payload_length (recs : List Rec) :
    (payload opts recs).length = 3 + recs.length * if opts.extended then 77 else 54 := by
  have hrecords : ∀ recs : List Rec, ((recs.map fun rec =>
      (rec.sent opts.extended).toAVLRecord).flatMap AVLRecord.encode).length =
        recs.length * if opts.extended then 77 else 54 := by
    intro recs
    induction recs with
    | nil => rw [List.map_nil, List.flatMap_nil, List.length_nil, List.length_nil, Nat.zero_mul]
    | cons rec rest ih =>
        rw [List.map_cons, List.flatMap_cons, List.length_append, ih, Rec.encode_length,
          List.length_cons, Nat.succ_mul, Nat.add_comm]
  rw [payload, avlPayload, List.length_cons, List.length_cons, List.length_append, hrecords,
    List.length_singleton]
  omega

variable (opts) in
theorem payload_length_le {recs : List Rec} (hcount : recs.length ≤ 255) :
    (payload opts recs).length ≤ frameMaxDataLen := by
  rw [payload_length]
  unfold frameMaxDataLen
  split_ifs <;> omega

theorem payload_eq (recs : List Rec) : avlPayload (codecOf opts.extended)
    ((recs.map (·.sent opts.extended)).map (·.toAVLRecord)) = payload opts recs := by
  rw [List.map_map]
  rfl

variable (opts) in
/-- The frame of some records, as a batch that a device may send. -/
def batch (recs : List Rec) (hcount : recs.length ≤ 255) : SentBatch where
  extended := opts.extended
  records := recs.map (·.sent opts.extended)
  crc := crcField opts (payload opts recs)
  count_le := by rwa [List.length_map]
  size_le := by
    rw [payload_eq]
    exact payload_length_le opts hcount
  crc_length := crcField_length _

theorem batch_payload (recs : List Rec) (hcount : recs.length ≤ 255) :
    (batch opts recs hcount).payload = payload opts recs := payload_eq recs

theorem batch_frame (recs : List Rec) (hcount : recs.length ≤ 255) :
    (batch opts recs hcount).toSentFrame.toFrame =
      ⟨payload opts recs, crcField opts (payload opts recs)⟩ :=
  congrArg (Frame.mk · _) (batch_payload recs hcount)

theorem buildAvlFrame_eq {recs : List Rec} (hvalid : ∀ rec ∈ recs, rec.Valid)
    (hplaced : ∀ rec ∈ recs, rec.Placed) (hcount : recs.length ≤ 255) :
    buildAvlFrame opts recs = some (batch opts recs hcount).toSentFrame.toFrame.encode := by
  have hrecords : recs.mapM (buildRecord opts) =
      some (recs.map fun rec => (rec.sent opts.extended).toAVLRecord.encode) :=
    mapM_eq_some fun rec hrec => (hvalid rec hrec).buildRecord (hplaced rec hrec)
  have hdata : (if opts.extended then 0x8E else 0x08) ::
      UInt8.ofNat (recs.map fun rec => (rec.sent opts.extended).toAVLRecord.encode).length ::
        ((recs.map fun rec => (rec.sent opts.extended).toAVLRecord.encode).flatten ++
          [UInt8.ofNat (recs.map fun rec => (rec.sent opts.extended).toAVLRecord.encode).length]) =
      payload opts recs := by
    rw [payload, avlPayload, List.length_map, List.length_map, List.flatMap_map, List.flatMap_def]
    rfl
  have hlength := payload_length_le opts hcount
  unfold frameMaxDataLen at hlength
  rw [buildAvlFrame, hrecords, Option.bind_eq_bind, Option.bind_some]
  dsimp only
  rw [hdata, buildFrame_eq (by omega), batch_frame]

/-! ### What cannot be written -/

/-- If a list was written, each of its elements was. -/
theorem forall_of_mapM_eq_some {α β : Type} {f : α → Option β} {l : List α} :
    ∀ {bs : List β}, l.mapM f = some bs → ∀ a ∈ l, ∃ b, f a = some b := by
  induction l with
  | nil => exact fun _ a ha => absurd ha List.not_mem_nil
  | cons a rest ih =>
      intro bs h
      rw [List.mapM_cons, Option.bind_eq_bind, Option.bind_eq_some_iff] at h
      obtain ⟨b, hb, h⟩ := h
      rw [Option.bind_eq_bind, Option.bind_eq_some_iff] at h
      obtain ⟨bs', hbs, -⟩ := h
      exact List.forall_mem_cons.mpr ⟨⟨b, hb⟩, ih hbs⟩

theorem placed_of_buildAvlFrame {recs : List Rec} {packet : List UInt8}
    (h : buildAvlFrame opts recs = some packet) : ∀ rec ∈ recs, rec.Placed := by
  obtain ⟨encoded, hencoded, -⟩ := Option.bind_eq_some_iff.mp h
  intro rec hrec
  obtain ⟨bytes, hbytes⟩ := forall_of_mapM_eq_some hencoded rec hrec
  exact placed_of_buildRecord hbytes

/-! ### Frame after frame -/

variable (opts env) in
/-- The records of the frames that are sent at the times. -/
def bursts : List Int → Sim → List (List Rec)
  | [], _ => []
  | base :: rest, sim =>
    (burstRecords opts env base opts.burst 0 sim).1 ::
      bursts rest (burstRecords opts env base opts.burst 0 sim).2

/-- The records of a burst are sent, if they fit. -/
theorem sendFrame_eq (base : Int) {d : Device} (hvalid : d.sim.Valid)
    (hplaced : ∀ rec ∈ (burstRecords opts env base opts.burst 0 d.sim).1, rec.Placed)
    (hcount : (burstRecords opts env base opts.burst 0 d.sim).1.length ≤ 255) :
    ∃ d', sendFrame opts env base d =
        some ((batch opts _ hcount).toSentFrame.toFrame.encode, d') ∧
      d'.sim = (burstRecords opts env base opts.burst 0 d.sim).2 := by
  have hrecs := (burstRecords_valid opts env base opts.burst 0 hvalid).1
  rw [sendFrame]
  dsimp only
  rw [buildAvlFrame_eq hrecs hplaced hcount]
  exact ⟨_, rfl, rfl⟩

theorem placed_of_sendFrame {base : Int} {d d' : Device} {packet : List UInt8}
    (h : sendFrame opts env base d = some (packet, d')) :
    (∀ rec ∈ (burstRecords opts env base opts.burst 0 d.sim).1, rec.Placed) ∧
      d'.sim = (burstRecords opts env base opts.burst 0 d.sim).2 := by
  obtain ⟨sent, hsent, h⟩ := Option.bind_eq_some_iff.mp h
  obtain ⟨-, rfl⟩ := Prod.mk.inj (Option.some.inj h)
  exact ⟨placed_of_buildAvlFrame hsent, rfl⟩

/-- What the server has of a burst: a frame with a checksum that is right, or absent if it is
switched off, and a position for each record. -/
structure Reported (opts : Options) (recs : List Rec) (frame : Frame) : Prop where
  checksum : if opts.useCrc then frame.crcValid = true else isZeroCRC frame.crc = true
  positions : ∀ deviceID, parseFrame frame.payload deviceID =
    .returns (recs.map (·.position opts.extended deviceID)) none

theorem batch_positions {recs : List Rec} (hvalid : ∀ rec ∈ recs, rec.Valid)
    (hplaced : ∀ rec ∈ recs, rec.Placed) {hcount : recs.length ≤ 255} (deviceID : Int) :
    (batch opts recs hcount).positions deviceID =
      recs.map (·.position opts.extended deviceID) := by
  rw [SentBatch.positions, batch, List.map_map]
  refine List.map_congr_left fun rec hrec => ?_
  exact (hvalid rec hrec).decode_sent (hplaced rec hrec) opts.extended deviceID

theorem batch_reported {recs : List Rec} (hvalid : ∀ rec ∈ recs, rec.Valid)
    (hplaced : ∀ rec ∈ recs, rec.Placed) (hcount : recs.length ≤ 255) :
    Reported opts recs (batch opts recs hcount).toSentFrame.toFrame where
  checksum := by
    rw [batch_frame]
    exact crcField_checks _ (List.cons_ne_nil _ _)
  positions := by
    intro deviceID
    rw [← batch_positions hvalid hplaced]
    exact (batch opts recs hcount).parseFrame_payload deviceID

/-- Frame after frame, as long as everything fits. -/
theorem sendFrames_eq (hburst : opts.burst ≤ 255) (times : List Int) : ∀ {d : Device},
    d.sim.Valid → (∀ recs ∈ bursts opts env times d.sim, ∀ rec ∈ recs, rec.Placed) →
      ∃ (frames : List SentFrame) (d' : Device),
        sendFrames opts env times d = some (frames.map (·.toFrame.encode), d') ∧
          List.Forall₂ (fun recs frame => Reported opts recs frame.toFrame)
            (bursts opts env times d.sim) frames := by
  induction times with
  | nil => exact fun {d} _ _ => ⟨[], d, rfl, .nil⟩
  | cons base rest ih =>
      intro d hvalid hplaced
      obtain ⟨hfirst, hrest⟩ := List.forall_mem_cons.mp hplaced
      obtain ⟨hrecs, hnext⟩ := burstRecords_valid opts env base opts.burst 0 hvalid
      have hcount := (burstRecords_length opts env base opts.burst 0 d.sim).trans_le hburst
      obtain ⟨d₁, hsend, hsim⟩ := sendFrame_eq base hvalid hfirst hcount
      rw [← hsim] at hnext hrest
      obtain ⟨frames, d', hsends, hreported⟩ := ih hnext hrest
      refine ⟨_ :: frames, d', ?_, .cons (batch_reported hrecs hfirst hcount) ?_⟩
      · rw [sendFrames, hsend, Option.bind_eq_bind, Option.bind_some]
        dsimp only
        rw [hsends]
        rfl
      · rw [← hsim]
        exact hreported

theorem placed_of_sendFrames (times : List Int) : ∀ {d d' : Device} {packets : List (List UInt8)},
    sendFrames opts env times d = some (packets, d') →
      ∀ recs ∈ bursts opts env times d.sim, ∀ rec ∈ recs, rec.Placed := by
  induction times with
  | nil => exact fun _ recs hrecs => absurd hrecs List.not_mem_nil
  | cons base rest ih =>
      intro d d' packets h
      obtain ⟨⟨packet, d₁⟩, hsend, h⟩ := Option.bind_eq_some_iff.mp h
      obtain ⟨⟨later, d₂⟩, hsends, -⟩ := Option.bind_eq_some_iff.mp h
      obtain ⟨hfirst, hsim⟩ := placed_of_sendFrame hsend
      refine List.forall_mem_cons.mpr ⟨hfirst, ?_⟩
      rw [← hsim]
      exact ih hsends

/-- The server has every burst, in order and nothing else, however the packets are cut. -/
def AllReported (opts : Options) (recs : List (List Rec)) (packets : List (List UInt8)) : Prop :=
  ∀ chunks : List (List UInt8), chunks.flatten = packets.flatten →
    (StreamFramer.new.read chunks).errs = [] ∧ (StreamFramer.new.read chunks).buf = [] ∧
      List.Forall₂ (Reported opts) recs (StreamFramer.new.read chunks).outs

/-- **What the simulator reports is what the server reads.**  The simulator throws exactly if a
coordinate or a time does not fit its field.  Otherwise, however its packets are cut, the server
has the frame of every burst, with the positions of its records. -/
theorem reported_of_sendFrames (opts : Options) (env : Env) (times : List Int) (d : Device)
    (hnew : d.sim = .new) (hburst : opts.burst ≤ 255) :
    match sendFrames opts env times d with
    | none => ∃ recs ∈ bursts opts env times .new, ∃ rec ∈ recs, ¬ rec.Placed
    | some (packets, _) => (∀ recs ∈ bursts opts env times .new, ∀ rec ∈ recs, rec.Placed) ∧
        AllReported opts (bursts opts env times .new) packets := by
  have hvalid : d.sim.Valid := hnew ▸ Sim.new_valid
  rw [← hnew]
  by_cases hplaced : ∀ recs ∈ bursts opts env times d.sim, ∀ rec ∈ recs, rec.Placed
  · obtain ⟨frames, d', hsends, hreported⟩ := sendFrames_eq hburst times hvalid hplaced
    rw [hsends]
    refine ⟨hplaced, fun chunks hchunks => ?_⟩
    have hstream : chunks.flatten = frameStream frames := by
      rw [hchunks, frameStream, List.flatMap_def]
    have hread := follows_frameStream frames hstream
    refine ⟨hread.errs.mpr (dropped_frames frames), hread.buf, ?_⟩
    rwa [hread.outs, taken_frames, List.forall₂_map_right_iff]
  · rcases hsends : sendFrames opts env times d with _ | ⟨packets, d'⟩
    · push Not at hplaced
      exact hplaced
    · exact absurd (placed_of_sendFrames times hsends) hplaced

/-- A vehicle that is parked at every record, with two records to a frame. -/
def parking : Options where
  imei := bytesOf "866907059076488"
  extended := true
  intervalMs := 2500
  burst := 2
  fragment := false
  useCrc := true
  listenCommands := true
  positions := none
  voltageMv := 0
  parkEvery := 1
  parkRecords := 5
  parkIgnition := false
  intervalMs_ge := by decide
  burst_ge := by decide
  parkRecords_ge := by decide

/-- What is drawn is always one half; parked, there is no need of the other functions. -/
def half : Env where
  random := fun _ => 1 / 2
  random_nonneg := fun _ => by norm_num
  random_le := fun _ => by norm_num
  cos := fun _ => 1
  sin := fun _ => 0

/-- Two frames of a parked vehicle. -/
theorem reported_parking :
    match sendFrames parking half [1700000000000, 1700000002500] .new with
    | none => ∃ recs ∈ bursts parking half [1700000000000, 1700000002500] .new,
        ∃ rec ∈ recs, ¬ rec.Placed
    | some (packets, _) =>
      (∀ recs ∈ bursts parking half [1700000000000, 1700000002500] .new,
        ∀ rec ∈ recs, rec.Placed) ∧
        AllReported parking (bursts parking half [1700000000000, 1700000002500] .new) packets :=
  reported_of_sendFrames parking half [1700000000000, 1700000002500] .new rfl (by decide)

end RudraNetra.Simulator
