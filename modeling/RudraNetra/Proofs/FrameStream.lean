/-
What a stream of frames gives back.

`SentFrame` is a frame a device may send: a payload of one byte to 1 MiB that
starts with a codec id, and any four checksum bytes.  A stream of such frames,
however it is cut, gives back exactly these frames without an error.  A payload
may hold anything, zero runs included, because the framer steps over it by its
length.

Garbage in front of the frames is dropped and the first frame is found at its own
preamble, unless the garbage ends in zero bytes.  Then the first four zero bytes
start before the frame, and what is read as its length is the real length without
its low bytes.  Most such readings are thrown away one byte at a time.  The ones
that are not are `Shadowed`: a shortened length that is not zero, with a codec id
in the first byte it lost.
-/
import RudraNetra.Proofs.Framing

namespace RudraNetra

open Wire

/-- A frame a device may send. -/
structure SentFrame extends Frame where
  payload_pos : 0 < payload.length
  payload_le : payload.length ≤ frameMaxDataLen
  known : knownCodec (payload.headD 0) = true
  crc_length : crc.length = frameCRCSize

/-- The frame on the wire. -/
def Frame.encode (f : Frame) : List UInt8 :=
  preamble ++ (beBytes frameLengthSize f.payload.length ++ (f.payload ++ f.crc))

/-- Frames one behind the other. -/
def frameStream (frames : List SentFrame) : List UInt8 :=
  frames.flatMap (·.toFrame.encode)

@[simp] theorem frameStream_nil : frameStream [] = [] := rfl

@[simp] theorem frameStream_cons (f : SentFrame) (rest : List SentFrame) :
    frameStream (f :: rest) = f.toFrame.encode ++ frameStream rest := rfl

/-! ### Frames behind zero bytes

`k` zero bytes in front of a frame, `k ≤ 3`, shift the length field by `k` bytes:
its first `k` bytes are zeros of the preamble, and its last `k` bytes are pushed
out into the payload.  `k = 0` is the frame itself.
-/

/-- A frame with `k` zero bytes in front of it and other bytes behind it. -/
def shifted (k : Nat) (f : SentFrame) (rest : List UInt8) : List UInt8 :=
  List.replicate k 0 ++ (f.toFrame.encode ++ rest)

theorem shifted_length (k : Nat) (f : SentFrame) (rest : List UInt8) :
    (shifted k f rest).length = k + (12 + f.payload.length + rest.length) := by
  simp only [shifted, Frame.encode, List.length_append, List.length_replicate, preamble_length,
    beBytes_length, f.crc_length, frameLengthSize, frameCRCSize]
  omega

theorem shifted_starts (k : Nat) (f : SentFrame) (rest : List UInt8) :
    preamble <+: shifted k f rest := by
  have hsplit : List.replicate k (0 : UInt8) ++ preamble = preamble ++ List.replicate k 0 := by
    unfold preamble
    rw [List.replicate_append_replicate, List.replicate_append_replicate, Nat.add_comm]
  unfold shifted Frame.encode
  rw [List.append_assoc, ← List.append_assoc, hsplit, List.append_assoc]
  exact List.prefix_append _ _

/-- What follows the four bytes read as the preamble. -/
theorem shifted_drop_four (k : Nat) (f : SentFrame) (rest : List UInt8) :
    (shifted k f rest).drop 4 =
      List.replicate k 0 ++ (beBytes 4 f.payload.length ++ (f.payload ++ f.crc ++ rest)) := by
  have hsplit : List.replicate k (0 : UInt8) ++ preamble = preamble ++ List.replicate k 0 := by
    unfold preamble
    rw [List.replicate_append_replicate, List.replicate_append_replicate, Nat.add_comm]
  unfold shifted Frame.encode frameLengthSize
  rw [List.append_assoc, ← List.append_assoc, hsplit, List.append_assoc,
    ← preamble_length, List.drop_left]
  simp [List.append_assoc]

/-- The length that is read has lost its low `k` bytes. -/
theorem dataLenOf_shifted {k : Nat} (hk : k ≤ 3) (f : SentFrame) (rest : List UInt8) :
    dataLenOf (shifted k f rest) = f.payload.length / 256 ^ k := by
  have htake : (List.replicate k (0 : UInt8) ++
      (beBytes 4 f.payload.length ++ (f.payload ++ f.crc ++ rest))).take 4 =
      List.replicate k 0 ++ beBytes (4 - k) (f.payload.length / 256 ^ k) := by
    rw [List.take_append, List.take_of_length_le (by simp; omega), List.length_replicate,
      List.take_append_of_le_length (by simp), beBytes_take _ (by omega),
      show 4 - (4 - k) = k by omega]
  have hle := f.payload_le
  unfold frameMaxDataLen at hle
  unfold dataLenOf framePreambleSize frameLengthSize
  rw [shifted_drop_four, htake, beNat_replicate_append]
  -- a length of at most `2 ^ 20` fits the bytes that are left of it
  refine beNat_beBytes_of_lt ?_
  rw [Nat.div_lt_iff_lt_mul (Nat.pow_pos (by omega)), ← Nat.pow_add,
    show 4 - k + k = 4 by omega]
  omega

/-- The byte read as the codec id is the first one the length lost. -/
theorem headD_shifted {k : Nat} (hk : k + 1 ≤ 3) (f : SentFrame) (rest : List UInt8)
    (hpos : 0 < dataLenOf (shifted (k + 1) f rest)) :
    (frameOf (shifted (k + 1) f rest)).payload.headD 0 =
      UInt8.ofNat (f.payload.length / 256 ^ k) := by
  have hdrop : (shifted (k + 1) f rest).drop 8 =
      beBytes (k + 1) f.payload.length ++ (f.payload ++ f.crc ++ rest) := by
    rw [show 8 = 4 + 4 from rfl, ← List.drop_drop, shifted_drop_four, List.drop_append,
      List.drop_of_length_le (by simp; omega), List.nil_append, List.length_replicate,
      List.drop_append_of_le_length (by simp; omega), beBytes_drop _ (by omega),
      show 4 - (4 - (k + 1)) = k + 1 by omega]
  obtain ⟨n, hn⟩ := Nat.exists_eq_succ_of_ne_zero (Nat.pos_iff_ne_zero.mp hpos)
  unfold frameOf framePreambleSize frameLengthSize
  simp only [hdrop, hn, beBytes, List.cons_append, List.take_succ_cons, List.headD_cons]

theorem goodLength_shifted {k : Nat} (hk : k ≤ 3) (f : SentFrame) (rest : List UInt8)
    (hpos : 0 < f.payload.length / 256 ^ k) : GoodLength (shifted k f rest) := by
  refine ⟨?_, ?_, ?_⟩
  · rw [shifted_length]
    omega
  · rw [dataLenOf_shifted hk]
    exact hpos
  · rw [dataLenOf_shifted hk]
    exact Nat.le_trans (Nat.div_le_self _ _) f.payload_le

theorem totalOf_shifted_le {k : Nat} (hk : k ≤ 3) (f : SentFrame) (rest : List UInt8) :
    totalOf (shifted k f rest) ≤ (shifted k f rest).length := by
  have := Nat.div_le_self f.payload.length (256 ^ k)
  unfold totalOf framePreambleSize frameLengthSize frameCRCSize
  rw [dataLenOf_shifted hk, shifted_length]
  omega

/-- A frame at the front of the buffer is taken off. -/
theorem look_encode (f : SentFrame) (rest : List UInt8) :
    look (f.toFrame.encode ++ rest) = .emit f.toFrame rest := by
  have hzero : f.toFrame.encode ++ rest = shifted 0 f rest := rfl
  have hlen : dataLenOf (shifted 0 f rest) = f.payload.length := by
    rw [dataLenOf_shifted (by omega)]
    simp
  have hdrop : (shifted 0 f rest).drop (4 + 4) = f.payload ++ (f.crc ++ rest) := by
    rw [← List.drop_drop, shifted_drop_four, List.replicate_zero, List.nil_append,
      List.drop_left' (beBytes_length 4 f.payload.length), List.append_assoc]
  have hframe : frameOf (shifted 0 f rest) = f.toFrame := by
    unfold frameOf framePreambleSize frameLengthSize
    rw [hlen, ← List.drop_drop (i := f.payload.length), hdrop, List.take_left, List.drop_left,
      List.take_left' f.crc_length]
  have hrest : (shifted 0 f rest).drop (totalOf (shifted 0 f rest)) = rest := by
    unfold totalOf framePreambleSize frameLengthSize
    rw [hlen, ← List.drop_drop (i := frameCRCSize), ← List.drop_drop (i := f.payload.length), hdrop,
      List.drop_left, List.drop_left' f.crc_length]
  have hgood : GoodLength (shifted 0 f rest) :=
    goodLength_shifted (by omega) f rest (by simpa using f.payload_pos)
  rw [hzero, look_aligned (shifted_starts 0 f rest),
    aligned_frame hgood (totalOf_shifted_le (by omega) f rest) (by rw [hframe]; exact f.known),
    hframe, hrest]

/-- A stream of frames is taken apart into its frames and nothing is left. -/
theorem scans_frameStream (frames : List SentFrame) :
    framer.Scans (frameStream frames) (frames.map (.inr ·.toFrame)) [] := by
  induction frames with
  | nil => exact Scan.Scanner.Scans.wait look_nil
  | cons f rest ih => exact Scan.Scanner.Scans.emit (look_encode f (frameStream rest)) ih

theorem taken_frames (frames : List SentFrame) :
    Scan.Scanner.taken (frames.map fun f => (.inr f.toFrame : FrameError ⊕ Frame)) =
      frames.map (·.toFrame) := by
  induction frames with
  | nil => rfl
  | cons f rest ih => simpa using ih

theorem dropped_frames (frames : List SentFrame) :
    Scan.Scanner.dropped (frames.map fun f => (.inr f.toFrame : FrameError ⊕ Frame)) = [] := by
  induction frames with
  | nil => rfl
  | cons f rest ih => simpa using ih

/-- However the stream is cut, reading it follows its frames. -/
theorem follows_frameStream (frames : List SentFrame) {chunks : List (List UInt8)}
    (h : chunks.flatten = frameStream frames) :
    Scan.Scanner.Follows (StreamFramer.new.read chunks) (frames.map (.inr ·.toFrame)) [] := by
  have hrun : framer.Scans (StreamFramer.new.buf ++ chunks.flatten)
      (frames.map (.inr ·.toFrame)) [] := by
    rw [h]
    exact scans_frameStream frames
  rw [StreamFramer.read_eq_feed]
  exact Scan.Scanner.feed_follows framer_stable chunks look_nil hrun

/--
**Framing round trip.**  However a stream of frames is cut into reads, the framer
returns exactly these frames, reports no error, and ends with nothing buffered.
-/
theorem read_frameStream (frames : List SentFrame) (chunks : List (List UInt8))
    (h : chunks.flatten = frameStream frames) :
    (StreamFramer.new.read chunks).outs = frames.map (·.toFrame) ∧
      (StreamFramer.new.read chunks).errs = [] ∧
      (StreamFramer.mk (StreamFramer.new.read chunks).buf).buffered = 0 := by
  have hfeed := follows_frameStream frames h
  exact ⟨hfeed.outs.trans (taken_frames frames), hfeed.errs.mpr (dropped_frames frames),
    congrArg List.length hfeed.buf⟩

/-- A frame of zero records, as devices send to keep a connection open. -/
def keepAlive : SentFrame where
  payload := [0x08, 0, 0]
  crc := [0, 0, 0, 0]
  payload_pos := by decide
  payload_le := by decide
  known := by decide
  crc_length := rfl

/-- Two of them, cut inside the first preamble and inside the second length. -/
theorem read_keepAlives :
    let chunks := [[0, 0, 0], [0, 0, 0, 0, 3, 8, 0, 0, 0, 0, 0, 0, 0, 0, 0, 0, 0, 0], [0, 3, 8, 0, 0,
      0, 0, 0, 0]]
    (StreamFramer.new.read chunks).outs = [keepAlive, keepAlive].map (·.toFrame) ∧
      (StreamFramer.new.read chunks).errs = [] ∧
      (StreamFramer.mk (StreamFramer.new.read chunks).buf).buffered = 0 :=
  read_frameStream [keepAlive, keepAlive] _ (by decide)

/-! ### Garbage in front -/

/-- How many zero bytes a byte string ends in. -/
def trailingZeros (g : List UInt8) : Nat := (g.rtakeWhile (· == 0)).length

theorem trailingZeros_cons (b : UInt8) (bs : List UInt8) :
    trailingZeros (b :: bs) =
      if trailingZeros bs = bs.length ∧ b = 0 then bs.length + 1 else trailingZeros bs := by
  unfold trailingZeros List.rtakeWhile
  rw [List.reverse_cons, List.takeWhile_append, List.length_reverse, List.length_reverse,
    List.length_reverse]
  by_cases hall : (bs.reverse.takeWhile (· == 0)).length = bs.length
  · by_cases hb : b = 0 <;> simp [hall, hb]
  · simp [hall]

theorem trailingZeros_le (g : List UInt8) : trailingZeros g ≤ g.length := by
  unfold trailingZeros List.rtakeWhile
  rw [List.length_reverse]
  exact Nat.le_trans (List.takeWhile_prefix _).length_le (by simp)

/-- A string whose zeros reach its front is nothing but zeros. -/
theorem eq_replicate_of_trailingZeros {g : List UInt8} (h : trailingZeros g = g.length) :
    g = List.replicate g.length 0 := by
  induction g with
  | nil => rfl
  | cons b bs ih =>
      have hle := trailingZeros_le bs
      rw [trailingZeros_cons, List.length_cons] at h
      split at h
      · rename_i hzero
        rw [hzero.2, List.length_cons, List.replicate_succ, ← ih hzero.1]
      · omega

/-- Four zeros at the front of a string are all of it, or a preamble inside it. -/
theorem trailingZeros_le_three {g : List UInt8} (hg : ¬ preamble <:+: g) :
    trailingZeros g ≤ 3 := by
  induction g with
  | nil => simp [trailingZeros]
  | cons b bs ih =>
      rw [trailingZeros_cons]
      split
      · rename_i hzero
        by_contra hc
        refine hg ?_
        have hbs := eq_replicate_of_trailingZeros hzero.1
        rw [hzero.2, hbs, ← List.replicate_succ, show bs.length + 1 = 4 + (bs.length - 3) by omega,
          ← List.replicate_append_replicate]
        exact (List.prefix_append _ _).isInfix
      · exact ih fun hc => hg (hc.trans (List.suffix_cons b bs).isInfix)

/-- Of garbage without a preamble, the framer keeps the zero bytes it ends in. -/
theorem look_garbage {tail : List UInt8} (ht : preamble <+: tail) : ∀ g : List UInt8,
    ¬ preamble <:+: g → look (g ++ tail) = look (List.replicate (trailingZeros g) 0 ++ tail) := by
  intro g
  induction g with
  | nil => intro _; rfl
  | cons b bs ih =>
      intro hg
      by_cases hall : trailingZeros (b :: bs) = (b :: bs).length
      · rw [hall, ← eq_replicate_of_trailingZeros hall]
      · have hz : trailingZeros (b :: bs) = trailingZeros bs := by
          rw [trailingZeros_cons] at hall ⊢
          split
          · rename_i hzero
            rw [if_pos hzero] at hall
            exact absurd rfl hall
          · rfl
        have hlen : 4 ≤ tail.length := by simpa [preamble_length] using ht.length_le
        -- four zeros here would be inside the garbage, or be all of it
        have hp : ¬ preamble <+: b :: (bs ++ tail) := by
          intro hc
          by_cases h4 : 4 ≤ (b :: bs).length
          · exact hg (List.prefix_of_prefix_length_le hc (List.prefix_append (b :: bs) tail)
              h4).isInfix
          · refine hall ?_
            have hzero : b :: bs = List.replicate (b :: bs).length 0 := by
              have hpre : b :: bs <+: preamble :=
                List.prefix_of_prefix_length_le (List.prefix_append (b :: bs) tail) hc
                  (by rw [preamble_length]; omega)
              refine List.eq_replicate_of_mem fun x hx => ?_
              exact List.eq_of_mem_replicate (hpre.subset hx)
            rw [hzero, trailingZeros, List.rtakeWhile, List.reverse_replicate]
            simp
        rw [hz, List.cons_append, look_cons hp (by rw [List.length_append]; omega)]
        exact ih fun hc => hg (hc.trans (List.suffix_cons b bs).isInfix)

/-! ### When a shifted reading is taken for a frame -/

/--
Behind `k` zero bytes, a frame with `len` payload bytes is shadowed if for some shift
`j` of one to `k` bytes its shortened length `len / 256 ^ j` is not zero and the byte
at `256 ^ (j - 1)` of `len` is a codec id.
-/
def Shadowed (k len : Nat) : Prop :=
  ∃ j, j < k ∧ len / 256 ^ (j + 1) ≠ 0 ∧ knownCodec (UInt8.ofNat (len / 256 ^ j)) = true

theorem shadowed_succ (k len : Nat) :
    Shadowed (k + 1) len ↔
      (len / 256 ^ (k + 1) ≠ 0 ∧ knownCodec (UInt8.ofNat (len / 256 ^ k)) = true) ∨
        Shadowed k len := by
  constructor
  · intro ⟨j, hj, hlen, hk⟩
    by_cases h : j = k
    · subst h
      exact Or.inl ⟨hlen, hk⟩
    · exact Or.inr ⟨j, by omega, hlen, hk⟩
  · intro h
    obtain ⟨hlen, hk⟩ | ⟨j, hj, hlen, hk⟩ := h
    · exact ⟨k, by omega, hlen, hk⟩
    · exact ⟨j, by omega, hlen, hk⟩

/-- A shifted reading that is no frame drops one byte. -/
theorem look_shifted_skip {k : Nat} (hk : k + 1 ≤ 3) (f : SentFrame) (rest : List UInt8)
    (h : ¬ (f.payload.length / 256 ^ (k + 1) ≠ 0 ∧
      knownCodec (UInt8.ofNat (f.payload.length / 256 ^ k)) = true)) :
    ∃ err, look (shifted (k + 1) f rest) = .skip err (shifted k f rest) := by
  have hdata := dataLenOf_shifted (k := k + 1) (by omega) f rest
  rw [look_aligned (shifted_starts (k + 1) f rest)]
  by_cases hzero : f.payload.length / 256 ^ (k + 1) = 0
  · refine ⟨_, aligned_badLength ?_ (Or.inl (hdata.trans hzero))⟩
    rw [shifted_length]
    omega
  · have hpos : 0 < f.payload.length / 256 ^ (k + 1) := Nat.pos_of_ne_zero hzero
    refine ⟨_, aligned_unknown (goodLength_shifted (by omega) f rest hpos)
      (totalOf_shifted_le (by omega) f rest) ?_⟩
    rw [headD_shifted (by omega) f rest (by omega)]
    simpa [hzero] using h

/-- One that is a frame is taken, and its payload is shorter than the frame's. -/
theorem look_shifted_emit {k : Nat} (hk : k + 1 ≤ 3) (f : SentFrame) (rest : List UInt8)
    (hlen : f.payload.length / 256 ^ (k + 1) ≠ 0)
    (hknown : knownCodec (UInt8.ofNat (f.payload.length / 256 ^ k)) = true) :
    ∃ frame rest', look (shifted (k + 1) f rest) = .emit frame rest' ∧
      frame.payload.length < f.payload.length := by
  have hdata := dataLenOf_shifted (k := k + 1) (by omega) f rest
  have hpos : 0 < f.payload.length / 256 ^ (k + 1) := Nat.pos_of_ne_zero hlen
  rw [look_aligned (shifted_starts (k + 1) f rest)]
  refine ⟨_, _, aligned_frame (goodLength_shifted (by omega) f rest hpos)
    (totalOf_shifted_le (by omega) f rest) ?_, ?_⟩
  · rw [headD_shifted (by omega) f rest (by omega)]
    exact hknown
  · have hlt : f.payload.length / 256 ^ (k + 1) < f.payload.length :=
      Nat.div_lt_self f.payload_pos (Nat.one_lt_pow (by omega) (by omega))
    have hle : (frameOf (shifted (k + 1) f rest)).payload.length ≤
        dataLenOf (shifted (k + 1) f rest) := by
      unfold frameOf
      exact List.length_take_le _ _
    omega

/-- Behind zero bytes that do not shadow it, a frame is reached by drops alone. -/
theorem scans_shifted {f : SentFrame} {rest fin : List UInt8} {evs : List (FrameError ⊕ Frame)}
    (h : framer.Scans (f.toFrame.encode ++ rest) evs fin) :
    ∀ k, k ≤ 3 → ¬ Shadowed k f.payload.length →
      ∃ errs : List FrameError, framer.Scans (shifted k f rest) (errs.map .inl ++ evs) fin := by
  intro k
  induction k with
  | zero => intro _ _; exact ⟨[], h⟩
  | succ k ih =>
      intro hk hs
      rw [shadowed_succ, not_or] at hs
      obtain ⟨err, hlook⟩ := look_shifted_skip hk f rest hs.1
      obtain ⟨errs, hrun⟩ := ih (by omega) hs.2
      exact ⟨err :: errs, Scan.Scanner.Scans.skip hlook hrun⟩

/-- Behind zero bytes that shadow it, something shorter is taken before it. -/
theorem scans_shadowed (f : SentFrame) (rest : List UInt8) :
    ∀ k, k ≤ 3 → Shadowed k f.payload.length →
      ∃ (errs : List FrameError) (frame : Frame) (evs : List (FrameError ⊕ Frame))
        (fin : List UInt8), framer.Scans (shifted k f rest) (errs.map .inl ++ .inr frame :: evs) fin ∧
          frame.payload.length < f.payload.length := by
  intro k
  induction k with
  | zero => rintro - ⟨j, hj, -⟩; omega
  | succ k ih =>
      intro hk hs
      by_cases hhere : f.payload.length / 256 ^ (k + 1) ≠ 0 ∧
          knownCodec (UInt8.ofNat (f.payload.length / 256 ^ k)) = true
      · obtain ⟨frame, rest', hlook, hlt⟩ := look_shifted_emit hk f rest hhere.1 hhere.2
        obtain ⟨evs, fin, hrun⟩ := framer.scans_exists rest'
        exact ⟨[], frame, evs, fin, Scan.Scanner.Scans.emit hlook hrun, hlt⟩
      · obtain ⟨err, hlook⟩ := look_shifted_skip hk f rest hhere
        obtain ⟨errs, frame, evs, fin, hrun, hlt⟩ :=
          ih (by omega) (((shadowed_succ k _).mp hs).resolve_left hhere)
        exact ⟨err :: errs, frame, evs, fin, Scan.Scanner.Scans.skip hlook hrun, hlt⟩

/-- The run of a buffer depends only on what its first look decides. -/
theorem scans_congr {buf buf' fin : List UInt8} {evs : List (FrameError ⊕ Frame)}
    (h : look buf = look buf') (hrun : framer.Scans buf' evs fin) : framer.Scans buf evs fin := by
  have hstep : framer.step buf = framer.step buf' := h
  cases hrun with
  | wait hs => exact .wait (hstep.trans hs)
  | skip hs t => exact .skip (hstep.trans hs) t
  | emit hs t => exact .emit (hstep.trans hs) t

/-- Garbage alone gives nothing. -/
theorem findPreamble_garbage : ∀ {g : List UInt8}, ¬ preamble <:+: g → findPreamble g = none := by
  intro g
  induction g with
  | nil => intro _; rfl
  | cons b bs ih =>
      intro hg
      rw [findPreamble_later fun hc => hg hc.isInfix,
        ih fun hc => hg (hc.trans (List.suffix_cons b bs).isInfix)]
      rfl

/--
**Garbage in front of frames is dropped exactly when it does not shadow the first
frame.**  For garbage without four zero bytes in a row, the successive calls return the
payloads of the frames and nothing else, if and only if the zero bytes the garbage ends
in do not shadow the first frame.
-/
theorem drain_garbage_iff (g : List UInt8) (frames : List SentFrame) (hg : ¬ preamble <:+: g) :
    ((StreamFramer.new.append (g ++ frameStream frames)).drain.outs.map (·.payload) =
        frames.map (·.payload)) ↔
      ∀ f ∈ frames.head?, ¬ Shadowed (trailingZeros g) f.payload.length := by
  show (framer.drain (g ++ frameStream frames)).outs.map _ = _ ↔ _
  obtain _ | ⟨f, rest⟩ := frames
  · have hwait : framer.step (g ++ frameStream []) = .wait (keepTail g) := by
      show look (g ++ []) = _
      rw [List.append_nil, look, findPreamble_garbage hg]
    have hdrain := Scan.Scanner.drain_follows (Scan.Scanner.Scans.wait hwait)
    rw [hdrain.outs]
    simp
  · have hlook : look (g ++ frameStream (f :: rest)) =
        look (shifted (trailingZeros g) f (frameStream rest)) :=
      look_garbage (shifted_starts 0 f (frameStream rest)) g hg
    have hk := trailingZeros_le_three hg
    simp only [List.head?_cons, Option.mem_def, Option.some.injEq, forall_eq']
    constructor
    · intro hout hs
      obtain ⟨errs, frame, evs, fin, hrun, hlt⟩ := scans_shadowed f (frameStream rest) _ hk hs
      have hdrain := Scan.Scanner.drain_follows (scans_congr hlook hrun)
      rw [hdrain.outs] at hout
      simp only [Scan.Scanner.taken_append, Scan.Scanner.taken_inl, List.nil_append,
        Scan.Scanner.taken_inr_cons, List.map_cons, List.cons.injEq] at hout
      rw [hout.1] at hlt
      omega
    · intro hs
      obtain ⟨errs, hrun⟩ := scans_shifted (scans_frameStream (f :: rest)) _ hk hs
      have hdrain := Scan.Scanner.drain_follows (scans_congr hlook hrun)
      rw [hdrain.outs, Scan.Scanner.taken_append, Scan.Scanner.taken_inl, List.nil_append,
        taken_frames, List.map_map]
      rfl

/-- Three bytes of garbage shadow nothing. -/
theorem drain_garbage_keepAlive :
    ((StreamFramer.new.append ([0x13, 0x37, 0xAB] ++ frameStream [keepAlive])).drain.outs.map
        (·.payload) = [keepAlive].map (·.payload)) ↔
      ∀ f ∈ [keepAlive].head?, ¬ Shadowed (trailingZeros [0x13, 0x37, 0xAB]) f.payload.length :=
  drain_garbage_iff [0x13, 0x37, 0xAB] [keepAlive] (by decide)

/-- A frame of 264 bytes: one zero byte early, its length `0x0108` reads 1 and its codec `0x08`. -/
def shadowedFrame : SentFrame where
  payload := 0x08 :: List.replicate 263 0
  crc := [0, 0, 0, 0]
  payload_pos := by
    rw [List.length_cons, List.length_replicate]
    decide
  payload_le := by
    rw [List.length_cons, List.length_replicate]
    decide
  known := rfl
  crc_length := rfl

/-- Behind a single zero byte that frame is lost, and a frame nobody sent comes instead. -/
theorem drain_shadowedFrame :
    ¬ preamble <:+: [0] ∧
      (StreamFramer.new.append ([0] ++ frameStream [shadowedFrame])).drain.outs.map (·.payload) =
        [[0x08]] ∧
      [shadowedFrame].map (·.payload) ≠ [[0x08]] :=
  ⟨by decide, by decide +kernel, by decide +kernel⟩

end RudraNetra
