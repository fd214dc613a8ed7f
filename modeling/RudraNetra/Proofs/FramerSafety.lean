/-
What the framer does with any bytes.

`Next` drops bytes in four places: a buffer without a preamble but for its last three bytes,
what stands in front of a preamble, and one byte each for a length out of range and for an
unknown codec id.  `dropsLoop` is its loop with these bytes written down, so a call accounts
for every byte of its buffer: dropped, part of the returned frame, or still there
(`next_accounts`).  From this follow where the frames lie in the stream and when a call
reports an error (`framer_sound`).

The loops end because every iteration that goes on shortens the buffer.  They end with a
buffer that waits, which is shorter than the longest frame (`framer_quiescent`).
-/
import RudraNetra.Lib.Placement
import RudraNetra.Proofs.FrameStream

namespace RudraNetra

open Wire Scan

/-! ### What is dropped -/

/-- Bytes that `Next` drops, and where. -/
inductive Discarded where
  | noPreamble (bytes : List UInt8)
  | beforePreamble (bytes : List UInt8)
  | invalidLength (byte : UInt8) (dataLen : Nat)
  | unknownCodec (byte : UInt8) (id : UInt8)

def Discarded.bytes : Discarded → List UInt8
  | .noPreamble bytes => bytes
  | .beforePreamble bytes => bytes
  | .invalidLength byte _ => [byte]
  | .unknownCodec byte _ => [byte]

/-- The error of a resynchronisation. -/
def Discarded.error : Discarded → Option FrameError
  | .noPreamble _ => none
  | .beforePreamble _ => none
  | .invalidLength _ dataLen => some (.invalidLength dataLen)
  | .unknownCodec _ id => some (.unknownCodec id)

/-- The length is out of range, or the codec id is unknown. -/
def Discarded.Justified : Discarded → Prop
  | .noPreamble _ => True
  | .beforePreamble _ => True
  | .invalidLength _ dataLen => dataLen = 0 ∨ dataLen > frameMaxDataLen
  | .unknownCodec _ id => knownCodec id = false

@[simp] theorem Discarded.bytes_beforePreamble (bytes : List UInt8) :
    (Discarded.beforePreamble bytes).bytes = bytes := rfl

@[simp] theorem Discarded.error_beforePreamble (bytes : List UInt8) :
    (Discarded.beforePreamble bytes).error = none := rfl

@[simp] theorem Discarded.justified_beforePreamble (bytes : List UInt8) :
    (Discarded.beforePreamble bytes).Justified := trivial

/-- What an iteration drops of a buffer that starts with a preamble. -/
def alignedDrops (buf : List UInt8) : List Discarded :=
  match aligned buf with
  | .skip (.invalidLength dataLen) _ => [.invalidLength (buf.headD 0) dataLen]
  | .skip (.unknownCodec id) _ => [.unknownCodec (buf.headD 0) id]
  | _ => []

/-- What one iteration of the loop in `Next` drops. -/
def lookDrops (buf : List UInt8) : List Discarded :=
  match findPreamble buf with
  | none => [.noPreamble (buf.take (buf.length - (framePreambleSize - 1)))]
  | some idx => .beforePreamble (buf.take idx) :: alignedDrops (buf.drop idx)

/-- What the loop drops. -/
def dropsLoop : Nat → List UInt8 → List Discarded
  | 0, _ => []
  | fuel + 1, buf =>
    lookDrops buf ++
      match look buf with
      | .skip _ rest => dropsLoop fuel rest
      | _ => []

/-- What a call of `Next` drops. -/
def StreamFramer.drops (f : StreamFramer) : List Discarded := dropsLoop (f.buf.length + 1) f.buf

/-! ### A frame that is taken off -/

/-- The bytes of a frame at the front of the buffer are those of its encoding. -/
theorem encode_frameOf {buf : List UInt8} (hpre : preamble <+: buf) (h : GoodLength buf)
    (hle : totalOf buf ≤ buf.length) : buf = (frameOf buf).encode ++ buf.drop (totalOf buf) := by
  have hlen := h.header
  unfold totalOf framePreambleSize frameLengthSize frameCRCSize at hle
  have hzero : preamble = buf.take 4 := by
    rw [← preamble_length]
    exact List.prefix_iff_eq_take.mp hpre
  have hfield : ((buf.drop 4).take 4).length = 4 := by
    rw [List.length_take, List.length_drop]
    omega
  have hpayload : (frameOf buf).payload.length = dataLenOf buf := by
    simp only [frameOf, framePreambleSize, frameLengthSize, List.length_take, List.length_drop]
    omega
  have hbytes : beBytes frameLengthSize (frameOf buf).payload.length = (buf.drop 4).take 4 := by
    have hnumber := beBytes_beNat ((buf.drop 4).take 4)
    rw [hfield] at hnumber
    rw [hpayload]
    exact hnumber
  rw [Frame.encode, hbytes, hzero]
  unfold frameOf totalOf framePreambleSize frameLengthSize frameCRCSize
  have hcut : ∀ m n, buf.drop m = (buf.drop m).take n ++ buf.drop (m + n) := by
    intro m n
    rw [← List.drop_drop, List.take_append_drop]
  calc buf = buf.take 4 ++ buf.drop 4 := (List.take_append_drop 4 buf).symm
    _ = buf.take 4 ++ ((buf.drop 4).take 4 ++ ((buf.drop 8).take (dataLenOf buf) ++
          ((buf.drop (8 + dataLenOf buf)).take 4 ++ buf.drop (8 + dataLenOf buf + 4)))) := by
        rw [← hcut, ← hcut, ← hcut]
    _ = _ := by simp only [List.append_assoc]

/-- A frame that is taken off is one that a device may send. -/
theorem sentFrame_frameOf {buf : List UInt8} (h : GoodLength buf) (hle : totalOf buf ≤ buf.length)
    (hk : knownCodec ((frameOf buf).payload.headD 0) = true) :
    ∃ sent : SentFrame, sent.toFrame = frameOf buf := by
  have hpos := h.pos
  have hmax := h.le
  unfold totalOf framePreambleSize frameLengthSize frameCRCSize at hle
  have hpayload : (frameOf buf).payload.length = dataLenOf buf := by
    simp only [frameOf, framePreambleSize, frameLengthSize, List.length_take, List.length_drop]
    omega
  refine ⟨⟨frameOf buf, by omega, by omega, hk, ?_⟩, rfl⟩
  simp only [frameOf, framePreambleSize, frameLengthSize, frameCRCSize, List.length_take,
    List.length_drop]
  omega

/-! ### Every byte is accounted for -/

/-- The errors of resynchronisations, in order. -/
def resyncErrors (drops : List Discarded) : List FrameError := drops.filterMap Discarded.error

/-- The dropped bytes, in order. -/
def discardedBytes (drops : List Discarded) : List UInt8 := drops.flatMap Discarded.bytes

/-- One iteration at a preamble. -/
theorem aligned_accounts {buf : List UInt8} (hpre : preamble <+: buf) :
    (aligned buf = .wait buf ∧ alignedDrops buf = []) ∨
      (∃ err d, aligned buf = .skip err (buf.drop 1) ∧ alignedDrops buf = [d] ∧
        d.bytes ++ buf.drop 1 = buf ∧ d.error = some err ∧ d.Justified) ∨
      ∃ (sent : SentFrame) (rest : List UInt8), aligned buf = .emit sent.toFrame rest ∧
        alignedDrops buf = [] ∧ buf = sent.toFrame.encode ++ rest := by
  have hfirst : [buf.headD 0] ++ buf.drop 1 = buf := by
    obtain ⟨rest, rfl⟩ := hpre
    rfl
  rcases aligned_cases buf with hw | ⟨-, hbad, hs⟩ | ⟨-, -, hk, hs⟩ | ⟨hg, hle, hk, he⟩
  · exact .inl ⟨hw, by rw [alignedDrops, hw]⟩
  · exact .inr (.inl ⟨_, .invalidLength _ _, hs, by rw [alignedDrops, hs], hfirst, rfl, hbad⟩)
  · exact .inr (.inl ⟨_, .unknownCodec _ _, hs, by rw [alignedDrops, hs], hfirst, rfl, hk⟩)
  · obtain ⟨sent, hsent⟩ := sentFrame_frameOf hg hle hk
    refine .inr (.inr ⟨sent, buf.drop (totalOf buf), ?_, by rw [alignedDrops, he], ?_⟩)
    · rw [hsent, he]
    · rw [hsent]
      exact encode_frameOf hpre hg hle

/-- One iteration: what it drops is the front of the buffer, and of an error it has one. -/
theorem look_accounts (buf : List UInt8) :
    (∀ d ∈ lookDrops buf, d.Justified) ∧
      ((∃ rest, look buf = .wait rest ∧ buf = discardedBytes (lookDrops buf) ++ rest ∧
          resyncErrors (lookDrops buf) = []) ∨
        (∃ err rest, look buf = .skip err rest ∧ buf = discardedBytes (lookDrops buf) ++ rest ∧
          resyncErrors (lookDrops buf) = [err]) ∨
        ∃ (sent : SentFrame) (rest : List UInt8), look buf = .emit sent.toFrame rest ∧
          buf = discardedBytes (lookDrops buf) ++ (sent.toFrame.encode ++ rest) ∧
          resyncErrors (lookDrops buf) = []) := by
  rcases look_cases buf with ⟨hfind, hl⟩ | ⟨idx, hfind, hl⟩
  · have hdrops : lookDrops buf = [.noPreamble (buf.take (buf.length - 3))] := by
      rw [lookDrops, hfind]
      rfl
    refine ⟨by simp [hdrops, Discarded.Justified], .inl ⟨keepTail buf, hl, ?_, by rw [hdrops]; rfl⟩⟩
    have hkeep : keepTail buf = buf.drop (buf.length - 3) := by
      unfold keepTail framePreambleSize
      split_ifs with hlong
      · rfl
      · rw [show buf.length - 3 = 0 by omega, List.drop_zero]
    simp [hdrops, hkeep, discardedBytes, Discarded.bytes]
  · have hdrops : lookDrops buf =
        .beforePreamble (buf.take idx) :: alignedDrops (buf.drop idx) := by
      rw [lookDrops, hfind]
    have hsplit := (List.take_append_drop idx buf).symm
    rw [hdrops, hl]
    rcases aligned_accounts (findPreamble_spec hfind).1 with ⟨hw, hd⟩ |
      ⟨err, d, hs, hd, hbytes, herr, hwhy⟩ | ⟨sent, rest, he, hd, hframe⟩
    · rw [hd]
      exact ⟨by simp, .inl ⟨_, hw, by simp [discardedBytes], rfl⟩⟩
    · rw [hd]
      refine ⟨by simp [hwhy], .inr (.inl ⟨err, _, hs, ?_, ?_⟩)⟩
      · rw [← hbytes] at hsplit
        simpa [discardedBytes] using hsplit
      · simp [resyncErrors, List.filterMap_cons, herr]
    · rw [hd]
      refine ⟨by simp, .inr (.inr ⟨sent, rest, he, ?_, rfl⟩)⟩
      rw [hframe] at hsplit
      simpa [discardedBytes] using hsplit

/-- A call's loop: dropped bytes, the frame if there is one, and what is left are the buffer;
the error is that of the last resynchronisation. -/
theorem nextLoop_accounts : ∀ (fuel : Nat) (buf : List UInt8) (last : Option FrameError),
    buf.length < fuel →
      (∀ d ∈ dropsLoop fuel buf, d.Justified) ∧
        buf = discardedBytes (dropsLoop fuel buf) ++ ((framer.nextLoop fuel buf last).out.elim []
          Frame.encode ++ (framer.nextLoop fuel buf last).buf) ∧
        (framer.nextLoop fuel buf last).err = (resyncErrors (dropsLoop fuel buf)).getLast?.or last ∧
        ∀ frame ∈ (framer.nextLoop fuel buf last).out,
          ∃ sent : SentFrame, sent.toFrame = frame := by
  intro fuel
  induction fuel with
  | zero => intro buf last hlt; omega
  | succ fuel ih =>
      intro buf last hlt
      obtain ⟨hwhy, hcase⟩ := look_accounts buf
      rcases hcase with ⟨rest, hl, hbuf, herr⟩ | ⟨err, rest, hl, hbuf, herr⟩ |
        ⟨sent, rest, hl, hbuf, herr⟩
      · have hstep : framer.step buf = .wait rest := hl
        simp only [Scanner.nextLoop, dropsLoop, hstep, hl, List.append_nil]
        exact ⟨hwhy, hbuf, by simp [herr], fun frame hframe => absurd hframe (by simp)⟩
      · have hstep : framer.step buf = .skip err rest := hl
        have hshort := framer.skip_lt hstep
        obtain ⟨hwhy', hrest, herr', hsent⟩ := ih rest (some err) (by omega)
        simp only [Scanner.nextLoop, dropsLoop, hstep, hl]
        refine ⟨?_, ?_, ?_, hsent⟩
        · intro d hd
          exact (List.mem_append.mp hd).elim (hwhy d) (hwhy' d)
        · have hall := hbuf.trans (congrArg (discardedBytes (lookDrops buf) ++ ·) hrest)
          simpa [discardedBytes] using hall
        · rw [herr']
          have hlist : resyncErrors (lookDrops buf ++ dropsLoop fuel rest) =
              err :: resyncErrors (dropsLoop fuel rest) := by
            unfold resyncErrors at herr ⊢
            rw [List.filterMap_append, herr, List.singleton_append]
          rw [hlist, List.getLast?_cons]
          cases (resyncErrors (dropsLoop fuel rest)).getLast? <;> rfl
      · have hstep : framer.step buf = .emit sent.toFrame rest := hl
        simp only [Scanner.nextLoop, dropsLoop, hstep, hl, List.append_nil]
        exact ⟨hwhy, hbuf, by simp [herr], fun frame hframe => ⟨sent, by simpa using hframe⟩⟩

/-- **A call accounts for every byte of its buffer.** -/
theorem next_accounts (f : StreamFramer) :
    (∀ d ∈ f.drops, d.Justified) ∧
      f.buf = discardedBytes f.drops ++ (f.next.out.elim [] Frame.encode ++ f.next.buf) ∧
      f.next.err = (resyncErrors f.drops).getLast? ∧
      ∀ frame ∈ f.next.out, ∃ sent : SentFrame, sent.toFrame = frame := by
  obtain ⟨hwhy, hbuf, herr, hsent⟩ := nextLoop_accounts (f.buf.length + 1) f.buf none (by omega)
  exact ⟨hwhy, hbuf, by rw [Option.or_none] at herr; exact herr, hsent⟩

/-! ### Where the frames lie -/

/-- Every iteration takes off a front of the buffer, and a frame is the end of it. -/
theorem framer_lays : framer.Lays Frame.encode where
  wait := by
    intro buf rest h
    have h : look buf = .wait rest := h
    obtain ⟨-, ⟨rest', hl, hbuf, -⟩ | ⟨err, rest', hl, -⟩ | ⟨sent, rest', hl, -⟩⟩ :=
      look_accounts buf
    · cases hl.symm.trans h
      exact ⟨_, hbuf.symm⟩
    · exact nomatch hl.symm.trans h
    · exact nomatch hl.symm.trans h
  skip := by
    intro buf err rest h
    have h : look buf = .skip err rest := h
    obtain ⟨-, ⟨rest', hl, -⟩ | ⟨err', rest', hl, hbuf, -⟩ | ⟨sent, rest', hl, -⟩⟩ :=
      look_accounts buf
    · exact nomatch hl.symm.trans h
    · cases hl.symm.trans h
      exact ⟨_, hbuf.symm⟩
    · exact nomatch hl.symm.trans h
  emit := by
    intro buf frame rest h
    have h : look buf = .emit frame rest := h
    obtain ⟨-, ⟨rest', hl, -⟩ | ⟨err, rest', hl, -⟩ | ⟨sent, rest', hl, hbuf, -⟩⟩ :=
      look_accounts buf
    · exact nomatch hl.symm.trans h
    · exact nomatch hl.symm.trans h
    · cases hl.symm.trans h
      exact ⟨_, hbuf.symm⟩

/-- The frames that were returned are frames a device may send. -/
theorem run_sent (calls : List (Act UInt8)) :
    ∀ frame ∈ (History.run framer calls).outs, ∃ sent : SentFrame, sent.toFrame = frame := by
  induction calls using List.reverseRecOn with
  | nil => exact nofun
  | append_singleton calls call ih =>
      rw [History.run, List.foldl_append]
      cases call with
      | append data => exact ih
      | next =>
          intro frame hframe
          rcases List.mem_append.mp hframe with hold | hnew
          · exact ih frame hold
          · exact (next_accounts ⟨(History.run framer calls).buf⟩).2.2.2 frame
              (Option.mem_toList.mp hnew)

/--
**Framer soundness.**  After any calls of `Append` and `Next`, the returned frames are frames a
device may send, they lie in the bytes appended so far one behind the other, and the buffer is
what lies behind them, up to the end.  A call accounts for every byte of its buffer, and it
reports an error exactly if it dropped a byte for a length out of range or an unknown codec id.
The read loop of a connection makes such calls.
-/
theorem framer_sound (calls : List (Act UInt8)) (chunks : List (List UInt8)) :
    (∃ spots, Placed Frame.encode (History.run framer calls) spots) ∧
      (∀ frame ∈ (History.run framer calls).outs, ∃ sent : SentFrame, sent.toFrame = frame) ∧
      (let f : StreamFramer := ⟨(History.run framer calls).buf⟩
      (∀ d ∈ f.drops, d.Justified) ∧
        f.buf = discardedBytes f.drops ++ (f.next.out.elim [] Frame.encode ++ f.next.buf) ∧
        (f.next.err ≠ none ↔ ∃ d ∈ f.drops, d.error ≠ none)) ∧
      ∃ spots, Placed Frame.encode ⟨chunks.flatten, (StreamFramer.new.read chunks).outs,
        (StreamFramer.new.read chunks).buf⟩ spots := by
  refine ⟨run_placed framer_lays calls, run_sent calls, ?_, ?_⟩
  · obtain ⟨hwhy, hbuf, herr, -⟩ := next_accounts ⟨(History.run framer calls).buf⟩
    refine ⟨hwhy, hbuf, ?_⟩
    rw [herr, ne_eq, List.getLast?_eq_none_iff, resyncErrors, List.filterMap_eq_nil_iff]
    simp
  · rw [StreamFramer.read_eq_feed]
    exact feed_placed framer_lays chunks

/-! ### Where the loops end -/

/-- The longest frame that a length in range announces. -/
def maxFrameLen : Nat := framePreambleSize + frameLengthSize + frameMaxDataLen + frameCRCSize

/-- A buffer that waits at a preamble is shorter than the longest frame. -/
theorem aligned_wait_lt {buf : List UInt8} (h : aligned buf = .wait buf) :
    buf.length < maxFrameLen := by
  unfold maxFrameLen framePreambleSize frameLengthSize frameMaxDataLen frameCRCSize
  by_cases hshort : buf.length < 8
  · omega
  by_cases hbad : dataLenOf buf = 0 ∨ dataLenOf buf > frameMaxDataLen
  · exact nomatch h.symm.trans (aligned_badLength (by omega) hbad)
  have hgood : GoodLength buf := ⟨by omega, by omega, by omega⟩
  by_cases hlt : buf.length < totalOf buf
  · have hle := hgood.le
    unfold totalOf framePreambleSize frameLengthSize frameCRCSize at hlt
    unfold frameMaxDataLen at hle
    omega
  · -- the whole frame is there, so the look goes on
    rcases hk : knownCodec ((frameOf buf).payload.headD 0) with _ | _
    · exact nomatch h.symm.trans (aligned_unknown hgood (by omega) hk)
    · exact nomatch h.symm.trans (aligned_frame hgood (by omega) hk)

/-- A buffer that waits is shorter than the longest frame. -/
theorem look_wait_lt {buf : List UInt8} (h : look buf = .wait buf) : buf.length < maxFrameLen := by
  rcases look_cases buf with ⟨-, hl⟩ | ⟨idx, -, hl⟩
  · rw [hl, Scan.Step.wait.injEq, keepTail] at h
    have hle : buf.length ≤ 3 := by
      by_contra hc
      rw [if_pos (show buf.length > framePreambleSize - 1 by unfold framePreambleSize; omega)] at h
      have hlen := congrArg List.length h
      rw [List.length_drop] at hlen
      unfold framePreambleSize at hlen
      omega
    unfold maxFrameLen framePreambleSize
    omega
  · rw [hl] at h
    have hsame := aligned_eq_wait h
    rw [← hsame] at h
    exact aligned_wait_lt h

/-- After a drain the framer waits. -/
theorem drain_waits (f : StreamFramer) : look f.drain.buf = .wait f.drain.buf := by
  obtain ⟨evs, fin, hrun⟩ := framer.scans_exists f.buf
  rw [StreamFramer.drain, (Scanner.drain_follows hrun).buf]
  exact hrun.final framer_stable

/-- So it does after every round of the read loop. -/
theorem read_waits (chunks : List (List UInt8)) : ∀ f : StreamFramer,
    look f.buf = .wait f.buf → look (f.read chunks).buf = .wait (f.read chunks).buf := by
  induction chunks with
  | nil => exact fun f h => h
  | cons chunk rest ih => exact fun f _ => ih _ (drain_waits (f.append chunk))

/--
**`Next` terminates, and so does the loop around it, with a small buffer that stays.**  Both loops
come to an end whatever is in the buffer; then less than the longest frame is buffered, and another
call finds nothing and changes nothing.  However much a connection appends, this holds between
its reads.
-/
theorem framer_quiescent (f : StreamFramer) (chunks : List (List UInt8)) :
    framer.Returns f.buf none f.next ∧ framer.Drains f.buf f.drain ∧
      (StreamFramer.mk f.drain.buf).buffered < 2 ^ 20 + 12 ∧
      (StreamFramer.mk f.drain.buf).next = ⟨none, none, f.drain.buf⟩ ∧
      (StreamFramer.mk (StreamFramer.new.read chunks).buf).buffered < 2 ^ 20 + 12 ∧
      (StreamFramer.mk (StreamFramer.new.read chunks).buf).next =
        ⟨none, none, (StreamFramer.new.read chunks).buf⟩ := by
  have hread := read_waits chunks .new look_nil
  refine ⟨framer.next_returns f.buf, framer.drain_drains f.buf, ?_, ?_, ?_, ?_⟩
  · exact look_wait_lt (drain_waits f)
  · exact Scanner.next_of_wait (drain_waits f)
  · exact look_wait_lt hread
  · exact Scanner.next_of_wait hread

end RudraNetra
