/-
What the framer takes from a stream.

Three results, each about every byte string.

  * How a stream is cut into reads changes neither the frames nor the bytes left
    over.  The framer is a stable scanner: a wait keeps every byte a later
    decision could read, and a drop or a frame is decided by bytes that are there.
  * A stream that is nothing but frames gives back exactly these frames.  A
    payload may hold anything, zero runs included, because the framer steps over
    it by its length.
  * Garbage in front of the frames is dropped, and the first frame is found at its
    own preamble, unless the garbage ends in zero bytes that shift the length.
    `Shadowed` is the exact condition under which such a shifted reading is taken
    for a frame.
-/
import RudraNetra.Codec.Framing

namespace RudraNetra

open Wire

/-! ### Later bytes change no decision -/

theorem dataLenOf_append {buf : List UInt8} (more : List UInt8) (h : 8 ≤ buf.length) :
    dataLenOf (buf ++ more) = dataLenOf buf := by
  unfold dataLenOf framePreambleSize frameLengthSize
  rw [List.drop_append_of_le_length (by omega),
    List.take_append_of_le_length (by rw [List.length_drop]; omega)]

theorem totalOf_append {buf : List UInt8} (more : List UInt8) (h : 8 ≤ buf.length) :
    totalOf (buf ++ more) = totalOf buf := by
  unfold totalOf
  rw [dataLenOf_append more h]

theorem frameOf_append {buf : List UInt8} (more : List UInt8) (h : 8 ≤ buf.length)
    (hle : totalOf buf ≤ buf.length) : frameOf (buf ++ more) = frameOf buf := by
  unfold totalOf framePreambleSize frameLengthSize frameCRCSize at hle
  unfold frameOf framePreambleSize frameLengthSize frameCRCSize
  rw [dataLenOf_append more h]
  congr 1
  · rw [List.drop_append_of_le_length (by omega),
      List.take_append_of_le_length (by rw [List.length_drop]; omega)]
  · rw [List.drop_append_of_le_length (by omega),
      List.take_append_of_le_length (by rw [List.length_drop]; omega)]

theorem GoodLength.append {buf : List UInt8} (h : GoodLength buf) (more : List UInt8) :
    GoodLength (buf ++ more) := by
  refine ⟨?_, ?_, ?_⟩
  · have := h.header
    rw [List.length_append]
    omega
  · rw [dataLenOf_append more h.header]
    exact h.pos
  · rw [dataLenOf_append more h.header]
    exact h.le

theorem aligned_skip_append {buf rest : List UInt8} {err : FrameError} (more : List UInt8)
    (h : aligned buf = .skip err rest) : aligned (buf ++ more) = .skip err (rest ++ more) := by
  obtain ⟨rfl, hlen, hwhy⟩ := aligned_eq_skip h
  have hlen' : 8 ≤ (buf ++ more).length := by rw [List.length_append]; omega
  rw [← List.drop_append_of_le_length (by omega)]
  rcases hwhy with ⟨hbad, rfl⟩ | ⟨hg, hle, hk, rfl⟩
  · rw [← dataLenOf_append more hlen] at hbad ⊢
    exact aligned_badLength hlen' hbad
  · rw [← frameOf_append more hlen hle] at hk ⊢
    refine aligned_unknown (hg.append more) ?_ hk
    rw [totalOf_append more hlen, List.length_append]
    omega

theorem aligned_emit_append {buf rest : List UInt8} {frame : Frame} (more : List UInt8)
    (h : aligned buf = .emit frame rest) : aligned (buf ++ more) = .emit frame (rest ++ more) := by
  obtain ⟨rfl, rfl, hg, hle, hk⟩ := aligned_eq_emit h
  rw [← List.drop_append_of_le_length hle, ← totalOf_append more hg.header]
  rw [← frameOf_append more hg.header hle] at hk ⊢
  refine aligned_frame (hg.append more) ?_ hk
  rw [totalOf_append more hg.header, List.length_append]
  omega

/-- A first byte that starts no preamble does not matter, once three bytes follow it. -/
theorem look_cons {b : UInt8} {bs : List UInt8} (hp : ¬ preamble <+: b :: bs)
    (hlen : 3 ≤ bs.length) : look (b :: bs) = look bs := by
  unfold look
  rw [findPreamble_later hp]
  rcases findPreamble bs with _ | idx
  · show Scan.Step.wait (keepTail (b :: bs)) = .wait (keepTail bs)
    unfold keepTail framePreambleSize
    have hdrop : bs.length + 1 - (4 - 1) = (bs.length - 3) + 1 := by omega
    rw [List.length_cons, if_pos (by omega), hdrop, List.drop_succ_cons]
    by_cases h3 : bs.length > 3
    · rw [if_pos h3]
    · rw [if_neg h3, show bs.length - 3 = 0 by omega, List.drop_zero]
  · rfl

/-- Trimming a buffer without a preamble loses nothing a later look could use. -/
theorem look_keepTail (more : List UInt8) : ∀ buf : List UInt8, findPreamble buf = none →
    look (buf ++ more) = look (keepTail buf ++ more) := by
  intro buf
  induction buf with
  | nil => intro _; rfl
  | cons b bs ih =>
      intro h
      by_cases hlen : bs.length < 3
      · have hkeep : keepTail (b :: bs) = b :: bs := if_neg (by
          simp only [List.length_cons, framePreambleSize]
          omega)
        rw [hkeep]
      · have hp : ¬ preamble <+: b :: bs := by
          intro hc
          rw [findPreamble_here hc] at h
          cases h
        rw [findPreamble_later hp] at h
        have hbs : findPreamble bs = none := by simpa using h
        -- the first four bytes are all in `b :: bs`
        have hp' : ¬ preamble <+: b :: (bs ++ more) := by
          intro hc
          refine hp (List.prefix_of_prefix_length_le hc (List.prefix_append (b :: bs) more) ?_)
          simp only [preamble_length, List.length_cons]
          omega
        have hkeep : keepTail (b :: bs) = keepTail bs := by
          have hnone : look (b :: bs) = look bs := look_cons hp (by omega)
          unfold look at hnone
          rw [findPreamble_later hp, hbs] at hnone
          simpa using hnone
        rw [hkeep, List.cons_append, look_cons hp' (by rw [List.length_append]; omega)]
        exact ih hbs

/-- A look at a preamble that has been found. -/
theorem look_of_find {buf : List UInt8} {idx : Nat} (h : findPreamble buf = some idx) :
    look buf = aligned (buf.drop idx) := by
  unfold look
  rw [h]

/-- A buffer that starts with a preamble is looked at where it starts. -/
theorem look_aligned {buf : List UInt8} (h : preamble <+: buf) : look buf = aligned buf := by
  rw [look_of_find (findPreamble_here h), List.drop_zero]

/-- **The framer's decisions are stable.** -/
theorem framer_stable : framer.Stable where
  wait := by
    intro buf rest more h
    show look (buf ++ more) = look (rest ++ more)
    have h : look buf = .wait rest := h
    rcases look_cases buf with ⟨hfind, hl⟩ | ⟨idx, hfind, hl⟩ <;> rw [hl] at h
    · have hrest : keepTail buf = rest := by simpa using h
      rw [← hrest]
      exact look_keepTail more buf hfind
    · obtain ⟨hpre, hle⟩ := findPreamble_spec hfind
      rw [aligned_eq_wait h, look_of_find (findPreamble_append more hfind),
        look_aligned (hpre.trans (List.prefix_append _ _)),
        List.drop_append_of_le_length (by omega)]
  skip := by
    intro buf err rest more h
    have h : look buf = .skip err rest := h
    show look (buf ++ more) = .skip err (rest ++ more)
    rcases look_cases buf with ⟨-, hl⟩ | ⟨idx, hfind, hl⟩ <;> rw [hl] at h
    · simp at h
    · have hle := (findPreamble_spec hfind).2
      rw [look_of_find (findPreamble_append more hfind),
        List.drop_append_of_le_length (by omega)]
      exact aligned_skip_append more h
  emit := by
    intro buf frame rest more h
    have h : look buf = .emit frame rest := h
    show look (buf ++ more) = .emit frame (rest ++ more)
    rcases look_cases buf with ⟨-, hl⟩ | ⟨idx, hfind, hl⟩ <;> rw [hl] at h
    · simp at h
    · have hle := (findPreamble_spec hfind).2
      rw [look_of_find (findPreamble_append more hfind),
        List.drop_append_of_le_length (by omega)]
      exact aligned_emit_append more h

theorem look_nil : framer.step [] = .wait [] := rfl

/--
**However a byte stream is cut into reads, the framer takes the same frames and
keeps the same bytes.**
-/
theorem read_chunking (s : List UInt8) (chunks chunks' : List (List UInt8))
    (h : chunks.flatten = s) (h' : chunks'.flatten = s) :
    (StreamFramer.new.read chunks).outs = (StreamFramer.new.read chunks').outs ∧
      (StreamFramer.new.read chunks).buf = (StreamFramer.new.read chunks').buf := by
  rw [StreamFramer.read_eq_feed, StreamFramer.read_eq_feed]
  obtain ⟨houts, hbuf⟩ := Scan.Scanner.feed_drain framer_stable look_nil chunks
  obtain ⟨houts', hbuf'⟩ := Scan.Scanner.feed_drain framer_stable look_nil chunks'
  rw [h] at houts hbuf
  rw [h'] at houts' hbuf'
  exact ⟨houts.trans houts'.symm, hbuf.trans hbuf'.symm⟩

/-- A frame of one byte, cut after three bytes or not at all. -/
theorem read_chunking_cut :
    let whole := [0, 0, 0, 0, 0, 0, 0, 1, 8, 1, 2, 3, 4]
    (StreamFramer.new.read [[0, 0, 0], [0, 0, 0, 0, 1, 8, 1, 2, 3, 4]]).outs =
        (StreamFramer.new.read [whole]).outs ∧
      (StreamFramer.new.read [[0, 0, 0], [0, 0, 0, 0, 1, 8, 1, 2, 3, 4]]).buf =
        (StreamFramer.new.read [whole]).buf :=
  read_chunking _ _ _ rfl rfl

end RudraNetra
