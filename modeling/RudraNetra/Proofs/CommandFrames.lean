/-
Commands as they are sent.

The frame that `BuildCommandFrame` makes is one that the framer takes, up to a command that
fills a frame of 1 MiB: its checksum is where `CRCValid` looks for it, and the command is
read back from its payload whatever bytes it has.
-/
import RudraNetra.Proofs.Checksum
import RudraNetra.Proofs.FrameStream
import RudraNetra.Codec.Teltonika

namespace RudraNetra

open Wire Go

/-- The payload of a command: codec id, quantity, size, command and quantity. -/
def codec12Payload (command : List UInt8) : List UInt8 :=
  [codec12, 1] ++ (beBytes 4 command.length ++ (command ++ [1]))

/-- The frame of a command. -/
def commandFrame (command : List UInt8) : Frame where
  payload := codec12Payload command
  crc := littleEndian (crc16 (codec12Payload command)) ++ [0, 0]

@[simp] theorem codec12Payload_length (command : List UInt8) :
    (codec12Payload command).length = command.length + 7 := by
  simp only [codec12Payload, List.length_append, List.length_cons, List.length_nil, beBytes_length]
  omega

theorem buildCommandFrame_eq (command : List UInt8) :
    buildCommandFrame command = (commandFrame command).encode := by
  have hpreamble : beBytes 4 0 = preamble := by decide
  have hlength : 1 + 1 + 4 + command.length + 1 = (codec12Payload command).length := by
    rw [codec12Payload_length]
    omega
  rw [buildCommandFrame, Frame.encode, hpreamble, hlength]
  rfl

theorem commandFrame_crcValid (command : List UInt8) : (commandFrame command).crcValid = true := by
  have hne : codec12Payload command ≠ [] := by simp [codec12Payload]
  exact (crcValid_of_carries .little hne).mpr (.inl rfl)

/-- A command is read back from its payload. -/
theorem parseCommandPayload_codec12Payload {command : List UInt8} (hpos : 1 ≤ command.length)
    (hlt : command.length < 2 ^ 32) :
    parseCommandPayload (codec12Payload command) = .returns [command] none := by
  have hat : At (codec12Payload command) 2 (beBytes 4 command.length ++ (command ++ [1])) :=
    ⟨[codec12, 1], [], by rw [List.append_nil]; rfl, rfl⟩
  obtain ⟨hsize, htext⟩ := At.append_iff.mp hat
  have huint : uintAt (ε := ParseError) (codec12Payload command) 2 4 = .ok command.length := by
    rw [uintAt_of_at hsize (beBytes_length _ _), beNat_beBytes_of_lt (by omega)]
  have hslice : slice (ε := ParseError) (codec12Payload command) (2 + 4) (2 + 4 + command.length) =
      .ok command := by
    rw [beBytes_length] at htext
    exact slice_of_at htext.left rfl
  have hentry : parseCommandPayload (codec12Payload command) =
      commandLoop (codec12Payload command) 1 2 [] := by
    have hcons : codec12Payload command =
      codec12 :: 1 :: (beBytes 4 command.length ++ (command ++ [1])) := rfl
    rw [hcons, parseCommandPayload, if_neg (fun h => h rfl), UInt8.toNat_one]
  rw [hentry, commandLoop, if_neg (by rw [codec12Payload_length]; omega), huint]
  dsimp only
  rw [if_neg (by rw [codec12Payload_length]; omega), hslice]
  rfl

/-- The frame of a command that a frame has room for. -/
def sentCommand (command : List UInt8)
    (h : 1 ≤ command.length ∧ command.length ≤ 2 ^ 20 - 7) : SentFrame where
  toFrame := commandFrame command
  payload_pos := by simp [commandFrame]
  payload_le := by
    simp only [commandFrame, codec12Payload_length, frameMaxDataLen]
    omega
  known := by
    show knownCodec codec12 = true
    decide
  crc_length := by simp [commandFrame, frameCRCSize]

/-- What a stream of commands gives back. -/
structure CommandsRead (d : Scan.Drained UInt8 Frame FrameError) (commands : List (List UInt8)) :
    Prop where
  errs : d.errs = []
  buf : d.buf = []
  outs : List.Forall₂ (fun frame command => frame.crcValid = true ∧
    parseCommandPayload frame.payload = .returns [command] none) d.outs commands

/-- **Commands round trip**: however their frames are cut into reads, each comes out as one frame
with a valid checksum, and is read back from it. -/
theorem read_commandFrames (commands : List (List UInt8))
    (hlen : ∀ command ∈ commands, 1 ≤ command.length ∧ command.length ≤ 2 ^ 20 - 7)
    (chunks : List (List UInt8)) (h : chunks.flatten = commands.flatMap buildCommandFrame) :
    CommandsRead (StreamFramer.new.read chunks) commands := by
  have hframes : (commands.pmap sentCommand hlen).map (·.toFrame) = commands.map commandFrame := by
    rw [List.map_pmap]
    exact List.pmap_eq_map hlen
  have hstream : chunks.flatten = frameStream (commands.pmap sentCommand hlen) := by
    have hencode : frameStream (commands.pmap sentCommand hlen) =
        ((commands.pmap sentCommand hlen).map (·.toFrame)).flatMap Frame.encode := by
      rw [List.flatMap_map]
      rfl
    rw [h, hencode, hframes, List.flatMap_map]
    exact congrArg (commands.flatMap ·) (funext buildCommandFrame_eq)
  have hread := follows_frameStream _ hstream
  refine ⟨hread.errs.mpr (dropped_frames _), hread.buf, ?_⟩
  rw [hread.outs, taken_frames, hframes, List.forall₂_map_left_iff, List.forall₂_same]
  intro command hmem
  obtain ⟨hpos, hle⟩ := hlen command hmem
  exact ⟨commandFrame_crcValid command, parseCommandPayload_codec12Payload hpos (by omega)⟩

/-- Two commands, of which the second has a preamble in it, cut inside the first. -/
theorem read_commandFrames_cut :
    CommandsRead (StreamFramer.new.read [(buildCommandFrame [0x0C]).take 9,
      (buildCommandFrame [0x0C]).drop 9 ++ buildCommandFrame [0, 0, 0, 0, 0]])
      [[0x0C], [0, 0, 0, 0, 0]] :=
  read_commandFrames [[0x0C], [0, 0, 0, 0, 0]] (by decide) _ (by
    rw [List.flatten_cons, List.flatten_singleton, ← List.append_assoc, List.take_append_drop]
    rfl)

end RudraNetra
