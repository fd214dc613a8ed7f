/-
What the simulator reads of the server.

The server acknowledges frames in four bytes and sends commands in frames of their own, one
behind the other on one stream.  The simulator tells them apart by looking: nine bytes that
begin with four zeros and end in a codec id are a command, and four other bytes are an
acknowledgement.  With less than nine bytes of a command it does not wait, but takes its
preamble for an acknowledgement of nothing.

So messages come out as they were sent exactly if no read ends between the fourth and the
eighth byte of a command (`receiveAll_iff`).  Then every command is answered, once and in
order, and the server reads the answers.
-/
import RudraNetra.Device.Duplex
import RudraNetra.Lib.Messages
import RudraNetra.Proofs.CommandFrames
import RudraNetra.Proofs.SimulatedFrames

namespace RudraNetra.Simulator

open Wire Go

variable {opts : Options} {env : Env}

/-! ### Messages and where they are torn -/

variable (opts) in
/-- A frame has no more than 255 records, commands are listened to, and an answer fits a frame. -/
def ServerMessage.Ok : ServerMessage → Prop
  | .acknowledged count => count ≤ 255
  | .commanded command => opts.listenCommands = true ∧ (bytesOf command).length ≤ 2 ^ 20 - 10

/-- A command is torn where its preamble is there, but not its codec id. -/
def ServerMessage.Tears : ServerMessage → Nat → Prop
  | .acknowledged _, _ => False
  | .commanded _, n => 4 ≤ n ∧ n ≤ 8

/-! ### Looking at the buffer -/

theorem command_length (command : List UInt8) :
    (buildCommandFrame command).length = command.length + 19 := by
  rw [buildCommandFrame_eq, Frame.encode, commandFrame]
  simp [preamble_length, frameLengthSize]
  omega

/-- The beginning of a command frame: preamble, length and codec id. -/
theorem command_head (command : List UInt8) : ∃ rest, buildCommandFrame command =
    beBytes 4 0 ++ (beBytes 4 (command.length + 7) ++ 0x0C :: rest) := by
  refine ⟨1 :: ((beBytes 4 command.length ++ (command ++ [1])) ++ (commandFrame command).crc), ?_⟩
  rw [buildCommandFrame_eq, Frame.encode, ← codec12Payload_length]
  rfl

/-- What is read of the first nine bytes of a command. -/
theorem startsCommand_iff {command part : List UInt8} (h : part <+: buildCommandFrame command) :
    startsCommand part = true ↔ 9 ≤ part.length := by
  obtain ⟨rest, hhead⟩ := command_head command
  obtain ⟨more, hmore⟩ := h
  constructor
  · intro hstarts
    simp only [startsCommand, Bool.and_eq_true, decide_eq_true_eq] at hstarts
    exact hstarts.1.1
  · intro hlen
    have hzero : part.take 4 = beBytes 4 0 := by
      have htake := congrArg (List.take 4) (hmore.trans hhead)
      rwa [List.take_append_of_le_length (by omega), List.take_left' (beBytes_length 4 0)] at htake
    have hcodec : part[8]? = some 0x0C := by
      have hget := congrArg (fun bytes : List UInt8 => bytes[8]?) (hmore.trans hhead)
      rw [List.getElem?_append_left (by omega), List.getElem?_append_right (by simp),
        List.getElem?_append_right (by simp)] at hget
      simpa using hget
    simp only [startsCommand, hzero, hcodec, beNat_beBytes, Bool.and_eq_true, decide_eq_true_eq]
    exact ⟨⟨hlen, rfl⟩, rfl⟩

theorem step_command (hlisten : opts.listenCommands = true) {buf : List UInt8}
    (h : startsCommand buf = true) : pumpStep opts buf =
      if buf.length < 13 then .wait buf
      else if buf.length < 8 + beNat ((buf.drop 4).take 4) + 4 then .wait buf
      else .emit (.command (buf.take (8 + beNat ((buf.drop 4).take 4) + 4)))
        (buf.drop (8 + beNat ((buf.drop 4).take 4) + 4)) := by
  have hboth : (opts.listenCommands && startsCommand buf) = true := by rw [hlisten, h]; rfl
  rw [pumpStep, if_pos hboth]

theorem step_other {buf : List UInt8} (h : startsCommand buf = false) : pumpStep opts buf =
    if 4 ≤ buf.length then .emit (.acked (beNat (buf.take 4))) (buf.drop 4) else .wait buf := by
  have hboth : ¬ (opts.listenCommands && startsCommand buf) = true := by
    rw [h, Bool.and_false]
    exact Bool.false_ne_true
  rw [pumpStep, if_neg hboth]

theorem startsCommand_of_short {buf : List UInt8} (h : buf.length < 9) :
    startsCommand buf = false := by
  have hlen : ¬ 9 ≤ buf.length := by omega
  simp [startsCommand, hlen]

/-- The length that is read of a command. -/
theorem command_total {command part : List UInt8} (hle : command.length ≤ 2 ^ 20 - 10)
    (h : part <+: buildCommandFrame command) (hlen : 9 ≤ part.length) :
    8 + beNat ((part.drop 4).take 4) + 4 = (buildCommandFrame command).length := by
  obtain ⟨rest, hhead⟩ := command_head command
  obtain ⟨more, hmore⟩ := h
  have htake : (part.drop 4).take 4 = beBytes 4 (command.length + 7) := by
    have hdrop := congrArg (fun bytes : List UInt8 => (bytes.drop 4).take 4) (hmore.trans hhead)
    rwa [List.drop_append_of_le_length (by omega), List.take_append_of_le_length (by simp; omega),
      List.drop_left' (beBytes_length 4 0), List.take_left' (beBytes_length 4 _)] at hdrop
  rw [htake, beNat_beBytes_of_lt (by omega), command_length]
  omega

/-! ### The messages are read -/

theorem ServerMessage.encode_length_pos (m : ServerMessage) : 0 < m.encode.length := by
  rcases m with count | command
  · simp [ServerMessage.encode, acknowledge]
  · rw [ServerMessage.encode, command_length]
    omega

/-- Every message begins with a zero. -/
theorem ServerMessage.Ok.head {m : ServerMessage} (h : m.Ok opts) : m.encode[0]? = some 0 := by
  rcases m with count | command
  · have hle : count ≤ 255 := h
    have hzero : count / 16777216 = 0 := by omega
    simp [ServerMessage.encode, acknowledge, beBytes, hzero]
  · obtain ⟨rest, hhead⟩ := command_head (bytesOf command)
    rw [ServerMessage.encode, hhead]
    rfl

/-- Four bytes into the messages, there is no codec id. -/
theorem no_codec {msgs : List ServerMessage} (hok : ∀ m ∈ msgs, m.Ok opts) {part : List UInt8}
    (hpart : part <+: msgs.flatMap ServerMessage.encode) : part[4]? ≠ some 0x0C := by
  have hstream : ∀ b, (msgs.flatMap ServerMessage.encode)[4]? = some b → b = 0 := by
    intro b hb
    obtain _ | ⟨m, msgs⟩ := msgs
    · cases hb
    obtain ⟨hm, hmsgs⟩ := List.forall_mem_cons.mp hok
    rw [List.flatMap_cons] at hb
    rcases m with count | command
    · -- behind an acknowledgement the next message begins
      rw [List.getElem?_append_right (by simp [ServerMessage.encode, acknowledge])] at hb
      have hindex : 4 - (ServerMessage.encode (.acknowledged count)).length = 0 := by
        simp [ServerMessage.encode, acknowledge]
      rw [hindex] at hb
      obtain _ | ⟨m', msgs⟩ := msgs
      · cases hb
      rw [List.flatMap_cons, List.getElem?_append_left m'.encode_length_pos,
        (hmsgs m' List.mem_cons_self).head] at hb
      exact (Option.some.inj hb).symm
    · -- in a command there is the highest byte of its length
      have hle : (bytesOf command).length ≤ 2 ^ 20 - 10 := hm.2
      have hzero : ((bytesOf command).length + 7) / 16777216 = 0 := by omega
      obtain ⟨rest, hhead⟩ := command_head (bytesOf command)
      rw [ServerMessage.encode, hhead] at hb
      simp [beBytes, hzero] at hb
      exact hb.symm
  intro hcodec
  obtain ⟨more, hmore⟩ := hpart
  have hget : (msgs.flatMap ServerMessage.encode)[4]? = some 0x0C := by
    rw [← hmore]
    exact List.getElem?_append_left (List.getElem?_eq_some_iff.mp hcodec).1 ▸ hcodec
  exact absurd (hstream _ hget) (by decide)

/-- A command that is there in full is taken, whatever comes behind it. -/
theorem step_command_whole {command : String} (hm : ServerMessage.Ok opts (.commanded command))
    (part : List UInt8) :
    pumpStep opts (ServerMessage.encode (.commanded command) ++ part) =
      .emit (ServerMessage.incoming (.commanded command)) part := by
  obtain ⟨hlisten, hle⟩ := hm
  have hlength := command_length (bytesOf command)
  have hstarts : startsCommand (buildCommandFrame (bytesOf command) ++ part) = true := by
    have hwhole := (startsCommand_iff (List.prefix_refl (buildCommandFrame (bytesOf command)))).mpr
      (by omega)
    simp only [startsCommand, Bool.and_eq_true, decide_eq_true_eq, beq_iff_eq] at hwhole ⊢
    rw [List.take_append_of_le_length (by omega), List.getElem?_append_left (by omega)]
    exact ⟨⟨by rw [List.length_append]; omega, hwhole.1.2⟩, hwhole.2⟩
  have htotal : 8 + beNat (((buildCommandFrame (bytesOf command) ++ part).drop 4).take 4) + 4 =
      (buildCommandFrame (bytesOf command)).length := by
    rw [List.drop_append_of_le_length (by omega),
      List.take_append_of_le_length (by rw [List.length_drop]; omega)]
    exact command_total hle (List.prefix_refl _) (by omega)
  rw [ServerMessage.encode, step_command hlisten hstarts, htotal,
    if_neg (by rw [List.length_append]; omega), if_neg (by rw [List.length_append]; omega),
    List.take_left, List.drop_left, ServerMessage.incoming]

/-- The rest of a command is waited for, unless it is torn. -/
theorem step_command_part {command : String} (hm : ServerMessage.Ok opts (.commanded command))
    {part : List UInt8} (hpart : part <+: buildCommandFrame (bytesOf command))
    (hlt : part.length < (buildCommandFrame (bytesOf command)).length)
    (huntorn : ¬ (4 ≤ part.length ∧ part.length ≤ 8)) : pumpStep opts part = .wait part := by
  obtain ⟨hlisten, hle⟩ := hm
  by_cases hlen : 9 ≤ part.length
  · rw [step_command hlisten ((startsCommand_iff hpart).mpr hlen), command_total hle hpart hlen,
      if_pos hlt, ite_self]
  · rw [step_other (startsCommand_of_short (by omega)), if_neg (by omega)]

/-- An acknowledgement is taken, whatever messages come behind it. -/
theorem step_acknowledged {count : Nat} (hle : count ≤ 255) {msgs : List ServerMessage}
    {part : List UInt8} (hmsgs : ∀ m ∈ msgs, m.Ok opts)
    (hpart : part <+: msgs.flatMap ServerMessage.encode) :
    pumpStep opts (ServerMessage.encode (.acknowledged count) ++ part) =
      .emit (ServerMessage.incoming (.acknowledged count)) part := by
  have hlength : (ServerMessage.encode (.acknowledged count)).length = 4 := beBytes_length 4 count
  have hother : startsCommand (ServerMessage.encode (.acknowledged count) ++ part) = false := by
    rw [Bool.eq_false_iff]
    intro hstarts
    simp only [startsCommand, Bool.and_eq_true, beq_iff_eq] at hstarts
    have hcodec := hstarts.2
    rw [List.getElem?_append_right (by omega), hlength] at hcodec
    exact no_codec hmsgs hpart hcodec
  rw [step_other hother, if_pos (by rw [List.length_append]; omega), List.take_left' hlength,
    List.drop_left' hlength]
  rw [ServerMessage.encode, acknowledge, beNat_beBytes_of_lt (by omega)]
  rfl

/-- **The loop of `pump` reads the messages, but for commands that are torn.** -/
theorem pump_reads (opts : Options) : Scan.Reads (pump opts) ServerMessage.encode
    ServerMessage.incoming (ServerMessage.Ok opts) ServerMessage.Tears where
  empty := by
    show pumpStep opts [] = _
    rw [step_other (startsCommand_of_short (by decide)), if_neg (by decide)]
  whole := by
    intro m msgs part hm hmsgs hpart
    show pumpStep opts _ = _
    rcases m with count | command
    · exact step_acknowledged hm hmsgs hpart
    · exact step_command_whole hm part
  waits := by
    intro m part hm hpart hlt huntorn
    show pumpStep opts part = _
    rcases m with count | command
    · have hlength : (ServerMessage.encode (.acknowledged count)).length = 4 :=
        beBytes_length 4 count
      rw [step_other (startsCommand_of_short (by omega)), if_neg (by omega)]
    · exact step_command_part hm hpart hlt huntorn
  torn := by
    intro m part _ hpart htears
    show ∃ out rest, pumpStep opts part = _ ∧ _
    rcases m with count | command
    · exact htears.elim
    · obtain ⟨hlow, hhigh⟩ := htears
      refine ⟨.acked (beNat (part.take 4)), part.drop 4, ?_, ?_⟩
      · rw [step_other (startsCommand_of_short (by omega)), if_pos hlow]
      · rw [ServerMessage.incoming]
        exact Incoming.noConfusion
  tears_lt := by
    intro m n htears
    rcases m with count | command
    · exact htears.elim
    · rw [ServerMessage.encode, command_length]
      exact lt_of_le_of_lt htears.2 (by omega)

/-! ### The answers -/

variable (opts) in
/-- The frame of an answer. -/
def answerFrame (command : String) : Frame where
  payload := codec12Payload (bytesOf (answer command))
  crc := crcField opts (codec12Payload (bytesOf (answer command)))

/-- An answer is not empty, and it fits a frame. -/
theorem answer_length {command : String} (h : (bytesOf command).length ≤ 2 ^ 20 - 10) :
    1 ≤ (bytesOf (answer command)).length ∧ (bytesOf (answer command)).length ≤ 2 ^ 20 - 7 := by
  unfold answer
  split_ifs
  · have hlength : (bytesOf "Yes:1").length = 5 := by decide
    omega
  · have hlength : (bytesOf ("OK:" ++ command)).length = 3 + (bytesOf command).length := by
      rw [bytesOf_eq, bytesOf_eq, String.toList_append, List.flatMap_append, List.length_append]
      rfl
    omega

theorem buildCodec12Response_eq {text : String} (h : (bytesOf text).length ≤ 2 ^ 20 - 7) :
    buildCodec12Response opts text = some (Frame.encode
      ⟨codec12Payload (bytesOf text), crcField opts (codec12Payload (bytesOf text))⟩) := by
  have hsize : writeUInt 4 ((bytesOf text).length : Int) = some (beBytes 4 (bytesOf text).length) :=
    writeUInt_natCast (by omega)
  rw [buildCodec12Response, hsize, Option.bind_eq_bind, Option.bind_some]
  exact buildFrame_eq (by
    show (codec12Payload (bytesOf text)).length < 2 ^ 32
    rw [codec12Payload_length]
    omega)

/-- A command is read as it was sent. -/
theorem commandOf_eq {command : String} (h : (bytesOf command).length ≤ 2 ^ 20 - 10) :
    commandOf (buildCommandFrame (bytesOf command)) = some command := by
  have hframe : buildCommandFrame (bytesOf command) = preamble ++
      (beBytes 4 ((bytesOf command).length + 7) ++
        (codec12Payload (bytesOf command) ++ (commandFrame (bytesOf command)).crc)) := by
    rw [buildCommandFrame_eq, Frame.encode, ← codec12Payload_length]
    rfl
  have hlen : beNat (((buildCommandFrame (bytesOf command)).drop 4).take 4) =
      (bytesOf command).length + 7 := by
    rw [hframe, List.drop_left' preamble_length, List.take_left' (beBytes_length 4 _),
      beNat_beBytes_of_lt (by omega)]
  have hdata : ((buildCommandFrame (bytesOf command)).drop 8).take ((bytesOf command).length + 7) =
      codec12Payload (bytesOf command) := by
    rw [hframe, show 8 = 4 + 4 from rfl, ← List.drop_drop, List.drop_left' preamble_length,
      List.drop_left' (beBytes_length 4 _), List.take_left' (codec12Payload_length _)]
  have hbehind : (codec12Payload (bytesOf command)).drop 2 =
      beBytes 4 (bytesOf command).length ++ (bytesOf command ++ [1]) := rfl
  have hsize : beNat (((codec12Payload (bytesOf command)).drop 2).take 4) =
      (bytesOf command).length := by
    rw [hbehind, List.take_left' (beBytes_length 4 _), beNat_beBytes_of_lt (by omega)]
  have htext : ((codec12Payload (bytesOf command)).drop 6).take (bytesOf command).length =
      bytesOf command := by
    rw [show 6 = 2 + 4 from rfl, ← List.drop_drop, hbehind, List.drop_left' (beBytes_length 4 _),
      List.take_left]
  rw [commandOf]
  simp only [hlen, hdata, hsize, htext, Node.toText_bytesOf]
  rw [if_neg (by rw [codec12Payload_length]; omega)]

/-- A command is answered. -/
theorem handleCommandFrame_eq {command : String} (h : (bytesOf command).length ≤ 2 ^ 20 - 10) :
    handleCommandFrame opts (buildCommandFrame (bytesOf command)) =
      some (answerFrame opts command).encode := by
  rw [handleCommandFrame, commandOf_eq h, Option.bind_eq_bind, Option.bind_some,
    buildCodec12Response_eq (answer_length h).2, answerFrame]

/-- The answers to what was read, one for each command. -/
theorem respond_eq {msgs : List ServerMessage} (hok : ∀ m ∈ msgs, m.Ok opts) :
    respond opts (msgs.map ServerMessage.incoming) =
      some ((commandsOf msgs).map fun command => (answerFrame opts command).encode) := by
  have hframes : (msgs.map ServerMessage.incoming).filterMap Incoming.frame? =
      (commandsOf msgs).map fun command => buildCommandFrame (bytesOf command) := by
    clear hok
    induction msgs with
    | nil => rfl
    | cons m rest ih =>
        rw [List.map_cons, List.filterMap_cons, commandsOf, List.filterMap_cons, ← commandsOf]
        rcases m with count | command
        · exact ih
        · rw [ServerMessage.incoming, Incoming.frame?, ServerMessage.command?, List.map_cons, ih]
  have hanswer : ∀ command ∈ commandsOf msgs,
      (handleCommandFrame opts ∘ fun command => buildCommandFrame (bytesOf command)) command =
        some (answerFrame opts command).encode := by
    intro command hcommand
    rw [Function.comp_apply]
    obtain ⟨m, hm, hcommand⟩ := List.mem_filterMap.mp hcommand
    rcases m with count | command'
    · cases hcommand
    · obtain rfl := Option.some.inj hcommand
      exact handleCommandFrame_eq (hok _ hm).2
  rw [respond, hframes, List.mapM_map]
  exact mapM_eq_some hanswer

theorem respond_append (first later : List Incoming) : respond opts (first ++ later) =
    (respond opts first).bind fun a => (respond opts later).map fun b => a ++ b := by
  rw [respond, List.filterMap_append, List.mapM_append, respond, respond]
  cases (first.filterMap Incoming.frame?).mapM (handleCommandFrame opts) with
  | none => rfl
  | some a =>
      cases (later.filterMap Incoming.frame?).mapM (handleCommandFrame opts) with
      | none => rfl
      | some b => rfl

/-- While streaming, what is read goes to the loop of `pump`. -/
theorem receive_streaming {d : Device} (h : d.state = .streaming) (base : Int)
    (chunk : List UInt8) : d.receive opts env base chunk =
      Device.consume opts none { d with rxBuf := d.rxBuf ++ chunk } := by
  obtain ⟨sim, state, rxBuf, timer, emitted⟩ := d
  obtain rfl : state = .streaming := h
  rfl

/-- The acceptance is read, the first frame sent, and the rest goes to the loop of `pump`. -/
theorem receive_waiting {d : Device} (h : d.state = .waitingHandshake) (hbuf : d.rxBuf = [])
    (base : Int) (rest : List UInt8) : d.receive opts env base (0x01 :: rest) =
      (sendFrame opts env base
        { d with state := .streaming, rxBuf := rest, timer := true }).bind fun p =>
          p.2.consume opts (some p.1) := by
  obtain ⟨sim, state, rxBuf, timer, emitted⟩ := d
  obtain rfl : state = .waitingHandshake := h
  obtain rfl : rxBuf = [] := hbuf
  rfl

/-- While streaming, the reads are fed to the loop of `pump`. -/
theorem receiveAll_eq (base : Int) (chunks : List (List UInt8)) : ∀ {d : Device},
    d.state = .streaming → d.receiveAll opts env base chunks =
      (respond opts ((pump opts).feed d.rxBuf chunks).outs).map fun responses =>
        (((pump opts).feed d.rxBuf chunks).outs, responses,
          { d with rxBuf := ((pump opts).feed d.rxBuf chunks).buf }) := by
  induction chunks with
  | nil => exact fun _ => rfl
  | cons chunk rest ih =>
      intro d hstate
      have hreceive : d.receive opts env base chunk =
          (respond opts ((pump opts).drain (d.rxBuf ++ chunk)).outs).map fun responses =>
            ⟨{ d with rxBuf := ((pump opts).drain (d.rxBuf ++ chunk)).buf }, none,
              ((pump opts).drain (d.rxBuf ++ chunk)).outs, responses⟩ := by
        rw [receive_streaming hstate, Device.consume]
        cases respond opts ((pump opts).drain (d.rxBuf ++ chunk)).outs <;> rfl
      rw [Device.receiveAll, hreceive, Scan.Scanner.feed]
      dsimp only [Scan.Drained.then]
      rw [respond_append]
      cases respond opts ((pump opts).drain (d.rxBuf ++ chunk)).outs with
      | none => rfl
      | some responses =>
          have hrest := ih (d := { d with rxBuf := ((pump opts).drain (d.rxBuf ++ chunk)).buf })
            hstate
          rw [Option.map_some, Option.bind_eq_bind, Option.bind_some]
          dsimp only at hrest ⊢
          rw [hrest, Option.bind_some, Option.map_map]
          cases respond opts
            ((pump opts).feed ((pump opts).drain (d.rxBuf ++ chunk)).buf rest).outs <;> rfl

/-! ### Commands and answers -/

/-- What the server has of an answer. -/
structure Answered (opts : Options) (command : String) (frame : Frame) : Prop where
  checksum : if opts.useCrc then frame.crcValid = true else isZeroCRC frame.crc = true
  text : parseCommandPayload frame.payload = .returns [bytesOf (answer command)] none

/-- However the packets are cut, the server has an answer to each command, in order, and nothing
else. -/
def AllAnswered (opts : Options) (commands : List String) (packets : List (List UInt8)) : Prop :=
  ∀ chunks : List (List UInt8), chunks.flatten = packets.flatten →
    (StreamFramer.new.read chunks).errs = [] ∧ (StreamFramer.new.read chunks).buf = [] ∧
      List.Forall₂ (Answered opts) commands (StreamFramer.new.read chunks).outs

/-- The frame of an answer, as one that a device may send. -/
def sentAnswer (opts : Options) (command : String)
    (h : (bytesOf command).length ≤ 2 ^ 20 - 10) : SentFrame where
  toFrame := answerFrame opts command
  payload_pos := by
    show 0 < (codec12Payload (bytesOf (answer command))).length
    rw [codec12Payload_length]
    omega
  payload_le := by
    show (codec12Payload (bytesOf (answer command))).length ≤ 1 <<< 20
    have hle := (answer_length h).2
    rw [codec12Payload_length]
    omega
  known := by
    show knownCodec codec12 = true
    decide
  crc_length := crcField_length _

theorem answerFrame_answered {command : String} (h : (bytesOf command).length ≤ 2 ^ 20 - 10) :
    Answered opts command (answerFrame opts command) where
  checksum := crcField_checks _ (by simp [codec12Payload])
  text := by
    have hle := answer_length h
    exact parseCommandPayload_codec12Payload hle.1 (by omega)

theorem allAnswered (commands : List String)
    (h : ∀ command ∈ commands, (bytesOf command).length ≤ 2 ^ 20 - 10) :
    AllAnswered opts commands (commands.map fun command => (answerFrame opts command).encode) := by
  intro chunks hchunks
  have hframes : (commands.pmap (sentAnswer opts) h).map (·.toFrame) =
      commands.map (answerFrame opts) := by
    rw [List.map_pmap]
    exact List.pmap_eq_map h
  have hstream : chunks.flatten = frameStream (commands.pmap (sentAnswer opts) h) := by
    have hencode : frameStream (commands.pmap (sentAnswer opts) h) =
        ((commands.pmap (sentAnswer opts) h).map (·.toFrame)).flatMap Frame.encode := by
      rw [List.flatMap_map]
      rfl
    rw [hchunks, hencode, hframes, List.flatMap_map, List.flatMap_def]
  have hread := follows_frameStream _ hstream
  refine ⟨hread.errs.mpr (dropped_frames _), hread.buf, ?_⟩
  rw [hread.outs, taken_frames, hframes, List.forall₂_map_right_iff, List.forall₂_same]
  exact fun command hcommand => answerFrame_answered (h command hcommand)

theorem length_of_mem_commandsOf {msgs : List ServerMessage} (hok : ∀ m ∈ msgs, m.Ok opts)
    {command : String} (h : command ∈ commandsOf msgs) :
    (bytesOf command).length ≤ 2 ^ 20 - 10 := by
  obtain ⟨m, hm, hcommand⟩ := List.mem_filterMap.mp h
  rcases m with count | command'
  · cases hcommand
  · obtain rfl := Option.some.inj hcommand
    exact (hok _ hm).2

/-- **Messages of the server come out of the simulator's buffer exactly if no read tears a
command.**  Then it answers every command once and in order, and the server reads the answers. -/
theorem receiveAll_iff (opts : Options) (env : Env) (base : Int) (msgs : List ServerMessage)
    (chunks : List (List UInt8)) (d : Device) (hok : ∀ m ∈ msgs, m.Ok opts)
    (hchunks : chunks.flatten = msgs.flatMap ServerMessage.encode) (hstate : d.state = .streaming)
    (hempty : d.rxBuf = []) :
    (∃ responses d', d.receiveAll opts env base chunks =
        some (msgs.map ServerMessage.incoming, responses, d') ∧ d'.rxBuf = [] ∧
          AllAnswered opts (commandsOf msgs) responses) ↔
      ∀ front, front <+: chunks →
        ¬ Scan.Torn ServerMessage.encode ServerMessage.Tears msgs front.flatten.length := by
  have hpart : Scan.Partial ServerMessage.encode msgs [] :=
    ⟨List.nil_prefix, fun m _ => m.encode_length_pos⟩
  have huntorn : ¬ Scan.Torn ServerMessage.encode ServerMessage.Tears msgs 0 := by
    obtain _ | ⟨m, rest⟩ := msgs
    · exact id
    · intro htorn
      have hpos := m.encode_length_pos
      rcases htorn with htears | ⟨k, hk, -⟩
      · rcases m with count | command
        · exact htears
        · exact absurd htears.1 (by decide)
      · omega
  rw [← (pump_reads opts).feed_eq_iff hok hpart hchunks huntorn, receiveAll_eq base chunks hstate,
    hempty]
  constructor
  · intro h
    obtain ⟨responses, d', hreceived, hbuf, -⟩ := h
    obtain ⟨responses', -, hreceived⟩ := Option.map_eq_some_iff.mp hreceived
    obtain ⟨houts, hrest⟩ := Prod.mk.inj hreceived
    obtain ⟨-, rfl⟩ := Prod.mk.inj hrest
    exact ⟨houts, hbuf⟩
  · intro h
    obtain ⟨houts, hbuf⟩ := h
    rw [houts, respond_eq hok, hbuf]
    refine ⟨_, _, rfl, rfl, ?_⟩
    exact allAnswered _ fun command hcommand => length_of_mem_commandsOf hok hcommand

/-- A command that is cut behind its codec id, with an acknowledgement before it. -/
theorem receiveAll_getinfo :
    let msgs := [ServerMessage.acknowledged 1, .commanded "getinfo"]
    let frame := buildCommandFrame (bytesOf "getinfo")
    let chunks := [acknowledge 1 ++ frame.take 9, frame.drop 9]
    let streaming := { Device.new with state := .streaming }
    (∃ responses d', Device.receiveAll parking half 0 chunks streaming =
        some (msgs.map ServerMessage.incoming, responses, d') ∧ d'.rxBuf = [] ∧
          AllAnswered parking (commandsOf msgs) responses) ↔
      ∀ front, front <+: chunks →
        ¬ Scan.Torn ServerMessage.encode ServerMessage.Tears msgs front.flatten.length := by
  have hok : ∀ m ∈ [ServerMessage.acknowledged 1, .commanded "getinfo"], m.Ok parking := by
    intro m hm
    rcases List.mem_cons.mp hm with rfl | hm
    · exact show 1 ≤ 255 by decide
    · obtain rfl := List.mem_singleton.mp hm
      exact ⟨rfl, by decide⟩
  refine receiveAll_iff parking half 0 _ _ { Device.new with state := .streaming } hok ?_ rfl rfl
  rw [List.flatten_cons, List.flatten_singleton, List.append_assoc, List.take_append_drop]
  rfl

end RudraNetra.Simulator
