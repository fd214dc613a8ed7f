/-
A simulator and the server, whatever their timers and the network do.

What is on its way between the two is kept by every step: the bytes that are not yet frames at
the server are those of the packets that it has not handled, and the bytes that are not yet
messages at the simulator are those of the messages that it has not read.  The one relation is
`Upstream`, the other `Downstream`, and what the server has made of the packets is `Stored`.

This needs steps that are `Orderly`.  The simulator neither waits for the slices of a packet
before it writes the next one, nor for the codec id of a command before it takes four zeros for
an acknowledgement; a run in which neither matters delivers everything (`duplex_delivers`).
-/
import RudraNetra.Proofs.Downlink

namespace RudraNetra.Simulator

open Wire Go

variable {opts : Options} {env : Env} {conn : ConnEnv} {redis : Bool} {sess : DeviceSession}
  {world : ConnWorld}

/-! ### The framer reads frames -/

/-- The bytes of a frame. -/
def frameBytes (f : SentFrame) : List UInt8 := f.toFrame.encode

theorem frameBytes_pos (f : SentFrame) : 0 < (frameBytes f).length := by
  rw [frameBytes, Frame.encode, List.length_append, preamble_length]
  omega

/-- A part of a frame is waited for. -/
theorem look_part (f : SentFrame) {part : List UInt8} (hpart : part <+: frameBytes f)
    (hlt : part.length < (frameBytes f).length) : look part = .wait part := by
  by_cases h4 : part.length < 4
  · have hfind : findPreamble part = none := by
      rcases hfind : findPreamble part with _ | idx
      · rfl
      · have hle := (findPreamble_spec hfind).2
        omega
    have hkeep : keepTail part = part := if_neg (by unfold framePreambleSize; omega)
    unfold look
    rw [hfind]
    exact congrArg _ hkeep
  · have hpre : preamble <+: part :=
      List.prefix_of_prefix_length_le (List.prefix_append _ _) hpart
        (by rw [preamble_length]; omega)
    rw [look_aligned hpre]
    by_cases h8 : part.length < 8
    · exact aligned_short h8
    · obtain ⟨more, hmore⟩ := hpart
      have hwhole : frameBytes f = shifted 0 f [] := (List.append_nil _).symm
      have hlen : dataLenOf part = f.payload.length := by
        rw [← dataLenOf_append more (by omega), hmore, hwhole, dataLenOf_shifted (by omega),
          Nat.pow_zero, Nat.div_one]
      rw [hwhole, shifted_length, List.length_nil] at hlt
      refine aligned_incomplete ⟨by omega, ?_, ?_⟩ ?_
      · rw [hlen]
        exact f.payload_pos
      · rw [hlen]
        exact f.payload_le
      · unfold totalOf framePreambleSize frameLengthSize frameCRCSize
        omega

/-- **The framer reads frames**, and no part of one is taken for something else. -/
theorem framer_reads : Scan.Reads framer frameBytes (·.toFrame) (fun _ => True)
    (fun _ _ => False) where
  empty := look_nil
  whole := by
    intro f frames part _ _ _
    exact look_encode f part
  waits := by
    intro f part _ hpart hlt _
    exact look_part f hpart hlt
  torn := by
    intro f part _ _ htears
    exact htears.elim
  tears_lt := by
    intro f n htears
    exact htears.elim

/-! ### Packets and their frames -/

/-- The frame of a packet, as one that a device may send. -/
inductive Carries (opts : Options) : Packet → SentFrame → Prop where
  | records {recs : List Rec} (hvalid : ∀ rec ∈ recs, rec.Valid)
      (hplaced : ∀ rec ∈ recs, rec.Placed) (hcount : recs.length ≤ 255) :
      Carries opts (.records recs) (batch opts recs hcount).toSentFrame
  | response {command : String} (h : (bytesOf command).length ≤ 2 ^ 20 - 10) :
      Carries opts (.response command) (sentAnswer opts command h)

/-- What the server has of a packet. -/
def Packet.Reaches (opts : Options) : Packet → Frame → Prop
  | .records recs => Reported opts recs
  | .response command => Answered opts command

theorem Carries.reaches {packet : Packet} {f : SentFrame} (h : Carries opts packet f) :
    packet.Reaches opts f.toFrame := by
  cases h with
  | records hvalid hplaced hcount => exact batch_reported hvalid hplaced hcount
  | response h => exact answerFrame_answered h

/-- The records of the packets that are reports. -/
def Packet.report? : Packet → Option (List Rec)
  | .records recs => some recs
  | .response _ => none

/-- The commands that the packets answer. -/
def Packet.command? : Packet → Option String
  | .records _ => none
  | .response command => some command

/-- The numbers that were acknowledged. -/
def ServerMessage.count? : ServerMessage → Option Nat
  | .acknowledged count => some count
  | .commanded _ => none

/-! ### What the server does with frames -/

variable (opts conn sess) in
/-- The log of the reports that were handled: the rows that are there besides, and the answers. -/
structure Logged (packets : List Packet) (log : List BatchLog) (w w' : ConnWorld) : Prop where
  of : List.Forall₂ (fun recs b => BatchLog.Of conn.toEnv
    (recs.map (·.position opts.extended sess.deviceID)) b) (packets.filterMap Packet.report?) log
  rows : w'.db.positions = w.db.positions ++ log.flatMap (·.rows)
  answers : w'.written.map Prod.fst = w.written.map Prod.fst ++ log.map (acknowledge ·.stored)

theorem handleCommandResponse_written (payload : List UInt8) (w : ConnWorld) :
    (handleCommandResponse conn payload w).written = w.written := by
  unfold handleCommandResponse
  split
  · rfl
  · dsimp only
    split_ifs
    · rfl
    · rfl

/-- An answer to a command adds no row and is not answered. -/
theorem dispatch_answer (redis : Bool) (sess : DeviceSession) (command : String) (w : ConnWorld) :
    ∃ w', dispatch conn redis sess w (answerFrame opts command) = some w' ∧ w'.db = w.db ∧
      w'.written = w.written := by
  refine ⟨handleCommandResponse conn (answerFrame opts command).payload
    (w.count (answerFrame opts command)), ?_, ?_, ?_⟩
  · have hpayload : ∃ rest, (answerFrame opts command).payload = codec12 :: rest := ⟨_, rfl⟩
    obtain ⟨rest, hpayload⟩ := hpayload
    unfold dispatch
    rw [hpayload]
    exact if_pos rfl
  · rw [handleCommandResponse_db]
    rfl
  · rw [handleCommandResponse_written]
    rfl

variable (conn redis sess) in
/-- The frames of packets are handled, and nothing fails that is not logged. -/
theorem run_dispatch {packets : List Packet} {frames : List SentFrame}
    (h : List.Forall₂ (Carries opts) packets frames) : ∀ w : ConnWorld, ∃ es w' log,
      Trace.run (dispatch conn redis sess) (frames.map (·.toFrame)) w = some (es, w') ∧
        Logged opts conn sess packets log w w' := by
  induction h with
  | nil => exact fun w => ⟨[], w, [], rfl, .nil, (List.append_nil _).symm, (List.append_nil _).symm⟩
  | @cons packet f packets frames hcarries _ ih =>
      intro w
      cases hcarries with
      | @records recs hvalid hplaced hcount =>
          obtain ⟨w₁, b, hstep, hof, hup⟩ :=
            dispatch_uploads conn redis sess (batch opts recs hcount) w
          rw [batch_positions hvalid hplaced] at hof
          obtain ⟨es, w', log, hrun, hlogged⟩ := ih w₁
          refine ⟨_, w', b :: log, Trace.run_cons hstep hrun, .cons hof hlogged.of, ?_, ?_⟩
          · rw [hlogged.rows, hup.rows, List.flatMap_singleton, List.flatMap_cons,
              List.append_assoc]
          · rw [hlogged.answers, hup.answers, List.map_singleton, List.append_assoc,
              List.singleton_append, List.map_cons]
      | @response command h =>
          obtain ⟨w₁, hstep, hdb, hwritten⟩ := dispatch_answer redis sess command w
          obtain ⟨es, w', log, hrun, hlogged⟩ := ih w₁
          refine ⟨_, w', log, Trace.run_cons hstep hrun, hlogged.of, ?_, ?_⟩
          · rw [hlogged.rows, hdb]
          · rw [hlogged.answers, hwritten]

/-! ### The stream to the server -/

/-- The packets that were handled and those on their way, with their frames. -/
structure Upstream (opts : Options) (s : Duplex) (first later : List Packet)
    (done rest : List SentFrame) : Prop where
  packets : s.packets = first ++ later
  before : List.Forall₂ (Carries opts) first done
  after : List.Forall₂ (Carries opts) later rest
  handled : s.handled = done.map (·.toFrame)
  part : Scan.Partial frameBytes rest s.framer.buf
  underway : s.framer.buf ++ (s.upstream ++ s.pending.flatten.flatten) = rest.flatMap frameBytes
  /-- There are slices of one packet at most. -/
  single : s.pending.length ≤ 1

theorem slices_flatten (lengths : List Nat) : ∀ packet : List UInt8,
    (slices lengths packet).flatten = packet := by
  induction lengths with
  | nil => exact fun packet => List.flatten_singleton
  | cons n lengths ih =>
      intro packet
      rw [slices, List.flatten_cons, ih, List.take_append_drop]

/-- The slices are those of the packet; without fragments there is one. -/
theorem writePacket_parts {lengths : List Nat} {packet : List UInt8} {parts : List (List UInt8)}
    (h : writePacket opts lengths packet = some parts) :
    parts.flatten = packet ∧ (opts.fragment = false → parts = [packet]) := by
  unfold writePacket at h
  split_ifs at h with hwhole
  · obtain rfl := Option.some.inj h
    exact ⟨List.flatten_singleton, fun _ => rfl⟩
  · dsimp only at h
    split_ifs at h
    obtain rfl := Option.some.inj h
    refine ⟨slices_flatten lengths packet, fun hno => ?_⟩
    rw [hno] at hwhole
    exact absurd rfl hwhole

/-- A packet is written behind the others, unless slices of one are waiting. -/
theorem Upstream.put {s : Duplex} {first later : List Packet} {done rest : List SentFrame}
    (h : Upstream opts s first later done rest) (hpending : s.pending = []) {packet : Packet}
    {f : SentFrame} (hcarries : Carries opts packet f) {parts : List (List UInt8)}
    (hparts : parts.flatten = frameBytes f) :
    Upstream opts (s.put packet parts) first (later ++ [packet]) done (rest ++ [f]) where
  packets := by
    rw [← List.append_assoc, ← h.packets]
    rfl
  before := h.before
  after := List.rel_append h.after (.cons hcarries .nil)
  handled := h.handled
  part := h.part.append fun f _ => frameBytes_pos f
  underway := by
    have hbefore := h.underway
    rw [hpending, List.flatten_nil, List.flatten_nil, List.append_nil] at hbefore
    have hbytes : parts.headD [] ++ (s.pending ++ if parts.tail = [] then [] else
        [parts.tail]).flatten.flatten = frameBytes f := by
      rw [hpending, List.nil_append, ← hparts]
      obtain _ | ⟨part, parts⟩ := parts
      · rfl
      · rw [List.headD_cons, List.tail_cons, List.flatten_cons]
        split_ifs with hlast
        · rw [hlast]
          rfl
        · rw [List.flatten_singleton]
    show s.framer.buf ++ (s.upstream ++ parts.headD [] ++
      (s.pending ++ if parts.tail = [] then [] else [parts.tail]).flatten.flatten) = _
    rw [List.append_assoc, hbytes, ← List.append_assoc, hbefore, List.flatMap_append,
      List.flatMap_singleton]
  single := by
    show (s.pending ++ if parts.tail = [] then [] else [parts.tail]).length ≤ 1
    rw [hpending, List.nil_append]
    split_ifs
    · exact Nat.zero_le _
    · exact Nat.le_refl _

/-- The next slice of the packet is written. -/
theorem Upstream.slice {s : Duplex} {first later : List Packet} {done rest : List SentFrame}
    (h : Upstream opts s first later done rest) {i : Nat} {part : List UInt8}
    {parts : List (List UInt8)} (hget : s.pending[i]? = some (part :: parts)) :
    Upstream opts { s with
      upstream := s.upstream ++ part
      pending := if parts = [] then s.pending.eraseIdx i else s.pending.set i parts }
      first later done rest := by
  have hsingle := h.single
  have hunderway := h.underway
  rcases hpending : s.pending with _ | ⟨head, _ | ⟨other, others⟩⟩
  · rw [hpending] at hget
    cases hget
  · rw [hpending] at hget hunderway
    obtain rfl : i = 0 := by
      have hlt := (List.getElem?_eq_some_iff.mp hget).1
      rw [List.length_singleton] at hlt
      omega
    obtain rfl : head = part :: parts := Option.some.inj hget
    refine ⟨h.packets, h.before, h.after, h.handled, h.part, ?_, ?_⟩
    · rw [← hunderway]
      dsimp only
      split_ifs with hlast
      · rw [hlast]
        simp
      · simp
    · dsimp only
      split_ifs
      · exact Nat.zero_le _
      · exact Nat.le_refl _
  · rw [hpending, List.length_cons, List.length_cons] at hsingle
    omega

/-- Answers are written behind the packets, unless slices of one are waiting. -/
theorem Upstream.answers {s : Duplex} {first later : List Packet} {done rest : List SentFrame}
    (h : Upstream opts s first later done rest) {commands : List String}
    (hfree : commands = [] ∨ s.pending = [])
    (hlen : ∀ command ∈ commands, (bytesOf command).length ≤ 2 ^ 20 - 10) :
    Upstream opts { s with
      upstream := s.upstream ++
        (commands.map fun command => (answerFrame opts command).encode).flatten
      packets := s.packets ++ commands.map .response }
      first (later ++ commands.map .response) done
      (rest ++ commands.pmap (sentAnswer opts) hlen) where
  packets := by
    rw [← List.append_assoc, ← h.packets]
  before := h.before
  after := by
    refine List.rel_append h.after ?_
    clear hfree
    induction commands with
    | nil => exact .nil
    | cons command commands ih =>
        exact .cons (.response (hlen command List.mem_cons_self))
          (ih fun command hcommand => hlen command (List.mem_cons_of_mem _ hcommand))
  handled := h.handled
  part := h.part.append fun f _ => frameBytes_pos f
  underway := by
    have hanswers : (commands.pmap (sentAnswer opts) hlen).flatMap frameBytes =
        (commands.map fun command => (answerFrame opts command).encode).flatten := by
      rw [List.flatMap_def, List.map_pmap]
      exact congrArg List.flatten
        (List.pmap_eq_map (f := fun command => (answerFrame opts command).encode) hlen)
    rw [List.flatMap_append, hanswers, ← h.underway]
    rcases hfree with rfl | hpending
    · simp
    · simp [hpending]
  single := h.single

/-- What the server reads is some of the frames, and a part of the next. -/
theorem Upstream.read {s : Duplex} {first later : List Packet} {done rest : List SentFrame}
    (h : Upstream opts s first later done rest) (n : Nat) :
    ∃ (next after : List Packet) (frames rest' : List SentFrame), later = next ++ after ∧
      List.Forall₂ (Carries opts) next frames ∧
      (s.framer.append (s.upstream.take n)).drain.outs = frames.map (·.toFrame) ∧
      ∀ world downstream sent, Upstream opts { s with
        upstream := s.upstream.drop n
        framer := ⟨(s.framer.append (s.upstream.take n)).drain.buf⟩
        world := world
        downstream := downstream
        handled := s.handled ++ (s.framer.append (s.upstream.take n)).drain.outs
        sent := sent } (first ++ next) after (done ++ frames) rest' := by
  have hunderway := h.underway
  have hcut : s.framer.buf ++ (s.upstream ++ s.pending.flatten.flatten) =
      (s.framer.buf ++ s.upstream.take n) ++ (s.upstream.drop n ++ s.pending.flatten.flatten) := by
    rw [List.append_assoc, ← List.append_assoc (s.upstream.take n), List.take_append_drop]
  rw [hcut] at hunderway
  obtain ⟨frames, rest', rfl, houts, hsplit, hpart⟩ :=
    framer_reads.drain (fun _ _ => trivial) ⟨_, hunderway⟩ (Scan.not_torn (fun _ _ => id) _ _)
  have hbefore := List.forall₂_take_append _ _ _ h.after
  have hafter := List.forall₂_drop_append _ _ _ h.after
  refine ⟨later.take frames.length, later.drop frames.length, frames, rest',
    (List.take_append_drop _ _).symm, hbefore, houts, ?_⟩
  intro world downstream sent
  refine ⟨?_, List.rel_append h.before hbefore, hafter, ?_, hpart, ?_, h.single⟩
  · rw [List.append_assoc, List.take_append_drop]
    exact h.packets
  · have houts' : (s.framer.append (s.upstream.take n)).drain.outs = frames.map (·.toFrame) := houts
    rw [houts', h.handled, List.map_append]
  · exact Scan.underway_of_split hsplit hunderway

/-! ### The stream to the simulator -/

/-- The messages that were read and those on their way. -/
structure Downstream (s : Duplex) (done rest : List ServerMessage) : Prop where
  sent : s.sent = done ++ rest
  read : s.read = done.map ServerMessage.incoming
  part : Scan.Partial ServerMessage.encode rest s.device.rxBuf
  underway : s.device.rxBuf ++ s.downstream = rest.flatMap ServerMessage.encode
  answered : s.packets.filterMap Packet.command? = commandsOf done

/-- Messages that are sent come behind the others. -/
theorem Downstream.send {s : Duplex} {done rest : List ServerMessage} (h : Downstream s done rest)
    (msgs : List ServerMessage) : ∀ upstream framer world handled, Downstream { s with
      upstream := upstream
      framer := framer
      world := world
      downstream := s.downstream ++ msgs.flatMap ServerMessage.encode
      handled := handled
      sent := s.sent ++ msgs } done (rest ++ msgs) := by
  intro upstream framer world handled
  refine ⟨?_, h.read, h.part.append fun m _ => m.encode_length_pos, ?_, h.answered⟩
  · show s.sent ++ msgs = _
    rw [h.sent, List.append_assoc]
  · show s.device.rxBuf ++ (s.downstream ++ _) = _
    rw [← List.append_assoc, h.underway, List.flatMap_append]

variable (opts) in
/-- What a read makes of bytes of the stream: messages are taken off, and those behind are left. -/
structure Took (bytes : List UInt8) (taken left : List ServerMessage) (r : Received) : Prop where
  split : bytes = taken.flatMap ServerMessage.encode ++ r.device.rxBuf
  part : Scan.Partial ServerMessage.encode left r.device.rxBuf
  incoming : r.incoming = taken.map ServerMessage.incoming
  responses : r.responses = (commandsOf taken).map fun command => (answerFrame opts command).encode
  streaming : r.device.state = .streaming
  valid : r.device.sim.Valid

/-- What the loop of `pump` makes of messages, if none is torn. -/
theorem consume_took {d : Device} {rest : List ServerMessage} (hstate : d.state = .streaming)
    (hvalid : d.sim.Valid) (hok : ∀ m ∈ rest, m.Ok opts)
    (hbuf : d.rxBuf <+: rest.flatMap ServerMessage.encode)
    (huntorn : ¬ Scan.Torn ServerMessage.encode ServerMessage.Tears rest d.rxBuf.length)
    (first : Option (List UInt8)) :
    ∃ taken left r, rest = taken ++ left ∧ d.consume opts first = some r ∧ r.first = first ∧
      Took opts d.rxBuf taken left r := by
  obtain ⟨taken, left, rfl, houts, hsplit, hpart⟩ := (pump_reads opts).drain hok hbuf huntorn
  refine ⟨taken, left, ⟨{ d with rxBuf := ((pump opts).drain d.rxBuf).buf }, first,
    taken.map ServerMessage.incoming, (commandsOf taken).map fun command =>
      (answerFrame opts command).encode⟩, rfl, ?_, rfl, ⟨hsplit, hpart, rfl, rfl, hstate, hvalid⟩⟩
  rw [Device.consume, houts, respond_eq fun m hm => hok m (List.mem_append_left _ hm)]
  rfl

/-- The answers that are noted down are those to the commands. -/
theorem response_incoming {msgs : List ServerMessage} (hok : ∀ m ∈ msgs, m.Ok opts) :
    (msgs.map ServerMessage.incoming).filterMap Incoming.response? =
      (commandsOf msgs).map .response := by
  induction msgs with
  | nil => rfl
  | cons m rest ih =>
      obtain ⟨hm, hrest⟩ := List.forall_mem_cons.mp hok
      rw [List.map_cons, List.filterMap_cons, commandsOf, List.filterMap_cons, ← commandsOf]
      rcases m with count | command
      · exact ih hrest
      · have hresponse : (ServerMessage.incoming (.commanded command)).response? =
            some (.response command) := by
          rw [ServerMessage.incoming, Incoming.response?, commandOf_eq hm.2]
          rfl
        rw [hresponse, ServerMessage.command?, List.map_cons, ih hrest]

/-! ### Steps in order -/

/-- How many bytes the simulator has for `pump`, after it reads so many. -/
def Duplex.buffered (s : Duplex) (n : Nat) : Nat :=
  s.device.rxBuf.length + n - if s.device.state = .waitingHandshake then 1 else 0

variable (opts env) in
/-- A step that keeps the streams in order: a frame is not sent, and a command not answered, while
slices of a packet are waiting, no command is torn, and those that are sent are fit. -/
def Orderly (s : Duplex) : DuplexEvent → Prop
  | .tick _ _ => s.pending = []
  | .slice _ => True
  | .serverRead _ => True
  | .command text => ServerMessage.Ok opts (.commanded text)
  | .deviceRead base _ n =>
    ¬ Scan.Torn ServerMessage.encode ServerMessage.Tears (s.sent.drop s.read.length)
        (s.buffered n) ∧
      ∀ r, s.device.receive opts env base (s.downstream.take n) = some r →
        r.responses = [] ∨ (s.pending = [] ∧ (r.first = none ∨ opts.fragment = false))

/-! ### The invariant -/

variable (opts conn sess world) in
/-- What the server has made of the packets that it handled. -/
structure Stored (first : List Packet) (s : Duplex) (log : List BatchLog) : Prop where
  of : List.Forall₂ (fun recs b => BatchLog.Of conn.toEnv
    (recs.map (·.position opts.extended sess.deviceID)) b) (first.filterMap Packet.report?) log
  rows : s.world.db.positions = world.db.positions ++ log.flatMap (·.rows)
  acknowledged : s.sent.filterMap ServerMessage.count? = log.map (·.stored)

/-- The simulator before and after it was accepted. -/
inductive Connected (s : Duplex) : Prop where
  | waiting (hstate : s.device.state = .waitingHandshake) (hbuf : s.device.rxBuf = [])
      (hdownstream : s.downstream = imeiAccept ++ s.sent.flatMap ServerMessage.encode)
      (hread : s.read = []) (hpackets : s.packets = []) (hpending : s.pending = [])
  | streaming {done rest : List ServerMessage} (hstate : s.device.state = .streaming)
      (hdown : Downstream s done rest)

variable (opts conn sess world) in
/-- What every orderly step keeps. -/
structure Inv (s : Duplex) : Prop where
  valid : s.device.sim.Valid
  ok : ∀ m ∈ s.sent, m.Ok opts
  up : ∃ first later done rest log, Upstream opts s first later done rest ∧
    Stored opts conn sess world first s log
  connected : Connected s

theorem inv_accepted : Inv opts conn sess world (.accepted world) where
  valid := Sim.new_valid
  ok := by
    intro m hm
    exact absurd hm List.not_mem_nil
  up := by
    refine ⟨[], [], [], [], [], ⟨rfl, .nil, .nil, rfl, .nil, rfl, Nat.zero_le _⟩, .nil, ?_, rfl⟩
    exact (List.append_nil _).symm
  connected := .waiting rfl rfl rfl rfl rfl rfl

/-- A burst that is sent is the frame of its records. -/
theorem sendFrame_carries (hburst : opts.burst ≤ 255) {base : Int} {d d' : Device}
    {packet : List UInt8} (hvalid : d.sim.Valid)
    (h : sendFrame opts env base d = some (packet, d')) :
    ∃ f, Carries opts (.records (burstRecords opts env base opts.burst 0 d.sim).1) f ∧
      packet = frameBytes f ∧ d'.sim.Valid ∧ d'.state = d.state ∧ d'.rxBuf = d.rxBuf := by
  obtain ⟨hplaced, hsim⟩ := placed_of_sendFrame h
  obtain ⟨hrecs, hnext⟩ := burstRecords_valid opts env base opts.burst 0 hvalid
  have hcount := (burstRecords_length opts env base opts.burst 0 d.sim).trans_le hburst
  refine ⟨_, .records hrecs hplaced hcount, ?_, hsim ▸ hnext, ?_⟩
  · obtain ⟨d₁, hsend, -⟩ := sendFrame_eq base hvalid hplaced hcount
    rw [hsend] at h
    exact (Prod.mk.inj (Option.some.inj h)).1.symm
  · obtain ⟨sent, -, h⟩ := Option.bind_eq_some_iff.mp h
    obtain ⟨-, rfl⟩ := Prod.mk.inj (Option.some.inj h)
    exact ⟨rfl, rfl⟩

/-- The read in which the simulator is accepted: it sends its first frame and takes what follows. -/
theorem receive_accepted (hburst : opts.burst ≤ 255) {d : Device} (hvalid : d.sim.Valid)
    (hstate : d.state = .waitingHandshake) (hempty : d.rxBuf = []) {base : Int}
    {bytes : List UInt8} {rest : List ServerMessage} (hok : ∀ m ∈ rest, m.Ok opts)
    (hbytes : bytes <+: rest.flatMap ServerMessage.encode)
    (huntorn : ¬ Scan.Torn ServerMessage.encode ServerMessage.Tears rest bytes.length)
    {r : Received} (h : d.receive opts env base (0x01 :: bytes) = some r) :
    ∃ taken left f, rest = taken ++ left ∧ Took opts bytes taken left r ∧
      Carries opts (.records (burstRecords opts env base opts.burst 0 d.sim).1) f ∧
      r.first = some (frameBytes f) := by
  rw [receive_waiting hstate hempty] at h
  obtain ⟨⟨packet, d'⟩, hsend, hconsume⟩ := Option.bind_eq_some_iff.mp h
  obtain ⟨f, hcarries, rfl, hvalid', hstreaming, hbuf⟩ :=
    sendFrame_carries hburst (by exact hvalid) hsend
  obtain rfl : d'.rxBuf = bytes := hbuf
  obtain ⟨taken, left, r', hrest, hconsume', hfirst, htook⟩ :=
    consume_took hstreaming hvalid' hok hbytes huntorn (some (frameBytes f))
  obtain rfl := Option.some.inj (hconsume.symm.trans hconsume')
  exact ⟨taken, left, f, hrest, htook, hcarries, hfirst⟩

/-! ### Every step keeps it -/

theorem Inv.tick (hburst : opts.burst ≤ 255) {s s' : Duplex} (h : Inv opts conn sess world s)
    {base : Int} {lengths : List Nat} (hpending : s.pending = [])
    (hstep : s.step opts env conn redis sess (.tick base lengths) = some s') :
    Inv opts conn sess world s' := by
  rw [Duplex.step] at hstep
  split_ifs at hstep with hrunning
  obtain ⟨⟨packet, device⟩, hsend, hstep⟩ := Option.bind_eq_some_iff.mp hstep
  obtain ⟨parts, hwrite, hstep⟩ := Option.bind_eq_some_iff.mp hstep
  obtain rfl := Option.some.inj hstep
  obtain ⟨f, hcarries, rfl, hvalid, hstate, hbuf⟩ := sendFrame_carries hburst h.valid hsend
  obtain ⟨first, later, done, rest, log, hup, hstored⟩ := h.up
  have hput := hup.put hpending hcarries (writePacket_parts hwrite).1
  refine ⟨hvalid, h.ok, ⟨first, _, done, _, log, ⟨hput.1, hput.2, hput.3, hput.4, hput.5, hput.6,
    hput.7⟩, ⟨hstored.1, hstored.2, hstored.3⟩⟩, ?_⟩
  cases h.connected with
  | waiting hwaiting => exact absurd (hwaiting.symm.trans hrunning.1) State.noConfusion
  | streaming _ hdown =>
      refine .streaming (hstate.trans hrunning.1) ⟨hdown.sent, hdown.read, ?_, ?_, ?_⟩
      · show Scan.Partial _ _ device.rxBuf
        rw [hbuf]
        exact hdown.part
      · show device.rxBuf ++ _ = _
        rw [hbuf]
        exact hdown.underway
      · show (s.packets ++ [_]).filterMap _ = _
        rw [List.filterMap_append, hdown.answered]
        exact List.append_nil _

theorem Inv.slice {s s' : Duplex} (h : Inv opts conn sess world s) {i : Nat}
    (hstep : s.step opts env conn redis sess (.slice i) = some s') :
    Inv opts conn sess world s' := by
  rw [Duplex.step] at hstep
  rcases hget : s.pending[i]? with _ | ⟨_ | ⟨part, parts⟩⟩
  · rw [hget] at hstep
    cases hstep
  · rw [hget] at hstep
    cases hstep
  · rw [hget] at hstep
    obtain rfl := Option.some.inj hstep
    obtain ⟨first, later, done, rest, log, hup, hstored⟩ := h.up
    refine ⟨h.valid, h.ok, ⟨first, later, done, rest, log, hup.slice hget,
      ⟨hstored.1, hstored.2, hstored.3⟩⟩, ?_⟩
    cases h.connected with
    | waiting _ _ _ _ _ hpending =>
        rw [hpending] at hget
        cases hget
    | streaming hstate hdown =>
        exact .streaming hstate ⟨hdown.1, hdown.2, hdown.3, hdown.4, hdown.5⟩

/-- Messages that are sent keep the simulator connected. -/
theorem Connected.send {s : Duplex} (h : Connected s) (msgs : List ServerMessage) :
    ∀ upstream framer world handled, Connected { s with
      upstream := upstream
      framer := framer
      world := world
      downstream := s.downstream ++ msgs.flatMap ServerMessage.encode
      handled := handled
      sent := s.sent ++ msgs } := by
  intro upstream framer world handled
  cases h with
  | waiting hstate hbuf hdownstream hread hpackets hpending =>
      refine .waiting hstate hbuf ?_ hread hpackets hpending
      show s.downstream ++ _ = _
      rw [hdownstream, List.append_assoc, List.flatMap_append]
  | streaming hstate hdown =>
      exact .streaming hstate (hdown.send msgs upstream framer world handled)

theorem Inv.command {s s' : Duplex} (h : Inv opts conn sess world s) {text : String}
    (hok : ServerMessage.Ok opts (.commanded text))
    (hstep : s.step opts env conn redis sess (.command text) = some s') :
    Inv opts conn sess world s' := by
  rw [Duplex.step] at hstep
  obtain rfl := Option.some.inj hstep
  obtain ⟨first, later, done, rest, log, hup, hstored⟩ := h.up
  refine ⟨h.valid, ?_, ⟨first, later, done, rest, log, ⟨hup.1, hup.2, hup.3, hup.4, hup.5, hup.6,
    hup.7⟩, ⟨hstored.1, hstored.2, ?_⟩⟩, ?_⟩
  · intro m hm
    rcases List.mem_append.mp hm with hm | hm
    · exact h.ok m hm
    · rw [List.mem_singleton.mp hm]
      exact hok
  · show (s.sent ++ [_]).filterMap _ = _
    rw [List.filterMap_append, hstored.acknowledged]
    exact List.append_nil _
  · have hsend := h.connected.send [.commanded text] s.upstream s.framer s.world s.handled
    rwa [List.flatMap_singleton] at hsend

theorem report_length {packets : List Packet} {frames : List SentFrame}
    (h : List.Forall₂ (Carries opts) packets frames) :
    ∀ recs ∈ packets.filterMap Packet.report?, recs.length ≤ 255 := by
  induction h with
  | nil => exact fun _ hrecs => absurd hrecs List.not_mem_nil
  | cons hcarries _ ih =>
      cases hcarries with
      | records _ _ hcount => exact List.forall_mem_cons.mpr ⟨hcount, ih⟩
      | response _ => exact ih

/-- The acknowledgements of a log, as they are sent. -/
theorem acknowledgements {packets : List Packet} {frames : List SentFrame} {log : List BatchLog}
    {w w' : ConnWorld} (hcarries : List.Forall₂ (Carries opts) packets frames)
    (h : Logged opts conn sess packets log w w') :
    ((w'.written.drop w.written.length).map (·.1)).flatten =
        (log.map fun b => ServerMessage.acknowledged b.stored).flatMap ServerMessage.encode ∧
      (w'.written.drop w.written.length).map (fun answer => .acknowledged (beNat answer.1)) =
        log.map (fun b => ServerMessage.acknowledged b.stored) ∧
      ∀ b ∈ log, b.stored ≤ 255 := by
  have hstored : ∀ b ∈ log, b.stored ≤ 255 := by
    have hof := (List.forall₂_and_left _ _).mpr ⟨report_length hcarries, h.of⟩
    have hflip : List.Forall₂ (fun (b : BatchLog) (_ : List Rec) => b.stored ≤ 255 ∧ True) log
        (packets.filterMap Packet.report?) := by
      refine (hof.imp fun recs b hrecs => ?_).flip
      obtain ⟨hlength, hpositions, hle, -⟩ := hrecs
      have hcount := hpositions.length_eq
      rw [List.length_map] at hcount
      exact ⟨by omega, trivial⟩
    exact ((List.forall₂_and_left _ _).mp hflip).1
  have hdrop : (w'.written.drop w.written.length).map Prod.fst =
      log.map (acknowledge ·.stored) := by
    rw [List.map_drop, h.answers, ← List.length_map Prod.fst, List.drop_left]
  refine ⟨?_, ?_, hstored⟩
  · have hflat := congrArg List.flatten hdrop
    rw [List.flatMap_map, List.flatMap_def]
    exact hflat
  · have hread : (w'.written.drop w.written.length).map
        (fun answer => ServerMessage.acknowledged (beNat answer.1)) =
          (log.map (acknowledge ·.stored)).map fun bytes => .acknowledged (beNat bytes) := by
      rw [← hdrop, List.map_map]
      rfl
    rw [hread, List.map_map]
    refine List.map_congr_left fun b hb => ?_
    have hle := hstored b hb
    have hback : beNat (acknowledge b.stored) = b.stored := beNat_beBytes_of_lt (by omega)
    rw [Function.comp_apply, hback]

theorem Inv.serverRead {s s' : Duplex} (h : Inv opts conn sess world s) {n : Nat}
    (hstep : s.step opts env conn redis sess (.serverRead n) = some s') :
    Inv opts conn sess world s' := by
  obtain ⟨first, later, done, rest, log, hup, hstored⟩ := h.up
  obtain ⟨next, after, frames, rest', rfl, hcarries, houts, hread⟩ := hup.read n
  obtain ⟨es, w, more, hrun, hlogged⟩ := run_dispatch conn redis sess hcarries s.world
  obtain ⟨hbytes, hmsgs, h255⟩ := acknowledgements hcarries hlogged
  rw [Duplex.step] at hstep
  split_ifs at hstep with hn
  dsimp only at hstep
  rw [houts, hrun, Option.bind_eq_bind, Option.bind_some] at hstep
  dsimp only at hstep
  split_ifs at hstep with hwritten
  rw [hbytes, hmsgs, ← houts] at hstep
  obtain rfl := Option.some.inj hstep
  refine ⟨h.valid, ?_, ⟨first ++ next, after, _, rest', log ++ more, hread _ _ _, ?_, ?_, ?_⟩,
    h.connected.send _ _ _ _ _⟩
  · intro m hm
    rcases List.mem_append.mp hm with hm | hm
    · exact h.ok m hm
    · obtain ⟨b, hb, rfl⟩ := List.mem_map.mp hm
      exact h255 b hb
  · rw [List.filterMap_append]
    exact List.rel_append hstored.of hlogged.of
  · show w.db.positions = _
    rw [hlogged.rows, hstored.rows, List.flatMap_append, List.append_assoc]
  · show (s.sent ++ _).filterMap _ = _
    rw [List.filterMap_append, hstored.acknowledged, List.filterMap_map, List.map_append,
      List.append_cancel_left_eq]
    show more.filterMap (some ∘ fun b => b.stored) = _
    rw [List.filterMap_eq_map]

theorem commandsOf_append (msgs more : List ServerMessage) :
    commandsOf (msgs ++ more) = commandsOf msgs ++ commandsOf more := List.filterMap_append

/-- The commands that are answered, as they are noted down. -/
theorem command_response (commands : List String) :
    (commands.map Packet.response).filterMap Packet.command? = commands := by
  rw [List.filterMap_map]
  exact List.filterMap_some

/-- Messages that are taken off the stream are answered behind everything that was written. -/
theorem Inv.took {t : Duplex} {n : Nat} {bytes : List UInt8} {done taken left : List ServerMessage}
    {r : Received} (hok : ∀ m ∈ t.sent, m.Ok opts)
    (hup : ∃ first later before after log, Upstream opts t first later before after ∧
      Stored opts conn sess world first t log)
    (hsent : t.sent = done ++ (taken ++ left)) (hread : t.read = done.map ServerMessage.incoming)
    (hanswered : t.packets.filterMap Packet.command? = commandsOf done)
    (htook : Took opts bytes taken left r)
    (hunderway : bytes ++ t.downstream.drop n = (taken ++ left).flatMap ServerMessage.encode)
    (hfree : r.responses = [] ∨ t.pending = []) :
    Inv opts conn sess world { t with
      device := r.device
      upstream := t.upstream ++ r.responses.flatten
      downstream := t.downstream.drop n
      packets := t.packets ++ r.incoming.filterMap Incoming.response?
      read := t.read ++ r.incoming } := by
  have htaken : ∀ m ∈ taken, m.Ok opts := by
    intro m hm
    exact hok m (hsent ▸ List.mem_append_right _ (List.mem_append_left _ hm))
  have hanswers : commandsOf taken = [] ∨ t.pending = [] := by
    rw [htook.responses] at hfree
    exact hfree.imp_left List.map_eq_nil_iff.mp
  obtain ⟨first, later, before, after, log, hup, hstored⟩ := hup
  have hup' := hup.answers hanswers fun command hcommand =>
    length_of_mem_commandsOf htaken hcommand
  rw [htook.incoming, response_incoming htaken, htook.responses]
  refine ⟨htook.valid, hok, ⟨first, _, before, _, log, ⟨hup'.1, hup'.2, hup'.3, hup'.4, hup'.5,
    hup'.6, hup'.7⟩, ⟨hstored.1, hstored.2, hstored.3⟩⟩, ?_⟩
  refine .streaming htook.streaming (?_ : Downstream _ (done ++ taken) left)
  refine ⟨?_, ?_, htook.part, Scan.underway_of_split htook.split hunderway, ?_⟩
  · rw [hsent, List.append_assoc]
  · show t.read ++ _ = _
    rw [hread, List.map_append]
  · show (t.packets ++ _).filterMap _ = _
    rw [List.filterMap_append, hanswered, command_response, commandsOf_append]

/-- The simulator reads more of the messages. -/
theorem Inv.readStreaming {s s' : Duplex} (h : Inv opts conn sess world s) {base : Int}
    {lengths : List Nat} {n : Nat} (hstate : s.device.state = .streaming)
    {done rest : List ServerMessage} (hdown : Downstream s done rest)
    (horderly : Orderly opts env s (.deviceRead base lengths n))
    (hstep : s.step opts env conn redis sess (.deviceRead base lengths n) = some s') :
    Inv opts conn sess world s' := by
  rw [Duplex.step] at hstep
  split_ifs at hstep with hn
  obtain ⟨huntorn, hfree⟩ := horderly
  have hrest : s.sent.drop s.read.length = rest := by
    rw [hdown.sent, hdown.read, List.length_map, List.drop_left]
  have hbuffered : s.buffered n = (s.device.rxBuf ++ s.downstream.take n).length := by
    rw [Duplex.buffered, hstate, List.length_append, List.length_take]
    simp
    omega
  rw [hrest, hbuffered] at huntorn
  have hunderway : (s.device.rxBuf ++ s.downstream.take n) ++ s.downstream.drop n =
      rest.flatMap ServerMessage.encode := by
    rw [List.append_assoc, List.take_append_drop, hdown.underway]
  have hok : ∀ m ∈ rest, m.Ok opts := by
    intro m hm
    exact h.ok m (hdown.sent ▸ List.mem_append_right _ hm)
  obtain ⟨taken, left, r, rfl, hconsume, hfirst, htook⟩ := consume_took
    (d := { s.device with rxBuf := s.device.rxBuf ++ s.downstream.take n }) hstate h.valid hok
      ⟨_, hunderway⟩ huntorn none
  have hreceive : s.device.receive opts env base (s.downstream.take n) = some r :=
    (receive_streaming hstate base _).trans hconsume
  rw [hreceive, Option.bind_eq_bind, Option.bind_some, hfirst] at hstep
  dsimp only [Duplex.start] at hstep
  rw [Option.bind_eq_bind, Option.bind_some] at hstep
  obtain rfl := Option.some.inj hstep
  refine Inv.took h.ok h.up hdown.sent hdown.read hdown.answered htook hunderway ?_
  exact (hfree r hreceive).imp_right fun hlone => hlone.1

/-- The simulator is accepted, and sends its first frame. -/
theorem Inv.readWaiting (hburst : opts.burst ≤ 255) {s s' : Duplex}
    (h : Inv opts conn sess world s) {base : Int} {lengths : List Nat} {n : Nat}
    (hstate : s.device.state = .waitingHandshake) (hempty : s.device.rxBuf = [])
    (hdownstream : s.downstream = imeiAccept ++ s.sent.flatMap ServerMessage.encode)
    (hread : s.read = []) (hpackets : s.packets = []) (hpending : s.pending = [])
    (horderly : Orderly opts env s (.deviceRead base lengths n))
    (hstep : s.step opts env conn redis sess (.deviceRead base lengths n) = some s') :
    Inv opts conn sess world s' := by
  rw [Duplex.step] at hstep
  split_ifs at hstep with hn
  obtain ⟨k, rfl⟩ : ∃ k, n = k + 1 := ⟨n - 1, by omega⟩
  obtain ⟨huntorn, hfree⟩ := horderly
  have hchunk : s.downstream.take (k + 1) =
      0x01 :: (s.sent.flatMap ServerMessage.encode).take k := by
    rw [hdownstream]
    rfl
  have hlength : s.downstream.length = (s.sent.flatMap ServerMessage.encode).length + 1 := by
    rw [hdownstream, imeiAccept, List.singleton_append, List.length_cons]
  have hbuffered : s.buffered (k + 1) = ((s.sent.flatMap ServerMessage.encode).take k).length := by
    rw [Duplex.buffered, hstate, if_pos rfl, hempty, List.length_nil, List.length_take]
    omega
  rw [hread, List.length_nil, List.drop_zero, hbuffered] at huntorn
  obtain ⟨r, hr, hstep⟩ := Option.bind_eq_some_iff.mp hstep
  obtain ⟨taken, left, f, hsent, htook, hcarries, hfirst⟩ := receive_accepted hburst h.valid hstate
    hempty h.ok (List.take_prefix _ _) huntorn (hchunk ▸ hr)
  obtain ⟨t, hstart, hstep⟩ := Option.bind_eq_some_iff.mp hstep
  rw [hfirst] at hstart
  obtain ⟨parts, hwrite, rfl⟩ := Option.map_eq_some_iff.mp hstart
  obtain rfl := Option.some.inj hstep
  obtain ⟨hparts, hwhole⟩ := writePacket_parts hwrite
  obtain ⟨first, later, before, after, log, hup, hstored⟩ := h.up
  have hput := hup.put hpending hcarries hparts
  -- nothing was read before
  have hsent' : s.sent = [] ++ (taken ++ left) := hsent
  have hread' : s.read = [].map ServerMessage.incoming := hread
  refine Inv.took h.ok ⟨first, _, before, _, log, hput, ⟨hstored.1, hstored.2, hstored.3⟩⟩
    hsent' hread' ?_ htook ?_ ?_
  · show (s.packets ++ [_]).filterMap _ = _
    rw [hpackets]
    rfl
  · show _ ++ s.downstream.drop (k + 1) = _
    rw [hdownstream, imeiAccept, List.singleton_append, List.drop_succ_cons,
      List.take_append_drop, hsent]
  · rcases hfree r hr with hnone | ⟨-, hnone | hfragment⟩
    · exact .inl hnone
    · rw [hfirst] at hnone
      cases hnone
    · refine .inr ?_
      rw [hwhole hfragment, Duplex.put, hpending]
      rfl

theorem Inv.step (hburst : opts.burst ≤ 255) {s s' : Duplex} (h : Inv opts conn sess world s)
    {event : DuplexEvent} (horderly : Orderly opts env s event)
    (hstep : s.step opts env conn redis sess event = some s') : Inv opts conn sess world s' := by
  cases event with
  | tick base lengths => exact h.tick hburst horderly hstep
  | slice i => exact h.slice hstep
  | serverRead n => exact h.serverRead hstep
  | command text => exact h.command horderly hstep
  | deviceRead base lengths n =>
      cases h.connected with
      | waiting hstate hempty hdownstream hread hpackets hpending =>
          exact h.readWaiting hburst hstate hempty hdownstream hread hpackets hpending horderly
            hstep
      | streaming hstate hdown => exact h.readStreaming hstate hdown horderly hstep

/-! ### What is delivered -/

variable (opts conn sess world) in
/-- The server has the first packets as they were written, and the simulator the first messages; and
all of them, once nothing is on its way. -/
structure Delivered (s : Duplex) : Prop where
  /-- Of each report the first positions are stored, as many as are acknowledged. -/
  packets : ∃ first later log, s.packets = first ++ later ∧
    List.Forall₂ (Packet.Reaches opts) first s.handled ∧ Stored opts conn sess world first s log ∧
      (s.upstream = [] → s.pending = [] → later = [])
  /-- Each command that was read is answered. -/
  messages : ∃ done rest, s.sent = done ++ rest ∧ s.read = done.map ServerMessage.incoming ∧
    s.packets.filterMap Packet.command? = commandsOf done ∧ (s.downstream = [] → rest = [])

theorem Inv.delivered {s : Duplex} (h : Inv opts conn sess world s) :
    Delivered opts conn sess world s where
  packets := by
    obtain ⟨first, later, before, after, log, hup, hstored⟩ := h.up
    refine ⟨first, later, log, hup.packets, ?_, hstored, ?_⟩
    · rw [hup.handled, List.forall₂_map_right_iff]
      exact hup.before.imp fun _ _ hcarries => hcarries.reaches
    · intro hupstream hpending
      have hunderway := hup.underway
      rw [hupstream, hpending, List.flatten_nil, List.flatten_nil, List.append_nil,
        List.append_nil] at hunderway
      have hafter := hup.after
      rw [hup.part.eq_nil_iff.mp hunderway] at hafter
      exact List.forall₂_nil_right_iff.mp hafter
  messages := by
    cases h.connected with
    | waiting _ _ hdownstream hread hpackets =>
        refine ⟨[], s.sent, rfl, hread, ?_, ?_⟩
        · rw [hpackets]
          rfl
        · intro hempty
          rw [hdownstream] at hempty
          cases hempty
    | streaming _ hdown =>
        refine ⟨_, _, hdown.sent, hdown.read, hdown.answered, ?_⟩
        intro hempty
        have hunderway := hdown.underway
        rw [hempty, List.append_nil] at hunderway
        exact hdown.part.eq_nil_iff.mp hunderway

end RudraNetra.Simulator
