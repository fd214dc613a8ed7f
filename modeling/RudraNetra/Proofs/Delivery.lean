/-
Frames are stored at least once.

Nothing in the table of positions tells a frame that is sent again from a new one, so a
frame whose acknowledgement is lost is stored again.  What does hold is that nothing is
lost: `Link.Sound` says what is true of a connection at any time, a step on it keeps
that (`Link.step_sound`), and a frame is only thrown away when some handling stored all
its records.  In all runs the table then consists of what the handlings stored, each as
far as it came.
-/
import RudraNetra.Proofs.Handling
import RudraNetra.Proofs.RoundTrip

namespace RudraNetra

open Wire

section

variable {Frame : Type} {deviceID : Int} {report : Frame → Report deviceID}

/-- The rows that an attempt stored. -/
def Attempt.rows (a : Attempt Frame) : List PositionRow :=
  (a.positions.take a.stored).map positionRow

def Link.rows (l : Link Frame) : List PositionRow := l.attempts.flatMap Attempt.rows

def Delivery.attempts (s : Delivery Frame) : List (Attempt Frame) := s.parts.flatMap Link.attempts

variable (report) in
/-- The attempt is about the records of its frame. -/
structure Attempt.Genuine (a : Attempt Frame) : Prop where
  normalised : List.Forall₂ Normalised (report a.frame).positions a.positions
  stored_le : a.stored ≤ a.positions.length

variable (report) in
/-- What is true of a connection at any time. -/
structure Link.Sound (l : Link Frame) : Prop where
  genuine : ∀ a ∈ l.attempts, a.Genuine report
  /-- The chunks come behind what is stored. -/
  pending : ∀ h, l.handling = some h →
    h.chunks.flatten <+: h.attempt.positions.drop h.attempt.stored
  truthful : ∀ p ∈ l.answers, p.1 ∈ l.finished ∧ p.2 = acknowledge p.1.stored
  /-- The answers are to the frames that the device has waited for longest. -/
  order : l.answers.map (·.1.frame) <+: l.awaited
  /-- While writes succeed, every frame that was sent is answered, handled or in flight. -/
  complete : l.writable → l.awaited =
    l.answers.map (·.1.frame) ++ (l.handling.map (·.attempt.frame)).toList ++ l.inflight

variable (report) in
/-- The attempt stored every record of the frame. -/
def Attempt.Stores (a : Attempt Frame) (frame : Frame) : Prop :=
  a.frame = frame ∧ a.stored = (report frame).positions.length

variable (report) in
/-- What a step on a connection does to the rest. -/
structure Link.Advances (sh : Shared Frame) (l : Link Frame) (sh' : Shared Frame)
    (l' : Link Frame) : Prop where
  rows : ∃ new, sh'.db.positions = sh.db.positions ++ new ∧ l'.rows = l.rows ++ new
  finished : ∀ a ∈ l.finished, a ∈ l'.finished
  discarded : ∀ frame ∈ sh'.discarded, frame ∈ sh.discarded ∨
    ∃ a ∈ l'.finished, a.Stores report frame

/-- A step that only moves frames around and keeps the attempts. -/
theorem Link.Advances.of_attempts {sh : Shared Frame} {l l' : Link Frame}
    (hattempts : l'.attempts = l.attempts) (hfinished : ∀ a ∈ l.finished, a ∈ l'.finished) :
    l.Advances report sh sh l' := by
  refine ⟨⟨[], by simp, ?_⟩, hfinished, fun _ h => .inl h⟩
  rw [Link.rows, hattempts, List.append_nil]
  rfl

/-! ### What keeps a connection sound -/

theorem Link.Sound.send {l : Link Frame} (hl : l.Sound report) (frame : Frame) :
    ({ l with awaited := l.awaited ++ [frame], inflight := l.inflight ++ [frame] } :
      Link Frame).Sound report where
  genuine := hl.genuine
  pending := hl.pending
  truthful := hl.truthful
  order := hl.order.trans (List.prefix_append _ _)
  complete := by
    intro hwritable
    show l.awaited ++ [frame] = _
    rw [hl.complete hwritable, List.append_assoc]

theorem Link.Sound.lose {l : Link Frame} (hl : l.Sound report) :
    ({ l with
        alive := false
        writable := false
        handling := none
        finished := l.attempts } : Link Frame).Sound report where
  genuine := by
    intro a ha
    rw [Link.attempts, Option.map_none, Option.toList_none, List.append_nil] at ha
    exact hl.genuine a ha
  pending := nofun
  truthful := by
    intro p hp
    obtain ⟨hfin, hbytes⟩ := hl.truthful p hp
    exact ⟨List.mem_append_left _ hfin, hbytes⟩
  order := hl.order
  complete := nofun

theorem Link.Sound.take {l : Link Frame} (hl : l.Sound report) (hidle : l.handling = none)
    {frame : Frame} {rest : List Frame} (hflight : l.inflight = frame :: rest)
    (clock : Nat → Int) :
    let positions := (normalise clock (report frame).positions 0).1
    ({ l with inflight := rest }.busy ⟨frame, positions, 0⟩ (chunks positions)).Sound report where
  genuine := by
    intro a ha
    rw [Link.busy_attempts] at ha
    rcases List.mem_append.mp ha with ha | ha
    · exact hl.genuine a (List.mem_append_left _ ha)
    · obtain rfl := List.mem_singleton.mp ha
      exact ⟨normalise_spec clock _ 0, Nat.zero_le _⟩
  pending := by
    intro h hh
    obtain rfl := Option.some.inj hh
    show (chunks _).flatten <+: _
    rw [chunks_flatten, List.drop_zero]
  truthful := hl.truthful
  order := hl.order
  complete := by
    intro hwritable
    show l.awaited = l.answers.map (·.1.frame) ++ [frame] ++ rest
    rw [hl.complete hwritable, hidle, hflight]
    simp

/-- The chunk that is stored is what the attempt has to store next. -/
theorem next_chunk {l : Link Frame} (hl : l.Sound report) {a : Attempt Frame}
    {chunk : List Position} {rest : List (List Position)}
    (hhandling : l.handling = some ⟨a, chunk :: rest⟩) :
    ∃ later, a.positions.drop a.stored = chunk ++ (rest.flatten ++ later) := by
  obtain ⟨later, hlater⟩ := hl.pending _ hhandling
  refine ⟨later, ?_⟩
  rw [← List.append_assoc, ← List.flatten_cons]
  exact hlater.symm

theorem Link.Sound.handling_genuine {l : Link Frame} (hl : l.Sound report) {h : Handling Frame}
    (hh : l.handling = some h) : h.attempt.Genuine report := by
  apply hl.genuine
  rw [Link.attempts, hh]
  simp

theorem Link.Sound.chunk {l : Link Frame} (hl : l.Sound report) {a : Attempt Frame}
    {chunk : List Position} {rest : List (List Position)}
    (hhandling : l.handling = some ⟨a, chunk :: rest⟩) :
    (l.busy { a with stored := a.stored + chunk.length } rest).Sound report := by
  have hgenuine : a.Genuine report := hl.handling_genuine hhandling
  obtain ⟨later, hlater⟩ := next_chunk hl hhandling
  refine ⟨?_, ?_, hl.truthful, hl.order, ?_⟩
  · intro b hb
    rw [Link.busy_attempts] at hb
    rcases List.mem_append.mp hb with hb | hb
    · exact hl.genuine b (List.mem_append_left _ hb)
    · obtain rfl := List.mem_singleton.mp hb
      refine ⟨hgenuine.normalised, ?_⟩
      have hlen := congrArg List.length hlater
      have hle := hgenuine.stored_le
      simp only [List.length_drop, List.length_append] at hlen
      show a.stored + chunk.length ≤ a.positions.length
      omega
  · intro h hh
    obtain rfl := Option.some.inj hh
    show rest.flatten <+: a.positions.drop (a.stored + chunk.length)
    rw [← List.drop_drop, hlater, List.drop_left]
    exact List.prefix_append _ _
  · intro hwritable
    have hall := hl.complete hwritable
    rw [hhandling] at hall
    exact hall

theorem Link.Sound.giveUp {l : Link Frame} (hl : l.Sound report) {a : Attempt Frame}
    {cs : List (List Position)} (hhandling : l.handling = some ⟨a, cs⟩) :
    (l.busy a []).Sound report := by
  refine ⟨?_, ?_, hl.truthful, hl.order, ?_⟩
  · intro b hb
    apply hl.genuine b
    rw [Link.attempts, hhandling]
    exact hb
  · intro h hh
    obtain rfl := Option.some.inj hh
    exact List.nil_prefix
  · intro hwritable
    have hall := hl.complete hwritable
    rw [hhandling] at hall
    exact hall

theorem Link.Sound.answer {l : Link Frame} (hl : l.Sound report) {a : Attempt Frame}
    {cs : List (List Position)} (hhandling : l.handling = some ⟨a, cs⟩) (ok : Bool) :
    (l.answered a ok).Sound report := by
  have hattempts : l.finished ++ [a] = l.attempts := by
    rw [Link.attempts, hhandling]
    rfl
  have hold : ∀ p ∈ l.answers, p.1 ∈ l.finished ++ [a] ∧ p.2 = acknowledge p.1.stored := by
    intro p hp
    obtain ⟨hfin, hbytes⟩ := hl.truthful p hp
    exact ⟨List.mem_append_left _ hfin, hbytes⟩
  have hgenuine : ∀ b ∈ l.finished ++ [a] ++ [], b.Genuine report := by
    intro b hb
    rw [List.append_nil, hattempts] at hb
    exact hl.genuine b hb
  dsimp only [Link.answered]
  by_cases hsent : (l.writable && ok) = true
  · obtain ⟨hwritable, -⟩ := Bool.and_eq_true_iff.mp hsent
    have hall := hl.complete hwritable
    rw [hhandling] at hall
    rw [if_pos hsent]
    refine ⟨hgenuine, nofun, ?_, ?_, ?_⟩
    · intro p hp
      rcases List.mem_append.mp hp with hp | hp
      · exact hold p hp
      · obtain rfl := List.mem_singleton.mp hp
        exact ⟨by simp, rfl⟩
    · show (l.answers ++ [(a, acknowledge a.stored)]).map (·.1.frame) <+: l.awaited
      rw [hall, List.map_append]
      exact List.prefix_append _ _
    · intro _
      show l.awaited = (l.answers ++ [(a, acknowledge a.stored)]).map (·.1.frame) ++ [] ++ l.inflight
      rw [hall, List.map_append, List.append_nil]
      rfl
  · rw [if_neg hsent]
    exact ⟨hgenuine, nofun, hold, hl.order, fun h => absurd h hsent⟩

theorem Link.Sound.hear {l : Link Frame} (hl : l.Sound report) {frame : Frame}
    {awaited : List Frame} {a : Attempt Frame} {bytes : List UInt8}
    {answers : List (Attempt Frame × List UInt8)} (hawaited : l.awaited = frame :: awaited)
    (hanswers : l.answers = (a, bytes) :: answers) :
    a.frame = frame ∧ ({ l with awaited := awaited, answers := answers } : Link Frame).Sound report := by
  have horder := hl.order
  rw [hanswers, hawaited, List.map_cons, List.cons_prefix_cons] at horder
  refine ⟨horder.1, hl.genuine, hl.pending, ?_, horder.2, ?_⟩
  · intro p hp
    apply hl.truthful
    rw [hanswers]
    exact List.mem_cons_of_mem _ hp
  · intro hwritable
    have hall := hl.complete hwritable
    rw [hanswers, hawaited] at hall
    exact List.tail_eq_of_cons_eq hall

/-- The acknowledgement of an attempt has room for the number of stored records. -/
theorem Attempt.Genuine.beNat_acknowledge {a : Attempt Frame} (ha : a.Genuine report) :
    beNat (acknowledge a.stored) = a.stored := by
  have hle := parseFrame_length_le (report a.frame).decodes
  have hstored := ha.stored_le
  rw [← ha.normalised.length_eq] at hstored
  exact beNat_beBytes_of_lt (by omega)

theorem Link.fresh_sound : (Link.fresh : Link Frame).Sound report :=
  ⟨nofun, nofun, nofun, List.nil_prefix, fun _ => rfl⟩

/-! ### A step on a connection -/

theorem Link.rows_of_idle {l : Link Frame} (h : l.handling = none) :
    l.rows = l.finished.flatMap Attempt.rows := by
  rw [Link.rows, Link.attempts, h]
  simp

theorem Link.rows_of_handling {l : Link Frame} {h : Handling Frame} (hh : l.handling = some h) :
    l.rows = l.finished.flatMap Attempt.rows ++ h.attempt.rows := by
  rw [Link.rows, Link.attempts, hh]
  simp

/-- A chunk adds its rows to those of the attempt. -/
theorem rows_chunk {a : Attempt Frame} {chunk later : List Position}
    (h : a.positions.drop a.stored = chunk ++ later) :
    ({ a with stored := a.stored + chunk.length } : Attempt Frame).rows =
      a.rows ++ chunk.map positionRow := by
  rw [Attempt.rows, Attempt.rows, List.take_add, h, List.take_left, List.map_append]

variable [DecidableEq Frame] {sh sh' : Shared Frame} {l l' : Link Frame}

theorem Link.step_take {clock : Nat → Int} (hl : l.Sound report)
    (h : l.step report sh (.take clock) = some (l', sh')) :
    l'.Sound report ∧ l.Advances report sh sh' l' := by
  rw [Link.step] at h
  split at h
  · rename_i frame rest _ hidle hflight
    rw [(report frame).decodes] at h
    obtain ⟨rfl, rfl⟩ := Prod.mk.inj (Option.some.inj h)
    refine ⟨hl.take hidle hflight clock, ⟨[], by simp, ?_⟩, fun _ h => h, fun _ h => .inl h⟩
    rw [Link.rows_of_handling rfl, Link.rows_of_idle hidle]
    rfl
  · cases h

theorem Link.step_chunk {outcome : Option Int} (hl : l.Sound report)
    (h : l.step report sh (.chunk outcome) = some (l', sh')) :
    l'.Sound report ∧ l.Advances report sh sh' l' := by
  rcases hhandling : l.handling with _ | ⟨a, _ | ⟨chunk, rest⟩⟩
  · rw [Link.step, hhandling] at h
    cases h
  · rw [Link.step, hhandling] at h
    cases h
  · rw [l.eq_busy hhandling] at h
    replace h := (connection_chunk report sh l sh a chunk rest outcome).symm.trans h
    by_cases hok : outcome.isSome
    · rw [if_pos hok] at h
      obtain ⟨rfl, rfl⟩ := Prod.mk.inj (Option.some.inj h)
      obtain ⟨later, hlater⟩ := next_chunk hl hhandling
      refine ⟨hl.chunk hhandling, ⟨chunk.map positionRow, rfl, ?_⟩, fun _ h => h,
        fun _ h => .inl h⟩
      rw [Link.rows_of_handling rfl, Link.rows_of_handling hhandling, List.append_assoc,
        ← rows_chunk hlater]
      rfl
    · rw [if_neg hok] at h
      obtain ⟨rfl, rfl⟩ := Prod.mk.inj (Option.some.inj h)
      refine ⟨hl.giveUp hhandling, .of_attempts ?_ fun _ h => h⟩
      rw [Link.attempts, Link.attempts, hhandling]
      rfl

theorem Link.step_answer {ok : Bool} (hl : l.Sound report)
    (h : l.step report sh (.answer ok) = some (l', sh')) :
    l'.Sound report ∧ l.Advances report sh sh' l' := by
  rw [Link.step] at h
  split at h
  · rename_i a hhandling
    obtain ⟨rfl, rfl⟩ := Prod.mk.inj (Option.some.inj h)
    refine ⟨hl.answer hhandling ok, .of_attempts ?_ fun _ h => List.mem_append_left _ h⟩
    rw [Link.attempts, Link.attempts, hhandling]
    exact List.append_nil _
  · cases h

theorem Link.step_hear (hl : l.Sound report)
    (h : l.step report sh .hear = some (l', sh')) :
    l'.Sound report ∧ l.Advances report sh sh' l' := by
  rw [Link.step] at h
  split at h
  · rename_i frame awaited a bytes answers _ hawaited hanswers
    obtain ⟨rfl, rfl⟩ := Prod.mk.inj (Option.some.inj h)
    obtain ⟨hframe, hsound⟩ := hl.hear hawaited hanswers
    obtain ⟨hfin, hbytes⟩ := hl.truthful (a, bytes) (by rw [hanswers]; exact List.mem_cons_self)
    have hgenuine := hl.genuine a (List.mem_append_left _ hfin)
    refine ⟨hsound, ?_⟩
    by_cases hall : beNat bytes = (report frame).positions.length
    · rw [if_pos hall]
      refine ⟨⟨[], by simp, by simp [Link.rows, Link.attempts]⟩, fun _ h => h, ?_⟩
      intro frame' hframe'
      rcases List.mem_cons.mp hframe' with rfl | hold
      · refine .inr ⟨a, hfin, hframe, ?_⟩
        rw [← hall, show bytes = acknowledge a.stored from hbytes, hgenuine.beNat_acknowledge]
      · exact .inl hold
    · rw [if_neg hall]
      exact .of_attempts rfl fun _ h => h
  · cases h

theorem Link.step_sound {event : LinkEvent Frame} (hl : l.Sound report)
    (h : l.step report sh event = some (l', sh')) :
    l'.Sound report ∧ l.Advances report sh sh' l' := by
  obtain frame | _ | _ | clock | outcome | ok | _ := event
  · rw [Link.step] at h
    by_cases hsend : l.opened ∧ frame ∉ sh.discarded
    · rw [if_pos hsend] at h
      obtain ⟨rfl, rfl⟩ := Prod.mk.inj (Option.some.inj h)
      exact ⟨hl.send frame, .of_attempts rfl fun _ h => h⟩
    · rw [if_neg hsend] at h
      cases h
  · obtain ⟨rfl, rfl⟩ := Prod.mk.inj (Option.some.inj h)
    exact ⟨⟨hl.genuine, hl.pending, hl.truthful, hl.order, hl.complete⟩,
      .of_attempts rfl fun _ h => h⟩
  · obtain ⟨rfl, rfl⟩ := Prod.mk.inj (Option.some.inj h)
    exact ⟨hl.lose, .of_attempts (List.append_nil _) fun _ h => List.mem_append_left _ h⟩
  · exact Link.step_take hl h
  · exact Link.step_chunk hl h
  · exact Link.step_answer hl h
  · exact Link.step_hear hl h

/-! ### Runs -/

theorem connection_keeps : (connection report).Keeps (Link.Sound report) where
  fresh := Link.fresh_sound
  step := fun hl h => (Link.step_sound hl h).1

variable {db : Database}

theorem Delivery.reachable_rows {s : Delivery Frame} (h : (delivery report db).Reachable s) :
    s.shared.db.positions.Perm (db.positions ++ s.parts.flatMap Link.rows) :=
  connection_keeps.log_perm (·.db.positions) Link.rows rfl
    (fun hl h => (Link.step_sound hl h).2.rows) h

theorem Delivery.reachable_discarded {s : Delivery Frame} (h : (delivery report db).Reachable s)
    {frame : Frame} (hframe : frame ∈ s.shared.discarded) :
    ∃ l ∈ s.parts, ∃ a ∈ l.finished, a.Stores report frame := by
  refine connection_keeps.backed (fun sh frame => frame ∈ sh.discarded)
    (fun l frame => ∃ a ∈ l.finished, a.Stores report frame) (fun _ => List.not_mem_nil) ?_ ?_ h
    hframe
  · exact fun hl h frame hframe => (Link.step_sound hl h).2.discarded frame hframe
  · intro _ _ _ _ _ hl h frame ⟨a, ha, hstores⟩
    exact ⟨a, (Link.step_sound hl h).2.finished a ha, hstores⟩

/-- Whatever the frame, it is stored twice if its answer gets lost with the connection, and the
device sends it again on another one. -/
theorem lostAnswer_duplicates (report : Frame → Report deviceID) (db : Database) (frame : Frame) :
    ∃ (s : Delivery Frame) (qs : List Position), (delivery report db).Reachable s ∧
      frame ∈ s.shared.discarded ∧ List.Forall₂ Normalised (report frame).positions qs ∧
      s.shared.db.positions = db.positions ++ (qs.map positionRow ++ qs.map positionRow) := by
  have hqs := normalise_spec (fun _ => 0) (report frame).positions 0
  have hle := parseFrame_length_le (report frame).decodes
  have hsend : ∀ db', ((connection report).alone ⟨db, []⟩).step (Link.fresh, ⟨db', []⟩)
      (.send frame) =
        some ({ Link.fresh with awaited := [frame], inflight := [frame] }, ⟨db', []⟩) := by
    intro db'
    show Link.step report ⟨db', []⟩ Link.fresh (.send frame) = _
    rw [Link.step, if_pos ⟨rfl, List.not_mem_nil⟩]
    rfl
  have hhandled : ∀ db', _ := fun db' => run_handled report ⟨db, []⟩ ⟨db', []⟩
    (l := { Link.fresh with awaited := [frame], inflight := [frame] }) rfl rfl rfl
  generalize (normalise (fun _ => 0) (report frame).positions 0).1 = qs at hqs hhandled
  have hall : beNat (acknowledge qs.length) = (report frame).positions.length := by
    rw [hqs.length_eq] at hle ⊢
    exact beNat_beBytes_of_lt (by omega)
  -- the device closes the first connection without reading the answer, and reads it on the second
  have hfirst := fun db' => (Machine.run_cons (hsend db')).trans
    ((Machine.run_append (hhandled db')).trans (Machine.run_singleton (a := .close) rfl))
  have hsecond := fun db' => (Machine.run_cons (hsend db')).trans
    ((Machine.run_append (hhandled db')).trans (Machine.run_singleton (a := .hear) rfl))
  simp only [if_pos hall] at hsecond
  have hjoin : ∀ s, (delivery report db).step s .join =
      some { s with parts := s.parts ++ [Link.fresh] } := fun _ => rfl
  have hreach := (Machine.Reachable.init.step (hjoin _)).run
    (Component.run_on (i := 0) rfl (hfirst db))
  have hreach' := (hreach.step (hjoin _)).run (Component.run_on (i := 1) rfl (hsecond _))
  exact ⟨_, qs, hreach', List.mem_cons_self, hqs, List.append_assoc _ _ _⟩

/-- **Nothing is lost.**  The table has what was in it before, and for each handling of a frame the
rows of its records as far as they were stored; a frame that the device has thrown away was stored
whole by one of them. -/
theorem delivered_at_least_once {s : Delivery Frame} (h : (delivery report db).Reachable s) :
    s.shared.db.positions.Perm (db.positions ++ s.attempts.flatMap Attempt.rows) ∧
      (∀ a ∈ s.attempts, a.Genuine report) ∧
      ∀ frame ∈ s.shared.discarded, ∃ a ∈ s.attempts, a.frame = frame ∧
        a.rows = a.positions.map positionRow := by
  have hgenuine : ∀ a ∈ s.attempts, a.Genuine report := by
    intro a ha
    obtain ⟨l, hl, ha⟩ := List.mem_flatMap.mp ha
    exact (connection_keeps.all h l hl).genuine a ha
  refine ⟨?_, hgenuine, ?_⟩
  · rw [Delivery.attempts, List.flatMap_assoc]
    exact Delivery.reachable_rows h
  · intro frame hframe
    obtain ⟨l, hl, a, ha, hsame, hall⟩ := Delivery.reachable_discarded h hframe
    have hattempt : a ∈ s.attempts := List.mem_flatMap.mpr ⟨l, hl, List.mem_append_left _ ha⟩
    refine ⟨a, hattempt, hsame, ?_⟩
    rw [Attempt.rows, hall, ← hsame, (hgenuine a hattempt).normalised.length_eq, List.take_length]

end

/-- A frame of records that have all their groups. -/
def Report.ofRecords {extended : Bool} (as : List (AVLRecord (layoutOf extended))) (deviceID : Int)
    (hcount : as.length ≤ 255) (hcomplete : ∀ a ∈ as, a.io.Complete) : Report deviceID where
  payload := avlPayload (codecOf extended) as
  positions := as.map (·.decode deviceID)
  decodes := parseFrame_of_complete deviceID hcount hcomplete

/-- The frame of a parked vehicle, with one record. -/
def parkedReport : Report 7 :=
  .ofRecords [parkedRecord.toAVLRecord] 7 (by decide) (by simp [parkedRecord.complete])

theorem delivered_at_least_once_parked :
    ∃ s : Delivery Unit, (delivery (fun _ : Unit => parkedReport) ⟨[], [], []⟩).Reachable s ∧
      () ∈ s.shared.discarded ∧
      ∃ a ∈ s.attempts, a.frame = () ∧ a.rows = a.positions.map positionRow := by
  obtain ⟨s, _, hs, hdiscarded, -⟩ :=
    lostAnswer_duplicates (fun _ : Unit => parkedReport) ⟨[], [], []⟩ ()
  exact ⟨s, hs, hdiscarded, (delivered_at_least_once hs).2.2 () hdiscarded⟩

/-- The only frame that a device sends is thrown away, and its only record stored twice. -/
theorem parkedReport_stored_twice :
    ∃ s : Delivery Unit, (delivery (fun _ : Unit => parkedReport) ⟨[], [], []⟩).Reachable s ∧
      () ∈ s.shared.discarded ∧
      ∃ pos, List.Forall₂ Normalised parkedReport.positions [pos] ∧
        s.shared.db.positions = [positionRow pos, positionRow pos] := by
  obtain ⟨s, qs, hs, hdiscarded, hqs, hrows⟩ :=
    lostAnswer_duplicates (fun _ : Unit => parkedReport) ⟨[], [], []⟩ ()
  obtain ⟨pos, rfl⟩ := List.length_eq_one_iff.mp hqs.length_eq.symm
  exact ⟨s, hs, hdiscarded, pos, hqs, hrows⟩

end RudraNetra
