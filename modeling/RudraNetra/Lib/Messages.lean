/-
Messages taken off a stream.

Messages are written one behind the other, and a scanner takes them off its buffer.  It
`Reads` them if it takes a message that is there in full, whatever part of the next ones
lies behind it, and waits when there is only a part of one.  A reader that decides too early
does not wait for every part: a part of certain lengths tears the message, and something
else is taken in its place.

How the stream is cut into reads is up to the network.  The messages come out as they were
written exactly if no read ends where it tears a message (`Reads.feed_eq_iff`).  The argument goes
along the messages: what is received so far is some of them in full and a part of the next.
-/
import RudraNetra.Lib.Scanner

namespace Scan

variable {α ω ε μ : Type}

/-- The scanner takes messages of a kind as `event` says, unless a part tears one. -/
structure Reads (S : Scanner α ω ε) (encode : μ → List α) (event : μ → ω) (ok : μ → Prop)
    (tears : μ → Nat → Prop) : Prop where
  empty : S.step [] = .wait []
  whole : ∀ (m : μ) (msgs : List μ) (part : List α), ok m → (∀ m' ∈ msgs, ok m') →
    part <+: msgs.flatMap encode → S.step (encode m ++ part) = .emit (event m) part
  waits : ∀ m part, ok m → part <+: encode m → part.length < (encode m).length →
    ¬ tears m part.length → S.step part = .wait part
  torn : ∀ m part, ok m → part <+: encode m → tears m part.length →
    ∃ out rest, S.step part = .emit out rest ∧ out ≠ event m
  tears_lt : ∀ m n, tears m n → n < (encode m).length

section Torn

variable (encode : μ → List α) (tears : μ → Nat → Prop)

/-- So much of the messages ends inside one of them, and tears it. -/
def Torn : List μ → Nat → Prop
  | [], _ => False
  | m :: msgs, n => tears m n ∨ ∃ k, n = (encode m).length + k ∧ Torn msgs k

/-- A part of the messages that holds none of them in full. -/
structure Partial (msgs : List μ) (part : List α) : Prop where
  within : part <+: msgs.flatMap encode
  short : ∀ m ∈ msgs.head?, part.length < (encode m).length

variable {encode tears}

theorem Partial.nil : Partial encode ([] : List μ) [] :=
  ⟨List.nil_prefix, fun _ hm => nomatch hm⟩

/-- Messages that come behind do not complete the part. -/
theorem Partial.append {msgs more : List μ} {part : List α} (h : Partial encode msgs part)
    (hpos : ∀ m ∈ more, 0 < (encode m).length) : Partial encode (msgs ++ more) part where
  within := by
    rw [List.flatMap_append]
    exact h.within.trans (List.prefix_append _ _)
  short := by
    intro m hm
    obtain _ | ⟨head, msgs⟩ := msgs
    · obtain rfl := List.prefix_nil.mp h.within
      exact hpos m (List.mem_of_mem_head? hm)
    · exact h.short m hm

/-- What is on its way behind the messages that are there in full. -/
theorem underway_of_split {done rest : List μ} {buf fin later : List α}
    (hsplit : buf = done.flatMap encode ++ fin)
    (h : buf ++ later = (done ++ rest).flatMap encode) : fin ++ later = rest.flatMap encode := by
  rw [hsplit, List.append_assoc, List.flatMap_append, List.append_cancel_left_eq] at h
  exact h

/-- Where no part tears a message, none is torn. -/
theorem not_torn (h : ∀ m n, ¬ tears m n) (msgs : List μ) : ∀ n, ¬ Torn encode tears msgs n := by
  induction msgs with
  | nil => exact fun _ => id
  | cons m msgs ih =>
      intro n htorn
      rcases htorn with htears | ⟨k, -, htorn⟩
      · exact h m n htears
      · exact ih k htorn

/-- Nothing is left over when all messages are there. -/
theorem Partial.eq_nil_iff {msgs : List μ} {part : List α} (h : Partial encode msgs part) :
    part = msgs.flatMap encode ↔ msgs = [] := by
  constructor
  · intro hall
    obtain _ | ⟨m, msgs⟩ := msgs
    · rfl
    · have hshort := h.short m rfl
      rw [hall, List.flatMap_cons, List.length_append] at hshort
      omega
  · intro hnil
    subst hnil
    exact List.prefix_nil.mp h.within

/-- The messages that are there in full are not torn. -/
theorem torn_append_iff (hlt : ∀ m n, tears m n → n < (encode m).length) (done rest : List μ)
    (n : Nat) : Torn encode tears (done ++ rest) ((done.flatMap encode).length + n) ↔
      Torn encode tears rest n := by
  induction done with
  | nil => simp
  | cons m done ih =>
      rw [List.cons_append, Torn, List.flatMap_cons, List.length_append, Nat.add_assoc]
      constructor
      · intro h
        rcases h with htears | ⟨k, hk, htorn⟩
        · have hshort := hlt _ _ htears
          omega
        · obtain rfl := Nat.add_left_cancel hk
          exact ih.mp htorn
      · intro h
        exact Or.inr ⟨_, rfl, ih.mpr h⟩

/-- A prefix of messages is a part of the first one, or holds that. -/
theorem prefix_cons_cases {m : μ} {msgs : List μ} {part : List α}
    (h : part <+: (m :: msgs).flatMap encode) :
    (part <+: encode m ∧ part.length < (encode m).length) ∨
      ∃ later, part = encode m ++ later ∧ later <+: msgs.flatMap encode := by
  rw [List.flatMap_cons] at h
  by_cases hlt : part.length < (encode m).length
  · exact Or.inl ⟨List.prefix_of_prefix_length_le h (List.prefix_append _ _) hlt.le, hlt⟩
  · obtain ⟨later, rfl⟩ :=
      List.prefix_of_prefix_length_le (List.prefix_append _ _) h (not_lt.mp hlt)
    exact Or.inr ⟨later, rfl, (List.prefix_append_right_inj _).mp h⟩

end Torn

namespace Reads

variable {S : Scanner α ω ε} {encode : μ → List α} {event : μ → ω} {ok : μ → Prop}
  {tears : μ → Nat → Prop}

/-- The run that takes messages and nothing else. -/
def events (event : μ → ω) (msgs : List μ) : List (ε ⊕ ω) := msgs.map fun m => .inr (event m)

@[simp] theorem taken_events (msgs : List μ) :
    Scanner.taken (events event msgs : List (ε ⊕ ω)) = msgs.map event := by
  induction msgs with
  | nil => rfl
  | cons m msgs ih =>
      rw [events, List.map_cons, Scanner.taken_inr_cons, ← events, ih, List.map_cons]

/-- If nothing is torn, the messages that are there in full are taken and the rest is kept. -/
theorem scans (h : Reads S encode event ok tears) : ∀ (msgs : List μ) {part : List α},
    (∀ m ∈ msgs, ok m) → part <+: msgs.flatMap encode → ¬ Torn encode tears msgs part.length →
      ∃ done rest fin, msgs = done ++ rest ∧ part = done.flatMap encode ++ fin ∧
        Partial encode rest fin ∧ S.Scans part (events event done) fin := by
  intro msgs
  induction msgs with
  | nil =>
      intro part _ hpart _
      obtain rfl := List.prefix_nil.mp hpart
      exact ⟨[], [], [], rfl, rfl, .nil, .wait h.empty⟩
  | cons m msgs ih =>
      intro part hok hpart huntorn
      obtain ⟨hm, hmsgs⟩ := List.forall_mem_cons.mp hok
      rw [Torn, not_or] at huntorn
      rcases prefix_cons_cases hpart with ⟨hinside, hlt⟩ | ⟨later, rfl, hlater⟩
      · have hshort : ∀ m' ∈ (m :: msgs).head?, part.length < (encode m').length := by
          intro m' hm'
          obtain rfl := Option.some.inj hm'
          exact hlt
        exact ⟨[], m :: msgs, part, rfl, rfl, ⟨hpart, hshort⟩,
          .wait (h.waits m part hm hinside hlt huntorn.1)⟩
      · have hrest : ¬ Torn encode tears msgs later.length := by
          intro htorn
          exact huntorn.2 ⟨_, List.length_append, htorn⟩
        obtain ⟨done, rest, fin, rfl, hsplit, hfin, hrun⟩ := ih hmsgs hlater hrest
        refine ⟨m :: done, rest, fin, rfl, ?_, hfin, .emit (h.whole m _ later hm hmsgs hlater) hrun⟩
        rw [hsplit, List.flatMap_cons, List.append_assoc]

/-- If a message is torn, something else is taken in its place. -/
theorem scans_torn (h : Reads S encode event ok tears) : ∀ (msgs : List μ) {part : List α},
    (∀ m ∈ msgs, ok m) → part <+: msgs.flatMap encode → Torn encode tears msgs part.length →
      ∃ done m rest out evs fin, msgs = done ++ m :: rest ∧ out ≠ event m ∧
        S.Scans part (events event done ++ .inr out :: evs) fin := by
  intro msgs
  induction msgs with
  | nil => exact fun _ _ htorn => absurd htorn id
  | cons m msgs ih =>
      intro part hok hpart htorn
      obtain ⟨hm, hmsgs⟩ := List.forall_mem_cons.mp hok
      rcases prefix_cons_cases hpart with ⟨hinside, hlt⟩ | ⟨later, rfl, hlater⟩
      · have htears : tears m part.length := by
          rcases htorn with htears | ⟨k, hk, -⟩
          · exact htears
          · omega
        obtain ⟨out, rest, hstep, hne⟩ := h.torn m part hm hinside htears
        obtain ⟨evs, fin, hrun⟩ := S.scans_exists rest
        exact ⟨[], m, msgs, out, evs, fin, rfl, hne, .emit hstep hrun⟩
      · have hrest : Torn encode tears msgs later.length := by
          rw [List.length_append] at htorn
          rcases htorn with htears | ⟨k, hk, htorn⟩
          · have hshort := h.tears_lt _ _ htears
            omega
          · obtain rfl := Nat.add_left_cancel hk
            exact htorn
        obtain ⟨done, m', rest, out, evs, fin, rfl, hne, hrun⟩ := ih hmsgs hlater hrest
        exact ⟨m :: done, m', rest, out, evs, fin, rfl, hne,
          .emit (h.whole m _ later hm hmsgs hlater) hrun⟩

/-- What one read gives, if it tears nothing: some messages, and a part of the next. -/
theorem drain (h : Reads S encode event ok tears) {msgs : List μ} {buf : List α}
    (hok : ∀ m ∈ msgs, ok m) (hbuf : buf <+: msgs.flatMap encode)
    (huntorn : ¬ Torn encode tears msgs buf.length) :
    ∃ done rest, msgs = done ++ rest ∧ (S.drain buf).outs = done.map event ∧
      buf = done.flatMap encode ++ (S.drain buf).buf ∧ Partial encode rest (S.drain buf).buf := by
  obtain ⟨done, rest, fin, hmsgs, hsplit, hfin, hrun⟩ := h.scans msgs hok hbuf huntorn
  have hdrain := Scanner.drain_follows hrun
  rw [hdrain.buf, hdrain.outs, taken_events]
  exact ⟨done, rest, hmsgs, rfl, hsplit, hfin⟩

/-- What a read gives that tears a message. -/
theorem drain_torn (h : Reads S encode event ok tears) {msgs : List μ} {buf : List α}
    (hok : ∀ m ∈ msgs, ok m) (hbuf : buf <+: msgs.flatMap encode)
    (htorn : Torn encode tears msgs buf.length) :
    ∃ done m rest out outs, msgs = done ++ m :: rest ∧ out ≠ event m ∧
      (S.drain buf).outs = done.map event ++ out :: outs := by
  obtain ⟨done, m, rest, out, evs, fin, hmsgs, hne, hrun⟩ := h.scans_torn msgs hok hbuf htorn
  have houts := (Scanner.drain_follows hrun).outs
  rw [Scanner.taken_append, taken_events, Scanner.taken_inr_cons] at houts
  exact ⟨done, m, rest, out, _, hmsgs, hne, houts⟩

/-- What is torn later on, once some messages are read. -/
theorem torn_drain_iff (h : Reads S encode event ok tears) {done rest : List μ}
    {buf fin : List α} (hsplit : buf = done.flatMap encode ++ fin) (more : List α) :
    Torn encode tears (done ++ rest) (buf ++ more).length ↔
      Torn encode tears rest (fin ++ more).length := by
  rw [hsplit, List.append_assoc, List.length_append, torn_append_iff h.tears_lt]

/-- If no read tears a message, all come out and nothing is left. -/
theorem feed_eq (h : Reads S encode event ok tears) (chunks : List (List α)) :
    ∀ (msgs : List μ) (buf : List α), (∀ m ∈ msgs, ok m) → Partial encode msgs buf →
      buf ++ chunks.flatten = msgs.flatMap encode →
      (∀ front, front <+: chunks → ¬ Torn encode tears msgs (buf ++ front.flatten).length) →
        (S.feed buf chunks).outs = msgs.map event ∧ (S.feed buf chunks).buf = [] := by
  induction chunks with
  | nil =>
      intro msgs buf _ hpart hall _
      rw [List.flatten_nil, List.append_nil] at hall
      obtain rfl := hpart.eq_nil_iff.mp hall
      exact ⟨rfl, hall⟩
  | cons chunk chunks ih =>
      intro msgs buf hok hpart hall huntorn
      have hread : ¬ Torn encode tears msgs (buf ++ chunk).length := by
        simpa using huntorn [chunk] ⟨chunks, rfl⟩
      rw [List.flatten_cons, ← List.append_assoc] at hall
      obtain ⟨done, rest, rfl, houts, hsplit, hrest⟩ := h.drain hok ⟨_, hall⟩ hread
      have hall' := underway_of_split hsplit hall
      have huntorn' : ∀ front, front <+: chunks →
          ¬ Torn encode tears rest ((S.drain (buf ++ chunk)).buf ++ front.flatten).length := by
        intro front hfront
        rw [← h.torn_drain_iff hsplit, List.append_assoc, ← List.flatten_cons]
        exact huntorn _ (List.cons_prefix_cons.mpr ⟨rfl, hfront⟩)
      obtain ⟨hfeed, hbuf⟩ := ih rest _ (fun m hm => hok m (List.mem_append_right _ hm)) hrest hall'
        huntorn'
      rw [Scanner.feed, Drained.then, houts, hfeed, List.map_append]
      exact ⟨rfl, hbuf⟩

/-- If a read tears a message, what comes out is something else. -/
theorem feed_ne (h : Reads S encode event ok tears) (chunks : List (List α)) :
    ∀ (msgs : List μ) (buf : List α), (∀ m ∈ msgs, ok m) →
      buf ++ chunks.flatten = msgs.flatMap encode → ¬ Torn encode tears msgs buf.length →
      ∀ front, front <+: chunks → Torn encode tears msgs (buf ++ front.flatten).length →
        (S.feed buf chunks).outs ≠ msgs.map event := by
  induction chunks with
  | nil =>
      intro msgs buf _ _ huntorn front hfront htorn
      rw [List.prefix_nil.mp hfront, List.flatten_nil, List.append_nil] at htorn
      exact absurd htorn huntorn
  | cons chunk chunks ih =>
      intro msgs buf hok hall huntorn front hfront htorn hfeed
      rw [List.flatten_cons, ← List.append_assoc] at hall
      rw [Scanner.feed, Drained.then] at hfeed
      by_cases hread : Torn encode tears msgs (buf ++ chunk).length
      · obtain ⟨done, m, rest, out, outs, rfl, hne, houts⟩ := h.drain_torn hok ⟨_, hall⟩ hread
        rw [houts, List.map_append, List.append_assoc, List.append_cancel_left_eq, List.map_cons,
          List.cons_append, List.cons.injEq] at hfeed
        exact hne hfeed.1
      · obtain ⟨done, rest, rfl, houts, hsplit, hrest⟩ := h.drain hok ⟨_, hall⟩ hread
        rw [houts, List.map_append, List.append_cancel_left_eq] at hfeed
        have hall' := underway_of_split hsplit hall
        have huntorn' : ¬ Torn encode tears rest (S.drain (buf ++ chunk)).buf.length := by
          intro hlater
          rw [← List.append_nil (S.drain (buf ++ chunk)).buf, ← h.torn_drain_iff hsplit,
            List.append_nil] at hlater
          exact hread hlater
        obtain _ | ⟨c, front⟩ := front
        · exact absurd (by simpa using htorn) huntorn
        · obtain ⟨rfl, hlater⟩ := List.cons_prefix_cons.mp hfront
          rw [List.flatten_cons, ← List.append_assoc, h.torn_drain_iff hsplit] at htorn
          exact ih rest _ (fun m hm => hok m (List.mem_append_right _ hm)) hall' huntorn' front
            hlater htorn hfeed

/-- **Messages come out as written, and nothing is left, exactly if no read tears one**. -/
theorem feed_eq_iff (h : Reads S encode event ok tears) {chunks : List (List α)} {msgs : List μ}
    (hok : ∀ m ∈ msgs, ok m) (hpart : Partial encode msgs [])
    (hall : chunks.flatten = msgs.flatMap encode) (huntorn : ¬ Torn encode tears msgs 0) :
    ((S.feed [] chunks).outs = msgs.map event ∧ (S.feed [] chunks).buf = []) ↔
      ∀ front, front <+: chunks → ¬ Torn encode tears msgs front.flatten.length := by
  constructor
  · intro hfeed front hfront htorn
    exact h.feed_ne chunks msgs [] hok hall huntorn front hfront htorn hfeed.1
  · intro huntorn
    exact h.feed_eq chunks msgs [] hok hpart hall huntorn

end Reads

end Scan
