/-
Where the items of a scanner lie in its stream.

A scanner sees only its buffer: it does not know how much of the stream is gone.  `History`
keeps the stream next to the buffer, for calls that come in any order between the pieces of
the stream.  If each step takes off a front of the buffer, and an item with it only if the
item's encoding ends that front (`Lays`), then the items lie in the stream one behind the
other and the buffer is what is behind them (`run_placed`).

The items placed so far all end before the buffer begins.  This is what carries the
induction: the next one is taken off the buffer, so it lies behind them.
-/
import RudraNetra.Lib.Scanner
import RudraNetra.Lib.Wire

namespace Scan

open Wire

variable {α ω ε : Type}

/-- What is done with a scanner. -/
inductive Act (α : Type) where
  /-- A piece of the stream arrives. -/
  | append (data : List α)
  /-- One call. -/
  | next

/-- A scanner's buffer with the stream so far and the items that were returned. -/
structure History (α ω : Type) where
  received : List α
  outs : List ω
  buf : List α

def History.start : History α ω := ⟨[], [], []⟩

variable (S : Scanner α ω ε)

def History.step (h : History α ω) : Act α → History α ω
  | .append data => ⟨h.received ++ data, h.outs, h.buf ++ data⟩
  | .next => ⟨h.received, h.outs ++ (S.next h.buf).out.toList, (S.next h.buf).buf⟩

def History.run (acts : List (Act α)) : History α ω := acts.foldl (History.step S) .start

variable {S}
variable (encode : ω → List α)

/-- Every step takes off a front of the buffer, and an item is the end of that front. -/
structure Scanner.Lays (S : Scanner α ω ε) : Prop where
  wait : ∀ {buf rest}, S.step buf = .wait rest → rest <:+ buf
  skip : ∀ {buf err rest}, S.step buf = .skip err rest → rest <:+ buf
  emit : ∀ {buf out rest}, S.step buf = .emit out rest → encode out ++ rest <:+ buf

variable {encode}

/-- So does every call. -/
theorem Scanner.Returns.suffix (hS : S.Lays encode) {buf : List α} {last : Option ε}
    {call : Call α ω ε} (h : S.Returns buf last call) :
    (call.out.elim [] encode) ++ call.buf <:+ buf := by
  induction h with
  | wait hs => exact hS.wait hs
  | skip hs _ ih => exact ih.trans (hS.skip hs)
  | emit hs => exact hS.emit hs

/-- The items lie at these places of the stream, one behind the other, and the buffer is
behind them. -/
structure Placed (encode : ω → List α) (h : History α ω) (spots : List (Nat × ω)) : Prop where
  items : spots.map Prod.snd = h.outs
  at_spot : ∀ spot ∈ spots, At h.received spot.1 (encode spot.2)
  disjoint : spots.Pairwise fun p q => p.1 + (encode p.2).length ≤ q.1
  before : ∀ spot ∈ spots, spot.1 + (encode spot.2).length + h.buf.length ≤ h.received.length
  suffix : h.buf <:+ h.received

theorem Placed.append {h : History α ω} {spots : List (Nat × ω)} (hp : Placed encode h spots)
    (data : List α) : Placed encode (h.step S (.append data)) spots where
  items := hp.items
  at_spot := by
    intro spot hspot
    exact (hp.at_spot spot hspot).extend data
  disjoint := hp.disjoint
  before := by
    intro spot hspot
    have hle := hp.before spot hspot
    simp only [History.step, List.length_append]
    omega
  suffix := by
    obtain ⟨pre, hpre⟩ := hp.suffix
    exact ⟨pre, by simp [History.step, ← hpre]⟩

theorem Placed.next (hS : S.Lays encode) {h : History α ω} {spots : List (Nat × ω)}
    (hp : Placed encode h spots) : ∃ spots', Placed encode (h.step S .next) spots' := by
  have hfront := (S.next_returns h.buf).suffix hS
  cases hout : (S.next h.buf).out with
  | none =>
      rw [hout, Option.elim_none, List.nil_append] at hfront
      refine ⟨spots, ?_, hp.at_spot, hp.disjoint, ?_, hfront.trans hp.suffix⟩
      · simpa [History.step, hout] using hp.items
      · intro spot hspot
        have hle := hp.before spot hspot
        have hshort := hfront.length_le
        simp only [History.step]
        omega
  | some out =>
      rw [hout, Option.elim_some] at hfront
      obtain ⟨pre, hpre⟩ := hfront.trans hp.suffix
      have hlong := hfront.length_le
      have hwhole := congrArg List.length hpre
      simp only [List.length_append] at hlong hwhole
      -- the item lies where the buffer with it begins
      have hbefore : ∀ spot ∈ spots, spot.1 + (encode spot.2).length ≤ pre.length := by
        intro spot hspot
        have hle := hp.before spot hspot
        omega
      refine ⟨spots ++ [(pre.length, out)], ?_, ?_, ?_, ?_,
        ⟨pre ++ encode out, by simpa [History.step] using hpre⟩⟩
      · simp [History.step, hout, hp.items]
      · intro spot hspot
        rcases List.mem_append.mp hspot with hold | hnew
        · exact hp.at_spot spot hold
        · obtain rfl := List.mem_singleton.mp hnew
          exact ⟨pre, (S.next h.buf).buf, by simpa [History.step] using hpre.symm, rfl⟩
      · refine List.pairwise_append.mpr ⟨hp.disjoint, List.pairwise_singleton _ _, ?_⟩
        intro p hold q hnew
        obtain rfl := List.mem_singleton.mp hnew
        exact hbefore p hold
      · intro spot hspot
        simp only [History.step]
        rcases List.mem_append.mp hspot with hold | hnew
        · have hle := hbefore spot hold
          omega
        · obtain rfl := List.mem_singleton.mp hnew
          dsimp only
          omega

/-! ### Draining in between -/

/-- Calling until no item comes is so many calls. -/
theorem Scanner.Drains.run {buf : List α} {d : Drained α ω ε} (hd : S.Drains buf d) :
    ∀ h : History α ω, h.buf = buf → ∃ n, (List.replicate n Act.next).foldl (History.step S) h =
      ⟨h.received, h.outs ++ d.outs, d.buf⟩ := by
  induction hd with
  | @last buf call hcall hout =>
      intro h hbuf
      obtain rfl := hcall.functional (S.next_returns buf)
      refine ⟨1, ?_⟩
      simp [History.step, hbuf, hout]
  | @more buf call out d hcall hout _ ih =>
      intro h hbuf
      obtain rfl := hcall.functional (S.next_returns buf)
      obtain ⟨n, hrest⟩ := ih (h.step S .next) (by rw [History.step, hbuf])
      refine ⟨n + 1, ?_⟩
      rw [List.replicate_succ, List.foldl_cons, hrest]
      simp [History.step, hbuf, hout, Drained.then]

/-- Feeding pieces and draining after each is a list of acts. -/
theorem feed_acts (chunks : List (List α)) : ∀ h : History α ω, ∃ acts : List (Act α),
    acts.foldl (History.step S) h =
      ⟨h.received ++ chunks.flatten, h.outs ++ (S.feed h.buf chunks).outs,
        (S.feed h.buf chunks).buf⟩ := by
  induction chunks with
  | nil => exact fun h => ⟨[], by simp [Scanner.feed]⟩
  | cons chunk rest ih =>
      intro h
      obtain ⟨n, hdrain⟩ := (S.drain_drains (h.buf ++ chunk)).run (h.step S (.append chunk)) rfl
      obtain ⟨acts, hrest⟩ := ih
        ⟨h.received ++ chunk, h.outs ++ (S.drain (h.buf ++ chunk)).outs,
          (S.drain (h.buf ++ chunk)).buf⟩
      refine ⟨.append chunk :: (List.replicate n Act.next ++ acts), ?_⟩
      rw [List.foldl_cons, List.foldl_append, hdrain]
      exact hrest.trans (by simp [Scanner.feed, Drained.then])

/-! ### Every run -/

/-- **Whatever is done with a scanner, its items lie in the stream one behind the other.** -/
theorem run_placed (hS : S.Lays encode) (acts : List (Act α)) :
    ∃ spots, Placed encode (History.run S acts) spots := by
  induction acts using List.reverseRecOn with
  | nil => exact ⟨[], rfl, nofun, .nil, nofun, List.suffix_rfl⟩
  | append_singleton acts act ih =>
      obtain ⟨spots, hp⟩ := ih
      rw [History.run, List.foldl_append]
      cases act with
      | append data => exact ⟨spots, hp.append (S := S) data⟩
      | next => exact hp.next hS

/-- So do the items of a stream that is fed in pieces. -/
theorem feed_placed (hS : S.Lays encode) (chunks : List (List α)) :
    ∃ spots, Placed encode
      ⟨chunks.flatten, (S.feed [] chunks).outs, (S.feed [] chunks).buf⟩ spots := by
  obtain ⟨acts, hacts⟩ := feed_acts (S := S) chunks .start
  obtain ⟨spots, hp⟩ := run_placed hS acts
  rw [History.run, hacts] at hp
  exact ⟨spots, by simpa [History.start] using hp⟩

end Scan
