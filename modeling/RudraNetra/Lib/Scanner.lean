/-
Scanners over a growing buffer.

A reader of a byte stream keeps what it has received in a buffer and looks at it
again whenever more arrives.  Each look decides one of three things: there is not
enough to decide anything, something at the front is not worth keeping, or a
complete item can be taken off.  `Scanner` is such a decision, with the one
property that makes its loops end: dropping and taking both shorten the buffer.

`next` loops until an item is taken or the scanner waits, `drain` calls `next`
until it waits, and `feed` appends one chunk at a time and drains after each.  They
count their fuel down; `Returns` and `Drains` are the same loops without any, and
that these have an outcome for every buffer is termination.

What a stream means does not depend on how it was cut, provided a decision once
made is not undone by bytes that arrive later.  `Stable` is that proviso, one
line for each decision, and `feed_drain` is what it buys: feeding chunks takes
the items that draining their concatenation takes and leaves the same buffer.
The argument goes through `Scans`, the run of a buffer as a list of events,
because there a cut is just a place where a run is resumed (`Scans.append`).
-/
import Mathlib

namespace Scan

variable {α ω ε : Type}

/-- What one look at the buffer decides. -/
inductive Step (α ω ε : Type) where
  /-- Nothing more until bytes arrive; `rest` is what is kept. -/
  | wait (rest : List α)
  /-- Something is dropped, for the reason `err`. -/
  | skip (err : ε) (rest : List α)
  /-- A complete item is taken off. -/
  | emit (out : ω) (rest : List α)

/-- A decision over a buffer that shortens it unless it waits. -/
structure Scanner (α ω ε : Type) where
  step : List α → Step α ω ε
  skip_lt : ∀ {buf err rest}, step buf = .skip err rest → rest.length < buf.length
  emit_lt : ∀ {buf out rest}, step buf = .emit out rest → rest.length < buf.length

/-- What one call returns: an item if there was one, the last reason for dropping
anything during the call, and the buffer it leaves. -/
structure Call (α ω ε : Type) where
  out : Option ω
  err : Option ε
  buf : List α

/-- What calling until no item comes gives: the items, the errors the calls
reported, and the buffer left. -/
structure Drained (α ω ε : Type) where
  outs : List ω
  errs : List ε
  buf : List α

/-- What one drain gave, followed by what a later one gave. -/
def Drained.then (d e : Drained α ω ε) : Drained α ω ε :=
  ⟨d.outs ++ e.outs, d.errs ++ e.errs, e.buf⟩

namespace Scanner

variable (S : Scanner α ω ε)

/-- The loop of one call.  The fuel only has to exceed the buffer's length. -/
def nextLoop : Nat → List α → Option ε → Call α ω ε
  | 0, buf, last => ⟨none, last, buf⟩
  | fuel + 1, buf, last =>
    match S.step buf with
    | .wait rest => ⟨none, last, rest⟩
    | .skip err rest => nextLoop fuel rest (some err)
    | .emit out rest => ⟨some out, last, rest⟩

/-- One call. -/
def next (buf : List α) : Call α ω ε := S.nextLoop (buf.length + 1) buf none

/-- The loop that calls until no item comes. -/
def drainLoop : Nat → List α → Drained α ω ε
  | 0, buf => ⟨[], [], buf⟩
  | fuel + 1, buf =>
    let call := S.next buf
    match call.out with
    | none => ⟨[], call.err.toList, call.buf⟩
    | some out => Drained.then ⟨[out], call.err.toList, call.buf⟩ (drainLoop fuel call.buf)

/-- Calling until no item comes. -/
def drain (buf : List α) : Drained α ω ε := S.drainLoop (buf.length + 1) buf

/-- Appending the chunks one by one, draining after each. -/
def feed : List α → List (List α) → Drained α ω ε
  | buf, [] => ⟨[], [], buf⟩
  | buf, chunk :: rest =>
    let d := S.drain (buf ++ chunk)
    d.then (feed d.buf rest)

/-! ### The run of a buffer

A run is the list of what was dropped and what was taken, in order, down to the
buffer on which the scanner waits.
-/

/-- The scanner run on `buf` drops and takes `evs` and then waits with `fin`. -/
inductive Scans : List α → List (ε ⊕ ω) → List α → Prop
  | wait {buf rest : List α} (h : S.step buf = .wait rest) : Scans buf [] rest
  | skip {buf rest fin : List α} {err : ε} {evs : List (ε ⊕ ω)}
      (h : S.step buf = .skip err rest) (t : Scans rest evs fin) :
      Scans buf (.inl err :: evs) fin
  | emit {buf rest fin : List α} {out : ω} {evs : List (ε ⊕ ω)}
      (h : S.step buf = .emit out rest) (t : Scans rest evs fin) :
      Scans buf (.inr out :: evs) fin

variable {S}

/-- Every buffer has a run, because every step that goes on shortens it. -/
theorem scans_total : ∀ (n : Nat) (buf : List α), buf.length < n →
    ∃ evs fin, S.Scans buf evs fin := by
  intro n
  induction n with
  | zero => intro buf hlt; omega
  | succ n ih =>
      intro buf hlt
      cases hstep : S.step buf with
      | wait rest => exact ⟨[], rest, Scans.wait hstep⟩
      | skip err rest =>
          have hshort := S.skip_lt hstep
          obtain ⟨evs, fin, hrun⟩ := ih rest (by omega)
          exact ⟨_, fin, Scans.skip hstep hrun⟩
      | emit out rest =>
          have hshort := S.emit_lt hstep
          obtain ⟨evs, fin, hrun⟩ := ih rest (by omega)
          exact ⟨_, fin, Scans.emit hstep hrun⟩

theorem scans_exists (buf : List α) : ∃ evs fin, S.Scans buf evs fin :=
  scans_total (buf.length + 1) buf (by omega)

/-- A buffer has only one run. -/
theorem Scans.functional {buf fin fin' : List α} {evs evs' : List (ε ⊕ ω)}
    (h : S.Scans buf evs fin) (h' : S.Scans buf evs' fin') : evs = evs' ∧ fin = fin' := by
  induction h generalizing evs' with
  | wait hs =>
      cases h' with
      | wait hs' => rw [hs] at hs'; cases hs'; exact ⟨rfl, rfl⟩
      | skip hs' => rw [hs] at hs'; cases hs'
      | emit hs' => rw [hs] at hs'; cases hs'
  | skip hs _ ih =>
      cases h' with
      | wait hs' => rw [hs] at hs'; cases hs'
      | skip hs' t' =>
          rw [hs] at hs'
          cases hs'
          obtain ⟨rfl, rfl⟩ := ih t'
          exact ⟨rfl, rfl⟩
      | emit hs' => rw [hs] at hs'; cases hs'
  | emit hs _ ih =>
      cases h' with
      | wait hs' => rw [hs] at hs'; cases hs'
      | skip hs' => rw [hs] at hs'; cases hs'
      | emit hs' t' =>
          rw [hs] at hs'
          cases hs'
          obtain ⟨rfl, rfl⟩ := ih t'
          exact ⟨rfl, rfl⟩

/-! ### The loops make runs -/

/--
One call follows the run up to the first item.  Either the run takes none, and the
call ends where the run does, or the call returns the first one and the run goes on
from the buffer it leaves.
-/
theorem nextLoop_spec {buf fin : List α} {evs : List (ε ⊕ ω)} (h : S.Scans buf evs fin) :
    ∀ (fuel : Nat) (last : Option ε), buf.length < fuel →
      (∃ errs : List ε, evs = errs.map .inl ∧
        S.nextLoop fuel buf last = ⟨none, errs.getLast?.or last, fin⟩) ∨
      (∃ (errs : List ε) (out : ω) (rest : List α) (evs' : List (ε ⊕ ω)),
        evs = errs.map .inl ++ .inr out :: evs' ∧ S.Scans rest evs' fin ∧
        rest.length < buf.length ∧
        S.nextLoop fuel buf last = ⟨some out, errs.getLast?.or last, rest⟩) := by
  induction h with
  | wait hs =>
      intro fuel last hlt
      obtain ⟨k, rfl⟩ : ∃ k, fuel = k + 1 := ⟨fuel - 1, by omega⟩
      exact Or.inl ⟨[], rfl, by simp [nextLoop, hs]⟩
  | @skip buf rest fin err evs hs t ih =>
      intro fuel last hlt
      obtain ⟨k, rfl⟩ : ∃ k, fuel = k + 1 := ⟨fuel - 1, by omega⟩
      have hshort := S.skip_lt hs
      -- the error of this drop stands unless a later drop of the same call replaces it
      have hor : ∀ errs : List ε, (err :: errs).getLast?.or last = errs.getLast?.or (some err) := by
        intro errs
        rw [List.getLast?_cons]
        cases errs.getLast? <;> rfl
      rcases ih k (some err) (by omega) with ⟨errs, hevs, hcall⟩ | ⟨errs, out, rest', evs', hevs,
        hrun, hlen, hcall⟩
      · refine Or.inl ⟨err :: errs, by simp [hevs], ?_⟩
        rw [hor]
        simpa [nextLoop, hs] using hcall
      · refine Or.inr ⟨err :: errs, out, rest', evs', by simp [hevs], hrun, by omega, ?_⟩
        rw [hor]
        simpa [nextLoop, hs] using hcall
  | @emit buf rest fin out evs hs t _ =>
      intro fuel last hlt
      obtain ⟨k, rfl⟩ : ∃ k, fuel = k + 1 := ⟨fuel - 1, by omega⟩
      exact Or.inr ⟨[], out, rest, evs, rfl, t, S.emit_lt hs, by simp [nextLoop, hs]⟩

/-! ### The loops without fuel -/

variable (S) in
/-- One call comes to this: its iterations up to the first that waits or takes an item. -/
inductive Returns : List α → Option ε → Call α ω ε → Prop
  | wait {buf rest : List α} {last : Option ε} (h : S.step buf = .wait rest) :
      Returns buf last ⟨none, last, rest⟩
  | skip {buf rest : List α} {last : Option ε} {err : ε} {call : Call α ω ε}
      (h : S.step buf = .skip err rest) (t : Returns rest (some err) call) : Returns buf last call
  | emit {buf rest : List α} {last : Option ε} {out : ω} (h : S.step buf = .emit out rest) :
      Returns buf last ⟨some out, last, rest⟩

variable (S) in
/-- Calling until no item comes gives this. -/
inductive Drains : List α → Drained α ω ε → Prop
  | last {buf : List α} {call : Call α ω ε} (h : S.Returns buf none call) (hout : call.out = none) :
      Drains buf ⟨[], call.err.toList, call.buf⟩
  | more {buf : List α} {call : Call α ω ε} {out : ω} {d : Drained α ω ε}
      (h : S.Returns buf none call) (hout : call.out = some out) (t : Drains call.buf d) :
      Drains buf (Drained.then ⟨[out], call.err.toList, call.buf⟩ d)

/-- A call comes to one thing only. -/
theorem Returns.functional {buf : List α} {last : Option ε} {call call' : Call α ω ε}
    (h : S.Returns buf last call) (h' : S.Returns buf last call') : call = call' := by
  induction h generalizing call' with
  | wait hs =>
      cases h' with
      | wait hs' => rw [hs] at hs'; cases hs'; rfl
      | skip hs' => rw [hs] at hs'; cases hs'
      | emit hs' => rw [hs] at hs'; cases hs'
  | skip hs _ ih =>
      cases h' with
      | wait hs' => rw [hs] at hs'; cases hs'
      | skip hs' t' => rw [hs] at hs'; cases hs'; exact ih t'
      | emit hs' => rw [hs] at hs'; cases hs'
  | emit hs =>
      cases h' with
      | wait hs' => rw [hs] at hs'; cases hs'
      | skip hs' => rw [hs] at hs'; cases hs'
      | emit hs' => rw [hs] at hs'; cases hs'; rfl

theorem Drains.functional {buf : List α} {d d' : Drained α ω ε} (h : S.Drains buf d)
    (h' : S.Drains buf d') : d = d' := by
  induction h generalizing d' with
  | last hcall hout =>
      cases h' with
      | last hcall' => rw [hcall.functional hcall']
      | more hcall' hout' =>
          rw [hcall.functional hcall', hout'] at hout
          cases hout
  | more hcall hout _ ih =>
      cases h' with
      | last hcall' hout' =>
          rw [hcall.functional hcall', hout'] at hout
          cases hout
      | more hcall' hout' t' =>
          obtain rfl := hcall.functional hcall'
          cases hout.symm.trans hout'
          rw [ih t']

theorem nextLoop_returns : ∀ (fuel : Nat) (buf : List α) (last : Option ε), buf.length < fuel →
    S.Returns buf last (S.nextLoop fuel buf last) := by
  intro fuel
  induction fuel with
  | zero => intro buf last hlt; omega
  | succ fuel ih =>
      intro buf last hlt
      cases hstep : S.step buf with
      | wait rest =>
          simp only [nextLoop, hstep]
          exact .wait hstep
      | skip err rest =>
          have hshort := S.skip_lt hstep
          simp only [nextLoop, hstep]
          exact .skip hstep (ih rest (some err) (by omega))
      | emit out rest =>
          simp only [nextLoop, hstep]
          exact .emit hstep

/-- **A call terminates.** -/
theorem next_returns (buf : List α) : S.Returns buf none (S.next buf) :=
  nextLoop_returns (buf.length + 1) buf none (by omega)

/-- A call that takes an item shortens the buffer. -/
theorem Returns.emit_lt {buf : List α} {last : Option ε} {call : Call α ω ε}
    (h : S.Returns buf last call) {out : ω} (hout : call.out = some out) :
    call.buf.length < buf.length := by
  induction h with
  | wait _ => cases hout
  | skip hs _ ih => exact (ih hout).trans (S.skip_lt hs)
  | emit hs => exact S.emit_lt hs

theorem drainLoop_drains : ∀ (fuel : Nat) (buf : List α), buf.length < fuel →
    S.Drains buf (S.drainLoop fuel buf) := by
  intro fuel
  induction fuel with
  | zero => intro buf hlt; omega
  | succ fuel ih =>
      intro buf hlt
      have hcall := S.next_returns buf
      rw [drainLoop]
      cases hout : (S.next buf).out with
      | none => exact .last hcall hout
      | some out =>
          have hshort := hcall.emit_lt hout
          exact .more hcall hout (ih (S.next buf).buf (by omega))

/-- **The loop around the calls terminates.** -/
theorem drain_drains (buf : List α) : S.Drains buf (S.drain buf) :=
  drainLoop_drains (buf.length + 1) buf (by omega)

/-! ### What a drain has to do with a run -/

/-- The items a run takes. -/
def taken (evs : List (ε ⊕ ω)) : List ω := evs.filterMap Sum.getRight?

/-- What a run drops. -/
def dropped (evs : List (ε ⊕ ω)) : List ε := evs.filterMap Sum.getLeft?

@[simp] theorem taken_append (a b : List (ε ⊕ ω)) : taken (a ++ b) = taken a ++ taken b := by
  simp [taken]

@[simp] theorem dropped_append (a b : List (ε ⊕ ω)) : dropped (a ++ b) = dropped a ++ dropped b := by
  simp [dropped]

@[simp] theorem taken_inl (errs : List ε) : taken (errs.map (.inl : ε → ε ⊕ ω)) = [] := by
  simp [taken]

@[simp] theorem dropped_inl (errs : List ε) :
    dropped (errs.map (.inl : ε → ε ⊕ ω)) = errs := by
  induction errs with
  | nil => rfl
  | cons e rest ih => simpa [dropped] using ih

@[simp] theorem taken_inr_cons (out : ω) (evs : List (ε ⊕ ω)) :
    taken (.inr out :: evs) = out :: taken evs := rfl

@[simp] theorem dropped_inr_cons (out : ω) (evs : List (ε ⊕ ω)) :
    dropped (.inr out :: evs) = dropped evs := rfl

@[simp] theorem taken_nil : taken ([] : List (ε ⊕ ω)) = [] := rfl

@[simp] theorem dropped_nil : dropped ([] : List (ε ⊕ ω)) = [] := rfl

/-- Whatever holds of an item when it is taken off holds of all items of a run. -/
theorem Scans.forall_taken {P : ω → Prop}
    (hP : ∀ buf out rest, S.step buf = .emit out rest → P out) {buf fin : List α}
    {evs : List (ε ⊕ ω)} (h : S.Scans buf evs fin) : ∀ out ∈ taken evs, P out := by
  induction h with
  | wait _ => exact fun _ hout => absurd hout List.not_mem_nil
  | skip _ _ ih => exact ih
  | @emit buf rest _ out _ hs _ ih =>
      intro out' hout
      rcases List.mem_cons.mp hout with rfl | hout
      · exact hP buf _ rest hs
      · exact ih out' hout

/-- If every item takes off `n` elements at least, a run takes no more items than fit. -/
theorem Scans.taken_le {n : Nat}
    (hn : ∀ buf out rest, S.step buf = .emit out rest → n + rest.length ≤ buf.length)
    {buf fin : List α} {evs : List (ε ⊕ ω)} (h : S.Scans buf evs fin) :
    n * (taken evs).length ≤ buf.length := by
  induction h with
  | wait _ => exact Nat.zero_le _
  | skip hs _ ih => exact ih.trans (Nat.le_of_lt (S.skip_lt hs))
  | @emit buf rest _ out evs hs _ ih =>
      rw [taken_inr_cons, List.length_cons, Nat.mul_succ]
      have htaken := hn buf out rest hs
      omega

/-- What a drain has to do with a run: the run's items, its final buffer, and an
error reported exactly if the run dropped something. -/
structure Follows (d : Drained α ω ε) (evs : List (ε ⊕ ω)) (fin : List α) : Prop where
  outs : d.outs = taken evs
  buf : d.buf = fin
  errs : d.errs = [] ↔ dropped evs = []

theorem Follows.then {d e : Drained α ω ε} {evs evs' : List (ε ⊕ ω)} {mid fin : List α}
    (h : Follows d evs mid) (h' : Follows e evs' fin) : Follows (d.then e) (evs ++ evs') fin := by
  refine ⟨?_, h'.buf, ?_⟩
  · simp [Drained.then, h.outs, h'.outs]
  · simp [Drained.then, h.errs, h'.errs]

theorem drainLoop_follows : ∀ (fuel : Nat) {buf fin : List α} {evs : List (ε ⊕ ω)},
    S.Scans buf evs fin → buf.length < fuel → Follows (S.drainLoop fuel buf) evs fin := by
  intro fuel
  induction fuel with
  | zero => intro buf fin evs _ hlt; omega
  | succ fuel ih =>
      intro buf fin evs hrun hlt
      rcases nextLoop_spec hrun (buf.length + 1) none (by omega) with ⟨errs, rfl, hcall⟩ |
        ⟨errs, out, rest, evs', rfl, hrest, hshort, hcall⟩
      · have hnext : S.next buf = ⟨none, errs.getLast?.or none, fin⟩ := hcall
        simp only [drainLoop, hnext]
        exact ⟨by simp, rfl, by simp⟩
      · have hnext : S.next buf = ⟨some out, errs.getLast?.or none, rest⟩ := hcall
        simp only [drainLoop, hnext]
        have hhere : Follows (⟨[out], (errs.getLast?.or none).toList, rest⟩ : Drained α ω ε)
            (errs.map .inl ++ [.inr out]) rest := ⟨by simp, rfl, by simp⟩
        have := hhere.then (ih hrest (by omega))
        simpa using this

/-- **Draining a buffer follows its run.** -/
theorem drain_follows {buf fin : List α} {evs : List (ε ⊕ ω)} (h : S.Scans buf evs fin) :
    Follows (S.drain buf) evs fin :=
  drainLoop_follows (buf.length + 1) h (by omega)

/-! ### Cutting the stream -/

/-- Later bytes do not undo a decision, and waiting forgets nothing that matters. -/
structure Stable (S : Scanner α ω ε) : Prop where
  wait : ∀ {buf rest} (more : List α), S.step buf = .wait rest →
    S.step (buf ++ more) = S.step (rest ++ more)
  skip : ∀ {buf err rest} (more : List α), S.step buf = .skip err rest →
    S.step (buf ++ more) = .skip err (rest ++ more)
  emit : ∀ {buf out rest} (more : List α), S.step buf = .emit out rest →
    S.step (buf ++ more) = .emit out (rest ++ more)

/-- Looking again at what a wait kept is another wait with the same buffer. -/
theorem Stable.quiescent (hS : S.Stable) {buf rest : List α} (h : S.step buf = .wait rest) :
    S.step rest = .wait rest := by
  have := hS.wait [] h
  simp only [List.append_nil] at this
  rw [← this, h]

/-- A call on a buffer that only waits does nothing. -/
theorem next_of_wait {buf : List α} (h : S.step buf = .wait buf) : S.next buf = ⟨none, none, buf⟩ :=
  S.next_returns buf |>.functional (.wait h)

theorem Scans.final (hS : S.Stable) {buf fin : List α} {evs : List (ε ⊕ ω)}
    (h : S.Scans buf evs fin) : S.step fin = .wait fin := by
  induction h with
  | wait hs => exact hS.quiescent hs
  | skip _ _ ih => exact ih
  | emit _ _ ih => exact ih

/-- The run of a concatenation is the run of the first part and then the run of what
it left together with the second part. -/
theorem Scans.append (hS : S.Stable) {buf mid more fin : List α} {evs evs' : List (ε ⊕ ω)}
    (h : S.Scans buf evs mid) (h' : S.Scans (mid ++ more) evs' fin) :
    S.Scans (buf ++ more) (evs ++ evs') fin := by
  induction h with
  | @wait buf rest hs =>
      have hsame := hS.wait more hs
      cases h' with
      | wait hw => exact Scans.wait (hsame.trans hw)
      | skip hk t => exact Scans.skip (hsame.trans hk) t
      | emit he t => exact Scans.emit (hsame.trans he) t
  | skip hs _ ih => exact Scans.skip (hS.skip more hs) (ih h')
  | emit hs _ ih => exact Scans.emit (hS.emit more hs) (ih h')

/-- **However a stream is cut, feeding it follows the run of the whole.** -/
theorem feed_follows (hS : S.Stable) : ∀ (chunks : List (List α)) {buf fin : List α}
    {evs : List (ε ⊕ ω)}, S.step buf = .wait buf → S.Scans (buf ++ chunks.flatten) evs fin →
    Follows (S.feed buf chunks) evs fin := by
  intro chunks
  induction chunks with
  | nil =>
      intro buf fin evs hq hrun
      simp only [List.flatten_nil, List.append_nil] at hrun
      obtain ⟨rfl, rfl⟩ := (Scans.wait hq).functional hrun
      exact ⟨rfl, rfl, Iff.rfl⟩
  | cons chunk rest ih =>
      intro buf fin evs hq hrun
      obtain ⟨evs₁, mid, hfirst⟩ := S.scans_exists (buf ++ chunk)
      obtain ⟨evs₂, fin', hsecond⟩ := S.scans_exists (mid ++ rest.flatten)
      have hwhole := hfirst.append hS hsecond
      rw [List.flatten_cons, ← List.append_assoc] at hrun
      obtain ⟨rfl, rfl⟩ := hwhole.functional hrun
      have hdrain := drain_follows hfirst
      have hrest : Follows (S.feed mid rest) evs₂ fin' := ih (hfirst.final hS) hsecond
      simp only [feed]
      rw [hdrain.buf]
      exact hdrain.then hrest

/-- **Feeding chunks is draining their concatenation**, in items and final buffer. -/
theorem feed_drain (hS : S.Stable) {buf : List α} (hq : S.step buf = .wait buf)
    (chunks : List (List α)) :
    (S.feed buf chunks).outs = (S.drain (buf ++ chunks.flatten)).outs ∧
      (S.feed buf chunks).buf = (S.drain (buf ++ chunks.flatten)).buf := by
  obtain ⟨evs, fin, hrun⟩ := S.scans_exists (buf ++ chunks.flatten)
  have hfeed := feed_follows hS chunks hq hrun
  have hdrain := drain_follows hrun
  exact ⟨hfeed.outs.trans hdrain.outs.symm, hfeed.buf.trans hdrain.buf.symm⟩

end Scanner

end Scan
