/-
Readers of counted sequences.

A decoder that walks an offset along its data is a `Reader`: from an offset and a
state it comes to a new offset and a new state, or fails.  `Exact` says which
language it reads: it succeeds precisely where an encoding of some value lies, steps
over that encoding, and stores the value in the state.

Reading `n` items one behind the other is again exact (`Reader.Exact.times`), and so is
reading a count and then so many items (`Reader.Exact.counted`), so the language of a
format of counted groups follows from the language of one item.
-/
import RudraNetra.Lib.GoSlice

namespace Go

open Wire

variable {α β σ ε : Type}

/-- A reader moves an offset along its data and updates a state. -/
abbrev Reader (ε β σ : Type) : Type := List β → Nat → σ → Result ε (σ × Nat)

/-- The reader reads exactly the encodings of the values in `lang`. -/
def Reader.Exact (read : Reader ε β σ) (lang : α → Prop) (encode : α → List β) (store : σ → α → σ) :
    Prop :=
  ∀ data off st r, off ≤ data.length → (read data off st = .ok r ↔
    ∃ a, lang a ∧ At data off (encode a) ∧ r = (store st a, off + (encode a).length))

/-- Reads `n` items one behind the other. -/
def Reader.times (read : Reader ε β σ) : Nat → Reader ε β σ
  | 0 => fun _ off st => .ok (st, off)
  | n + 1 => fun data off st => do
    let r ← read data off st
    Reader.times read n data r.2 r.1

theorem Reader.times_succ (read : Reader ε β σ) (n : Nat) (data : List β) (off : Nat) (st : σ) :
    read.times (n + 1) data off st = read data off st >>= fun r => read.times n data r.2 r.1 := rfl

theorem Reader.Exact.times {read : Reader ε β σ} {lang : α → Prop} {encode : α → List β}
    {store : σ → α → σ} (h : Reader.Exact read lang encode store) (n : Nat) :
    Reader.Exact (Reader.times read n) (fun as : List α => as.length = n ∧ ∀ a ∈ as, lang a)
      (List.flatMap encode) (List.foldl store) := by
  induction n with
  | zero =>
      intro data off st r hoff
      constructor
      · intro hr
        cases hr
        exact ⟨[], ⟨rfl, nofun⟩, At.empty hoff, rfl⟩
      · intro h
        obtain ⟨as, ⟨hlen, -⟩, -, rfl⟩ := h
        obtain rfl := List.length_eq_zero_iff.mp hlen
        rfl
  | succ n ih =>
      intro data off st r hoff
      rw [Reader.times_succ, bind_eq_ok]
      constructor
      · intro ⟨r', hread, hrest⟩
        obtain ⟨a, ha, hat, rfl⟩ := (h data off st r' hoff).mp hread
        obtain ⟨as, ⟨hlen, has⟩, hats, rfl⟩ := (ih data _ _ r hat.le).mp hrest
        refine ⟨a :: as, ⟨by simp [hlen], by simpa using ⟨ha, has⟩⟩, ?_, ?_⟩
        · rw [List.flatMap_cons]
          exact At.append_iff.mpr ⟨hat, hats⟩
        · simp [Nat.add_assoc]
      · intro h
        obtain ⟨as, ⟨hlen, has⟩, hats, rfl⟩ := h
        obtain _ | ⟨a, as⟩ := as
        · exact nomatch hlen
        · rw [List.flatMap_cons] at hats
          have hat := hats.left
          refine ⟨(store st a, off + (encode a).length), ?_, ?_⟩
          · exact (h data off st _ hoff).mpr ⟨a, has a List.mem_cons_self, hat, rfl⟩
          · refine (ih data _ _ _ hat.le).mpr ⟨as, ⟨Nat.succ.inj hlen, ?_⟩, hats.right, ?_⟩
            · exact fun b hb => has b (List.mem_cons_of_mem _ hb)
            · simp [Nat.add_assoc]

/-- Reads a big-endian count of `w` bytes, and then so many items. -/
def Reader.counted (w : Nat) (read : Reader ε UInt8 σ) : Reader ε UInt8 σ := fun data off st => do
  let n ← uintAt data off w
  Reader.times read n data (off + w) st

theorem Reader.Exact.counted {read : Reader ε UInt8 σ} {lang : α → Prop} {encode : α → List UInt8}
    {store : σ → α → σ} (h : Reader.Exact read lang encode store) (w : Nat) :
    Reader.Exact (Reader.counted w read) (fun as : List α => as.length < 256 ^ w ∧ ∀ a ∈ as, lang a)
      (fun as => beBytes w as.length ++ as.flatMap encode) (List.foldl store) := by
  intro data off st r hoff
  rw [Reader.counted, bind_eq_ok]
  constructor
  · intro ⟨n, hn, hitems⟩
    obtain ⟨hlt, hcount⟩ := uintAt_eq_ok.mp hn
    have hle := hcount.le
    rw [beBytes_length] at hle
    obtain ⟨as, ⟨rfl, has⟩, hat, rfl⟩ := (h.times n data (off + w) st r hle).mp hitems
    refine ⟨as, ⟨hlt, has⟩, At.append_iff.mpr ⟨hcount, ?_⟩, ?_⟩
    · rw [beBytes_length]
      exact hat
    · simp [Nat.add_assoc]
  · intro h
    obtain ⟨as, ⟨hlt, has⟩, hat, rfl⟩ := h
    obtain ⟨hcount, hitems⟩ := At.append_iff.mp hat
    have hle := hcount.le
    rw [beBytes_length] at hitems hle
    refine ⟨as.length, uintAt_eq_ok.mpr ⟨hlt, hcount⟩, ?_⟩
    refine (h.times _ data (off + w) st _ hle).mpr ⟨as, ⟨rfl, has⟩, hitems, ?_⟩
    simp [Nat.add_assoc]

end Go
