/-
Channels that may lose what is sent on them.

What was sent comes out in the order in which it was sent and at most once, or is lost on the
way.  A channel carries the proof of that: what was taken out of it, followed by what is in
it, is a sublist of what was sent.  If nothing is lost meanwhile, what is sent between two
moments at which it is empty is what is taken out (`Since.taken`).
-/
import RudraNetra.Lib.Machine

/-- A channel. -/
structure Channel (α : Type) where
  contents : List α
  /-- All that was sent and all that was taken out; neither is looked at. -/
  sent : List α
  taken : List α
  inOrder : (taken ++ contents).Sublist sent

namespace Channel

variable {α : Type} {c : Channel α}

def empty : Channel α := ⟨[], [], [], List.nil_sublist _⟩

/-- Sends some messages, one after the other. -/
def send (c : Channel α) (as : List α) : Channel α where
  contents := c.contents ++ as
  sent := c.sent ++ as
  taken := c.taken
  inOrder := by
    rw [← List.append_assoc]
    exact c.inOrder.append (List.Sublist.refl as)

/-- Loses the message at a place. -/
def lose (c : Channel α) (i : Nat) : Channel α where
  contents := c.contents.eraseIdx i
  sent := c.sent
  taken := c.taken
  inOrder := ((List.Sublist.refl c.taken).append (List.eraseIdx_sublist c.contents i)).trans
    c.inOrder

/-- Takes the first message out, if there is one. -/
def take (c : Channel α) : Option (α × Channel α) :=
  match h : c.contents with
  | [] => none
  | a :: rest => some (a, ⟨rest, c.sent, c.taken ++ [a], by
      rw [List.append_assoc, List.singleton_append, ← h]
      exact c.inOrder⟩)

@[simp] theorem empty_contents : (empty : Channel α).contents = [] := rfl
@[simp] theorem empty_sent : (empty : Channel α).sent = [] := rfl
@[simp] theorem empty_taken : (empty : Channel α).taken = [] := rfl

@[simp] theorem send_contents (as : List α) : (c.send as).contents = c.contents ++ as := rfl
@[simp] theorem send_sent (as : List α) : (c.send as).sent = c.sent ++ as := rfl
@[simp] theorem send_taken (as : List α) : (c.send as).taken = c.taken := rfl

@[simp] theorem lose_sent (i : Nat) : (c.lose i).sent = c.sent := rfl
@[simp] theorem lose_taken (i : Nat) : (c.lose i).taken = c.taken := rfl

/-- What is taken out was in front. -/
theorem take_eq_some {a : α} {c' : Channel α} (h : c.take = some (a, c')) :
    c.contents = a :: c'.contents ∧ c'.sent = c.sent ∧ c'.taken = c.taken ++ [a] := by
  unfold take at h
  split at h
  · cases h
  · rename_i hcontents
    obtain ⟨rfl, rfl⟩ := Prod.mk.inj (Option.some.inj h)
    exact ⟨hcontents, rfl, rfl⟩

/-- What was taken out was sent, in that order. -/
theorem taken_sublist (c : Channel α) : c.taken.Sublist c.sent :=
  (List.sublist_append_left _ _).trans c.inOrder

/-! ### Nothing lost -/

/-- The channel has lost nothing since it was `c₀`. -/
def Since (c₀ c : Channel α) : Prop :=
  ∃ new out, c.sent = c₀.sent ++ new ∧ c.taken = c₀.taken ++ out ∧
    out ++ c.contents = c₀.contents ++ new

variable {c₀ : Channel α}

theorem Since.refl (c : Channel α) : Since c c :=
  ⟨[], [], (List.append_nil _).symm, (List.append_nil _).symm, (List.append_nil _).symm⟩

theorem Since.send (h : Since c₀ c) (as : List α) : Since c₀ (c.send as) := by
  obtain ⟨new, out, hsent, htaken, hcontents⟩ := h
  refine ⟨new ++ as, out, ?_, htaken, ?_⟩
  · rw [send_sent, hsent, List.append_assoc]
  · rw [send_contents, ← List.append_assoc, hcontents, List.append_assoc]

theorem Since.take (h : Since c₀ c) {a : α} {c' : Channel α} (ht : c.take = some (a, c')) :
    Since c₀ c' := by
  obtain ⟨new, out, hsent, htaken, hcontents⟩ := h
  obtain ⟨hfront, hsent', htaken'⟩ := take_eq_some ht
  refine ⟨new, out ++ [a], hsent'.trans hsent, ?_, ?_⟩
  · rw [htaken', htaken, List.append_assoc]
  · rw [List.append_assoc, List.singleton_append, ← hfront, hcontents]

/-- Between two moments at which the channel is empty, what is sent is taken out. -/
theorem Since.taken (h : Since c₀ c) (hempty₀ : c₀.contents = []) (hempty : c.contents = []) :
    ∃ new, c.sent = c₀.sent ++ new ∧ c.taken = c₀.taken ++ new := by
  obtain ⟨new, out, hsent, htaken, hcontents⟩ := h
  rw [hempty, hempty₀, List.append_nil, List.nil_append] at hcontents
  exact ⟨new, hsent, hcontents ▸ htaken⟩

end Channel
