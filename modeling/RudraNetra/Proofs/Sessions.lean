/-
When the session registry knows the live connections.

`Agrees` is what the registry is for: under each IMEI it has the session that was
registered last among those that are alive, and nothing under an IMEI without one.
Registering keeps that.  Returning keeps it exactly if no other connection with the
same IMEI is alive: the deferred delete removes whatever entry stands under the IMEI,
so a device that reconnects before its old handler returns loses its new session.
-/
import RudraNetra.Ingest.Sessions

namespace RudraNetra

/-- The registry has, under each IMEI, the session registered last among the live ones. -/
def Registry.Agrees (s : Registry) : Prop :=
  ∀ imei, s.sessions.lookup imei = s.live.find? (·.imei = imei)

/-- A handler returns only when no other connection with its IMEI is alive. -/
def ExitsAlone (s : Registry) : RegistryStep → Prop
  | .exit conn => ∀ sess ∈ s.live, sess.conn = conn →
      ∀ other ∈ s.live, other.imei = sess.imei → other.conn = conn
  | _ => True

/-- Connections are told apart by their numbers. -/
structure Registry.Numbered (s : Registry) : Prop where
  distinct : (s.live.map (·.conn)).Nodup
  live_lt : ∀ sess ∈ s.live, sess.conn < s.next
  pending_lt : ∀ conn ∈ s.pending, conn < s.next
  disjoint : ∀ sess ∈ s.live, sess.conn ∉ s.pending

/-! ### What a step does -/

theorem identify_conn {conn : Nat} {packet : List UInt8} {answer : Option DeviceAnswer}
    {sess : Session} (h : identify conn packet answer = some sess) : sess.conn = conn := by
  unfold identify at h
  split at h
  · exact nomatch h
  · obtain ⟨d, -, rfl⟩ := Option.map_eq_some_iff.mp h
    rfl

/-- A step registers a session, removes one, or leaves the sessions alone. -/
theorem step_cases {s s' : Registry} {a : RegistryStep} (h : s.step a = some s') :
    (s'.sessions = s.sessions ∧ s'.live = s.live ∧ s.next ≤ s'.next ∧
      (∀ conn ∈ s'.pending, conn ∈ s.pending ∨ conn = s.next ∧ s'.next = s.next + 1) ∧
      ∀ t, ExitsAlone t a) ∨
    (∃ sess, sess.conn ∈ s.pending ∧ (∀ t, ExitsAlone t a) ∧
      s' = { s with
        pending := s.pending.filter (· ≠ sess.conn)
        sessions := s.sessions.insert sess.imei sess
        live := sess :: s.live }) ∨
    ∃ sess ∈ s.live, a = .exit sess.conn ∧
      s' = { s with
        sessions := s.sessions.erase sess.imei
        live := s.live.filter (·.conn ≠ sess.conn) } := by
  rcases a with _ | ⟨conn, packet, answer⟩ | ⟨conn⟩ | ⟨conn⟩ | _
  · obtain rfl := Option.some.inj h
    refine .inl ⟨rfl, rfl, Nat.le_succ _, ?_, fun _ => trivial⟩
    intro conn hconn
    rcases List.mem_cons.mp hconn with hconn | hconn
    · exact .inr ⟨hconn, rfl⟩
    · exact .inl hconn
  · rw [Registry.step] at h
    by_cases hpending : conn ∈ s.pending
    · rw [if_pos hpending] at h
      rcases hid : identify conn packet answer with _ | sess
      · rw [hid] at h
        obtain rfl := Option.some.inj h
        exact .inl ⟨rfl, rfl, Nat.le_refl _, fun c hc => .inl (List.mem_filter.mp hc).1,
          fun _ => trivial⟩
      · rw [hid] at h
        obtain rfl := identify_conn hid
        exact .inr (.inl ⟨sess, hpending, fun _ => trivial, (Option.some.inj h).symm⟩)
    · rw [if_neg hpending] at h
      exact nomatch h
  · rw [Registry.step] at h
    by_cases hpending : conn ∈ s.pending
    · rw [if_pos hpending] at h
      obtain rfl := Option.some.inj h
      exact .inl ⟨rfl, rfl, Nat.le_refl _, fun c hc => .inl (List.mem_filter.mp hc).1,
        fun _ => trivial⟩
    · rw [if_neg hpending] at h
      exact nomatch h
  · rw [Registry.step] at h
    rcases hfind : s.live.find? (·.conn = conn) with _ | sess
    · rw [hfind] at h
      exact nomatch h
    · rw [hfind] at h
      obtain rfl : sess.conn = conn := by simpa using List.find?_some hfind
      exact .inr (.inr ⟨sess, List.mem_of_find?_eq_some hfind, rfl, (Option.some.inj h).symm⟩)
  · obtain rfl := Option.some.inj h
    exact .inl ⟨rfl, rfl, Nat.le_refl _, fun _ hc => .inl hc, fun _ => trivial⟩

theorem Registry.Numbered.step {s s' : Registry} {a : RegistryStep} (hs : s.Numbered)
    (h : s.step a = some s') : s'.Numbered := by
  rcases step_cases h with ⟨-, hlive, hnext, hpending, -⟩ | ⟨sess, hmem, -, rfl⟩ |
    ⟨sess, -, -, rfl⟩
  · refine ⟨by rw [hlive]; exact hs.distinct, ?_, ?_, ?_⟩
    · intro sess hsess
      rw [hlive] at hsess
      exact Nat.lt_of_lt_of_le (hs.live_lt sess hsess) hnext
    · intro conn hconn
      rcases hpending conn hconn with hconn | ⟨rfl, hnew⟩
      · exact Nat.lt_of_lt_of_le (hs.pending_lt conn hconn) hnext
      · omega
    · intro sess hsess hconn
      rw [hlive] at hsess
      rcases hpending _ hconn with hconn | ⟨hnew, -⟩
      · exact hs.disjoint sess hsess hconn
      · have hlt := hs.live_lt sess hsess
        omega
  · refine ⟨?_, ?_, ?_, ?_⟩
    · rw [List.map_cons, List.nodup_cons]
      refine ⟨fun hin => ?_, hs.distinct⟩
      obtain ⟨other, hother, hconn⟩ := List.mem_map.mp hin
      exact hs.disjoint other hother (hconn ▸ hmem)
    · intro other hother
      rcases List.mem_cons.mp hother with rfl | hother
      · exact hs.pending_lt _ hmem
      · exact hs.live_lt other hother
    · exact fun conn hconn => hs.pending_lt conn (List.mem_filter.mp hconn).1
    · intro other hother hconn
      obtain ⟨hconn, hne⟩ := List.mem_filter.mp hconn
      rcases List.mem_cons.mp hother with rfl | hother
      · simp at hne
      · exact hs.disjoint other hother hconn
  · refine ⟨?_, ?_, hs.pending_lt, ?_⟩
    · exact hs.distinct.sublist (List.filter_sublist.map _)
    · exact fun other hother => hs.live_lt other (List.mem_filter.mp hother).1
    · exact fun other hother => hs.disjoint other (List.mem_filter.mp hother).1

/-! ### When a step keeps the registry in agreement -/

theorem agrees_register {s : Registry} (hs : s.Agrees) (sess : Session) (pending : List Nat) :
    ({ s with
        pending := pending
        sessions := s.sessions.insert sess.imei sess
        live := sess :: s.live } : Registry).Agrees := by
  intro imei
  show (s.sessions.insert sess.imei sess).lookup imei = (sess :: s.live).find? (·.imei = imei)
  rw [List.find?_cons]
  by_cases himei : sess.imei = imei
  · subst himei
    rw [Finmap.lookup_insert]
    simp
  · rw [Finmap.lookup_insert_of_ne _ (fun h => himei h.symm), hs imei]
    simp [himei]

theorem agrees_exit_iff {s : Registry} (hs : s.Agrees) (hnum : s.Numbered) {sess : Session}
    (hsess : sess ∈ s.live) :
    ({ s with
        sessions := s.sessions.erase sess.imei
        live := s.live.filter (·.conn ≠ sess.conn) } : Registry).Agrees ↔
      ExitsAlone s (.exit sess.conn) := by
  have hunique : ∀ other ∈ s.live, other.conn = sess.conn → other = sess := by
    intro other hother hconn
    exact List.inj_on_of_nodup_map hnum.distinct hother hsess hconn
  constructor
  · intro hagrees sess' hsess' hconn other hother himei
    obtain rfl := hunique sess' hsess' hconn
    by_contra hne
    -- the entry is gone, and the other connection is still there
    have hnone := hagrees sess'.imei
    rw [Finmap.lookup_erase] at hnone
    have hall := List.find?_eq_none.mp hnone.symm other
      (List.mem_filter.mpr ⟨hother, by simpa using hne⟩)
    exact hall (by simpa using himei)
  · intro halone imei
    show (s.sessions.erase sess.imei).lookup imei =
      (s.live.filter (·.conn ≠ sess.conn)).find? (·.imei = imei)
    by_cases himei : imei = sess.imei
    · subst himei
      rw [Finmap.lookup_erase, eq_comm, List.find?_eq_none]
      intro other hother
      obtain ⟨hother, hne⟩ := List.mem_filter.mp hother
      intro heq
      exact absurd (halone sess hsess rfl other hother (by simpa using heq)) (by simpa using hne)
    · -- the session that goes is under another IMEI
      rw [Finmap.lookup_erase_ne himei, hs imei, List.find?_filter]
      refine List.find?_congr fun other hother => ?_
      by_cases hconn : other.conn = sess.conn
      · obtain rfl := hunique other hother hconn
        simp [Ne.symm himei]
      · simp [hconn]

theorem agrees_step_iff {s s' : Registry} {a : RegistryStep} (hnum : s.Numbered) (hs : s.Agrees)
    (h : s.step a = some s') : s'.Agrees ↔ ExitsAlone s a := by
  rcases step_cases h with ⟨hsessions, hlive, -, -, hother⟩ | ⟨sess, -, hother, rfl⟩ |
    ⟨sess, hsess, rfl, rfl⟩
  · refine ⟨fun _ => hother s, fun _ => ?_⟩
    intro imei
    rw [hsessions, hlive]
    exact hs imei
  · exact ⟨fun _ => hother s, fun _ => agrees_register hs sess _⟩
  · exact agrees_exit_iff hs hnum hsess

/-! ### Whole runs -/

theorem numbered_init : registry.init.Numbered := ⟨List.nodup_nil, nofun, nofun, nofun⟩

theorem agrees_init : registry.init.Agrees := fun _ => rfl

/-- **The registry knows the live connections in every state of a run exactly if no handler
returns while another connection with its IMEI is alive.** -/
theorem agrees_iff_exitsAlone (as : List RegistryStep) :
    registry.AllStates Registry.Agrees registry.init as ↔
      registry.AllSteps ExitsAlone registry.init as := by
  refine Machine.allStates_iff_allSteps (I := Registry.Numbered) ?_ ?_ as _ numbered_init agrees_init
  · exact fun s a s' hnum h => hnum.step h
  · exact fun s a s' hnum hs h => agrees_step_iff hnum hs h

/-- A device connects, connects again, and then its first handler returns. -/
def reconnect : List RegistryStep :=
  let packet := [0x00, 0x0F] ++ List.replicate 15 0x31
  let answer := some ⟨1, 1, "GJ-01"⟩
  [.accept, .handshake 0 packet answer, .accept, .handshake 1 packet answer, .exit 0]

/-- After it the second connection is alive, and nothing is registered. -/
theorem reconnect_lost : ∃ s, registry.Reachable s ∧
    s.live.map (·.conn) = [1] ∧ s.sessions = ∅ ∧ ¬ s.Agrees := by
  have hrun : registry.run registry.init reconnect = some _ := rfl
  refine ⟨_, Machine.Reachable.init.run hrun, by decide, by decide, ?_⟩
  intro h
  exact absurd (h (List.replicate 15 0x31)) (by decide)

end RudraNetra
