/-
Which positions of a frame go live.

The handler stores a frame in chunks and stops at the first that fails.  Then it makes the
positions live (raises the odometer, publishes the event) if any of them was stored, and it makes
all of them live, whether they were or not.  A frame has at most 255 records and a chunk
200, so there are at most two chunks, and the only frames that are stored in part are those
of more than 200 records whose second chunk fails.

What went live is told apart by the events and by the number of statements: each position
adds one event if Redis is there, and one statement if its odometer is positive.
-/
import RudraNetra.Proofs.Acknowledge
import RudraNetra.Proofs.RoundTrip

namespace RudraNetra

open Go

/-! ### The handler in two halves -/

/-- The positions of a frame as they are to be stored, how many were, and the world then. -/
def batched (env : Env) (ps : List Position) (w : World) : List Position × Nat × World :=
  let (positions, readings) := normalise env.timeNow ps w.readings
  let w := { w with readings := readings }
  let (w, stored, ok) := insertBatch env positions w
  (positions, stored, { w with
    stats := { w.stats with
      batchErrors := if ok then w.stats.batchErrors else w.stats.batchErrors + 1
      records := w.stats.records + positions.length
      positionsStored := w.stats.positionsStored + stored } })

/-- What the handler does after the batch, if these positions go live. -/
def afterBatch (env : Env) (redis : Bool) (sess : DeviceSession) (live : List Position)
    (stored : Nat) (w : World) : World :=
  ((live.foldl (goLive env redis sess) w).exec env (.heartbeat sess.deviceID)).1.write env
    (acknowledge stored)

/-- All positions go live if any was stored. -/
theorem handleAVLFrame_eq (env : Env) (redis : Bool) (sess : DeviceSession) {payload : List UInt8}
    {ps qs : List Position} {stored : Nat} {w w₁ : World}
    (h : parseFrame payload sess.deviceID = .returns ps none)
    (hbatch : batched env ps w = (qs, stored, w₁)) :
    handleAVLFrame env redis sess payload w =
      some (afterBatch env redis sess (if stored > 0 then qs else []) stored w₁) := by
  rw [handleAVLFrame, h]
  unfold batched at hbatch
  dsimp only at hbatch ⊢
  obtain ⟨rfl, rfl, rfl⟩ := hbatch
  by_cases hpos : (insertBatch env (normalise env.timeNow ps w.readings).1
      { w with readings := (normalise env.timeNow ps w.readings).2 }).2.1 > 0
  · rw [if_pos hpos, if_pos hpos]
    rfl
  · rw [if_neg hpos, if_neg hpos]
    rfl

/-- Exactly the stored positions go live, each once and in order. -/
def OnlyStoredLive (env : Env) (redis : Bool) (sess : DeviceSession) (payload : List UInt8)
    (ps : List Position) (w : World) : Prop :=
  ∃ stored, stored <+: (batched env ps w).1 ∧
    (batched env ps w).2.2.db.positions = w.db.positions ++ stored.map positionRow ∧
    handleAVLFrame env redis sess payload w = some
      (afterBatch env redis sess stored (batched env ps w).2.1 (batched env ps w).2.2)

/-! ### What going live leaves behind -/

theorem exec_counts (env : Env) (w : World) (stmt : Statement) :
    (w.exec env stmt).1.statements = w.statements + 1 ∧
      (w.exec env stmt).1.published = w.published := by
  unfold World.exec
  dsimp only
  by_cases hok : env.execOk w.statements
  · rw [if_pos hok]
    rcases w.db.exec (env.databaseNow w.statements) stmt with _ | ⟨db, n⟩
    · exact ⟨rfl, rfl⟩
    · exact ⟨rfl, rfl⟩
  · rw [if_neg hok]
    exact ⟨rfl, rfl⟩

/-- One position adds an event if Redis is there, and a statement if its odometer is positive. -/
theorem goLive_counts (env : Env) (redis : Bool) (sess : DeviceSession) (w : World)
    (pos : Position) :
    (goLive env redis sess w pos).statements =
        w.statements + (if 0 < pos.odometer then 1 else 0) ∧
      (goLive env redis sess w pos).published.map Prod.fst =
        w.published.map Prod.fst ++ if redis then [liveEvent sess pos] else [] := by
  have hpublish : ∀ w : World, (publishPosition env redis sess pos w).statements = w.statements ∧
      (publishPosition env redis sess pos w).published.map Prod.fst =
        w.published.map Prod.fst ++ if redis then [liveEvent sess pos] else [] := by
    intro w
    obtain _ | _ := redis
    · simp [publishPosition]
    · simp [publishPosition]
  obtain ⟨hstatements, hpublished⟩ := exec_counts env w (.raiseOdometer pos.odometer sess.deviceID)
  unfold goLive
  by_cases hodo : 0 < pos.odometer
  · simp only [gt_iff_lt, if_pos hodo, hpublish, hstatements, hpublished, and_self]
  · simp only [gt_iff_lt, if_neg hodo, hpublish, Nat.add_zero, and_self]

theorem foldl_goLive_counts (env : Env) (redis : Bool) (sess : DeviceSession)
    (live : List Position) : ∀ w : World,
    (live.foldl (goLive env redis sess) w).statements =
        w.statements + live.countP (fun pos => 0 < pos.odometer) ∧
      (live.foldl (goLive env redis sess) w).published.map Prod.fst =
        w.published.map Prod.fst ++ if redis then live.map (liveEvent sess) else [] := by
  induction live with
  | nil => simp
  | cons pos live ih =>
      intro w
      obtain ⟨hstatements, hpublished⟩ := goLive_counts env redis sess w pos
      rw [List.foldl_cons, (ih _).1, (ih _).2, hstatements, hpublished, List.countP_cons]
      refine ⟨by simp only [decide_eq_true_eq]; omega, ?_⟩
      obtain _ | _ := redis
      · simp
      · simp

theorem afterBatch_counts (env : Env) (redis : Bool) (sess : DeviceSession) (live : List Position)
    (stored : Nat) (w : World) :
    (afterBatch env redis sess live stored w).statements =
        w.statements + live.countP (fun pos => 0 < pos.odometer) + 1 ∧
      (afterBatch env redis sess live stored w).published.map Prod.fst =
        w.published.map Prod.fst ++ if redis then live.map (liveEvent sess) else [] := by
  obtain ⟨hstatements, hpublished⟩ := foldl_goLive_counts env redis sess live w
  obtain ⟨hsent, hkept⟩ := exec_counts env (live.foldl (goLive env redis sess) w)
    (.heartbeat sess.deviceID)
  unfold afterBatch World.write
  dsimp only
  rw [hsent, hkept, hstatements, hpublished]
  exact ⟨rfl, rfl⟩

/-- After the batch no rows are added. -/
theorem afterBatch_positions (env : Env) (redis : Bool) (sess : DeviceSession)
    (live : List Position) (stored : Nat) (w : World) :
    (afterBatch env redis sess live stored w).db.positions = w.db.positions :=
  (exec_sameRows env _ (.heartbeat sess.deviceID) nofun).1.trans
    (foldl_goLive_sameRows env redis sess live w).1

/-- Without Redis and without an odometer nothing goes live. -/
theorem foldl_goLive_quiet (env : Env) (sess : DeviceSession) {live : List Position}
    (h : ∀ pos ∈ live, pos.odometer ≤ 0) (w : World) :
    live.foldl (goLive env false sess) w = w := by
  induction live with
  | nil => rfl
  | cons pos live ih =>
      have hodo : ¬ pos.odometer > 0 := Int.not_lt.mpr (h pos List.mem_cons_self)
      have hstep : goLive env false sess w pos = w := by
        rw [goLive, if_neg hodo]
        rfl
      rw [List.foldl_cons, hstep]
      exact ih fun p hp => h p (List.mem_cons_of_mem _ hp)

/-- Storing the batch publishes nothing. -/
theorem batched_published (env : Env) (ps : List Position) (w : World) :
    (batched env ps w).2.2.published = w.published := by
  obtain ⟨-, -, -, -, -, hbatch⟩ := insertBatch_spec env (normalise env.timeNow ps w.readings).1
    { w with readings := (normalise env.timeNow ps w.readings).2 }
  exact hbatch.published

/-- The events of the positions that went live. -/
theorem OnlyStoredLive.published {env : Env} {redis : Bool} {sess : DeviceSession}
    {payload : List UInt8} {ps : List Position} {w : World}
    (honly : OnlyStoredLive env redis sess payload ps w) :
    ∃ (stored : List Position) (w' : World), handleAVLFrame env redis sess payload w = some w' ∧
      (batched env ps w).2.2.db.positions = w.db.positions ++ stored.map positionRow ∧
      w'.published.map Prod.fst =
        w.published.map Prod.fst ++ if redis then stored.map (liveEvent sess) else [] := by
  obtain ⟨stored, -, hrows, hworld⟩ := honly
  refine ⟨stored, _, hworld, hrows, ?_⟩
  rw [(afterBatch_counts env redis sess stored _ _).2, batched_published]

/-! ### How much of a frame is stored -/

theorem chunks_of_le {qs : List Position} (hne : qs ≠ []) (h : qs.length ≤ chunkSize) :
    chunks qs = [qs] := by
  have hpos := List.length_pos_iff.mpr hne
  have hone : (qs.length + chunkSize - 1) / chunkSize = 1 := by
    unfold chunkSize at h ⊢
    omega
  rw [chunks, hone, List.range_one, List.map_singleton, Nat.mul_zero, List.drop_zero,
    List.take_of_length_le h]

theorem chunks_of_gt {qs : List Position} (hgt : chunkSize < qs.length)
    (hle : qs.length ≤ 2 * chunkSize) :
    chunks qs = [qs.take chunkSize, qs.drop chunkSize] := by
  have htwo : (qs.length + chunkSize - 1) / chunkSize = 2 := by
    unfold chunkSize at hgt hle ⊢
    omega
  have hrest : (qs.drop chunkSize).length ≤ chunkSize := by
    rw [List.length_drop]
    omega
  rw [chunks, htwo, show List.range 2 = [0, 1] from rfl, List.map_cons, List.map_singleton,
    Nat.mul_zero, List.drop_zero, Nat.mul_one, List.take_of_length_le hrest]

/-- The number of stored positions of a batch of two chunks at most. -/
theorem insertBatch_count (env : Env) {qs : List Position} (hle : qs.length ≤ 2 * chunkSize)
    (w : World) :
    (insertBatch env qs w).2.1 =
      if env.execOk w.statements = false then 0
      else if qs.length ≤ chunkSize ∨ env.execOk (w.statements + 1) = true then qs.length
      else chunkSize := by
  rw [insertBatch_eq]
  by_cases hne : qs = []
  · subst hne
    simp [chunks, insertChunks, chunkSize]
  have hstatements : ∀ chunk, (w.store chunk).statements = w.statements + 1 := fun _ => rfl
  by_cases hone : qs.length ≤ chunkSize
  · rw [chunks_of_le hne hone, insertChunks_cons]
    by_cases hfirst : env.execOk w.statements
    · simp [hfirst, hone, insertChunks]
    · simp [hfirst]
  · have hgt : chunkSize < qs.length := Nat.lt_of_not_le hone
    rw [chunks_of_gt hgt hle, insertChunks_cons]
    by_cases hfirst : env.execOk w.statements
    · rw [if_pos hfirst, insertChunks_cons, hstatements]
      by_cases hsecond : env.execOk (w.statements + 1)
      · rw [if_pos hsecond, insertChunks]
        simp [hfirst, hsecond]
        omega
      · rw [if_neg hsecond]
        simp [hfirst, hsecond, hone]
        omega
    · simp [hfirst]

/-- The first positions of the batch are stored, as many as are counted. -/
theorem batched_spec (env : Env) (ps : List Position) (w : World) :
    List.Forall₂ Normalised ps (batched env ps w).1 ∧
      (batched env ps w).2.1 ≤ (batched env ps w).1.length ∧
      (batched env ps w).2.2.db.positions = w.db.positions ++
        ((batched env ps w).1.take (batched env ps w).2.1).map positionRow := by
  refine ⟨normalise_spec env.timeNow ps w.readings, ?_⟩
  obtain ⟨k, hk, hcount, -, hrows, -⟩ := insertBatch_spec env
    (normalise env.timeNow ps w.readings).1
    { w with readings := (normalise env.timeNow ps w.readings).2 }
  unfold batched
  dsimp only
  rw [hcount]
  exact ⟨hk, hrows⟩

theorem Normalised.odometer {pos stored : Position} (h : Normalised pos stored) :
    stored.odometer = pos.odometer := by
  unfold Normalised at h
  split_ifs at h
  · obtain ⟨now, rfl⟩ := h
    rfl
  · rw [h]

theorem map_odometer {ps qs : List Position} (h : List.Forall₂ Normalised ps qs) :
    qs.map (·.odometer) = ps.map (·.odometer) := by
  induction h with
  | nil => rfl
  | cons hpos _ ih => rw [List.map_cons, List.map_cons, hpos.odometer, ih]

/-- What goes live when a batch is cut short is told from what goes live when it is not. -/
theorem live_of_afterBatch_eq {env : Env} {redis : Bool} {sess : DeviceSession}
    {qs : List Position} {n stored : Nat} {w : World} (hn : n < qs.length)
    (h : afterBatch env redis sess qs stored w = afterBatch env redis sess (qs.take n) stored w) :
    redis = false ∧ ∀ pos ∈ qs.drop n, pos.odometer ≤ 0 := by
  obtain ⟨hsent, hpublished⟩ := afterBatch_counts env redis sess qs stored w
  obtain ⟨hsent', hpublished'⟩ := afterBatch_counts env redis sess (qs.take n) stored w
  rw [h] at hsent hpublished
  have hcount : (qs.drop n).countP (fun pos => 0 < pos.odometer) = 0 := by
    have hsplit : (qs.take n ++ qs.drop n).countP (fun pos => 0 < pos.odometer) = _ :=
      List.countP_append
    rw [List.take_append_drop] at hsplit
    omega
  refine ⟨?_, fun pos hpos => ?_⟩
  · by_contra hredis
    rw [Bool.not_eq_false] at hredis
    subst hredis
    have hevents := congrArg List.length (hpublished.symm.trans hpublished')
    simp at hevents
    omega
  · simpa using List.countP_eq_zero.mp hcount pos hpos

/-- The frame fits one chunk, or its first chunk fails, or its second does not, or else Redis is
not there and no odometer is to be raised for the second. -/
def NothingCut (env : Env) (redis : Bool) (ps : List Position) (w : World) : Prop :=
  ps.length ≤ chunkSize ∨ env.execOk w.statements = false ∨
    env.execOk (w.statements + 1) = true ∨
    redis = false ∧ ∀ pos ∈ ps.drop chunkSize, pos.odometer ≤ 0

/-- What is known of a frame when its batch is stored. -/
theorem batched_count (env : Env) {payload : List UInt8} {deviceID : Int} {ps : List Position}
    (w : World) (h : parseFrame payload deviceID = .returns ps none) :
    (batched env ps w).2.1 =
      if env.execOk w.statements = false then 0
      else if ps.length ≤ chunkSize ∨ env.execOk (w.statements + 1) = true then ps.length
      else chunkSize := by
  obtain ⟨hnormal, -, -⟩ := batched_spec env ps w
  have hlength : (batched env ps w).1.length ≤ 2 * chunkSize := by
    have := parseFrame_length_le h
    rw [← hnormal.length_eq]
    unfold chunkSize
    omega
  rw [hnormal.length_eq]
  exact insertBatch_count env hlength _

theorem quiet_iff_of_normalised {ps qs : List Position} (h : List.Forall₂ Normalised ps qs)
    (n : Nat) : (∀ pos ∈ qs.drop n, pos.odometer ≤ 0) ↔ ∀ pos ∈ ps.drop n, pos.odometer ≤ 0 := by
  have hall : ∀ l : List Position, (∀ pos ∈ l, pos.odometer ≤ 0) ↔
      ∀ n ∈ l.map (·.odometer), n ≤ 0 := fun l => by simp
  rw [hall, hall, List.map_drop, List.map_drop, map_odometer h]

/-- Where a batch is cut, more goes live than was stored. -/
theorem OnlyStoredLive.nothingCut {env : Env} {redis : Bool} {sess : DeviceSession}
    {payload : List UInt8} {ps : List Position} {w : World}
    (h : parseFrame payload sess.deviceID = .returns ps none)
    (honly : OnlyStoredLive env redis sess payload ps w) : NothingCut env redis ps w := by
  obtain ⟨hnormal, hle, hrows⟩ := batched_spec env ps w
  have hcount := batched_count env w h
  rcases hbatch : batched env ps w with ⟨qs, stored, w₁⟩
  unfold OnlyStoredLive at honly
  rw [handleAVLFrame_eq env redis sess h hbatch] at honly
  rw [hbatch] at hnormal hle hrows hcount honly
  dsimp only at hnormal hle hrows hcount honly
  obtain ⟨live, hprefix, hlive, hworld⟩ := honly
  by_contra hno
  simp only [NothingCut, not_or, Bool.not_eq_false] at hno
  obtain ⟨hgt, hfirst, hsecond, hquiet⟩ := hno
  rw [if_neg (by simpa using hfirst), if_neg (by simp [hgt, hsecond])] at hcount
  -- the rows tell how many positions are meant, and they are the first of the frame
  have hlength : live.length = chunkSize := by
    have hsame := congrArg List.length (List.append_cancel_left (hrows.symm.trans hlive))
    simp only [List.length_map, List.length_take] at hsame
    omega
  have htake : live = qs.take chunkSize := by
    rw [← hlength]
    exact List.prefix_iff_eq_take.mp hprefix
  have hpos : stored > 0 := by
    rw [hcount]
    decide
  have hcut : chunkSize < qs.length := by
    rw [← hnormal.length_eq]
    exact Nat.lt_of_not_le hgt
  rw [if_pos hpos, Option.some.injEq, htake] at hworld
  obtain ⟨hredis, hdrop⟩ := live_of_afterBatch_eq hcut hworld
  exact hquiet ⟨hredis, (quiet_iff_of_normalised hnormal chunkSize).mp hdrop⟩

/-- **Exactly the stored positions go live if nothing of the frame is cut off, and only then.** -/
theorem only_stored_live_iff (env : Env) (redis : Bool) (sess : DeviceSession)
    {payload : List UInt8} {ps : List Position} (w : World)
    (h : parseFrame payload sess.deviceID = .returns ps none) :
    OnlyStoredLive env redis sess payload ps w ↔ NothingCut env redis ps w := by
  refine ⟨fun honly => honly.nothingCut h, fun hcases => ?_⟩
  obtain ⟨hnormal, hle, hrows⟩ := batched_spec env ps w
  have hcount := batched_count env w h
  rcases hbatch : batched env ps w with ⟨qs, stored, w₁⟩
  rw [hbatch] at hnormal hle hrows hcount
  dsimp only at hnormal hle hrows hcount
  unfold OnlyStoredLive
  rw [handleAVLFrame_eq env redis sess h hbatch, hbatch]
  refine ⟨qs.take stored, List.take_prefix _ _, hrows, ?_⟩
  by_cases hpos : stored > 0
  · rw [if_pos hpos]
    by_cases hall : stored = qs.length
    · rw [hall, List.take_length]
    · -- the batch was cut behind its first chunk
      rw [← hnormal.length_eq] at hall
      split_ifs at hcount with hfirst hwhole
      · omega
      · exact absurd hcount hall
      · obtain ⟨rfl, hdrop⟩ : redis = false ∧ ∀ pos ∈ ps.drop chunkSize, pos.odometer ≤ 0 := by
          rcases hcases with hc | hc | hc | hc
          · exact absurd (.inl hc) hwhole
          · exact absurd hc hfirst
          · exact absurd (.inr hc) hwhole
          · exact hc
        have hquiet := (quiet_iff_of_normalised hnormal chunkSize).mpr hdrop
        have hsplit : qs.foldl (goLive env false sess) w₁ =
            (qs.take chunkSize).foldl (goLive env false sess) w₁ := by
          conv_lhs => rw [← List.take_append_drop chunkSize qs, List.foldl_append,
            foldl_goLive_quiet env sess hquiet]
        rw [hcount]
        unfold afterBatch
        rw [hsplit]
  · obtain rfl : stored = 0 := by omega
    rfl

/-! ### A frame that is cut -/

/-- A record without IO elements. -/
def bareRecord : AVLRecord (layoutOf false) :=
  standingRecord 0 0 (groupWidths.map fun width => .bare (.fixed width)) (List.prefix_refl _)

/-- As many such records in one frame. -/
def bareFrame (n : Nat) : List UInt8 := avlPayload (codecOf false) (List.replicate n bareRecord)

theorem bareFrame_returns {n : Nat} (hn : n ≤ 255) (deviceID : Int) :
    parseFrame (bareFrame n) deviceID =
      .returns ((List.replicate n bareRecord).map (·.decode deviceID)) none := by
  apply parseFrame_of_complete deviceID (by rwa [List.length_replicate])
  intro a ha
  rw [List.eq_of_mem_replicate ha]
  rfl

/-- An environment in which the statements with these numbers fail. -/
def failingAt (ns : List Nat) : Env :=
  ⟨(· ∉ ns), fun _ => true, fun _ => true, fun _ => 0, fun _ => 0⟩

def emptyWorld : World := ⟨⟨[], [], []⟩, ⟨0, 0, 0, 0, 0⟩, 0, 0, [], []⟩

/-- The second chunk of 201 records fails, and its record goes live. -/
theorem bareFrame_cut : ∃ ps, parseFrame (bareFrame 201) 7 = .returns ps none ∧
    ¬ OnlyStoredLive (failingAt [1]) true ⟨[], 7, 1, "GJ-01"⟩ (bareFrame 201) ps emptyWorld := by
  refine ⟨_, bareFrame_returns (by decide) 7, fun honly => ?_⟩
  rcases honly.nothingCut (bareFrame_returns (by decide) 7) with h | h | h | h
  · rw [List.length_map, List.length_replicate] at h
    exact absurd h (by decide)
  · exact absurd h (by decide)
  · exact absurd h (by decide)
  · exact absurd h.1 (by decide)

theorem bareFrame_whole : OnlyStoredLive (failingAt []) true ⟨[], 7, 1, "GJ-01"⟩ (bareFrame 201)
      ((List.replicate 201 bareRecord).map (·.decode 7)) emptyWorld ↔
    NothingCut (failingAt []) true ((List.replicate 201 bareRecord).map (·.decode 7)) emptyWorld :=
  only_stored_live_iff (failingAt []) true ⟨[], 7, 1, "GJ-01"⟩ emptyWorld
    (bareFrame_returns (by decide) 7)

end RudraNetra
