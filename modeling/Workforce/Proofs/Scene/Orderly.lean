import Workforce.Proofs.Scene.Cancelled
import Workforce.Proofs.Batch.Orderly
/-!
# Moves of a scene commute

Pools and batches do not touch each other, so that moves at different places can be made in either
order. So can moves at one place, as long as it is orderly. After one action on a scene that has
settled every place is orderly.

## Main definitions

* `Workforce.Scene.Orderly` — no two moves can get in each other's way, at any place.
* `Workforce.Batch.Custody` — what holds of every batch that a run leads to.

## Main results

* `Workforce.Scene.Orderly.of_moveAt?` — moves keep a scene orderly.
* `Workforce.Scene.Orderly.join` — at one moment, two moves of an orderly scene can be made in
  either order.
* `Workforce.Stage.Steps.orderly_immediate` — one action leaves a settled scene orderly.
-/

namespace Workforce

open Occurrence Trail History

variable {α : Type}

/-! ## Moves at two places -/

namespace Scene

variable {s t u : Scene α} {m : Moment} {es fs : List (Entry α)} {i j : Nat}

/-- One change of a pool after another one. -/
lemma putPool_putPool (i : Nat) (r r' : Pool α × List (Event α)) (s : Scene α) :
    (s.putPool i r).putPool i r' = s.putPool i (r'.1, r.2 ++ r'.2) := by
  simp [putPool, after, List.set_set, Bool.and_assoc]

/-- One change of a batch after another one. -/
lemma putBatch_putBatch (i : Nat) (r r' : Batch α × List (Event α)) (s : Scene α) :
    (s.putBatch i r).putBatch i r' = s.putBatch i (r'.1, r.2 ++ r'.2) := by
  simp [putBatch, after, List.set_set, Bool.and_assoc]

/-- The order of the events of a pool does not matter. -/
lemma putPool_perm {fs gs : List (Event α)} (h : fs.Perm gs) (i : Nat) (q : Pool α) (s : Scene α) :
    s.putPool i (q, fs) = s.putPool i (q, gs) := by
  simp [putPool, after, List.any_map, Function.comp_def, h.any_eq]

/-- The order of the events of a batch does not matter. -/
lemma putBatch_perm {fs gs : List (Event α)} (h : fs.Perm gs) (i : Nat) (c : Batch α)
    (s : Scene α) : s.putBatch i (c, fs) = s.putBatch i (c, gs) := by
  simp [putBatch, after, List.any_map, Function.comp_def, h.any_eq]

/-- Changes of two pools. -/
lemma putPool_comm (h : i ≠ j) (r r' : Pool α × List (Event α)) (s : Scene α) :
    (s.putPool i r).putPool j r' = (s.putPool j r').putPool i r := by
  simp [putPool, after, List.set_comm _ _ h, Bool.and_right_comm]

/-- Changes of two batches. -/
lemma putBatch_comm (h : i ≠ j) (r r' : Batch α × List (Event α)) (s : Scene α) :
    (s.putBatch i r).putBatch j r' = (s.putBatch j r').putBatch i r := by
  simp [putBatch, after, List.set_comm _ _ h, Bool.and_right_comm]

/-- Changes of a pool and of a batch. -/
lemma putPool_putBatch (r : Pool α × List (Event α)) (r' : Batch α × List (Event α))
    (s : Scene α) : (s.putPool i r).putBatch j r' = (s.putBatch j r').putPool i r := by
  simp [putPool, putBatch, after, Bool.and_right_comm]

/-! ## Orderly scenes -/

/-- No two moves can get in each other's way, at any place. -/
structure Orderly (s : Scene α) : Prop where
  pools : ∀ p ∈ s.pools, p.Orderly
  batches : ∀ b ∈ s.batches, b.Orderly s.now

/-- **Moves keep a scene orderly.** -/
theorem Orderly.of_moveAt? (hs : s.Orderly) (now : m.now = s.now) {k : Move}
    (h : s.moveAt? m k = some (t, es)) : t.Orderly := by
  cases k with
  | pool i k =>
    obtain ⟨p, q, fs, hp, hq, rfl, -⟩ := moveAt?_pool_iff.1 h
    refine ⟨fun p' hp' => ?_, hs.batches⟩
    rcases List.mem_or_eq_of_mem_set hp' with hmem | rfl
    · exact hs.pools p' hmem
    · exact (hs.pools p (List.mem_of_getElem? hp)).of_perform? hq
  | batch i k =>
    obtain ⟨b, c, fs, hb, hc, rfl, -⟩ := moveAt?_batch_iff.1 h
    refine ⟨hs.pools, fun b' hb' => ?_⟩
    rcases List.mem_or_eq_of_mem_set hb' with hmem | rfl
    · exact hs.batches b' hmem
    · have hbefore := hs.batches b (List.mem_of_getElem? hb)
      rw [← now] at hbefore
      have hafter : b'.Orderly m.now := hbefore.of_perform? hc
      rwa [now] at hafter

/-- Events at one place, in either order. -/
lemma perm_map_place {place : Place} {es es' fs fs' : List (Event α)}
    (h : (es ++ fs').Perm (fs ++ es')) :
    (es.map (place, ·) ++ fs'.map (place, ·)).Perm (fs.map (place, ·) ++ es'.map (place, ·)) := by
  rw [← List.map_append, ← List.map_append]
  exact h.map _

/-- Two moves of pools can be made in either order. -/
lemma Orderly.join_pool (hs : s.Orderly) {k l : Pool.Move} (hkl : Move.pool i k ≠ .pool j l)
    (h : s.moveAt? m (.pool i k) = some (t, es)) (h' : s.moveAt? m (.pool j l) = some (u, fs)) :
    ∃ v es' fs', t.moveAt? m (.pool j l) = some (v, fs') ∧
      u.moveAt? m (.pool i k) = some (v, es') ∧ (es ++ fs').Perm (fs ++ es') := by
  obtain ⟨p, q, es, hp, hq, rfl, rfl⟩ := moveAt?_pool_iff.1 h
  obtain ⟨p', r, fs, hp', hr, rfl, rfl⟩ := moveAt?_pool_iff.1 h'
  by_cases hij : i = j
  · -- moves of one pool
    subst hij
    rw [hp] at hp'
    cases hp'
    have hi : i < s.pools.length := (List.getElem?_eq_some_iff.1 hp).1
    have hne : k ≠ l := fun heq => hkl (by rw [heq])
    obtain ⟨v, es', fs', hl, hk, hperm, -⟩ :=
      (hs.pools p (List.mem_of_getElem? hp)).join hne hq hr
    refine ⟨s.putPool i (v, es ++ fs'), _, _,
      moveAt?_pool_iff.2 ⟨q, v, fs', List.getElem?_set_self hi, hl, ?_, rfl⟩,
      moveAt?_pool_iff.2 ⟨r, v, es', List.getElem?_set_self hi, hk, ?_, rfl⟩,
      perm_map_place hperm⟩
    · rw [putPool_putPool]
    · rw [putPool_putPool]
      exact putPool_perm hperm i v s
  · -- moves of two pools
    refine ⟨(s.putPool i (q, es)).putPool j (r, fs), _, _,
      moveAt?_pool_iff.2 ⟨p', r, fs, ?_, hr, rfl, rfl⟩,
      moveAt?_pool_iff.2 ⟨p, q, es, ?_, hq, putPool_comm hij _ _ s, rfl⟩,
      List.perm_append_comm⟩
    · exact (List.getElem?_set_ne hij).trans hp'
    · exact (List.getElem?_set_ne (Ne.symm hij)).trans hp

/-- So can two moves of batches. -/
lemma Orderly.join_batch (hs : s.Orderly) (now : m.now = s.now) {k l : Batch.Move}
    (hkl : Move.batch i k ≠ .batch j l) (h : s.moveAt? m (.batch i k) = some (t, es))
    (h' : s.moveAt? m (.batch j l) = some (u, fs)) :
    ∃ v es' fs', t.moveAt? m (.batch j l) = some (v, fs') ∧
      u.moveAt? m (.batch i k) = some (v, es') ∧ (es ++ fs').Perm (fs ++ es') := by
  obtain ⟨b, c, es, hb, hc, rfl, rfl⟩ := moveAt?_batch_iff.1 h
  obtain ⟨b', d, fs, hb', hd, rfl, rfl⟩ := moveAt?_batch_iff.1 h'
  by_cases hij : i = j
  · -- moves of one batch
    subst hij
    rw [hb] at hb'
    cases hb'
    have hi : i < s.batches.length := (List.getElem?_eq_some_iff.1 hb).1
    have hne : k ≠ l := fun heq => hkl (by rw [heq])
    have hb' := hs.batches b (List.mem_of_getElem? hb)
    rw [← now] at hb'
    obtain ⟨v, es', fs', hl, hk, hperm⟩ := hb'.join hne hc hd
    refine ⟨s.putBatch i (v, es ++ fs'), _, _,
      moveAt?_batch_iff.2 ⟨c, v, fs', List.getElem?_set_self hi, hl, ?_, rfl⟩,
      moveAt?_batch_iff.2 ⟨d, v, es', List.getElem?_set_self hi, hk, ?_, rfl⟩,
      perm_map_place hperm⟩
    · rw [putBatch_putBatch]
    · rw [putBatch_putBatch]
      exact putBatch_perm hperm i v s
  · -- moves of two batches
    refine ⟨(s.putBatch i (c, es)).putBatch j (d, fs), _, _,
      moveAt?_batch_iff.2 ⟨b', d, fs, ?_, hd, rfl, rfl⟩,
      moveAt?_batch_iff.2 ⟨b, c, es, ?_, hc, putBatch_comm hij _ _ s, rfl⟩,
      List.perm_append_comm⟩
    · exact (List.getElem?_set_ne hij).trans hb'
    · exact (List.getElem?_set_ne (Ne.symm hij)).trans hb

/-- A move of a pool and one of a batch do not meet. -/
lemma join_pool_batch {k : Pool.Move} {l : Batch.Move}
    (h : s.moveAt? m (.pool i k) = some (t, es)) (h' : s.moveAt? m (.batch j l) = some (u, fs)) :
    ∃ v, t.moveAt? m (.batch j l) = some (v, fs) ∧ u.moveAt? m (.pool i k) = some (v, es) := by
  obtain ⟨p, q, es, hp, hq, rfl, rfl⟩ := moveAt?_pool_iff.1 h
  obtain ⟨b, d, fs, hb, hd, rfl, rfl⟩ := moveAt?_batch_iff.1 h'
  exact ⟨(s.putPool i (q, es)).putBatch j (d, fs),
    moveAt?_batch_iff.2 ⟨b, d, fs, hb, hd, rfl, rfl⟩,
    moveAt?_pool_iff.2 ⟨p, q, es, hp, hq, putPool_putBatch _ _ s, rfl⟩⟩

/-- **At one moment, two moves of an orderly scene can be made in either order.** -/
theorem Orderly.join (hs : s.Orderly) (now : m.now = s.now) {k l : Move} (hkl : k ≠ l)
    (h : s.moveAt? m k = some (t, es)) (h' : s.moveAt? m l = some (u, fs)) :
    ∃ v es' fs', t.moveAt? m l = some (v, fs') ∧ u.moveAt? m k = some (v, es') ∧
      (es ++ fs').Perm (fs ++ es') := by
  cases k with
  | pool i k =>
    cases l with
    | pool j l => exact hs.join_pool hkl h h'
    | batch j l =>
      obtain ⟨v, hl, hk⟩ := join_pool_batch h h'
      exact ⟨v, es, fs, hl, hk, List.perm_append_comm⟩
  | batch i k =>
    cases l with
    | pool j l =>
      obtain ⟨v, hk, hl⟩ := join_pool_batch h' h
      exact ⟨v, es, fs, hl, hk, List.perm_append_comm⟩
    | batch j l => exact hs.join_batch now hkl h h'

end Scene

/-! ## Batches that runs lead to -/

namespace Batch

variable {b c : Batch α} {m : Moment} {es : List (Event α)}

/-- What holds of every batch that a run leads to: only the parent cancels it and its call returns
after all workers have exited, or it was given up. -/
def Custody (b : Batch α) : Prop :=
  (b.pool.cancelled = true → b.pool.child = true) ∧
    (b.pool.held = false → b.pool.workers = 0) ∨ b.GivenUp

/-- What happens from outside leaves a batch given up. -/
lemma GivenUp.apply (hb : b.GivenUp) (x : Turn) : (x.apply b).1.GivenUp := by
  cases x with
  | elsewhere => exact hb
  | wait time => exact hb
  | follow => exact ⟨hb.finished, hb.deserted⟩
  | finish name =>
    refine ⟨hb.finished, ?_⟩
    exact (Pool.Steps.of_finish name b.pool).keeps (P := fun p => p.deserted = true)
      (fun _ _ _ hstep => hstep.deserted_mono) hb.deserted

/-- A batch that is abandoned is given up. -/
lemma givenUp_abandon (b : Batch α) : b.abandon.1.GivenUp :=
  ⟨⟨false, rfl⟩, Pool.deserted_iff.2 ⟨rfl, rfl, rfl⟩⟩

/-- Only the return of the call gives up the handle of the pool, after all workers have exited. -/
lemma workers_of_perform? {k : Move} (hb : b.Sound) (h : b.perform? m k = some (c, es))
    (held : c.pool.held = false) : b.pool.held = false ∨ b.pool.workers = 0 := by
  cases k with
  | pool k =>
    obtain ⟨q, hq, rfl⟩ := performPool?_eq_some_iff.1 h
    exact .inl ((Pool.lowers_of_perform? hq).held.symm.trans held)
  | feed =>
    have hpool := congrArg Pool.held (pool_of_feed? h)
    exact .inl (hpool.symm.trans held)
  | conclude =>
    obtain ⟨-, -, hheld, hrec, -⟩ := conclude?_eq_some_iff.1 h
    exact .inr (hb.gone_of_received hheld hrec)

/-- Moves keep what holds of every batch that a run leads to. -/
lemma Custody.of_perform? {k : Move} (hb : b.Custody) (sound : b.Sound)
    (h : b.perform? m k = some (c, es)) : c.Custody := by
  rcases hb with ⟨hparent, hgone⟩ | hgiven
  · obtain ⟨hcancelled, hchild, -⟩ := flags_of_perform? h
    refine .inl ⟨by rwa [hcancelled, hchild], fun held => ?_⟩
    have hw : b.pool.workers = 0 := (workers_of_perform? sound h held).elim hgone id
    obtain ⟨os, hsteps, -⟩ := (Step.of_perform? sound h).pool
    exact hsteps.workers_eq_zero hw
  · exact .inr (hgiven.of_perform? h)

/-- So does what happens from outside. -/
lemma Custody.apply (hb : b.Custody) (x : Turn) : (x.apply b).1.Custody := by
  rcases hb with ⟨hparent, hgone⟩ | hgiven
  · refine .inl ?_
    cases x with
    | elsewhere => exact ⟨hparent, hgone⟩
    | wait time => exact ⟨hparent, hgone⟩
    | follow => exact ⟨fun hc => (Bool.or_eq_true_iff.1 hc).elim hparent id, hgone⟩
    | finish name =>
      obtain ⟨-, -, -, hcancelled, hchild⟩ := Pool.finish_frame name b.pool
      refine ⟨fun hc => hchild.trans (hparent (hcancelled.symm.trans hc)), fun held => ?_⟩
      have hw := hgone ((Pool.held_finish name b.pool).symm.trans held)
      exact (Pool.Steps.of_finish name b.pool).workers_eq_zero hw
  · exact .inr (hgiven.apply x)

/-- A batch that a run leads to is orderly when nothing can move in it. -/
lemma Custody.calm_or_givenUp (hb : b.Custody) (sound : b.Sound) (rest : b.step? m = none) :
    Calm m.now b ∨ b.GivenUp := by
  rcases hb with ⟨hparent, hgone⟩ | hgiven
  · have hfeed := (step?_eq_none_iff_parts.1 rest).2.1
    have now : m.now = (⟨m.now, true⟩ : Moment).now := rfl
    refine .inl ⟨⟨sound, hparent, ?_, hgone, fun active hwhy => ?_⟩,
      (step?_eq_none_congr now).1 rest⟩
    · rcases feeder_of_step? rest with hfin | ⟨active, -⟩
      · exact .inr hfin
      · exact .inl active
    · rcases feed?_eq_none_iff.1 hfeed with ⟨panicked, hfin⟩ | ⟨-, -, hdue, hstop⟩
      · simp [active] at hfin
      · rcases hwhy with hc | hd
        · simp [isStopped, hc, hparent hc] at hstop
        · simp [isDue_iff.2 hd] at hdue
  · exact .inr hgiven

end Batch

/-! ## One action on a settled scene -/

namespace Pool

variable {p : Pool α} {m : Moment}

/-- A call joins a line of the pool. -/
def Turn.joins : Turn α → Bool
  | submit _ _ | next _ | shutdown _ => true
  | _ => false

/-- A new pool is orderly. -/
lemma orderly_fresh (size : Nat) (size_pos : 0 < size) (child cancelled : Bool) :
    (fresh size size_pos child cancelled : Pool α).Orderly :=
  ⟨fun _ => .inl rfl, .inl rfl⟩

/-- **One action leaves a pool at rest orderly.** A call joins a line of a pool whose handle is held
only. -/
theorem Resting.orderly_apply (h : p.Resting) (x : Turn α) (held : x.joins = true → p.held = true) :
    (x.apply m p).1.Orderly := by
  have same : p.Orderly := h.orderly_flags p.closed p.cancelled p.held
  cases x with
  | elsewhere => exact same
  | submit call task =>
    dsimp only [Turn.apply, Pool.submit]
    split
    · exact same
    · exact h.orderly_submit (held rfl) _
  | next call => exact h.orderly_receive (held rfl) p.closed _
  | shutdown call =>
    dsimp only [Turn.apply]
    rw [close_frame]
    exact h.orderly_receive (held rfl) true _
  | close =>
    dsimp only [Turn.apply]
    rw [close_frame]
    exact h.orderly_flags true p.cancelled p.held
  | cancel => exact h.orderly_flags p.closed true p.held
  | follow => exact h.orderly_flags p.closed (p.cancelled || p.child) p.held
  | drop => exact h.orderly_flags p.closed p.cancelled false
  | abandon call => exact h.orderly_withdraw call
  | finish name => exact h.orderly_finish name

end Pool

/-- A command lets calls join the lines of a pool only if the handle of the pool is held. -/
lemma Command.held_of_joins {call : Nat} {s : Scene α} {i : Nat} {p : Pool α} {c : Command α}
    (h : (c.turn call s i p).joins = true) : p.held = true := by
  have aimed : ∀ {j : Nat} {x : Pool.Turn α}, (Pool.Turn.aimed i j p x).joins = true →
      p.held = true := by
    intro j x hx
    unfold Pool.Turn.aimed at hx
    split at hx
    · next hwhy => exact hwhy.2
    · cases hx
  cases c with
  | submit | next | shutdown | close | cancel | drop => exact aimed h
  | abandon c =>
    simp only [turn] at h
    split at h <;> cases h
  | release name =>
    simp only [turn] at h
    split at h <;> cases h
  | _ => cases h

namespace Stage

open Scene

variable {g g' : Stage α} {h : History α} {s : Scene α} {i : Nat} {p : Pool α} {b : Batch α}

/-- What holds of every batch that a run leads to. -/
theorem Steps.custody (run : Steps {} h g) (hb : g.scene.batches[i]? = some b) : b.Custody := by
  induction run generalizing b with
  | refl => simp at hb
  | @tail g g' h k run last ih =>
    cases hbefore : g.scene.batches[i]? with
    | none =>
      obtain ⟨call, n, hn, tasks, admission, rfl, -⟩ := last.new_batch hbefore hb
      exact .inl ⟨Batch.Kept.initial.parent, Batch.Kept.initial.gone⟩
    | some b₀ =>
      have hcustody : b₀.Custody := ih hbefore
      have hsound : b₀.Sound := Steps.batches_sound run b₀ (List.mem_of_getElem? hbefore)
      rcases last.at_batch hbefore with ⟨k, c, es, hmove, hc, -⟩ | ⟨x, hc, -⟩ | ⟨-, hc, -⟩
      · rw [hb] at hc
        cases hc
        exact hcustody.of_perform? hsound hmove
      · rw [hb] at hc
        cases hc
        exact hcustody.apply x
      · rw [hb] at hc
        cases hc
        exact .inr b₀.givenUp_abandon

/-- A batch whose call does not wait any more has no worker left, or else it has been given up,
which was noted, and its pool is cancelled. -/
lemma Steps.workers_or_dropped (run : Steps {} h g) (hb : g.scene.batches[i]? = some b)
    (returned : b.pool.held = false) : b.pool.workers = 0 ∨
      b.GivenUp ∧ b.pool.cancelled = true ∧ event .batchDropped ∈ trailAt (.batch i) h := by
  induction run generalizing b with
  | refl => simp at hb
  | @tail g g' h k run last ih =>
    rw [trailAt_append]
    cases hbefore : g.scene.batches[i]? with
    | none =>
      obtain ⟨call, n, hn, tasks, admission, rfl, -⟩ := last.new_batch hbefore hb
      cases returned
    | some b₀ =>
      have hsound : b₀.Sound := Steps.batches_sound run b₀ (List.mem_of_getElem? hbefore)
      rcases last.at_batch hbefore with ⟨k, c, es, hmove, hc, -⟩ | ⟨x, hc, -⟩ | ⟨-, hc, htrail, -⟩
      · rw [hb] at hc
        cases hc
        obtain ⟨os, hsteps, -⟩ := (Batch.Step.of_perform? hsound hmove).pool
        rcases Batch.workers_of_perform? hsound hmove returned with hheld | hw
        · exact (ih hbefore hheld).imp hsteps.workers_eq_zero fun ⟨hgiven, hc, hnoted⟩ =>
            ⟨hgiven.of_perform? hmove, hsteps.cancelled_mono hc, List.mem_append_left _ hnoted⟩
        · exact .inl (hsteps.workers_eq_zero hw)
      · rw [hb] at hc
        cases hc
        obtain ⟨os, hsteps, hheld⟩ : ∃ os, Pool.Steps b₀.pool os (x.apply b₀).1.pool ∧
            (x.apply b₀).1.pool.held = b₀.pool.held := by
          cases x with
          | elsewhere => exact ⟨[], .refl _, rfl⟩
          | wait time => exact ⟨[], .refl _, rfl⟩
          | follow => exact ⟨[], .single .follow, rfl⟩
          | finish name => exact ⟨_, .of_finish name b₀.pool, Pool.held_finish name b₀.pool⟩
        exact (ih hbefore (hheld.symm.trans returned)).imp hsteps.workers_eq_zero
          fun ⟨hgiven, hc, hnoted⟩ =>
            ⟨hgiven.apply x, hsteps.cancelled_mono hc, List.mem_append_left _ hnoted⟩
      · rw [hb] at hc
        cases hc
        refine .inr ⟨b₀.givenUp_abandon, rfl, List.mem_append_right _ ?_⟩
        rw [htrail, Batch.abandon_snd]
        exact List.mem_cons_self

/-- What an action does at once is a step. -/
lemma Step.of_action (s : Scene α) (x : Action α) :
    ∃ n k n', Step ⟨n, s⟩ k ⟨n', (s.immediate x).1⟩ := by
  cases x with
  | order call c => exact ⟨call, _, _, .order ⟨call, s⟩ c⟩
  | finish name => exact ⟨0, _, _, .finish ⟨0, s⟩ name⟩
  | pass ms => exact ⟨0, _, _, .clock ⟨0, s⟩ (s.now + ms) (Nat.le_add_right _ _)⟩

end Stage

namespace Scene

variable {s : Scene α} {i : Nat} {p : Pool α} {b : Batch α}

/-- What an action does at once to a pool. -/
lemma immediate_pool (hp : s.pools[i]? = some p) (x : Action α) :
    ∃ y : Pool.Turn α, (y.joins = true → p.held = true) ∧
      (s.immediate x).1.pools[i]? = some (y.apply s.moment p).1 := by
  cases x with
  | order call c =>
    exact ⟨c.turn call s i p, Command.held_of_joins, (order_pool hp call c).1⟩
  | finish name =>
    exact ⟨.finish name, fun hj => (by cases hj),
      (everywhere_pool hp (Pool.finish name) (Batch.finish name)).1⟩
  | pass ms => exact ⟨.elsewhere, fun hj => (by cases hj), hp⟩

/-- What an action does at once to a batch: it gives up the batch, or is a turn of it. -/
lemma immediate_of_batch (hb : s.batches[i]? = some b) (x : Action α) :
    (s.immediate x).1.batches[i]? = some b.abandon.1 ∨
      ∃ y : Batch.Turn, (s.immediate x).1.batches[i]? = some (y.apply b).1 ∧
        (s.immediate x).1.now = y.time s.now := by
  by_cases hspared : ∀ call, x ≠ .order call (.abandon b.call)
  · obtain ⟨hbatch, -, hnow⟩ := applies_immediate hb x hspared
    exact .inr ⟨_, hbatch, hnow⟩
  · obtain ⟨call, hx⟩ := not_forall_not.1 hspared
    subst hx
    rcases order_batch hb call (.abandon b.call) with ⟨-, -, hbatch, -⟩ | ⟨hbatch, -⟩
    · exact .inl hbatch
    · refine .inr ⟨_, hbatch, ?_⟩
      simp only [immediate, order]
      split <;> rfl

end Scene

namespace Stage

open Scene

variable {g : Stage α} {h : History α}

/-- **One action leaves a settled scene orderly.** -/
theorem Steps.orderly_immediate (run : Steps {} h g) (settled : g.Settled) (x : Action α) :
    (g.scene.immediate x).1.Orderly := by
  obtain ⟨n, k, n', hstep⟩ := Step.of_action g.scene x
  constructor
  · intro q hq
    obtain ⟨i, hi⟩ := List.getElem?_of_mem hq
    cases hbefore : g.scene.pools[i]? with
    | none =>
      obtain ⟨size, hsize, child, rfl, -⟩ := hstep.new_pool hbefore hi
      exact Pool.orderly_fresh ..
    | some p =>
      have hrest : p.Resting := Settled.resting_pool settled hbefore
      obtain ⟨y, hheld, hafter⟩ := immediate_pool hbefore x
      rw [hi] at hafter
      cases hafter
      exact hrest.orderly_apply y hheld
  · intro c hc
    obtain ⟨i, hi⟩ := List.getElem?_of_mem hc
    cases hbefore : g.scene.batches[i]? with
    | none =>
      obtain ⟨call, n, hn, tasks, admission, rfl, -, -, hnow, -⟩ := hstep.new_batch hbefore hi
      refine .inl ?_
      rw [hnow]
      exact Batch.Kept.initial
    | some b =>
      have hmem := List.mem_of_getElem? hbefore
      have hwhat := (Steps.custody run hbefore).calm_or_givenUp (run.batches_sound b hmem)
        (settled.2 b hmem)
      rcases immediate_of_batch hbefore x with hafter | ⟨y, hafter, hnow⟩
      · rw [hi] at hafter
        cases hafter
        exact .inr b.givenUp_abandon
      · rw [hi] at hafter
        cases hafter
        rcases hwhat with hcalm | hgiven
        · rw [hnow]
          exact .inl (hcalm.apply y)
        · exact .inr (hgiven.apply y)

end Stage

end Workforce
