import Workforce.Proofs.Batch.Step
/-!
# Sound batches

The submitter of a batch closes the pool on every way out and leaves nothing behind, the collector
stays until it finds the results closed, and the call returns only after both. This holds of a batch
from its start and is kept by every step; it is what makes a pending batch wait for nothing but its
own running tasks.

## Main results

* `Workforce.Batch.Sound.step` — every step keeps what holds of every batch.
* `Workforce.Batch.Sound.running_of_pending` — a pending batch in which nothing can move runs one of
  its tasks.
-/

namespace Workforce.Pool

open Occurrence Trail

variable {α : Type} {p q : Pool α} {es : List (Event α)}

/-! ## What moves of a pool do to its lines -/

/-- A move decides on the first submission, or leaves the line alone and refuses nobody. -/
lemma submitting_of_perform? {m : Moment} {k : Move} (h : p.perform? m k = some (q, es)) :
    (q.submitting = p.submitting ∧ collect refused? (es.map event) = []) ∨
      ∃ s, p.submitting = s :: q.submitting := by
  have exits : ∀ (r : Pool α) (reason : List (Event α)), r.submitting = p.submitting →
      collect refused? (reason.map event) = [] → r.retire m reason = (q, es) →
      q.submitting = p.submitting ∧ collect refused? (es.map event) = [] := by
    intro r reason hr hreason heq
    obtain ⟨rfl, rfl⟩ := Prod.ext_iff.1 heq
    refine ⟨(submitting_retire ..).trans hr, ?_⟩
    exact (collect_retire_of_none _ _ _ rfl rfl rfl fun _ => rfl).trans hreason
  cases k with
  | take =>
    obtain ⟨n, t, rest, -, -, -, heq⟩ := take?_eq_some_iff.1 h
    cases heq
    exact .inl ⟨rfl, rfl⟩
  | leave =>
    obtain ⟨n, -, -, heq⟩ := leave?_eq_some_iff.1 h
    exact .inl (exits { p with idle := n } _ rfl (collect_farewell p rfl) heq)
  | enter =>
    obtain ⟨s, rest, hs, ⟨-, heq⟩ | ⟨-, -, -, heq⟩⟩ := enter?_eq_some_iff.1 h <;> cases heq
    · exact .inr ⟨s, hs⟩
    · exact .inr ⟨s, hs⟩
  | publish =>
    obtain ⟨output, rest, -, ⟨-, heq⟩ | ⟨-, -, heq⟩⟩ := publish?_eq_some_iff.1 h
    · exact .inl (exits { p with publishing := rest } _ rfl rfl heq)
    · cases heq
      exact .inl ⟨rfl, rfl⟩
  | deliver =>
    obtain ⟨r, rest, -, ⟨output, outputs, -, heq⟩ | ⟨-, -, heq⟩⟩ :=
      deliver?_eq_some_iff.1 h <;> cases heq
    · exact .inl ⟨rfl, rfl⟩
    · exact .inl ⟨rfl, rfl⟩

/-- No move closes or cancels a pool, or says so. -/
lemma flags_of_perform? {m : Moment} {k : Move} (h : p.perform? m k = some (q, es)) :
    q.closed = p.closed ∧ q.cancelled = p.cancelled ∧ q.child = p.child ∧
      collect cancel? (es.map event) = [] := by
  have exits : ∀ (r : Pool α) (reason : List (Event α)), r.closed = p.closed →
      r.cancelled = p.cancelled → r.child = p.child →
      collect cancel? (reason.map event) = [] → r.retire m reason = (q, es) →
      q.closed = p.closed ∧ q.cancelled = p.cancelled ∧ q.child = p.child ∧
        collect cancel? (es.map event) = [] := by
    intro r reason hclosed hcancelled hchild hreason heq
    obtain ⟨rfl, rfl⟩ := Prod.ext_iff.1 heq
    refine ⟨(closed_retire ..).trans hclosed, (cancelled_retire ..).trans hcancelled,
      (child_retire ..).trans hchild, ?_⟩
    exact (collect_retire_of_none m reason r rfl rfl rfl fun _ => rfl).trans hreason
  cases k with
  | take =>
    obtain ⟨n, t, rest, -, -, -, heq⟩ := take?_eq_some_iff.1 h
    cases heq
    exact ⟨rfl, rfl, rfl, rfl⟩
  | leave =>
    obtain ⟨n, -, -, heq⟩ := leave?_eq_some_iff.1 h
    exact exits { p with idle := n } _ rfl rfl rfl (collect_farewell p rfl) heq
  | enter =>
    obtain ⟨s, rest, -, ⟨-, heq⟩ | ⟨-, -, -, heq⟩⟩ := enter?_eq_some_iff.1 h <;> cases heq
    · exact ⟨rfl, rfl, rfl, rfl⟩
    · exact ⟨rfl, rfl, rfl, rfl⟩
  | publish =>
    obtain ⟨output, rest, -, ⟨-, heq⟩ | ⟨-, -, heq⟩⟩ := publish?_eq_some_iff.1 h
    · exact exits { p with publishing := rest } _ rfl rfl rfl rfl heq
    · cases heq
      exact ⟨rfl, rfl, rfl, rfl⟩
  | deliver =>
    obtain ⟨r, rest, -, ⟨output, outputs, -, heq⟩ | ⟨-, -, heq⟩⟩ :=
      deliver?_eq_some_iff.1 h <;> cases heq
    · exact ⟨rfl, rfl, rfl, rfl⟩
    · exact ⟨rfl, rfl, rfl, rfl⟩

/-- A collector that is alone in the line stays there until no worker is left. -/
lemma Step.collector (h : Step p (es.map event) q)
    (hp : p.receiving = [⟨none, true⟩] ∨ p.receiving = []) :
    q.receiving = p.receiving ∨ q.receiving = [] ∧ q.workers = 0 := by
  rcases h.receiving_cases with ⟨hq, -⟩ | ⟨r, -, hj, -⟩ | ⟨r, rest, output, hr, hq, -⟩ |
    ⟨r, hr, -, -, -, -, -, -, hw, -⟩ | ⟨f, hq, -, hd, -⟩
  · exact .inl hq
  · rw [collect_map_event joined? fun _ => rfl] at hj
    cases hj
  · rcases hp with hp | hp
    · rw [hr] at hp
      obtain ⟨rfl, rfl⟩ := List.cons.inj hp
      exact .inl (by rw [hq, hr]; rfl)
    · rw [hr] at hp
      cases hp
  · refine .inr ⟨?_, hw⟩
    rcases hp with hp | hp
    · rw [hr] at hp
      exact (List.cons.inj hp).2
    · rw [hr] at hp
      cases hp
  · rw [collect_map_event departed? fun _ => rfl] at hd
    refine .inl (hq.trans (List.filter_eq_self.2 fun r hr => ?_))
    have := List.filter_eq_nil_iff.1 hd.symm r hr
    simpa using this

/-- The end of a task leaves the lines and the flags alone. -/
lemma finish_frame (id : TaskId) (p : Pool α) :
    (p.finish id).1.submitting = p.submitting ∧ (p.finish id).1.receiving = p.receiving ∧
      (p.finish id).1.closed = p.closed ∧ (p.finish id).1.cancelled = p.cancelled ∧
      (p.finish id).1.child = p.child := by
  unfold finish
  cases h : p.finish? id with
  | none => exact ⟨rfl, rfl, rfl, rfl, rfl⟩
  | some x =>
    unfold finish? at h
    split at h
    · cases h
    · dsimp only at h
      split at h <;> cases h <;> exact ⟨rfl, rfl, rfl, rfl, rfl⟩

/-- A pool that is closed is closed, and otherwise as it was. -/
lemma close_frame (p : Pool α) : p.close.1 = { p with closed := true } := by
  unfold Pool.close
  split
  · next h => rw [← h]
  · rfl

/-- Of a pool, handing in a task changes the line of submissions only. -/
lemma submit_frame (m : Moment) (s : Submission α) (p : Pool α) :
    (p.submit m s).1 = { p with submitting := (p.submit m s).1.submitting } := by
  unfold Pool.submit
  split <;> rfl

/-- What holds of every pool is kept along a run. -/
lemma Steps.sound {os : Trail α} (h : Steps p os q) (hp : p.Sound) : q.Sound :=
  h.keeps (P := Sound) (fun _ _ _ hs hr => hr.step hs) hp

end Workforce.Pool

namespace Workforce.Batch

open Occurrence Trail

variable {α : Type} {b c : Batch α} {es : List (Event α)}

/-! ## The start -/

/-- What a batch starts from. -/
lemma start_eq {hosted parentCancelled : Bool} {now call size : Nat} {tasks : List (Task α)}
    {admission : Admission}
    (h : Batch.start hosted now call size tasks admission parentCancelled = .ok (some b)) :
    b.call = call ∧ b.remaining = tasks ∧ b.submitter = .active ∧
      ∃ n hn child cancelled, b.pool = (Pool.fresh n hn child cancelled).receive ⟨none, true⟩ := by
  unfold Batch.start at h
  split at h
  · cases h
  · unfold Pool.make at h
    split at h
    · cases h
    · split at h
      · cases h
        exact ⟨rfl, rfl, rfl, _, _, _, _, rfl⟩
      · cases h

/-- A batch that starts is sound. -/
lemma sound_start (submitter : b.submitter = .active)
    {n : Nat} {hn : 0 < n} {child cancelled : Bool}
    (pool : b.pool = (Pool.fresh n hn child cancelled).receive ⟨none, true⟩) : b.Sound where
  pool := by
    rw [pool]
    exact ((Pool.blank_fresh n hn child cancelled).receive _).sound
  single := by
    rw [pool]
    exact Nat.zero_le _
  line := .inl submitter
  finished := by
    rintro ⟨k, hk⟩
    simp [submitter] at hk
  closed h := by
    rw [pool] at h
    cases h
  pending := .inl (by rw [pool]; rfl)
  collector := .inl (by rw [pool]; rfl)

/-! ## Steps -/

/-- What happens in the pool does not end the submitter. -/
lemma finished_observeAll (es : List (Event α)) (b : Batch α) :
    (b.observeAll es).Finished ↔ b.Finished := by
  induction es generalizing b with
  | nil => rfl
  | cons e es ih =>
    rw [observeAll, List.foldl_cons, ← observeAll, ih]
    unfold observe
    split
    · rfl
    · cases hs : b.submitter <;> simp [Finished, Submitter.refuse, hs]
    · rfl
    · rfl

/-- The pool stays sound, because a step of the batch is a run of its pool. -/
lemma Step.sound_pool (hb : b.Sound) (h : Step b es c) : c.pool.Sound := by
  obtain ⟨os, hsteps, -⟩ := h.pool
  exact hsteps.sound hb.pool

/-- A move of the pool takes at most the one submission out of the line, which the batch learns from
a refusal, and keeps the collector until it is told that the results are closed. -/
lemma Sound.move (hb : b.Sound) {m : Moment} {k : Pool.Move} {q : Pool α}
    (move : b.pool.perform? m k = some (q, es)) :
    (({ b with pool := q } : Batch α).observeAll es).Sound := by
  have hpool := Step.sound_pool hb (.move m k move)
  have hstep : Pool.Step b.pool (es.map event) q := .of_perform? move
  have hheld : q.held = b.pool.held := (Pool.lowers_of_perform? move).held
  have hcollector := hstep.collector (hb.collector.imp_right And.left)
  refine ⟨hpool, ?single, ?line, ?finished, ?closed, ?pending, ?collector⟩
  all_goals simp only [pool_observeAll, remaining_observeAll, finished_observeAll]
  case single =>
    rcases Pool.submitting_of_perform? move with ⟨hq, -⟩ | ⟨s, hs⟩
    · exact hq ▸ hb.single
    · have := hb.single
      rw [hs, List.length_cons] at this
      omega
  case line =>
    rcases Pool.submitting_of_perform? move with ⟨hq, hnone⟩ | ⟨s, hs⟩
    · rw [submitter_observeAll hnone]
      exact hb.line.imp_right fun h => hq.trans h
    · have hlen := hb.single
      rw [hs, List.length_cons] at hlen
      exact .inr (List.length_eq_zero_iff.1 (by omega))
  case finished =>
    intro hfin
    obtain ⟨hclosed, hremaining⟩ := hb.finished hfin
    exact ⟨hstep.closed_mono hclosed, hremaining⟩
  case closed =>
    intro hclosed
    exact hb.closed ((Pool.flags_of_perform? move).1.symm.trans hclosed)
  case pending =>
    refine hb.pending.imp (fun h => hheld.trans h) fun ⟨hfin, hr⟩ => ⟨hfin, ?_⟩
    exact hcollector.elim (fun hq => hq.trans hr) And.left
  case collector =>
    rcases hcollector with hq | ⟨hq, hw⟩
    · rcases hb.collector with hr | ⟨hr, hw⟩
      · exact .inl (hq.trans hr)
      · exact .inr ⟨hq.trans hr, fun hh => Nat.le_zero.1 (hw (hheld ▸ hh) ▸ hstep.workers_le)⟩
    · exact .inr ⟨hq, fun _ => hw⟩

/-- The submitter hands in a task only while nothing waits in the line. -/
lemma Sound.hand_in (hb : b.Sound) (m : Moment) {t : Task α} {rest : List (Task α)}
    (active : b.submitter = .active) (submitting : b.pool.submitting = [])
    (remaining : b.remaining = t :: rest) (held : b.pool.held = true) :
    (({ b with pool := (b.pool.submit m ⟨none, t⟩).1, remaining := rest } : Batch α).observeAll
      (b.pool.submit m ⟨none, t⟩).2).Sound := by
  have hpool := Step.sound_pool hb (.feed m active submitting remaining held)
  have hnot : ¬ b.Finished := fun hfin => hfin.not_active active
  obtain ⟨hreceiving, hworkers, hheld, hclosed⟩ :
      (b.pool.submit m ⟨none, t⟩).1.receiving = b.pool.receiving ∧
        (b.pool.submit m ⟨none, t⟩).1.workers = b.pool.workers ∧
        (b.pool.submit m ⟨none, t⟩).1.held = b.pool.held ∧
        (b.pool.submit m ⟨none, t⟩).1.closed = b.pool.closed := by
    rw [Pool.submit_frame]
    exact ⟨rfl, rfl, rfl, rfl⟩
  have hsubmit : (b.pool.submit m ⟨none, t⟩).1.submitting = [] ∨
      (b.pool.submit m ⟨none, t⟩).1.submitting = [⟨none, t⟩] ∧
        (b.pool.submit m ⟨none, t⟩).2 = [] := by
    unfold Pool.submit
    split
    · exact .inl submitting
    · exact .inr ⟨by simp [submitting], rfl⟩
  refine ⟨hpool, ?single, ?line, fun hfin => ?finished, fun hset => ?closed, ?pending, ?collector⟩
  case finished => exact absurd ((finished_observeAll _ _).1 hfin) hnot
  case closed =>
    rw [pool_observeAll] at hset
    exact absurd (hb.closed (hclosed.symm.trans hset)) hnot
  all_goals rw [pool_observeAll]
  case single =>
    rcases hsubmit with h | ⟨h, -⟩
    · exact Nat.le_trans (Nat.le_of_eq (congrArg List.length h)) (Nat.zero_le _)
    · exact Nat.le_of_eq (congrArg List.length h)
  case line =>
    rcases hsubmit with h | ⟨-, h⟩
    · exact .inr h
    · left
      rw [h]
      exact active
  case pending => exact .inl (hheld.trans held)
  case collector =>
    show (b.pool.submit m ⟨none, t⟩).1.receiving = _ ∨
      (b.pool.submit m ⟨none, t⟩).1.receiving = _ ∧ _
    rw [hreceiving, hworkers, hheld]
    exact hb.collector

/-- The end of a running task touches neither the line nor the receivers. -/
lemma Sound.finish (hb : b.Sound) (id : TaskId) : (b.finish id).1.Sound := by
  have hpool := Step.sound_pool hb (.finish id)
  obtain ⟨hsub, hrec, hclosed, -⟩ := Pool.finish_frame id b.pool
  have hheld := Pool.held_finish id b.pool
  refine ⟨hpool, ?_, ?_, fun hfin => ?_, fun h => hb.closed (hclosed.symm.trans h), ?_, ?_⟩
  · exact hsub ▸ hb.single
  · exact hb.line.imp_right fun h => hsub.trans h
  · exact ⟨hclosed.trans (hb.finished hfin).1, (hb.finished hfin).2⟩
  · exact hb.pending.imp (fun h => hheld.trans h) fun h => ⟨h.1, hrec.trans h.2⟩
  · refine hb.collector.imp (fun h => hrec.trans h) fun h => ⟨hrec.trans h.1, fun hh => ?_⟩
    exact (Pool.Steps.of_finish id b.pool).workers_eq_zero (h.2 (hheld ▸ hh))

/-- **Every step keeps what holds of every batch.**

**Proof sketch.** The moves of the pool, the submissions and the ends of tasks do so by the lemmas
above. Every way out of the submitter closes the pool, and the call returns only after that. -/
theorem Sound.step (hb : b.Sound) (h : Step b es c) : c.Sound := by
  have hpool : c.pool.Sound := h.sound_pool hb
  cases h with
  | move m k move => exact hb.move move
  | stop unfinished pool remaining finished call discards quiet =>
    have hnot : ¬ b.Finished := by
      rintro ⟨k, hk⟩
      simp [hk, Submitter.rank] at unfinished
    rw [Pool.close_frame] at pool
    refine ⟨hpool, ?_, ?_, fun _ => ⟨?_, remaining⟩, fun _ => finished, ?_, ?_⟩
    · rw [pool]
      exact Nat.zero_le _
    · exact .inr (by rw [pool])
    · rw [pool]
    · exact .inl (by rw [pool]; exact hb.pending.resolve_right fun h => hnot h.1)
    · rw [pool]
      exact hb.collector
  | feed m active submitting remaining held =>
    exact hb.hand_in m active submitting remaining held
  | conclude finished receiving discards quiet =>
    exact ⟨hpool, hb.single, hb.line, hb.finished, hb.closed, .inr ⟨finished, receiving⟩,
      .inr ⟨receiving, fun h => absurd h (by simp [Pool.release])⟩⟩
  | finish id => exact hb.finish id
  | follow => exact ⟨hpool, hb.single, hb.line, hb.finished, hb.closed, hb.pending, hb.collector⟩
  | abandon =>
    refine ⟨hpool, Nat.zero_le _, .inr rfl, fun _ => ⟨?_, rfl⟩, fun _ => ⟨_, rfl⟩,
      .inr ⟨⟨_, rfl⟩, rfl⟩,
      .inr ⟨rfl, fun h => absurd h (by simp [abandon])⟩⟩
    show b.pool.close.1.closed = true
    rw [Pool.close_frame]

/-- What holds of every batch is kept along a run. -/
lemma Steps.sound (h : Steps b es c) (hb : b.Sound) : c.Sound :=
  h.keeps (P := Sound) (fun _ _ _ hs hr => hr.step hs) hb

/-! ## Batches at rest -/

/-- Nothing can move in the pool of a batch at rest. -/
lemma resting_of_step? {m : Moment} (h : b.step? m = none) : b.pool.Resting := by
  have hstep : b.pool.step? m = none := by
    rw [Pool.step?_eq_none_iff]
    intro k
    have hk := step?_eq_none_iff.1 h (.pool k)
    simpa [perform?, performPool?] using hk
  exact Pool.step?_eq_none_iff_resting.1 hstep

/-- The submitter does not move when it has ended, or when its submission waits and nothing stops
it. -/
lemma feed?_eq_none_iff {m : Moment} : b.feed? m = none ↔ b.Finished ∨
    b.submitter = .active ∧ b.pool.submitting ≠ [] ∧ b.isDue m = false ∧ b.isStopped = false := by
  unfold feed?
  cases hs : b.submitter with
  | finished panicked => simp [Finished, hs]
  | refused panicked => simp [Finished, hs]
  | active =>
    cases hsub : b.pool.submitting with
    | cons s rest =>
      cases b.isDue m <;> cases b.isStopped <;> simp [Finished, hs]
    | nil =>
      cases hrem : b.remaining with
      | nil => simp [Finished, hs]
      | cons t rest =>
        cases b.isDue m <;> cases b.isStopped <;> simp [Finished, hs]

/-- A submitter at rest has ended, or one of its submissions waits. -/
lemma feeder_of_step? {m : Moment} (h : b.step? m = none) :
    b.Finished ∨ b.submitter = .active ∧ b.pool.submitting ≠ [] := by
  have hfeed : b.feed? m = none := step?_eq_none_iff.1 h .feed
  exact (feed?_eq_none_iff.1 hfeed).imp_right fun hwait => ⟨hwait.1, hwait.2.1⟩

/-- The call of a batch at rest whose submitter has ended has returned, or the collector waits. -/
lemma collector_of_step? {m : Moment} (h : b.step? m = none) (hf : b.Finished)
    (hp : b.pending = true) : b.pool.receiving ≠ [] := by
  obtain ⟨k, hk⟩ := hf
  intro hr
  have hconclude : b.conclude? = none := step?_eq_none_iff.1 h .conclude
  simp [conclude?, hk, hp, hr] at hconclude

/-- **A pending batch in which nothing can move runs one of its tasks.**

**Proof sketch.** If a submission waits, the queue is full, and the workers are running tasks or
wait for room in a full results queue. The latter cannot be while the collector is there. If the
submitter has ended, the pool is closed and the collector waits for outputs. -/
theorem Sound.running_of_pending (hb : b.Sound) {m : Moment} (h : b.step? m = none)
    (hp : b.pending = true) : b.pool.running ≠ [] := by
  have hrest : b.pool.Resting := resting_of_step? h
  have hcollector : b.pool.workers ≠ 0 → b.pool.receiving ≠ [] :=
    mt (hb.gone_of_received hp)
  rcases feeder_of_step? h with hf | ⟨-, hsub⟩
  · exact hrest.running_of_receiving (collector_of_step? h hf hp) (.inl (hb.finished hf).1)
  · obtain ⟨-, hw, hidle, -⟩ := hrest.full_of_submitting hb.pool hsub
    obtain ⟨-, hpublishing, -⟩ := hrest.empty_of_receiving (hcollector hw)
    intro hrunning
    exact hw (Pool.workers_eq_zero_iff.2 ⟨hidle, hrunning, hpublishing⟩)

end Workforce.Batch
