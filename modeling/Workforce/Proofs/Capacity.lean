import Workforce.Proofs.Accounting
/-!
# Capacity and work conservation

A pool never runs more tasks than it has workers, never has more workers than it was made with, and
holds no more in its queues than they have room for. When nothing can move, nobody waits without a
reason: there is no idle worker beside a queued task, and whoever waits for room or for an output
faces a full or an empty queue. So a pool that has not been dropped holds at most five times its
size of what was admitted.

## Main definitions

* `Workforce.Trail.dropped`, `Trail.panicked` — the admitted tasks that were discarded, and those
  that ended in a panic.
* `Workforce.Stage.Capacity` — the bounds of a pool.

## Main results

* `Workforce.Pool.Steps.census` — where the tasks are that were admitted to a pool.
* `Workforce.Stage.Steps.within_capacity` — the bounds hold after every run.

## Implementation notes

What was dropped from a queue is told from the names of the discarded tasks, so that its number is
exact only if tasks carry the names of their calls.
-/

namespace Workforce

open Occurrence Trail History

variable {α : Type}

/-! ## What has left a pool -/

namespace Trail

/-- The tasks that panicked. -/
def panicked (os : Trail α) : List (Task α) :=
  (os.collect ended?).filter (·.outcome.output?.isNone)

/-- The tasks that were discarded after they had been admitted. -/
def dropped (os : Trail α) : List (Task α) :=
  os.admitted.filter (·.id ∈ (os.collect discarded?).map Task.id)

/-- A task that ends panics or has an output. -/
lemma length_outputs (os : Trail α) :
    os.outputs.length + os.panicked.length = (os.collect ended?).length := by
  rw [outputs, panicked]
  generalize os.collect ended? = ts
  induction ts with
  | nil => rfl
  | cons t ts ih =>
    rw [List.filterMap_cons, List.filter_cons]
    cases t.outcome.output? with
    | none =>
      simp only [Option.isNone_none, if_true, List.length_cons]
      omega
    | some output =>
      simp only [Option.isNone_some, Bool.false_eq_true, if_false, List.length_cons]
      omega

end Trail

/-! ## The census of a pool -/

namespace Pool

variable {p q : Pool α} {os : Trail α}

/-- **Where the tasks are that were admitted to a pool** that is not deserted: in the queue, on
workers, or on their way to the receivers, unless they panicked, their outputs were received, or
they were dropped with the queue. -/
theorem Steps.census (h : Steps p os q) (blank : p.Blank) (wanted : q.deserted = false) :
    ∃ lost : List (Task α), admitted os = collect started? os ++ q.queue ++ lost ∧
      lost ⊆ collect discarded? os ∧
      (admitted os).length = q.queue.length + q.running.length + q.publishing.length +
        q.results.length + (received os).length + (panicked os).length + lost.length := by
  obtain ⟨turned, lost, hledger⟩ := h.ledger
  obtain ⟨rest, hrest, hpublishing⟩ := h.outputs blank
  have hqueue : admitted os = collect started? os ++ q.queue ++ lost := by
    simpa [blank.queue] using hledger.queue
  have hstarted := hledger.work.length_eq
  have houtputs := congrArg List.length hrest
  have hended := length_outputs os
  refine ⟨lost, hqueue, ?_, ?_⟩
  · exact fun t ht => hledger.discards.symm.subset (List.mem_append_right _ ht)
  · rw [hpublishing wanted] at houtputs
    rw [hqueue]
    simp only [underway, blank.running, List.map_nil, List.length_append, List.length_map,
      List.length_nil] at hstarted houtputs ⊢
    omega

end Pool

/-! ## The bounds -/

namespace Stage

open Scene

variable {g g' : Stage α} {h h' : History α} {place : Place} {p : Pool α}

/-- The bounds of the pool at a place. -/
structure Capacity (place : Place) (p : Pool α) (h : History α) (g : Stage α) : Prop where
  /-- Running tasks and outputs that wait to be published each take a worker. -/
  busy : p.running.length + p.publishing.length ≤ p.workers
  workers : p.workers ≤ p.size
  /-- Workers never become more. -/
  fewer : ∀ h' g', Steps g h' g' →
    ∃ q, g'.scene.poolAt place = some q ∧ q.size = p.size ∧ q.workers ≤ p.workers
  queue : p.queue.length ≤ 2 * p.size
  results : p.results.length ≤ 2 * p.size
  /-- When nothing can move, there is no idle worker beside a queued task. -/
  conserving : g.Settled → p.idle = 0 ∨ p.queue = []
  /-- Then a submission waits only if the task queue is full, -/
  submitting : g.Settled → p.submitting ≠ [] → p.queue.length = 2 * p.size
  /-- a worker waits to publish only if the results queue is full, -/
  publishing : g.Settled → p.publishing ≠ [] → p.results.length = 2 * p.size
  /-- and a receiver waits only if the results queue is empty. -/
  receiving : g.Settled → p.receiving ≠ [] → p.results = []
  /-- Until the pool is dropped, what was admitted is in a queue or held by a worker, or its output
  was received, or it panicked, or it was dropped from the queue. -/
  census : h.Named → p.deserted = false → (Trail.admitted (trailAt place h)).length =
    p.queue.length + p.running.length + p.publishing.length + p.results.length +
      (received (trailAt place h)).length + (panicked (trailAt place h)).length +
        (dropped (trailAt place h)).length
  /-- So there is a bound on what was admitted and has not left the pool. -/
  admitted : p.deserted = false → (Trail.admitted (trailAt place h)).length ≤
    (received (trailAt place h)).length + (panicked (trailAt place h)).length +
      (dropped (trailAt place h)).length + 5 * p.size

/-- What is started or waits in a queue has not been discarded, if tasks carry the names of their
calls. -/
lemma Steps.kept_apart (run : Steps {} h g) (named : h.Named)
    (here : g.scene.poolAt place = some p) {t : Task α}
    (ht : t ∈ collect started? (trailAt place h) ++ p.queue) :
    t.id ∉ (collect discarded? (trailAt place h)).map Task.id := by
  intro hid
  obtain ⟨u, hu, hut⟩ := List.mem_map.1 hid
  have hdiscarded : u ∈ collect discarded? (trail h) :=
    ((trailAt_sublist place h).filterMap discarded?).subset hu
  rcases List.mem_append.1 ht with ht | ht
  · have hstarted : t ∈ collect started? (trail h) :=
      ((trailAt_sublist place h).filterMap started?).subset ht
    exact (run.discarded_once named hdiscarded).1 (hut ▸ List.mem_map_of_mem hstarted)
  · have hqueued := Scene.queue_subset here ht
    have honce := run.once named
    rw [List.map_append, List.nodup_append] at honce
    exact honce.2.2 t.id (List.mem_map_of_mem (by simp [hqueued])) u.id
      (List.mem_map_of_mem hdiscarded) hut.symm

/-- Names tell which tasks were dropped: of what was admitted, what has been discarded and has
neither been started nor waits in the queue. -/
lemma Steps.length_dropped (run : Steps {} h g) (here : g.scene.poolAt place = some p)
    {lost : List (Task α)}
    (hsplit : Trail.admitted (trailAt place h) =
      collect started? (trailAt place h) ++ p.queue ++ lost)
    (hlost : lost ⊆ collect discarded? (trailAt place h)) :
    lost.length ≤ (dropped (trailAt place h)).length ∧
      (h.Named → lost.length = (dropped (trailAt place h)).length) := by
  have hall : lost.filter (·.id ∈ (collect discarded? (trailAt place h)).map Task.id) = lost :=
    List.filter_eq_self.2 fun t ht => decide_eq_true (List.mem_map_of_mem (hlost ht))
  have hdropped : dropped (trailAt place h) =
      (collect started? (trailAt place h) ++ p.queue).filter
        (·.id ∈ (collect discarded? (trailAt place h)).map Task.id) ++ lost := by
    rw [dropped, hsplit, List.filter_append, hall]
  refine ⟨?_, fun named => ?_⟩
  · rw [hdropped, List.length_append]
    exact Nat.le_add_left _ _
  · have hnone : (collect started? (trailAt place h) ++ p.queue).filter
        (·.id ∈ (collect discarded? (trailAt place h)).map Task.id) = [] :=
      List.filter_eq_nil_iff.2 fun t ht => by simpa using run.kept_apart named here ht
    rw [hdropped, hnone, List.nil_append]

/-- Where the tasks are that were admitted at a place. -/
lemma Steps.census (run : Steps {} h g) (here : g.scene.poolAt place = some p)
    (wanted : p.deserted = false) :
    ∃ lost, (Trail.admitted (trailAt place h)).length =
      p.queue.length + p.running.length + p.publishing.length + p.results.length +
        (received (trailAt place h)).length + (panicked (trailAt place h)).length + lost ∧
      lost ≤ (dropped (trailAt place h)).length ∧
      (h.Named → lost = (dropped (trailAt place h)).length) := by
  obtain ⟨p₀, os, blank, hsteps, hos, hdiscards⟩ := run.changes_of_empty.life here
  obtain ⟨hadmitted, hstarted, hended, hreceipt, -⟩ := collect_congr hos
  obtain ⟨lost, hsplit, hlost, hcensus⟩ := Pool.Steps.census hsteps blank wanted
  rw [Trail.admitted, hadmitted, ← Trail.admitted] at hsplit hcensus
  rw [received, panicked, hended, hreceipt, ← received, ← panicked] at hcensus
  rw [hstarted] at hsplit
  exact ⟨lost.length, hcensus, run.length_dropped here hsplit fun t ht => hdiscards (hlost ht)⟩

/-- **A pool stays within its bounds**, after every run and at every place, the pools of batches
included.

**Proof sketch.** Each step keeps the bounds of the queues and of the workers. At rest each kind of
move is blocked, and for each of those who wait the reason is a full or an empty queue. Whatever was
admitted is in one of the queues, is held by a worker or has left the pool. -/
theorem Steps.within_capacity (run : Steps {} h g) (here : g.scene.poolAt place = some p) :
    Capacity place p h g := by
  have hsound := run.pool_sound here
  refine ⟨?_, hsound.workers_le, fun h' g' after => ?_, hsound.queue_le, hsound.results_le,
    fun settled => ?_, fun settled hs => ?_, fun settled hp => ?_, fun settled hr => ?_,
    fun named wanted => ?_, fun wanted => ?_⟩
  · rw [Pool.workers]
    omega
  · obtain ⟨q, os, there, hsteps, -⟩ := (after.changes run.batches_sound).at_place here
    refine ⟨q, there, hsteps.size_eq, ?_⟩
    exact hsteps.keeps (P := fun r : Pool α => r.workers ≤ p.workers)
      (fun _ _ _ hs hr => Nat.le_trans hs.workers_le hr) (Nat.le_refl _)
  · exact (settled.resting here).idle_cases.imp_right And.left
  · exact ((settled.resting here).full_of_submitting hsound hs).1
  · have hfull := ((settled.resting here).publish.resolve_left hp).2
    exact Nat.le_antisymm hsound.results_le hfull
  · exact ((settled.resting here).empty_of_receiving hr).1
  · obtain ⟨lost, hcensus, -, hlost⟩ := run.census here wanted
    rw [hcensus, hlost named]
  · obtain ⟨lost, hcensus, hlost, -⟩ := run.census here wanted
    have hqueue := hsound.queue_le
    have hresults := hsound.results_le
    have hworkers := hsound.workers_le
    simp only [Pool.capacity, Pool.workers] at hqueue hresults hworkers
    omega

/-- The bounds of the one pool of the short run: its queue is full, and a receiver waits at empty
results. -/
theorem within_capacity_short :
    (Capacity (.pool 0) shortPool shortHistory shortStage ∧ shortStage.Settled ∧
      shortPool.queue.length = 2 * shortPool.size ∧ shortPool.receiving ≠ []) ∧
    (Trail.admitted (trailAt (.pool 0) shortHistory)).length = 4 ∧ shortPool.size = 1 :=
  ⟨⟨Steps.within_capacity shortRun rfl, shortStage_settled, rfl, by simp [shortPool]⟩, rfl, rfl⟩

end Stage

end Workforce
