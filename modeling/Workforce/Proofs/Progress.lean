import Workforce.Proofs.Scene.Calls
import Workforce.Proofs.Scene.Reach
/-!
# No call gets stuck

When nothing can move in a scene, every pending call waits for the end of a running task, for room
that only somebody who takes outputs can make, or for a task to be handed in. In particular a batch
returns once its own running tasks have ended, and a shutdown waits for running tasks only.

## Main definitions

* `Workforce.Stage.Unblocked` — what the pending calls of a scene wait for.

## Main results

* `Workforce.Stage.Steps.run_out` — what runs in a batch can come to its end.
* `Workforce.Stage.Steps.batch_returns` — ends of tasks alone bring a batch to its end.
* `Workforce.Stage.Steps.no_call_stuck` — what pending calls wait for after every run.
-/

namespace Workforce

open Occurrence Trail History

variable {α : Type}

/-! ## Pools and batches -/

namespace Pool

variable {p q : Pool α} {os : Trail α}

/-- Where somebody reads to the end the pool is closed. -/
lemma Step.closed_of_drains (h : Step p os q)
    (hp : ∀ r ∈ p.receiving, r.drains = true → p.closed = true) :
    ∀ r ∈ q.receiving, r.drains = true → q.closed = true := by
  intro x hx hdrains
  rcases h.receiving_cases with ⟨hq, -⟩ | ⟨r, hq, -, -, -, -, hr⟩ | ⟨r, rest, output, hr, hq, -⟩ |
    ⟨r, hr, -⟩ | ⟨f, hq, -⟩
  · rw [hq] at hx
    exact h.closed_mono (hp x hx hdrains)
  · rw [hq, List.mem_append, List.mem_singleton] at hx
    rcases hx with hx | rfl
    · exact h.closed_mono (hp x hx hdrains)
    · exact h.closed_mono (hr hdrains)
  · -- whoever was in the line before is in it now
    have hmem : x ∈ p.receiving := by
      rw [hr]
      rw [hq] at hx
      split at hx
      · simpa [or_comm] using hx
      · exact List.mem_cons_of_mem _ hx
    exact h.closed_mono (hp x hmem hdrains)
  · exact h.closed_mono (hp x (hr ▸ List.mem_cons_of_mem _ hx) hdrains)
  · rw [hq] at hx
    exact h.closed_mono (hp x (List.mem_filter.1 hx).1 hdrains)

/-- The same along a run. -/
lemma Steps.closed_of_drains (h : Steps p os q)
    (hp : ∀ r ∈ p.receiving, r.drains = true → p.closed = true) :
    ∀ r ∈ q.receiving, r.drains = true → q.closed = true :=
  h.keeps (P := fun p : Pool α => ∀ r ∈ p.receiving, r.drains = true → p.closed = true)
    (fun _ _ _ hs => hs.closed_of_drains) hp

/-- Workers run what was admitted. -/
lemma Steps.underway_admitted (h : Steps p os q) (blank : p.Blank) :
    ∀ t ∈ q.underway, t ∈ Trail.admitted os := by
  intro t ht
  obtain ⟨turned, dropped, hledger⟩ := h.ledger
  have hwork := hledger.work.subset (List.mem_append_left _ ht)
  rw [Pool.underway, blank.running, List.map_nil, List.nil_append] at hwork
  exact (h.started_prefix blank.queue).subset hwork

end Pool

/-! ## What pending calls wait for -/

namespace Stage

open Scene

variable {g : Stage α} {h : History α} {place : Place} {i : Nat}

/-- What the calls wait for that are pending when nothing can move. -/
structure Unblocked (h : History α) (g : Stage α) : Prop where
  /-- A batch waits for one of the tasks that its call has handed over. -/
  batch : ∀ (i : Nat) (b : Batch α), g.scene.batches[i]? = some b → b.pending = true →
    ∃ tasks, (Place.batch i, batched b.call tasks) ∈ h ∧ ∃ r ∈ b.pool.running, r.task ∈ tasks
  /-- It returns when nothing happens but that running tasks end. -/
  returns : ∀ (i : Nat) (b : Batch α), g.scene.batches[i]? = some b → ∃ h' g', Steps g h' g' ∧
    g'.calls = g.calls ∧ g'.scene.now = g.scene.now ∧
      ∃ c : Batch α, g'.scene.batches[i]? = some c ∧ c.pending = false
  /-- A shutdown waits for a task of the pool. -/
  shutdown : ∀ (i : Nat) (p : Pool α), g.scene.pools[i]? = some p →
    (∃ r ∈ p.receiving, r.drains = true) →
      ∃ r ∈ p.running, r.task ∈ Trail.admitted (trailAt (.pool i) h)
  /-- A submission waits at a full queue; the workers that have not exited run tasks, or wait for
  room in a full results queue. -/
  submit : ∀ place p, g.scene.poolAt place = some p → p.submitting ≠ [] →
    p.queue.length = p.capacity ∧ p.workers ≠ 0 ∧
      p.workers = p.running.length + p.publishing.length ∧
        (p.publishing ≠ [] → p.results.length = p.capacity)
  /-- A receiver waits at empty results, while there are workers; if no further task will be run
  than those in the pool, one of these runs. -/
  receive : ∀ place p, g.scene.poolAt place = some p → p.receiving ≠ [] →
    p.results = [] ∧ p.workers ≠ 0 ∧ (p.closed = true ∨ p.cancelled = true →
      ∃ r ∈ p.running, r.task ∈ Trail.admitted (trailAt place h))

/-- The workers of a pool run what was admitted to it. -/
lemma Steps.running_admitted (run : Steps {} h g) {p : Pool α}
    (here : g.scene.poolAt place = some p) {r : Run α} (hr : r ∈ p.running) :
    r.task ∈ Trail.admitted (trailAt place h) := by
  obtain ⟨p₀, os, blank, hsteps, hos, -⟩ := run.changes_of_empty.life here
  have hadmitted := Pool.Steps.underway_admitted hsteps blank r.task (List.mem_map_of_mem hr)
  rw [Trail.admitted, (collect_congr hos).1] at hadmitted
  exact hadmitted

/-- The tasks of a batch are those that its call has handed over. -/
lemma Steps.batch_tasks (run : Steps {} h g) {b : Batch α} (hb : g.scene.batches[i]? = some b) :
    ∃ tasks, (Place.batch i, batched b.call tasks) ∈ h ∧ ∀ t ∈ b.stock, t ∈ tasks := by
  obtain ⟨b₀, tasks, before, es, starts, hsteps, -, htrail⟩ := run.changes_of_empty.batch_life hb
  refine ⟨tasks, ?_, fun t ht => ?_⟩
  · rw [← mem_trailAt, htrail]
    exact List.mem_append_right _ List.mem_cons_self
  · have hstock := Batch.Steps.stock_subset hsteps t ht
    rwa [starts.stock_eq] at hstock

/-- **What runs in a batch can come to its end**, without a command and without any time passing,
until nothing runs there any more.

**Proof sketch.** Induction on the load of the scene. As long as a task of the batch runs, it can
end; when the scene has settled after that, the load has become less. -/
theorem Steps.run_out (run : Steps {} h g) (settled : g.Settled) {b : Batch α}
    (hb : g.scene.batches[i]? = some b) : ∃ h' g', Steps g h' g' ∧ g'.Settled ∧
      g'.calls = g.calls ∧ g'.scene.now = g.scene.now ∧
        ∃ c : Batch α, g'.scene.batches[i]? = some c ∧ c.pool.running = [] := by
  induction hn : g.scene.load using Nat.strongRecOn generalizing g h b with
  | ind n ih =>
    by_cases hrunning : b.pool.running = []
    · exact ⟨[], g, .refl g, settled, rfl, rfl, b, hb, hrunning⟩
    · obtain ⟨r, hr⟩ := List.exists_mem_of_ne_nil _ hrunning
      have hruns : r ∈ g.scene.runs :=
        List.mem_append_right _ (List.mem_flatMap.2 ⟨b, List.mem_of_getElem? hb, hr⟩)
      -- the task ends, and the scene settles
      have hload : (phase (g.scene.finish r.task.id)).1.load < n :=
        hn ▸ load_phase_finish hruns
      have hphase : Reaches g [(phase (g.scene.finish r.task.id)).2]
          ⟨g.calls, (phase (g.scene.finish r.task.id)).1⟩ :=
        .phase (.finish g r.task.id) (events_ofEntries _)
      obtain ⟨k, hsteps, -, hsettled⟩ := hphase
      obtain ⟨c, -, hc, -⟩ := (hsteps.changes run.batches_sound).batch hb
      obtain ⟨h', g', hrest, hsettled', hcalls, hnow, hend⟩ :=
        ih _ hload (run.trans hsteps) (hsettled settled) hc rfl
      exact ⟨k ++ h', g', hsteps.trans hrest, hsettled', hcalls, hnow, hend⟩

/-- **A batch returns once running tasks have ended**, without a command and without any time
passing. -/
theorem Steps.batch_returns (run : Steps {} h g) (settled : g.Settled) {b : Batch α}
    (hb : g.scene.batches[i]? = some b) : ∃ h' g', Steps g h' g' ∧ g'.calls = g.calls ∧
      g'.scene.now = g.scene.now ∧
        ∃ c : Batch α, g'.scene.batches[i]? = some c ∧ c.pending = false := by
  obtain ⟨h', g', after, hsettled, hcalls, hnow, c, hc, hrunning⟩ := run.run_out settled hb
  have hmem := List.mem_of_getElem? hc
  have hsound : c.Sound := Steps.batches_sound (run.trans after) c hmem
  refine ⟨h', g', after, hcalls, hnow, c, hc, ?_⟩
  -- a pending batch would run a task
  by_contra hpending
  exact hsound.running_of_pending (hsettled.2 c hmem) (by simpa using hpending) hrunning

/-- **No call gets stuck.** When nothing can move after a run, every pending call waits for the end
of a running task, or for something that only other calls can bring about.

**Proof sketch.** A pool at rest says for each kind of move why it is not enabled. A receiver that
waits faces empty results, so that nobody waits to publish; a submission that waits faces a full
queue, so that no worker is idle. The rest is bookkeeping: a shutdown has closed the pool before it
waits, and the submitter of a batch closes the pool on every way out. -/
theorem Steps.no_call_stuck (run : Steps {} h g) (settled : g.Settled) : Unblocked h g := by
  have running : ∀ place p, g.scene.poolAt place = some p → p.running ≠ [] →
      ∃ r ∈ p.running, r.task ∈ Trail.admitted (trailAt place h) := by
    intro place p here hne
    obtain ⟨r, hr⟩ := List.exists_mem_of_ne_nil _ hne
    exact ⟨r, hr, run.running_admitted here hr⟩
  refine ⟨?_, ?_, ?_, ?_, ?_⟩
  · intro i b hb hp
    have hmem := List.mem_of_getElem? hb
    have hsound := run.batches_sound b hmem
    obtain ⟨r, hr⟩ :=
      List.exists_mem_of_ne_nil _ (hsound.running_of_pending (settled.2 b hmem) hp)
    obtain ⟨tasks, hcall, htasks⟩ := run.batch_tasks hb
    refine ⟨tasks, hcall, r, hr, htasks r.task ?_⟩
    exact List.mem_append_right _ (List.mem_append_right _ (List.mem_map_of_mem hr))
  · intro i b hb
    exact run.batch_returns settled hb
  · rintro i p hp ⟨r, hr, hdrains⟩
    have here : g.scene.poolAt (.pool i) = some p := hp
    obtain ⟨p₀, os, -, hempty, hsteps, -⟩ := run.changes_of_empty.pool_life hp
    have hclosed := Pool.Steps.closed_of_drains hsteps (by simp [hempty]) r hr hdrains
    exact running _ _ here ((settled.resting here).running_of_receiving
      (List.ne_nil_of_mem hr) (.inl hclosed))
  · intro place p here hs
    have hsound := run.pool_sound here
    obtain ⟨hfull, hw, hidle, hpublishing⟩ := (settled.resting here).full_of_submitting hsound hs
    refine ⟨hfull, hw, ?_, hpublishing.resolve_left⟩
    rw [Pool.workers, hidle, Nat.zero_add]
  · intro place p here hr
    have hrest := settled.resting here
    obtain ⟨hresults, -, hw⟩ := hrest.empty_of_receiving hr
    refine ⟨hresults, hw, fun hend => running place p here ?_⟩
    exact hrest.running_of_receiving hr hend

/-- The short run: one call waits to submit and one for an output when the pool is closed. -/
theorem no_call_stuck_short :
    Steps {} shortHistory shortStage ∧ shortStage.Settled ∧ Unblocked shortHistory shortStage :=
  ⟨shortRun, shortStage_settled, Steps.no_call_stuck shortRun shortStage_settled⟩

end Stage

end Workforce
