import Workforce.Proofs.Pool.Cancelled
import Workforce.Proofs.Scene.Calls
/-!
# When workers exit

A worker exits when the pool is cancelled, when no task is left and none can come, or when nobody is
left to receive its output; a panic of a task does not make it exit. The results are closed by the
last worker, once and for all.

## Main definitions

* `Workforce.Stage.Crew` — which workers of a pool have exited, and what follows when all have.

## Main results

* `Workforce.Pool.Steps.exits`, `Steps.finale` — a run reports how many workers have exited in it,
  and whether the last one was among them.
* `Workforce.Stage.Steps.workers_exit` — the workers of every pool after every run.
-/

namespace Workforce

open Occurrence Trail History

variable {α : Type}

/-! ## Pools -/

namespace Pool

variable {p q : Pool α} {os : Trail α}

/-- **Every exit is reported**: those that are reported in a run and the workers that are left are
the workers that were there. -/
theorem Steps.exits (h : Steps p os q) : (collect exit? os).length + q.workers = p.workers := by
  induction h with
  | refl => exact Nat.zero_add _
  | @tail q r os ps chain last ih =>
    rw [collect_append, List.length_append]
    rcases last.workers_cases with ⟨hw, hexit, -⟩ | ⟨hw, -, hexit, -⟩
    · rw [hexit, List.length_nil]
      omega
    · rw [hexit, List.length_singleton]
      omega

/-- **The results are closed once**, when the last worker exits. -/
theorem Steps.finale (h : Steps p os q) (hp : p.workers ≠ 0) :
    (collect finale? os).length = if q.workers = 0 then 1 else 0 := by
  induction h with
  | refl => rw [if_neg hp]; rfl
  | @tail q r os ps chain last ih =>
    rw [collect_append, List.length_append, ih]
    rcases last.workers_cases with ⟨hw, -, hfinale⟩ | ⟨hw, -, -, hfinale⟩
    · rw [hfinale, hw]
      rfl
    · rw [hfinale, if_neg (by omega : q.workers ≠ 0)]
      split <;> rfl

/-- As long as a pool is neither closed nor cancelled nor deserted, all its workers are there. -/
lemma Sound.workers_of_open (hp : p.Sound) (opened : p.closed = false) (free : p.cancelled = false)
    (used : p.deserted = false) : p.workers = p.size := by
  rcases hp.alive with h | h | h
  · simp [free] at h
  · simp [sealed_iff, opened, used] at h
  · exact h

end Pool

/-! ## Pools in a scene -/

namespace Stage

open Scene

variable {g : Stage α} {h : History α} {place : Place} {p : Pool α}

/-- Which workers of a pool have exited after a run. A pool whose handle is held, or on which a call
waits, is not *deserted*. -/
structure Crew (place : Place) (p : Pool α) (h : History α) (g : Stage α) : Prop where
  /-- Whatever its tasks have done, no worker of a pool exits that is neither closed nor
  cancelled. -/
  complete : p.closed = false → p.cancelled = false → p.deserted = false → p.workers = p.size
  /-- When nothing can move, the workers that are left in a pool that is closed or cancelled run a
  task or wait to publish. -/
  busy : g.Settled → p.closed = true ∨ p.cancelled = true →
    p.idle = 0 ∧ p.workers = p.running.length + p.publishing.length
  /-- The others have exited, each of them once. -/
  exits : (collect exit? (trailAt place h)).length + p.workers = p.size
  /-- The results have been closed, and once only, exactly if all have exited. -/
  finale : (collect finale? (trailAt place h)).length = if p.workers = 0 then 1 else 0
  /-- Then no task is queued or runs, and no output waits to be published. -/
  empty : p.workers = 0 → p.queue = [] ∧ p.running = [] ∧ p.publishing = []
  /-- When nothing can move, no call waits either. -/
  answered : p.workers = 0 → g.Settled → p.submitting = [] ∧ p.receiving = []
  /-- Nobody is told before that the results are closed. -/
  told : collect told? (trailAt place h) ≠ [] → p.workers = 0
  /-- From then on this stays so, as does a close and a cancellation. -/
  lasting : ∀ h' g', Steps g h' g' → ∃ q, g'.scene.poolAt place = some q ∧
    (p.closed = true → q.closed = true) ∧ (p.cancelled = true → q.cancelled = true) ∧
      (p.workers = 0 → q.workers = 0 ∧ collect finale? (trailAt place h') = [])

/-- **When workers exit.** After every run, the workers of a pool that is neither closed nor
cancelled are all there; those of a pool that is closed or cancelled exit as soon as they have
nothing in hand. The results are closed exactly when all have exited, which happens once and is
final.

**Proof sketch.** That no worker exits without a reason is an invariant of every pool. An idle
worker of a settled pool that is not cancelled faces an empty queue, so that no submission waits;
if the pool were closed no task could come, and the worker would have exited. Each exit takes one
worker off, and the one that takes off the last reports the close of the results and drops the
queue. -/
theorem Steps.workers_exit (run : Steps {} h g) (here : g.scene.poolAt place = some p) :
    Crew place p h g := by
  have hsound : p.Sound := run.pool_sound here
  obtain ⟨p₀, os, blank, hsteps, hos, -⟩ := run.changes_of_empty.life here
  obtain ⟨hexit, hfinale⟩ := collect_exits_congr hos
  have hstart : p₀.workers = p.size := blank.workers.trans (Pool.Steps.size_eq hsteps).symm
  have hsize : p.size ≠ 0 := Nat.ne_of_gt p.size_pos
  refine ⟨hsound.workers_of_open, fun settled hend => ?_, ?_, ?_, fun hw => ?_,
    fun hw settled => ?_, fun ht => ?_, fun h' g' after => ?_⟩
  · have hidle := (settled.resting here).idle_of_ending hend
    exact ⟨hidle, by rw [Pool.workers, hidle, Nat.zero_add]⟩
  · rw [← hexit, Pool.Steps.exits hsteps, hstart]
  · rw [← hfinale, Pool.Steps.finale hsteps (hstart ▸ hsize)]
  · exact ⟨hsound.queue_of_gone hw, (Pool.workers_eq_zero_iff.1 hw).2⟩
  · have hrest := settled.resting here
    exact ⟨hrest.enter.resolve_right fun h => h.1 hw, hrest.deliver.resolve_right fun h => h.2 hw⟩
  · rw [← (collect_congr hos).2.2.2.2] at ht
    exact (Pool.Steps.told hsteps blank ht).1
  · obtain ⟨q, ps, there, hafter, hps⟩ := (after.changes run.batches_sound).at_place here
    refine ⟨q, there, Pool.Steps.closed_mono hafter, Pool.Steps.cancelled_mono hafter,
      fun hw => ⟨Pool.Steps.workers_eq_zero hafter hw, ?_⟩⟩
    -- the results have been closed before
    have hall := Pool.Steps.finale (hsteps.trans hafter) (hstart ▸ hsize)
    rw [collect_append, List.length_append, Pool.Steps.finale hsteps (hstart ▸ hsize), if_pos hw,
      if_pos (Pool.Steps.workers_eq_zero hafter hw)] at hall
    rw [← (collect_exits_congr hps).2, ← List.length_eq_zero_iff]
    omega

/-! ### The end of the short run -/

/-- What occurs in the short run after that: its last two tasks come to their ends, and the worker
exits. -/
def endTrail : Trail Nat :=
  [event (.ended (shortTask 4)), event (.published (some 4)), event (.started (shortTask 5)),
    event (.ended (shortTask 5)), event (.published (some 5)), event .workerStopped,
    event .resultsClosed]

/-- The pool at the end. -/
def endPool : Pool Nat :=
  { latePool with counted := 0, running := [], queue := [], results := [some 4, some 5] }

/-- The scene at the end. -/
def endStage : Stage Nat := ⟨10, { pools := [endPool] }⟩

/-- The end of the short run. -/
lemma endRun : Steps lateStage (ofTrail (.pool 0) endTrail) endStage := by
  have ended : Steps lateStage _ _ := Chain.single (.finish lateStage ⟨4, none⟩)
  have started := (ended.tail (.pool (i := 0) _ .publish rfl rfl)).tail
    (.pool (i := 0) _ .take rfl rfl)
  have last := (started.tail (.finish _ ⟨5, none⟩)).tail (.pool (i := 0) _ .publish rfl rfl)
  have left := last.tail (.pool (i := 0) _ .leave rfl rfl)
  exact left

/-- The worker of the short run works on after the close, and exits when nothing is left to do. -/
theorem workers_exit_short :
    (latePool.workers = 1 ∧ Crew (.pool 0) latePool (shortHistory ++ lateHistory) lateStage) ∧
      endPool.workers = 0 ∧
        Crew (.pool 0) endPool (shortHistory ++ lateHistory ++ ofTrail (.pool 0) endTrail)
          endStage :=
  ⟨⟨rfl, Steps.workers_exit (shortRun.trans lateRun) rfl⟩, rfl,
    Steps.workers_exit ((shortRun.trans lateRun).trans endRun) rfl⟩

end Stage

end Workforce
