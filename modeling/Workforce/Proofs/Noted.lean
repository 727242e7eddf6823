import Workforce.Proofs.Scene.Books
import Workforce.Proofs.Scene.Closings
/-!
# The notes agree with what happened

After every run, as many workers were noted to start as pools were made with, as many to have exited
as are gone, and as many ends of results as there are pools without workers. Every task that
panicked was noted, and every pool that has been closed, once. A batch that returned its values has
noted its end once, and the counts in that note are right.

## Main definitions

* `Workforce.Stage.Noted` — what the notes of a run say.

## Main results

* `Workforce.Stage.Steps.noted` — they say so after every run.

## Implementation notes

As in reports, workers go unnamed: they are noted as worker `#`. Pools stay in the scene when their
workers have exited, so that the pools of a scene are all that were made.
-/

namespace Workforce

open Occurrence Trail History

variable {α : Type}

/-- How many workers of the pool have exited. -/
def Pool.exited (p : Pool α) : Nat := p.size - p.workers

/-- To count some of a list is to add up what each of them contributes. -/
lemma sum_toNat_eq_countP {γ : Type} (f : γ → Bool) (xs : List γ) :
    (xs.map fun x => (f x).toNat).sum = xs.countP f := by
  induction xs with
  | nil => rfl
  | cons x xs ih =>
    rw [List.map_cons, List.sum_cons, ih, List.countP_cons, Nat.add_comm]
    cases f x <;> rfl

namespace Stage

open Scene

variable {g : Stage α} {h : History α}

/-! ## What the notes say -/

/-- The notes of a run agree with what happened in it. All pools are counted, those of batches
included. -/
structure Noted (h : History α) (g : Stage α) : Prop where
  /-- As many workers have started as the pools were made with. -/
  started : (texts (trail h)).count "Worker # started" = (g.scene.allPools.map (·.size)).sum
  /-- Every worker that has exited has stopped or terminated abnormally. -/
  exited : (texts (trail h)).count "Worker # stopped" +
    (texts (trail h)).count "Worker terminated abnormally" = (g.scene.allPools.map (·.exited)).sum
  /-- The results are closed where all workers have exited. -/
  resultsClosed : (texts (trail h)).count "All workers exited, results closed" =
    g.scene.allPools.countP (·.workers = 0)
  /-- As many tasks have failed as panicked. -/
  failed : (texts (trail h)).count "Worker # task failed" = (panicked (trail h)).length
  /-- Pools are closed once. -/
  closed : (texts (trail h)).count "Worker pool closed to new submissions" =
    g.scene.allPools.countP (·.closed)
  /-- A pool is closed if it was told to close or its outputs were to be read to the end, -/
  pools : ∀ i p, g.scene.pools[i]? = some p → (p.closed = true ↔ ToldToClose i h g)
  /-- and that of a batch if the submitter has ended, or was ended because the batch was given up.
  -/
  batches : ∀ b ∈ g.scene.batches, (b.pool.closed = true ↔ b.Finished)
  /-- A batch over some tasks that returned its values has noted its end once, with the number of
  tasks that were admitted, the number of all, and the number of values. -/
  endings : ∀ place place' call tasks values, tasks ≠ [] → (place, batched call tasks) ∈ h →
    (place', event (.batchAnswered call (.batch (.ok values)))) ∈ h →
      place' = place ∧ Trail.endings (trailAt place h) =
        [ending (Trail.admitted (trailAt place h)).length tasks.length values.length]
  /-- The values are as many as the tasks that were admitted, without those that ended in no value,
  panicked or were dropped with the queue. -/
  values : h.Named → ∀ place place' call tasks values, tasks ≠ [] →
    (place, batched call tasks) ∈ h →
    (place', event (.batchAnswered call (.batch (.ok values)))) ∈ h →
      values.length + (absent (trailAt place h)).length + (panicked (trailAt place h)).length +
        (dropped (trailAt place h)).length = (Trail.admitted (trailAt place h)).length

/-- To count a text is to add up what can be told of the pools. -/
lemma Steps.count_of_tally (run : Steps {} h g) (m : Mark)
    (hkind : ∀ o : Occurrence α, o.telling = false → m.kind o = none) {size : Pool α → Nat}
    (hsize : ∀ p os, p.Tally os → (os.collect m.kind).length = size p) :
    (texts (trail h)).count m.text = (g.scene.allPools.map size).sum := by
  rw [count_texts]
  exact run.total_notes hkind fun place p here => hsize p _ (run.tally here)

/-- Every exit of a worker is noted in one of two ways. -/
lemma Steps.count_exits (run : Steps {} h g) :
    (texts (trail h)).count Mark.workerStopped.text +
      (texts (trail h)).count Mark.workerAborted.text =
        (g.scene.allPools.map (·.exited)).sum := by
  rw [count_texts, count_texts]
  refine (length_exits (trail h)).symm.trans (run.total_notes
    (fun _ ho => (kinds_of_not_telling ho).2.1) fun place p here => ?_)
  exact Nat.eq_sub_of_add_eq (run.tally here).exits

/-- As many tasks were noted to have failed as panicked, anywhere. -/
lemma Steps.count_failed (run : Steps {} h g) :
    (texts (trail h)).count Mark.taskFailed.text = (panicked (trail h)).length := by
  have hpanicked : ∀ os : Trail α, panicked os =
      collect (fun o => o.ended?.filter (·.outcome.output?.isNone)) os := fun os =>
    List.filter_filterMap
  rw [count_texts, hpanicked]
  refine (run.length_collect fun _ ho => (kinds_of_not_telling ho).2.2.2.2.2).trans (Eq.trans ?_
    (run.length_collect fun _ ho => ?_).symm)
  · refine congrArg List.sum (List.map_congr_left fun place hplace => ?_)
    obtain ⟨p, here⟩ := Option.ne_none_iff_exists'.1 (mem_places.1 hplace)
    rw [← hpanicked]
    exact (run.tally here).failed
  · rw [(kinds_of_not_telling ho).2.2.2.2.1]
    rfl

/-- **The notes agree with what happened**, after every run: any sequence of commands, internal
moves, ends of tasks and moves of the clock, in any order.

**Proof sketch.** At each place what was noted agrees with the pool there, because every step notes
what it does: this is added up over the pools. A batch keeps its books, and nothing more is admitted
or received once the call has returned. -/
theorem Steps.noted (run : Steps {} h g) : Noted h g where
  started := run.count_of_tally .workerStarted (fun _ ho => (kinds_of_not_telling ho).1)
    fun _ _ tally => tally.begun
  exited := run.count_exits
  resultsClosed := by
    rw [← sum_toNat_eq_countP]
    refine run.count_of_tally .resultsClosed (fun _ ho => (kinds_of_not_telling ho).2.2.1)
      fun p _ tally => tally.finale.trans ?_
    by_cases hgone : p.workers = 0 <;> simp [hgone]
  failed := run.count_failed
  closed := by
    rw [← sum_toNat_eq_countP]
    exact run.count_of_tally .poolClosed (fun _ ho => (kinds_of_not_telling ho).2.2.2.1)
      fun _ _ tally => tally.closed
  pools _ _ here := run.closed_iff_told here
  batches b hb :=
    have sound := run.batches_sound b hb
    ⟨sound.closed, fun finished => (sound.finished finished).1⟩
  endings place place' call tasks values hne hcall hanswer := by
    obtain ⟨hplace, -, -, -, hfinal⟩ := run.finished_once hne hcall hanswer
    refine ⟨hplace, ?_⟩
    rw [endings_eq, hfinal]
    rfl
  values named place place' call tasks values hne hcall hanswer := by
    obtain ⟨-, ⟨p, here⟩, hvalues, told, -⟩ := run.finished_once hne hcall hanswer
    obtain ⟨houtputs, hcensus⟩ := run.census_of_told named here told
    have habsent := length_absent (trailAt place h)
    rw [houtputs, ← hvalues] at habsent
    omega

/-! ### A batch of three tasks, of which one has no value and one panics -/

section PlainRun

/-- The tasks of the batch. -/
def plainTask (index : Nat) (outcome : Outcome Nat) : Task Nat :=
  { id := ⟨0, some index⟩, duration := none, outcome := outcome, frail := false, trace := none }

/-- The batch on one worker, when its call has returned. -/
def plainBatch : Batch Nat where
  call := 0
  pool := {
    size := 1
    size_pos := Nat.one_pos
    counted := 0
    idle := 0
    running := []
    publishing := []
    queue := []
    results := []
    submitting := []
    receiving := []
    closed := true
    cancelled := false
    child := false
    held := false }
  total := 3
  remaining := []
  submitter := .finished false
  admitted := 3
  values := [7]
  since := 0
  deadline := none

/-- The scene at the end. -/
def plainStage : Stage Nat := ⟨1, { batches := [plainBatch] }⟩

/-- What has occurred. -/
def plainTrail : Trail Nat :=
  let first := plainTask 0 (.value 7)
  let second := plainTask 1 .absent
  let third := plainTask 2 .panic
  [batched 0 [first, second, third], event (.poolStarted 1), event .workerStarted,
    event (.admitted none first), event (.started first), event (.admitted none second),
    event (.admitted none third), event .poolClosed, event (.ended first),
    event (.published (some 7)), event (.received none true (some 7)), event (.started second),
    event (.ended second), event (.published none), event (.received none true none),
    event (.started third), event (.ended third), event .taskFailed, event .workerStopped,
    event .resultsClosed, event (.toldClosed none true), event (.batchFinished 3 3 1),
    event (.batchAnswered 0 (.batch (.ok [7])))]

/-- The run that leads there. -/
lemma plainRun : Steps {} (ofTrail (.batch 0) plainTrail) plainStage := by
  have called : Steps ({} : Stage Nat) _ _ := Chain.single (.order {} (.batch 1
    [plainTask 0 (.value 7), plainTask 1 .absent, plainTask 2 .panic] .unlimited))
  have busy := ((called.tail (.batch (i := 0) _ .feed rfl rfl)).tail
    (.batch (i := 0) _ (.pool .enter) rfl rfl)).tail (.batch (i := 0) _ (.pool .take) rfl rfl)
  have filling := (busy.tail (.batch (i := 0) _ .feed rfl rfl)).tail
    (.batch (i := 0) _ (.pool .enter) rfl rfl)
  have full := (filling.tail (.batch (i := 0) _ .feed rfl rfl)).tail
    (.batch (i := 0) _ (.pool .enter) rfl rfl)
  have closed := full.tail (.batch (i := 0) _ .feed rfl rfl)
  -- the tasks come to their ends, one after the other
  have first := ((closed.tail (.finish _ ⟨0, some 0⟩)).tail
    (.batch (i := 0) _ (.pool .publish) rfl rfl)).tail (.batch (i := 0) _ (.pool .deliver) rfl rfl)
  have second := (((first.tail (.batch (i := 0) _ (.pool .take) rfl rfl)).tail
    (.finish _ ⟨0, some 1⟩)).tail (.batch (i := 0) _ (.pool .publish) rfl rfl)).tail
      (.batch (i := 0) _ (.pool .deliver) rfl rfl)
  have third := (second.tail (.batch (i := 0) _ (.pool .take) rfl rfl)).tail
    (.finish _ ⟨0, some 2⟩)
  -- the worker exits, the collector is told, and the call returns
  have told := (third.tail (.batch (i := 0) _ (.pool .leave) rfl rfl)).tail
    (.batch (i := 0) _ (.pool .deliver) rfl rfl)
  have last := told.tail (.batch (i := 0) _ .conclude rfl rfl)
  exact last

/-- Its tasks carry the names of their calls. -/
lemma plainHistory_named : History.Named (ofTrail (.batch 0) plainTrail) where
  asked place s c hs := by simp [ofTrail, plainTrail] at hs
  batched place c tasks i t hs ht := by
    obtain ⟨-, rfl, rfl⟩ : place = .batch 0 ∧ c = 0 ∧
        tasks = [plainTask 0 (.value 7), plainTask 1 .absent, plainTask 2 .panic] := by
      simpa [ofTrail, plainTrail] using hs
    rcases i with _ | _ | _ | i <;> cases ht <;> rfl

/-- In that run one batch has noted its end. -/
theorem noted_plain : History.Named (ofTrail (.batch 0) plainTrail) ∧
    Noted (ofTrail (.batch 0) plainTrail) plainStage ∧
      Trail.endings (trailAt (.batch 0) (ofTrail (.batch 0) plainTrail)) =
        ["Batch finished: 3/3 tasks admitted, 1 values collected"] := by
  have hnoted := Steps.noted plainRun
  refine ⟨plainHistory_named, hnoted, ?_⟩
  obtain ⟨-, hends⟩ := hnoted.endings (.batch 0) (.batch 0) 0
    [plainTask 0 (.value 7), plainTask 1 .absent, plainTask 2 .panic] [7] (List.cons_ne_nil _ _)
    (by simp [ofTrail, plainTrail]) (by simp [ofTrail, plainTrail])
  exact hends

end PlainRun

end Stage

end Workforce
