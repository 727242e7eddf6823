import Workforce.Proofs.Batch.Planned
/-!
# Plain batches

A batch without a limit runs its tasks by greedy list scheduling: neither its queue, which holds
only so many tasks, nor the way its outputs take ever delays a start or changes the order of the
values.

## Main results

* `Workforce.Stage.Steps.plain_batch_greedy` — what becomes of the tasks, and when.
-/

namespace Workforce.Stage

open Schedule Scene History

variable {α : Type}

/-! ## A batch of four tasks -/

/-- Four tasks: one produces a value, one panics at once, one returns the absent marker, and one
that has to wait produces a value. -/
def mixedTasks : List (Task Nat) :=
  [{ id := ⟨0, some 0⟩, duration := some 2, outcome := .value 10, frail := false, trace := none },
    { id := ⟨0, some 1⟩, duration := some 0, outcome := .panic, frail := false, trace := none },
    { id := ⟨0, some 2⟩, duration := some 1, outcome := .absent, frail := true, trace := none },
    { id := ⟨0, some 3⟩, duration := some 1, outcome := .value 11, frail := false, trace := none }]

/-- They carry their indices. -/
lemma numbered_mixedTasks : Numbered 0 mixedTasks := by
  intro i t ht
  rcases i with _ | _ | _ | _ | i <;> simp [mixedTasks] at ht <;> rw [← ht]

/-- Their running times are known. -/
lemma lengths_mixedTasks : ∀ t ∈ mixedTasks, t.duration.isSome := by
  simp [mixedTasks]

/-! ## The plan is followed -/

/-- **A plain batch is greedy list scheduling.** Begin a batch without a limit in any scene and let
the clock move to its end. In the order of the list each task starts as soon as one of the workers
is free after the tasks before it have been placed, and ends its running time later. No task is
discarded. The call returns at the latest end, with the values in the order of the ends. -/
theorem Steps.plain_batch_greedy {h : History α} {g : Stage α} (run : Steps {} h g)
    (named : h.Named) {size : Nat} {tasks : List (Task α)} (hsize : 0 < size) (hne : tasks ≠ [])
    (numbered : Numbered g.calls tasks) (lengths : ∀ t ∈ tasks, t.duration.isSome) :
    let plan := greedy (List.replicate (min size tasks.length) g.scene.now) tasks
    let d := diaryAt (.batch g.scene.batches.length)
      (g.scene.reach g.calls [.batch size tasks .unlimited, .run]).2
    d.started = tasks ∧ d.starts = plan.map Slot.opening ∧
      d.ends = (plan.map Slot.ending).mergeSort sooner ∧ d.discards = [] ∧
      d.answers = [(latest g.scene.now (plan.map Slot.finish), g.calls,
        .batch (.ok (((plan.map Slot.ending).mergeSort sooner).filterMap (·.2.value?))))] := by
  intro plan d
  obtain ⟨left, hd⟩ := exists_completed_run run named hsize hne numbered lengths
    .unlimited rfl rfl
  -- without a deadline no task is left
  have hleft : left = [] := by
    by_contra hne
    obtain ⟨D, hD, -⟩ := hd.late hne
    cases hD
  have hgiven : d.admitted = tasks := by
    have := hd.given
    rwa [hleft, List.append_nil] at this
  have hstarts : d.starts = plan.map Slot.opening := by
    rw [hd.starts, hgiven]
  have hends : d.ends = (plan.map Slot.ending).mergeSort sooner := by
    rw [hd.ends, hgiven]
  have hlatest : d.latestEnd g.scene.now = latest g.scene.now (plan.map Slot.finish) := by
    have hperm := ((List.mergeSort_perm (plan.map Slot.ending) sooner).map Prod.fst)
    rw [Diary.latestEnd, hends, latest_perm hperm, List.map_map]
    rfl
  refine ⟨?_, hstarts, hends, ?_, ?_⟩
  · rw [Diary.started, hstarts, List.map_map]
    exact map_task_greedy _ tasks
  · rw [hd.discards, hleft]
    rfl
  · obtain ⟨panicked, hanswers, hfrail⟩ := hd.answers
    have hquiet : panicked = false := by
      by_contra hp
      obtain ⟨t, ht, -⟩ := hfrail (by simpa using hp)
      simp [hleft] at ht
    rw [hanswers, hlatest, hquiet, Diary.ended, hends, List.filterMap_map]
    rfl

/-- The batch of four tasks on two workers. -/
theorem plain_batch_greedy_mixed :
    let d := diaryAt (.batch 0)
      (({} : Scene Nat).reach 0 [.batch 2 mixedTasks .unlimited, .run]).2
    d.starts.map (fun y => (y.1, y.2.id.index)) =
        [(0, some 0), (0, some 1), (0, some 2), (1, some 3)] ∧
      d.ends.map (fun y => (y.1, y.2.id.index)) =
        [(0, some 1), (1, some 2), (2, some 0), (2, some 3)] ∧
      d.answers = [(2, 0, .batch (.ok [10, 11]))] := by
  intro d
  have hne : mixedTasks ≠ [] := by simp [mixedTasks]
  obtain ⟨-, (hstarts : d.starts = _), (hends : d.ends = _), -, (hanswers : d.answers = _)⟩ :=
    Steps.plain_batch_greedy (.refl ({} : Stage Nat)) Named.nil Nat.two_pos hne
      numbered_mixedTasks lengths_mixedTasks
  have hplan : (greedy (List.replicate (min 2 mixedTasks.length) 0) mixedTasks).map Slot.ending =
      [(2, mixedTasks[0]), (0, mixedTasks[1]), (1, mixedTasks[2]), (2, mixedTasks[3])] := rfl
  have hsorted : ((greedy (List.replicate (min 2 mixedTasks.length) 0) mixedTasks).map
      Slot.ending).mergeSort sooner =
        [(0, mixedTasks[1]), (1, mixedTasks[2]), (2, mixedTasks[0]), (2, mixedTasks[3])] := by
    rw [hplan]
    simp [mixedTasks, sooner, TaskId.before, List.mergeSort, List.MergeSort.Internal.splitInTwo]
  refine ⟨?_, ?_, ?_⟩
  · rw [hstarts]
    rfl
  · rw [hends]
    exact (congrArg _ hsorted).trans rfl
  · refine hanswers.trans ?_
    show [(_, _, Answer.batch (.ok (List.filterMap _ (((greedy (List.replicate
      (min 2 mixedTasks.length) 0) mixedTasks).map Slot.ending).mergeSort sooner))))] = _
    rw [hsorted]
    rfl

end Workforce.Stage
