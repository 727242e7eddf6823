import Workforce.Proofs.Batch.Turn
/-!
# Batches of tasks that end by themselves

If all tasks of a batch have known running times, so do all that run, and a batch whose call is
pending waits for nothing but the clock.

## Main definitions

* `Workforce.Batch.Clocked` — all tasks of a batch have known running times.

## Main results

* `Workforce.Batch.Clocked.turn` — it is kept by turns.
* `Workforce.Batch.Clocked.exists_due` — a batch at rest whose call is pending runs a task with a
  known end.
-/

namespace Workforce.Batch

variable {α : Type} {b c : Batch α} {now call : Nat} {x : Gist α} {left dropped : List (Task α)}

/-- All tasks of the batch have known running times. -/
structure Clocked (b : Batch α) : Prop where
  dues : ∀ r ∈ b.pool.running, r.due.isSome
  queue : ∀ t ∈ b.pool.queue, t.duration.isSome
  ahead : ∀ t ∈ b.ahead, t.duration.isSome

namespace Clocked

/-- It holds of a batch that has just been started with such tasks. -/
lemma initial {n : Nat} (hn : 0 < n) {tasks : List (Task α)}
    (lengths : ∀ t ∈ tasks, t.duration.isSome) (admission : Admission) (parentCancelled : Bool) :
    Clocked (Batch.initial now call n hn tasks admission parentCancelled) :=
  ⟨by simp [Batch.initial, Pool.fresh, Pool.receive],
    by simp [Batch.initial, Pool.fresh, Pool.receive], lengths⟩

/-- It is kept by moves. -/
lemma advance (h : Clocked b) (move : Advance now b x left dropped c) : Clocked c := by
  obtain ⟨hdues, hqueue, hahead⟩ := h
  cases move with
  | @take n t rest active idle queue =>
    rw [queue] at hqueue
    refine ⟨fun r hr => ?_, fun u hu => hqueue u (List.mem_cons_of_mem _ hu), hahead⟩
    rcases List.mem_append.1 hr with hr | hr
    · exact hdues r hr
    · rw [List.mem_singleton.1 hr, Run.start, Option.isSome_map]
      exact hqueue t List.mem_cons_self
  | @enter s active line room =>
    have hline : b.ahead = s.task :: b.remaining := by rw [Batch.ahead, Pool.inHand, line]; rfl
    rw [hline] at hahead
    refine ⟨hdues, fun u hu => ?_, fun u hu => hahead u (List.mem_cons_of_mem _ hu)⟩
    rcases List.mem_append.1 hu with hu | hu
    · exact hqueue u hu
    · exact List.mem_singleton.1 hu ▸ hahead s.task List.mem_cons_self
  | @hand t rest active line remaining early free =>
    refine ⟨hdues, hqueue, fun u hu => hahead u ?_⟩
    simpa [Batch.ahead, Pool.inHand, line, remaining] using hu
  | halt => exact ⟨hdues, hqueue, by simp [Batch.ahead, Pool.inHand]⟩
  | last => exact ⟨hdues, by simp, hahead⟩
  | _ => exact ⟨hdues, hqueue, hahead⟩

/-- It is kept by the end of a task. -/
lemma finish (h : Clocked b) (name : TaskId) : Clocked (b.finish name).1 := by
  have hfinish : (b.finish name).1 = { b with pool := (b.pool.finish name).1 } := rfl
  rcases Pool.finish_cases name b.pool with ⟨heq, -⟩ | ⟨before, r, after, hrun, -, -, hpool⟩
  · rw [hfinish, heq]
    exact h
  · rw [hfinish, hpool]
    refine ⟨fun q hq => h.dues q ?_, h.queue, h.ahead⟩
    rw [hrun]
    rcases List.mem_append.1 hq with hq | hq
    · exact List.mem_append_left _ hq
    · exact List.mem_append_right _ (List.mem_cons_of_mem _ hq)

/-- **It is kept by turns.** -/
theorem turn (h : Clocked b) (hb : Calm now b) (brittle : Bool) (y : Turn) :
    Clocked (b.turn now brittle y).1 := by
  refine (hb.turn (P := fun b _ => Clocked b) (d := {}) brittle y ?_
    fun _ _ _ _ _ _ _ hP move => hP.advance move).2
  cases y with
  | finish name => exact h.finish name
  | follow => exact ⟨h.dues, h.queue, h.ahead⟩
  | _ => exact h

/-- **A batch at rest whose call is pending runs a task with a known end.** -/
theorem exists_due (h : Clocked b) (hb : Calm now b) (pending : b.pending = true) :
    ∃ r ∈ b.pool.running, ∃ time, r.due = some time := by
  have hbusy := hb.kept.sound.running_of_pending (m := ⟨now, true⟩) hb.rest pending
  obtain ⟨r, hr⟩ := List.exists_mem_of_ne_nil _ hbusy
  exact ⟨r, hr, Option.isSome_iff_exists.1 (h.dues r hr)⟩

end Clocked

end Workforce.Batch
