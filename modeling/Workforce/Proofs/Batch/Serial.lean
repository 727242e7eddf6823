import Workforce.Proofs.Scene.Action
/-!
# Batches on one worker

The only worker of a batch ends its tasks in the order in which it starts them, so that the values
are collected in the order of the tasks.

## Main definitions

* `Workforce.Batch.Serial` — what was started on one worker has ended in that order, but for the
  task that runs.

## Main results

* `Workforce.Batch.Serial.turn` — it is kept by turns.
-/

namespace Workforce.Batch

open Trail

variable {α : Type} {b c : Batch α} {now call m : Nat} {d : Diary α} {x : Gist α}
  {left dropped : List (Task α)}

/-- A batch on `m` workers. On one worker what was started has ended in that order, but for the task
that runs. -/
structure Serial (call m : Nat) (b : Batch α) (d : Diary α) : Prop where
  caller : b.call = call
  size : b.pool.size = m
  order : b.pool.size = 1 → d.started = d.ended ++ b.pool.underway

/-- At most one task runs on one worker, and none while the worker is idle. -/
lemma Sound.busy_le (hb : b.Sound) (one : b.pool.size = 1) :
    b.pool.idle + b.pool.running.length ≤ 1 := by
  have := hb.pool.workers_le
  rw [one, Pool.workers] at this
  omega

namespace Serial

/-- It holds of a batch that has just been started. -/
lemma initial {n : Nat} (hn : 0 < n) (tasks : List (Task α)) (admission : Admission)
    (parentCancelled : Bool) :
    Serial call n (Batch.initial now call n hn tasks admission parentCancelled) {} :=
  ⟨rfl, rfl, fun _ => rfl⟩

/-- It is kept by moves: a worker that takes a task runs no other one. -/
lemma advance (h : Serial call m b d) (hb : Kept now b) (move : Advance now b x left dropped c) :
    Serial call m c (d ++ .note now x) := by
  obtain ⟨hcaller, hsize, horder⟩ := h
  cases move with
  | @take n t rest active idle queue =>
    refine ⟨hcaller, hsize, fun one => ?_⟩
    have hbusy := hb.sound.busy_le one
    have hnil : b.pool.running = [] := List.length_eq_zero_iff.1 (by omega)
    have hstarted := horder one
    rw [Pool.underway, hnil, List.map_nil, List.append_nil] at hstarted
    simpa [Diary.started, Diary.ended, Diary.note, Pool.underway, hnil, Run.start] using hstarted
  | _ =>
    exact ⟨hcaller, hsize, fun one => by
      simpa [Diary.started, Diary.ended, Diary.note, Pool.underway, Pool.release]
        using horder one⟩

/-- It is kept by the end of a task. -/
lemma finish (h : Serial call m b d) (hb : Kept now b) (name : TaskId) :
    Serial call m (b.finish name).1 (d ++ .note now (gist (b.finish name).2)) := by
  have hfinish : b.finish name =
      ({ b with pool := (b.pool.finish name).1 }, (b.pool.finish name).2) := rfl
  rcases Pool.finish_cases name b.pool with ⟨heq, -⟩ | ⟨before, r, after, hrun, -, hgist, hpool⟩
  · rw [hfinish, heq]
    simpa using h
  · rw [hfinish, hpool]
    refine ⟨h.caller, h.size, fun one => ?_⟩
    dsimp only at one ⊢
    have hbusy := hb.sound.busy_le one
    have hlength : before = [] ∧ after = [] := by
      rw [hrun, List.length_append, List.length_cons] at hbusy
      exact ⟨List.length_eq_zero_iff.1 (by omega), List.length_eq_zero_iff.1 (by omega)⟩
    obtain ⟨rfl, rfl⟩ := hlength
    have hstarted := h.order one
    rw [hgist]
    simpa [Diary.started, Diary.ended, Diary.note, Pool.underway, hrun] using hstarted

/-- **It is kept by turns.** -/
theorem turn (h : Serial call m b d) (hb : Calm now b) (brittle : Bool) (y : Turn) :
    Calm (y.time now) (b.turn now brittle y).1 ∧
      Serial call m (b.turn now brittle y).1
        (d ++ .note (y.time now) (gist (b.turn now brittle y).2)) := by
  refine hb.turn brittle y ?_ fun _ _ _ _ _ _ hkept hP move => hP.advance hkept move
  cases y with
  | finish name => exact h.finish hb.kept name
  | follow =>
    simpa [Turn.apply] using (⟨h.caller, h.size, h.order⟩ : Serial call m b.parentCancelled d)
  | _ => simpa [Turn.apply] using h

end Serial

end Workforce.Batch
