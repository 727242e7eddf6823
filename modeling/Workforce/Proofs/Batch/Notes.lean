import Workforce.Proofs.Batch.Orderly
import Workforce.Proofs.Batch.Turn
import Workforce.Proofs.Pool.Notes
/-!
# The notes of a batch

What is counted of a batch is what is counted of its pool: whatever happens to a batch is a run of
its pool in which the same is counted.

## Main results

* `Workforce.Batch.tale_of_perform?`, `Batch.Turn.tale`, `Batch.tale_abandon` — what is counted of a
  batch is counted of its pool.
-/

namespace Workforce.Batch

open Occurrence Trail

variable {α : Type} {m : Moment} {b c : Batch α} {es : List (Event α)}

/-! ## What is counted -/

/-- Discards are not counted. -/
lemma tale_discards (ts : List (Task α)) : tale ((ts.map Event.discarded).map event) = [] := by
  rw [List.map_map]
  exact tale_map _ (fun _ => rfl) _

/-- When a submitter ends, only the close of its pool is counted. -/
lemma tale_endSubmitter (m : Moment) (panicked : Bool) (b : Batch α) :
    tale ((b.endSubmitter m panicked).2.map event) = tale (b.pool.close.2.map event) := by
  rw [endSubmitter, List.map_append, tale_append, tale_discards, List.nil_append]

/-- So it is when the submitter stops with a task in its hands. -/
lemma tale_halt (m : Moment) (t : Task α) {reason : Event α}
    (hreason : (event reason).telling = false) (b : Batch α) :
    tale ((b.halt m t reason).2.map event) = tale (b.pool.close.2.map event) := by
  rw [← tale_endSubmitter m (m.breaks t)]
  unfold halt
  dsimp only
  split
  · rw [List.map_cons, tale_cons rfl]
  · rw [List.map_cons, List.map_cons, tale_cons rfl, tale_cons hreason]

/-- Nothing is counted when submissions are given up. -/
lemma tale_retracted (xs : List (Submission α)) : tale (xs.map retracted) = [] :=
  tale_map _ (fun _ => rfl) _

/-- Nor when their tasks are discarded. -/
lemma tale_returned (xs : List (Submission α)) :
    tale (xs.map fun s => event (.discarded s.task)) = [] :=
  tale_map _ (fun _ => rfl) _

/-- The submitter's moves are runs of the pool in which the same is counted. -/
lemma Feeds.tale (hb : b.Sound) {x : Batch α × List (Event α)} (h : b.Feeds m x) :
    ∃ os, Pool.Steps b.pool os x.1.pool ∧ Trail.tale os = Trail.tale (x.2.map event) := by
  have hclose := Pool.Steps.of_close b.pool
  cases h with
  | refused submitter => exact ⟨_, hclose, (tale_endSubmitter m _ b).symm⟩
  | done active line remaining => exact ⟨_, hclose, (tale_endSubmitter m _ b).symm⟩
  | back active line why =>
    refine ⟨_, (Chain.single .retract).trans (Pool.Steps.of_close _), ?_⟩
    rw [tale_append, tale_append, tale_retracted, tale_returned, List.nil_append, List.nil_append]
    refine (tale_halt m _ ?_ { b with pool := { b.pool with submitting := [] } }).symm
    rcases why with ⟨-, rfl⟩ | ⟨-, -, rfl⟩ <;> rfl
  | due active line remaining due =>
    refine ⟨_, hclose, ?_⟩
    rw [List.map_cons, tale_cons rfl]
    exact (tale_endSubmitter m _ b).symm
  | @stopped t rest active line remaining early stopped =>
    exact ⟨_, hclose, (tale_halt m t rfl { b with remaining := rest }).symm⟩
  | @submit t rest active line remaining early free =>
    have held : b.pool.held = true := hb.pending.resolve_right fun h => by
      obtain ⟨⟨_, hfinished⟩, -⟩ := h
      cases active.symm.trans hfinished
    rw [pool_observeAll]
    exact ⟨_, .single (.of_submit m ⟨none, t⟩ held), tale_cons rfl _⟩

/-- **The moves of a batch are runs of its pool in which the same is counted.** -/
theorem tale_of_perform? (hb : b.Sound) {k : Move} (h : b.perform? m k = some (c, es)) :
    ∃ os, Pool.Steps b.pool os c.pool ∧ tale os = tale (es.map event) := by
  cases k with
  | pool k =>
    obtain ⟨q, hq, rfl⟩ := performPool?_eq_some_iff.1 h
    exact ⟨_, .single (.of_perform? hq), rfl⟩
  | feed => exact (feed?_eq_some_iff.1 h).tale hb
  | conclude =>
    obtain ⟨panicked, -, -, -, heq⟩ := conclude?_eq_some_iff.1 h
    cases heq
    refine ⟨_, .single .release, ?_⟩
    cases panicked <;> rfl

/-- So is what happens to a batch from outside. -/
lemma Turn.tale (b : Batch α) (x : Turn) :
    ∃ os, Pool.Steps b.pool os (x.apply b).1.pool ∧
      Trail.tale os = Trail.tale ((x.apply b).2.map event) := by
  cases x with
  | elsewhere => exact ⟨_, .refl _, rfl⟩
  | finish name => exact ⟨_, .of_finish name b.pool, rfl⟩
  | follow => exact ⟨_, .single .follow, rfl⟩
  | wait time => exact ⟨_, .refl _, rfl⟩

/-- When a batch is given up, the close of its pool is counted. -/
lemma tale_abandon (b : Batch α) :
    ∃ os, Pool.Steps b.pool os b.abandon.1.pool ∧ tale os = tale (b.abandon.2.map event) := by
  refine ⟨_, ((((Pool.Steps.of_close b.pool).trans (.single .cancel)).trans
    (.single .retract)).trans (.single .resign)).trans (.single .release), ?_⟩
  rw [abandon_snd, List.map_cons, List.map_append, List.map_append, tale_cons rfl]
  simp only [tale_append, tale_discards, tale_retracted, tale_returned,
    tale_map departed fun _ => rfl, List.append_nil]
  rw [List.map_singleton]

end Workforce.Batch
