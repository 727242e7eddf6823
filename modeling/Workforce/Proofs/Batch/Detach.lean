import Workforce.Proofs.Batch.Sound
/-!
# Batches without a parent

What a batch does does not depend on whether it has a parent, as long as the parent is not
cancelled: the batch without it makes the same moves.

## Main definitions

* `Workforce.Batch.detach` — the batch, but without a parent.
* `Workforce.Batch.Unstopped` — the cancellation of the parent has not reached its submitter.

## Main results

* `Workforce.Batch.perform?_detach` — the moves are the same.
* `Workforce.Batch.settle_detach` — so is what happens until nothing moves.
-/

namespace Workforce

variable {α : Type}

namespace Pool

/-- The pool, but without a parent. -/
def detach (p : Pool α) : Pool α := { p with child := false }

/-- A worker exits in the same way. -/
lemma retire_detach (m : Moment) (reason : List (Event α)) (p : Pool α) :
    p.detach.retire m reason = Prod.map detach id (p.retire m reason) := by
  simp only [retire, apply_ite (Prod.map detach id)]
  rfl

/-- The moves of a pool do not depend on its parent. -/
lemma perform?_detach (m : Moment) (p : Pool α) (k : Move) :
    p.detach.perform? m k = (p.perform? m k).map (Prod.map detach id) := by
  cases k with
  | take =>
    simp only [perform?, take?, detach]
    split <;> rfl
  | leave =>
    have hretire := fun n reason => retire_detach m reason { p with idle := n }
    simp only [perform?, leave?, detach]
    split
    · rfl
    · simp only [apply_ite (Option.map _), Option.map_some, ← hretire]
      rfl
  | enter =>
    simp only [perform?, enter?, detach]
    split
    · rfl
    · simp only [apply_ite (Option.map _)]
      rfl
  | publish =>
    have hretire := fun rest reason => retire_detach m reason { p with publishing := rest }
    simp only [perform?, publish?, detach]
    split
    · rfl
    · simp only [apply_ite (Option.map _), Option.map_some, ← hretire]
      rfl
  | deliver =>
    simp only [perform?, deliver?, detach]
    split
    · rfl
    · rfl
    · simp only [apply_ite (Option.map _)]
      rfl

/-- Neither does the end of a task. -/
lemma finish_detach (name : TaskId) (p : Pool α) :
    p.detach.finish name = Prod.map detach id (p.finish name) := by
  have hfinish : p.detach.finish? name = (p.finish? name).map (Prod.map detach id) := by
    simp only [finish?, detach]
    split
    · rfl
    · split <;> rfl
  rw [finish, hfinish, finish]
  cases p.finish? name <;> rfl

/-- Neither does its closing. -/
lemma close_detach (p : Pool α) : p.detach.close = Prod.map detach id p.close := by
  simp only [close, apply_ite (Prod.map detach id)]
  rfl

/-- Nor a submission. -/
lemma submit_detach (m : Moment) (s : Submission α) (p : Pool α) :
    p.detach.submit m s = Prod.map detach id (p.submit m s) := by
  simp only [submit, apply_ite (Prod.map detach id)]
  rfl

end Pool

namespace Batch

variable {b c : Batch α} {es : List (Event α)}

/-- The batch, but without a parent. -/
def detach (b : Batch α) : Batch α := { b with pool := b.pool.detach }

/-- The cancellation of the parent has not reached the submitter before its end. -/
def Unstopped (b : Batch α) : Prop := b.pool.cancelled = false ∨ b.Finished

/-- A batch without a parent learns the same from its pool. -/
lemma observeAll_detach (es : List (Event α)) (b : Batch α) :
    b.detach.observeAll es = (b.observeAll es).detach := by
  induction es generalizing b with
  | nil => rfl
  | cons e es ih =>
    have hone : b.detach.observe e = (b.observe e).detach := by
      unfold observe
      split <;> rfl
    rw [observeAll, List.foldl_cons, hone]
    exact ih (b.observe e)

/-- Its submitter ends in the same way. -/
lemma endSubmitter_detach (m : Moment) (panicked : Bool) (b : Batch α) :
    b.detach.endSubmitter m panicked = Prod.map detach id (b.endSubmitter m panicked) := by
  have hclose := Pool.close_detach b.pool
  simp only [endSubmitter, detach, hclose]
  rfl

/-- It stops in the same way. -/
lemma halt_detach (m : Moment) (t : Task α) (reason : Event α) (b : Batch α) :
    b.detach.halt m t reason = Prod.map detach id (b.halt m t reason) := by
  simp only [halt, endSubmitter_detach]
  rfl

/-- Before the parent is cancelled it goes on in the same way. -/
lemma feed?_detach (m : Moment) (hb : b.Unstopped) :
    b.detach.feed? m = (b.feed? m).map (Prod.map detach id) := by
  cases hs : b.submitter with
  | finished panicked => simp [feed?, detach, hs]
  | refused panicked =>
    simp only [feed?, detach, hs, Option.map_some]
    exact congrArg some (endSubmitter_detach m panicked b)
  | active =>
    have hfree : b.isStopped = false := by
      rcases hb with hb | ⟨panicked, hb⟩
      · simp [isStopped, hb]
      · simp [hs] at hb
    have hfree' : b.detach.isStopped = false := rfl
    have hs' : b.detach.submitter = .active := hs
    simp only [feed?, hs, hs', hfree, hfree', Bool.false_eq_true, if_false]
    cases hline : b.pool.submitting with
    | cons s rest =>
      have hline' : b.detach.pool.submitting = s :: rest := hline
      rw [hline']
      dsimp only
      rw [apply_ite (Option.map _), Option.map_some, ← halt_detach]
      rfl
    | nil =>
      have hline' : b.detach.pool.submitting = [] := hline
      rw [hline']
      cases hrem : b.remaining with
      | nil =>
        have hrem' : b.detach.remaining = [] := hrem
        rw [hrem']
        exact congrArg some (endSubmitter_detach m false b)
      | cons t rest =>
        have hrem' : b.detach.remaining = t :: rest := hrem
        have hsubmit : b.detach.pool.submit m ⟨none, t⟩ =
            Prod.map Pool.detach id (b.pool.submit m ⟨none, t⟩) := Pool.submit_detach m _ b.pool
        rw [hrem']
        dsimp only
        rw [apply_ite (Option.map _), Option.map_some, Option.map_some, endSubmitter_detach,
          hsubmit]
        have hobserve := observeAll_detach (b.pool.submit m ⟨none, t⟩).2 { b with
          pool := (b.pool.submit m ⟨none, t⟩).1, remaining := rest, submitter := .active }
        exact congrArg (fun c => ite _ _ (some (c, (b.pool.submit m ⟨none, t⟩).2))) hobserve

/-- So does the call. -/
lemma conclude?_detach (b : Batch α) :
    b.detach.conclude? = b.conclude?.map (Prod.map detach id) := by
  simp only [conclude?, detach]
  split
  · simp only [apply_ite (Option.map _)]
    rfl
  · rfl

/-- **The moves of a batch whose parent is not cancelled do not depend on it.** -/
theorem perform?_detach (m : Moment) (hb : b.Unstopped) (k : Move) :
    b.detach.perform? m k = (b.perform? m k).map (Prod.map detach id) := by
  cases k with
  | pool k =>
    have hpool : b.detach.pool.perform? m k =
        (b.pool.perform? m k).map (Prod.map Pool.detach id) := Pool.perform?_detach m b.pool k
    simp only [perform?, performPool?, hpool, Option.map_map]
    congr 1
    funext r
    exact congrArg (·, r.2) (observeAll_detach r.2 { b with pool := r.1 })
  | feed => exact feed?_detach m hb
  | conclude => exact conclude?_detach b

/-- They do not cancel it, and the submitter does not come back. -/
lemma Unstopped.of_perform? {m : Moment} {k : Move} (hb : b.Unstopped)
    (h : b.perform? m k = some (c, es)) : c.Unstopped := by
  cases k with
  | pool k =>
    obtain ⟨q, hq, rfl⟩ := performPool?_eq_some_iff.1 h
    exact hb.imp (Pool.flags_of_perform? hq).2.1.trans (finished_observeAll es b).2
  | feed =>
    cases feed?_eq_some_iff.1 h with
    | refused | done | back | due | stopped => exact .inr ⟨_, rfl⟩
    | submit active =>
      have hfree : b.pool.cancelled = false := hb.resolve_right fun hfin => hfin.not_active active
      left
      rw [pool_observeAll]
      show (b.pool.submit m _).1.cancelled = false
      rw [Pool.submit_frame]
      exact hfree
  | conclude =>
    obtain ⟨panicked, hs, -, -, heq⟩ := conclude?_eq_some_iff.1 h
    cases heq
    exact .inr ⟨_, hs⟩

/-- The first enabled move is the same. -/
lemma step?_detach (m : Moment) (hb : b.Unstopped) :
    b.detach.step? m = (b.step? m).map (Prod.map detach id) := by
  rw [step?, step?, List.map_findSome?]
  exact congrArg (fun f => Move.all.findSome? f) (funext fun k => perform?_detach m hb k)

/-- **What happens until nothing moves does not depend on the parent.** -/
theorem settle_detach (m : Moment) (hb : b.Unstopped) :
    b.detach.settle m = Prod.map detach id (b.settle m) := by
  fun_induction settle m b with
  | case1 m b h =>
    have hnone : b.detach.step? m = none := by
      rw [step?_detach m hb, h]
      rfl
    rw [settle]
    split
    · rfl
    · next h' =>
      rw [hnone] at h'
      cases h'
  | case2 m b c es h d fs hr ih =>
    obtain ⟨k, hk⟩ := exists_move_of_step? h
    have hrest := ih (hb.of_perform? hk)
    have hsome : b.detach.step? m = some (c.detach, es) := by
      rw [step?_detach m hb, h]
      rfl
    rw [hr] at hrest
    rw [settle]
    split
    · next h' =>
      rw [hsome] at h'
      cases h'
    · next h' =>
      rw [hsome] at h'
      cases h'
      rw [hrest]
      rfl

/-- Nothing that moves stops it. -/
lemma Unstopped.settle (hb : b.Unstopped) (m : Moment) : (b.settle m).1.Unstopped := by
  fun_induction Batch.settle m b with
  | case1 m b h => exact hb
  | case2 m b c es h d fs hr ih =>
    obtain ⟨k, hk⟩ := exists_move_of_step? h
    have hrest := ih (hb.of_perform? hk)
    rwa [hr] at hrest

/-! ## What comes from outside -/

/-- Neither does the end of a task depend on the parent. -/
lemma finish_detach (name : TaskId) (b : Batch α) :
    b.detach.finish name = Prod.map detach id (b.finish name) := by
  have hfinish : b.detach.pool.finish name = Prod.map Pool.detach id (b.pool.finish name) :=
    Pool.finish_detach name b.pool
  simp only [finish, hfinish]
  rfl

/-- Nor what happens when the batch is given up. -/
lemma abandon_detach (b : Batch α) : b.detach.abandon = Prod.map detach id b.abandon := by
  have hclose : b.detach.pool.close = Prod.map Pool.detach id b.pool.close :=
    Pool.close_detach b.pool
  simp only [abandon, hclose]
  rfl

/-- The end of a task does not stop the submitter. -/
lemma Unstopped.finish (hb : b.Unstopped) (name : TaskId) : (b.finish name).1.Unstopped := by
  have hcancelled : (b.pool.finish name).1.cancelled = b.pool.cancelled :=
    (Pool.finish_frame name b.pool).2.2.2.1
  exact hb.imp_left hcancelled.trans

end Batch

end Workforce
