import Workforce.Proofs.Pool.Deserted
import Workforce.Proofs.Scene.Hush
/-!
# Batches whose panics are excused

Some of the tasks of a batch that would panic return the absent marker instead. Until one of them
ends nothing differs: no move of a batch depends on how its tasks will end.

## Main definitions

* `Workforce.Task.excuse` — the task, but if it is a chosen one that panics it returns the absent
  marker.
* `Workforce.Event.Pardoned` — such a task ends.
* `Workforce.Pool.excuse`, `Workforce.Batch.excuse` — a pool and a batch with their tasks excused.

## Main results

* `Workforce.Pool.perform?_excuse`, `Workforce.Batch.perform?_excuse` — a move does not depend on
  how tasks will end.
* `Workforce.Batch.settle_excuse` — neither does what happens until nothing moves.
* `Workforce.Batch.not_pardoned_settle` — no task ends meanwhile.
-/

namespace Workforce

variable {α : Type} (chosen : Task α → Bool)

/-! ## Tasks and events -/

/-- The task, but if it is a chosen one that panics it returns the absent marker. -/
def Task.excuse (t : Task α) : Task α :=
  match t.outcome with
  | .panic => if chosen t then { t with outcome := .absent } else t
  | _ => t

/-- Only a chosen task that panics is another one. -/
lemma Task.excuse_cases (t : Task α) :
    t.excuse chosen = t ∧ ¬(t.outcome = .panic ∧ chosen t = true) ∨
      t.outcome = .panic ∧ chosen t = true ∧ (t.excuse chosen).outcome = .absent := by
  unfold excuse
  split
  · next hpanic =>
    split
    · next ht => exact .inr ⟨hpanic, ht, rfl⟩
    · next ht => exact .inl ⟨rfl, fun h => ht h.2⟩
  · next hpanic => exact .inl ⟨rfl, fun h => hpanic h.1⟩

/-- Nothing but its end differs. -/
lemma Task.excuse_eq (t : Task α) :
    t.excuse chosen = { t with outcome := (t.excuse chosen).outcome } := by
  unfold excuse
  split
  · split <;> rfl
  · rfl

@[simp] lemma Task.id_excuse (t : Task α) : (t.excuse chosen).id = t.id := by
  rw [t.excuse_eq chosen]

@[simp] lemma Task.duration_excuse (t : Task α) : (t.excuse chosen).duration = t.duration := by
  rw [t.excuse_eq chosen]

@[simp] lemma Task.frail_excuse (t : Task α) : (t.excuse chosen).frail = t.frail := by
  rw [t.excuse_eq chosen]

@[simp] lemma Task.trace_excuse (t : Task α) : (t.excuse chosen).trace = t.trace := by
  rw [t.excuse_eq chosen]

/-- Its run. -/
def Run.excuse (r : Run α) : Run α := { r with task := r.task.excuse chosen }

/-- Its submission. -/
def Submission.excuse (s : Submission α) : Submission α := { s with task := s.task.excuse chosen }

/-- What happens to it. -/
def Event.excuse : Event α → Event α
  | admitted caller task => admitted caller (task.excuse chosen)
  | started task => started (task.excuse chosen)
  | ended task => ended (task.excuse chosen)
  | discarded task => discarded (task.excuse chosen)
  | e => e

/-- It is the end of a chosen task that panics. -/
def Event.Pardoned : Event α → Prop
  | ended task => task.outcome = .panic ∧ chosen task = true
  | _ => False

@[simp] lemma Moment.breaks_excuse (m : Moment) (t : Task α) :
    m.breaks (t.excuse chosen) = m.breaks t := by
  simp [breaks]

/-- A discard panics that would have panicked. -/
@[simp] lemma Moment.any_breaks_excuse (m : Moment) (ts : List (Task α)) :
    (ts.map (Task.excuse chosen)).any m.breaks = ts.any m.breaks := by
  simp [List.any_map, Function.comp_def]

@[simp] lemma Event.isFrailDiscard_excuse (e : Event α) :
    (e.excuse chosen).isFrailDiscard = e.isFrailDiscard := by
  cases e <;> simp [excuse, isFrailDiscard]

@[simp] lemma Event.answer?_excuse (e : Event α) : (e.excuse chosen).answer? = e.answer? := by
  cases e <;> rfl

@[simp] lemma Moment.after_map_excuse (m : Moment) (es : List (Event α)) :
    m.after (es.map (Event.excuse chosen)) = m.after es := by
  simp [after, List.any_map, Function.comp_def]

@[simp] lemma map_discarded_excuse (ts : List (Task α)) :
    (ts.map (Task.excuse chosen)).map Event.discarded =
      (ts.map Event.discarded).map (Event.excuse chosen) := by
  simp [Event.excuse]

/-! ## Pools -/

namespace Pool

/-- The pool with the tasks excused that it holds. -/
def excuse (p : Pool α) : Pool α :=
  { p with
    running := p.running.map (Run.excuse chosen)
    queue := p.queue.map (Task.excuse chosen)
    submitting := p.submitting.map (Submission.excuse chosen) }

/-- What is done to a pool and what happens meanwhile, with the tasks excused. -/
abbrev excused : Pool α × List (Event α) → Pool α × List (Event α) :=
  Prod.map (excuse chosen) (List.map (Event.excuse chosen))

variable (m : Moment) (p : Pool α)

@[simp] lemma workers_excuse : (p.excuse chosen).workers = p.workers := by
  simp [workers, excuse]

@[simp] lemma deserted_excuse : (p.excuse chosen).deserted = p.deserted := by
  simp [deserted, excuse]

@[simp] lemma sealed_excuse : (p.excuse chosen).sealed = p.sealed := by
  simp [Pool.sealed, deserted, excuse]

/-- A worker exits in the same way. -/
lemma retire_excuse (reason : List (Event α)) :
    (p.excuse chosen).retire m (reason.map (Event.excuse chosen)) =
      excused chosen (p.retire m reason) := by
  have hqueue : (p.excuse chosen).queue = p.queue.map (Task.excuse chosen) := rfl
  simp only [retire, workers_excuse, hqueue, Moment.any_breaks_excuse, map_discarded_excuse]
  split
  · split <;> simp [excused, excuse, Event.excuse]
  · simp [excused, excuse, Event.excuse]

lemma take?_excuse : (p.excuse chosen).take? m = (p.take? m).map (excused chosen) := by
  unfold take?
  cases hc : p.cancelled <;> cases hi : p.idle <;> cases hq : p.queue <;>
    simp [excuse, hc, hi, hq, Event.excuse, Run.excuse, Run.start]

lemma leave?_excuse : (p.excuse chosen).leave? m = (p.leave? m).map (excused chosen) := by
  have hsaw := fun n => retire_excuse chosen m { p with idle := n } [.sawCancellation]
  have hsealed := fun n => retire_excuse chosen m { p with idle := n } []
  have hidle : (p.excuse chosen).idle = p.idle := rfl
  have hcancelled : (p.excuse chosen).cancelled = p.cancelled := rfl
  have hqueue : (p.excuse chosen).queue = p.queue.map (Task.excuse chosen) := rfl
  simp only [leave?, hidle, hcancelled, hqueue, sealed_excuse, List.isEmpty_map]
  split
  · rfl
  · next n hi =>
    simp only [apply_ite (Option.map _), Option.map_some, ← hsaw, ← hsealed]
    rfl

lemma enter?_excuse : (p.excuse chosen).enter? m = (p.enter? m).map (excused chosen) := by
  have hline : (p.excuse chosen).submitting = p.submitting.map (Submission.excuse chosen) := rfl
  have hqueue : (p.excuse chosen).queue.length = p.queue.length := List.length_map ..
  have hclosed : (p.excuse chosen).closed = p.closed := rfl
  have hcapacity : (p.excuse chosen).capacity = p.capacity := rfl
  simp only [enter?, workers_excuse, hline, hqueue, hclosed, hcapacity]
  cases p.submitting with
  | nil => rfl
  | cons s rest =>
    simp only [List.map_cons, apply_ite (Option.map _), Option.map_some, Option.map_none]
    simp [excuse, Submission.excuse, refusal, Event.excuse]

lemma publish?_excuse : (p.excuse chosen).publish? m = (p.publish? m).map (excused chosen) := by
  have hgone := fun rest => retire_excuse chosen m { p with publishing := rest } [.receiverGone]
  have hpublishing : (p.excuse chosen).publishing = p.publishing := rfl
  have hresults : (p.excuse chosen).results = p.results := rfl
  have hcapacity : (p.excuse chosen).capacity = p.capacity := rfl
  simp only [publish?, deserted_excuse, hpublishing, hresults, hcapacity]
  split
  · rfl
  · simp only [apply_ite (Option.map _), Option.map_some, ← hgone]
    rfl

lemma deliver?_excuse : (p.excuse chosen).deliver? = p.deliver?.map (excused chosen) := by
  have hreceiving : (p.excuse chosen).receiving = p.receiving := rfl
  have hresults : (p.excuse chosen).results = p.results := rfl
  simp only [deliver?, workers_excuse, hreceiving, hresults]
  split
  · rfl
  · rfl
  · simp only [apply_ite (Option.map _)]
    rfl

/-- **The moves of a pool do not depend on how tasks will end.** -/
lemma perform?_excuse (k : Move) :
    (p.excuse chosen).perform? m k = (p.perform? m k).map (excused chosen) := by
  cases k with
  | take => exact take?_excuse chosen m p
  | leave => exact leave?_excuse chosen m p
  | enter => exact enter?_excuse chosen m p
  | publish => exact publish?_excuse chosen m p
  | deliver => exact deliver?_excuse chosen p

/-- Neither does a submission. -/
lemma submit_excuse (s : Submission α) :
    (p.excuse chosen).submit m (s.excuse chosen) = excused chosen (p.submit m s) := by
  unfold submit
  have hclosed : (p.excuse chosen).closed = p.closed := rfl
  rw [hclosed, apply_ite (excused chosen)]
  simp [excuse, Submission.excuse, refusal, Event.excuse]

/-- Nor its closing. -/
lemma close_excuse : (p.excuse chosen).close = excused chosen p.close := by
  unfold close
  have hclosed : (p.excuse chosen).closed = p.closed := rfl
  rw [hclosed, apply_ite (excused chosen)]
  rfl

end Pool

/-! ## Batches -/

namespace Batch

/-- The batch with its tasks excused. -/
def excuse (b : Batch α) : Batch α :=
  { b with pool := b.pool.excuse chosen, remaining := b.remaining.map (Task.excuse chosen) }

/-- What is done to a batch and what happens meanwhile, with the tasks excused. -/
abbrev excused : Batch α × List (Event α) → Batch α × List (Event α) :=
  Prod.map (excuse chosen) (List.map (Event.excuse chosen))

variable (m : Moment) (b : Batch α)

/-- The batch learns the same from its pool. -/
lemma observeAll_excuse (es : List (Event α)) (b : Batch α) :
    (b.excuse chosen).observeAll (es.map (Event.excuse chosen)) =
      (b.observeAll es).excuse chosen := by
  induction es generalizing b with
  | nil => rfl
  | cons e es ih =>
    have hone : (b.excuse chosen).observe (e.excuse chosen) = (b.observe e).excuse chosen := by
      cases e with
      | received caller drains output => cases output <;> rfl
      | _ => rfl
    rw [List.map_cons, observeAll, List.foldl_cons, hone]
    exact ih (b.observe e)

/-- Its submitter ends in the same way. -/
lemma endSubmitter_excuse (panicked : Bool) (b : Batch α) :
    (b.excuse chosen).endSubmitter m panicked = excused chosen (b.endSubmitter m panicked) := by
  have hclose := Pool.close_excuse chosen b.pool
  simp only [endSubmitter, excuse, hclose, Moment.any_breaks_excuse, map_discarded_excuse]
  simp [excused, excuse]

/-- It stops in the same way. -/
lemma halt_excuse (t : Task α) (reason : Event α) (b : Batch α) :
    (b.excuse chosen).halt m (t.excuse chosen) (reason.excuse chosen) =
      excused chosen (b.halt m t reason) := by
  simp only [halt, endSubmitter_excuse, Moment.breaks_excuse]
  split <;> rfl

/-- It goes on in the same way. -/
lemma feed?_excuse : (b.excuse chosen).feed? m = (b.feed? m).map (excused chosen) := by
  have hsubmitter : (b.excuse chosen).submitter = b.submitter := rfl
  have hline : (b.excuse chosen).pool.submitting =
      b.pool.submitting.map (Submission.excuse chosen) := rfl
  have hrem : (b.excuse chosen).remaining = b.remaining.map (Task.excuse chosen) := rfl
  have hdue : (b.excuse chosen).isDue m = b.isDue m := rfl
  have hstopped : (b.excuse chosen).isStopped = b.isStopped := rfl
  simp only [feed?, hsubmitter, hline, hrem, hdue, hstopped]
  cases b.submitter with
  | finished panicked => rfl
  | refused panicked => exact congrArg some (endSubmitter_excuse chosen m panicked b)
  | active =>
    cases b.pool.submitting with
    | cons s line =>
      have hhalt := halt_excuse chosen m s.task
      simp only [List.map_cons, apply_ite (Option.map _), Option.map_some, ← hhalt]
      rfl
    | nil =>
      cases b.remaining with
      | nil => exact congrArg some (endSubmitter_excuse chosen m false b)
      | cons t rest =>
        have hend := endSubmitter_excuse chosen m false b
        have hhalt := halt_excuse chosen m t (.admissionCancelled b.admitted)
          { b with remaining := rest }
        have hsubmit := Pool.submit_excuse chosen m b.pool ⟨none, t⟩
        have hobserve := observeAll_excuse chosen (b.pool.submit m ⟨none, t⟩).2
          { b with pool := (b.pool.submit m ⟨none, t⟩).1, remaining := rest, submitter := .active }
        simp only [List.map_nil, List.map_cons]
        split_ifs with hd hs
        · rw [hend]
          rfl
        · exact congrArg some hhalt
        · have hpool : (b.excuse chosen).pool.submit m ⟨none, t.excuse chosen⟩ =
              Pool.excused chosen (b.pool.submit m ⟨none, t⟩) := hsubmit
          rw [hpool]
          exact congrArg
            (fun c => some (c, (b.pool.submit m ⟨none, t⟩).2.map (Event.excuse chosen))) hobserve

/-- So does the call. -/
lemma conclude?_excuse (b : Batch α) :
    (b.excuse chosen).conclude? = b.conclude?.map (excused chosen) := by
  have hsubmitter : (b.excuse chosen).submitter = b.submitter := rfl
  have hpending : (b.excuse chosen).pending = b.pending := rfl
  have hreceiving : (b.excuse chosen).pool.receiving = b.pool.receiving := rfl
  simp only [conclude?, hsubmitter, hpending, hreceiving]
  split
  · split_ifs <;> rfl
  · rfl

/-- **The moves of a batch do not depend on how tasks will end.** -/
theorem perform?_excuse (k : Move) :
    (b.excuse chosen).perform? m k = (b.perform? m k).map (excused chosen) := by
  cases k with
  | pool k =>
    have hpool : (b.excuse chosen).pool.perform? m k =
        (b.pool.perform? m k).map (Pool.excused chosen) := Pool.perform?_excuse chosen m b.pool k
    simp only [perform?, performPool?, hpool, Option.map_map]
    congr 1
    funext r
    exact congrArg (·, r.2.map (Event.excuse chosen))
      (observeAll_excuse chosen r.2 { b with pool := r.1 })
  | feed => exact feed?_excuse chosen m b
  | conclude => exact conclude?_excuse chosen b

/-- The first enabled move is the same. -/
lemma step?_excuse : (b.excuse chosen).step? m = (b.step? m).map (excused chosen) := by
  rw [step?, step?, List.map_findSome?]
  exact congrArg (fun f => Move.all.findSome? f) (funext fun k => perform?_excuse chosen m b k)

/-- **What happens until nothing moves does not depend on how tasks will end.** -/
theorem settle_excuse : (b.excuse chosen).settle m = excused chosen (b.settle m) := by
  fun_induction settle m b with
  | case1 m b h =>
    refine settle_eq_self ?_
    rw [step?_excuse, h]
    rfl
  | case2 m b c es h d fs hr ih =>
    have hstep : (b.excuse chosen).step? m =
        some (c.excuse chosen, es.map (Event.excuse chosen)) := by
      rw [step?_excuse, h]
      rfl
    rw [settle_of_step? hstep, Moment.after_map_excuse, ih, hr]
    exact congrArg (d.excuse chosen, ·) List.map_append.symm

variable {chosen m b}

/-- No task ends when the pool is closed. -/
lemma not_pardoned_close : ∀ e ∈ b.pool.close.2, ¬e.Pardoned chosen := by
  rcases close_snd b.pool with h | h <;> rw [h] <;> simp [Event.Pardoned]

/-- Nor when tasks are discarded. -/
lemma not_pardoned_discards (ts : List (Task α)) :
    ∀ e ∈ ts.map Event.discarded, ¬e.Pardoned chosen := by
  intro e he
  obtain ⟨t, -, rfl⟩ := List.mem_map.1 he
  exact id

/-- Nor when the submitter does. -/
lemma not_pardoned_endSubmitter {panicked : Bool} :
    ∀ e ∈ (b.endSubmitter m panicked).2, ¬e.Pardoned chosen :=
  List.forall_mem_append.2 ⟨not_pardoned_discards _, not_pardoned_close⟩

/-- Nor when the batch is given up. -/
lemma not_pardoned_abandon : ∀ e ∈ b.abandon.2, ¬e.Pardoned chosen := by
  rw [abandon_snd]
  refine List.forall_mem_cons.2 ⟨id, List.forall_mem_append.2
    ⟨List.forall_mem_append.2 ⟨not_pardoned_close, ?_⟩, not_pardoned_discards _⟩⟩
  simp [Event.Pardoned]

/-- No task ends in a move. -/
lemma not_pardoned_perform? {c : Batch α} {es : List (Event α)} {k : Move}
    (h : b.perform? m k = some (c, es)) : ∀ e ∈ es, ¬e.Pardoned chosen := by
  cases k with
  | pool k =>
    obtain ⟨q, hq, -⟩ := performPool?_eq_some_iff.1 h
    have hended := Pool.ended_of_perform? hq
    intro e he
    cases e with
    | ended t =>
      have hmem : t ∈ Trail.collect Occurrence.ended? (es.map .event) :=
        Trail.mem_collect.2 ⟨_, List.mem_map_of_mem he, rfl⟩
      rw [hended] at hmem
      cases hmem
    | _ => exact id
  | feed =>
    have hhalt : ∀ (d : Batch α) (t : Task α) {reason : Event α}, ¬reason.Pardoned chosen →
        ∀ e ∈ (d.halt m t reason).2, ¬e.Pardoned chosen := fun d t reason hreason => by
      have hend : ∀ e ∈ (d.endSubmitter m (m.breaks t)).2, ¬e.Pardoned chosen :=
        not_pardoned_endSubmitter
      simp only [halt]
      refine List.forall_mem_cons.2 ⟨id, ?_⟩
      split
      · exact hend
      · exact List.forall_mem_cons.2 ⟨hreason, hend⟩
    have hfeed : b.Feeds m (c, es) := feed?_eq_some_iff.1 h
    generalize hx : (c, es) = x at hfeed
    have hes : es = x.2 := congrArg Prod.snd hx
    rw [hes]
    cases hfeed with
    | refused | done => exact not_pardoned_endSubmitter
    | back _ _ why => exact hhalt _ _ (by rcases why with ⟨-, rfl⟩ | ⟨-, -, rfl⟩ <;> exact id)
    | due => exact List.forall_mem_cons.2 ⟨id, not_pardoned_endSubmitter⟩
    | stopped => exact hhalt _ _ id
    | submit =>
      dsimp only
      unfold Pool.submit
      split <;> simp [Pool.refusal, Event.Pardoned]
  | conclude =>
    obtain ⟨panicked, -, -, -, heq⟩ := conclude?_eq_some_iff.1 h
    cases heq
    split <;> simp [Event.Pardoned]

/-- No task ends as a batch settles. -/
lemma not_pardoned_settle : ∀ e ∈ (b.settle m).2, ¬e.Pardoned chosen := by
  fun_induction settle m b with
  | case1 => simp
  | case2 m b c es h d fs hr ih =>
    obtain ⟨k, hk⟩ := exists_move_of_step? h
    rw [hr] at ih
    exact List.forall_mem_append.2 ⟨not_pardoned_perform? hk, ih⟩

variable (chosen m b)

/-- Neither does what happens when the batch is given up. -/
lemma abandon_excuse : (b.excuse chosen).abandon = excused chosen b.abandon := by
  have hclose : (b.excuse chosen).pool.close = Pool.excused chosen b.pool.close :=
    Pool.close_excuse chosen b.pool
  simp only [abandon, hclose]
  simp [excused, excuse, Pool.excuse, Submission.excuse, Event.excuse, Pool.cancel,
    Function.comp_def]

/-- A batch whose tasks are excused. -/
lemma excuse_start (hosted : Bool) (now call size : Nat) (tasks : List (Task α))
    (admission : Admission) (parentCancelled : Bool) :
    Batch.start hosted now call size (tasks.map (Task.excuse chosen)) admission parentCancelled =
      (Batch.start hosted now call size tasks admission parentCancelled).map
        (Option.map (excuse chosen)) := by
  unfold Batch.start Pool.make
  simp only [List.isEmpty_map, List.length_map]
  split
  · rfl
  · split
    · rfl
    · split <;> rfl

end Batch

end Workforce
