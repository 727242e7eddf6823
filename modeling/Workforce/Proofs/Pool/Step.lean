import Workforce.Proofs.History
/-!
# The steps of a pool

All that can happen to a pool, one constructor for each case, with what is occurring. Everything
that is proved about the runs of a pool is proved along these steps.

## Main definitions

* `Workforce.Pool.Step` — a step of a pool.
* `Workforce.Pool.Steps` — steps one after the other.

## Main results

* `Workforce.Pool.Step.of_perform?` — every internal move is a step.
* `Workforce.Pool.Steps.of_finish` — so is the end of a task.
* `Workforce.Pool.Steps.of_settle` — settling is one step after the other.
-/

namespace Workforce.Pool

open Occurrence Trail

variable {α β : Type}

/-! ## Exits of workers -/

section Retire

variable (m : Moment) (reason : List (Event α)) (p : Pool α)

/-- The exit of a worker touches the count of the workers and the queue only. -/
lemma retire_fst : (p.retire m reason).1 = { p with
    counted := (p.retire m reason).1.counted
    queue := if p.workers = 0 then [] else p.queue } := by
  unfold retire
  split
  · split <;> rfl
  · rfl

@[simp] lemma size_retire : (p.retire m reason).1.size = p.size := by rw [retire_fst]
@[simp] lemma idle_retire : (p.retire m reason).1.idle = p.idle := by rw [retire_fst]
@[simp] lemma running_retire : (p.retire m reason).1.running = p.running := by rw [retire_fst]
@[simp] lemma publishing_retire : (p.retire m reason).1.publishing = p.publishing := by
  rw [retire_fst]
@[simp] lemma results_retire : (p.retire m reason).1.results = p.results := by rw [retire_fst]
@[simp] lemma submitting_retire : (p.retire m reason).1.submitting = p.submitting := by
  rw [retire_fst]
@[simp] lemma receiving_retire : (p.retire m reason).1.receiving = p.receiving := by
  rw [retire_fst]
@[simp] lemma closed_retire : (p.retire m reason).1.closed = p.closed := by rw [retire_fst]
@[simp] lemma cancelled_retire : (p.retire m reason).1.cancelled = p.cancelled := by
  rw [retire_fst]
@[simp] lemma child_retire : (p.retire m reason).1.child = p.child := by rw [retire_fst]
@[simp] lemma held_retire : (p.retire m reason).1.held = p.held := by rw [retire_fst]

@[simp] lemma queue_retire :
    (p.retire m reason).1.queue = if p.workers = 0 then [] else p.queue := by rw [retire_fst]

@[simp] lemma workers_retire : (p.retire m reason).1.workers = p.workers := by
  simp [workers]

/-- The exit of a worker shows in nothing but its reason and, if it is the last one, in the
discards of what is left in the queue. -/
lemma retire_snd : ∃ es : List (Event α), (p.retire m reason).2 =
    reason ++ (if p.workers = 0 then p.queue.map .discarded else []) ++ es ∧
      ∀ e ∈ es, e = .workerStopped ∨ e = .workerAborted ∨ e = .resultsClosed := by
  unfold retire
  split
  · split
    · exact ⟨[.workerAborted, .resultsClosed], by simp, by simp⟩
    · exact ⟨[.workerStopped, .resultsClosed], by simp, by simp⟩
  · exact ⟨[.workerStopped], by simp, by simp⟩

variable {reason} in
/-- What holds of its reason, of the discards and of the notes holds of all that the exit of a
worker shows in. -/
lemma forall_mem_retire {P : Event α → Prop} (hreason : ∀ e ∈ reason, P e)
    (hdiscarded : ∀ t ∈ p.queue, P (.discarded t)) (hstopped : P .workerStopped)
    (haborted : P .workerAborted) (hclosed : P .resultsClosed) :
    ∀ e ∈ (p.retire m reason).2, P e := by
  obtain ⟨es, hes, hall⟩ := retire_snd m reason p
  rw [hes, List.forall_mem_append, List.forall_mem_append]
  refine ⟨⟨hreason, fun e he => ?_⟩, fun e he => ?_⟩
  · split at he
    · obtain ⟨t, ht, rfl⟩ := List.mem_map.1 he
      exact hdiscarded t ht
    · cases he
  · rcases hall e he with rfl | rfl | rfl
    · exact hstopped
    · exact haborted
    · exact hclosed

/-- What is collected from the exit of a worker. -/
lemma collect_retire (kind : Occurrence α → Option β) (h1 : kind (event .workerStopped) = none)
    (h2 : kind (event .workerAborted) = none) (h3 : kind (event .resultsClosed) = none) :
    collect kind ((p.retire m reason).2.map event) = collect kind (reason.map event) ++
      if p.workers = 0 then collect kind (p.queue.map fun t => event (.discarded t)) else [] := by
  obtain ⟨es, hes, hall⟩ := retire_snd m reason p
  have hnone : collect kind (es.map event) = [] := by
    rw [collect, List.filterMap_eq_nil_iff]
    intro o ho
    obtain ⟨e, he, rfl⟩ := List.mem_map.1 ho
    rcases hall e he with rfl | rfl | rfl
    · exact h1
    · exact h2
    · exact h3
  rw [hes, List.map_append, List.map_append, collect_append, collect_append, hnone,
    List.append_nil]
  split
  · rw [List.map_map]; rfl
  · rfl

/-- Nothing that concerns no discard is collected from the exit of a worker but its reason. -/
@[simp] lemma collect_retire_of_none {kind : Occurrence α → Option β}
    (h1 : kind (event .workerStopped) = none) (h2 : kind (event .workerAborted) = none)
    (h3 : kind (event .resultsClosed) = none) (h4 : ∀ t, kind (event (.discarded t)) = none) :
    collect kind ((p.retire m reason).2.map event) = collect kind (reason.map event) := by
  rw [collect_retire m reason p kind h1 h2 h3, collect_map_none kind _ h4]
  simp

variable {reason} in
/-- Nothing else is collected from the reasons for which workers exit early. -/
lemma collect_reason (hreason : ∀ e ∈ reason, e = .sawCancellation ∨ e = .receiverGone)
    (kind : Occurrence α → Option β) (h1 : kind (event .sawCancellation) = none)
    (h2 : kind (event .receiverGone) = none) : collect kind (reason.map event) = [] := by
  rw [collect, List.filterMap_eq_nil_iff]
  intro o ho
  obtain ⟨e, he, rfl⟩ := List.mem_map.1 ho
  rcases hreason e he with rfl | rfl
  · exact h1
  · exact h2

/-- Nothing else is collected from what an idle worker reports that exits. -/
lemma collect_farewell (q : Pool α) {kind : Occurrence α → Option β}
    (h : kind (event .sawCancellation) = none) : collect kind (q.farewell.map event) = [] := by
  rw [collect, List.filterMap_eq_nil_iff]
  intro o ho
  obtain ⟨e, he, rfl⟩ := List.mem_map.1 ho
  exact forall_mem_farewell (P := fun e => kind (event e) = none) h e he

/-- The last worker to exit discards the queue. -/
@[simp] lemma collect_discarded_retire :
    collect discarded? ((p.retire m reason).2.map event) = collect discarded? (reason.map event) ++
      if p.workers = 0 then p.queue else [] := by
  rw [collect_retire m reason p discarded? rfl rfl rfl,
    collect_map discarded? _ id (fun _ => rfl), List.map_id]

/-- The exit of a worker is reported once, after its reason, and the close of the results with the
last one. -/
lemma collect_exits_retire
    (hreason : ∀ e ∈ reason, e = .sawCancellation ∨ e = .receiverGone) :
    collect exit? ((p.retire m reason).2.map event) = [()] ∧
      collect finale? ((p.retire m reason).2.map event) = if p.workers = 0 then [()] else [] := by
  have hnone : collect exit? (reason.map event) = [] ∧ collect finale? (reason.map event) = [] := by
    constructor
    all_goals
      rw [collect, List.filterMap_eq_nil_iff]
      intro o ho
      obtain ⟨e, he, rfl⟩ := List.mem_map.1 ho
      rcases hreason e he with rfl | rfl <;> rfl
  have hdiscards : collect exit? ((p.queue.map Event.discarded).map event) = [] ∧
      collect finale? ((p.queue.map Event.discarded).map event) = [] := by
    rw [List.map_map]
    exact ⟨collect_map_none _ _ (fun _ => rfl) _, collect_map_none _ _ (fun _ => rfl) _⟩
  unfold retire
  split
  · split
    all_goals
      simp only [List.map_append, collect_append, hnone, hdiscards]
      exact ⟨rfl, rfl⟩
  · simp only [List.map_append, collect_append, hnone]
    exact ⟨rfl, rfl⟩

end Retire

/-! ## Calls that are given up -/

/-- What is collected from a call that is given up. -/
lemma collect_withdraw (kind : Occurrence α → Option β) (call : Nat) (p : Pool α) :
    collect kind ((p.submitting.filter (·.caller == some call)).map retracted ++
      (p.receiving.filter (·.caller == some call)).map departed ++
        (p.withdraw call).2.map event) =
      collect kind ((p.submitting.filter (·.caller == some call)).map retracted) ++
        collect kind ((p.receiving.filter (·.caller == some call)).map departed) ++
          collect kind ((p.submitting.filter (·.caller == some call)).map fun s =>
            event (.discarded s.task)) := by
  rw [collect_append, collect_append, Pool.withdraw, List.map_map]
  rfl

/-- Nothing else happens when a call is given up. -/
lemma collect_withdraw_of_none {kind : Occurrence α → Option β} (call : Nat) (p : Pool α)
    (h1 : ∀ s, kind (retracted s) = none) (h2 : ∀ r, kind (departed r) = none)
    (h3 : ∀ t, kind (event (.discarded t)) = none) :
    collect kind ((p.submitting.filter (·.caller == some call)).map retracted ++
      (p.receiving.filter (·.caller == some call)).map departed ++
        (p.withdraw call).2.map event) = [] := by
  rw [collect_withdraw, collect_map_none kind _ h1, collect_map_none kind _ h2,
    collect_map_none kind _ (fun s : Submission α => h3 s.task)]
  rfl

/-- Nothing else happens when all submissions are given up. -/
lemma collect_retract_of_none {kind : Occurrence α → Option β} (p : Pool α)
    (h1 : ∀ s, kind (retracted s) = none) (h2 : ∀ t, kind (event (.discarded t)) = none) :
    collect kind (p.submitting.map retracted ++
      p.submitting.map fun s => event (.discarded s.task)) = [] := by
  rw [collect_append, collect_map_none kind _ h1,
    collect_map_none kind _ (fun s : Submission α => h2 s.task)]
  rfl

/-! ## Steps -/

/-- A step of a pool, with what occurs in it. -/
inductive Step : Pool α → Trail α → Pool α → Prop
  /-- An idle worker takes the head of the queue. -/
  | take {p : Pool α} {n : Nat} {t : Task α} {rest : List (Task α)} (now : Nat)
      (active : p.cancelled = false) (idle : p.idle = n + 1) (queue : p.queue = t :: rest) :
      Step p [event (.started t)]
        { p with idle := n, queue := rest, running := p.running ++ [Run.start now t] }
  /-- An idle worker sees the cancellation and exits. -/
  | stop {p : Pool α} {n : Nat} (m : Moment) (idle : p.idle = n + 1)
      (cancelled : p.cancelled = true) :
      Step p (({ p with idle := n }.retire m [.sawCancellation]).2.map event)
        ({ p with idle := n }.retire m [.sawCancellation]).1
  /-- An idle worker exits because no task is left and none can come. -/
  | leave {p : Pool α} {n : Nat} (m : Moment) (idle : p.idle = n + 1) (queue : p.queue = [])
      (isSealed : p.sealed = true) :
      Step p (({ p with idle := n }.retire m []).2.map event) ({ p with idle := n }.retire m []).1
  /-- The first waiting submission is admitted. -/
  | accept {p : Pool α} {s : Submission α} {rest : List (Submission α)}
      (submitting : p.submitting = s :: rest) (alive : p.workers ≠ 0)
      (room : p.queue.length < p.capacity) (opened : p.closed = false) :
      Step p [event (.admitted s.caller s.task)]
        { p with submitting := rest, queue := p.queue ++ [s.task] }
  /-- The first waiting submission is refused. -/
  | refuse {p : Pool α} {s : Submission α} {rest : List (Submission α)} (m : Moment)
      (submitting : p.submitting = s :: rest)
      (why : p.workers = 0 ∨ p.queue.length < p.capacity ∧ p.closed = true) :
      Step p ((refusal m s).map event) { p with submitting := rest }
  /-- The first waiting publisher publishes its output. -/
  | publish {p : Pool α} {output : Option α} {rest : List (Option α)}
      (publishing : p.publishing = output :: rest) (wanted : p.deserted = false)
      (room : p.results.length < p.capacity) :
      Step p [event (.published output)]
        { p with publishing := rest, results := p.results ++ [output], idle := p.idle + 1 }
  /-- The first waiting publisher finds nobody left to receive and exits. -/
  | lose {p : Pool α} {output : Option α} {rest : List (Option α)} (m : Moment)
      (publishing : p.publishing = output :: rest) (deserted : p.deserted = true) :
      Step p (({ p with publishing := rest }.retire m [.receiverGone]).2.map event)
        ({ p with publishing := rest }.retire m [.receiverGone]).1
  /-- The first waiting receiver gets an output. -/
  | deliver {p : Pool α} {r : Receiver} {rest : List Receiver} {output : Option α}
      {outputs : List (Option α)} (receiving : p.receiving = r :: rest)
      (results : p.results = output :: outputs) :
      Step p [event (.received r.caller r.drains output)]
        { p with results := outputs, receiving := if r.drains then rest ++ [r] else rest }
  /-- The first waiting receiver is told that the results are closed. -/
  | tell {p : Pool α} {r : Receiver} {rest : List Receiver} (receiving : p.receiving = r :: rest)
      (results : p.results = []) (gone : p.workers = 0) :
      Step p [event (.toldClosed r.caller r.drains)] { p with receiving := rest }
  /-- A submission joins the line. -/
  | submit {p : Pool α} (s : Submission α) (held : p.held = true) (opened : p.closed = false) :
      Step p [asked s] { p with submitting := p.submitting ++ [s] }
  /-- A closed pool refuses a submission. -/
  | turnAway {p : Pool α} (m : Moment) (s : Submission α) (closed : p.closed = true) :
      Step p (asked s :: (refusal m s).map event) p
  /-- A receiver joins the line. One that reads to the end has closed the pool before. -/
  | receive {p : Pool α} (r : Receiver) (held : p.held = true)
      (drains : r.drains = true → p.closed = true) :
      Step p [joined r] (p.receive r)
  /-- The pool is closed. -/
  | close {p : Pool α} (opened : p.closed = false) :
      Step p [event .poolClosed] { p with closed := true }
  /-- The pool is cancelled. -/
  | cancel {p : Pool α} : Step p [event .poolCancelled] { p with cancelled := true }
  /-- The cancellation of the parent arrives. -/
  | follow {p : Pool α} : Step p [] p.parentCancelled
  /-- The handle is given up. -/
  | release {p : Pool α} : Step p [] p.release
  /-- A waiting call is given up. -/
  | withdraw {p : Pool α} (call : Nat) :
      Step p ((p.submitting.filter (·.caller == some call)).map retracted ++
        (p.receiving.filter (·.caller == some call)).map departed ++
          (p.withdraw call).2.map event) (p.withdraw call).1
  /-- All waiting submissions are given up. -/
  | retract {p : Pool α} :
      Step p (p.submitting.map retracted ++ p.submitting.map fun s => event (.discarded s.task))
        { p with submitting := [] }
  /-- All waiting receivers are given up. -/
  | resign {p : Pool α} : Step p (p.receiving.map departed) { p with receiving := [] }
  /-- A running task ends with an output. -/
  | finish {p : Pool α} {before after : List (Run α)} {r : Run α} {output : Option α}
      (running : p.running = before ++ r :: after)
      (outcome : r.task.outcome.output? = some output) :
      Step p [event (.ended r.task)]
        { p with running := before ++ after, publishing := p.publishing ++ [output] }
  /-- A running task panics. -/
  | fail {p : Pool α} {before after : List (Run α)} {r : Run α}
      (running : p.running = before ++ r :: after) (outcome : r.task.outcome.output? = none) :
      Step p [event (.ended r.task), event .taskFailed]
        { p with running := before ++ after, idle := p.idle + 1 }

/-- Steps of a pool one after the other. -/
abbrev Steps : Pool α → Trail α → Pool α → Prop := Chain Step

/-! ## Moves are steps -/

/-- Every internal move is a step. -/
theorem Step.of_perform? {m : Moment} {p q : Pool α} {es : List (Event α)} {k : Move}
    (h : p.perform? m k = some (q, es)) : Step p (es.map event) q := by
  cases k with
  | take =>
    obtain ⟨n, t, rest, hc, hi, hq, heq⟩ := take?_eq_some_iff.1 h
    cases heq
    exact .take m.now hc hi hq
  | leave =>
    obtain ⟨n, hi, hwhy, heq⟩ := leave?_eq_some_iff.1 h
    cases hc : p.cancelled with
    | true =>
      rw [farewell_of_cancelled hc] at heq
      obtain ⟨rfl, rfl⟩ := Prod.ext_iff.1 heq
      exact .stop m hi hc
    | false =>
      obtain ⟨hq, hs⟩ := hwhy.resolve_left (by simp [hc])
      rw [farewell_of_active hc] at heq
      obtain ⟨rfl, rfl⟩ := Prod.ext_iff.1 heq
      exact .leave m hi hq hs
  | enter =>
    obtain ⟨s, rest, hs, ⟨hwhy, heq⟩ | ⟨hw, hroom, hc, heq⟩⟩ := enter?_eq_some_iff.1 h <;>
      cases heq
    · exact .refuse m hs hwhy
    · exact .accept hs hw hroom hc
  | publish =>
    obtain ⟨output, rest, hp, ⟨hd, heq⟩ | ⟨hd, hroom, heq⟩⟩ := publish?_eq_some_iff.1 h
    · obtain ⟨rfl, rfl⟩ := Prod.ext_iff.1 heq
      exact .lose m hp hd
    · cases heq
      exact .publish hp hd hroom
  | deliver =>
    obtain ⟨r, rest, hr, ⟨output, outputs, ho, heq⟩ | ⟨ho, hw, heq⟩⟩ :=
      deliver?_eq_some_iff.1 h <;> cases heq
    · exact .deliver hr ho
    · exact .tell hr ho hw

/-- The first element that satisfies a condition is the one that is taken out. -/
lemma exists_of_find?_eq_some {γ : Type} {f : γ → Bool} {xs : List γ} {x : γ}
    (h : xs.find? f = some x) :
    ∃ before after, xs = before ++ x :: after ∧ xs.eraseP f = before ++ after := by
  obtain ⟨hx, before, after, rfl, hbefore⟩ := List.find?_eq_some_iff_append.1 h
  refine ⟨before, after, rfl, ?_⟩
  rw [List.eraseP_append_right _ (fun b hb => by simpa using hbefore b hb),
    List.eraseP_cons_of_pos hx]

/-- The end of a task is a step, or there is no such task. -/
theorem Steps.of_finish (id : TaskId) (p : Pool α) :
    Steps p ((p.finish id).2.map event) (p.finish id).1 := by
  unfold finish
  cases h : p.finish? id with
  | none => exact .refl p
  | some x =>
    obtain ⟨q, es⟩ := x
    unfold finish? at h
    split at h
    · cases h
    · next r hr =>
      obtain ⟨before, after, hrun, herase⟩ := exists_of_find?_eq_some hr
      dsimp only at h
      rw [herase] at h
      split at h
      · next output ho =>
        cases h
        exact .single (.finish hrun ho)
      · next ho =>
        cases h
        exact .single (.fail hrun ho)

/-- Letting a pool settle is one step after the other. -/
theorem Steps.of_settle (m : Moment) (p : Pool α) :
    Steps p ((p.settle m).2.map event) (p.settle m).1 := by
  fun_induction settle m p with
  | case1 m p h => exact .refl p
  | case2 m p q es h r fs hr ih =>
    obtain ⟨k, hk⟩ := exists_move_of_step? h
    rw [hr] at ih
    rw [List.map_append]
    exact (Chain.single (.of_perform? hk)).trans ih

/-- Closing a pool is a step, unless it is closed already. -/
theorem Steps.of_close (p : Pool α) : Steps p (p.close.2.map event) p.close.1 := by
  unfold Pool.close
  split
  · exact .refl p
  · next h => exact .single (.close (by simpa using h))

/-- Handing in a task is a step. -/
theorem Step.of_submit {p : Pool α} (m : Moment) (s : Submission α) (held : p.held = true) :
    Step p (asked s :: (p.submit m s).2.map event) (p.submit m s).1 := by
  unfold Pool.submit
  split
  · next h => exact .turnAway m s h
  · next h => exact .submit s held (by simpa using h)

end Workforce.Pool
