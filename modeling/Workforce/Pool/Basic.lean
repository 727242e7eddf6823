import Workforce.Event
/-!
# Pools of workers

A pool of `size` workers takes tasks from a queue and puts their outputs into a results queue.
Both queues are first come, first served and hold `2 * size` entries. Submissions wait in line
while the task queue is full, workers wait in line while the results queue is full, and receivers
wait in line while it is empty.

## Main definitions

* `Workforce.Pool` — the state of a pool, together with the calls that wait on it.
* `Workforce.Pool.make` — a new pool, or the reason why there is none.
* `Workforce.Pool.submit`, `Pool.receive`, `Pool.close`, `Pool.cancel`, `Pool.release`,
  `Pool.withdraw` — what callers do to a pool.
* `Workforce.Pool.finish` — the end of a running task.

## Main results

* `Workforce.Pool.load_of_finish?` — an end takes one task off the load.

## Implementation notes

Workers have no identity: a pool counts those that are idle, lists the runs of those that work
and lists the outputs of those that wait to publish. A worker in none of the three has exited.

A pool is in use as long as its handle is held or a call waits on it; after that it is *deserted*,
which closes its queue and tells publishers that nobody will receive.
-/

namespace Workforce

/-- What an operation may know besides the pool: the time, and whether the discard of a frail
task still panics (it does so once only). -/
structure Moment where
  now : Nat
  brittle : Bool
deriving DecidableEq

/-- Discarding the task panics. -/
def Moment.breaks {α : Type} (m : Moment) (t : Task α) : Bool :=
  m.brittle && t.frail

/-- The moment after some events: once a frail task has been discarded, none panics again. -/
def Moment.after {α : Type} (m : Moment) (es : List (Event α)) : Moment :=
  { m with brittle := m.brittle && !es.any Event.isFrailDiscard }

/-- A task on its way into the queue. -/
structure Submission (α : Type) where
  caller : Option Nat
  task : Task α

/-- Somebody who waits for outputs: for the next one, or (`drains`) for all up to the end. -/
structure Receiver where
  caller : Option Nat
  drains : Bool
deriving DecidableEq

/-- A pool of workers and the calls that wait on it. -/
structure Pool (α : Type) where
  /-- How many workers the pool was made with. -/
  size : Nat
  size_pos : 0 < size
  /-- How many workers the pool reports as alive. -/
  counted : Nat
  /-- How many workers wait for a task. -/
  idle : Nat
  /-- The tasks that workers run, in the order of their starts. -/
  running : List (Run α)
  /-- The outputs of workers that wait for room in the results queue, first come first. -/
  publishing : List (Option α)
  /-- The task queue. -/
  queue : List (Task α)
  /-- The results queue. -/
  results : List (Option α)
  /-- The submissions that wait for a place in the task queue, first come first. -/
  submitting : List (Submission α)
  /-- The receivers that wait for an output, first come first. -/
  receiving : List Receiver
  /-- The pool has been closed to new submissions. -/
  closed : Bool
  /-- The pool or its parent has been cancelled. -/
  cancelled : Bool
  /-- The pool follows the cancellation of the parent. -/
  child : Bool
  /-- The pool's handle is held by somebody. -/
  held : Bool

namespace Pool

variable {α : Type}

/-! ## Making a pool -/

/-- A pool with `size` idle workers. -/
def fresh (size : Nat) (size_pos : 0 < size) (child cancelled : Bool) : Pool α where
  size := size
  size_pos := size_pos
  counted := size
  idle := size
  running := []
  publishing := []
  queue := []
  results := []
  submitting := []
  receiving := []
  closed := false
  cancelled := cancelled
  child := child
  held := true

/-- Makes a pool of `size` workers, provided that there is at least one and that they have
something to run on (`hosted`). A missing worker is reported first. -/
def make (hosted : Bool) (size : Nat) (child cancelled : Bool) : Except PoolError (Pool α) :=
  if h : size = 0 then .error (.invalidSize size)
  else if hosted then .ok (fresh size (Nat.pos_of_ne_zero h) child cancelled)
  else .error .noExecutor

/-- What is noted when a pool has been made. -/
def opening (p : Pool α) : List (Event α) :=
  .poolStarted p.size :: List.replicate p.size .workerStarted

/-! ## Views -/

/-- How many entries each of the two queues holds at most. -/
def capacity (p : Pool α) : Nat := 2 * p.size

/-- How many workers have not exited. -/
def workers (p : Pool α) : Nat := p.idle + p.running.length + p.publishing.length

/-- Nobody holds the pool any more and no call waits on it. -/
def deserted (p : Pool α) : Bool := !p.held && p.submitting.isEmpty && p.receiving.isEmpty

/-- No further task can come into the queue, because nobody is left who could hand one in. A
submission that still waits keeps the queue open. -/
def sealed (p : Pool α) : Bool := p.submitting.isEmpty && (p.closed || p.deserted)

/-- The tasks that the pool holds and that have not come to their end. -/
def load (p : Pool α) : Nat := p.submitting.length + p.queue.length + p.running.length

/-! ## What callers do -/

/-- Closes the pool to new submissions; only the first time is noted. -/
def close (p : Pool α) : Pool α × List (Event α) :=
  if p.closed then (p, []) else ({ p with closed := true }, [.poolClosed])

/-- Tells the workers to stop between tasks. -/
def cancel (p : Pool α) : Pool α × List (Event α) :=
  ({ p with cancelled := true }, [.poolCancelled])

/-- The cancellation of the parent reaches the pools that follow it. -/
def parentCancelled (p : Pool α) : Pool α :=
  { p with cancelled := p.cancelled || p.child }

/-- The events of a refusal: the task is discarded and its caller told. -/
def refusal (m : Moment) (s : Submission α) : List (Event α) :=
  [.discarded s.task, .refused s.caller (m.breaks s.task)]

/-- Hands in a task. A closed pool refuses it at once; otherwise the submission joins the line. -/
def submit (m : Moment) (s : Submission α) (p : Pool α) : Pool α × List (Event α) :=
  if p.closed then (p, refusal m s) else ({ p with submitting := p.submitting ++ [s] }, [])

/-- A receiver joins the line. -/
def receive (r : Receiver) (p : Pool α) : Pool α :=
  { p with receiving := p.receiving ++ [r] }

/-- Gives up the handle. -/
def release (p : Pool α) : Pool α := { p with held := false }

/-- Gives up a call that waits on the pool: a submission discards its task, a receiver just
leaves the line. -/
def withdraw (call : Nat) (p : Pool α) : Pool α × List (Event α) :=
  ({ p with
      submitting := p.submitting.filter (·.caller != some call)
      receiving := p.receiving.filter (·.caller != some call) },
    (p.submitting.filter (·.caller == some call)).map (.discarded ·.task))

/-! ## Ends of tasks -/

/-- Ends the running task of that name, if there is one: the worker goes on to publish the
output or, after a panic, is idle again. -/
def finish? (id : TaskId) (p : Pool α) : Option (Pool α × List (Event α)) :=
  match p.running.find? (·.task.id == id) with
  | none => none
  | some r =>
    let rest := p.running.eraseP (·.task.id == id)
    match r.task.outcome.output? with
    | some output =>
      some ({ p with running := rest, publishing := p.publishing ++ [output] }, [.ended r.task])
    | none => some ({ p with running := rest, idle := p.idle + 1 }, [.ended r.task, .taskFailed])

/-- An end takes one task off the load. -/
theorem load_of_finish? {id : TaskId} {p q : Pool α} {es : List (Event α)}
    (h : p.finish? id = some (q, es)) : q.load + 1 = p.load := by
  unfold finish? at h
  split at h
  · cases h
  · next r hr =>
    have hmem : r ∈ p.running := List.mem_of_find?_eq_some hr
    have hid : (r.task.id == id) = true := by simpa using List.find?_some hr
    have hlen := List.length_eraseP_of_mem (p := fun r : Run α => r.task.id == id) hmem hid
    have hpos := List.length_pos_of_mem hmem
    dsimp only at h
    split at h <;> cases h <;> simp only [load] <;> omega

/-- Ends the running task of that name; a pool that does not run it stays as it is. -/
def finish (id : TaskId) (p : Pool α) : Pool α × List (Event α) :=
  (p.finish? id).getD (p, [])

/-- An end does not touch the handle. -/
@[simp] theorem held_finish (id : TaskId) (p : Pool α) : (p.finish id).1.held = p.held := by
  unfold finish
  cases h : p.finish? id with
  | none => rfl
  | some r =>
    unfold finish? at h
    split at h
    · cases h
    · dsimp only at h
      split at h <;> cases h <;> rfl

/-- An end adds no task. -/
theorem load_finish_le (id : TaskId) (p : Pool α) : (p.finish id).1.load ≤ p.load := by
  unfold finish
  cases h : p.finish? id with
  | none => exact Nat.le_refl _
  | some r =>
    obtain ⟨q, es⟩ := r
    have := load_of_finish? h
    simp only [Option.getD_some]
    omega

/-- The end of a task that runs takes it off the load. -/
theorem load_finish_lt {p : Pool α} {r : Run α} (h : r ∈ p.running) :
    (p.finish r.task.id).1.load < p.load := by
  unfold finish
  cases hf : p.finish? r.task.id with
  | none =>
    unfold finish? at hf
    split at hf
    · next hnone => exact absurd (List.find?_eq_none.1 hnone r h) (by simp)
    · split at hf <;> cases hf
  | some x =>
    obtain ⟨q, es⟩ := x
    have := load_of_finish? hf
    simp only [Option.getD_some]
    omega

end Pool

end Workforce
