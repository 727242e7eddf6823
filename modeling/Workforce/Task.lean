import Workforce.Text.Description
/-!
# Tasks

A task is a unit of work that a worker runs to its end: it may produce a value, report that it
has nothing to say (the *absent marker*), or panic. The library never looks into values, so
they are of an arbitrary type `α`.

## Main definitions

* `Workforce.TaskId` — the name of a task: the call that handed it in and, in a batch, its index.
* `Workforce.Outcome` — how a task ends.
* `Workforce.Task` — a task with its running time, its outcome and what discarding it does.
* `Workforce.Run` — a task on a worker, with the time at which it will end.

## Implementation notes

A running time of `none` belongs to a task that runs until it is told to end. A *frail* task is
one whose discard, before it ever ran, panics.
-/

namespace Workforce

/-- The name of a task: the number of the call that handed it in and, for a task of a batch,
its index in the batch. -/
structure TaskId where
  call : Nat
  index : Option Nat
deriving DecidableEq

namespace TaskId

/-- The written name: the call's number, followed in a batch by a point and the index. -/
def text (i : TaskId) : String :=
  match i.index with
  | none => toString i.call
  | some k => toString i.call ++ "." ++ toString k

/-- Names are ordered by call, then by index. -/
def before (i j : TaskId) : Bool :=
  i.call < j.call ||
    (i.call == j.call &&
      match i.index, j.index with
      | none, _ => true
      | some _, none => false
      | some a, some b => a ≤ b)

end TaskId

/-- How a task ends: with a value, with the absent marker, or in a panic. -/
inductive Outcome (α : Type) where
  | value (v : α)
  | absent
  | panic
deriving DecidableEq

/-- What a task hands to the results queue when it ends; a panic hands over nothing. The inner
`none` is the absent marker. -/
def Outcome.output? {α : Type} : Outcome α → Option (Option α)
  | .value v => some (some v)
  | .absent => some none
  | .panic => none

/-- A unit of work. -/
structure Task (α : Type) where
  id : TaskId
  /-- How long it runs; `none` means until it is told to end. -/
  duration : Option Nat
  outcome : Outcome α
  /-- Whether discarding the task before it ran panics. -/
  frail : Bool
  /-- The trace id of the span that the task runs in, if it is instrumented. -/
  trace : Option String
deriving DecidableEq

/-- A task's description of itself, which tells nothing about it. -/
def Task.describe {α : Type} (_ : Task α) : String :=
  Text.Description.inline { name := "Task", fields := [], more := true }

/-- A task on a worker. -/
structure Run (α : Type) where
  task : Task α
  /-- When the task ends; `none` for one that waits to be told. -/
  due : Option Nat

namespace Run

variable {α : Type}

/-- The run of a task that a worker takes at time `now`. -/
def start (now : Nat) (t : Task α) : Run α :=
  ⟨t, t.duration.map (now + ·)⟩

/-- The task's end is not ahead of time `now`. -/
def isDue (now : Nat) (r : Run α) : Bool :=
  r.due.any (· ≤ now)

/-- Runs are ended by end time, then by name. -/
def endsBefore (r s : Run α) : Bool :=
  match r.due, s.due with
  | some a, some b => a < b || (a == b && r.task.id.before s.task.id)
  | some _, none => true
  | none, some _ => false
  | none, none => r.task.id.before s.task.id

end Run

end Workforce
