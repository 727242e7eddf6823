import Workforce.Batch
import Workforce.Job.Config
import Workforce.Trace.Context
/-!
# The tasks of a job

A job has a task for each item. The task takes as long as an item takes, runs in the span of a child
trace context of the run, and produces the number of its item unless the item is skipped. All tasks
are gathered in one list, and a job whose tasks do not fit into a list panics.

## Main definitions

* `Workforce.JobPanic` — why a job panics.
* `Workforce.JobConfig.root` — the trace context of a run.
* `Workforce.JobConfig.tasks` — the tasks, in the order of the items.
* `Workforce.JobConfig.Fits` — the tasks fit into a list.
* `Workforce.JobConfig.buildTasks` — the list of the tasks, or the panic.
* `Workforce.JobConfig.admission` — what limits the admission of the tasks.

## Implementation notes

A list takes up no more bytes than a signed word of 64 bits counts. How much memory the machine has
is not asked: there is always room for a list that is not too long.
-/

namespace Workforce

/-- Why a job panics. -/
inductive JobPanic where
  /-- The list of its tasks would take up more bytes than any list can. -/
  | capacityOverflow
deriving DecidableEq

/-- The sentence that reports the panic. -/
def JobPanic.message : JobPanic → String
  | capacityOverflow => "capacity overflow"

namespace JobConfig

/-- The trace context of a run. If the configuration names none, its id is made from a number drawn
at random. -/
def root (seed : UInt64) (c : JobConfig) : TraceContext :=
  match c.traceId with
  | some id => .withId id
  | none => .root seed

/-- The item produces no value. -/
def skips (c : JobConfig) (item : Nat) : Bool :=
  0 < c.skipEvery && item % c.skipEvery == 0

/-- The task of the item after so many others, in the span of a trace context. -/
def task (c : JobConfig) (index : Nat) (ctx : TraceContext) : Task Nat where
  id := ⟨0, some index⟩
  duration := some c.taskDelay
  outcome := if c.skips (index + 1) then .absent else .value (index + 1)
  frail := false
  trace := some ctx.id

/-- The tasks that fill the list, in the order of the items; item `n` runs in the span of the `n`-th
child. -/
def tasks (root : TraceContext) (c : JobConfig) : List (Task Nat) :=
  (root.children c.batchItems).1.zipIdx.map fun (ctx, index) => c.task index ctx

/-- How many bytes a list can take up. -/
def listBytes : Nat := Nat.pow 2 63 - 1

/-- How many bytes a task takes up in a list: two words, which point to what it does. -/
def taskBytes : Nat := 16

/-- The tasks fit into a list. -/
def Fits (c : JobConfig) : Prop := taskBytes * c.batchItems ≤ listBytes

instance (c : JobConfig) : Decidable c.Fits := inferInstanceAs (Decidable (_ ≤ _))

/-- The list of the tasks. The room for all of them is asked for before the first one is made. -/
def buildTasks (root : TraceContext) (c : JobConfig) : Except JobPanic (List (Task Nat)) :=
  if c.Fits then .ok (c.tasks root) else .error .capacityOverflow

/-- Tasks are admitted until the submit timeout is over; without one, until the parent is
cancelled. -/
def admission (c : JobConfig) : Admission :=
  match c.submitTimeout with
  | some ms => .within (ms / 1000) (ms % 1000 * 1000000)
  | none => .untilCancelled

end JobConfig

end Workforce
