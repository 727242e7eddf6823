import Workforce.Scene.Report
import Workforce.Job.Tasks
/-!
# Running a job

A job runs its tasks as one batch in a scene of its own, whose parent stands for the request to
shut down. A batch without a submit timeout follows the parent: it stops admitting tasks, and
returns what the tasks produced that had begun. A job with a submit timeout gives its batch up when
the request comes and fails. A job whose tasks do not fit into a list panics before it has a batch.

## Main definitions

* `Workforce.JobError` — why a job fails.
* `Workforce.JobRun` — what happened in a job and what came of it.
* `Workforce.JobConfig.carryOut` — a job from when it has its tasks to its return.
* `Workforce.JobConfig.run` — a job from its beginning to its return or its panic.

## Implementation notes

When the request to shut down comes is told by a condition on scenes, which is asked before the
batch begins and whenever the scene has settled. The request comes when the condition first holds.
-/

namespace Workforce

/-- Why a job fails. -/
inductive JobError where
  /-- It was told to shut down and gave its batch up. -/
  | interrupted (rootId : String)
  /-- The batch failed. -/
  | batch (e : PoolError)
deriving DecidableEq

/-- The sentence that reports the error. -/
def JobError.message : JobError → String
  | interrupted rootId => "job " ++ rootId ++ " interrupted"
  | batch e => e.message

/-- What happened in a job and what came of it. -/
structure JobRun where
  /-- The trace id of the run. -/
  rootId : String
  /-- What happened before the request to shut down. -/
  before : List (Phase Nat)
  /-- What happened from the request on, if there was one while the batch ran. -/
  onward : Option (List (Phase Nat))
  /-- The values, in the order in which they were collected. -/
  result : Except JobError (List Nat)
  /-- How long the job took, in milliseconds. -/
  elapsed : Nat

/-- All that happened. -/
def JobRun.phases (r : JobRun) : List (Phase Nat) := r.before ++ r.onward.getD []

namespace JobConfig

/-- The number of the call that runs the batch. -/
def call : Nat := 0

/-- The request to shut down arrives while the batch runs. -/
def shutDown (c : JobConfig) (s : Scene Nat) : Scene Nat × Phase Nat :=
  let r := s.cancelParent
  if c.submitTimeout.isSome then
    let t := r.1.abandon call
    Scene.phase (t.1, r.2 ++ t.2)
  else Scene.phase r

/-- The result of a job, by what its batch returned. -/
def resultOf (rootId : String) (phases : List (Phase Nat)) : Except JobError (List Nat) :=
  match (phases.flatMap Phase.answers).lookup call with
  | some (.batch (.ok values)) => .ok values
  | some (.batch (.error e)) => .error (.batch e)
  | _ => .error (.interrupted rootId)

/-- Every deadline that fits the clock is waited for. -/
def patience : Nat := Admission.clockLimit

/-- Runs the batch of a job in a scene that has been told to shut down or not. -/
def runBatch (root : TraceContext) (interrupt : Scene Nat → Bool) (c : JobConfig)
    (tasks : List (Task Nat)) (s : Scene Nat) : JobRun :=
  let done (s : Scene Nat) : Bool := s.pendingCalls.isEmpty
  let stop (s : Scene Nat) : Bool := !s.parentCancelled && interrupt s
  let begun := Scene.phase (s.newBatch call c.numWorkers tasks c.admission)
  let first := begun.1.runUntil patience fun s => done s || stop s
  let before := begun.2 :: first.2
  if !done first.1 && stop first.1 then
    let cut := c.shutDown first.1
    let last := cut.1.runUntil patience done
    let onward := cut.2 :: last.2
    ⟨root.id, before, some onward, resultOf root.id (before ++ onward), last.1.now⟩
  else ⟨root.id, before, none, resultOf root.id before, first.1.now⟩

/-- Carries out a job that has its tasks. If it has a submit timeout and has been told to shut down
before, it does not begin its batch. -/
def carryOut (root : TraceContext) (interrupt : Scene Nat → Bool) (c : JobConfig)
    (tasks : List (Task Nat)) : JobRun :=
  let s : Scene Nat := { parentCancelled := interrupt {} }
  if s.parentCancelled && c.submitTimeout.isSome then
    ⟨root.id, [], none, .error (.interrupted root.id), 0⟩
  else c.runBatch root interrupt tasks s

/-- Runs a job. It builds its tasks first, whether it has been told to shut down or not. -/
def run (seed : UInt64) (interrupt : Scene Nat → Bool) (c : JobConfig) : Except JobPanic JobRun :=
  (c.buildTasks (c.root seed)).map (c.carryOut (c.root seed) interrupt)

/-- The item is being processed. -/
def processes (item : Nat) (s : Scene Nat) : Bool :=
  s.runs.any fun r => r.task.id.index.any (· + 1 == item)

end JobConfig

end Workforce
