import Workforce.Job.Log
import Workforce.Log.Filter
/-!
# Telemetry

Besides the log a job may be exported: as spans, one for each task that is over, and as metrics,
which count batches, tasks and values.

## Main definitions

* `Workforce.ExportedSpan` — the span of a task.
* `Workforce.Metric` — something that was counted.
* `Workforce.Telemetry` — all that is exported.
* `Workforce.JobRun.telemetry` — what is exported of a job.

## Implementation notes

The span of a task is over when the task has ended or has been discarded. What still runs when a job
returns is not exported.
-/

namespace Workforce

/-- The span of a task. -/
structure ExportedSpan where
  traceId : String
  /-- The texts of the notes that were written in it. -/
  events : List String
deriving DecidableEq

namespace ExportedSpan

/-- All spans are the spans of tasks. -/
def name : String := "task"

/-- Spans begin and end inside the program. -/
def kind : String := "Internal"

/-- Nothing is said about how the tasks went. -/
def status : String := "Unset"

end ExportedSpan

/-- How a metric counts. -/
inductive Metric.Reading where
  /-- A sum that never goes down. -/
  | sum (value : Nat)
  /-- A distribution of so many measurements. -/
  | distribution (count : Nat)
deriving DecidableEq

/-- Something that was counted, from the start of the program on. -/
structure Metric where
  name : String
  description : String
  unit : String := ""
  reading : Metric.Reading
deriving DecidableEq

/-- All that is exported. -/
structure Telemetry where
  spans : List ExportedSpan := []
  metrics : List Metric := []

/-- The program that exports, told with everything that is exported. -/
def Telemetry.service (t : Telemetry) : List (String × String) :=
  if t.spans.isEmpty && t.metrics.isEmpty then []
  else [("service.name", "taskfan-runner"), ("service.version", "0.1.0")]

namespace JobRun

/-- The tasks that have ended. -/
def endedTasks (r : JobRun) : List (Task Nat) :=
  (eventsOf r.phases).filterMap fun | .ended t => some t | _ => none

/-- The tasks that were discarded. -/
def discardedTasks (r : JobRun) : List (Task Nat) :=
  (eventsOf r.phases).filterMap fun | .discarded t => some t | _ => none

/-- The span of a task, if it has one; a task that has ended was started and noted. -/
def exportedSpan? (filter : LogFilter) (ran : Bool) (t : Task Nat) : Option ExportedSpan :=
  t.trace.map fun id =>
    let noted := if ran then (Event.record? 0 (.started t)).bind filter.record? else none
    ⟨id, noted.toList.map (·.note.text)⟩

/-- The spans that are exported, if the filter lets spans through. -/
def exportedSpans (filter : LogFilter) (r : JobRun) : List ExportedSpan :=
  if filter.spans then
    r.endedTasks.filterMap (exportedSpan? filter true) ++
      r.discardedTasks.filterMap (exportedSpan? filter false)
  else []

/-- The metrics that are exported. Tasks are counted when there is one to count, batches and values
when the job has not failed. -/
def metrics (r : JobRun) : List Metric :=
  let tasks := r.endedTasks.length
  let executed : List Metric :=
    if tasks = 0 then [] else [{
      name := "tasks_executed"
      description := "Tasks executed by pool workers"
      reading := .sum tasks }]
  match r.result with
  | .error _ => executed
  | .ok values => executed ++ [
      { name := "batches"
        description := "Batches run through the worker pool"
        reading := .sum 1 },
      { name := "batch_duration"
        description := "End-to-end batch duration"
        unit := "ms"
        reading := .distribution 1 },
      { name := "values_collected"
        description := "Values returned from batches (absent markers excluded)"
        reading := .sum values.length }]

/-- What is exported of a job. -/
def telemetry (filter : LogFilter) (r : JobRun) : Telemetry :=
  ⟨r.exportedSpans filter, r.metrics⟩

end JobRun

end Workforce
