import Workforce.Job.Run
import Workforce.Log.Record
/-!
# The log of a job

A job notes its start, every item that it processes, and its end, besides what its pool notes. A job
that panics has noted its start.

## Main definitions

* `Workforce.Event.record?` — the record of an event in a job, if it is noted.
* `Workforce.JobConfig.opening` — the record of a job's start.
* `Workforce.JobRun.records` — the records of what happened in a job, up to its end.
* `Workforce.JobConfig.records` — the records of a job, from its start on.
-/

namespace Workforce

/-- The values, as they are shown. -/
def showValues (values : List Nat) : String :=
  "[" ++ ", ".intercalate (values.map toString) ++ "]"

/-- The number of the item that a task processes. -/
def itemOf (t : Task Nat) : Nat := t.id.index.getD 0 + 1

/-- The record of an event in a job, if it is noted. -/
def Event.record? (worker : Nat) : Event Nat → Option Record
  | .started t =>
    some { note := ⟨.info, .job, "Process item " ++ toString (itemOf t)⟩, span := t.trace }
  | e => (e.note? (toString worker)).map fun note => { note := note }

/-- The record of a job's start. -/
def JobConfig.opening (rootId : String) (c : JobConfig) : Record where
  note := ⟨.info, .job, "Start job with " ++ toString c.batchItems ++ " items on " ++
    toString c.numWorkers ++ " workers"⟩
  trace := some rootId

namespace JobRun

/-- What happened in some phases. -/
def eventsOf (phases : List (Phase Nat)) : List (Event Nat) :=
  phases.flatMap fun p => p.entries.map Prod.snd

/-- The record of a job's end, if it has not failed. -/
def ending? (showTime : Nat → String) (r : JobRun) : Option Record :=
  match r.result with
  | .error _ => none
  | .ok values => some {
      note := ⟨.info, .job, "End job, " ++ toString values.length ++ " values in " ++
        showTime r.elapsed ++ ": " ++ showValues values⟩
      trace := some r.rootId }

/-- The records of what happened in a job, up to its end. What announces a request to shut down
stands before what follows from it. -/
def records (showTime : Nat → String) (announcement : List Record) (r : JobRun) : List Record :=
  let before := eventsOf r.before
  let numbered := ({} : Tally).number (eventsOf r.phases)
  let written (es : List (Nat × Event Nat)) : List Record :=
    es.filterMap fun (worker, e) => e.record? worker
  written (numbered.take before.length) ++
    (if r.onward.isSome then announcement else []) ++
    written (numbered.drop before.length) ++ (r.ending? showTime).toList

end JobRun

/-- The records of a job, from its start to its end or its panic. -/
def JobConfig.records (rootId : String) (showTime : Nat → String) (announcement : List Record)
    (c : JobConfig) : Except JobPanic JobRun → List Record
  | .error _ => [c.opening rootId]
  | .ok r => c.opening rootId :: r.records showTime announcement

end Workforce
