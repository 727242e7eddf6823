import Workforce.Event
/-!
# Notes

What happens inside pools and batches is noted in the log, each note with a level, the part of the
program that it comes from, and a text.

## Main definitions

* `Workforce.Level` — the five levels, from errors to traces.
* `Workforce.Origin` — the parts of the program that write notes, with the names under which log
  filters know them.
* `Workforce.Note` — a note.
* `Workforce.Event.note?` — the note of an event, if it is noted.
-/

namespace Workforce

/-- How grave a note is. -/
inductive Level where
  | error
  | warn
  | info
  | debug
  | trace
deriving DecidableEq

namespace Level

/-- The level's name. -/
def name : Level → String
  | error => "ERROR"
  | warn => "WARN"
  | info => "INFO"
  | debug => "DEBUG"
  | trace => "TRACE"

/-- Levels from the gravest, 1, to the most verbose, 5. -/
def verbosity : Level → Nat
  | error => 1
  | warn => 2
  | info => 3
  | debug => 4
  | trace => 5

end Level

/-- The part of the program that a note or a span comes from. -/
inductive Origin where
  | pool
  | worker
  | batch
  | span
  | job
  | program
deriving DecidableEq

/-- The name of the part in log filters. -/
def Origin.target : Origin → String
  | pool => "taskfan::pool::manager"
  | worker => "taskfan::pool::worker"
  | batch => "taskfan::batch"
  | span => "taskfan::trace"
  | job => "taskfan_runner::job"
  | program => "taskfan_runner"

/-- A note in the log. -/
structure Note where
  level : Level
  origin : Origin
  text : String
deriving DecidableEq

/-- The note's level and text on one line. -/
def Note.line (n : Note) : String := n.level.name ++ " " ++ n.text

/-- The note of an event, if it is noted. Notes of workers name the worker as given. -/
def Event.note? {α : Type} (worker : String) : Event α → Option Note
  | poolStarted size =>
    some ⟨.debug, .pool, "Started worker pool with " ++ toString size ++ " workers"⟩
  | workerStarted => some ⟨.trace, .worker, "Worker " ++ worker ++ " started"⟩
  | workerStopped => some ⟨.trace, .worker, "Worker " ++ worker ++ " stopped"⟩
  | sawCancellation =>
    some ⟨.debug, .worker, "Worker " ++ worker ++ " observed cancellation"⟩
  | taskFailed => some ⟨.warn, .worker, "Worker " ++ worker ++ " task failed"⟩
  | receiverGone =>
    some ⟨.debug, .worker, "Worker " ++ worker ++ " exiting, results receiver dropped"⟩
  | workerAborted => some ⟨.error, .pool, "Worker terminated abnormally"⟩
  | poolClosed => some ⟨.debug, .pool, "Worker pool closed to new submissions"⟩
  | poolCancelled => some ⟨.debug, .pool, "Cancelling worker pool"⟩
  | resultsClosed => some ⟨.debug, .pool, "All workers exited, results closed"⟩
  | deadlineReached n =>
    some ⟨.debug, .batch, "Admission deadline reached after " ++ toString n ++ " tasks"⟩
  | admissionCancelled n =>
    some ⟨.debug, .batch, "Admission cancelled after " ++ toString n ++ " tasks"⟩
  | batchFinished n total collected =>
    some ⟨.debug, .batch, "Batch finished: " ++ toString n ++ "/" ++ toString total ++
      " tasks admitted, " ++ toString collected ++ " values collected"⟩
  | batchDropped =>
    some ⟨.debug, .batch, "Batch dropped before completion, stopping its pool"⟩
  | _ => none

end Workforce
