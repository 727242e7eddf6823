import Workforce.Task
import Workforce.Error
/-!
# Events

Whatever a pool or a batch does is reported as a sequence of events: what became of tasks and
outputs, what calls were answered, and what the workers, the pool and the submitter noted.
Reports, logs and statements about whole runs are all read off these sequences.

## Main definitions

* `Workforce.Answer` — what a finished call returns.
* `Workforce.Event` — one thing that happened.
* `Workforce.Event.answer?` — the call that an event finishes, with its answer.
-/

namespace Workforce

/-- What a finished call returns. -/
inductive Answer (α : Type) where
  /-- A submission was admitted or refused. -/
  | submitted (accepted : Bool)
  /-- A refused submission, or a batch that could not begin, panicked when it discarded a task. -/
  | panicked
  /-- A receive call got an output: a value or the absent marker. -/
  | received (output : Option α)
  /-- A receive call found the results closed. -/
  | closed
  /-- A shutdown is complete. -/
  | terminated
  /-- A batch is complete, or failed. -/
  | batch (result : Except PoolError (List α))

/-- One thing that happened to a pool or in a batch. Where a call is concerned, `caller` is its
number; it is `none` for the submitter and the collector of a batch. -/
inductive Event (α : Type) where
  /-- A pool was made with this many workers. -/
  | poolStarted (size : Nat)
  /-- A worker began. -/
  | workerStarted
  /-- A submission got its place in the queue. -/
  | admitted (caller : Option Nat) (task : Task α)
  /-- A submission was refused; its task is discarded, which may have panicked. -/
  | refused (caller : Option Nat) (panicked : Bool)
  /-- A worker took a task from the queue. -/
  | started (task : Task α)
  /-- A running task came to its end. -/
  | ended (task : Task α)
  /-- A task was discarded without having run. -/
  | discarded (task : Task α)
  /-- The task that just ended panicked. -/
  | taskFailed
  /-- A worker put an output into the results queue. -/
  | published (output : Option α)
  /-- An output was received: by a receive call, or by a call that reads the results to
  their end (`drains`). -/
  | received (caller : Option Nat) (drains : Bool) (output : Option α)
  /-- A receiver found the results closed. -/
  | toldClosed (caller : Option Nat) (drains : Bool)
  /-- An idle worker noticed the cancellation. -/
  | sawCancellation
  /-- A worker with an output found nobody left to receive it. -/
  | receiverGone
  /-- A worker exited. -/
  | workerStopped
  /-- A worker panicked as it exited. -/
  | workerAborted
  /-- All workers have exited. -/
  | resultsClosed
  /-- The pool was closed to new submissions, for the first time. -/
  | poolClosed
  /-- The pool was told to cancel. -/
  | poolCancelled
  /-- A submitter stopped at its deadline, having had this many tasks admitted. -/
  | deadlineReached (admitted : Nat)
  /-- A submitter stopped at a cancellation, having had this many tasks admitted. -/
  | admissionCancelled (admitted : Nat)
  /-- A batch of `total` tasks is complete. -/
  | batchFinished (admitted total collected : Nat)
  /-- A batch was given up before it was complete. -/
  | batchDropped
  /-- A batch call returned. -/
  | batchAnswered (call : Nat) (answer : Answer α)

namespace Event

variable {α : Type}

/-- The call that the event finishes, with its answer. -/
def answer? : Event α → Option (Nat × Answer α)
  | admitted caller _ => caller.map (·, .submitted true)
  | refused caller panicked =>
    caller.map (·, if panicked then .panicked else .submitted false)
  | received caller false output => caller.map (·, .received output)
  | toldClosed caller drains => caller.map (·, if drains then .terminated else .closed)
  | batchAnswered call answer => some (call, answer)
  | _ => none

/-- The event is the discard of a frail task. -/
def isFrailDiscard : Event α → Bool
  | discarded task => task.frail
  | _ => false

end Event

end Workforce
