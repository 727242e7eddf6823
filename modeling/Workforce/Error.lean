import Workforce.Text.Quoted
import Workforce.Text.Description
/-!
# What can go wrong with a pool

A refused submission is not an error, and neither is a task that fails: the first is an answer
of the pool, the second the task's own business. Errors arise when a pool is made and when the
submitter of a batch breaks down.

## Main definitions

* `Workforce.PoolError` — the three causes.
* `Workforce.PoolError.message` — the sentence shown to a user.
* `Workforce.PoolError.inspect` — the form shown to a developer, in which the context is quoted.
* `Workforce.PoolError.copy` — the same error with a context of its own.
-/

namespace Workforce

/-- The ways in which making a pool or running a batch fails. -/
inductive PoolError where
  /-- A pool was asked for with this many workers, which is none. -/
  | invalidSize (size : Nat)
  /-- There is nothing to run workers on. -/
  | noExecutor
  /-- The submitter of a batch broke down. -/
  | submitter (context : String)
deriving DecidableEq

namespace PoolError

/-- The sentence that reports the error. -/
def message : PoolError → String
  | invalidSize size => "Invalid pool size: " ++ toString size ++ " (must be at least 1)"
  | noExecutor => "No Tokio runtime available to spawn workers on"
  | submitter context => "Submitter error: " ++ context

/-- The error as it is described to a developer. -/
def inspect (e : PoolError) : String :=
  Text.Description.inline <| match e with
    | invalidSize size =>
      { name := "InvalidPoolSize", fields := [("size", .plain (toString size))] }
    | noExecutor => { name := "RuntimeUnavailable", fields := [] }
    | submitter context =>
      { name := "Submitter", fields := [("context", .plain (Text.quote context))] }

/-- The error made anew: the same cause, with a copy of what is told about it. -/
def copy : PoolError → PoolError
  | invalidSize size => invalidSize size
  | noExecutor => noExecutor
  | submitter context => submitter (String.ofList context.toList)

/-- The context of a submitter that broke down because a task's discard panicked. -/
def discardPanic : PoolError :=
  submitter "task # panicked with message \"dropped\""

end PoolError

end Workforce
