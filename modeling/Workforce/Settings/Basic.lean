/-!
# Settings

The settings of a job, each with a flag on the command line and a variable in the environment.

## Main definitions

* `Workforce.Setting` — the six settings.
* `Workforce.Setting.flag`, `Workforce.Setting.variableName` — their two names.
* `Workforce.Setting.summary`, `Workforce.Setting.details` — what the help says about them.
* `Workforce.Setting.fallback?` — the value of a setting that is not given.
-/

namespace Workforce

/-- What can be set about a job. -/
inductive Setting where
  | numWorkers
  | batchItems
  | taskDelay
  | submitTimeout
  | skipEvery
  | traceId
deriving DecidableEq

namespace Setting

/-- All settings, in the order in which they are listed and looked up. -/
def all : List Setting :=
  [numWorkers, batchItems, taskDelay, submitTimeout, skipEvery, traceId]

/-- The name on the command line, without dashes. -/
def flag : Setting → String
  | numWorkers => "num-workers"
  | batchItems => "batch-items"
  | taskDelay => "task-delay-ms"
  | submitTimeout => "submit-timeout-ms"
  | skipEvery => "skip-every"
  | traceId => "trace-id"

/-- The name in the environment, which also stands for the value in the help. -/
def variableName : Setting → String
  | numWorkers => "NUM_WORKERS"
  | batchItems => "BATCH_ITEMS"
  | taskDelay => "TASK_DELAY_MS"
  | submitTimeout => "SUBMIT_TIMEOUT_MS"
  | skipEvery => "SKIP_EVERY"
  | traceId => "TRACE_ID"

/-- The flag with its value, as messages show it. -/
def usage (s : Setting) : String := "--" ++ s.flag ++ " <" ++ s.variableName ++ ">"

/-- What the setting is about, in a sentence without its full stop. -/
def summary : Setting → String
  | numWorkers => "Number of workers processing items concurrently"
  | batchItems => "Number of items the job fans out, one task per item"
  | taskDelay => "Simulated work per item, in milliseconds"
  | submitTimeout => "Stop admitting new items once this many milliseconds have passed"
  | skipEvery => "Every n-th item produces no value (0 disables skipping)"
  | traceId => "Trace id for the run. A random one is generated when unset"

/-- What else there is to say about the setting. -/
def details : Setting → List String
  | numWorkers =>
    ["Defaults to the number of logical CPUs. Batches smaller than this use one worker per item."]
  | submitTimeout =>
    ["Items admitted before the deadline still run to completion. When unset, every item is " ++
      "admitted."]
  | _ => []

/-- The value of a setting that is not given, if it has one. -/
def fallback? : Setting → Option Nat
  | batchItems => some 10
  | taskDelay => some 1000
  | skipEvery => some 0
  | _ => none

end Setting

end Workforce
