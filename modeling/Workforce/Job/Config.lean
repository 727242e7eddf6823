import Workforce.Text.Description
import Workforce.Text.Quoted
import Workforce.Text.Timespan
/-!
# Configurations

## Main definitions

* `Workforce.JobConfig` — what a job is to do and how.
* `Workforce.JobConfig.description` — the configuration as it is shown.
-/

namespace Workforce

/-- What a job is to do and how. Times are in milliseconds. -/
structure JobConfig where
  /-- How many workers process items at once, at most. -/
  numWorkers : Nat
  /-- How many items there are, numbered from one. -/
  batchItems : Nat
  /-- How long an item takes. -/
  taskDelay : Nat
  /-- How long items are admitted, if not until all are. -/
  submitTimeout : Option Nat
  /-- Items whose number is a multiple of this produce no value; zero for no such items. -/
  skipEvery : Nat
  /-- The trace id of the run, if it is not to be a random one. -/
  traceId : Option String
deriving DecidableEq

/-- The configuration as it is shown. -/
def JobConfig.description (c : JobConfig) : Text.Description where
  name := "RunnerConfig"
  fields := [
    ("num_workers", .plain (toString c.numWorkers)),
    ("batch_items", .plain (toString c.batchItems)),
    ("task_delay", .plain (Text.timespan c.taskDelay)),
    ("submit_timeout", .ofOption (c.submitTimeout.map Text.timespan)),
    ("skip_every", .plain (toString c.skipEvery)),
    ("trace_id", .ofOption (c.traceId.map Text.quote))]

end Workforce
