import Workforce.Settings.CommandLine
import Workforce.Settings.Environment
import Workforce.Job.Config
/-!
# Resolving settings

The value of a setting is the one given on the command line; else that of its variable in the
environment, where an empty value counts; else its fallback, if it has one. A configuration must
then have at least one worker, a submit timeout that is not zero, and a trace id that is not empty.

## Main definitions

* `Workforce.Options` — all settings with their values.
* `Workforce.readOptions` — the options that a command line and an environment give.
* `Workforce.ConfigError` — why options make no configuration.
* `Workforce.Options.config` — the configuration made from options.
-/

namespace Workforce

namespace Given

/-- The setting has a value. -/
def has (s : Setting) (given : Given) : Bool := given.any (·.1 == s)

/-- The number that a setting has as its value. -/
def number? (s : Setting) (given : Given) : Option Nat :=
  match given.lookup s with
  | some (.number n) => some n
  | _ => none

/-- The text that a setting has as its value. -/
def text? (s : Setting) (given : Given) : Option String :=
  match given.lookup s with
  | some (.text t) => some t
  | _ => none

/-- A setting without a value takes that of its variable, if this is set. -/
def complete (env : Environment) (s : Setting) (given : Given) : Except UsageError Given :=
  if given.has s then .ok given
  else
    match env.get? s.variableName with
    | none => .ok given
    | some raw => given.add s raw

/-- The settings without a value take those of their variables, one after the other. -/
def completeAll (env : Environment) (given : Given) : Except UsageError Given :=
  Setting.all.foldlM (fun g s => complete env s g) given

end Given

/-- All settings with their values. -/
structure Options where
  numWorkers : Option Nat
  batchItems : Nat
  taskDelay : Nat
  submitTimeout : Option Nat
  skipEvery : Nat
  traceId : Option String
deriving DecidableEq

/-- The options made from given settings and fallbacks. -/
def Given.options (given : Given) : Options :=
  let number (s : Setting) : Nat := ((given.number? s).or s.fallback?).getD 0
  { numWorkers := given.number? .numWorkers
    batchItems := number .batchItems
    taskDelay := number .taskDelay
    submitTimeout := given.number? .submitTimeout
    skipEvery := number .skipEvery
    traceId := given.text? .traceId }

/-- The options that a command line and an environment give. -/
def readOptions (arguments : List RawText) (env : Environment) : Except Stop Options := do
  let given ← readCommandLine arguments
  let given ← (given.completeAll env).mapError .error
  return given.options

/-- Why options make no configuration. -/
inductive ConfigError where
  | noWorkers
  | emptyTimeout
  | emptyTraceId
deriving DecidableEq

/-- The sentence that reports the error. -/
def ConfigError.message : ConfigError → String
  | noWorkers => "NUM_WORKERS must be greater than 0"
  | emptyTimeout => "SUBMIT_TIMEOUT_MS must be greater than 0 when set"
  | emptyTraceId => "TRACE_ID must not be empty when set"

/-- The configuration made from options, on a machine with so many processors: there is a worker
for each of them unless the options say otherwise. -/
def Options.config (processors : Nat) (o : Options) : Except ConfigError JobConfig :=
  let numWorkers := o.numWorkers.getD processors
  if numWorkers = 0 then .error .noWorkers
  else if o.submitTimeout = some 0 then .error .emptyTimeout
  else if o.traceId = some "" then .error .emptyTraceId
  else .ok ⟨numWorkers, o.batchItems, o.taskDelay, o.submitTimeout, o.skipEvery, o.traceId⟩

end Workforce
