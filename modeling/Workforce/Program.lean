import Workforce.Settings.Help
import Workforce.Settings.Resolve
import Workforce.Settings.EnvFile
import Workforce.Log.Telemetry
/-!
# The program

The program reads its settings, runs the job and says in its log what it does. It can be told by a
signal to shut down. A job that panics takes the program with it.

## Main definitions

* `Workforce.Invocation` — with what the program is called.
* `Workforce.Signal` — a signal to shut down.
* `Workforce.Session` — what the program says and does.
* `Workforce.Invocation.session` — the program from its call to its exit.
-/

namespace Workforce

/-- With what the program is called. -/
structure Invocation where
  /-- The command line after the program's name. -/
  arguments : List RawText
  environment : Environment
  /-- The environment file, if there is one. -/
  envFile : Option RawText
  /-- How many processors the machine has. -/
  processors : Nat
  /-- A number drawn at random. -/
  seed : UInt64

/-- A signal to shut down. -/
inductive Signal where
  | interrupt
  | terminate
deriving DecidableEq

/-- What the program says and does. -/
structure Session where
  exitCode : Nat
  /-- What is written apart from the log. -/
  output : String := ""
  /-- What is written about an error. -/
  complaint : String := ""
  /-- The log, as the filter lets it through. -/
  log : List Record := []
  telemetry : Telemetry := {}
  /-- The trace id of the run, if the job was run. -/
  rootId : Option String := none

/-- A note of the program itself. -/
def Record.ofProgram (level : Level) (text : String) (trace : Option String) : Record where
  note := ⟨level, .program, text⟩
  trace := trace

namespace Signal

/-- What the program notes when the signal comes. -/
def notice : Signal → String
  | interrupt => "Received Ctrl+C signal"
  | terminate => "Received SIGTERM signal"

/-- The records of a signal's arrival. -/
def announcement (s : Signal) : List Record := [
  .ofProgram .info s.notice none,
  .ofProgram .info "Shutdown signal received, stopping the job..." none]

end Signal

/-- The log filter that the environment asks for. One that cannot be read counts as none. -/
def Environment.logFilter (env : Environment) : LogFilter :=
  ((env.text? LogFilter.variableName).bind LogFilter.read).getD .standard

/-- What the program notes when the job has returned. -/
def JobRun.verdict (showTime : Nat → String) (r : JobRun) : Record :=
  match r.result with
  | .ok values => .ofProgram .info ("Job finished with " ++ toString values.length ++
      " values in " ++ showTime r.elapsed) (some r.rootId)
  | .error e => .ofProgram .error ("Job failed: " ++ e.message) none

/-- The session that ends before there is a configuration. -/
def Stop.session (env : Environment) : Stop → Session
  | .help full => { exitCode := 0, output := if full then Help.full env else Help.short env }
  | .version => { exitCode := 0, output := Help.version }
  | .error e => { exitCode := 2, complaint := e.headline }

/-- What is written about a panic. It begins on a new line. -/
def JobPanic.complaint (p : JobPanic) : String := "\nthread 'main' panicked:\n" ++ p.message

/-- The session of a job. The signal comes when the condition first holds. If the job panics the
program ends with it. -/
def JobConfig.session (filter : LogFilter) (seed : UInt64) (showTime : Nat → String)
    (signal : Option (Signal × (Scene Nat → Bool))) (c : JobConfig) : Session :=
  let rootId := (c.root seed).id
  let run := c.run seed fun s => signal.any fun t => t.2 s
  let announcement := (signal.map fun t => t.1.announcement).getD []
  let start := Record.ofProgram .info
    ("Starting taskfan runner with full config: " ++ c.description.block) none
  let log := start :: c.records rootId showTime announcement run
  match run with
  | .error p =>
    { exitCode := 101
      complaint := p.complaint
      log := log.filterMap filter.record?
      rootId := some rootId }
  | .ok r =>
    { exitCode := match r.result with | .ok _ => 0 | .error _ => 1
      complaint := match r.result with | .ok _ => "" | .error e => "Error: " ++ e.message
      log := (log ++ [r.verdict showTime]).filterMap filter.record?
      telemetry := r.telemetry filter
      rootId := some rootId }

/-- The program from its call to its exit. -/
def Invocation.session (showTime : Nat → String)
    (signal : Option (Signal × (Scene Nat → Bool))) (i : Invocation) : Session :=
  let env := match i.envFile with
    | none => i.environment
    | some file => i.environment.load file
  match readOptions i.arguments env with
  | .error stop => stop.session env
  | .ok options =>
    match options.config i.processors with
    | .error e => { exitCode := 1, complaint := "Error: " ++ e.message }
    | .ok config => config.session env.logFilter i.seed showTime signal

end Workforce
