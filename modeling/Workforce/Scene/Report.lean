import Workforce.Scene.Command
import Workforce.Log.Note
/-!
# Reports

A report says what a command did: what it returned, which calls it finished, what became of tasks,
and what was noted, together with the state in which it left the scene.

## Main definitions

* `Workforce.Report` — the report on one command.
* `Workforce.Phase.log` — what became of tasks in a phase.
* `Workforce.Scene.report` — a command carried out and reported on.
* `Workforce.Scene.reports` — the reports on a list of commands.

## Implementation notes

Within a phase the order of the pools' moves carries no meaning, so that a report lists starts and
discards by the names of the tasks. Ends come first: a phase has at most one, which causes the rest.
-/

namespace Workforce

variable {α : Type}

/-- What became of a task. -/
inductive Fate where
  | start
  | finish
  | discard
deriving DecidableEq

/-- A line on a task: when, what and which; for the start of an instrumented task also the trace
id of its span. -/
structure FateLine where
  time : Nat
  fate : Fate
  task : TaskId
  trace : Option String

/-- What can be seen of a pool: its size, how many workers it reports as alive, and whether it is
closed or cancelled. -/
structure Status where
  size : Nat
  live : Nat
  closed : Bool
  cancelled : Bool

/-- The report on one command. -/
structure Report (α : Type) where
  /-- The time after the command. -/
  time : Nat
  reply : Reply
  /-- The calls that were finished, by number. -/
  done : List (Nat × Answer α)
  /-- The calls that are not finished, by number. -/
  pending : List Nat
  log : List FateLine
  /-- The running tasks, by name. -/
  running : List TaskId
  /-- The pools; `none` for one whose handle was given up. -/
  pools : List (Option Status)
  /-- What was noted, and how often. -/
  notes : List (String × Nat)

namespace Phase

/-- The tasks of the events of one kind, by name. -/
def tasksBy (kind : Event α → Option (Task α)) (p : Phase α) : List (Task α) :=
  (p.entries.filterMap (kind ·.2)).mergeSort fun a b => a.id.before b.id

/-- What became of tasks: ends, then starts by name, then discards by name. -/
def log (p : Phase α) : List FateLine :=
  let ends := p.entries.filterMap fun e => match e.2 with | .ended t => some t | _ => none
  let starts := p.tasksBy fun | .started t => some t | _ => none
  let discards := p.tasksBy fun | .discarded t => some t | _ => none
  ends.map (⟨p.time, .finish, ·.id, none⟩) ++
    starts.map (fun t => ⟨p.time, .start, t.id, t.trace⟩) ++
    discards.map (⟨p.time, .discard, ·.id, none⟩)

/-- The calls that were finished. -/
def answers (p : Phase α) : List (Nat × Answer α) := p.entries.filterMap (·.2.answer?)

/-- The lines of what was noted; workers go unnamed. -/
def noteLines (p : Phase α) : List String :=
  p.entries.filterMap fun e => (e.2.note? "#").map Note.line

end Phase

/-- How often each line occurs, by line. -/
def countLines (lines : List String) : List (String × Nat) :=
  let sorted := lines.mergeSort fun a b => decide (a ≤ b)
  sorted.eraseReps.map fun line => (line, sorted.count line)

namespace Scene

/-- What can be seen of the pools. -/
def statuses (s : Scene α) : List (Option Status) :=
  s.pools.map fun p => if p.held then some ⟨p.size, p.counted, p.closed, p.cancelled⟩ else none

/-- Carries out the command of that number and reports on it. -/
def report (call : Nat) (s : Scene α) (c : Command α) : Scene α × Report α :=
  let (reply, t, phases) := s.perform call c
  (t, {
    time := t.now
    reply := reply
    done := (phases.flatMap Phase.answers).mergeSort fun a b => a.1 ≤ b.1
    pending := t.pendingCalls.mergeSort
    log := phases.flatMap Phase.log
    running := (t.runs.map (·.task.id)).mergeSort TaskId.before
    pools := t.statuses
    notes := countLines (phases.flatMap Phase.noteLines) })

/-- Carries out commands, the first of which has the given number, and reports on each. -/
def reports (call : Nat) (s : Scene α) : List (Command α) → List (Report α)
  | [] => []
  | c :: cs =>
    let r := s.report call c
    r.2 :: r.1.reports (call + 1) cs

end Scene

end Workforce
