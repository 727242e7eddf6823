import Workforce.Log.Note
import Workforce.Text.Quoted
/-!
# Log records

A record is a note as it stands in the log: it may have been written inside the span of a task, and
it may carry the trace id of the run.

## Main definitions

* `Workforce.Record` — a note, its span and its trace id.
* `Workforce.Record.line` — the record as it is written.
* `Workforce.Tally` — the numbers by which notes name workers.
-/

namespace Workforce

/-- A note as it stands in the log. -/
structure Record where
  note : Note
  /-- The trace id of the span that the note was written in. -/
  span : Option String := none
  /-- The trace id that the note carries itself. -/
  trace : Option String := none
deriving DecidableEq

namespace Record

/-- The written form of a character in a text of a note. Characters that could begin a terminal code
are written by their code points. -/
def escape (c : Char) : List Char :=
  if ['\x07', '\x08', '\x0c', '\x1b', '\x7f'].contains c then
    ['\\', 'x', Nat.digitChar (c.toNat / 16), Nat.digitChar (c.toNat % 16)]
  else if 0x80 ≤ c.toNat ∧ c.toNat ≤ 0x9f then
    ['\\', 'u', '\x7b'] ++ Text.hexDigits c.toNat ++ ['\x7d']
  else [c]

/-- The record as it is written: the level, the span, the text and the trace id. -/
def line (r : Record) : String :=
  let span := match r.span with
    | none => ""
    | some id => "task\x7btrace_id=" ++ id ++ "\x7d: "
  let trace := match r.trace with
    | none => ""
    | some id => " trace_id=" ++ id
  r.note.level.name ++ " " ++ span ++ String.ofList (r.note.text.toList.flatMap escape) ++ trace

end Record

/-! ## Naming workers -/

/-- How many events of each kind that names a worker have happened. The workers of a pool are alike,
and each of these happens to a worker once at most, so that the events of each kind may be taken to
happen to the first worker first. -/
structure Tally where
  started : Nat := 0
  stopped : Nat := 0
  cancelled : Nat := 0
  alone : Nat := 0

namespace Tally

variable {α : Type}

/-- The number of the worker that an event happens to, and the tally after it. -/
def next (t : Tally) : Event α → Nat × Tally
  | .workerStarted => (t.started, { t with started := t.started + 1 })
  | .workerStopped => (t.stopped, { t with stopped := t.stopped + 1 })
  | .sawCancellation => (t.cancelled, { t with cancelled := t.cancelled + 1 })
  | .receiverGone => (t.alone, { t with alone := t.alone + 1 })
  | _ => (0, t)

/-- Events with the numbers of the workers that they happen to. -/
def number (t : Tally) : List (Event α) → List (Nat × Event α)
  | [] => []
  | e :: es =>
    let r := t.next e
    (r.1, e) :: r.2.number es

end Tally

end Workforce
