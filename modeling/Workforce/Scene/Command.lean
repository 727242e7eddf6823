import Workforce.Scene.Clock
/-!
# Commands

A command is one action on a scene: making pools, calling them, moving the clock. Calls that
cannot be answered at once stay pending; they are known by the number of the command that made
them. After a command the scene settles and the tasks that are due end.

## Main definitions

* `Workforce.Command` — the actions.
* `Workforce.Reply` — what a command returns at once.
* `Workforce.Scene.perform` — a command carried out.
* `Workforce.Scene.pendingCalls` — the calls that have not been answered.
* `Workforce.Scene.reach` — the scene after a list of commands.

## Implementation notes

A pool whose handle has been given up cannot be named any more, but it lives on in the scene until
its workers have exited.
-/

namespace Workforce

variable {α : Type}

/-- An action on a scene. Pools are named by their index, calls by the number of the command that
made them. -/
inductive Command (α : Type) where
  /-- Makes a pool, which may follow the parent (`child`). -/
  | newPool (size : Nat) (child : Bool)
  /-- Calls for a task to be run. -/
  | submit (pool : Nat) (task : Task α)
  /-- Calls for the next output. -/
  | next (pool : Nat)
  /-- Closes a pool and calls for its outputs to be read to the end. -/
  | shutdown (pool : Nat)
  /-- Calls for a batch to be run. -/
  | batch (size : Nat) (tasks : List (Task α)) (admission : Admission)
  | close (pool : Nat)
  | cancel (pool : Nat)
  /-- Cancels the parent. -/
  | cancelParent
  /-- Asks whether the parent is cancelled. -/
  | askParent
  /-- Asks for a description of a pool. -/
  | describe (pool : Nat)
  /-- Gives up the handle of a pool. -/
  | drop (pool : Nat)
  /-- Gives up a pending call. -/
  | abandon (call : Nat)
  /-- Ends the running task of that written name. -/
  | release (task : String)
  /-- Moves the clock on by so many milliseconds. -/
  | advance (ms : Nat)
  /-- Moves the clock until no stop is ahead. -/
  | run

/-- What a command returns at once. -/
inductive Reply where
  | nothing
  | index (n : Nat)
  | flag (b : Bool)
  | text (s : String)
  | failed (e : PoolError)
  | noSuchPool

/-- A pool's description of itself. -/
def Pool.describe (p : Pool α) : String :=
  Text.Description.inline {
    name := "WorkerPool"
    fields := [
      ("pool_size", .plain (toString p.size)),
      ("live_workers", .plain (toString p.counted)),
      ("closed", .plain (toString p.closed)),
      ("cancelled", .plain (toString p.cancelled))]
    more := true }

namespace Scene

/-- The pool of that index, if its handle is held. -/
def pool? (i : Nat) (s : Scene α) : Option (Pool α) :=
  s.pools[i]?.filter (·.held)

/-- A change at one pool. -/
def atPool (i : Nat) (f : Moment → Pool α → Pool α × List (Event α)) (s : Scene α) :
    Scene α × List (Entry α) :=
  match s.pools[i]? with
  | none => (s, [])
  | some p =>
    let r := f s.moment p
    let es := r.2.map (Place.pool i, ·)
    ({ s with pools := s.pools.set i r.1 }.after es, es)

/-- Makes a pool, if there can be one of that size. -/
def newPool (size : Nat) (child : Bool) (s : Scene α) : Reply × Scene α × List (Entry α) :=
  match Pool.make true size child (child && s.parentCancelled) with
  | .error e => (.failed e, s, [])
  | .ok p =>
    (.index s.pools.length, { s with pools := s.pools ++ [p] },
      p.opening.map (Place.pool s.pools.length, ·))

/-- Begins a batch. One that has no tasks or cannot be begun is answered at once; in the second case
its tasks are discarded. -/
def newBatch (call size : Nat) (tasks : List (Task α)) (admission : Admission) (s : Scene α) :
    Scene α × List (Entry α) :=
  let place := Place.batch s.batches.length
  match Batch.start true s.now call size tasks admission s.parentCancelled with
  | .ok none => (s, [(place, .batchAnswered call (.batch (.ok [])))])
  | .ok (some b) =>
    ({ s with batches := s.batches ++ [b] }, b.pool.opening.map (place, ·))
  | .error e =>
    let answer := if tasks.any s.moment.breaks then Answer.panicked else .batch (.error e)
    let es := (tasks.map Event.discarded ++ [Event.batchAnswered call answer]).map (place, ·)
    (s.after es, es)

/-- The numbers of the calls that have not been answered. -/
def pendingCalls (s : Scene α) : List Nat :=
  s.pools.flatMap (fun p =>
      p.submitting.filterMap (·.caller) ++ p.receiving.filterMap (·.caller)) ++
    (s.batches.filter (·.pending)).map (·.call)

/-- Gives up a pending call, wherever it waits. -/
def abandon (call : Nat) (s : Scene α) : Scene α × List (Entry α) :=
  s.everywhere (fun _ => Pool.withdraw call)
    (fun _ b => if b.pending && b.call == call then b.abandon else (b, []))

/-- Cancels the parent, and with it the pools and batches that follow it. -/
def cancelParent (s : Scene α) : Scene α × List (Entry α) :=
  { s with parentCancelled := true }.everywhere
    (fun _ p => (p.parentCancelled, [])) (fun _ b => (b.parentCancelled, []))

/-- Lets the scene settle after an action and ends the tasks that are due. -/
def act (r : Scene α × List (Entry α)) : Scene α × List (Phase α) :=
  let first := phase r
  let rest := first.1.finishDue
  (rest.1, first.2 :: rest.2)

/-- An action on a pool that must be there. -/
def onPool (i : Nat) (f : Moment → Pool α → Pool α × List (Event α)) (s : Scene α) :
    Reply × Scene α × List (Phase α) :=
  match s.pool? i with
  | none => (.noSuchPool, s, [])
  | some _ => (.nothing, act (s.atPool i f))

/-- Carries out the command of that number. -/
def perform (call : Nat) (s : Scene α) : Command α → Reply × Scene α × List (Phase α)
  | .newPool size child =>
    let (reply, r) := s.newPool size child
    (reply, act r)
  | .submit i task => s.onPool i fun m => Pool.submit m ⟨some call, task⟩
  | .next i => s.onPool i fun _ p => (p.receive ⟨some call, false⟩, [])
  | .shutdown i =>
    s.onPool i fun _ p => ((p.close.1).receive ⟨some call, true⟩, p.close.2)
  | .batch size tasks admission => (.nothing, act (s.newBatch call size tasks admission))
  | .close i => s.onPool i fun _ => Pool.close
  | .cancel i => s.onPool i fun _ => Pool.cancel
  | .cancelParent => (.nothing, act s.cancelParent)
  | .askParent => (.flag s.parentCancelled, s, [])
  | .describe i =>
    match s.pool? i with
    | none => (.noSuchPool, s, [])
    | some p => (.text p.describe, s, [])
  | .drop i => s.onPool i fun _ p => (p.release, [])
  | .abandon call =>
    if s.pendingCalls.contains call then (.flag true, act (s.abandon call))
    else (.flag false, s, [])
  | .release name =>
    match s.runs.find? (·.task.id.text == name) with
    | none => (.flag false, s, [])
    | some r => (.flag true, act (s.finish r.task.id))
  | .advance ms => (.nothing, s.advanceTo (s.now + ms))
  | .run => (.nothing, s.run)

/-- What follows from a list of commands, the first of which has the given number: the scene and
all phases. -/
def reach (call : Nat) (s : Scene α) : List (Command α) → Scene α × List (Phase α)
  | [] => (s, [])
  | c :: cs =>
    let r := (s.perform call c).2
    let rest := r.1.reach (call + 1) cs
    (rest.1, r.2 ++ rest.2)

end Scene

end Workforce
