import Workforce.Pool.Moves
/-!
# Batches

A batch runs a finite list of tasks on a pool of its own, which has no more workers than there
are tasks. A *submitter* hands in the tasks in order, one by one, and then closes the pool; a
*collector* receives all outputs and keeps the values. The call returns when both are done.

## Main definitions

* `Workforce.Admission` — what limits the admission of tasks: nothing, a timeout, or the
  cancellation of the parent.
* `Workforce.Batch` — the state of a batch: its pool, its submitter and what was collected.
* `Workforce.Batch.start` — a new batch, or nothing if there is nothing to run.
* `Workforce.Batch.feed?`, `Batch.conclude?` — the moves of the submitter and of the call.
* `Workforce.Batch.Feeds` — what the submitter can do, and why.
* `Workforce.Batch.settle` — moves until nothing moves.
* `Workforce.Batch.abandon` — gives up a batch that is not complete.

## Main results

* `Workforce.Batch.performPool?_eq_some_iff`, `Batch.feed?_eq_some_iff`,
  `Batch.conclude?_eq_some_iff` — when each kind of move is enabled, and all that it does.
* `Workforce.Batch.lowers_of_step?` — every move of a batch lowers `Batch.work`, adds no task and
  takes none off a worker.
* `Workforce.Batch.lowers_settle` — settling does the same, however many moves it takes.

## Implementation notes

The submitter's waiting task is the only one in the line of the pool, and the collector is its
only receiver; neither has a call number. The batch learns what became of them from the pool's
events (`Batch.observe`). The batch holds its pool's handle until its call has returned.
-/

namespace Workforce

/-! ## Limits on admission -/

/-- What limits how long the submitter keeps admitting tasks. -/
inductive Admission where
  /-- Nothing does. -/
  | unlimited
  /-- Until this long after the start. -/
  | within (seconds nanoseconds : Nat)
  /-- Until the parent is cancelled. -/
  | untilCancelled
deriving DecidableEq

namespace Admission

/-- Times at or after this one, in milliseconds, do not fit the clock. -/
def clockLimit : Nat := Nat.pow 2 63 * 1000

/-- The first whole millisecond that is not before the deadline of a batch started at time `now`,
if it has a deadline and the deadline fits the clock. -/
def deadline? (now : Nat) : Admission → Option Nat
  | .within seconds nanoseconds =>
    let time := now + seconds * 1000 + (nanoseconds + 999999) / 1000000
    if time < clockLimit then some time else none
  | _ => none

/-- The batch follows the cancellation of the parent. -/
def followsParent : Admission → Bool
  | .untilCancelled => true
  | _ => false

end Admission

/-! ## The state of a batch -/

/-- What the submitter of a batch is doing. -/
inductive Submitter where
  /-- It hands in tasks. -/
  | active
  /-- Its last submission was refused, and the discard of that task may have panicked. -/
  | refused (panicked : Bool)
  /-- It has ended, possibly in a panic. -/
  | finished (panicked : Bool)
deriving DecidableEq

/-- The submitter's submission is refused. -/
def Submitter.refuse (panicked : Bool) : Submitter → Submitter
  | .active => .refused panicked
  | s => s

/-- How many moves the submitter is from its end, apart from the tasks it hands in. -/
def Submitter.rank : Submitter → Nat
  | .active => 2
  | .refused _ => 1
  | .finished _ => 0

/-- A batch under way. -/
structure Batch (α : Type) where
  /-- The call that runs the batch. -/
  call : Nat
  pool : Pool α
  /-- How many tasks the batch was given. -/
  total : Nat
  /-- The tasks that the submitter has not handed in yet. -/
  remaining : List (Task α)
  submitter : Submitter
  /-- How many tasks have been admitted. -/
  admitted : Nat
  /-- The values collected, in the order of their arrival. -/
  values : List α
  /-- When the call was made. -/
  since : Nat
  /-- When admission ends, if it is limited by a timeout. -/
  deadline : Option Nat

namespace Batch

variable {α : Type}

/-- Starts a batch at time `now`: nothing if there are no tasks, else a batch on a pool of
`min size tasks.length` workers, provided that this pool can be made. -/
def start (hosted : Bool) (now call size : Nat) (tasks : List (Task α)) (admission : Admission)
    (parentCancelled : Bool) : Except PoolError (Option (Batch α)) :=
  if tasks.isEmpty then .ok none
  else
    let child := admission.followsParent
    (Pool.make hosted (min size tasks.length) child (child && parentCancelled)).map fun pool =>
      some {
        call := call
        pool := pool.receive ⟨none, true⟩
        total := tasks.length
        remaining := tasks
        submitter := .active
        admitted := 0
        values := []
        since := now
        deadline := admission.deadline? now }

/-- The call of the batch has not returned. -/
def pending (b : Batch α) : Bool := b.pool.held

/-- The deadline has been reached. -/
def isDue (m : Moment) (b : Batch α) : Bool := b.deadline.any (· ≤ m.now)

/-- The cancellation of the parent has reached the batch. -/
def isStopped (b : Batch α) : Bool := b.pool.child && b.pool.cancelled

/-- The tasks of the batch that have not come to their end. -/
def load (b : Batch α) : Nat := b.remaining.length + b.pool.load

/-- What the batch learns from an event of its pool. -/
def observe (b : Batch α) : Event α → Batch α
  | .admitted _ _ => { b with admitted := b.admitted + 1 }
  | .refused _ panicked => { b with submitter := b.submitter.refuse panicked }
  | .received _ _ (some v) => { b with values := b.values ++ [v] }
  | _ => b

/-- What the batch learns from some events of its pool. -/
def observeAll (b : Batch α) (es : List (Event α)) : Batch α := es.foldl observe b

/-- What the batch learns does not depend on its pool. -/
theorem observeAll_setPool (es : List (Event α)) (b : Batch α) (q : Pool α) :
    ({ b with pool := q } : Batch α).observeAll es = { b.observeAll es with pool := q } := by
  induction es generalizing b with
  | nil => rfl
  | cons e es ih =>
    have hfirst : ({ b with pool := q } : Batch α).observe e = { b.observe e with pool := q } := by
      unfold observe
      split <;> rfl
    simp only [observeAll, List.foldl_cons] at ih ⊢
    rw [hfirst, ih]

/-! ## Moves -/

/-- The submitter ends, possibly in a panic: what remains is discarded and the pool is closed. -/
def endSubmitter (m : Moment) (panicked : Bool) (b : Batch α) : Batch α × List (Event α) :=
  ({ b with
      pool := b.pool.close.1
      remaining := []
      submitter := .finished (panicked || b.remaining.any m.breaks) },
    b.remaining.map .discarded ++ b.pool.close.2)

/-- The submitter stops with a task in its hands. That task is discarded first, and if this
panics the reason goes unnoted. -/
def halt (m : Moment) (inHand : Task α) (reason : Event α) (b : Batch α) :
    Batch α × List (Event α) :=
  let (c, es) := b.endSubmitter m (m.breaks inHand)
  (c, .discarded inHand :: (if m.breaks inHand then es else reason :: es))

/-- The move of the submitter. While its submission waits it stops at the deadline or at the
cancellation, the deadline first; otherwise it ends when no task remains, and hands in the next
one when nothing stops it. -/
def feed? (m : Moment) (b : Batch α) : Option (Batch α × List (Event α)) :=
  match b.submitter with
  | .finished _ => none
  | .refused panicked => some (b.endSubmitter m panicked)
  | .active =>
    match b.pool.submitting, b.remaining with
    | s :: _, _ =>
      let idle := { b with pool := { b.pool with submitting := [] } }
      if b.isDue m then some (idle.halt m s.task (.deadlineReached b.admitted))
      else if b.isStopped then some (idle.halt m s.task (.admissionCancelled b.admitted))
      else none
    | [], [] => some (b.endSubmitter m false)
    | [], t :: rest =>
      if b.isDue m then
        let (c, es) := b.endSubmitter m false
        some (c, .deadlineReached b.admitted :: es)
      else if b.isStopped then
        some ({ b with remaining := rest }.halt m t (.admissionCancelled b.admitted))
      else
        let (pool, es) := b.pool.submit m ⟨none, t⟩
        some ({ b with pool := pool, remaining := rest }.observeAll es, es)

/-- The call returns once the submitter has ended and the collector has found the results closed:
with the values, or with an error if the submitter broke down. -/
def conclude? (b : Batch α) : Option (Batch α × List (Event α)) :=
  match b.submitter with
  | .finished panicked =>
    if b.pending && b.pool.receiving.isEmpty then
      some ({ b with pool := b.pool.release },
        if panicked then [.batchAnswered b.call (.batch (.error .discardPanic))]
        else [.batchFinished b.admitted b.total b.values.length,
          .batchAnswered b.call (.batch (.ok b.values))])
    else none
  | _ => none

/-- A move of the pool, observed by the batch. -/
def performPool? (m : Moment) (b : Batch α) (k : Pool.Move) :
    Option (Batch α × List (Event α)) :=
  (b.pool.perform? m k).map fun r => ({ b with pool := r.1 }.observeAll r.2, r.2)

/-- The kinds of internal move of a batch: those of its pool, the submitter's and the call's. -/
inductive Move where
  | pool (k : Pool.Move)
  | feed
  | conclude
deriving DecidableEq

/-- All kinds of move. -/
def Move.all : List Move := Pool.Move.all.map .pool ++ [.feed, .conclude]

/-- A move carried out, if it is enabled. -/
def perform? (m : Moment) (b : Batch α) : Move → Option (Batch α × List (Event α))
  | .pool k => b.performPool? m k
  | .feed => b.feed? m
  | .conclude => b.conclude?

/-! ## What it takes to move -/

section Inversion

variable {m : Moment} {b c : Batch α} {es : List (Event α)}

/-- A move of the pool, observed by the batch. -/
theorem performPool?_eq_some_iff {k : Pool.Move} : b.performPool? m k = some (c, es) ↔
    ∃ q, b.pool.perform? m k = some (q, es) ∧ c = { b.observeAll es with pool := q } := by
  constructor
  · intro h
    obtain ⟨⟨q, fs⟩, hq, heq⟩ := Option.map_eq_some_iff.1 h
    cases heq
    exact ⟨q, hq, observeAll_setPool fs b q⟩
  · rintro ⟨q, hq, rfl⟩
    rw [performPool?, hq, Option.map_some, observeAll_setPool]

/-- What the submitter can do, and why. -/
inductive Feeds (m : Moment) (b : Batch α) : Batch α × List (Event α) → Prop
  /-- Its last submission was refused: it ends. -/
  | refused {panicked : Bool} (submitter : b.submitter = .refused panicked) :
      Feeds m b (b.endSubmitter m panicked)
  /-- No task remains: it ends. -/
  | done (active : b.submitter = .active) (line : b.pool.submitting = [])
      (remaining : b.remaining = []) : Feeds m b (b.endSubmitter m false)
  /-- It takes its submission back, at the deadline or at the cancellation. -/
  | back {s : Submission α} {line : List (Submission α)} {reason : Event α}
      (active : b.submitter = .active) (line : b.pool.submitting = s :: line)
      (why : b.isDue m = true ∧ reason = .deadlineReached b.admitted ∨
        b.isDue m = false ∧ b.isStopped = true ∧ reason = .admissionCancelled b.admitted) :
      Feeds m b
        (({ b with pool := { b.pool with submitting := [] } } : Batch α).halt m s.task reason)
  /-- It ends at the deadline, before it hands in the next task. -/
  | due {t : Task α} {rest : List (Task α)} (active : b.submitter = .active)
      (line : b.pool.submitting = []) (remaining : b.remaining = t :: rest)
      (due : b.isDue m = true) :
      Feeds m b
        ((b.endSubmitter m false).1, .deadlineReached b.admitted :: (b.endSubmitter m false).2)
  /-- It stops at the cancellation, with the next task in its hands. -/
  | stopped {t : Task α} {rest : List (Task α)} (active : b.submitter = .active)
      (line : b.pool.submitting = []) (remaining : b.remaining = t :: rest)
      (early : b.isDue m = false) (stopped : b.isStopped = true) :
      Feeds m b
        (({ b with remaining := rest } : Batch α).halt m t (.admissionCancelled b.admitted))
  /-- It hands in the next task. -/
  | submit {t : Task α} {rest : List (Task α)} (active : b.submitter = .active)
      (line : b.pool.submitting = []) (remaining : b.remaining = t :: rest)
      (early : b.isDue m = false) (free : b.isStopped = false) :
      Feeds m b
        (({ b with pool := (b.pool.submit m ⟨none, t⟩).1, remaining := rest } : Batch α).observeAll
          (b.pool.submit m ⟨none, t⟩).2, (b.pool.submit m ⟨none, t⟩).2)

/-- The submitter moves in one of these ways. -/
theorem feed?_eq_some_iff {x : Batch α × List (Event α)} : b.feed? m = some x ↔ b.Feeds m x := by
  constructor
  · intro h
    unfold feed? at h
    split at h
    · cases h
    · next hs =>
      cases h
      exact .refused hs
    · next hs =>
      split at h
      · next hline =>
        split at h
        · next hd =>
          cases h
          exact .back hs hline (.inl ⟨hd, rfl⟩)
        · next hd =>
          split at h <;> cases h
          next hstop => exact .back hs hline (.inr ⟨by simpa using hd, hstop, rfl⟩)
      · next hline hrem =>
        cases h
        exact .done hs hline hrem
      · next hline hrem =>
        split at h
        · next hd =>
          cases h
          exact .due hs hline hrem hd
        · next hd =>
          have early : b.isDue m = false := by simpa using hd
          split at h <;> cases h
          · next hstop => exact .stopped hs hline hrem early hstop
          · next hstop => exact .submit hs hline hrem early (by simpa using hstop)
  · rintro (hs | ⟨hs, hline, hrem⟩ | ⟨hs, hline, ⟨hd, rfl⟩ | ⟨hd, hstop, rfl⟩⟩ |
      ⟨hs, hline, hrem, hd⟩ | ⟨hs, hline, hrem, hd, hstop⟩ | ⟨hs, hline, hrem, hd, hstop⟩)
    all_goals simp [feed?, *]

/-- The call returns. -/
theorem conclude?_eq_some_iff {x : Batch α × List (Event α)} : b.conclude? = some x ↔
    ∃ panicked, b.submitter = .finished panicked ∧ b.pool.held = true ∧ b.pool.receiving = [] ∧
      ({ b with pool := b.pool.release },
        if panicked then [.batchAnswered b.call (.batch (.error .discardPanic))]
        else [.batchFinished b.admitted b.total b.values.length,
          .batchAnswered b.call (.batch (.ok b.values))]) = x := by
  unfold conclude? pending
  constructor
  · intro h
    split at h
    · next panicked hs =>
      split at h
      · next hp =>
        simp only [Bool.and_eq_true, List.isEmpty_iff] at hp
        exact ⟨panicked, hs, hp.1, hp.2, Option.some.inj h⟩
      · cases h
    · cases h
  · rintro ⟨panicked, hs, hheld, hrec, rfl⟩
    simp [hs, hheld, hrec]

end Inversion

/-- The first enabled move, carried out. -/
def step? (m : Moment) (b : Batch α) : Option (Batch α × List (Event α)) :=
  Move.all.findSome? (b.perform? m)

/-- A step is one of the moves. -/
theorem exists_move_of_step? {m : Moment} {b : Batch α} {r : Batch α × List (Event α)}
    (h : b.step? m = some r) : ∃ k, b.perform? m k = some r := by
  obtain ⟨k, _, hk⟩ := List.exists_of_findSome?_eq_some h
  exact ⟨k, hk⟩

/-- Nothing can move exactly when no move is enabled. -/
theorem step?_eq_none_iff {m : Moment} {b : Batch α} :
    b.step? m = none ↔ ∀ k, b.perform? m k = none := by
  rw [step?, List.findSome?_eq_none_iff]
  refine ⟨fun h k => h k ?_, fun h k _ => h k⟩
  cases k with
  | pool k => cases k <;> simp [Move.all, Pool.Move.all]
  | _ => simp [Move.all]

/-! ## Settling ends -/

/-- A bound on the number of moves that are still possible without an action from outside. -/
def work (b : Batch α) : Nat :=
  3 * b.remaining.length + b.pool.work + b.submitter.rank + b.pending.toNat

/-- What a change that lowers the bound by `n` keeps: no task is added, none is taken off a
worker, the limits stay as they are, and a call that has returned does not come back. -/
structure Lowers (n : Nat) (b c : Batch α) : Prop where
  work : c.work + n ≤ b.work
  load : c.load ≤ b.load
  running : ∀ r ∈ b.pool.running, r ∈ c.pool.running
  deadline : c.deadline = b.deadline
  since : c.since = b.since
  pending : c.pending = true → b.pending = true

theorem Lowers.refl (b : Batch α) : Lowers 0 b b :=
  ⟨Nat.le_refl _, Nat.le_refl _, fun _ h => h, rfl, rfl, id⟩

theorem Lowers.trans {n k : Nat} {a b c : Batch α} (h1 : Lowers n a b) (h2 : Lowers k b c) :
    Lowers (n + k) a c :=
  ⟨by have := h1.work; have := h2.work; omega, Nat.le_trans h2.load h1.load,
    fun r hr => h2.running r (h1.running r hr), h2.deadline.trans h1.deadline,
    h2.since.trans h1.since, fun h => h1.pending (h2.pending h)⟩

/-- Observing an event of the pool adds nothing. -/
theorem lowers_observe (b : Batch α) (e : Event α) : Lowers 0 b (b.observe e) := by
  unfold observe
  split
  · exact ⟨Nat.le_refl _, Nat.le_refl _, fun _ h => h, rfl, rfl, id⟩
  · refine ⟨?_, Nat.le_refl _, fun _ h => h, rfl, rfl, id⟩
    cases hs : b.submitter <;> simp [work, pending, Submitter.refuse, Submitter.rank, hs]
  · exact ⟨Nat.le_refl _, Nat.le_refl _, fun _ h => h, rfl, rfl, id⟩
  · exact Lowers.refl b

/-- Observing events of the pool adds nothing. -/
theorem lowers_observeAll (b : Batch α) (es : List (Event α)) : Lowers 0 b (b.observeAll es) := by
  induction es generalizing b with
  | nil => exact Lowers.refl b
  | cons e es ih => exact (lowers_observe b e).trans (ih (b.observe e))

/-- The end of a submitter that has not ended yet is a move. -/
theorem lowers_endSubmitter (m : Moment) (panicked : Bool) (b : Batch α)
    (h : 0 < b.submitter.rank) : Lowers 1 b (b.endSubmitter m panicked).1 := by
  have hclose : ∀ p : Pool α, p.close.1.work = p.work ∧ p.close.1.load = p.load ∧
      p.close.1.running = p.running ∧ p.close.1.held = p.held := by
    intro p
    unfold Pool.close
    split <;> simp [Pool.work, Pool.load]
  obtain ⟨hw, hl, hr, hh⟩ := hclose b.pool
  refine ⟨?_, ?_, ?_, rfl, rfl, ?_⟩
  · have h0 : (Submitter.finished (panicked || b.remaining.any m.breaks)).rank = 0 := rfl
    simp only [endSubmitter, work, pending, hw, hh, h0, List.length_nil]
    omega
  · simp only [endSubmitter, load, hl, List.length_nil]
    omega
  · simp only [endSubmitter, hr]; exact fun _ h => h
  · simp only [endSubmitter, pending, hh]; exact id

/-- So is a stop with a task in hand. -/
theorem lowers_halt (m : Moment) (t : Task α) (e : Event α) (b : Batch α)
    (h : 0 < b.submitter.rank) : Lowers 1 b (b.halt m t e).1 :=
  lowers_endSubmitter m (m.breaks t) b h

/-- Every move of a batch lowers the bound. -/
theorem lowers_of_perform? {m : Moment} {b c : Batch α} {es : List (Event α)} {k : Move}
    (h : b.perform? m k = some (c, es)) : Lowers 1 b c := by
  cases k with
  | pool k =>
    obtain ⟨q, hq, rfl⟩ := performPool?_eq_some_iff.1 h
    have hp := Pool.lowers_of_perform? hq
    have h0 : Lowers 1 b { b with pool := q } := by
      refine ⟨?_, Nat.add_le_add_left hp.load _, hp.running, rfl, rfl, ?_⟩
      · simp only [work, pending, hp.held]
        have := hp.work
        omega
      · simp only [pending, hp.held]; exact id
    rw [← observeAll_setPool]
    exact h0.trans (lowers_observeAll _ es)
  | feed =>
    have active : b.submitter = .active → 0 < b.submitter.rank := fun hs => by
      simp [hs, Submitter.rank]
    cases feed?_eq_some_iff.1 h with
    | refused hs => exact lowers_endSubmitter m _ b (by simp [hs, Submitter.rank])
    | done hs => exact lowers_endSubmitter m _ b (active hs)
    | due hs => exact lowers_endSubmitter m _ b (active hs)
    | @back s line reason hs hsub =>
      have h0 : Lowers 0 b { b with pool := { b.pool with submitting := [] } } :=
        ⟨by simp [work, pending, Pool.work, hsub], by simp [load, Pool.load], fun _ h => h,
          rfl, rfl, id⟩
      exact h0.trans (lowers_halt m s.task reason _ (active hs))
    | @stopped t rest hs hsub hrem =>
      have h0 : Lowers 0 b { b with remaining := rest } :=
        ⟨by simp only [work, pending, hrem, List.length_cons]; omega, by simp [load, hrem],
          fun _ h => h, rfl, rfl, id⟩
      exact h0.trans (lowers_halt m t (.admissionCancelled b.admitted) _ (active hs))
    | @submit t rest hs hsub hrem =>
      have h0 : Lowers 1 b
          { b with pool := (b.pool.submit m ⟨none, t⟩).1, remaining := rest } := by
        unfold Pool.submit
        split
        · exact ⟨by simp only [work, pending, hrem, List.length_cons]; omega,
            by simp [load, hrem], fun _ h => h, rfl, rfl, id⟩
        · exact ⟨by simp [work, pending, Pool.work, hrem]; omega,
            by simp [load, Pool.load, hrem]; omega, fun _ h => h, rfl, rfl, id⟩
      exact h0.trans (lowers_observeAll _ _)
  | conclude =>
    obtain ⟨panicked, -, hheld, -, heq⟩ := conclude?_eq_some_iff.1 h
    cases heq
    have hh : b.pool.held.toNat = 1 := by rw [hheld]; rfl
    exact ⟨by simp [work, pending, Pool.release, Pool.work, hh],
      Nat.le_refl _, fun _ h => h, rfl, rfl, fun _ => hheld⟩

/-- Every step lowers the bound. -/
theorem lowers_of_step? {m : Moment} {b c : Batch α} {es : List (Event α)}
    (h : b.step? m = some (c, es)) : Lowers 1 b c :=
  let ⟨_, hk⟩ := exists_move_of_step? h
  lowers_of_perform? hk

/-- Moves until nothing moves. -/
def settle (m : Moment) (b : Batch α) : Batch α × List (Event α) :=
  match _h : b.step? m with
  | none => (b, [])
  | some (c, es) =>
    let (d, fs) := c.settle (m.after es)
    (d, es ++ fs)
termination_by b.work
decreasing_by exact (lowers_of_step? ‹_›).work

/-- Settling adds no task, takes none off a worker and keeps the limits. -/
theorem lowers_settle (m : Moment) (b : Batch α) : Lowers 0 b (b.settle m).1 := by
  fun_induction settle m b with
  | case1 => exact Lowers.refl _
  | case2 m b c es h d fs hr ih =>
    rw [hr] at ih
    have h1 := (lowers_of_step? h).trans ih
    exact ⟨Nat.le_of_succ_le h1.work, h1.load, h1.running, h1.deadline, h1.since, h1.pending⟩

/-! ## What callers do -/

/-- Ends the running task of that name, if the batch runs it. -/
def finish (id : TaskId) (b : Batch α) : Batch α × List (Event α) :=
  ({ b with pool := (b.pool.finish id).1 }, (b.pool.finish id).2)

/-- The cancellation of the parent reaches the batch if it follows the parent. -/
def parentCancelled (b : Batch α) : Batch α := { b with pool := b.pool.parentCancelled }

/-- Gives up a batch that is not complete: its submitter is stopped, its pool is closed and
cancelled, and nobody receives its outputs any more. -/
def abandon (b : Batch α) : Batch α × List (Event α) :=
  ({ b with
      pool := { b.pool.close.1.cancel.1 with submitting := [], receiving := [], held := false }
      remaining := []
      submitter := .finished false },
    .batchDropped :: b.pool.close.2 ++ b.pool.close.1.cancel.2 ++
      (b.pool.submitting.map (·.task) ++ b.remaining).map .discarded)

end Batch

end Workforce
