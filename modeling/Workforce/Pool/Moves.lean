import Workforce.Pool.Basic
/-!
# The internal moves of a pool

Between two actions from outside, a pool moves by itself: workers take tasks or exit, submissions
are admitted or refused, outputs are published and received. A pool in which nothing can move is
*settled*.

## Main definitions

* `Workforce.Pool.Move` — the five kinds of internal move.
* `Workforce.Pool.perform?` — a move carried out, if it is enabled.
* `Workforce.Pool.step?` — the first enabled move, carried out.
* `Workforce.Pool.settle` — moves until nothing moves.

## Main results

* `Workforce.Pool.take?_eq_some_iff`, `Pool.leave?_eq_some_iff`, `Pool.enter?_eq_some_iff`,
  `Pool.publish?_eq_some_iff`, `Pool.deliver?_eq_some_iff` — when each kind of move is enabled, and
  all that it does.
* `Workforce.Pool.lowers_of_perform?` — every move lowers `Pool.work`, so that settling ends
  whatever the order of the moves; none adds a task or takes one off a worker.
* `Workforce.Pool.step?_settle` — in a settled pool nothing can move.

## Implementation notes

`settle` takes the first enabled move each time. The order in which moves are tried carries no
meaning.
-/

namespace Workforce.Pool

variable {α : Type}

/-! ## Moves -/

/-- The kinds of internal move. -/
inductive Move where
  /-- An idle worker takes the head of the queue. -/
  | take
  /-- An idle worker exits. -/
  | leave
  /-- The first waiting submission is admitted or refused. -/
  | enter
  /-- The first waiting publisher publishes, or finds nobody left to receive. -/
  | publish
  /-- The first waiting receiver gets an output, or finds the results closed. -/
  | deliver
deriving DecidableEq

/-- All kinds of move. -/
def Move.all : List Move := [.take, .leave, .enter, .publish, .deliver]

/-- The exit of a worker that is no longer counted as idle or publishing, for the reason noted.
The last worker to exit discards what is left in the queue. If that panics, the worker breaks off
before it takes itself off the count. -/
def retire (m : Moment) (reason : List (Event α)) (p : Pool α) : Pool α × List (Event α) :=
  if p.workers = 0 then
    if p.queue.any m.breaks then
      ({ p with queue := [] },
        reason ++ p.queue.map .discarded ++ [.workerAborted, .resultsClosed])
    else
      ({ p with queue := [], counted := p.counted - 1 },
        reason ++ p.queue.map .discarded ++ [.workerStopped, .resultsClosed])
  else ({ p with counted := p.counted - 1 }, reason ++ [.workerStopped])

/-- An idle worker takes the head of the queue, unless the pool is cancelled. -/
def take? (m : Moment) (p : Pool α) : Option (Pool α × List (Event α)) :=
  match p.cancelled, p.idle, p.queue with
  | false, n + 1, t :: rest =>
    some ({ p with idle := n, queue := rest, running := p.running ++ [Run.start m.now t] },
      [.started t])
  | _, _, _ => none

/-- An idle worker exits: because the pool is cancelled, or because the queue is empty and no
task can come into it. -/
def leave? (m : Moment) (p : Pool α) : Option (Pool α × List (Event α)) :=
  match p.idle with
  | 0 => none
  | n + 1 =>
    if p.cancelled then some ({ p with idle := n }.retire m [.sawCancellation])
    else if p.queue.isEmpty && p.sealed then some ({ p with idle := n }.retire m [])
    else none

/-- The first waiting submission comes to its decision: refused when no worker is left, else at
the first free place of the queue admitted, or refused if the pool has been closed meanwhile. -/
def enter? (m : Moment) (p : Pool α) : Option (Pool α × List (Event α)) :=
  match p.submitting with
  | [] => none
  | s :: rest =>
    if p.workers = 0 then some ({ p with submitting := rest }, refusal m s)
    else if p.queue.length < p.capacity then
      if p.closed then some ({ p with submitting := rest }, refusal m s)
      else some ({ p with submitting := rest, queue := p.queue ++ [s.task] },
        [.admitted s.caller s.task])
    else none

/-- The first waiting publisher exits if the pool is deserted, else it publishes its output at
the first free place of the results queue and is idle again. -/
def publish? (m : Moment) (p : Pool α) : Option (Pool α × List (Event α)) :=
  match p.publishing with
  | [] => none
  | output :: rest =>
    if p.deserted then some ({ p with publishing := rest }.retire m [.receiverGone])
    else if p.results.length < p.capacity then
      some ({ p with publishing := rest, results := p.results ++ [output], idle := p.idle + 1 },
        [.published output])
    else none

/-- The first waiting receiver gets the first output; one that reads to the end joins the line
again. Once no output is left and every worker has exited, it is told that the results are
closed. -/
def deliver? (p : Pool α) : Option (Pool α × List (Event α)) :=
  match p.receiving, p.results with
  | [], _ => none
  | r :: rest, output :: outputs =>
    some ({ p with results := outputs, receiving := if r.drains then rest ++ [r] else rest },
      [.received r.caller r.drains output])
  | r :: rest, [] =>
    if p.workers = 0 then
      some ({ p with receiving := rest }, [.toldClosed r.caller r.drains])
    else none

/-- A move carried out, if it is enabled. -/
def perform? (m : Moment) (p : Pool α) : Move → Option (Pool α × List (Event α))
  | .take => p.take? m
  | .leave => p.leave? m
  | .enter => p.enter? m
  | .publish => p.publish? m
  | .deliver => p.deliver?

/-! ## What it takes to move -/

section Inversion

variable {m : Moment} {p : Pool α} {x : Pool α × List (Event α)}

/-- What an idle worker reports that exits. -/
def farewell (p : Pool α) : List (Event α) := if p.cancelled then [.sawCancellation] else []

theorem farewell_of_cancelled (h : p.cancelled = true) : p.farewell = [.sawCancellation] := by
  simp [farewell, h]

theorem farewell_of_active (h : p.cancelled = false) : p.farewell = [] := by
  simp [farewell, h]

/-- Nothing else is reported. -/
theorem forall_mem_farewell {P : Event α → Prop} (h : P .sawCancellation) :
    ∀ e ∈ p.farewell, P e := by
  intro e he
  unfold farewell at he
  split at he
  · rwa [List.mem_singleton.1 he]
  · cases he

/-- A task is taken. -/
theorem take?_eq_some_iff : p.take? m = some x ↔ ∃ n t rest, p.cancelled = false ∧ p.idle = n + 1 ∧
    p.queue = t :: rest ∧
      ({ p with idle := n, queue := rest, running := p.running ++ [Run.start m.now t] },
        [.started t]) = x := by
  unfold take?
  constructor
  · intro h
    split at h
    · next hc hi hq => exact ⟨_, _, _, hc, hi, hq, Option.some.inj h⟩
    · cases h
  · rintro ⟨n, t, rest, hc, hi, hq, rfl⟩
    simp only [hc, hi, hq]

/-- An idle worker exits. -/
theorem leave?_eq_some_iff : p.leave? m = some x ↔ ∃ n, p.idle = n + 1 ∧
    (p.cancelled = true ∨ p.queue = [] ∧ p.sealed = true) ∧
      { p with idle := n }.retire m p.farewell = x := by
  unfold leave? farewell
  constructor
  · intro h
    split at h
    · cases h
    · next n hi =>
      cases hc : p.cancelled with
      | true => exact ⟨n, hi, .inl rfl, by simpa [hc] using h⟩
      | false =>
        simp only [hc, Bool.false_eq_true, if_false] at h ⊢
        split at h
        · next hs =>
          simp only [Bool.and_eq_true, List.isEmpty_iff] at hs
          exact ⟨n, hi, .inr hs, Option.some.inj h⟩
        · cases h
  · rintro ⟨n, hi, hc | ⟨hq, hs⟩, rfl⟩
    · simp [hi, hc]
    · cases hc : p.cancelled <;> simp [hi, hq, hs]

/-- A submission is decided on. -/
theorem enter?_eq_some_iff : p.enter? m = some x ↔ ∃ s rest, p.submitting = s :: rest ∧
    ((p.workers = 0 ∨ p.queue.length < p.capacity ∧ p.closed = true) ∧
        ({ p with submitting := rest }, refusal m s) = x ∨
      p.workers ≠ 0 ∧ p.queue.length < p.capacity ∧ p.closed = false ∧
        ({ p with submitting := rest, queue := p.queue ++ [s.task] },
          [.admitted s.caller s.task]) = x) := by
  unfold enter?
  constructor
  · intro h
    split at h
    · cases h
    · next s rest hs =>
      split at h
      · next hw => exact ⟨s, rest, hs, .inl ⟨.inl hw, Option.some.inj h⟩⟩
      · next hw =>
        split at h
        · next hroom =>
          split at h
          · next hc => exact ⟨s, rest, hs, .inl ⟨.inr ⟨hroom, hc⟩, Option.some.inj h⟩⟩
          · next hc =>
            exact ⟨s, rest, hs, .inr ⟨hw, hroom, by simpa using hc, Option.some.inj h⟩⟩
        · cases h
  · rintro ⟨s, rest, hs, ⟨hw | ⟨hroom, hc⟩, rfl⟩ | ⟨hw, hroom, hc, rfl⟩⟩
    · simp [hs, hw]
    · simp [hs, hroom, hc]
    · simp [hs, hw, hroom, hc]

/-- An output is published or lost. -/
theorem publish?_eq_some_iff : p.publish? m = some x ↔ ∃ output rest,
    p.publishing = output :: rest ∧
      (p.deserted = true ∧ { p with publishing := rest }.retire m [.receiverGone] = x ∨
        p.deserted = false ∧ p.results.length < p.capacity ∧
          ({ p with publishing := rest, results := p.results ++ [output], idle := p.idle + 1 },
            [.published output]) = x) := by
  unfold publish?
  constructor
  · intro h
    split at h
    · cases h
    · next output rest hp =>
      split at h
      · next hd => exact ⟨output, rest, hp, .inl ⟨hd, Option.some.inj h⟩⟩
      · next hd =>
        split at h
        · next hroom =>
          exact ⟨output, rest, hp, .inr ⟨by simpa using hd, hroom, Option.some.inj h⟩⟩
        · cases h
  · rintro ⟨output, rest, hp, ⟨hd, rfl⟩ | ⟨hd, hroom, rfl⟩⟩
    · simp [hp, hd]
    · simp [hp, hd, hroom]

/-- A receiver is answered. -/
theorem deliver?_eq_some_iff : p.deliver? = some x ↔ ∃ r rest, p.receiving = r :: rest ∧
    ((∃ output outputs, p.results = output :: outputs ∧
        ({ p with results := outputs, receiving := if r.drains then rest ++ [r] else rest },
          [.received r.caller r.drains output]) = x) ∨
      p.results = [] ∧ p.workers = 0 ∧
        ({ p with receiving := rest }, [.toldClosed r.caller r.drains]) = x) := by
  unfold deliver?
  constructor
  · intro h
    split at h
    · cases h
    · next r rest output outputs hr ho =>
      exact ⟨r, rest, hr, .inl ⟨output, outputs, ho, Option.some.inj h⟩⟩
    · next r rest hr ho =>
      split at h
      · next hw => exact ⟨r, rest, hr, .inr ⟨ho, hw, Option.some.inj h⟩⟩
      · cases h
  · rintro ⟨r, rest, hr, ⟨output, outputs, ho, rfl⟩ | ⟨ho, hw, rfl⟩⟩
    · simp only [hr, ho]
    · simp [hr, ho, hw]

end Inversion

/-- The first enabled move, carried out. -/
def step? (m : Moment) (p : Pool α) : Option (Pool α × List (Event α)) :=
  Move.all.findSome? (p.perform? m)

/-- A step is one of the moves. -/
theorem exists_move_of_step? {m : Moment} {p : Pool α} {r : Pool α × List (Event α)}
    (h : p.step? m = some r) : ∃ k, p.perform? m k = some r := by
  obtain ⟨k, _, hk⟩ := List.exists_of_findSome?_eq_some h
  exact ⟨k, hk⟩

/-- Nothing can move exactly when no move is enabled. -/
theorem step?_eq_none_iff {m : Moment} {p : Pool α} :
    p.step? m = none ↔ ∀ k, p.perform? m k = none := by
  rw [step?, List.findSome?_eq_none_iff]
  exact ⟨fun h k => h k (by cases k <;> simp [Move.all]), fun h k _ => h k⟩

/-- Whether a pool can move does not depend on the moment. -/
theorem step?_eq_none_congr (m m' : Moment) (p : Pool α) :
    p.step? m = none ↔ p.step? m' = none := by
  have key : ∀ m m' : Moment, ∀ k, p.perform? m k = none → p.perform? m' k = none := by
    intro m m' k h
    cases k
    case deliver => exact h
    all_goals
      simp only [perform?, take?, leave?, enter?, publish?] at h ⊢
      repeat' split at h
      all_goals simp_all [Nat.not_lt_of_le]
  simp only [step?_eq_none_iff]
  exact ⟨fun h k => key m m' k (h k), fun h k => key m' m k (h k)⟩

/-! ## Settling ends -/

/-- A bound on the number of moves that are still possible without an action from outside. -/
def work (p : Pool α) : Nat :=
  2 * p.submitting.length + p.queue.length + 3 * p.publishing.length + p.results.length +
    p.idle + p.receiving.length

/-- What a change that lowers the bound by `n` keeps: no task is added, none is taken off a
worker, and the handle stays as it is. -/
structure Lowers (n : Nat) (p q : Pool α) : Prop where
  work : q.work + n ≤ p.work
  load : q.load ≤ p.load
  running : ∀ r ∈ p.running, r ∈ q.running
  held : q.held = p.held

/-- The exit of a worker leaves all this alone. -/
theorem lowers_retire (m : Moment) (reason : List (Event α)) (p : Pool α) :
    Lowers 0 p (p.retire m reason).1 := by
  unfold retire
  split
  · split
    all_goals exact ⟨by simp [work], by simp [load], fun _ h => h, rfl⟩
  · exact ⟨by simp [work], by simp [load], fun _ h => h, rfl⟩

/-- Every move lowers the bound. -/
theorem lowers_of_perform? {m : Moment} {p q : Pool α} {es : List (Event α)} {k : Move}
    (h : p.perform? m k = some (q, es)) : Lowers 1 p q := by
  -- the exit of a worker, once it is off the idle or the publishing ones
  have exits : ∀ (p' : Pool α) reason, Lowers 1 p p' → p'.retire m reason = (q, es) →
      Lowers 1 p q := by
    intro p' reason h1 h2
    have h0 := lowers_retire m reason p'
    rw [h2] at h0
    exact ⟨Nat.le_trans (Nat.add_le_add_right h0.work 1) h1.work, Nat.le_trans h0.load h1.load,
      fun r hr => h0.running r (h1.running r hr), h0.held.trans h1.held⟩
  cases k with
  | take =>
    obtain ⟨n, t, rest, -, hidle, hqueue, heq⟩ := take?_eq_some_iff.1 h
    cases heq
    exact ⟨by simp [work, hidle, hqueue]; omega, by simp [load, hqueue]; omega,
      fun r hr => List.mem_append_left _ hr, rfl⟩
  | leave =>
    obtain ⟨n, hidle, -, heq⟩ := leave?_eq_some_iff.1 h
    have h1 : Lowers 1 p { p with idle := n } :=
      ⟨by simp only [work, hidle]; omega, Nat.le_refl _, fun _ h => h, rfl⟩
    exact exits _ _ h1 heq
  | enter =>
    obtain ⟨s, rest, hs, ⟨-, heq⟩ | ⟨-, -, -, heq⟩⟩ := enter?_eq_some_iff.1 h <;> cases heq
    · exact ⟨by simp only [work, hs, List.length_cons]; omega, by simp [load, hs],
        fun _ h => h, rfl⟩
    · exact ⟨by simp [work, hs]; omega, by simp [load, hs]; omega, fun _ h => h, rfl⟩
  | publish =>
    obtain ⟨output, rest, hp, ⟨-, heq⟩ | ⟨-, -, heq⟩⟩ := publish?_eq_some_iff.1 h
    · have h1 : Lowers 1 p { p with publishing := rest } :=
        ⟨by simp only [work, hp, List.length_cons]; omega, Nat.le_refl _, fun _ h => h, rfl⟩
      exact exits _ _ h1 heq
    · cases heq
      exact ⟨by simp [work, hp]; omega, Nat.le_refl _, fun _ h => h, rfl⟩
  | deliver =>
    obtain ⟨r, rest, hr, ⟨output, outputs, ho, heq⟩ | ⟨-, -, heq⟩⟩ :=
      deliver?_eq_some_iff.1 h <;> cases heq
    · refine ⟨?_, Nat.le_refl _, fun _ h => h, rfl⟩
      cases hd : r.drains with
      | false =>
        simp only [work, hr, ho, List.length_cons, Bool.false_eq_true, if_false]
        omega
      | true =>
        simp only [work, hr, ho, List.length_append, List.length_cons, List.length_nil, if_true]
        omega
    · exact ⟨by simp only [work, hr, List.length_cons]; omega, Nat.le_refl _, fun _ h => h, rfl⟩

/-- Every step lowers the bound. -/
theorem work_of_step? {m : Moment} {p q : Pool α} {es : List (Event α)}
    (h : p.step? m = some (q, es)) : q.work < p.work :=
  let ⟨_, hk⟩ := exists_move_of_step? h
  (lowers_of_perform? hk).work

/-- Moves until nothing moves. -/
def settle (m : Moment) (p : Pool α) : Pool α × List (Event α) :=
  match _h : p.step? m with
  | none => (p, [])
  | some (q, es) =>
    let (r, fs) := q.settle (m.after es)
    (r, es ++ fs)
termination_by p.work
decreasing_by exact work_of_step? ‹_›

/-- In a settled pool nothing can move. -/
theorem step?_settle (m : Moment) (p : Pool α) : (p.settle m).1.step? m = none := by
  fun_induction settle m p with
  | case1 m p h => exact h
  | case2 m p q es h r fs hr ih =>
    rw [hr] at ih
    exact (step?_eq_none_congr _ _ _).1 ih

/-- What holds of the pool and is kept by every move holds of the settled pool. -/
theorem settle_induction {P : Pool α → Prop} (m : Moment) (p : Pool α) (h0 : P p)
    (hstep : ∀ m (p q : Pool α) es k, P p → p.perform? m k = some (q, es) → P q) :
    P (p.settle m).1 := by
  fun_induction settle m p with
  | case1 => exact h0
  | case2 m p q es h r fs hr ih =>
    obtain ⟨k, hk⟩ := exists_move_of_step? h
    rw [hr] at ih
    exact ih (hstep m p q es k h0 hk)

/-- A settled pool holds no more tasks than before. -/
theorem load_settle (m : Moment) (p : Pool α) : (p.settle m).1.load ≤ p.load :=
  settle_induction m p (P := fun q => q.load ≤ p.load) (Nat.le_refl _)
    fun _ _ _ _ _ hp h => Nat.le_trans (lowers_of_perform? h).load hp

/-- Settling takes no task off a worker. -/
theorem mem_running_settle (m : Moment) (p : Pool α) {r : Run α} (h : r ∈ p.running) :
    r ∈ (p.settle m).1.running :=
  settle_induction m p (P := fun q => r ∈ q.running) h
    fun _ _ _ _ _ hp h => (lowers_of_perform? h).running r hp

end Workforce.Pool
