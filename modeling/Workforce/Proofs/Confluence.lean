import Workforce.Proofs.Scene.Frail
/-!
# The order of internal moves does not matter

After an action on a scene in which nothing can move, pools and batches move until nothing can move
again. Which of them moves next is left open, but it makes no difference: every order ends, and all
orders end in the same scene, in which the same tasks have been started and discarded and the same
calls have been answered in the same way. There is one exception: if frail tasks are discarded at
two places meanwhile, the order decides which of the discards panics.

## Main definitions

* `Workforce.Alike` — events that differ at most in their order and in who is told of a panic.
* `Workforce.Scene.Confluent` — the order of the moves does not matter.

## Main results

* `Workforce.Stage.Steps.settling_confluent` — after one action on a settled scene the order of the
  moves does not matter.
* `Workforce.Stage.twins_not_determined` — which of two submitters breaks down depends on the order.

## Implementation notes

Workers have no identity, so that two scenes that are the same up to the identity of the workers are
equal.

The discard of a frail task panics only once in a scene. `Confluent.same` says that the order
matters for nothing where frail tasks are discarded at one place at most, and `Confluent.agree` that
elsewhere it matters for nothing but the panic. `Confluent.fixed` is about discards that panic
always or never.
-/

namespace Workforce

open Occurrence Trail History

variable {α : Type}

/-- Events that differ at most in their order and in who is told of a panic: the same tasks are
started and discarded, and the same calls are answered. Apart from an answer that tells of a panic
in place of a refusal, or in place of the values of a batch, the answers are the same. -/
structure Alike (es fs : List (Event α)) : Prop where
  started : (collect started? (es.map event)).Perm (collect started? (fs.map event))
  discarded : (collect discarded? (es.map event)).Perm (collect discarded? (fs.map event))
  answered : ∃ xs ys, List.Forall₂ Answer.Softens (es.filterMap Event.answer?) xs ∧
    List.Forall₂ Answer.Softens (fs.filterMap Event.answer?) ys ∧ xs.Perm ys

/-- Events are alike if they would be the same, up to the order, when no discard panicked. -/
lemma Alike.of_softens {es fs es' fs' : List (Event α)} (h : Softens es es') (h' : Softens fs fs')
    (hperm : es'.Perm fs') : Alike es fs where
  started := by
    rw [h.started, h'.started]
    exact (hperm.map event).filterMap started?
  discarded := by
    rw [h.discarded, h'.discarded]
    exact (hperm.map event).filterMap discarded?
  answered := ⟨_, _, h.answered, h'.answered, hperm.filterMap Event.answer?⟩

namespace Scene

variable {s : Scene α}

/-! ## Orders of moves -/

/-- The order in which moves are made does not matter, except for which discard panics if frail
tasks are discarded at several places. -/
structure Confluent (s : Scene α) : Prop where
  /-- Every order ends: it has no more moves than the bound says. -/
  ends : ∀ {ks t es}, s.play? ks = some (t, es) → ks.length ≤ s.work
  /-- Letting the scene settle is one of the orders that end. -/
  settles : s.Plays s.settle.2 s.settle.1 ∧ Moves.Stuck move? s.settle.1
  /-- All orders that end have the same outcome, unless frail tasks are discarded at several places
  when the scene is left to settle and none has been discarded before. -/
  same : (s.brittle = true → OnePlace s.settle.2) → Moves.Determined move? s
  /-- So they have if the discards of frail tasks panic always, or never. -/
  fixed : ∀ m : Moment, m.now = s.now → Moves.Determined (moveAt? m) s
  /-- In any case all orders that end make the same moves and lead to the same scene but for the
  marks of a panic. At every place the same tasks are started and discarded and the same calls are
  answered, with answers that differ at most in who is told of the panic. -/
  agree : ∀ {ks ls t u es fs}, s.play? ks = some (t, es) → Moves.Stuck move? t →
    s.play? ls = some (u, fs) → Moves.Stuck move? u →
    ks.Perm ls ∧ t.gentle = u.gentle ∧ ∀ place, Alike (eventsAt place es) (eventsAt place fs)

/-- At one moment, moves of orderly scenes commute. -/
lemma commuting_at (m : Moment) :
    Moves.Commuting (moveAt? m : Moves (Scene α) Move (Entry α))
      fun s => s.Orderly ∧ m.now = s.now where
  keep hs h := ⟨hs.1.of_moveAt? hs.2 h, hs.2.trans (moment_of_moveAt? h).1.symm⟩
  join hs hkl h h' := hs.1.join hs.2 hkl h h'

/-- In an orderly scene the order in which moves are made does not matter. -/
lemma Orderly.confluent (hs : s.Orderly) : s.Confluent where
  ends := length_le_of_play?
  settles := ⟨plays_settle s, stuck_iff.2 (Stage.settled_settle 0 s)⟩
  same hone := commuting.determined ⟨hs, fun hbrittle => hs.local_of_onePlace (hone hbrittle)⟩
  fixed m now := (commuting_at m).determined ⟨hs, now⟩
  agree order ends order' ends' := by
    obtain ⟨hstate, hmoves, es', fs', hperm, hsoft, hsoft'⟩ :=
      hs.gentle_unique order ends order' ends'
    exact ⟨hmoves, hstate, fun place =>
      .of_softens (hsoft place) (hsoft' place) (hperm.filterMap _)⟩

end Scene

namespace Stage

open Scene

variable {g : Stage α} {h : History α}

/-- **The order of internal moves does not matter.** Take any run, and let nothing be able to move
after it. After one more action, be it a command, the end of a task or a move of the clock, every
order in which pools and batches make their moves ends, and all orders that end agree on the scene,
on the tasks that are started and discarded and on the calls that are answered. Only if frail tasks
are discarded at several places does the order decide something: which of the discards panics.

**Proof sketch.** Every move lowers a bound. Two moves at different places commute, and so do two
moves at one place unless one of them takes away what the other one needs: the room in a queue, the
last worker, or the last call that waits on a pool that nobody holds. A pool at rest has no room, no
idle worker or nobody who waits, one action adds one thing to that, and moves keep it so. Whether
discards panic changes between two moves only if the first one discards a frail task, and then the
second one, at the same place, does not. An order that ends contains every move that is enabled,
which might as well have been made first; by induction all orders that end agree. -/
theorem Steps.settling_confluent (run : Steps {} h g) (settled : g.Settled) (x : Action α) :
    (g.scene.immediate x).1.Confluent :=
  (run.orderly_immediate settled x).confluent

/-- The task that runs in the pool of the short run comes to its end. -/
theorem settling_confluent_short : shortStage.Settled ∧
    (shortStage.scene.immediate (.finish ⟨3, none⟩)).1.Confluent :=
  ⟨shortStage_settled, Steps.settling_confluent shortRun shortStage_settled (.finish ⟨3, none⟩)⟩

/-! ## Frail tasks at two places

Two batches of four tasks each reach their deadlines at the same time. The last task of each is
frail, and is in the hands of the submitter. -/

section Twins

/-- A task of one of the two batches. -/
def twinTask (call index : Nat) (frail : Bool) : Task Nat where
  id := ⟨call, some index⟩
  duration := some 10
  outcome := .value index
  frail := frail
  trace := none

/-- The tasks of one of the two batches. -/
def twinTasks (call : Nat) : List (Task Nat) :=
  [twinTask call 0 false, twinTask call 1 false, twinTask call 2 false, twinTask call 3 true]

/-- One of the two batches when nothing can move: the first task runs, two are queued, and the
submission of the last one waits. -/
def twinBatch (call : Nat) : Batch Nat where
  call := call
  pool := {
    size := 1
    size_pos := Nat.one_pos
    counted := 1
    idle := 0
    running := [Run.start 0 (twinTask call 0 false)]
    publishing := []
    queue := [twinTask call 1 false, twinTask call 2 false]
    results := []
    submitting := [⟨none, twinTask call 3 true⟩]
    receiving := [⟨none, true⟩]
    closed := false
    cancelled := false
    child := false
    held := true }
  total := 4
  remaining := []
  submitter := .active
  admitted := 3
  values := []
  since := 0
  deadline := some 5

/-- The scene at that moment. -/
def twinStage : Stage Nat := ⟨2, { batches := [twinBatch 0, twinBatch 1] }⟩

/-- There is a run that leads to it. -/
lemma twinRun : ∃ h, Steps {} h twinStage := by
  have first : Steps ({} : Stage Nat) _ _ :=
    Chain.single (.order {} (.batch 1 (twinTasks 0) (.within 0 5000000)))
  have begun := first.tail (.order _ (.batch 1 (twinTasks 1) (.within 0 5000000)))
  -- the worker of the first batch takes one task, two more fill the queue, and the last one waits
  have busy := ((begun.tail (.batch (i := 0) _ .feed rfl rfl)).tail
    (.batch (i := 0) _ (.pool .enter) rfl rfl)).tail (.batch (i := 0) _ (.pool .take) rfl rfl)
  have filling := (busy.tail (.batch (i := 0) _ .feed rfl rfl)).tail
    (.batch (i := 0) _ (.pool .enter) rfl rfl)
  have full := (filling.tail (.batch (i := 0) _ .feed rfl rfl)).tail
    (.batch (i := 0) _ (.pool .enter) rfl rfl)
  have waiting := full.tail (.batch (i := 0) _ .feed rfl rfl)
  -- so it goes in the second batch
  have busy' := ((waiting.tail (.batch (i := 1) _ .feed rfl rfl)).tail
    (.batch (i := 1) _ (.pool .enter) rfl rfl)).tail (.batch (i := 1) _ (.pool .take) rfl rfl)
  have filling' := (busy'.tail (.batch (i := 1) _ .feed rfl rfl)).tail
    (.batch (i := 1) _ (.pool .enter) rfl rfl)
  have full' := (filling'.tail (.batch (i := 1) _ .feed rfl rfl)).tail
    (.batch (i := 1) _ (.pool .enter) rfl rfl)
  have last := full'.tail (.batch (i := 1) _ .feed rfl rfl)
  exact ⟨_, last⟩

/-- Nothing can move in it. -/
lemma twinStage_settled : twinStage.Settled := by
  refine ⟨fun p hp => (by cases hp), fun b hb => ?_⟩
  rcases List.mem_pair.1 hb with rfl | rfl <;> rfl

/-- The scene five milliseconds later, when both deadlines have been reached. -/
def twinDue : Scene Nat := (twinStage.scene.immediate (.pass 5)).1

/-- If the submitter of the first batch moves first, it is the one that breaks down. -/
lemma twins_forth : ∃ t es, twinDue.play? [.batch 0 .feed, .batch 1 .feed] = some (t, es) ∧
    Moves.Stuck move? t ∧ t.batches.map (·.submitter) = [.finished true, .finished false] := by
  refine ⟨_, _, rfl, stuck_iff.2 ⟨fun p hp => (by cases hp), fun b hb => ?_⟩, rfl⟩
  rcases List.mem_pair.1 hb with rfl | rfl <;> rfl

/-- If the submitter of the second batch moves first, it is that one. -/
lemma twins_back : ∃ t es, twinDue.play? [.batch 1 .feed, .batch 0 .feed] = some (t, es) ∧
    Moves.Stuck move? t ∧ t.batches.map (·.submitter) = [.finished false, .finished true] := by
  refine ⟨_, _, rfl, stuck_iff.2 ⟨fun p hp => (by cases hp), fun b hb => ?_⟩, rfl⟩
  rcases List.mem_pair.1 hb with rfl | rfl <;> rfl

/-- **Which of two submitters breaks down depends on the order.** Both submitters stop and discard
the task in their hands. The one that moves first breaks down, and its call will be answered with an
error; the other one does not. -/
theorem twins_not_determined : (∃ h, Steps {} h twinStage) ∧ twinStage.Settled ∧
    ¬Moves.Determined move? (twinStage.scene.immediate (.pass 5)).1 := by
  refine ⟨twinRun, twinStage_settled, fun determined => ?_⟩
  obtain ⟨t, es, order, ends, ht⟩ := twins_forth
  obtain ⟨u, fs, order', ends', hu⟩ := twins_back
  obtain ⟨rfl, -⟩ := determined order ends order' ends'
  rw [ht] at hu
  simp at hu

end Twins

end Stage

end Workforce
