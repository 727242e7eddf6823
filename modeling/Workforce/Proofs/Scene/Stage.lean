import Workforce.Proofs.Scene.Change
/-!
# Runs of a scene

A run of a scene is any sequence of commands, internal moves, ends of tasks and moves of the clock,
in any order: between two commands some, all or none of the enabled moves may be made. What the
commands do by letting the scene settle is one of these runs.

## Main definitions

* `Workforce.Scene.order` — what a command does at once, before anything moves by itself.
* `Workforce.Stage` — a scene, and how many commands there have been.
* `Workforce.Stage.Step`, `Stage.Steps` — a step of a scene, and steps one after the other.
* `Workforce.Stage.Settled` — nothing can move.

## Main results

* `Workforce.Scene.Changes.order` — whatever a command does at once is one change after the other.
* `Workforce.Stage.Steps.changes` — a run changes a scene at one place after the other.
* `Workforce.Stage.shortRun`, `Stage.lateRun` — a run in two parts, for examples.

## Implementation notes

The clock may move to any later time and a running task may end at any time: what is proved of all
these runs does not depend on running times.
-/

namespace Workforce

open Occurrence Trail History

variable {α : Type}

/-! ## What a command does at once -/

namespace Scene

/-- An action on a pool that must be there, with what is asked for before and after it. -/
def visit (i : Nat) (before after : Trail α)
    (f : Moment → Pool α → Pool α × List (Event α)) (s : Scene α) : Scene α × History α :=
  match s.pool? i with
  | none => (s, [])
  | some _ =>
    ((s.atPool i f).1, ofTrail (.pool i) before ++ ofEntries (s.atPool i f).2 ++
      ofTrail (.pool i) after)

/-- What a command does at once, with what is asked for and what happens. -/
def order (call : Nat) (s : Scene α) : Command α → Scene α × History α
  | .newPool size child => ((s.newPool size child).2.1, ofEntries (s.newPool size child).2.2)
  | .submit i task =>
    s.visit i [asked ⟨some call, task⟩] [] fun m => Pool.submit m ⟨some call, task⟩
  | .next i => s.visit i [] [joined ⟨some call, false⟩] fun _ p =>
      (p.receive ⟨some call, false⟩, [])
  | .shutdown i => s.visit i [] [joined ⟨some call, true⟩] fun _ p =>
      ((p.close.1).receive ⟨some call, true⟩, p.close.2)
  | .batch size tasks admission =>
    ((s.newBatch call size tasks admission).1,
      (.batch s.batches.length, batched call tasks) ::
        ofEntries (s.newBatch call size tasks admission).2)
  | .close i => s.visit i [] [] fun _ => Pool.close
  | .cancel i => s.visit i [] [] fun _ => Pool.cancel
  | .cancelParent => (s.cancelParent.1, ofEntries s.cancelParent.2)
  | .drop i => s.visit i [] [] fun _ p => (p.release, [])
  | .abandon c =>
    if s.pendingCalls.contains c then
      ((s.abandon c).1,
        (s.pools.zipIdx.flatMap fun x => ofTrail (.pool x.2)
          ((x.1.submitting.filter (·.caller == some c)).map retracted ++
            (x.1.receiving.filter (·.caller == some c)).map departed ++
              (x.1.withdraw c).2.map event)) ++
          s.batches.zipIdx.flatMap fun x => ofTrail (.batch x.2)
            ((if x.1.pending && x.1.call == c then x.1.abandon else (x.1, [])).2.map event))
    else (s, [])
  | .release name =>
    match s.runs.find? (·.task.id.text == name) with
    | none => (s, [])
    | some r => ((s.finish r.task.id).1, ofEntries (s.finish r.task.id).2)
  | .askParent | .describe _ | .advance _ | .run => (s, [])

/-- The scene after a change of one pool. -/
def putPool (i : Nat) (r : Pool α × List (Event α)) (s : Scene α) : Scene α :=
  { s with pools := s.pools.set i r.1 }.after (r.2.map (Place.pool i, ·))

/-- The scene after a change of one batch. -/
def putBatch (i : Nat) (r : Batch α × List (Event α)) (s : Scene α) : Scene α :=
  { s with batches := s.batches.set i r.1 }.after (r.2.map (Place.batch i, ·))

end Scene

/-! ## Runs -/

/-- A scene, and how many commands there have been. -/
structure Stage (α : Type) where
  calls : Nat := 0
  scene : Scene α := {}

namespace Stage

/-- A step of a scene, with what occurs in it. -/
inductive Step : Stage α → History α → Stage α → Prop
  /-- A command is given. -/
  | order (g : Stage α) (c : Command α) :
      Step g (g.scene.order g.calls c).2 ⟨g.calls + 1, (g.scene.order g.calls c).1⟩
  /-- A pool moves. -/
  | pool (g : Stage α) {i : Nat} {p q : Pool α} {es : List (Event α)} (k : Pool.Move)
      (here : g.scene.pools[i]? = some p) (move : p.perform? g.scene.moment k = some (q, es)) :
      Step g (ofEntries (es.map (Place.pool i, ·)))
        { g with scene := g.scene.putPool i (q, es) }
  /-- A batch moves. -/
  | batch (g : Stage α) {i : Nat} {b c : Batch α} {es : List (Event α)} (k : Batch.Move)
      (here : g.scene.batches[i]? = some b) (move : b.perform? g.scene.moment k = some (c, es)) :
      Step g (ofEntries (es.map (Place.batch i, ·)))
        { g with scene := g.scene.putBatch i (c, es) }
  /-- The running task of that name ends. -/
  | finish (g : Stage α) (id : TaskId) :
      Step g (ofEntries (g.scene.finish id).2) { g with scene := (g.scene.finish id).1 }
  /-- The clock moves on. -/
  | clock (g : Stage α) (time : Nat) (later : g.scene.now ≤ time) :
      Step g [] { g with scene := { g.scene with now := time } }

/-- Runs of a scene, with what occurs in them. -/
abbrev Steps : Stage α → History α → Stage α → Prop := Chain Step

/-- Nothing can move: no pool and no batch. -/
def Settled (g : Stage α) : Prop :=
  (∀ p ∈ g.scene.pools, p.step? g.scene.moment = none) ∧
    ∀ b ∈ g.scene.batches, b.step? g.scene.moment = none

end Stage

/-! ## Commands change a scene at one place after the other -/

namespace Scene

variable {s : Scene α}

@[simp] lemma ofEntries_map (place : Place) (es : List (Event α)) :
    ofEntries (es.map (place, ·)) = ofTrail place (es.map event) := by
  simp [ofEntries, ofTrail, Function.comp_def]

/-- A change that does not depend on the moment changes every component by itself. -/
lemma sweep_const {σ : Type} (f : σ → σ × List (Event α)) (brittle : Bool) (xs : List σ) :
    sweep (fun _ => f) brittle xs = xs.map f := by
  induction xs generalizing brittle with
  | nil => rfl
  | cons x xs ih => rw [sweep, ih, List.map_cons]

/-- The events of components, each at its place. -/
lemma ofEntries_entries {σ τ : Type} (place : Nat → Place) (f : σ → τ × List (Event α))
    (xs : List σ) : ofEntries (entries place (xs.map f)) =
      xs.zipIdx.flatMap fun x => ofTrail (place x.2) ((f x.1).2.map event) := by
  simp [entries, ofEntries, ofTrail, List.zipIdx_map, List.flatMap_map, List.map_flatMap,
    Function.comp_def]

/-- A change that does not depend on the moment, at every pool and every batch. -/
lemma everywhere_const (f : Pool α → Pool α × List (Event α))
    (g : Batch α → Batch α × List (Event α)) (s : Scene α) :
    (s.everywhere (fun _ => f) fun _ => g).1.pools = s.pools.map (f · |>.1) ∧
      (s.everywhere (fun _ => f) fun _ => g).1.batches = s.batches.map (g · |>.1) ∧
      ofEntries (s.everywhere (fun _ => f) fun _ => g).2 =
        (s.pools.zipIdx.flatMap fun x => ofTrail (.pool x.2) ((f x.1).2.map event)) ++
          s.batches.zipIdx.flatMap fun x => ofTrail (.batch x.2) ((g x.1).2.map event) := by
  simp only [everywhere, after, sweep_const, List.map_map]
  refine ⟨rfl, rfl, ?_⟩
  rw [ofEntries_append, ofEntries_entries, ofEntries_entries]

/-- Such a change is one change after the other, if it is a run of every component. What is recorded
at a pool may be more than the events. -/
lemma Changes.everywhere (s : Scene α) (f : Pool α → Pool α × List (Event α))
    (g : Batch α → Batch α × List (Event α)) (record : Pool α → Trail α)
    (pool : ∀ p, Pool.Steps p (record p) (f p).1)
    (batch : ∀ b, Batch.Steps b (g b).2 (g b).1) :
    Changes s ((s.pools.zipIdx.flatMap fun x => ofTrail (.pool x.2) (record x.1)) ++
      s.batches.zipIdx.flatMap fun x => ofTrail (.batch x.2) ((g x.1).2.map event))
      (s.everywhere (fun _ => f) fun _ => g).1 := by
  obtain ⟨hpools, hbatches, -⟩ := everywhere_const f g s
  have hfirst := Changes.pools s (f · |>.1) record pool
  have hsecond := Changes.batches { s with pools := s.pools.map (f · |>.1) } (g · |>.1)
    (g · |>.2) batch
  have hlast : Change { s with
      pools := s.pools.map (f · |>.1), batches := s.batches.map (g · |>.1) } []
      (s.everywhere (fun _ => f) fun _ => g).1 := .still hpools hbatches
  simpa using (hfirst.trans hsecond).tail hlast

/-- An action on a pool is a change of that pool, if it is a run of every pool whose handle is
held. -/
lemma Changes.visit (s : Scene α) (i : Nat) (before after : Trail α)
    (f : Moment → Pool α → Pool α × List (Event α))
    (steps : ∀ p, p.held = true →
      Pool.Steps p (before ++ (f s.moment p).2.map event ++ after) (f s.moment p).1) :
    Changes s (s.visit i before after f).2 (s.visit i before after f).1 := by
  unfold Scene.visit
  split
  · exact .refl s
  · next p hp =>
    obtain ⟨hi, hheld⟩ := Option.filter_eq_some_iff.1 hp
    have hat : s.atPool i f = (s.putPool i (f s.moment p),
        (f s.moment p).2.map (Place.pool i, ·)) := by
      rw [atPool, hi]
      rfl
    rw [hat, ofEntries_map, ofTrail, ofTrail, ofTrail, ← List.map_append, ← List.map_append]
    exact .single (.pool hi (steps p hheld) rfl rfl)

/-- Making a pool is a change, or nothing. -/
lemma Changes.newPool (size : Nat) (child : Bool) (s : Scene α) :
    Changes s (ofEntries (s.newPool size child).2.2) (s.newPool size child).2.1 := by
  unfold Scene.newPool Pool.make
  by_cases hsize : size = 0
  · simp only [hsize]
    exact .refl s
  · simp only [hsize, dite_false, if_true, ofEntries_map]
    exact .single (.newPool _ _ _ rfl rfl)

/-- Beginning a batch is a change, whatever comes of it. -/
lemma Changes.newBatch (call size : Nat) (tasks : List (Task α)) (admission : Admission)
    (s : Scene α) :
    Changes s ((.batch s.batches.length, batched call tasks) ::
      ofEntries (s.newBatch call size tasks admission).2)
      (s.newBatch call size tasks admission).1 := by
  have hcons : ∀ es : List (Event α), (Place.batch s.batches.length, batched call tasks) ::
      ofTrail (.batch s.batches.length) (es.map event) =
        ofTrail (.batch s.batches.length) (batched call tasks :: es.map event) := fun _ => rfl
  unfold Scene.newBatch
  split
  · next hstart =>
    -- nothing to run
    have hnil : tasks = [] := by
      unfold Batch.start at hstart
      split at hstart
      · next h => simpa using h
      · unfold Pool.make at hstart
        split at hstart
        · cases hstart
        · cases hstart
    have hone : ofEntries [(Place.batch s.batches.length,
        Event.batchAnswered call (.batch (.ok []) : Answer α))] =
          ofTrail (.batch s.batches.length)
            ([Event.batchAnswered call (.batch (.ok []))].map event) := rfl
    rw [hone, hcons]
    exact .single (.noBatch rfl rfl (by rw [hnil]; rfl)
      (by simp [essential, admitted?, started?, ended?, receipt?, told?]))
  · next b hstart =>
    obtain ⟨hcall, hremaining, hsubmitter, hpool⟩ := Batch.start_eq hstart
    rw [ofEntries_map, hcons]
    exact .single (.newBatch ⟨hcall, hremaining, hsubmitter, hpool⟩ rfl rfl)
  · next e hstart =>
    dsimp only
    rw [ofEntries_map, hcons]
    refine .single (.noBatch rfl rfl ?_ ?_)
    · rw [List.map_append, collect_append, collect_discards]
      simp [discarded?]
    · intro e he
      rcases List.mem_append.1 he with he | he
      · obtain ⟨t, -, rfl⟩ := List.mem_map.1 he
        rfl
      · rw [List.mem_singleton.1 he]
        rfl

/-- Giving up a call at a batch is a step of the batch, if it is the call of the batch. -/
lemma steps_of_abandon (call : Nat) (b : Batch α) :
    Batch.Steps b (if b.pending && b.call == call then b.abandon else (b, [])).2
      (if b.pending && b.call == call then b.abandon else (b, [])).1 := by
  split
  · exact .single .abandon
  · exact .refl b

/-- The end of a task is one change after the other. -/
lemma Changes.finish (id : TaskId) (s : Scene α) :
    Changes s (ofEntries (s.finish id).2) (s.finish id).1 := by
  unfold Scene.finish
  rw [(everywhere_const (Pool.finish id) (Batch.finish id) s).2.2]
  exact Changes.everywhere s (Pool.finish id) (Batch.finish id) _ (Pool.Steps.of_finish id)
    fun b => .single (.finish id)

/-- **Whatever a command does at once is one change after the other.** -/
theorem Changes.order (call : Nat) (s : Scene α) (c : Command α) :
    Changes s (s.order call c).2 (s.order call c).1 := by
  cases c with
  | newPool size child => exact .newPool size child s
  | submit i task =>
    refine .visit s i _ _ _ fun p hheld => ?_
    rw [List.append_nil]
    exact .single (.of_submit s.moment ⟨some call, task⟩ hheld)
  | next i =>
    refine .visit s i _ _ _ fun p hheld => ?_
    exact .single (.receive ⟨some call, false⟩ hheld (by simp))
  | shutdown i =>
    refine .visit s i _ _ _ fun p hheld => ?_
    have hclosed : p.close.1.closed = true := by rw [Pool.close_frame]
    have hheld' : p.close.1.held = true := by rw [Pool.close_frame]; exact hheld
    exact (Pool.Steps.of_close p).tail (.receive ⟨some call, true⟩ hheld' fun _ => hclosed)
  | batch size tasks admission => exact .newBatch call size tasks admission s
  | close i =>
    refine .visit s i _ _ _ fun p _ => ?_
    rw [List.nil_append, List.append_nil]
    exact .of_close p
  | cancel i => exact .visit s i _ _ _ fun p _ => .single .cancel
  | cancelParent =>
    have hall := everywhere_const (fun p => (p.parentCancelled, []))
      (fun b => (b.parentCancelled, [])) { s with parentCancelled := true }
    have hstill : Change s [] { s with parentCancelled := true } := .still rfl rfl
    have hrest := Changes.everywhere { s with parentCancelled := true }
      (fun p => (p.parentCancelled, [])) (fun b => (b.parentCancelled, [])) (fun _ => [])
      (fun p => .single .follow) fun b => .single .follow
    show Changes s (ofEntries s.cancelParent.2) s.cancelParent.1
    unfold Scene.cancelParent
    rw [hall.2.2]
    exact (Chain.single hstill).trans hrest
  | askParent => exact .refl s
  | describe i => exact .refl s
  | drop i => exact .visit s i _ _ _ fun p _ => .single .release
  | abandon c =>
    unfold Scene.order
    dsimp only
    split
    · exact Changes.everywhere s (Pool.withdraw c) _ _ (fun p => .single (.withdraw c))
        (steps_of_abandon c)
    · exact .refl s
  | release name =>
    unfold Scene.order
    dsimp only
    split
    · exact .refl s
    · exact .finish _ s
  | advance ms => exact .refl s
  | run => exact .refl s

end Scene

/-! ## Runs change a scene at one place after the other -/

namespace Stage

open Scene

variable {g g' : Stage α} {h : History α} {place : Place}

/-- A step changes a scene at one place after the other, provided that its batches are sound. -/
lemma Step.changes (step : Step g h g') (sound : ∀ b ∈ g.scene.batches, b.Sound) :
    Changes g.scene h g'.scene := by
  cases step with
  | order c => exact .order g.calls g.scene c
  | pool k here move =>
    rw [ofEntries_map]
    exact .single (.pool here (.single (.of_perform? move)) rfl rfl)
  | batch k here move =>
    rw [ofEntries_map]
    have hb := sound _ (List.mem_of_getElem? here)
    exact .single (.batch here (.single (.of_perform? hb move)) rfl rfl)
  | finish id => exact .finish id g.scene
  | clock time later => exact .single (.still rfl rfl)

/-- **A run changes a scene at one place after the other**, and its batches stay sound. -/
theorem Steps.changes (steps : Steps g h g') (sound : ∀ b ∈ g.scene.batches, b.Sound) :
    Changes g.scene h g'.scene := by
  induction steps with
  | refl => exact .refl _
  | tail _ last ih => exact ih.trans (last.changes (ih.sound sound))

/-- A run from the beginning changes an empty scene. -/
lemma Steps.changes_of_empty (steps : Steps {} h g) : Changes {} h g.scene :=
  steps.changes (by simp)

/-- After a run from the beginning what holds of every batch holds of all batches. -/
lemma Steps.batches_sound (steps : Steps {} h g) : ∀ b ∈ g.scene.batches, b.Sound :=
  steps.changes_of_empty.sound (by simp)

/-- After a run from the beginning what holds of every pool holds of the pool at a place. -/
lemma Steps.pool_sound (steps : Steps {} h g) {p : Pool α}
    (here : g.scene.poolAt place = some p) : p.Sound :=
  steps.changes_of_empty.pool_sound here

/-- What was started at a place had been admitted there, in the order of the admissions. -/
lemma Steps.started_prefix (steps : Steps {} h g) {p : Pool α}
    (here : g.scene.poolAt place = some p) :
    collect started? (trailAt place h) <+: Trail.admitted (trailAt place h) := by
  obtain ⟨p₀, os, blank, hsteps, hos, -⟩ := steps.changes_of_empty.life here
  obtain ⟨hadmitted, hstarted, -⟩ := collect_congr hos
  rw [Trail.admitted, ← hadmitted, ← hstarted]
  exact Pool.Steps.started_prefix hsteps blank.queue

/-- Nothing can move in the pool at a place of a settled scene. -/
lemma Settled.resting (settled : g.Settled) {p : Pool α} (here : g.scene.poolAt place = some p) :
    p.Resting := by
  cases place with
  | pool i => exact Pool.step?_eq_none_iff_resting.1 (settled.1 p (List.mem_of_getElem? here))
  | batch i =>
    obtain ⟨b, hb, rfl⟩ := Option.map_eq_some_iff.1 here
    exact Batch.resting_of_step? (settled.2 b (List.mem_of_getElem? hb))

/-- Nor in a pool of the scene. -/
lemma Settled.resting_pool (settled : g.Settled) {i : Nat} {p : Pool α}
    (here : g.scene.pools[i]? = some p) : p.Resting := by
  have here' : g.scene.poolAt (.pool i) = some p := here
  exact settled.resting here'

/-! ## A short run

One worker, its queue full, one call that waits to submit and one that waits for an output: the pool
is closed then, and later the running task comes to its end. -/

section ShortRun

/-- The task that a call of the short run hands over. -/
def shortTask (call : Nat) : Task Nat :=
  { id := ⟨call, none⟩, duration := none, outcome := .value call, frail := false, trace := none }

/-- The pool of the short run when it has just been closed. -/
def shortPool : Pool Nat where
  size := 1
  size_pos := Nat.one_pos
  counted := 1
  idle := 0
  running := [Run.start 0 (shortTask 3)]
  publishing := []
  queue := [shortTask 4, shortTask 5]
  results := []
  submitting := [⟨some 6, shortTask 6⟩]
  receiving := [⟨some 7, false⟩]
  closed := true
  cancelled := false
  child := false
  held := true

/-- What occurs up to that moment. -/
def shortTrail : Trail Nat :=
  [event (.poolStarted 1), event .workerStarted, asked ⟨some 1, shortTask 1⟩,
    event (.admitted (some 1) (shortTask 1)), event (.started (shortTask 1)),
    event (.ended (shortTask 1)), event (.published (some 1)), joined ⟨some 2, false⟩,
    event (.received (some 2) false (some 1)), asked ⟨some 3, shortTask 3⟩,
    event (.admitted (some 3) (shortTask 3)), event (.started (shortTask 3)),
    asked ⟨some 4, shortTask 4⟩, event (.admitted (some 4) (shortTask 4)),
    asked ⟨some 5, shortTask 5⟩, event (.admitted (some 5) (shortTask 5)),
    asked ⟨some 6, shortTask 6⟩, joined ⟨some 7, false⟩, event .poolClosed]

/-- The scene at that moment. -/
def shortStage : Stage Nat := ⟨9, { pools := [shortPool] }⟩

/-- What occurs up to that moment. -/
def shortHistory : History Nat := ofTrail (.pool 0) shortTrail

/-- The short run up to the close. -/
lemma shortRun : Steps {} shortHistory shortStage := by
  have opened : Steps ({} : Stage Nat) _ _ := Chain.single (.order {} (.newPool 1 false))
  -- the first task comes to its end, and its output is received
  have first := ((opened.tail (.order _ (.submit 0 (shortTask 1)))).tail
    (.pool (i := 0) _ .enter rfl rfl)).tail (.pool (i := 0) _ .take rfl rfl)
  have ended := (first.tail (.finish _ ⟨1, none⟩)).tail (.pool (i := 0) _ .publish rfl rfl)
  have received := (ended.tail (.order _ (.next 0))).tail (.pool (i := 0) _ .deliver rfl rfl)
  -- the next one runs, and two more fill the queue
  have busy := ((received.tail (.order _ (.submit 0 (shortTask 3)))).tail
    (.pool (i := 0) _ .enter rfl rfl)).tail (.pool (i := 0) _ .take rfl rfl)
  have filling := (busy.tail (.order _ (.submit 0 (shortTask 4)))).tail
    (.pool (i := 0) _ .enter rfl rfl)
  have full := (filling.tail (.order _ (.submit 0 (shortTask 5)))).tail
    (.pool (i := 0) _ .enter rfl rfl)
  have waiting := (full.tail (.order _ (.submit 0 (shortTask 6)))).tail (.order _ (.next 0))
  exact waiting.tail (.order _ (.close 0))

/-- At that moment nothing can move. -/
lemma shortStage_settled : shortStage.Settled := by
  refine ⟨fun p hp => ?_, fun b hb => by cases hb⟩
  rw [List.mem_singleton.1 hp]
  rfl

/-- The tasks of the short run carry the names of their calls. -/
lemma shortHistory_named : shortHistory.Named where
  asked place s c hs hc := by
    simp [shortHistory, shortTrail, ofTrail] at hs
    rcases hs with ⟨-, rfl⟩ | ⟨-, rfl⟩ | ⟨-, rfl⟩ | ⟨-, rfl⟩ | ⟨-, rfl⟩ <;>
      cases hc <;> rfl
  batched place c tasks i t hs := by
    simp [shortHistory, shortTrail, ofTrail] at hs

/-- What occurs after the close, when the running task has come to its end and one more is handed
in. -/
def lateTrail : Trail Nat :=
  [event (.ended (shortTask 3)), event (.published (some 3)),
    event (.received (some 7) false (some 3)), event (.started (shortTask 4)),
    event (.discarded (shortTask 6)), event (.refused (some 6) false),
    asked ⟨some 9, shortTask 9⟩, event (.discarded (shortTask 9)), event (.refused (some 9) false)]

/-- What occurs in the scene then. -/
def lateHistory : History Nat := ofTrail (.pool 0) lateTrail

/-- The pool after that. -/
def latePool : Pool Nat :=
  { shortPool with
    running := [Run.start 0 (shortTask 4)]
    queue := [shortTask 5]
    submitting := []
    receiving := [] }

/-- The scene after that. -/
def lateStage : Stage Nat := ⟨10, { pools := [latePool] }⟩

/-- The rest of the short run. -/
lemma lateRun : Steps shortStage lateHistory lateStage := by
  have ended : Steps shortStage _ _ := Chain.single (.finish shortStage ⟨3, none⟩)
  have served := (ended.tail (.pool (i := 0) _ .publish rfl rfl)).tail
    (.pool (i := 0) _ .deliver rfl rfl)
  have refused := (served.tail (.pool (i := 0) _ .take rfl rfl)).tail
    (.pool (i := 0) _ .enter rfl rfl)
  exact refused.tail (.order _ (.submit 0 (shortTask 9)))

/-- Nothing can move then either. -/
lemma lateStage_settled : lateStage.Settled := by
  refine ⟨fun p hp => ?_, fun b hb => by cases hb⟩
  rw [List.mem_singleton.1 hp]
  rfl

/-- All tasks of the short run carry the names of their calls. -/
lemma shortHistory_append_named : History.Named (shortHistory ++ lateHistory) where
  asked place s c hs hc := by
    simp [shortHistory, shortTrail, lateHistory, lateTrail, ofTrail] at hs
    rcases hs with ⟨-, rfl⟩ | ⟨-, rfl⟩ | ⟨-, rfl⟩ | ⟨-, rfl⟩ | ⟨-, rfl⟩ | ⟨-, rfl⟩ <;>
      cases hc <;> rfl
  batched place c tasks i t hs := by
    simp [shortHistory, shortTrail, lateHistory, lateTrail, ofTrail] at hs

end ShortRun

end Stage

end Workforce
