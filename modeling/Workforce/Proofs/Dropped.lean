import Workforce.Proofs.Scene.LetGo
import Workforce.Proofs.Scene.Orderly
/-!
# After a pool is dropped

A pool is dropped when its handle is given up and no call waits on it. Workers that are idle then,
or want to publish, exit in the same step. One that runs a task learns of the drop when the task has
an output; if the task panics the worker goes on with the queue, unless the pool is cancelled. What
is left in the queue when the last worker exits is discarded.

## Main definitions

* `Workforce.Pool.Remains` — what becomes of a pool after it has been dropped.
* `Workforce.Stage.Drops` — what follows in the step in which a pool is dropped.
* `Workforce.Stage.Dropped` — what follows later.

## Main results

* `Workforce.Pool.Resting.drops` — a pool that is dropped in some step has no spare worker then.
* `Workforce.Pool.Resting.ebbs` — what happens in a dropped pool from one action to the next.
* `Workforce.Pool.Steps.remains` — what becomes of a dropped pool in the long run.
* `Workforce.Stage.Steps.pool_dropped` — all this in a scene, together with what giving up the
  handle means for the calls that wait.
-/

namespace Workforce

open Occurrence Trail History

variable {α : Type}

namespace Pool

variable {p q d : Pool α} {os : Trail α} {m m₀ m' : Moment} {es : List (Event α)} {x : Turn α}

/-! ## What is done by the handle -/

/-- It takes the handle of a pool to do this. -/
def Turn.needsHandle : Turn α → Bool
  | submit _ _ | next _ | shutdown _ | close | cancel | drop => true
  | _ => false

/-- **What is done to a pool at rest leaves it covered.** -/
lemma Resting.covered_apply (h : p.Resting) (sound : p.Sound) (used : p.deserted = false)
    (held : x.needsHandle = true → p.held = true) : (x.apply m p).1.Covered := by
  have hcovered := h.covered sound
  have hline : p.submitting = [] ∨ p.idle = 0 := by
    by_cases hsub : p.submitting = []
    · exact .inl hsub
    · exact .inr (h.full_of_submitting sound hsub).2.2.1
  cases x with
  | elsewhere => exact hcovered
  | submit call task =>
    refine .of_held ?_
    rw [Turn.apply, submit_frame]
    exact held rfl
  | next call => exact .of_held (held rfl)
  | shutdown call =>
    refine .of_held ?_
    dsimp only [Turn.apply]
    rw [close_frame]
    exact held rfl
  | close =>
    refine .of_held ?_
    dsimp only [Turn.apply]
    rw [close_frame]
    exact held rfl
  | cancel => exact .of_held (held rfl)
  | follow =>
    rcases hline with hsub | hidle
    · refine .of_takers hsub (takers_eq_zero_iff.2 ?_)
      exact h.take.imp_left fun hc => by simp [Turn.apply, parentCancelled, hc]
    · exact .of_idle hidle
  | drop =>
    rcases hline with hsub | hidle
    · exact .of_takers hsub (takers_eq_zero_iff.2 h.take)
    · exact .of_idle hidle
  | abandon call =>
    rcases hline with hsub | hidle
    · exact .of_takers (by simp [Turn.apply, Pool.withdraw, hsub]) (takers_eq_zero_iff.2 h.take)
    · exact .of_idle hidle
  | finish name =>
    obtain ⟨heq, -⟩ | ⟨before, r, after, -, -, -, heq⟩ := finish_cases name p
    · dsimp only [Turn.apply]
      rw [heq]
      exact hcovered
    · dsimp only [Turn.apply]
      rw [heq]
      refine .of_used used ?_
      -- the queue is longer than the one worker that may be idle
      by_cases hsub : p.submitting = []
      · exact .inl hsub
      · obtain ⟨hfull, -, hidle, -⟩ := h.full_of_submitting sound hsub
        have hpos := p.size_pos
        rw [capacity] at hfull
        refine .inr (.inr ?_)
        dsimp only
        split <;> omega

/-- **What follows in the step in which a pool is dropped.** Whatever has been done to it at rest,
when it is deserted as it settles then its idle and its publishing workers exit. -/
theorem Resting.drops (h : p.Resting) (sound : p.Sound) (used : p.deserted = false)
    (held : x.needsHandle = true → p.held = true)
    (passes : Passes m' (x.apply m p).1 es m₀ d) (dropped : d.deserted = true) :
    d.takers = 0 ∧ ∃ rest, ((x.apply m p).1.settle m').2 = es ++ rest ∧
      Clears d rest ((x.apply m p).1.settle m').1 := by
  have hnone := (h.covered_apply sound used held).takers_eq_zero passes dropped
  refine ⟨hnone, (d.settle m₀).2, ?_, ?_⟩
  · rw [passes.settle]
  · rw [passes.settle]
    exact clears_settle m₀ dropped hnone

/-- **What happens in a dropped pool from one action to the next.** -/
theorem Resting.ebbs (h : p.Resting) (dropped : p.deserted = true)
    (held : x.needsHandle = true → p.held = true) (m m' : Moment) :
    Ebbs m'.now p (collect event? (x.apply m p).2 ++ ((x.apply m p).1.settle m').2)
      ((x.apply m p).1.settle m').1 := by
  obtain ⟨hheld, hsub, hrec⟩ := deserted_iff.1 dropped
  have calm : ∀ cancelled : Bool, (p.cancelled = true → cancelled = true) →
      Ebbs m'.now p
        ([] ++ (({ p with cancelled := cancelled } : Pool α).settle m').2)
        (({ p with cancelled := cancelled } : Pool α).settle m').1 := by
    intro cancelled since
    obtain ⟨hidle, hpublishing, -⟩ := h.workers_of_deserted dropped
    have hrest : ({ p with cancelled := cancelled } : Pool α).Resting :=
      resting_of_busy hidle hpublishing hsub hrec
    rw [settle_eq_self (step?_eq_none_iff_resting.2 hrest)]
    exact .calm cancelled since
  have none : ¬ x.needsHandle = true := fun hx => by
    rw [hheld] at held
    cases held hx
  cases x with
  | elsewhere => exact calm p.cancelled id
  | follow => exact calm (p.cancelled || p.child) fun hc => by simp [hc]
  | abandon call =>
    have hwithdraw : ((Turn.abandon call : Turn α).apply m p) = (p, []) := by
      simp only [Turn.apply, Pool.withdraw, hsub, hrec, List.filter_nil, List.map_nil,
        List.append_nil]
      rw [Prod.mk.injEq]
      exact ⟨by rw [← hsub, ← hrec], rfl⟩
    rw [hwithdraw]
    exact calm p.cancelled id
  | finish name =>
    have hevents : collect event? ((p.finish name).2.map event) = (p.finish name).2 :=
      collect_event _
    rw [Turn.apply, hevents]
    exact h.ebbs_finish dropped name m'
  | _ => exact absurd rfl none

/-! ## In the long run -/

/-- What has become of a pool `p` since it was dropped. -/
structure Remains (p : Pool α) (os : Trail α) (q : Pool α) : Prop where
  deserted : q.deserted = true
  /-- No more tasks have been started than have panicked, and none in a cancelled pool. -/
  starts : (collect started? os).length ≤ (panics os).length
  cancelled : p.cancelled = true → collect started? os = [] ∧ q.cancelled = true
  /-- What was in the queue has been started or is there, or no worker was left and it was
  discarded. -/
  queue : ∃ left, p.queue = collect started? os ++ q.queue ++ left ∧
    left ⊆ collect discarded? os ∧ (left ≠ [] → q.workers = 0)
  gone : q.workers = 0 → q.queue = []
  /-- Nothing is admitted, and no output gets through. -/
  admitted : collect admitted? os = []
  results : q.results = p.results
  /-- Workers have exited, each of them once; at least those whose tasks had an output. -/
  exits : (collect exit? os).length + q.workers = p.workers
  outputs : (outputs os).length + p.publishing.length ≤
    (collect exit? os).length + q.publishing.length

/-- **What becomes of a dropped pool.** -/
theorem Steps.remains (h : Steps p os q) (sound : p.Sound) (dropped : p.deserted = true)
    (hnone : p.takers = 0) : Remains p os q := by
  have hdwindles := h.dwindles dropped
  have hsound : q.Sound := h.keeps (fun _ _ _ hs hp => hp.step hs) sound
  obtain ⟨turned, left, hledger⟩ := h.ledger
  refine ⟨hdwindles.deserted, ?_, fun hc => ⟨h.started_of_cancelled hc, hdwindles.cancelled hc⟩,
    ⟨left, ?_, fun t ht => ?_, fun hne => ?_⟩, hsound.queue_of_gone, hdwindles.admitted,
    hdwindles.results, h.exits, hdwindles.exits⟩
  · have hstarts := hdwindles.starts
    omega
  · have hqueue := hledger.queue
    rwa [Trail.admitted, hdwindles.admitted, List.map_nil, List.append_nil] at hqueue
  · exact hledger.discards.symm.subset (List.mem_append_right _ ht)
  · exact (hledger.drops.resolve_left hne).1

/-- It shows in every trail that agrees on what is essential. -/
lemma Remains.congr {ps : Trail α} (h : Remains p os q) (hos : essence os = essence ps)
    (hdiscards : collect discarded? os ⊆ collect discarded? ps) : Remains p ps q := by
  obtain ⟨hadmitted, hstarted, hended, -⟩ := collect_congr hos
  have hexits := (collect_exits_congr hos).1
  obtain ⟨left, hqueue, hleft, hgone⟩ := h.queue
  refine ⟨h.deserted, ?_, hstarted ▸ h.cancelled, ⟨left, hstarted ▸ hqueue, fun t ht =>
    hdiscards (hleft ht), hgone⟩, h.gone, hadmitted ▸ h.admitted, h.results, hexits ▸ h.exits, ?_⟩
  · rw [panics, ← hstarted, ← hended]
    exact h.starts
  · rw [Trail.outputs, ← hended, ← hexits]
    exact h.outputs

end Pool

/-! ## In a scene -/

/-- It takes the handle of a pool to give it a command. -/
lemma Command.held_of_turn {call : Nat} {s : Scene α} {i : Nat} {p : Pool α} {c : Command α}
    (h : (c.turn call s i p).needsHandle = true) : p.held = true := by
  have aimed : ∀ {j : Nat} {x : Pool.Turn α}, (Pool.Turn.aimed i j p x).needsHandle = true →
      p.held = true := by
    intro j x hx
    unfold Pool.Turn.aimed at hx
    split at hx
    · next hwhy => exact hwhy.2
    · cases hx
  cases c with
  | submit | next | shutdown | close | cancel | drop => exact aimed h
  | abandon c =>
    simp only [turn] at h
    split at h <;> cases h
  | release name =>
    simp only [turn] at h
    split at h <;> cases h
  | _ => cases h

namespace Scene

variable {s t : Scene α} {k : History α} {i : Nat} {place : Place} {p : Pool α}

/-- What an action does to a pool at once. -/
lemma immediate_turn (hp : s.pools[i]? = some p) (x : Action α) :
    ∃ y : Pool.Turn α, (y.needsHandle = true → p.held = true) ∧
      (s.immediate x).1.pools[i]? = some (y.apply s.moment p).1 ∧
      eventsAt (.pool i) (s.immediate x).2 = collect event? (y.apply s.moment p).2 := by
  cases x with
  | order call c =>
    obtain ⟨hpool, htrail⟩ := order_pool hp call c
    refine ⟨c.turn call s i p, Command.held_of_turn, hpool, ?_⟩
    rw [immediate, eventsAt_eq_collect, htrail]
  | finish name =>
    obtain ⟨hpool, htrail⟩ := everywhere_pool hp (Pool.finish name) (Batch.finish name)
    refine ⟨.finish name, fun hx => (by cases hx), hpool, ?_⟩
    have hevents : (s.immediate (.finish name)).2 = events (ofEntries (s.finish name).2) :=
      (events_ofEntries _).symm
    rw [hevents, eventsAt_eq_collect]
    exact congrArg (collect event?) htrail
  | pass ms => exact ⟨.elsewhere, fun hx => (by cases hx), hp, rfl⟩

/-- What it does to the pool until nothing can move. -/
lemma enact_pool {x : Action α} (hp : (s.immediate x).1.pools[i]? = some p) :
    ∃ m : Moment, m.now = (s.enact x).2.time ∧ (s.enact x).1.pools[i]? = some (p.settle m).1 ∧
      eventsAt (.pool i) (s.enact x).2.entries =
        eventsAt (.pool i) (s.immediate x).2 ++ (p.settle m).2 := by
  obtain ⟨hpool, hevents⟩ := everywhere_at Batch.settle
    (getElem?_sweep (fun b => Pool.settle ⟨(s.immediate x).1.now, b⟩) (s.immediate x).1.brittle hp)
  refine ⟨_, rfl, hpool, ?_⟩
  show eventsAt (.pool i) ((s.immediate x).2 ++ (s.immediate x).1.settle.2) = _
  rw [eventsAt_append]
  exact congrArg _ hevents

/-- The pool at a place makes a run. What it discards is discarded there. -/
lemma Changes.at_place_discards (h : Changes s k t) (hp : s.poolAt place = some p) :
    ∃ q os, t.poolAt place = some q ∧ Pool.Steps p os q ∧ essence os = essence (trailAt place k) ∧
      collect discarded? os ⊆ collect discarded? (trailAt place k) := by
  cases place with
  | pool i =>
    obtain ⟨q, hq, hsteps⟩ := h.pool hp
    exact ⟨q, _, hq, hsteps, rfl, fun _ h => h⟩
  | batch i =>
    obtain ⟨b, hb, rfl⟩ := Option.map_eq_some_iff.1 hp
    obtain ⟨c, es, hc, htrail, hsteps⟩ := h.batch hb
    obtain ⟨os, hpool, hos, hdiscards⟩ := hsteps.pool
    refine ⟨c.pool, os, ?_, hpool, ?_, ?_⟩
    · show Option.map _ _ = _
      rw [hc]
      rfl
    · rw [htrail, hos]
    · rw [htrail]
      exact hdiscards

end Scene

namespace Stage

open Scene

variable {g g' : Stage α} {h : History α} {i : Nat} {place : Place} {p : Pool α} {b : Batch α}

/-- What follows in the step in which a pool is dropped. The action leaves the pool as `q`, and
while it settles it passes through `d`, which nobody holds and on which no call waits: the rest of
the step starts and ends no task, and the workers that are idle or want to publish exit. -/
def Drops (i : Nat) (g : Stage α) (x : Action α) : Prop :=
  ∃ q m, (g.scene.immediate x).1.pools[i]? = some q ∧
    (g.scene.enact x).1.pools[i]? = some (q.settle m).1 ∧
    eventsAt (.pool i) (g.scene.enact x).2.entries =
      eventsAt (.pool i) (g.scene.immediate x).2 ++ (q.settle m).2 ∧
    ∀ es m' d, Pool.Passes m q es m' d → d.deserted = true → d.takers = 0 ∧
      ∃ rest, (q.settle m).2 = es ++ rest ∧ d.Clears rest (q.settle m).1

/-- What follows after a pool has been dropped. -/
structure Dropped (place : Place) (p : Pool α) (g : Stage α) : Prop where
  /-- What becomes of it whatever happens. -/
  remains : ∀ h' g', Steps g h' g' → ∃ q, g'.scene.poolAt place = some q ∧
    p.Remains (trailAt place h') q ∧
      (g'.Settled → q.idle = 0 ∧ q.publishing = [] ∧ q.workers = q.running.length)
  /-- What it does from one action to the next. -/
  ebbs : ∀ i, place = .pool i → g.Settled → ∀ x, ∃ q, (g.scene.enact x).1.pools[i]? = some q ∧
    Pool.Ebbs (g.scene.enact x).2.time p (eventsAt (.pool i) (g.scene.enact x).2.entries) q

/-- **After a pool is dropped.** In the step in which its handle is given up and no call waits on it
any more, no task is started and the workers that are idle or want to publish exit. From then on a
worker goes on to another task only when its task has panicked and the pool is not cancelled; what
is queued when the last worker exits is discarded, and whenever nothing can move the workers that
are left run a task. As long as calls wait on the pool, giving up the handle changes nothing for
them.

**Proof sketch.** A call that is answered last leaves no spare worker: either no task is queued
then, or every worker is busy, since a submission waits only behind a full queue. In a deserted pool
each start uses up a spare worker, and only a panic makes one. -/
theorem Steps.pool_dropped (run : Steps {} h g) (here : g.scene.poolAt place = some p) :
    (∀ i, place = .pool i → g.Settled → p.deserted = false → ∀ x, Drops i g x) ∧
    (∀ i, place = .batch i → p.deserted = true → p.takers = 0) ∧
    (p.deserted = true → p.takers = 0 ∨ g.Settled → Dropped place p g) ∧
    ∀ i, g.Settled → g.scene.firstDue? = none → ∀ n (cs : List (Command α)),
      (∀ c ∈ cs, c.target? ≠ some i) →
        told i (g.scene.reach n (.drop i :: cs)).2 =
          told i (g.scene.reach n (.askParent :: cs)).2 := by
  have hsound : p.Sound := run.pool_sound here
  refine ⟨?_, ?_, fun dropped hwhy => ⟨fun h' g' after => ?_, ?_⟩, ?_⟩
  · rintro i rfl settled used x
    obtain ⟨y, held, hpool, -⟩ := immediate_turn here x
    obtain ⟨m, -, hsettle, hevents⟩ := enact_pool hpool
    exact ⟨_, m, hpool, hsettle, hevents, fun es m' d passes hd =>
      (settled.resting_pool here).drops hsound used held passes hd⟩
  · rintro i rfl dropped
    obtain ⟨b, hb, rfl⟩ := Option.map_eq_some_iff.1 here
    refine Pool.takers_eq_zero_iff.2 ?_
    rcases run.workers_or_dropped hb (Pool.deserted_iff.1 dropped).1 with hw | ⟨-, hc, -⟩
    · exact .inr (.inl (Pool.workers_eq_zero_iff.1 hw).1)
    · exact .inl hc
  · have hnone : p.takers = 0 := hwhy.elim id fun settled =>
      Pool.takers_eq_zero_iff.2 (settled.resting here).take
    obtain ⟨q, os, there, hsteps, hos, hdiscards⟩ :=
      (after.changes run.batches_sound).at_place_discards here
    have hremains := hsteps.remains hsound dropped hnone
    exact ⟨q, there, hremains.congr hos hdiscards, fun settled =>
      (settled.resting there).workers_of_deserted hremains.deserted⟩
  · rintro i rfl settled x
    obtain ⟨y, held, hpool, honce⟩ := immediate_turn here x
    obtain ⟨m, hnow, hsettle, hevents⟩ := enact_pool hpool
    refine ⟨_, hsettle, ?_⟩
    rw [hevents, honce, ← hnow]
    exact (settled.resting_pool here).ebbs dropped held g.scene.moment m
  · exact fun i settled idle n cs elsewhere => told_drop settled idle i n elsewhere

/-! ### The short run, without a handle -/

/-- The pool of the short run when its handle has been given up. -/
def leftPool : Pool Nat := { latePool with held := false }

/-- The scene then. -/
def leftStage : Stage Nat := ⟨11, { pools := [leftPool] }⟩

/-- The handle is given up while one task runs and one is queued. -/
lemma leftRun : Steps lateStage [] leftStage := Chain.single (.order lateStage (.drop 0))

/-- In the short run nobody holds the pool at the end, and no call waits on it; while calls did, it
would have made no difference to them. -/
theorem pool_dropped_short :
    (lateStage.Settled ∧ latePool.deserted = false ∧ Drops 0 lateStage (.order 10 (.drop 0))) ∧
      (leftPool.deserted = true ∧ leftPool.takers = 0 ∧ Dropped (.pool 0) leftPool leftStage) ∧
        told 0 (shortStage.scene.reach 9 [.drop 0, .release "3"]).2 =
          told 0 (shortStage.scene.reach 9 [.askParent, .release "3"]).2 := by
  have late : lateStage.scene.poolAt (.pool 0) = some latePool := rfl
  have left : leftStage.scene.poolAt (.pool 0) = some leftPool := rfl
  have short : shortStage.scene.poolAt (.pool 0) = some shortPool := rfl
  have run : Steps {} _ leftStage := (shortRun.trans lateRun).trans leftRun
  refine ⟨⟨lateStage_settled, rfl, ?_⟩, ⟨rfl, rfl, ?_⟩, ?_⟩
  · exact (Steps.pool_dropped (shortRun.trans lateRun) late).1 0 rfl lateStage_settled rfl _
  · exact (Steps.pool_dropped run left).2.2.1 rfl (.inl rfl)
  · exact (Steps.pool_dropped shortRun short).2.2.2 0 shortStage_settled rfl 9 [.release "3"]
      (by simp [Command.target?])

end Stage

end Workforce
