import Workforce.Proofs.Closing
import Workforce.Proofs.Pool.Cancelled
import Workforce.Proofs.Scene.Cancelled
/-!
# Cancelled pools in a scene

From its cancellation on a pool starts no task. What runs comes to its end and its output can be
received; the workers exit one by one, and the last one discards the queue. Until then submissions
are admitted if there is room, and afterwards all are refused.

## Main definitions

* `Workforce.Stage.CancelledBy` — why a pool is cancelled, and what that does to others.
* `Workforce.Stage.Stopped`, `Stage.TurnedAway` — what holds of a cancelled pool from then on.
* `Workforce.Stage.Winds` — how a cancelled pool answers, and how it comes to its end.

## Main results

* `Workforce.Stage.Steps.wound_up` — all outputs of a cancelled pool can be received.
* `Workforce.Stage.Steps.pool_cancellation` — the cancellation of pools.
-/

namespace Workforce

open Occurrence Trail History

variable {α : Type}

namespace Stage

open Scene

variable {g g' : Stage α} {h : History α} {place : Place} {p q : Pool α} {i : Nat}

/-! ## How a cancelled pool is wound up -/

/-- **As long as a cancelled pool has outputs to give, there will be fewer**: a task of it ends, or
a call for the next output gets one. -/
lemma Steps.wind (settled : g.Settled) (here : g.scene.pools[i]? = some p)
    (cancelled : p.cancelled = true) (held : p.held = true)
    (busy : p.workers ≠ 0 ∨ p.results ≠ []) :
    ∃ h' g' q, Steps g h' g' ∧ g'.Settled ∧ g'.scene.pools[i]? = some q ∧ q.held = true ∧
      q.outstanding < p.outstanding := by
  have hrest : p.Resting := settled.resting_pool here
  -- when the scene settles afterwards there do not become more
  have settle : ∀ {h' : History α} {n : Nat} {s : Scene α} {p' : Pool α}, Steps g h' ⟨n, s⟩ →
      s.pools[i]? = some p' → p'.cancelled = true → p'.held = true →
      p'.outstanding < p.outstanding →
      ∃ h' g' q, Steps g h' g' ∧ g'.Settled ∧ g'.scene.pools[i]? = some q ∧ q.held = true ∧
        q.outstanding < p.outstanding := by
    intro h' n s p' steps there hcancelled hheld hless
    obtain ⟨stray, ⟨hq, -⟩, -⟩ := Scene.settle_pool there
    have hheld' : (p'.settle ⟨s.now, s.brittle && !stray⟩).1.held = true := by
      rw [Pool.held_settle, hheld]
    have hle := (Pool.Steps.of_settle ⟨s.now, s.brittle && !stray⟩ p').outstanding_le hcancelled
      (Pool.deserted_of_held hheld')
    exact ⟨_, _, _, steps.trans (Steps.settle n s), settled_settle n s, hq, hheld', by omega⟩
  by_cases hrunning : p.running = []
  · -- nothing runs, so that an output is at hand and nobody waits for it
    have hresults : p.results ≠ [] := fun hr => busy.elim
      (fun hw => hw (hrest.gone_of_outstanding cancelled hrunning hr)) fun hne => hne hr
    have hreceiving : p.receiving = [] := hrest.deliver.resolve_right fun h => hresults h.1
    obtain ⟨output, outputs, hout⟩ := List.exists_cons_of_ne_nil hresults
    let asking : Pool α := p.receive ⟨some g.calls, false⟩
    have hasking : (g.scene.order g.calls (.next i)).1.pools[i]? = some asking := by
      obtain ⟨hpool, -⟩ := order_pool here g.calls (.next i)
      rwa [Command.turn, Pool.Turn.aimed, if_pos ⟨rfl, held⟩] at hpool
    let served : Pool α := { asking with results := outputs, receiving := [] }
    have hmove : asking.perform? (g.scene.order g.calls (.next i)).1.moment .deliver =
        some (served, [.received (some g.calls) false output]) := by
      simp [asking, served, Pool.perform?, Pool.deliver?, Pool.receive, hreceiving, hout]
    have steps := (Chain.single (Step.order g (.next i))).tail (.pool _ .deliver hasking hmove)
    have hserved : ((g.scene.order g.calls (.next i)).1.putPool i
        (served, [.received (some g.calls) false output])).pools[i]? = some served :=
      List.getElem?_set_self (List.getElem?_eq_some_iff.1 hasking).1
    refine settle steps hserved cancelled held ?_
    show 2 * p.running.length + outputs.length + p.publishing.length < p.outstanding
    rw [Pool.outstanding, hout, List.length_cons]
    omega
  · obtain ⟨r, hr⟩ := List.exists_mem_of_ne_nil _ hrunning
    obtain ⟨hpool, -⟩ := everywhere_pool here (Pool.finish r.task.id) (Batch.finish r.task.id)
    obtain ⟨-, -, -, hcancelled, -⟩ := Pool.finish_frame r.task.id p
    exact settle (Chain.single (.finish g r.task.id)) hpool (hcancelled.trans cancelled)
      ((Pool.held_finish r.task.id p).trans held) (Pool.outstanding_finish_lt hr)

/-- **All outputs of a cancelled pool can be received**: from a scene in which nothing can move,
ends of tasks and calls for the next output lead to where every worker has exited, every task that
ran has ended, and every output has been received.

**Proof sketch.** Induction on the outputs that are still to come. -/
theorem Steps.wound_up (sound : ∀ b ∈ g.scene.batches, b.Sound) (settled : g.Settled)
    (here : g.scene.pools[i]? = some p) (cancelled : p.cancelled = true) (held : p.held = true) :
    ∃ h' g' q, Steps g h' g' ∧ g'.scene.pools[i]? = some q ∧ q.held = true ∧ q.workers = 0 ∧
      q.results = [] := by
  induction hn : p.outstanding using Nat.strongRecOn generalizing g p with
  | ind n ih =>
    by_cases busy : p.workers ≠ 0 ∨ p.results ≠ []
    · obtain ⟨h', g', q, steps, hsettled, hq, hheld, hless⟩ :=
        Steps.wind settled here cancelled held busy
      obtain ⟨q', hq', hsteps⟩ := (steps.changes sound).pool here
      rw [hq] at hq'
      cases hq'
      obtain ⟨k, g'', q', hrest, hend⟩ :=
        ih _ (hn ▸ hless) ((steps.changes sound).sound sound) hsettled hq
          (Pool.Steps.cancelled_mono hsteps cancelled) hheld rfl
      exact ⟨h' ++ k, g'', q', steps.trans hrest, hend⟩
    · push Not at busy
      exact ⟨[], g, p, .refl g, here, held, busy.1, busy.2⟩

/-! ## The cancellation of pools -/

/-- Why a pool is cancelled, and what its cancellation does to others. -/
structure CancelledBy (place : Place) (p : Pool α) (h : History α) (g : Stage α) : Prop where
  /-- It was told so, or it follows the parent, which has been cancelled. -/
  why : p.cancelled = true ↔
    event .poolCancelled ∈ trailAt place h ∨ p.child = true ∧ g.scene.parentCancelled = true
  /-- It follows the parent exactly if the command that made it gave it the parent's token. -/
  made : ∀ i, place = .pool i → ∃ size, MadeBy place (.newPool size p.child) h g
  /-- The pool of a batch does so exactly if the admission ends when the parent is cancelled. -/
  begun : ∀ i, place = .batch i → ∃ size tasks admission,
    p.child = admission.followsParent ∧ MadeBy place (.batch size tasks admission) h g
  /-- The command tells it so and changes nothing else: it does not close the pool, and neither the
  parent nor another pool is cancelled. -/
  command : ∀ i, place = .pool i → p.held = true → g.scene.order g.calls (.cancel i) =
    ({ g.scene with pools := g.scene.pools.set i { p with cancelled := true } },
      [(.pool i, event .poolCancelled)])
  /-- Nothing else tells a pool so. -/
  only : ∀ i h' g', place = .pool i → Step g h' g' → event .poolCancelled ∈ trailAt place h' →
    p.held = true ∧ g' = ⟨g.calls + 1, (g.scene.order g.calls (.cancel i)).1⟩
  /-- The pool of a batch is told so when the batch is given up. -/
  abandoned : ∀ i b h' g', place = .batch i → g.scene.batches[i]? = some b → Step g h' g' →
    event .poolCancelled ∈ trailAt place h' →
      b.pending = true ∧ g'.scene.batches[i]? = some b.abandon.1
  /-- The parent is cancelled by its own command only, and for good. -/
  parent : ∀ h' g', Step g h' g' → (g'.scene.parentCancelled = true ↔
    g.scene.parentCancelled = true ∨
      g' = ⟨g.calls + 1, (g.scene.order g.calls .cancelParent).1⟩)
  /-- The pool is closed exactly if it was closed by itself. -/
  closed : ∀ i, place = .pool i → (p.closed = true ↔ event .poolClosed ∈ trailAt place h)
  /-- A cancelled pool stays cancelled, and a pool that follows the parent goes on to do so. -/
  lasting : ∀ h' g', Steps g h' g' → ∃ q, g'.scene.poolAt place = some q ∧ q.child = p.child ∧
    (p.cancelled = true → q.cancelled = true)

/-- What holds of a pool that was cancelled as `p`, when it has become `q` after some more. A pool
whose handle is held is not *deserted*. -/
structure Stopped (place : Place) (p q : Pool α) (h : History α) (g : Stage α) : Prop where
  here : g.scene.poolAt place = some q
  cancelled : q.cancelled = true
  /-- No task of it starts. -/
  started : collect started? (trailAt place h) = []
  /-- When nothing can move no worker is idle. -/
  idle : g.Settled → q.idle = 0
  /-- Every task that ran runs, or has come to its end. -/
  ended : (q.underway ++ collect ended? (trailAt place h)).Perm p.underway
  /-- As long as the pool is not deserted, the outputs that were at hand, those that waited to be
  published and those of the tasks that have ended since then were received, are at hand or wait to
  be published, in this order. -/
  outputs : q.deserted = false →
    p.results ++ p.publishing ++ Trail.outputs (trailAt place h) =
      received (trailAt place h) ++ q.results ++ q.publishing
  /-- They wait for room only. -/
  publishing : q.deserted = false → g.Settled → q.publishing ≠ [] →
    q.results.length = q.capacity
  /-- As long as a worker is left, what was queued stays there, and what is admitted is queued. -/
  queue : q.workers ≠ 0 → q.queue = p.queue ++ Trail.admitted (trailAt place h)
  /-- Whoever waits to submit faces a full queue. -/
  full : g.Settled → q.submitting ≠ [] → q.queue.length = q.capacity
  /-- When the last worker has exited the queue is empty, and soon nobody waits to submit. -/
  gone : q.workers = 0 → q.queue = [] ∧ (g.Settled → q.submitting = [])
  /-- If it had exited before, nothing is admitted. -/
  late : p.workers = 0 → collect admitted? (trailAt place h) = []

/-- What becomes of submissions to such a pool. -/
structure TurnedAway (i : Nat) (p q : Pool α) (h : History α) : Prop where
  /-- As long as a worker is left and the pool is not closed, nobody is refused: whoever waited or
  has handed in a task waits, was admitted or gave up. -/
  welcome : q.workers ≠ 0 → q.closed = false → collect refused? (trailAt (.pool i) h) = [] ∧
    (q.submitting ++ collect admitted? (trailAt (.pool i) h) ++
      collect retracted? (trailAt (.pool i) h)).Perm
        (p.submitting ++ collect asked? (trailAt (.pool i) h))
  /-- When the last worker has exited, all others were refused and told so, and the tasks that were
  in the queue or have come into it are discarded. -/
  gone : q.workers = 0 → ∃ turned : List (Submission α),
    (q.submitting ++ collect admitted? (trailAt (.pool i) h) ++ turned ++
      collect retracted? (trailAt (.pool i) h)).Perm
        (p.submitting ++ collect asked? (trailAt (.pool i) h)) ∧
    (∀ s ∈ turned, ∀ call, s.caller = some call →
      ∃ o ∈ trailAt (.pool i) h, o.TellsRefusal call) ∧
    (collect discarded? (trailAt (.pool i) h)).Perm
      (turned.map (·.task) ++ (collect retracted? (trailAt (.pool i) h)).map (·.task) ++
        (p.queue ++ Trail.admitted (trailAt (.pool i) h)))

/-- How a cancelled pool answers when nothing can move, and how it comes to its end. -/
structure Winds (i : Nat) (p : Pool α) (g : Stage α) : Prop where
  /-- As long as a worker is left and the pool is not closed, a submission is admitted if there is
  room. -/
  room : p.held = true → p.closed = false → p.workers ≠ 0 → p.queue.length < p.capacity →
    ∀ call task,
      (g.scene.order call (.submit i task)).1.settle.1.pools[i]? =
          some { p with queue := p.queue ++ [task] } ∧
        trailAt (.pool i) (ofEntries (g.scene.order call (.submit i task)).1.settle.2) =
          [event (.admitted (some call) task)]
  /-- After the last worker has exited it is refused, although the pool is not closed. -/
  gone : p.held = true → p.closed = false → p.workers = 0 → ∀ call task,
    (g.scene.order call (.submit i task)).1.settle.1.pools[i]? = some p ∧
      ∃ panicked, trailAt (.pool i)
        (ofEntries (g.scene.order call (.submit i task)).1.settle.2) =
          [event (.discarded task), event (.refused (some call) panicked)]
  /-- If the handle is held, all tasks that run can come to their ends and all outputs can be
  received. -/
  received : p.held = true → ∃ h' g' q, Steps g h' g' ∧ g'.scene.pools[i]? = some q ∧
    q.held = true ∧ q.workers = 0 ∧ (collect ended? (trailAt (.pool i) h')).Perm p.underway ∧
      Trail.received (trailAt (.pool i) h') =
        p.results ++ p.publishing ++ Trail.outputs (trailAt (.pool i) h')

/-- What cancels a pool, and what does not. -/
lemma Steps.cancelledBy (run : Steps {} h g) (here : g.scene.poolAt place = some p) :
    CancelledBy place p h g where
  why := by
    rw [Steps.cancelled_iff run here, collect_ne_nil_iff cancel?_eq_some_iff]
  made i hi := by
    subst hi
    obtain ⟨c, hc, made⟩ := run.made here
    cases hc with
    | pool i size child => exact ⟨size, made⟩
  begun i hi := by
    subst hi
    obtain ⟨c, hc, made⟩ := run.made here
    generalize hchild : p.child = child at hc
    cases hc with
    | batch i size tasks admission => exact ⟨size, tasks, admission, rfl, made⟩
  command i hi held := by
    subst hi
    have hi : g.scene.pools[i]? = some p := here
    have hpool : g.scene.pool? i = some p := by rw [pool?, hi, Option.filter_some, held]; rfl
    simp [order, Scene.visit, hpool, atPool, hi, Pool.cancel, Scene.after, Event.isFrailDiscard,
      ofTrail, ofEntries]
  only i h' g' hi step told := by
    subst hi
    exact step.eq_cancel here ((collect_ne_nil_iff cancel?_eq_some_iff _).2 told)
  abandoned i b h' g' hi hb step told := by
    subst hi
    have hne := (collect_ne_nil_iff cancel?_eq_some_iff _).2 told
    rcases step.at_batch hb with ⟨k, c, es, move, -, htrail, -⟩ | ⟨x, -, htrail, -⟩ |
      ⟨hpending, hc, -, -⟩
    · rw [htrail] at hne
      exact absurd (Batch.flags_of_perform? move).2.2 hne
    · rw [htrail] at hne
      exact absurd (x.cancel_cases b).2.1 hne
    · exact ⟨hpending, hc⟩
  parent h' g' step := by
    have hcommand : (g.scene.order g.calls .cancelParent).1.parentCancelled = true := by
      rw [parentCancelled_order]
      exact Bool.or_true _
    rcases step.parent_cases with hparent | rfl
    · rw [hparent]
      refine ⟨.inl, fun hor => hor.elim id fun heq => ?_⟩
      rw [← hparent, heq, hcommand]
    · exact ⟨fun _ => .inr rfl, fun _ => hcommand⟩
  closed i hi := by
    subst hi
    obtain ⟨p₀, os, blank, -, hsteps, same⟩ := run.changes_of_empty.pool_course here
    rw [Pool.Steps.closed_iff hsteps, blank.closed, ← collect_ne_nil_iff close?_eq_some_iff,
      same close? (fun _ => rfl) rfl]
    simp
  lasting h' g' after := by
    induction after with
    | refl => exact ⟨p, here, rfl, id⟩
    | tail _ last ih =>
      obtain ⟨q, hq, hchild, hmono⟩ := ih
      obtain ⟨r, hr, hchild', hcases⟩ := last.cancel_cases hq
      refine ⟨r, hr, hchild'.trans hchild, fun hp => ?_⟩
      rcases hcases with ⟨hc, -⟩ | ⟨hc, -⟩ | ⟨hc, -⟩
      · exact hc.trans (hmono hp)
      · exact hc
      · rw [hc, hmono hp, Bool.true_or]

/-- What holds of a cancelled pool from then on. -/
lemma Steps.stopped (run : Steps {} h g) (here : g.scene.poolAt place = some p)
    (cancelled : p.cancelled = true) {h' : History α} {g' : Stage α} (after : Steps g h' g') :
    ∃ q, Stopped place p q h' g' := by
  obtain ⟨q, os, there, hsteps, hos⟩ := (after.changes run.batches_sound).at_place here
  obtain ⟨hadmitted, hstarted, hended, hreceipt, -⟩ := collect_congr hos
  have hsound : q.Sound := Steps.pool_sound (run.trans after) there
  have houtputs : Trail.outputs os = Trail.outputs (trailAt place h') := by
    rw [Trail.outputs, hended, Trail.outputs]
  have hreceived : received os = received (trailAt place h') := by
    rw [received, hreceipt, received]
  have hq : q.cancelled = true := Pool.Steps.cancelled_mono hsteps cancelled
  refine ⟨q, there, hq, ?_, ?_, ?_, ?_, ?_, ?_, ?_, ?_, ?_⟩
  · rw [← hstarted, Pool.Steps.started_of_cancelled hsteps cancelled]
  · exact fun settled => (settled.resting there).idle_of_ending (.inr hq)
  · rw [← hended]
    exact Pool.Steps.underway_of_cancelled hsteps cancelled
  · intro hd
    rw [← houtputs, ← hreceived]
    exact Pool.Steps.flow hsteps hd
  · intro hd settled hne
    have hfull := ((settled.resting there).publish.resolve_left hne).2
    exact Nat.le_antisymm hsound.results_le hfull
  · intro hw
    rw [Trail.admitted, ← hadmitted]
    exact Pool.Steps.queue_of_cancelled hsteps cancelled hw
  · intro settled hne
    exact ((settled.resting there).full_of_submitting hsound hne).1
  · intro hw
    exact ⟨hsound.queue_of_gone hw, fun settled =>
      (settled.resting there).enter.resolve_right fun h => h.1 hw⟩
  · intro hw
    rw [← hadmitted]
    exact Pool.Steps.admitted_of_gone hsteps hw

/-- What becomes of submissions to it. -/
lemma Steps.turnedAway (run : Steps {} h g) (here : g.scene.pools[i]? = some p)
    (cancelled : p.cancelled = true) {h' : History α} {g' : Stage α} (after : Steps g h' g')
    (there : g'.scene.pools[i]? = some q) : TurnedAway i p q h' := by
  obtain ⟨q', hq', hsteps⟩ := (after.changes run.batches_sound).pool here
  rw [there] at hq'
  cases hq'
  refine ⟨fun hw hopen => ⟨?_, ?_⟩, fun hw => ?_⟩
  · exact Pool.Steps.refused_of_open hsteps hw hopen
  · exact Pool.Steps.line_of_open hsteps hw hopen
  · obtain ⟨turned, dropped, hledger⟩ := hsteps.ledger
    have there' : g'.scene.poolAt (.pool i) = some q := there
    have hsound : q.Sound := Steps.pool_sound (run.trans after) there'
    refine ⟨turned, hledger.line, fun s hs call hcall => ?_, ?_⟩
    · have hmem : some call ∈ collect refused? (trailAt (.pool i) h') := by
        rw [← hledger.refusals, ← hcall]
        exact List.mem_map_of_mem hs
      obtain ⟨o, ho, hrefusal⟩ := mem_collect.1 hmem
      exact ⟨o, ho, tellsRefusal hrefusal⟩
    · have hqueue := hledger.queue
      rw [Pool.Steps.started_of_cancelled hsteps cancelled, hsound.queue_of_gone hw,
        List.nil_append, List.nil_append] at hqueue
      rw [hqueue]
      exact hledger.discards

/-- How it answers, and how it comes to its end. -/
lemma Steps.winds (run : Steps {} h g) (settled : g.Settled) (here : g.scene.pools[i]? = some p)
    (cancelled : p.cancelled = true) : Winds i p g := by
  have hrest : p.Resting := settled.resting_pool here
  have submit : p.held = true → ∀ call task,
      (g.scene.order call (.submit i task)).1.pools[i]? =
        some (p.submit g.scene.moment ⟨some call, task⟩).1 := by
    intro held call task
    obtain ⟨hpool, -⟩ := order_pool here call (.submit i task)
    rwa [Command.turn, Pool.Turn.aimed, if_pos ⟨rfl, held⟩] at hpool
  refine ⟨fun held hopen hw room call task => ?_, fun held hopen hw call task => ?_, fun held => ?_⟩
  · obtain ⟨stray, ⟨hq, htrail⟩, -⟩ := Scene.settle_pool (submit held call task)
    rw [hrest.settle_submit_of_room cancelled hopen hw room] at hq htrail
    exact ⟨hq, htrail⟩
  · obtain ⟨stray, ⟨hq, htrail⟩, -⟩ := Scene.settle_pool (submit held call task)
    rw [hrest.settle_submit_of_gone hopen hw] at hq htrail
    exact ⟨hq, _, htrail⟩
  · obtain ⟨h', g', q, after, there, hheld, hw, hresults⟩ :=
      Steps.wound_up run.batches_sound settled here cancelled held
    have here' : g.scene.poolAt (.pool i) = some p := here
    obtain ⟨q', hstopped⟩ := Steps.stopped run here' cancelled after
    have hq : q' = q := Option.some.inj (hstopped.here.symm.trans there)
    subst hq
    have hended := hstopped.ended
    have houtputs := hstopped.outputs (Pool.deserted_of_held hheld)
    rw [Pool.underway_eq_nil hw, List.nil_append] at hended
    rw [hresults, (Pool.workers_eq_zero_iff.1 hw).2.2, List.append_nil, List.append_nil] at houtputs
    exact ⟨h', g', q', after, there, hheld, hw, hended, houtputs.symm⟩

/-- **The cancellation of pools.** A pool is cancelled exactly if it was told so, or was made with
the token of a parent that has been cancelled, for good; that neither closes the pool nor cancels
any other. From then on it starts no task and idle workers exit, while what runs comes to its end
and its output can be received. As long as a worker is left, submissions are admitted if there is
room; the last worker discards the queue, and then all submissions are refused although the pool is
not closed.

**Proof sketch.** Why a pool is cancelled is an invariant of the scene, since each step leaves the
pool and the parent alone, tells the pool, or cancels the parent. No step of a cancelled pool takes
a task from the queue, so that the accounts of tasks say what becomes of what was queued, and those
of outputs what becomes of what ran. -/
theorem Steps.pool_cancellation (run : Steps {} h g) (here : g.scene.poolAt place = some p) :
    CancelledBy place p h g ∧ (p.cancelled = true →
      (∀ h' g', Steps g h' g' → ∃ q, Stopped place p q h' g' ∧
        ∀ i, place = .pool i → TurnedAway i p q h') ∧
      ∀ i, place = .pool i → g.Settled → Winds i p g) := by
  refine ⟨Steps.cancelledBy run here,
    fun cancelled => ⟨fun h' g' after => ?_, fun i hi settled => ?_⟩⟩
  · obtain ⟨q, hstopped⟩ := Steps.stopped run here cancelled after
    refine ⟨q, hstopped, fun i hi => ?_⟩
    subst hi
    exact Steps.turnedAway run here cancelled after hstopped.here
  · subst hi
    exact Steps.winds run settled here cancelled

/-! ## A run in which a pool is cancelled -/

/-- What occurs at a pool of one worker up to its cancellation: one task runs, two are queued and
one waits. -/
def cancelTrail : Trail Nat :=
  [event (.poolStarted 1), event .workerStarted, asked ⟨some 1, shortTask 1⟩,
    event (.admitted (some 1) (shortTask 1)), event (.started (shortTask 1)),
    asked ⟨some 2, shortTask 2⟩, event (.admitted (some 2) (shortTask 2)),
    asked ⟨some 3, shortTask 3⟩, event (.admitted (some 3) (shortTask 3)),
    asked ⟨some 4, shortTask 4⟩, event .poolCancelled]

/-- The pool then. -/
def cancelPool : Pool Nat where
  size := 1
  size_pos := Nat.one_pos
  counted := 1
  idle := 0
  running := [Run.start 0 (shortTask 1)]
  publishing := []
  queue := [shortTask 2, shortTask 3]
  results := []
  submitting := [⟨some 4, shortTask 4⟩]
  receiving := []
  closed := false
  cancelled := true
  child := false
  held := true

/-- The scene then. -/
def cancelStage : Stage Nat := ⟨6, { pools := [cancelPool] }⟩

/-- The run up to the cancellation. -/
lemma cancelRun : Steps {} (ofTrail (.pool 0) cancelTrail) cancelStage := by
  have opened : Steps ({} : Stage Nat) _ _ := Chain.single (.order {} (.newPool 1 false))
  have busy := ((opened.tail (.order _ (.submit 0 (shortTask 1)))).tail
    (.pool (i := 0) _ .enter rfl rfl)).tail (.pool (i := 0) _ .take rfl rfl)
  have filling := (busy.tail (.order _ (.submit 0 (shortTask 2)))).tail
    (.pool (i := 0) _ .enter rfl rfl)
  have full := (filling.tail (.order _ (.submit 0 (shortTask 3)))).tail
    (.pool (i := 0) _ .enter rfl rfl)
  exact (full.tail (.order _ (.submit 0 (shortTask 4)))).tail (.order _ (.cancel 0))

/-- Nothing can move then. -/
lemma cancelStage_settled : cancelStage.Settled := by
  refine ⟨fun p hp => ?_, fun b hb => by cases hb⟩
  rw [List.mem_singleton.1 hp]
  rfl

/-- What occurs afterwards: the task comes to its end, the worker exits, and one more is handed
in. -/
def windTrail : Trail Nat :=
  [event (.ended (shortTask 1)), event (.published (some 1)), event .sawCancellation,
    event (.discarded (shortTask 2)), event (.discarded (shortTask 3)), event .workerStopped,
    event .resultsClosed, event (.discarded (shortTask 4)), event (.refused (some 4) false),
    asked ⟨some 6, shortTask 6⟩, event (.discarded (shortTask 6)), event (.refused (some 6) false)]

/-- The pool at the end. -/
def windPool : Pool Nat :=
  { cancelPool with
    counted := 0, running := [], queue := [], results := [some 1], submitting := [] }

/-- The scene at the end. -/
def windStage : Stage Nat := ⟨7, { pools := [windPool] }⟩

/-- The rest of the run. -/
lemma windRun : Steps cancelStage (ofTrail (.pool 0) windTrail) windStage := by
  have ended : Steps cancelStage _ _ := Chain.single (.finish cancelStage ⟨1, none⟩)
  have gone := (ended.tail (.pool (i := 0) _ .publish rfl rfl)).tail
    (.pool (i := 0) _ .leave rfl rfl)
  have refused := (gone.tail (.pool (i := 0) _ .enter rfl rfl)).tail
    (.order _ (.submit 0 (shortTask 6)))
  have last := refused.tail (.pool (i := 0) _ .enter rfl rfl)
  exact last

/-- In that run the output of the task is published, the queued tasks are discarded, and who waits
or comes later is refused. -/
theorem pool_cancellation_wind :
    Steps {} (ofTrail (.pool 0) cancelTrail) cancelStage ∧ cancelStage.Settled ∧
      cancelPool.cancelled = true ∧
      CancelledBy (.pool 0) cancelPool (ofTrail (.pool 0) cancelTrail) cancelStage ∧
      (∃ q, Stopped (.pool 0) cancelPool q (ofTrail (.pool 0) windTrail) windStage ∧
        ∀ i, Place.pool 0 = .pool i → TurnedAway i cancelPool q (ofTrail (.pool 0) windTrail)) ∧
      Winds 0 cancelPool cancelStage :=
  have hpool : cancelStage.scene.poolAt (.pool 0) = some cancelPool := rfl
  have hall := (Steps.pool_cancellation cancelRun hpool).2 rfl
  ⟨cancelRun, cancelStage_settled, rfl, (Steps.pool_cancellation cancelRun hpool).1,
    hall.1 _ _ windRun, hall.2 0 rfl cancelStage_settled⟩

end Stage

end Workforce
