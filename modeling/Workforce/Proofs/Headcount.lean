import Workforce.Scene.Report
import Workforce.Proofs.Exits
import Workforce.Proofs.Scene.Cancelled
import Workforce.Proofs.Scene.Reach
/-!
# How many workers a pool reports

A worker takes itself off the count of its pool at the very end, after it has let go of the queue.
So the count is exact as long as a worker is left, and after that too, with one exception: the last
worker discards what is left in the queue, and if the discard of a task panics the worker breaks off
before it has taken itself off. From then on its pool reports one worker although none is left.

## Main definitions

* `Workforce.Occurrence.aborted?` — a worker panics as it exits.
* `Workforce.Stage.Headcount` — what a pool reports, and when that is exact.

## Main results

* `Workforce.Pool.Steps.counted` — along a run only exits of workers that panic put the count out.
* `Workforce.Stage.Steps.headcount` — the count of every pool after every run.
* `Workforce.Stage.headcount_not_exact` — it is not always exact.
-/

namespace Workforce

open Occurrence Trail History

variable {α : Type}

/-! ## Workers that panic -/

/-- A worker panics as it exits. -/
@[simp] def Occurrence.aborted? : Occurrence α → Option Unit
  | event .workerAborted => some ()
  | _ => none

/-- Of such panics there is only one kind. -/
lemma Occurrence.aborted?_eq_some_iff (o : Occurrence α) :
    o.aborted? = some () ↔ o = event .workerAborted := by
  cases o with
  | event e => cases e <;> simp
  | _ => simp

/-- What is not essential is no such panic. -/
lemma Occurrence.aborted?_of_not_essential {o : Occurrence α} (h : o.essential = false) :
    o.aborted? = none := by
  have hexit := (exits_of_not_essential h).1
  cases o with
  | event e => cases e <;> first | rfl | cases hexit
  | _ => rfl

namespace Pool

variable {p q : Pool α} {os : Trail α}

/-- The last worker panics as it exits, since it discards a frail task. That happens only in a pool
that is cancelled or deserted. -/
structure Breakdown (p : Pool α) (os : Trail α) (q : Pool α) : Prop where
  once : collect aborted? os = [()]
  last : p.workers = 1
  gone : q.workers = 0
  frail : ∃ t ∈ p.queue, t ∈ collect discarded? os ∧ t.frail = true
  why : p.cancelled = true ∨ p.deserted = true

/-- A worker that is no longer among the others takes itself off the count. It panics instead if it
is the last one and discards a frail task. -/
lemma counted_retire (m : Moment) {reason : List (Event α)} (r : Pool α) {n : Nat}
    (hreason : collect aborted? (reason.map event) = []) (hr : r.counted = r.workers + 1 + n) :
    (r.retire m reason).1.counted =
        r.workers + n + (collect aborted? ((r.retire m reason).2.map event)).length ∧
      (collect aborted? ((r.retire m reason).2.map event) = [] ∨
        collect aborted? ((r.retire m reason).2.map event) = [()] ∧ r.workers = 0 ∧
          ∃ t ∈ r.queue, t.frail = true) := by
  have hdiscards : collect aborted? ((r.queue.map Event.discarded).map event) = [] := by
    rw [List.map_map]
    exact collect_map_none _ _ (fun _ => rfl) _
  unfold retire
  by_cases hw : r.workers = 0
  · rw [if_pos hw]
    cases hbreaks : r.queue.any m.breaks with
    | true =>
      obtain ⟨t, ht, hfrail⟩ := List.any_eq_true.1 hbreaks
      simp only [List.map_append, collect_append, hreason, hdiscards, if_true]
      refine ⟨?_, .inr ⟨rfl, hw, t, ht, (Bool.and_eq_true _ _ ▸ hfrail).2⟩⟩
      show r.counted = r.workers + n + 1
      omega
    | false =>
      simp only [List.map_append, collect_append, hreason, hdiscards, Bool.false_eq_true, if_false]
      refine ⟨?_, .inl rfl⟩
      show r.counted - 1 = r.workers + n
      omega
  · rw [if_neg hw]
    simp only [List.map_append, collect_append, hreason]
    refine ⟨?_, .inl rfl⟩
    show r.counted - 1 = r.workers + n
    omega

/-- **Every worker that exits takes itself off the count, or it breaks down.** -/
theorem Step.counted (h : Step p os q) {n : Nat} (hp : p.counted = p.workers + n) :
    q.counted = q.workers + n + (collect aborted? os).length ∧
      (collect aborted? os = [] ∨ Breakdown p os q) := by
  -- the exit of a worker that has been taken off the idle or the publishing ones
  have exits : ∀ (m : Moment) (reason : List (Event α)) (r : Pool α),
      collect aborted? (reason.map event) = [] → r.counted = p.counted → r.queue = p.queue →
      r.workers + 1 = p.workers → (p.queue = [] ∨ p.cancelled = true ∨ p.deserted = true) →
      (r.retire m reason).1.counted = (r.retire m reason).1.workers + n +
          (collect aborted? ((r.retire m reason).2.map event)).length ∧
        (collect aborted? ((r.retire m reason).2.map event) = [] ∨
          Breakdown p ((r.retire m reason).2.map event) (r.retire m reason).1) := by
    intro m reason r hreason hcounted hqueue hworkers hwhy
    obtain ⟨hcount, hnone | ⟨honce, hw, t, ht, hfrail⟩⟩ :=
      counted_retire m r hreason (n := n) (by omega)
    · exact ⟨by rw [workers_retire, hcount], .inl hnone⟩
    · rw [hqueue] at ht
      refine ⟨by rw [workers_retire, hcount], .inr ⟨honce, by omega, ?_, ⟨t, ht, ?_, hfrail⟩,
        hwhy.resolve_left (List.ne_nil_of_mem ht)⟩⟩
      · rw [workers_retire, hw]
      · rw [collect_discarded_retire, if_pos hw, hqueue]
        exact List.mem_append_right _ ht
  -- every other step leaves the count and the number of workers alone
  have still : q.counted = p.counted → q.workers = p.workers → collect aborted? os = [] →
      q.counted = q.workers + n + (collect aborted? os).length ∧
        (collect aborted? os = [] ∨ Breakdown p os q) := by
    intro hcounted hworkers hnone
    rw [hcounted, hworkers, hnone]
    exact ⟨hp, .inl rfl⟩
  cases h with
  | @stop k m idle cancelled =>
    refine exits m [.sawCancellation] { p with idle := k } rfl rfl rfl ?_ (.inr (.inl cancelled))
    simp only [workers, idle]
    omega
  | @leave k m idle queue isSealed =>
    refine exits m [] { p with idle := k } rfl rfl rfl ?_ (.inl queue)
    simp only [workers, idle]
    omega
  | @lose output rest m publishing deserted =>
    refine exits m [.receiverGone] { p with publishing := rest } rfl rfl rfl ?_
      (.inr (.inr deserted))
    simp only [workers, publishing, List.length_cons]
    omega
  | take now active idle queue =>
    refine still rfl ?_ rfl
    simp only [workers, idle, List.length_append, List.length_singleton]
    omega
  | publish publishing wanted room =>
    refine still rfl ?_ rfl
    simp only [workers, publishing, List.length_cons]
    omega
  | finish running outcome =>
    refine still rfl ?_ rfl
    simp only [workers, running, List.length_append, List.length_cons, List.length_nil]
    omega
  | fail running outcome =>
    refine still rfl ?_ rfl
    simp only [workers, running, List.length_append, List.length_cons]
    omega
  | withdraw call =>
    exact still rfl rfl (collect_withdraw_of_none call p (fun _ => rfl) (fun _ => rfl) fun _ => rfl)
  | retract => exact still rfl rfl (collect_retract_of_none p (fun _ => rfl) fun _ => rfl)
  | resign => exact still rfl rfl (collect_map_none _ _ (fun _ => rfl) _)
  | _ => exact still rfl rfl rfl

/-- **Along a run only breakdowns put the count out.** -/
theorem Steps.counted (h : Steps p os q) (hp : p.counted = p.workers) :
    q.counted = q.workers + (collect aborted? os).length := by
  induction h with
  | refl => exact hp
  | tail _ last ih =>
    rw [collect_append, List.length_append, ← Nat.add_assoc]
    exact (last.counted ih).1

/-- **Once all workers have exited the count does not change any more.** -/
lemma Steps.counted_of_gone (h : Steps p os q) (hw : p.workers = 0) : q.counted = p.counted := by
  induction h with
  | refl => rfl
  | @tail q r os ps chain last ih =>
    have hq : q.workers = 0 := Steps.workers_eq_zero chain hw
    obtain ⟨hcounted, hlast⟩ := last.counted (n := p.counted) (by rw [ih, hq, Nat.zero_add])
    have hnone : collect aborted? ps = [] := hlast.resolve_right fun hbreak => by
      have := hbreak.last
      omega
    have hr : r.workers = 0 := Nat.le_zero.1 (hq ▸ last.workers_le)
    rw [hcounted, hnone, hr, List.length_nil, Nat.zero_add, Nat.add_zero]

/-- **A worker that has broken down was the last one**, and it discarded a frail task that had been
admitted. -/
theorem Steps.aborted (h : Steps p os q) (hp : p.counted = p.workers) (empty : p.queue = [])
    (haborted : collect aborted? os ≠ []) :
    q.workers = 0 ∧ (collect aborted? os).length = 1 ∧ (q.cancelled = true ∨ q.deserted = true) ∧
      ∃ t ∈ admitted os, t ∈ collect discarded? os ∧ t.frail = true := by
  induction h with
  | refl => exact absurd rfl haborted
  | @tail q r os ps chain last ih =>
    obtain ⟨-, hlast⟩ := last.counted (Steps.counted chain hp)
    simp only [collect_append, admitted_append] at haborted ⊢
    by_cases hbefore : collect aborted? os = []
    · rw [hbefore, List.nil_append] at haborted ⊢
      obtain ⟨honce, -, hgone, ⟨t, ht, hdiscarded, hfrail⟩, hwhy⟩ := hlast.resolve_left haborted
      obtain ⟨turned, dropped, hledger⟩ := Steps.ledger chain
      have hadmitted : t ∈ admitted os := by
        have hqueue := hledger.queue
        rw [empty, List.nil_append] at hqueue
        rw [hqueue]
        exact List.mem_append_left _ (List.mem_append_right _ ht)
      exact ⟨hgone, by rw [honce]; rfl, hwhy.imp last.cancelled_mono last.deserted_mono, t,
        List.mem_append_left _ hadmitted, List.mem_append_right _ hdiscarded, hfrail⟩
    · -- no worker is left that could break down
      obtain ⟨hw, hlen, hwhy, t, hadmitted, hdiscarded, hfrail⟩ := ih hbefore
      have hnone : collect aborted? ps = [] := hlast.resolve_right fun hbreak => by
        have := hbreak.last
        omega
      rw [hnone, List.append_nil]
      exact ⟨Nat.le_zero.1 (hw ▸ last.workers_le), hlen,
        hwhy.imp last.cancelled_mono last.deserted_mono, t, List.mem_append_left _ hadmitted,
        List.mem_append_left _ hdiscarded, hfrail⟩

end Pool

/-! ## Pools in a scene -/

namespace Stage

open Scene

variable {g : Stage α} {h : History α} {place : Place} {p : Pool α}

/-- How many workers a pool reports after a run. A pool whose handle is held, or on which a call
waits, is not *deserted*. -/
structure Headcount (place : Place) (p : Pool α) (h : History α) (g : Stage α) : Prop where
  /-- The workers that have not exited are counted, and so is one that has panicked. -/
  counted : p.counted = p.workers + (collect aborted? (trailAt place h)).length
  /-- As long as a worker is left the count is exact. -/
  staffed : p.workers ≠ 0 → p.counted = p.workers
  /-- It is exact unless a worker has panicked as it exited. -/
  exact_iff : p.counted = p.workers ↔ event .workerAborted ∉ trailAt place h
  /-- That worker was the last one, and it stays on the count. It discarded an admitted task that is
  frail, which happens only in a pool that is cancelled or deserted. -/
  aborted : event .workerAborted ∈ trailAt place h →
    p.workers = 0 ∧ p.counted = 1 ∧ (p.cancelled = true ∨ p.deserted = true) ∧
      ∃ t ∈ Trail.admitted (trailAt place h), t ∈ collect discarded? (trailAt place h) ∧
        t.frail = true
  /-- When a receiver has been told that the results are closed no worker is left, and none is
  reported unless one has panicked. -/
  told : collect told? (trailAt place h) ≠ [] →
    p.workers = 0 ∧ (event .workerAborted ∉ trailAt place h → p.counted = 0)
  /-- A pool whose handle is held shows this count to its user. -/
  shown : ∀ i, place = .pool i → p.held = true → g.scene.statuses[i]? =
    some (some ⟨p.size, p.workers + (collect aborted? (trailAt place h)).length, p.closed,
      p.cancelled⟩)
  /-- So does its description. -/
  described : p.describe = ({ p with
    counted := p.workers + (collect aborted? (trailAt place h)).length } : Pool α).describe
  /-- When the last worker has exited, the count does not change any more. -/
  lasting : p.workers = 0 → ∀ h' g', Steps g h' g' →
    ∃ q, g'.scene.poolAt place = some q ∧ q.workers = 0 ∧ q.counted = p.counted

/-- **How many workers a pool reports.** After every run these are the workers that have not exited,
and one more if the last worker has panicked as it exited: it discards what is left in the queue
before it takes itself off the count, and the discard of a frail task makes it break off there.

**Proof sketch.** A worker that exits takes itself off the count, unless it is the last one and
panics. After that no worker is left that could do so again. -/
theorem Steps.headcount (run : Steps {} h g) (here : g.scene.poolAt place = some p) :
    Headcount place p h g := by
  obtain ⟨p₀, os, blank, hsteps, hos, hdiscards⟩ := run.changes_of_empty.life here
  have hstart : p₀.counted = p₀.workers := blank.counted.trans blank.workers.symm
  have haborts : collect aborted? os = collect aborted? (trailAt place h) :=
    collect_eq_of_essence hos fun _ ho => aborted?_of_not_essential ho
  have hadmitted : Trail.admitted os = Trail.admitted (trailAt place h) := by
    rw [Trail.admitted, (collect_congr hos).1, Trail.admitted]
  have hcounted := Pool.Steps.counted hsteps hstart
  rw [haborts] at hcounted
  have hmem : event .workerAborted ∈ trailAt place h ↔
      collect aborted? (trailAt place h) ≠ [] :=
    (collect_ne_nil_iff aborted?_eq_some_iff _).symm
  have hbroken : event .workerAborted ∈ trailAt place h → p.workers = 0 ∧ p.counted = 1 ∧
      (p.cancelled = true ∨ p.deserted = true) ∧
      ∃ t ∈ Trail.admitted (trailAt place h), t ∈ collect discarded? (trailAt place h) ∧
        t.frail = true := by
    intro haborted
    obtain ⟨hw, honce, hwhy, t, ht, hdiscarded, hfrail⟩ :=
      Pool.Steps.aborted hsteps hstart blank.queue (haborts ▸ hmem.1 haborted)
    rw [haborts] at honce
    exact ⟨hw, by omega, hwhy, t, hadmitted ▸ ht, hdiscards hdiscarded, hfrail⟩
  have hexact : event .workerAborted ∉ trailAt place h → p.counted = p.workers := by
    intro hnone
    rw [hmem, not_not] at hnone
    rw [hcounted, hnone]
    rfl
  refine ⟨hcounted, fun hw => ?_, ⟨fun heq haborted => ?_, hexact⟩, hbroken, fun ht => ?_,
    fun i hi held => ?_, by rw [← hcounted], fun hw h' g' after => ?_⟩
  · exact hexact fun haborted => hw (hbroken haborted).1
  · obtain ⟨hw, hone, -⟩ := hbroken haborted
    omega
  · rw [← (collect_congr hos).2.2.2.2] at ht
    have hw : p.workers = 0 := (Pool.Steps.told hsteps blank ht).1
    exact ⟨hw, fun hnone => (hexact hnone).trans hw⟩
  · subst hi
    have hi : g.scene.pools[i]? = some p := here
    rw [← hcounted, statuses, List.getElem?_map, hi, Option.map_some, if_pos held]
  · obtain ⟨q, ps, there, hafter, -⟩ := (after.changes run.batches_sound).at_place here
    exact ⟨q, there, Pool.Steps.workers_eq_zero hafter hw, Pool.Steps.counted_of_gone hafter hw⟩

/-! ### A worker that panics -/

/-- A task that panics when it is discarded. -/
def frailTask : Task Nat :=
  { shortTask 2 with frail := true }

/-- What occurs at a pool of one worker that is handed a task and, behind it, a frail one, and is
cancelled: the first task comes to its end, and two calls ask for the next output. -/
def brokenTrail : Trail Nat :=
  [event (.poolStarted 1), event .workerStarted, asked ⟨some 1, shortTask 1⟩,
    event (.admitted (some 1) (shortTask 1)), event (.started (shortTask 1)),
    asked ⟨some 2, frailTask⟩, event (.admitted (some 2) frailTask), event .poolCancelled,
    event (.ended (shortTask 1)), event (.published (some 1)), event .sawCancellation,
    event (.discarded frailTask), event .workerAborted, event .resultsClosed,
    joined ⟨some 4, false⟩, event (.received (some 4) false (some 1)), joined ⟨some 5, false⟩,
    event (.toldClosed (some 5) false)]

/-- The pool after that. -/
def brokenPool : Pool Nat :=
  { cancelled := true, child := false, closed := false, held := true, counted := 1, idle := 0,
    size := 1, size_pos := Nat.one_pos, running := [], publishing := [], queue := [], results := [],
    submitting := [], receiving := [] }

/-- The scene after that. -/
def brokenStage : Stage Nat := ⟨6, { brittle := false, pools := [brokenPool] }⟩

/-- There is a run that leads to it. -/
lemma brokenRun : Steps {} (ofTrail (.pool 0) brokenTrail) brokenStage := by
  have opened : Steps ({} : Stage Nat) _ _ := Chain.single (.order {} (.newPool 1 false))
  have busy := ((opened.tail (.order _ (.submit 0 (shortTask 1)))).tail
    (.pool (i := 0) _ .enter rfl rfl)).tail (.pool (i := 0) _ .take rfl rfl)
  have waiting := (busy.tail (.order _ (.submit 0 frailTask))).tail
    (.pool (i := 0) _ .enter rfl rfl)
  have ended := (waiting.tail (.order _ (.cancel 0))).tail (.finish _ ⟨1, none⟩)
  have broken := (ended.tail (.pool (i := 0) _ .publish rfl rfl)).tail
    (.pool (i := 0) _ .leave rfl rfl)
  have served := (broken.tail (.order _ (.next 0))).tail (.pool (i := 0) _ .deliver rfl rfl)
  have last := (served.tail (.order _ (.next 0))).tail (.pool (i := 0) _ .deliver rfl rfl)
  exact last

/-- The worker of that pool is the last one, and it panics. -/
theorem headcount_broken : brokenStage.scene.poolAt (.pool 0) = some brokenPool ∧
    Headcount (.pool 0) brokenPool (ofTrail (.pool 0) brokenTrail) brokenStage ∧
    event .workerAborted ∈ trailAt (.pool 0) (ofTrail (.pool 0) brokenTrail) ∧
    brokenPool.workers = 0 ∧ brokenPool.counted = 1 := by
  refine ⟨rfl, Steps.headcount brokenRun rfl, ?_, rfl, rfl⟩
  rw [trailAt_ofTrail_self]
  simp [brokenTrail]

/-- The commands of that run. -/
def brokenCommands : List (Command Nat) := [
  .newPool 1 false, .submit 0 (shortTask 1), .submit 0 frailTask, .cancel 0, .release "1", .next 0,
  .next 0]

/-- **The count is not always exact.** After these commands nothing can move, the pool has no worker
and a call has been told that the results are closed; but the pool reports one worker. -/
theorem headcount_not_exact :
    Settled ⟨brokenCommands.length, (reach 0 {} brokenCommands).1⟩ ∧
      (reach 0 {} brokenCommands).1.pools.map (fun p => (p.workers, p.counted)) = [(0, 1)] ∧
      ((reach 0 {} brokenCommands).2.flatMap (·.entries)).any (fun
        | (.pool 0, .toldClosed (some 6) false) => true
        | _ => false) = true ∧
      ¬∀ p ∈ (reach 0 {} brokenCommands).1.pools, p.counted = p.workers := by
  obtain ⟨-, -, -, settled⟩ := Steps.of_reach brokenCommands
  have hcounts : (reach 0 {} brokenCommands).1.pools.map (fun p => (p.workers, p.counted)) =
      [(0, 1)] := by decide +kernel
  refine ⟨settled, hcounts, by decide +kernel, fun hexact => ?_⟩
  obtain ⟨p, hp, hpair⟩ := List.mem_map.1 (hcounts ▸ List.mem_singleton_self (0, 1))
  have hcount := hexact p hp
  rw [(Prod.mk.inj hpair).1, (Prod.mk.inj hpair).2] at hcount
  cases hcount

end Stage

end Workforce
