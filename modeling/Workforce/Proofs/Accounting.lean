import Workforce.Proofs.Scene.Calls
/-!
# Every task is accounted for exactly once

Whatever is done to the pools and batches of a scene, in whatever order, each task that was handed
over is in one place: in the hands of a waiting call or of a submitter, in a queue, on a worker,
or it has ended or been discarded.

## Main definitions

* `Workforce.Scene.inHand`, `Scene.queued` — the tasks that have not been admitted, and those that
  have been but not started.
* `Workforce.Stage.Accounted` — the accounts of all tasks of a run.

## Main results

* `Workforce.Stage.Steps.every_task_accounted` — the accounts of every run are in order.
-/

namespace Workforce

open Occurrence Trail History

variable {α : Type}

/-! ## Where tasks are -/

/-- The tasks that a batch's submitter still has, the one that waits in the line included. One that
has ended has none. -/
def Batch.inHand (b : Batch α) : List (Task α) :=
  match b.submitter with
  | .finished _ => []
  | _ => b.pool.inHand ++ b.remaining

/-- What a sound batch holds is in hand, in the queue or on a worker. -/
lemma Batch.Sound.stock_perm {b : Batch α} (hb : b.Sound) :
    b.stock.Perm (b.inHand ++ b.pool.queue ++ b.pool.underway) := by
  classical
  rw [List.perm_iff_count]
  intro t
  have finished : ∀ panicked, b.submitter = .finished panicked →
      b.pool.inHand = [] ∧ b.remaining = [] := by
    intro panicked h
    have hline : b.pool.submitting = [] := hb.line.resolve_left (by simp [h])
    exact ⟨by rw [Pool.inHand, hline]; rfl, (hb.finished ⟨_, h⟩).2⟩
  unfold Batch.inHand
  split
  · next panicked h =>
    obtain ⟨hhand, hremaining⟩ := finished panicked h
    simp [Batch.stock, Pool.stock, hhand, hremaining]
  · simp only [Batch.stock, Pool.stock, List.count_append]
    omega

namespace Scene

variable {s : Scene α}

/-- The tasks in the hands of waiting submissions and of submitters. -/
def inHand (s : Scene α) : List (Task α) :=
  s.pools.flatMap Pool.inHand ++ s.batches.flatMap Batch.inHand

/-- The tasks in queues. -/
def queued (s : Scene α) : List (Task α) :=
  s.pools.flatMap Pool.queue ++ s.batches.flatMap fun b => b.pool.queue

/-- What is put together from parts for each element is put together from the parts. -/
lemma flatMap_perm {σ γ : Type} {f a b c : σ → List γ} (xs : List σ)
    (h : ∀ x ∈ xs, (f x).Perm (a x ++ b x ++ c x)) :
    (xs.flatMap f).Perm (xs.flatMap a ++ xs.flatMap b ++ xs.flatMap c) := by
  classical
  rw [List.perm_iff_count]
  intro y
  induction xs with
  | nil => simp
  | cons x xs ih =>
    have hx := (h x List.mem_cons_self).count_eq y
    have hxs := ih fun z hz => h z (List.mem_cons_of_mem _ hz)
    simp only [List.flatMap_cons, List.count_append] at hx hxs ⊢
    omega

/-- The tasks of a scene are in hand, in queues or on workers. -/
lemma stock_perm (hs : ∀ b ∈ s.batches, b.Sound) :
    s.stock.Perm (s.inHand ++ s.queued ++ s.underway) := by
  classical
  rw [List.perm_iff_count]
  intro t
  have hpool : ∀ p ∈ s.pools, p.stock.Perm (p.inHand ++ p.queue ++ p.underway) :=
    fun p _ => .refl _
  have hpools := (flatMap_perm s.pools hpool).count_eq t
  have hbatches := (flatMap_perm s.batches fun b hb => (hs b hb).stock_perm).count_eq t
  simp only [stock, inHand, queued, underway_eq, List.count_append] at hpools hbatches ⊢
  omega

/-- No call is pending when nobody with a number waits on a pool and every batch has returned. -/
lemma pendingCalls_eq_nil_iff : s.pendingCalls = [] ↔
    (∀ p ∈ s.pools, p.submitting.filterMap (·.caller) = [] ∧
      p.receiving.filterMap (·.caller) = []) ∧ ∀ b ∈ s.batches, b.pending = false := by
  simp [pendingCalls, List.flatMap_eq_nil_iff]

/-- What the pool at a place has, some pool has. -/
lemma mem_of_poolAt (content : Pool α → List (Task α)) {place : Place} {p : Pool α}
    (hp : s.poolAt place = some p) {t : Task α} (ht : t ∈ content p) :
    t ∈ s.pools.flatMap content ++ s.batches.flatMap fun b => content b.pool := by
  rw [List.mem_append, List.mem_flatMap, List.mem_flatMap]
  cases place with
  | pool i => exact .inl ⟨p, List.mem_of_getElem? hp, ht⟩
  | batch i =>
    obtain ⟨b, hb, rfl⟩ := Option.map_eq_some_iff.1 hp
    exact .inr ⟨b, List.mem_of_getElem? hb, ht⟩

/-- A task that the pool at a place has in its queue is in a queue. -/
lemma queue_subset {place : Place} {p : Pool α} (hp : s.poolAt place = some p) {t : Task α}
    (ht : t ∈ p.queue) : t ∈ s.queued :=
  mem_of_poolAt (·.queue) hp ht

/-- A task that the pool at a place runs is on a worker. -/
lemma underway_subset {place : Place} {p : Pool α} (hp : s.poolAt place = some p) {t : Task α}
    (ht : t ∈ p.underway) : t ∈ s.underway :=
  underway_eq s ▸ mem_of_poolAt (·.underway) hp ht

end Scene

/-! ## The accounts -/

namespace Stage

open Scene

variable {g : Stage α} {h : History α}

/-- The accounts of all tasks after a run. A pool is *deserted* when its handle has been given up
and no call waits on it. -/
structure Accounted (h : History α) (g : Stage α) : Prop where
  /-- Every task that was handed over is in one place. -/
  places : (Trail.given (trail h)).Perm (g.scene.inHand ++ g.scene.queued ++ g.scene.underway ++
    collect ended? (trail h) ++ collect discarded? (trail h))
  /-- A task has been started, or has been discarded, or is still to come: never two of these. -/
  fates : (Trail.given (trail h)).Perm (g.scene.inHand ++ g.scene.queued ++
    collect started? (trail h) ++ collect discarded? (trail h))
  /-- Whatever was started runs or has ended. -/
  started : (collect started? (trail h)).Perm (g.scene.underway ++ collect ended? (trail h))
  /-- If tasks carry the names of their calls, nothing is in two places or there twice. -/
  once : h.Named → ((g.scene.inHand ++ g.scene.queued ++ g.scene.underway ++
    collect ended? (trail h) ++ collect discarded? (trail h)).map Task.id).Nodup
  /-- In particular nothing starts twice, and nothing is both started and discarded. -/
  apart : h.Named →
    ((collect started? (trail h) ++ collect discarded? (trail h)).map Task.id).Nodup
  /-- What was admitted to a pool that is neither cancelled nor deserted is in its queue, runs or
  has ended. -/
  admitted : ∀ place p, g.scene.poolAt place = some p → p.cancelled = false →
    p.deserted = false → (Trail.admitted (trailAt place h)).Perm
      (p.queue ++ p.underway ++ collect ended? (trailAt place h))
  /-- What was admitted is discarded only if the pool is cancelled or deserted. -/
  dropped : h.Named → ∀ place p, g.scene.poolAt place = some p →
    ∀ t ∈ Trail.admitted (trailAt place h), t ∈ collect discarded? (trail h) →
      p.cancelled = true ∨ p.deserted = true
  /-- When every call is answered or given up, every handle is given up and no task runs, then every
  task has ended or been discarded, or workers that have not moved yet find it in a queue. When
  nothing can move either, the queues are empty. -/
  atEnd : g.scene.pendingCalls = [] → (∀ p ∈ g.scene.pools, p.held = false) → g.scene.runs = [] →
    (Trail.given (trail h)).Perm (g.scene.queued ++ collect ended? (trail h) ++
      collect discarded? (trail h)) ∧ (g.Settled → g.scene.queued = [])

/-- Along a run, what was admitted to a pool that is neither cancelled nor deserted is in its queue,
runs or has ended. -/
lemma Steps.admitted_perm (run : Steps {} h g) {place : Place} {p : Pool α}
    (here : g.scene.poolAt place = some p) (hc : p.cancelled = false) (hd : p.deserted = false) :
    (Trail.admitted (trailAt place h)).Perm
      (p.queue ++ p.underway ++ collect ended? (trailAt place h)) := by
  obtain ⟨p₀, os, hblank, hsteps, hos, -⟩ := run.changes_of_empty.life here
  obtain ⟨turned, dropped, hledger⟩ := hsteps.ledger
  obtain ⟨hadmitted, -, hended, -⟩ := collect_congr hos
  have hperm := hledger.admitted_perm hc hd
  rw [Pool.underway, Pool.underway, hblank.queue, hblank.running, Trail.admitted, hadmitted,
    hended] at hperm
  simpa [Trail.admitted, Pool.underway] using hperm.symm

/-- What waits on a pool has a number. -/
lemma Steps.numbered (run : Steps {} h g) {i : Nat} {p : Pool α}
    (hp : g.scene.pools[i]? = some p) :
    (∀ s ∈ p.submitting, s.caller.isSome) ∧ ∀ r ∈ p.receiving, r.caller.isSome := by
  have hsub := trailAt_sublist (.pool i) h
  obtain ⟨p₀, os, blank, hempty, hsteps, htrail⟩ := run.changes_of_empty.pool_life hp
  have hmem : ∀ o ∈ os, o ∈ trail h := fun o ho =>
    hsub.subset (htrail ▸ List.mem_append_right _ ho)
  refine ⟨fun s hs => ?_, fun r hr => ?_⟩
  · obtain ⟨turned, dropped, hledger⟩ := hsteps.ledger
    have hline := hledger.line.subset (List.mem_append_left _ (List.mem_append_left _
      (List.mem_append_left _ hs)))
    rw [blank.submitting, List.nil_append] at hline
    obtain ⟨o, ho, hasked⟩ := mem_collect.1 hline
    have hsigned := run.signed o (hmem o ho)
    cases o <;> simp_all [asked?, Signed]
  · obtain ⟨o, ho, hjoined⟩ := mem_collect.1 ((Pool.Steps.joined hsteps hempty).1 r hr)
    have hsigned := run.signed o (hmem o ho)
    cases o <;> simp_all [joined?, Signed]

/-- When no call is pending, nobody waits on a pool. -/
lemma Steps.nobody_waits (run : Steps {} h g) (calls : g.scene.pendingCalls = []) {i : Nat}
    {p : Pool α} (hp : g.scene.pools[i]? = some p) : p.submitting = [] ∧ p.receiving = [] := by
  obtain ⟨hsub, hrec⟩ := run.numbered hp
  obtain ⟨hsubmitting, hreceiving⟩ :=
    (pendingCalls_eq_nil_iff.1 calls).1 p (List.mem_of_getElem? hp)
  -- whoever waits has a number, and nobody with a number does
  constructor
  · refine List.eq_nil_iff_forall_not_mem.2 fun s hs => ?_
    have := List.filterMap_eq_nil_iff.1 hsubmitting s hs
    exact absurd (hsub s hs) (by simp [this])
  · refine List.eq_nil_iff_forall_not_mem.2 fun r hr => ?_
    have := List.filterMap_eq_nil_iff.1 hreceiving r hr
    exact absurd (hrec r hr) (by simp [this])

/-- When no call is pending, every batch is finished and nobody waits on its pool. -/
lemma Steps.batch_over (run : Steps {} h g) (calls : g.scene.pendingCalls = []) {b : Batch α}
    (hb : b ∈ g.scene.batches) :
    b.pool.held = false ∧ b.Finished ∧ b.pool.submitting = [] ∧ b.pool.receiving = [] := by
  have hsound := run.batches_sound b hb
  have hheld : b.pool.held = false := (pendingCalls_eq_nil_iff.1 calls).2 b hb
  obtain ⟨hfinished, hwaiting⟩ := hsound.pending.resolve_left (by simp [hheld])
  refine ⟨hheld, hfinished, ?_, hwaiting⟩
  obtain ⟨panicked, hsubmitter⟩ := hfinished
  exact hsound.line.resolve_left (by simp [hsubmitter])

/-- When no call is pending, nobody has a task in hand. -/
lemma Steps.inHand_eq_nil (run : Steps {} h g) (calls : g.scene.pendingCalls = []) :
    g.scene.inHand = [] := by
  rw [Scene.inHand, List.append_eq_nil_iff, List.flatMap_eq_nil_iff, List.flatMap_eq_nil_iff]
  refine ⟨fun p hp => ?_, fun b hb => ?_⟩
  · obtain ⟨i, hi⟩ := List.mem_iff_getElem?.1 hp
    rw [Pool.inHand, (run.nobody_waits calls hi).1, List.map_nil]
  · obtain ⟨-, ⟨panicked, hsubmitter⟩, -⟩ := run.batch_over calls hb
    rw [Batch.inHand, hsubmitter]

/-- When nothing can move, nobody is there any more and no task runs, the queues are empty. -/
lemma Steps.queued_eq_nil (run : Steps {} h g) (settled : g.Settled)
    (calls : g.scene.pendingCalls = []) (released : ∀ p ∈ g.scene.pools, p.held = false)
    (runs : g.scene.runs = []) : g.scene.queued = [] := by
  have hruns : (∀ p ∈ g.scene.pools, p.running = []) ∧
      ∀ b ∈ g.scene.batches, b.pool.running = [] := by
    simpa [Scene.runs, List.flatMap_eq_nil_iff] using runs
  rw [Scene.queued, List.append_eq_nil_iff, List.flatMap_eq_nil_iff, List.flatMap_eq_nil_iff]
  refine ⟨fun p hp => ?_, fun b hb => ?_⟩
  · obtain ⟨i, hi⟩ := List.mem_iff_getElem?.1 hp
    have hdeserted : p.deserted = true :=
      Pool.deserted_iff.2 ⟨released p hp, run.nobody_waits calls hi⟩
    have hrest := Pool.step?_eq_none_iff_resting.1 (settled.1 p hp)
    have hsound := run.pool_sound (show g.scene.poolAt (.pool i) = some p from hi)
    exact (hrest.empty_of_deserted hsound hdeserted (hruns.1 p hp)).2
  · obtain ⟨hheld, -, hline, hwaiting⟩ := run.batch_over calls hb
    have hdeserted : b.pool.deserted = true := Pool.deserted_iff.2 ⟨hheld, hline, hwaiting⟩
    have hrest := Batch.resting_of_step? (settled.2 b hb)
    have hsound := run.batches_sound b hb
    exact (hrest.empty_of_deserted hsound.pool hdeserted (hruns.2 b hb)).2

/-- Every task that was handed over is in one place. -/
lemma Steps.places (run : Steps {} h g) : (Trail.given (trail h)).Perm
    (g.scene.inHand ++ g.scene.queued ++ g.scene.underway ++ collect ended? (trail h) ++
      collect discarded? (trail h)) := by
  have hbalance : (g.scene.stock ++ collect ended? (trail h) ++ collect discarded? (trail h)).Perm
      (Trail.given (trail h)) := run.changes_of_empty.balance
  have hstock := Scene.stock_perm run.batches_sound
  exact hbalance.symm.trans ((hstock.append_right _).append_right _)

/-- Whatever was started runs or has ended. -/
lemma Steps.started_perm (run : Steps {} h g) :
    (collect started? (trail h)).Perm (g.scene.underway ++ collect ended? (trail h)) :=
  (show (g.scene.underway ++ collect ended? (trail h)).Perm (collect started? (trail h)) from
    run.changes_of_empty.work).symm

/-- Every task is still to come, or has been started, or has been discarded. -/
lemma Steps.fates (run : Steps {} h g) : (Trail.given (trail h)).Perm
    (g.scene.inHand ++ g.scene.queued ++ collect started? (trail h) ++
      collect discarded? (trail h)) := by
  classical
  rw [List.perm_iff_count]
  intro t
  have hplaces := run.places.count_eq t
  have hstarted := run.started_perm.count_eq t
  simp only [List.count_append] at hplaces hstarted ⊢
  omega

/-- Nothing is in two places or there twice, if tasks carry the names of their calls. -/
lemma Steps.once (run : Steps {} h g) (named : h.Named) :
    ((g.scene.inHand ++ g.scene.queued ++ g.scene.underway ++ collect ended? (trail h) ++
      collect discarded? (trail h)).map Task.id).Nodup :=
  ((run.places.map Task.id).nodup_iff).1 (run.distinct named)

/-- Nothing starts twice, and nothing is both started and discarded. -/
lemma Steps.apart (run : Steps {} h g) (named : h.Named) :
    ((collect started? (trail h) ++ collect discarded? (trail h)).map Task.id).Nodup := by
  have hperm := run.started_perm.append_right (collect discarded? (trail h))
  have honce := run.once named
  rw [List.append_assoc, List.append_assoc, List.map_append] at honce
  rw [(hperm.map Task.id).nodup_iff, List.append_assoc]
  exact honce.of_append_right

/-- What has been discarded was discarded once, and has not been started. -/
lemma Steps.discarded_once (run : Steps {} h g) (named : h.Named) {t : Task α}
    (ht : t ∈ collect discarded? (trail h)) :
    t.id ∉ (collect started? (trail h)).map Task.id ∧
      ((collect discarded? (trail h)).map Task.id).count t.id = 1 := by
  have hid : t.id ∈ (collect discarded? (trail h)).map Task.id := List.mem_map_of_mem ht
  have hapart := run.apart named
  rw [List.map_append, List.nodup_append] at hapart
  obtain ⟨-, hnodup, hdisjoint⟩ := hapart
  refine ⟨fun hstarted => hdisjoint _ hstarted _ hid rfl, ?_⟩
  exact List.count_eq_one_of_mem hnodup hid

/-- What somebody has in hand has been neither started nor discarded. -/
lemma Steps.inHand_fresh (run : Steps {} h g) (named : h.Named) {t : Task α}
    (ht : t ∈ g.scene.inHand) :
    t.id ∉ (collect started? (trail h)).map Task.id ∧
      t.id ∉ (collect discarded? (trail h)).map Task.id := by
  have honce := run.once named
  rw [List.append_assoc, List.append_assoc, List.append_assoc, List.map_append,
    List.nodup_append] at honce
  have hdisjoint := honce.2.2 t.id (List.mem_map_of_mem ht)
  constructor
  · intro hstarted
    obtain ⟨u, hu, hid⟩ := List.mem_map.1 hstarted
    have hmem := run.started_perm.subset hu
    refine hdisjoint u.id (List.mem_map_of_mem ?_) hid.symm
    rcases List.mem_append.1 hmem with hmem | hmem <;> simp [hmem]
  · intro hdiscarded
    obtain ⟨u, hu, hid⟩ := List.mem_map.1 hdiscarded
    exact hdisjoint u.id (List.mem_map_of_mem (by simp [hu])) hid.symm

/-- What was admitted to a pool that is neither cancelled nor deserted has not been discarded. -/
lemma Steps.not_discarded (run : Steps {} h g) (named : h.Named) {place : Place} {p : Pool α}
    (here : g.scene.poolAt place = some p) (hc : p.cancelled = false) (hd : p.deserted = false)
    {t : Task α} (ht : t ∈ Trail.admitted (trailAt place h)) :
    t ∉ collect discarded? (trail h) := by
  intro hdiscarded
  have hkept := (run.admitted_perm here hc hd).subset ht
  have honce := run.once named
  rw [List.map_append, List.nodup_append] at honce
  refine honce.2.2 t.id (List.mem_map_of_mem ?_) t.id (List.mem_map_of_mem hdiscarded) rfl
  rw [List.mem_append] at hkept
  rcases hkept with hkept | hended
  · rcases List.mem_append.1 hkept with hqueue | hunderway
    · have hqueued := Scene.queue_subset here hqueue
      simp [hqueued]
    · have hon := Scene.underway_subset here hunderway
      simp [hon]
  · have hended' : t ∈ collect ended? (trail h) :=
      ((trailAt_sublist place h).filterMap ended?).subset hended
    simp [hended']

/-- **Every task is accounted for exactly once**, after every run: any sequence of commands,
internal moves, ends of tasks and moves of the clock, in any order, discards that panic included.

**Proof sketch.** A run changes the scene at one place after the other, and no change loses or
duplicates a task. The tasks of a run have different names, so that what is in one place is in no
other. What was admitted to a pool leaves its queue by being started, or is dropped with the queue
when the last worker of a cancelled or deserted pool exits. -/
theorem Steps.every_task_accounted (run : Steps {} h g) : Accounted h g := by
  refine ⟨run.places, run.fates, run.started_perm, run.once, run.apart,
    fun place p => run.admitted_perm, fun named place p here t hadmitted hdiscarded => ?_,
    fun calls released runs => ⟨?_, ?_⟩⟩
  · by_contra hnot
    obtain ⟨hc, hd⟩ := not_or.1 hnot
    exact run.not_discarded named here (by simpa using hc) (by simpa using hd) hadmitted hdiscarded
  · have hunderway : g.scene.underway = [] := by rw [Scene.underway, runs, List.map_nil]
    have hplaces := run.places
    rw [run.inHand_eq_nil calls, hunderway, List.nil_append, List.append_nil] at hplaces
    exact hplaces
  · intro settled
    exact run.queued_eq_nil settled calls released runs

/-- The accounts of the short run, after its first part and at its end. -/
theorem every_task_accounted_short :
    (shortHistory.Named ∧ Accounted shortHistory shortStage) ∧
      History.Named (shortHistory ++ lateHistory) ∧
        Accounted (shortHistory ++ lateHistory) lateStage :=
  ⟨⟨shortHistory_named, Steps.every_task_accounted shortRun⟩, shortHistory_append_named,
    Steps.every_task_accounted (shortRun.trans lateRun)⟩

end Stage

end Workforce
