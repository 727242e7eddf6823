import Workforce.Proofs.Accounting
import Workforce.Proofs.Delivery
import Workforce.Proofs.Exits
import Workforce.Proofs.Progress
import Workforce.Proofs.Scene.Turn
/-!
# Shutdown terminates the pool

A shutdown call closes its pool and reads the outputs to their end. It is answered when it is told
that the results are closed. Then every worker has exited and nothing is left: all that was admitted
has come to its end, all outputs have been received, and nobody waits on the pool any more. Once all
workers have exited a shutdown call waits for nothing, however many of them there are and whoever
else receives.

## Main definitions

* `Workforce.Stage.Terminated` — what holds of a pool when a shutdown call on it has been answered.
* `Workforce.Stage.Answering` — shutdown calls on a pool all of whose workers have exited.

## Main results

* `Workforce.Pool.Steps.drainers` — whoever reads to the end waits, or was told, or gave up.
* `Workforce.Pool.Steps.dropped_of_told` — what has become of all that was admitted to a pool when
  somebody is told that the results are closed.
* `Workforce.Stage.Steps.shutdown_terminates` — both hold after every run.
-/

namespace Workforce

open Occurrence Trail History

variable {α : Type}

/-! ## Receivers that read to the end -/

namespace Pool

variable {p q : Pool α} {os : Trail α}

/-- Whoever reads to the end waits on or comes back to the line, until told or given up. -/
lemma Step.drainers (h : Step p os q) :
    ((q.receiving ++ collect told? os ++ collect departed? os).filter (·.drains)).Perm
      ((p.receiving ++ collect joined? os).filter (·.drains)) := by
  rcases h.receiving_cases with ⟨hq, hj, hd, -, ht⟩ | ⟨r, hq, hj, hd, -, ht, -⟩ |
    ⟨r, rest, output, hp, hq, hj, hd, -, ht, -⟩ | ⟨r, hp, hj, hd, -, ht, -⟩ | ⟨f, hq, hj, hd, -, ht⟩
  · rw [hq, hj, hd, ht, List.append_nil]
  · rw [hq, hj, hd, ht, List.append_nil, List.append_nil]
  · -- the receiver of an output joins the line again if it reads to the end
    rw [hp, hq, hj, hd, ht, List.append_nil, List.append_nil, List.append_nil]
    cases hdrains : r.drains with
    | false => simp [hdrains]
    | true => exact (List.perm_append_singleton r rest).filter _
  · rw [hp, hj, hd, ht, List.append_nil, List.append_nil]
    exact (List.perm_append_singleton r q.receiving).filter _
  · rw [hq, hj, hd, ht, List.append_nil, List.append_nil]
    exact (List.perm_append_comm.trans (List.filter_append_perm f p.receiving)).filter _

/-- **Whoever reads to the end waits, or was told that the results are closed, or gave up.** -/
lemma Steps.drainers (h : Steps p os q) :
    ((q.receiving ++ collect told? os ++ collect departed? os).filter (·.drains)).Perm
      ((p.receiving ++ collect joined? os).filter (·.drains)) := by
  induction h with
  | refl => simp
  | @tail q r os ps chain last ih =>
    rw [List.perm_iff_count]
    intro x
    have h1 := ih.count_eq x
    have h2 := last.drainers.count_eq x
    simp only [collect_append, List.filter_append, List.count_append] at h1 h2 ⊢
    omega

/-- Whoever reads to the end has closed the pool. -/
lemma Steps.closed_of_told (h : Steps p os q) (hp : p.receiving = []) {r : Receiver}
    (hr : r ∈ collect told? os) (drains : r.drains = true) : q.closed = true := by
  induction h with
  | refl => cases hr
  | @tail q q' os ps chain last ih =>
    rw [collect_append, List.mem_append] at hr
    refine last.closed_mono (hr.elim ih fun hr => ?_)
    -- only the head of the line is told
    have hmem : r ∈ q.receiving := by
      rcases last.receiving_cases with ⟨-, -, -, -, ht⟩ | ⟨-, -, -, -, -, ht, -⟩ |
        ⟨-, -, -, -, -, -, -, -, ht, -⟩ | ⟨x, hx, -, -, -, ht, -⟩ | ⟨-, -, -, -, -, ht⟩
      all_goals rw [ht] at hr
      · cases hr
      · cases hr
      · cases hr
      · rw [List.mem_singleton.1 hr, hx]
        exact List.mem_cons_self
      · cases hr
    exact Steps.closed_of_drains chain (by simp [hp]) r hmem drains

/-- Where no worker is left, what was admitted has ended or been dropped. -/
lemma Steps.dropped_of_gone (h : Steps p os q) (blank : p.Blank) (hw : q.workers = 0)
    (wanted : q.deserted = false) :
    ∃ dropped, (admitted os).Perm (collect ended? os ++ dropped) ∧
      dropped.Subperm (collect discarded? os) ∧ (dropped ≠ [] → q.cancelled = true) := by
  obtain ⟨turned, dropped, ledger⟩ := h.ledger
  have hsound : q.Sound := h.keeps (fun _ _ _ hs hp => hp.step hs) blank.sound
  have hstarted : admitted os = collect started? os ++ dropped := by
    simpa [blank.queue, hsound.queue_of_gone hw] using ledger.queue
  have hended : (collect ended? os).Perm (collect started? os) := by
    have hwork := ledger.work
    rw [underway_eq_nil hw, underway, blank.running] at hwork
    simpa using hwork
  refine ⟨dropped, hstarted ▸ hended.symm.append_right dropped, ?_, fun hne => ?_⟩
  · exact (List.sublist_append_right _ dropped).subperm.trans ledger.discards.symm.subperm
  · rcases ledger.drops with hnil | ⟨-, -, hc | hd⟩
    · exact absurd hnil hne
    · exact hc
    · rw [wanted] at hd
      cases hd

/-- **When somebody has been told that the results are closed**, whatever was admitted has ended, or
has been dropped from the queue of a cancelled pool and discarded.

**Proof sketch.** Whoever is told waits on the pool until then, so that the pool is not deserted,
and queues are dropped in cancelled or deserted pools only. Afterwards nothing happens any more. -/
theorem Steps.dropped_of_told (h : Steps p os q) (blank : p.Blank) (ht : collect told? os ≠ []) :
    ∃ dropped, (admitted os).Perm (collect ended? os ++ dropped) ∧
      dropped.Subperm (collect discarded? os) ∧ (dropped ≠ [] → q.cancelled = true) := by
  induction h with
  | refl => exact absurd rfl ht
  | @tail q r os ps chain last ih =>
    -- before the last step no worker was left
    have before : q.workers = 0 ∧ q.results = [] ∧
        ∃ dropped, (admitted os).Perm (collect ended? os ++ dropped) ∧
          dropped.Subperm (collect discarded? os) ∧ (dropped ≠ [] → q.cancelled = true) := by
      by_cases hos : collect told? os = []
      · have hps : collect told? ps ≠ [] := by simpa [hos] using ht
        rcases last.receiving_cases with ⟨-, -, -, -, ht⟩ | ⟨-, -, -, -, -, ht, -⟩ |
          ⟨-, -, -, -, -, -, -, -, ht, -⟩ | ⟨x, hx, -, -, -, -, hw, hr, -⟩ | ⟨-, -, -, -, -, ht⟩
        · exact absurd ht hps
        · exact absurd ht hps
        · exact absurd ht hps
        · have wanted : q.deserted = false := by simp [deserted, hx]
          exact ⟨hw, hr, Steps.dropped_of_gone chain blank hw wanted⟩
        · exact absurd ht hps
      · obtain ⟨hw, hr, -⟩ := Steps.told chain blank hos
        exact ⟨hw, hr, ih hos⟩
    obtain ⟨hw, hr, dropped, hperm, hsub, hwhy⟩ := before
    have hadmitted : admitted (os ++ ps) = admitted os := by
      rw [admitted_append, Trail.admitted, Trail.admitted, (last.quiet hw).2.1, List.map_nil,
        List.append_nil]
    have hended : collect ended? (os ++ ps) = collect ended? os := by
      rw [collect_append, (last.silent hw hr).1, List.append_nil]
    refine ⟨dropped, ?_, ?_, fun hne => last.cancelled_mono (hwhy hne)⟩
    · rwa [hadmitted, hended]
    · rw [collect_append]
      exact hsub.trans (List.sublist_append_left _ _).subperm

/-- **Where no worker is left, whoever reads to the end is told** when the pool settles. -/
lemma told_settle (m : Moment) (hw : p.workers = 0) {r : Receiver} (hr : r ∈ p.receiving)
    (drains : r.drains = true) : r ∈ collect told? ((p.settle m).2.map event) := by
  have hsteps := Steps.of_settle m p
  have hrest : (p.settle m).1.Resting := step?_eq_none_iff_resting.1 (step?_settle m p)
  have hnobody : (p.settle m).1.receiving = [] :=
    hrest.deliver.resolve_right fun h => h.2 (Steps.workers_eq_zero hsteps hw)
  have hperm := hsteps.drainers
  rw [hnobody, collect_map_event departed? fun _ => rfl, collect_map_event joined? fun _ => rfl,
    List.nil_append, List.append_nil, List.append_nil] at hperm
  exact List.mem_of_mem_filter (hperm.symm.subset (List.mem_filter.2 ⟨hr, drains⟩))

end Pool

/-! ## Shutdown calls in a scene -/

namespace Stage

open Scene

variable {g : Stage α} {h : History α} {i : Nat} {p : Pool α}

/-- What holds of a pool when a shutdown call on it has been answered. -/
structure Terminated (i : Nat) (p : Pool α) (h : History α) (g : Stage α) : Prop where
  closed : p.closed = true
  /-- All workers have exited. -/
  gone : p.workers = 0
  /-- Both queues are empty. -/
  empty : p.queue = [] ∧ p.results = []
  /-- At the end of the step no call waits on the pool. -/
  step : ∃ q, g.scene.settle.1.pools[i]? = some q ∧ q.submitting = [] ∧ q.receiving = []
  /-- Nor does one whenever nothing can move. -/
  idle : g.Settled → p.submitting = [] ∧ p.receiving = []
  /-- Every task that was admitted has ended, or has been dropped from the queue and discarded; the
  latter only if the pool was cancelled. -/
  fates : ∃ dropped,
    (Trail.admitted (trailAt (.pool i) h)).Perm (collect ended? (trailAt (.pool i) h) ++ dropped) ∧
      dropped.Subperm (collect discarded? (trailAt (.pool i) h)) ∧
        (dropped ≠ [] → p.cancelled = true)
  /-- Nothing else becomes of it, if tasks carry the names of their calls. -/
  once : h.Named → ∀ t ∈ Trail.admitted (trailAt (.pool i) h),
    ((collect ended? (trail h) ++ collect discarded? (trail h)).map Task.id).count t.id = 1
  /-- Every output has been received once, in the order in which the outputs came. -/
  received : (collect receipt? (trailAt (.pool i) h)).map Prod.snd = outputs (trailAt (.pool i) h)
  /-- Whoever has received one is a call for the next output or a shutdown call on the pool. -/
  receivers : ∀ x ∈ collect receipt? (trailAt (.pool i) h),
    x.1 ∈ collect joined? (trailAt (.pool i) h) ∧ x.1.caller.isSome

/-- Shutdown calls on a pool all of whose workers have exited. -/
structure Answering (i : Nat) (p : Pool α) (g : Stage α) : Prop where
  /-- Those that wait are answered in the same step. -/
  waiting : ∀ r ∈ p.receiving, r.drains = true →
    r ∈ collect told? (trailAt (.pool i) (ofEntries g.scene.settle.2))
  /-- One that comes later is answered at once. -/
  later : p.held = true → ⟨some g.calls, true⟩ ∈ collect told? (trailAt (.pool i)
    (ofEntries (g.scene.order g.calls (.shutdown i)).1.settle.2))
  /-- Whatever happens and in whatever order, those that wait or come are answered, unless they are
  given up, and when nothing can move none of them waits. -/
  all : ∀ h' g', Steps g h' g' → ∃ q, g'.scene.pools[i]? = some q ∧
    ((q.receiving ++ collect told? (trailAt (.pool i) h') ++
      collect departed? (trailAt (.pool i) h')).filter (·.drains)).Perm
        ((p.receiving ++ collect joined? (trailAt (.pool i) h')).filter (·.drains)) ∧
    (g'.Settled → q.receiving = [])

/-- In the same step whoever reads to the end is told that the results are closed. -/
lemma told_settle (s : Scene α) (here : s.pools[i]? = some p) (hw : p.workers = 0) {r : Receiver}
    (hr : r ∈ p.receiving) (drains : r.drains = true) :
    r ∈ collect told? (trailAt (.pool i) (ofEntries s.settle.2)) := by
  obtain ⟨stray, ⟨-, htrail⟩, -⟩ := settle_pool here
  rw [htrail]
  exact Pool.told_settle _ hw hr drains

/-- What becomes of shutdown calls once all workers have exited. -/
lemma answering_of_gone (sound : ∀ b ∈ g.scene.batches, b.Sound)
    (here : g.scene.pools[i]? = some p) (hw : p.workers = 0) : Answering i p g where
  waiting r hr drains := told_settle g.scene here hw hr drains
  later held := by
    obtain ⟨hpool, -⟩ := order_pool here g.calls (.shutdown i)
    rw [Command.turn, Pool.Turn.aimed, if_pos ⟨rfl, held⟩] at hpool
    have hw' : (p.close.1.receive ⟨some g.calls, true⟩).workers = 0 := by
      rw [Pool.close_frame]
      exact hw
    refine told_settle _ hpool hw' ?_ rfl
    exact List.mem_append_right _ List.mem_cons_self
  all h' g' after := by
    obtain ⟨q, there, hsteps⟩ := (after.changes sound).pool here
    refine ⟨q, there, Pool.Steps.drainers hsteps, fun settled => ?_⟩
    exact (settled.resting_pool there).deliver.resolve_right fun h =>
      h.2 (Pool.Steps.workers_eq_zero hsteps hw)

/-- What holds of a pool when somebody who reads to the end has been told that the results are
closed. -/
lemma Steps.terminated (run : Steps {} h g) (here : g.scene.pools[i]? = some p) {r : Receiver}
    (hr : r ∈ collect told? (trailAt (.pool i) h)) (drains : r.drains = true) :
    Terminated i p h g := by
  have here' : g.scene.poolAt (.pool i) = some p := here
  obtain ⟨p₀, os, blank, hempty, hsteps, same⟩ := run.changes_of_empty.pool_course here
  have hsame := same told? (fun _ => rfl) rfl
  have hended := same ended? (fun _ => rfl) rfl
  have hreceipt := same receipt? (fun _ => rfl) rfl
  have hjoined := same joined? (fun _ => rfl) rfl
  have htold : collect told? os ≠ [] := by
    rw [← hsame]
    exact List.ne_nil_of_mem hr
  obtain ⟨hw, hresults, hout⟩ := Pool.Steps.told hsteps blank htold
  have fates := Pool.Steps.dropped_of_told hsteps blank htold
  rw [Trail.admitted, ← same admitted? (fun _ => rfl) rfl, ← hended,
    ← same discarded? (fun _ => rfl) rfl] at fates
  refine ⟨?_, hw, ⟨(run.pool_sound here').queue_of_gone hw, hresults⟩, ?_, fun settled => ?_, fates,
    fun named t ht => ?_, ?_, fun x hx => ?_⟩
  · exact Pool.Steps.closed_of_told hsteps hempty (hsame ▸ hr) drains
  · have settled := settled_settle g.calls g.scene
    obtain ⟨q, there, hafter⟩ :=
      ((Steps.settle g.calls g.scene).changes run.batches_sound).pool here
    have hrest := settled.resting_pool there
    have hgone := Pool.Steps.workers_eq_zero hafter hw
    exact ⟨q, there, hrest.enter.resolve_right fun h => h.1 hgone,
      hrest.deliver.resolve_right fun h => h.2 hgone⟩
  · have hrest := settled.resting_pool here
    exact ⟨hrest.enter.resolve_right fun h => h.1 hw, hrest.deliver.resolve_right fun h => h.2 hw⟩
  · obtain ⟨dropped, hperm, hsub, -⟩ := fates
    have honce := run.once named
    rw [List.append_assoc, List.map_append] at honce
    refine List.count_eq_one_of_mem honce.of_append_right (List.mem_map_of_mem ?_)
    have hpart := trailAt_sublist (.pool i) h
    rcases List.mem_append.1 (hperm.subset ht) with ht | ht
    · exact List.mem_append_left _ ((hpart.filterMap ended?).subset ht)
    · exact List.mem_append_right _ ((hpart.filterMap discarded?).subset (hsub.subset ht))
  · rw [hreceipt, outputs, hended]
    exact hout.symm
  · rw [hreceipt] at hx
    have hmem := (Pool.Steps.answered_joined hsteps hempty).1 x hx
    rw [← hjoined] at hmem
    refine ⟨hmem, ?_⟩
    -- who joins the line is a call
    obtain ⟨o, ho, hkind⟩ := mem_collect.1 hmem
    have hsigned := run.signed o ((trailAt_sublist (.pool i) h).subset ho)
    cases o with
    | joined r =>
      cases hkind
      exact hsigned
    | _ => cases hkind

/-- **Shutdown terminates the pool.** When a shutdown call has been answered, the pool is closed,
all its workers have exited, and nothing is left in it; and when all workers have exited, shutdown
calls are answered at once.

**Proof sketch.** Whoever reads to the end has closed the pool before, and is told that the results
are closed when all workers have exited and no output is left. Until then it waits on the pool, so
that the pool is not deserted and drops tasks only if it is cancelled. A receiver that gets an
output joins the line again if it reads to the end, and the line is served as long as somebody
waits. -/
theorem Steps.shutdown_terminates (run : Steps {} h g) (here : g.scene.pools[i]? = some p) :
    (∀ call, ⟨some call, true⟩ ∈ collect told? (trailAt (.pool i) h) → Terminated i p h g) ∧
      (p.workers = 0 → Answering i p g) :=
  ⟨fun _ hr => run.terminated here hr rfl, answering_of_gone run.batches_sound here⟩

/-! ### Shutdown at the end of the short run -/

/-- What occurs when two shutdown calls come after a call for the next output, and all workers have
exited before. -/
def shutTrail : Trail Nat :=
  [joined ⟨some 10, false⟩, joined ⟨some 11, true⟩, joined ⟨some 12, true⟩,
    event (.received (some 10) false (some 4)), event (.received (some 11) true (some 5)),
    event (.toldClosed (some 12) true), event (.toldClosed (some 11) true)]

/-- The pool after that. -/
def shutPool : Pool Nat := { endPool with results := [] }

/-- The scene after that. -/
def shutStage : Stage Nat := ⟨13, { pools := [shutPool] }⟩

/-- The shutdown calls come and are answered. -/
lemma shutRun : Steps endStage (ofTrail (.pool 0) shutTrail) shutStage := by
  have asked : Steps endStage _ _ := Chain.single (.order endStage (.next 0))
  have shut := (asked.tail (.order _ (.shutdown 0))).tail (.order _ (.shutdown 0))
  have drained := (shut.tail (.pool (i := 0) _ .deliver rfl rfl)).tail
    (.pool (i := 0) _ .deliver rfl rfl)
  have told := (drained.tail (.pool (i := 0) _ .deliver rfl rfl)).tail
    (.pool (i := 0) _ .deliver rfl rfl)
  exact told

/-- At the end of the short run two outputs are left: one goes to a call that asks for it, the other
one to a shutdown call, and then both shutdown calls are answered. -/
theorem shutdown_terminates_short :
    (endPool.workers = 0 ∧ Answering 0 endPool endStage) ∧
      [⟨some 12, true⟩, ⟨some 11, true⟩] = collect told? shutTrail ∧
        Terminated 0 shutPool
          (shortHistory ++ lateHistory ++ ofTrail (.pool 0) endTrail ++ ofTrail (.pool 0) shutTrail)
          shutStage := by
  have run : Steps {} _ endStage := (shortRun.trans lateRun).trans endRun
  refine ⟨⟨rfl, (Steps.shutdown_terminates run rfl).2 rfl⟩, rfl, ?_⟩
  refine (Steps.shutdown_terminates (run.trans shutRun) (i := 0) rfl).1 11 ?_
  rw [trailAt_append, collect_append, trailAt_ofTrail_self]
  exact List.mem_append_right _ (List.mem_cons_of_mem _ List.mem_cons_self)

end Stage

end Workforce
