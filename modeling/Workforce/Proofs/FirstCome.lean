import Workforce.Proofs.Pool.Line
import Workforce.Proofs.Progress
import Workforce.Proofs.Batch.Turn
/-!
# First come, first served

Submissions are admitted in the order of the calls, except for those that are given up or refused,
and tasks are started in the order of the admissions. Whatever becomes of workers, of the pool or of
other calls, nobody is overtaken; and the submitter of a batch hands in its tasks in the order of
the list.

## Main definitions

* `Workforce.Batch.InOrder` — a batch has had its tasks admitted in the order of the list.
* `Workforce.Stage.FirstCome` — in what order the tasks of a pool are started.
* `Workforce.Stage.InTurn` — in what order they are admitted.

## Main results

* `Workforce.Stage.Steps.batch_in_order` — what has been admitted of a batch.
* `Workforce.Stage.Steps.first_come_first_served` — the orders after every run.
-/

namespace Workforce

open Occurrence Trail History

variable {α : Type}

/-! ## The submitter of a batch -/

namespace Batch

variable {b c : Batch α} {es : List (Event α)} {os : Trail α} {tasks : List (Task α)}

/-- The submitter is active only if it was before and none of its submissions has been refused. -/
lemma active_of_observeAll (h : (b.observeAll es).submitter = .active) :
    b.submitter = .active ∧ collect refused? (es.map event) = [] := by
  induction es generalizing b with
  | nil => exact ⟨h, rfl⟩
  | cons e es ih =>
    obtain ⟨hactive, hnone⟩ := ih (b := b.observe e) h
    rw [List.map_cons, collect_cons, hnone, List.append_nil]
    cases e with
    | refused caller panicked =>
      cases hs : b.submitter <;> simp [observe, hs, Submitter.refuse] at hactive
    | received caller drains output => cases output <;> exact ⟨hactive, rfl⟩
    | _ => exact ⟨hactive, rfl⟩

/-- What has been admitted of the batch and what its submitter has in the line are the first of the
tasks. As long as it hands in tasks, the others remain. -/
def InOrder (tasks : List (Task α)) (os : Trail α) (b : Batch α) : Prop :=
  ∃ rest, Trail.admitted os ++ b.pool.inHand ++ rest = tasks ∧
    (b.submitter = .active → rest = b.remaining)

/-- What has been admitted are the first of the tasks. -/
lemma InOrder.admitted (h : InOrder tasks os b) : Trail.admitted os <+: tasks := by
  obtain ⟨rest, hrest, -⟩ := h
  exact ⟨b.pool.inHand ++ rest, by rw [← List.append_assoc, hrest]⟩

/-- Where nothing is admitted and the line stays, the order is kept. -/
lemma InOrder.still (h : InOrder tasks os b) (quiet : Trail.admitted (es.map event) = [])
    (line : c.pool.submitting = b.pool.submitting) (remaining : c.remaining = b.remaining)
    (active : c.submitter = .active → b.submitter = .active) :
    InOrder tasks (os ++ es.map event) c := by
  obtain ⟨rest, hrest, hremaining⟩ := h
  refine ⟨rest, ?_, fun hc => (hremaining (active hc)).trans remaining.symm⟩
  rw [admitted_append, quiet, List.append_nil, Pool.inHand, line]
  exact hrest

/-- So it is when the submitter has ended and nothing is left in the line. -/
lemma InOrder.closing (h : InOrder tasks os b) (quiet : Trail.admitted (es.map event) = [])
    (line : c.pool.submitting = []) (ended : c.submitter ≠ .active) :
    InOrder tasks (os ++ es.map event) c := by
  obtain ⟨rest, hrest, -⟩ := h
  refine ⟨b.pool.inHand ++ rest, ?_, fun hc => absurd hc ended⟩
  have hline : c.pool.inHand = [] := by rw [Pool.inHand, line, List.map_nil]
  rw [admitted_append, quiet, hline, List.append_nil, List.append_nil, ← List.append_assoc]
  exact hrest

/-- Where nothing essential happens nothing is admitted. -/
lemma admitted_of_quiet (h : ∀ e ∈ es, essential (event e) = false) :
    Trail.admitted (es.map event) = [] := by
  rw [Trail.admitted, List.map_eq_nil_iff, collect, List.filterMap_eq_nil_iff]
  intro o ho
  obtain ⟨e, he, rfl⟩ := List.mem_map.1 ho
  exact (kinds_of_not_essential (h e he)).1

/-- Every step keeps the order.

**Proof sketch.** A move of the pool takes the one submission out of the line and admits it, so that
it is the next of the tasks; or it is refused, which ends the submitter. The submitter itself hands
in the first of the tasks that remain. -/
lemma InOrder.step (h : InOrder tasks os b) (hb : b.Sound) (step : Step b es c) :
    InOrder tasks (os ++ es.map event) c := by
  cases step with
  | @move q _ m k move =>
    have hstep : Pool.Step b.pool (es.map event) q := .of_perform? move
    have none : collect admitted? (es.map event) = [] → Trail.admitted (es.map event) = [] :=
      fun hi => by rw [Trail.admitted, hi, List.map_nil]
    rcases hstep.submitting_cases with ⟨hq, -, hi, -, hf⟩ | ⟨s, -, ha, -⟩ |
      ⟨s, hp, -, hi, -, hf⟩ | ⟨s, hp, -, hi, -, hf⟩ | ⟨s, -, ha, -⟩ | ⟨f, hq, -, hi, hr, hf⟩
    · refine h.still (none hi) (by rw [pool_observeAll]; exact hq) (remaining_observeAll ..) ?_
      exact fun hc => (active_of_observeAll hc).1
    · rw [collect_map_event asked? fun _ => rfl] at ha
      cases ha
    · -- the submission is admitted
      obtain ⟨rest, hrest, hremaining⟩ := h
      refine ⟨rest, ?_, fun hc => ?_⟩
      · rw [Pool.inHand, hp] at hrest
        rw [pool_observeAll, admitted_append, Trail.admitted, Trail.admitted, hi, Pool.inHand]
        simpa [Trail.admitted] using hrest
      · rw [remaining_observeAll]
        exact hremaining (active_of_observeAll hc).1
    · -- the submission is refused
      refine h.closing (none hi) ?_ fun hc => ?_
      · have hlen := hb.single
        rw [hp, List.length_cons] at hlen
        rw [pool_observeAll]
        exact List.length_eq_zero_iff.1 (Nat.le_zero.1 (Nat.le_of_succ_le_succ hlen))
      · rw [(active_of_observeAll hc).2] at hf
        cases hf
    · rw [collect_map_event asked? fun _ => rfl] at ha
      cases ha
    · -- nobody gives up in a move
      rw [collect_map_event retracted? fun _ => rfl] at hr
      have hline : q.submitting = b.pool.submitting := by
        rw [hq, List.filter_eq_self]
        exact fun s hs => by simpa using List.filter_eq_nil_iff.1 hr.symm s hs
      refine h.still (none hi) (by rw [pool_observeAll]; exact hline) (remaining_observeAll ..) ?_
      exact fun hc => (active_of_observeAll hc).1
  | stop unfinished pool remaining finished call discards quiet =>
    refine h.closing (admitted_of_quiet quiet) ?_ finished.not_active
    rw [pool, Pool.close_frame]
  | @feed t rest m active submitting remaining held =>
    have hopen : b.pool.closed = false := hb.open_of_active active
    obtain ⟨rest', hrest, hremaining⟩ := h
    have hsubmit : b.pool.submit m ⟨none, t⟩ =
        ({ b.pool with submitting := b.pool.submitting ++ [⟨none, t⟩] }, []) := by
      rw [Pool.submit, if_neg (by simp [hopen])]
    rw [hremaining active, Pool.inHand, submitting, remaining] at hrest
    refine ⟨rest, ?_, fun _ => by rw [remaining_observeAll]⟩
    rw [pool_observeAll, hsubmit, Pool.inHand, submitting]
    simpa using hrest
  | conclude finished receiving discards quiet =>
    exact h.still (admitted_of_quiet quiet) rfl rfl id
  | finish id =>
    exact h.still (Turn.gist_apply b (.finish id)).1 (Pool.finish_frame id b.pool).1 rfl
      fun hc => hc
  | follow => exact h.still rfl rfl rfl id
  | abandon =>
    refine h.closing ?_ rfl (by simp [abandon])
    rw [Trail.admitted, (collect_congr essence_abandon).1]
    rfl

/-- Every run keeps the order. -/
lemma InOrder.steps (h : InOrder tasks os b) (hb : b.Sound) (steps : Steps b es c) :
    InOrder tasks (os ++ es.map event) c := by
  induction steps with
  | refl => exact (List.append_nil os).symm ▸ h
  | tail chain last ih =>
    rw [List.map_append, ← List.append_assoc]
    exact ih.step (Steps.sound chain hb) last

end Batch

/-! ## The orders in a scene -/

/-- Of two elements of a list without repetition, the one that comes later is not in a part from the
front that the earlier one is behind. -/
lemma not_mem_of_before {β : Type} {xs ys : List β} (nodup : (xs ++ ys).Nodup) {x y : β}
    (before : [x, y].Sublist (xs ++ ys)) (hx : x ∈ ys) : y ∉ xs := by
  have hapart := (List.nodup_append.1 nodup).2.2
  intro hy
  obtain ⟨front, back, heq, hfront, hback⟩ := List.sublist_append_iff.1 before
  cases front with
  | nil =>
    have hmem : y ∈ back := by simp [show back = [x, y] from heq.symm]
    exact hapart y hy y (hback.subset hmem) rfl
  | cons z front =>
    obtain rfl : x = z := (List.cons.inj heq).1
    exact hapart x (hfront.subset List.mem_cons_self) x hx rfl

namespace Stage

open Scene

variable {g : Stage α} {h : History α} {place : Place} {i : Nat} {p : Pool α}

/-- In what order the tasks of a pool are started. -/
structure FirstCome (place : Place) (p : Pool α) (h : History α) : Prop where
  /-- The tasks that have been started are the first that were admitted, in their order. -/
  started : collect started? (trailAt place h) <+: Trail.admitted (trailAt place h)
  /-- Those in the queue are the next ones. -/
  queued : collect started? (trailAt place h) ++ p.queue <+: Trail.admitted (trailAt place h)

/-- In what order the submissions of a pool are admitted. -/
structure InTurn (i : Nat) (p : Pool α) (h : History α) : Prop where
  /-- No two come from the same call. -/
  distinct : ((collect asked? (trailAt (.pool i) h)).map (·.caller)).Nodup
  /-- Those that were neither given up nor refused have been admitted, or wait, in the order of the
  calls. -/
  line : lasting (trailAt (.pool i) h) = collect admitted? (trailAt (.pool i) h) ++ p.submitting
  /-- While an earlier one waits no later one has been admitted. -/
  behind : ∀ s s', [s, s'].Sublist (collect asked? (trailAt (.pool i) h)) → s ∈ p.submitting →
    s' ∉ collect admitted? (trailAt (.pool i) h)
  /-- They are admitted in the order of the calls. -/
  admitted : (collect admitted? (trailAt (.pool i) h)).Sublist
    (collect asked? (trailAt (.pool i) h))
  /-- So their tasks are started in that order. -/
  started : (collect started? (trailAt (.pool i) h)).Sublist
    ((collect asked? (trailAt (.pool i) h)).map (·.task))

/-- In what order the tasks of a batch are admitted and started. -/
structure Listed (i : Nat) (b : Batch α) (h : History α) (tasks : List (Task α)) : Prop where
  /-- They are the tasks that the call has handed over. -/
  given : (Place.batch i, batched b.call tasks) ∈ h
  /-- Those that have been admitted are the first of the list. -/
  admitted : Trail.admitted (trailAt (.batch i) h) <+: tasks
  /-- Those that have been started are the first of these. -/
  started : collect started? (trailAt (.batch i) h) <+: tasks

/-- No two submissions of a pool come from the same call. -/
lemma Steps.asked_nodup {g' : Stage α} (steps : Steps g h g') (place : Place) :
    ((collect asked? (trailAt place h)).map (·.caller)).Nodup := by
  have hsub := trailAt_sublist place h
  have ordered : Ordered (trailAt place h) := steps.ordered.sublist hsub
  have hcallers : (collect asked? (trailAt place h)).map (·.caller) =
      collect (fun o => o.asked?.map (·.caller)) (trailAt place h) := List.map_filterMap ..
  rw [hcallers]
  refine ordered.nodup_collect _ ?_ ?_
  · intro o ho c hc
    have hsigned := steps.signed o (hsub.subset ho)
    cases o <;> simp_all [asked?, Signed, call?]
  · intro o o' c hc hc'
    cases o <;> cases o' <;> simp_all [asked?, call?]

/-- The tasks of a pool are started in the order of their admissions. -/
lemma Steps.firstCome (run : Steps {} h g) (here : g.scene.poolAt place = some p) :
    FirstCome place p h := by
  refine ⟨run.started_prefix here, ?_⟩
  obtain ⟨p₀, os, blank, hsteps, hos, -⟩ := run.changes_of_empty.life here
  obtain ⟨turned, dropped, hledger⟩ := hsteps.ledger
  obtain ⟨hadmitted, hstarted, -⟩ := collect_congr hos
  have hqueue := hledger.queue
  rw [blank.queue, List.nil_append] at hqueue
  rw [Trail.admitted, ← hadmitted, ← hstarted]
  exact ⟨dropped, hqueue.symm⟩

/-- The submissions of a pool are admitted in the order of the calls. -/
lemma Steps.inTurn (run : Steps {} h g) (here : g.scene.pools[i]? = some p) : InTurn i p h := by
  have distinct := run.asked_nodup (.pool i)
  obtain ⟨p₀, os, blank, -, hsteps, same⟩ := run.changes_of_empty.pool_course here
  have hasked := same asked? (fun _ => rfl) rfl
  have hadmitted := same admitted? (fun _ => rfl) rfl
  have hlasting : lasting (trailAt (.pool i) h) = lasting os := by
    rw [lasting, dismissed, same retracted? (fun _ => rfl) rfl, same refused? (fun _ => rfl) rfl,
      hasked, lasting, dismissed]
  have line : lasting (trailAt (.pool i) h) =
      collect admitted? (trailAt (.pool i) h) ++ p.submitting := by
    rw [hlasting, hadmitted]
    exact hsteps.lasting blank.submitting (hasked ▸ distinct)
  have hsub : (collect admitted? (trailAt (.pool i) h) ++ p.submitting).Sublist
      (collect asked? (trailAt (.pool i) h)) := line ▸ List.filter_sublist
  have admitted := (List.sublist_append_left _ _).trans hsub
  refine ⟨distinct, line, ?_, admitted, ?_⟩
  · intro s s' before waiting hmem
    -- both of them last, so that the order of the calls is their order
    have hlast : ∀ x ∈ [s, s'], x ∈ lasting (trailAt (.pool i) h) := by
      rw [line]
      simp [waiting, hmem]
    have hkept : [s, s'].filter (·.caller ∉ dismissed (trailAt (.pool i) h)) = [s, s'] :=
      List.filter_eq_self.2 fun x hx => (List.mem_filter.1 (hlast x hx)).2
    have hpair : [s, s'].Sublist (lasting (trailAt (.pool i) h)) :=
      hkept ▸ before.filter (·.caller ∉ dismissed (trailAt (.pool i) h))
    rw [line] at hpair
    exact not_mem_of_before (hsub.nodup (.of_map _ distinct)) hpair waiting hmem
  · have hstarted : collect started? (trailAt (.pool i) h) <+:
        Trail.admitted (trailAt (.pool i) h) :=
      run.started_prefix (show g.scene.poolAt (.pool i) = some p from here)
    exact hstarted.sublist.trans (admitted.map _)

/-- What has been admitted of a batch are the first of its tasks. -/
theorem Steps.batch_in_order (run : Steps {} h g) {b : Batch α}
    (here : g.scene.batches[i]? = some b) : ∃ tasks, Listed i b h tasks := by
  obtain ⟨b₀, tasks, before, es, starts, hsteps, hbefore, htrail⟩ :=
    run.changes_of_empty.batch_life here
  obtain ⟨n, hn, child, cancelled, hpool⟩ := starts.pool
  have sound : b₀.Sound := Batch.sound_start starts.submitter hpool
  have first : b₀.InOrder tasks [] := by
    refine ⟨tasks, ?_, fun _ => starts.remaining.symm⟩
    rw [hpool]
    rfl
  have order : Batch.InOrder tasks (es.map event) b := first.steps sound hsteps
  have hadmitted : Trail.admitted (trailAt (.batch i) h) = Trail.admitted (es.map event) := by
    have hempty : essence before = essence [] := hbefore
    have hnone : collect admitted? before = [] := (collect_congr hempty).1
    rw [Trail.admitted, htrail, collect_append, hnone, collect_cons,
      collect_opening_append admitted? _ rfl rfl]
    rfl
  have admitted : Trail.admitted (trailAt (.batch i) h) <+: tasks := hadmitted ▸ order.admitted
  refine ⟨tasks, ?_, admitted, ?_⟩
  · rw [← mem_trailAt, htrail]
    exact List.mem_append_right _ List.mem_cons_self
  · have hpool : g.scene.poolAt (.batch i) = some b.pool := congrArg (Option.map _) here
    exact (run.started_prefix hpool).trans admitted

/-- **First come, first served.** After every run the tasks of a pool have been started in the order
of their admissions; submissions have been admitted in the order of the calls, as far as they were
neither given up nor refused, and wait in that order; and what has been admitted of a batch are the
first of its tasks, in the order of the list.

**Proof sketch.** The line of submissions and the queue are filled at the end and emptied from the
head. Those that are given up or refused leave the line without changing the order of the others;
and when the queue is dropped, no worker is left that could start anything. The submitter of a batch
has at most one submission in the line. -/
theorem Steps.first_come_first_served (run : Steps {} h g)
    (here : g.scene.poolAt place = some p) :
    FirstCome place p h ∧ (∀ i, place = .pool i → InTurn i p h) ∧
      ∀ i b, place = .batch i → g.scene.batches[i]? = some b → ∃ tasks, Listed i b h tasks := by
  refine ⟨run.firstCome here, fun i hi => ?_, fun i b _ hb => run.batch_in_order hb⟩
  subst hi
  exact run.inTurn here

/-! ## A run in which somebody gives up -/

/-- What occurs at a pool of one worker: three calls wait behind a full queue, the second of them
gives up, and a place becomes free. -/
def lineTrail : Trail Nat :=
  [event (.poolStarted 1), event .workerStarted, asked ⟨some 1, shortTask 1⟩,
    event (.admitted (some 1) (shortTask 1)), event (.started (shortTask 1)),
    asked ⟨some 2, shortTask 2⟩, event (.admitted (some 2) (shortTask 2)),
    asked ⟨some 3, shortTask 3⟩, event (.admitted (some 3) (shortTask 3)),
    asked ⟨some 4, shortTask 4⟩, asked ⟨some 5, shortTask 5⟩, asked ⟨some 6, shortTask 6⟩,
    retracted ⟨some 5, shortTask 5⟩, event (.discarded (shortTask 5)),
    event (.ended (shortTask 1)), event (.published (some 1)), event (.started (shortTask 2)),
    event (.admitted (some 4) (shortTask 4))]

/-- The pool after that. -/
def linePool : Pool Nat where
  size := 1
  size_pos := Nat.one_pos
  counted := 1
  idle := 0
  running := [Run.start 0 (shortTask 2)]
  publishing := []
  queue := [shortTask 3, shortTask 4]
  results := [some 1]
  submitting := [⟨some 6, shortTask 6⟩]
  receiving := []
  closed := false
  cancelled := false
  child := false
  held := true

/-- The run. -/
lemma lineRun : Steps {} (ofTrail (.pool 0) lineTrail) ⟨8, { pools := [linePool] }⟩ := by
  have opened : Steps ({} : Stage Nat) _ _ := Chain.single (.order {} (.newPool 1 false))
  have busy := ((opened.tail (.order _ (.submit 0 (shortTask 1)))).tail
    (.pool (i := 0) _ .enter rfl rfl)).tail (.pool (i := 0) _ .take rfl rfl)
  have filling := (busy.tail (.order _ (.submit 0 (shortTask 2)))).tail
    (.pool (i := 0) _ .enter rfl rfl)
  have full := (filling.tail (.order _ (.submit 0 (shortTask 3)))).tail
    (.pool (i := 0) _ .enter rfl rfl)
  have waiting := ((full.tail (.order _ (.submit 0 (shortTask 4)))).tail
    (.order _ (.submit 0 (shortTask 5)))).tail (.order _ (.submit 0 (shortTask 6)))
  have ended := (waiting.tail (.order _ (.abandon 5))).tail (.finish _ ⟨1, none⟩)
  have started := (ended.tail (.pool (i := 0) _ .publish rfl rfl)).tail
    (.pool (i := 0) _ .take rfl rfl)
  have entered := started.tail (.pool (i := 0) _ .enter rfl rfl)
  exact entered

/-- In that run the first of the three calls gets the place, and the last one still waits. -/
theorem first_come_first_served_line :
    lasting lineTrail = [1, 2, 3, 4, 6].map (fun n => ⟨some n, shortTask n⟩) ∧
      FirstCome (.pool 0) linePool (ofTrail (.pool 0) lineTrail) ∧
      (∀ i, Place.pool 0 = .pool i → InTurn i linePool (ofTrail (.pool 0) lineTrail)) ∧
      ∀ i b, Place.pool 0 = .batch i → ([] : List (Batch Nat))[i]? = some b →
        ∃ tasks, Listed i b (ofTrail (.pool 0) lineTrail) tasks :=
  ⟨rfl, Steps.first_come_first_served lineRun rfl⟩

end Stage

end Workforce
