import Workforce.Proofs.Abandoning
import Workforce.Proofs.Batch.Replies
import Workforce.Proofs.Scene.Verdict
/-!
# When a batch is answered by an error

A batch that has not been given up is answered by an error exactly if the first frail task that was
discarded in the scene is a task of this batch that has not been admitted. When it is answered its
pool has been closed, whatever was started has come to its end, and every other task has been
discarded.

## Main definitions

* `Workforce.Answer.Unbegun` — how a call is answered whose batch does not begin.
* `Workforce.Stage.Judged` — what can be told of a batch from what has happened.
* `Workforce.Stage.Released`, `Stage.Over` — what has happened to a batch when its submitter has
  ended, and when it is answered.

## Main results

* `Workforce.Stage.Steps.unbegun` — what has happened where no batch is.
* `Workforce.Stage.Steps.judged` — it can be told after every run.
* `Workforce.Stage.Steps.released` — what was not admitted is discarded by the submitter.
* `Workforce.Stage.Steps.over_of_answered` — a batch is answered when everything is over.
* `Workforce.Stage.Steps.returned_of_ended` — then it is.
-/

namespace Workforce

open Occurrence Trail History

variable {α : Type}

/-- The tasks of a part of a history are named if all are. -/
lemma History.Named.of_append_left {h k : History α} (named : History.Named (h ++ k)) :
    h.Named where
  asked place s c hmem := named.asked place s c (List.mem_append_left _ hmem)
  batched place c tasks j t hmem := named.batched place c tasks j t (List.mem_append_left _ hmem)

/-- Nothing is on the workers of a pool that has just been made. -/
lemma Pool.Blank.underway {p : Pool α} (blank : p.Blank) : p.underway = [] := by
  rw [Pool.underway, blank.running, List.map_nil]

/-- When the submitter of a batch has ended, its tasks are in the queue or on workers. -/
lemma Batch.Sound.stock_of_finished {b : Batch α} (sound : b.Sound) (finished : b.Finished) :
    b.stock = b.pool.queue ++ b.pool.underway := by
  have hremaining := (sound.finished finished).2
  have hline : b.pool.submitting = [] := by
    obtain ⟨panicked, hs⟩ := finished
    exact sound.line.resolve_left (by simp [hs])
  simp [Batch.stock, hremaining, Pool.stock, Pool.inHand, hline]

namespace Stage

open Scene

variable {g g' : Stage α} {h k : History α} {place : Place} {i : Nat} {b c : Batch α} {t : Task α}

/-! ## What has been admitted -/

/-- What has happened has occurred. -/
lemma mem_events {e : Event α} : (place, e) ∈ events h ↔ (place, event e) ∈ h := by
  rw [events, List.mem_filterMap]
  constructor
  · rintro ⟨⟨q, o⟩, hmem, heq⟩
    cases o with
    | event f =>
      cases heq
      exact hmem
    | _ => cases heq
  · exact fun hmem => ⟨_, hmem, rfl⟩

/-- A task has been admitted at a place if that has happened there. -/
lemma mem_admitted : t ∈ Trail.admitted (trailAt place h) ↔
    ∃ caller, (place, .admitted caller t) ∈ events h := by
  rw [Trail.admitted, List.mem_map]
  constructor
  · rintro ⟨s, hs, rfl⟩
    obtain ⟨o, ho, hkind⟩ := mem_collect.1 hs
    cases o with
    | event e =>
      cases e with
      | admitted caller task =>
        cases hkind
        exact ⟨caller, mem_events.2 (mem_trailAt.1 ho)⟩
      | _ => cases hkind
    | _ => cases hkind
  · rintro ⟨caller, hmem⟩
    exact ⟨⟨caller, t⟩, mem_collect.2 ⟨_, mem_trailAt.2 (mem_events.1 hmem), rfl⟩, rfl⟩

/-- A task has been discarded if that has happened anywhere. -/
lemma mem_discarded (hmem : (place, .discarded t) ∈ events h) :
    t ∈ collect discarded? (trail h) :=
  mem_collect.2 ⟨_, List.mem_map_of_mem (mem_events.1 hmem), rfl⟩

/-- What is in the queue of a pool has been admitted. -/
lemma Steps.admitted_of_queue (run : Steps {} h g) {p : Pool α}
    (here : g.scene.poolAt place = some p) (ht : t ∈ p.queue) :
    t ∈ Trail.admitted (trailAt place h) := by
  obtain ⟨p₀, os, blank, hsteps, hos, -⟩ := run.changes_of_empty.life here
  obtain ⟨turned, dropped, hledger⟩ := hsteps.ledger
  have hqueue := hledger.queue
  rw [blank.queue, List.nil_append, Trail.admitted, (collect_congr hos).1] at hqueue
  rw [Trail.admitted, hqueue]
  exact List.mem_append_left _ (List.mem_append_right _ ht)

/-- **What somebody has in hand has not been admitted** anywhere.

**Proof sketch.** What has been admitted is in the queue, has been started or has been dropped with
the queue, and a task is in one place only. -/
theorem Steps.not_admitted_of_inHand (run : Steps {} h g) (named : h.Named)
    (ht : t ∈ g.scene.inHand) {p : Pool α} (here : g.scene.poolAt place = some p) :
    t ∉ Trail.admitted (trailAt place h) := by
  intro hadmitted
  obtain ⟨hstarted, hdiscarded⟩ := run.inHand_fresh named ht
  obtain ⟨p₀, os, blank, hsteps, hos, hdiscards⟩ := run.changes_of_empty.life here
  obtain ⟨turned, dropped, hledger⟩ := hsteps.ledger
  obtain ⟨hadmits, hstarts, -⟩ := collect_congr hos
  have hqueue := hledger.queue
  rw [blank.queue, List.nil_append, Trail.admitted, hadmits, ← Trail.admitted, hstarts] at hqueue
  rw [hqueue, List.mem_append, List.mem_append] at hadmitted
  have hsub := trailAt_sublist place h
  rcases hadmitted with (hmem | hmem) | hmem
  · exact hstarted (List.mem_map_of_mem ((hsub.filterMap started?).subset hmem))
  · -- it would be in hand and in a queue
    have honce := run.once named
    rw [List.append_assoc, List.append_assoc, List.append_assoc, List.map_append,
      List.nodup_append] at honce
    refine honce.2.2 t.id (List.mem_map_of_mem ht) t.id (List.mem_map_of_mem ?_) rfl
    exact List.mem_append_left _ (queue_subset here hmem)
  · refine hdiscarded (List.mem_map_of_mem ((hsub.filterMap discarded?).subset ?_))
    exact hdiscards (hledger.discards.symm.subset (List.mem_append_right _ hmem))

/-- A submitter has tasks of its call in hand. -/
lemma Steps.call_of_inHand (run : Steps {} h g) (named : h.Named)
    (hb : g.scene.batches[i]? = some b) (ht : t ∈ b.inHand) : t.id.call = b.call := by
  obtain ⟨tasks, hcall, htasks⟩ := run.batch_tasks hb
  have hstock : t ∈ b.stock :=
    (run.batches_sound b (List.mem_of_getElem? hb)).stock_perm.symm.subset
      (List.mem_append_left _ (List.mem_append_left _ ht))
  obtain ⟨j, hj⟩ := List.mem_iff_getElem?.1 (htasks t hstock)
  rw [named.batched _ _ _ j t hcall hj]

/-! ## Steps of a batch -/

/-- What a step of the scene is for a batch that is not given up in it. -/
structure Tends (i : Nat) (b : Batch α) (m : Moment) (k : History α) (es : List (Event α))
    (c : Batch α) : Prop where
  call : c.call = b.call
  handles : b.Handles m es c
  /-- If the pool is closed in it, that is noted. -/
  closed : c.pool.closed = true → b.pool.closed = true ∨ .poolClosed ∈ es
  /-- If the call returns in it, it is answered. -/
  returns : c.pending = b.pending ∨ ∃ answer, .batchAnswered b.call answer ∈ es
  /-- Nobody at its pool gets a number, and no other call is answered there. -/
  anonymous : b.pool.Anonymous → c.pool.Anonymous ∧ ∀ e ∈ es, e.Internal
  events : ∀ e, (Place.batch i, e) ∈ events k ↔ e ∈ es
  /-- If a frail task is discarded in it nothing happens anywhere else. -/
  alone : noisy es = true → History.events k = es.map (Place.batch i, ·)

/-- **A batch that is not given up is tended** in every step. -/
theorem Step.tends (step : Step g k g') (run : Steps {} h g)
    (hb : g.scene.batches[i]? = some b) (kept : (Place.batch i, .batchDropped) ∉ events k) :
    ∃ c es, g'.scene.batches[i]? = some c ∧ Tends i b g.scene.moment k es c := by
  have sound := run.batches_sound b (List.mem_of_getElem? hb)
  have hevents : ∀ {es : List (Event α)}, trailAt (.batch i) k = es.map event →
      ∀ e, (Place.batch i, e) ∈ events k ↔ e ∈ es := fun htrail e => by
    rw [mem_events, ← mem_trailAt, htrail]
    simp
  have hcall : ∀ {c : Batch α}, g'.scene.batches[i]? = some c → c.call = b.call := fun hc => by
    obtain ⟨d, es, hd, -, hsteps⟩ :=
      (Steps.changes (Chain.single step) run.batches_sound).batch hb
    cases hd.symm.trans hc
    exact Batch.Steps.call_eq hsteps
  rcases step.at_batch hb with ⟨l, c, es, move, hc, htrail, -, rfl⟩ | ⟨x, hc, htrail, -⟩ |
    ⟨-, hc, htrail, -⟩
  · exact ⟨c, es, hc, hcall hc, sound.handles move, Batch.closes_of_perform? move,
      Batch.returns_of_perform? move, fun hb => Batch.anonymous_perform? hb move, hevents htrail,
      fun _ => events_ofEntries _⟩
  · refine ⟨_, _, hc, hcall hc, x.handles b, fun closed => .inl ((x.flags b).1 ▸ closed),
      .inl (x.flags b).2, fun hb => Batch.anonymous_apply hb x, hevents htrail, fun hnoisy => ?_⟩
    rw [x.quiet b] at hnoisy
    cases hnoisy
  · refine absurd ((hevents htrail _).2 ?_) kept
    rw [Batch.abandon_snd]
    exact List.mem_cons_self

end Stage

/-! ## Where no batch is -/

/-- The event tells that a batch begins, or of one that does not: its call is answered, but not
because a submitter has broken down. The call has been made before the given number of calls. -/
def Event.Preliminary (calls : Nat) : Event α → Prop
  | discarded _ | poolStarted _ | workerStarted => True
  | batchAnswered n answer => n < calls ∧ answer ≠ .batch (.error .discardPanic)
  | _ => False

/-- Such an event answers no call but one that runs a batch. -/
lemma Event.Preliminary.internal {e : Event α} {n : Nat} (he : e.Preliminary n) : e.Internal := by
  cases e <;> first | rfl | exact he.elim

/-- How a call is answered whose batch does not begin: there are no tasks to run, or there is nobody
to run them. -/
def Answer.Unbegun (tasks : List (Task α)) (answer : Answer α) : Prop :=
  tasks = [] ∧ answer = .batch (.ok []) ∨
    tasks ≠ [] ∧ (answer = .panicked ∨ answer = .batch (.error (.invalidSize 0)))

namespace Stage

open Scene

variable {g g' : Stage α} {h k : History α} {place : Place} {i : Nat} {b c : Batch α} {t : Task α}

/-- Where no batch is, nothing happens but when a batch is to begin. -/
lemma eq_batch_of_event {s : Scene α} {call : Nat} {c : Command α} {e : Event α}
    (hnone : s.batches[i]? = none) (hx : (Place.batch i, e) ∈ events (s.order call c).2) :
    ∃ size tasks admission, c = .batch size tasks admission ∧
      (Place.batch i, e) ∈ (s.newBatch call size tasks admission).2 := by
  have visit : ∀ {P : Prop} {j : Nat} {before after : Trail α}
      {f : Moment → Pool α → Pool α × List (Event α)},
      (Place.batch i, e) ∈ events (s.visit j before after f).2 → P := by
    intro P j before after f hx
    unfold Scene.visit at hx
    split at hx
    · cases hx
    · rw [mem_events, List.mem_append, List.mem_append] at hx
      rcases hx with (hx | hx) | hx
      · obtain ⟨o, -, heq⟩ := List.mem_map.1 hx
        cases heq
      · obtain ⟨y, hy, heq⟩ := List.mem_map.1 hx
        unfold Scene.atPool at hy
        split at hy
        · cases hy
        · obtain ⟨e, -, rfl⟩ := List.mem_map.1 hy
          cases heq
      · obtain ⟨o, -, heq⟩ := List.mem_map.1 hx
        cases heq
  have everywhere : ∀ {P : Prop} (s' : Scene α) {f : Moment → Pool α → Pool α × List (Event α)}
      {f' : Moment → Batch α → Batch α × List (Event α)}, s'.batches = s.batches →
      (Place.batch i, e) ∈ (s'.everywhere f f').2 → P := by
    intro P s' f f' hs hx
    rcases mem_everywhere hx with ⟨j, p, b, -, hj, -⟩ | ⟨j, d, b, hd, hj, -⟩ <;> cases hj
    rw [hs, hnone] at hd
    cases hd
  cases c with
  | newPool size child =>
    simp only [order, events_ofEntries] at hx
    rcases newPool_cases size child s with heq | ⟨hn, heq⟩ <;> rw [heq] at hx
    · cases hx
    · obtain ⟨e, -, heq⟩ := List.mem_map.1 hx
      cases heq
  | submit | next | shutdown | close | cancel | drop => exact visit hx
  | batch size tasks admission =>
    refine ⟨size, tasks, admission, rfl, ?_⟩
    rw [← events_ofEntries (s.newBatch call size tasks admission).2]
    exact hx
  | cancelParent =>
    simp only [order, events_ofEntries] at hx
    exact everywhere { s with parentCancelled := true } rfl hx
  | abandon c =>
    by_cases hc : s.pendingCalls.contains c = true
    · rw [events_abandon call c s hc] at hx
      exact everywhere s rfl hx
    · rw [order, if_neg hc] at hx
      cases hx
  | release name =>
    simp only [order] at hx
    split at hx
    · cases hx
    · rw [events_ofEntries] at hx
      exact everywhere s rfl hx
  | _ => cases hx

/-- A command that leaves no batch at a place could not begin one there: it answers its own call,
and discards the tasks that it was given. -/
lemma unbegun_order {s : Scene α} {call : Nat} {c : Command α} {e : Event α}
    (hnone : s.batches[i]? = none) (hstill : (s.order call c).1.batches[i]? = none)
    (hx : (Place.batch i, e) ∈ events (s.order call c).2) :
    (∃ t, e = .discarded t) ∨ ∃ tasks answer,
      (Place.batch i, batched call tasks) ∈ (s.order call c).2 ∧
        e = .batchAnswered call answer ∧ answer.Unbegun tasks := by
  obtain ⟨size, tasks, admission, rfl, hevents⟩ := eq_batch_of_event hnone hx
  obtain rfl : i = s.batches.length :=
    Place.batch.inj ((newBatch_frame call size tasks admission s).2.2 _ hevents)
  by_cases htasks : tasks = []
  · subst htasks
    rw [newBatch_nil] at hevents
    cases List.mem_singleton.1 hevents
    exact .inr ⟨[], _, List.mem_cons_self, rfl, .inl ⟨rfl, rfl⟩⟩
  · rcases Nat.eq_zero_or_pos size with rfl | hsize
    · rw [newBatch_zero s call admission htasks] at hevents
      obtain ⟨e, he, heq⟩ := List.mem_map.1 hevents
      cases heq
      rcases List.mem_append.1 he with he | he
      · obtain ⟨t, -, rfl⟩ := List.mem_map.1 he
        exact .inl ⟨t, rfl⟩
      · rw [List.mem_singleton.1 he]
        refine .inr ⟨tasks, _, List.mem_cons_self, rfl, .inr ⟨htasks, ?_⟩⟩
        split
        · exact .inl rfl
        · exact .inr rfl
    · -- with tasks and workers it begins
      rw [order, newBatch_of_pos s call admission hsize htasks] at hstill
      simp at hstill

/-- **What has happened at a place where no batch is**: tasks were discarded and calls answered
whose batches could not begin. -/
theorem Steps.unbegun (run : Steps {} h g) (hnone : g.scene.batches[i]? = none) {e : Event α}
    (hx : (Place.batch i, e) ∈ events h) :
    (∃ t, e = .discarded t) ∨ ∃ call tasks answer, call < g.calls ∧
      (Place.batch i, batched call tasks) ∈ h ∧ e = .batchAnswered call answer ∧
        answer.Unbegun tasks := by
  induction run with
  | refl => cases hx
  | @tail g₁ g₂ h₁ k run last ih =>
    -- a batch that is there stays there
    have hnone₁ : g₁.scene.batches[i]? = none := by
      cases hb : g₁.scene.batches[i]? with
      | none => rfl
      | some b =>
        obtain ⟨c, -, hc, -⟩ :=
          (Steps.changes (Chain.single last) (Steps.batches_sound run)).batch hb
        cases hnone.symm.trans hc
    rw [events_append, List.mem_append] at hx
    rcases hx with hx | hx
    · refine (ih hnone₁ hx).imp_right ?_
      rintro ⟨call, tasks, answer, hlt, hcall, rest⟩
      exact ⟨call, tasks, answer, Nat.lt_of_lt_of_le hlt last.calls.1,
        List.mem_append_left _ hcall, rest⟩
    · cases last with
      | order c =>
        refine (unbegun_order hnone₁ hnone hx).imp_right ?_
        rintro ⟨tasks, answer, hcall, rest⟩
        exact ⟨g₁.calls, tasks, answer, Nat.lt_succ_self _, List.mem_append_right _ hcall, rest⟩
      | pool l here move =>
        rw [events_ofEntries] at hx
        obtain ⟨e, -, heq⟩ := List.mem_map.1 hx
        cases heq
      | batch l here move =>
        rw [events_ofEntries] at hx
        obtain ⟨e, -, heq⟩ := List.mem_map.1 hx
        cases heq
        cases hnone₁.symm.trans here
      | finish id =>
        rw [events_ofEntries] at hx
        rcases mem_everywhere (f := fun _ => Pool.finish id) (g := fun _ => Batch.finish id) hx with
          ⟨j, p, b, -, hj, -⟩ | ⟨j, d, b, hd, hj, -⟩ <;> cases hj
        cases hnone₁.symm.trans hd
      | clock time later => cases hx

/-- So no call has been told there that a submitter has broken down. -/
lemma Steps.preliminary (run : Steps {} h g) (hnone : g.scene.batches[i]? = none) {e : Event α}
    (hx : (Place.batch i, e) ∈ events h) : e.Preliminary g.calls := by
  rcases run.unbegun hnone hx with ⟨t, rfl⟩ | ⟨call, tasks, answer, hlt, -, rfl, hanswer⟩
  · trivial
  · refine ⟨hlt, ?_⟩
    rcases hanswer with ⟨-, rfl⟩ | ⟨-, rfl | rfl⟩ <;> simp [PoolError.discardPanic]

/-! ## Judging a batch by what has happened -/

/-- What can be told of a batch from what has happened. -/
structure Judged (i : Nat) (h : History α) (b : Batch α) : Prop where
  /-- The submitter has broken down if the first frail task that was discarded is one of this batch
  that has not been admitted. -/
  broken : b.submitter.broken = true ↔ ∃ t, (events h).find? (·.2.isFrailDiscard) =
    some (.batch i, .discarded t) ∧ t.id.call = b.call ∧
      ∀ caller, (.batch i, .admitted caller t) ∉ events h
  /-- What its call has been told is that. -/
  answered : ∀ answer, (.batch i, .batchAnswered b.call answer) ∈ events h → b.Verdict answer
  /-- Nobody who waits at its pool has a number. -/
  anonymous : b.pool.Anonymous
  /-- So that nothing that happens there answers another call than one that runs a batch. -/
  internal : ∀ e, (.batch i, e) ∈ events h → e.Internal
  /-- No other call is told at its place that a submitter has broken down. -/
  others : ∀ n, (.batch i, .batchAnswered n (.batch (.error .discardPanic))) ∈ events h → n = b.call
  /-- Its call has been answered if it has returned. -/
  returned : b.pending = false → ∃ answer, (.batch i, .batchAnswered b.call answer) ∈ events h
  /-- Its pool is closed only if that has been noted. -/
  closed : b.pool.closed = true → (.batch i, .poolClosed) ∈ events h

/-- What has been discarded is a task of a call that has been made before. -/
lemma Steps.discarded_lt (run : Steps {} h g) (named : h.Named)
    (hmem : (place, .discarded t) ∈ events h) : t.id.call < g.calls := by
  have hgiven := run.places.symm.subset (List.mem_append_right _ (mem_discarded hmem))
  obtain ⟨o, ho, ht⟩ := List.mem_flatMap.1 hgiven
  exact (run.calls.2.2 _ (mem_collect.2 ⟨o, ho, run.call_of_given named ho ht⟩)).2

/-- A batch that has just been begun has not broken down, and its call has not been answered. -/
lemma Judged.of_new (run : Steps {} h g) (named : h.Named) (step : Step g k g')
    (hnone : g.scene.batches[i]? = none) (hb : g'.scene.batches[i]? = some b) :
    Judged i (h ++ k) b := by
  obtain ⟨call, n, hn, tasks, admission, rfl, htrail, -⟩ := step.new_batch hnone hb
  -- its call is the next one
  have hcall : g.calls ≤ call := by
    have hmem : (Place.batch i, batched call tasks) ∈ k :=
      mem_trailAt.1 (htrail ▸ List.mem_cons_self)
    have hcalls := (Steps.calls (Chain.single step)).2.2 call
    exact (hcalls (mem_collect.2 ⟨_, List.mem_map_of_mem hmem, rfl⟩)).1
  have hnew : ∀ e, (Place.batch i, e) ∈ events k →
      (∃ n, e = .poolStarted n) ∨ e = .workerStarted := fun e he => by
    rw [mem_events, ← mem_trailAt, htrail] at he
    simp only [Pool.opening, List.mem_cons, List.map_cons, List.map_replicate,
      List.mem_replicate] at he
    rcases he with he | he | ⟨-, he⟩ <;> cases he <;> simp
  have hanonymous : (Batch.initial g.scene.now call n hn tasks admission
      g.scene.parentCancelled).pool.Anonymous :=
    ⟨by simp [Batch.initial, Pool.receive, Pool.fresh],
      by simp [Batch.initial, Pool.receive, Pool.fresh]⟩
  refine ⟨⟨fun hbroken => (Bool.false_ne_true hbroken).elim, ?_⟩, fun answer hmem => ?_,
    hanonymous, fun e hmem => ?_, fun n hmem => ?_,
    fun done => (Bool.false_ne_true done.symm).elim,
    fun closed => (Bool.false_ne_true closed).elim⟩
  · rintro ⟨t, hfind, hid, -⟩
    have hmem := List.mem_of_find?_eq_some hfind
    rw [events_append, List.mem_append] at hmem
    rcases hmem with hmem | hmem
    · have hlt := run.discarded_lt named hmem
      have hid : t.id.call = call := hid
      omega
    · rcases hnew _ hmem with ⟨m, heq⟩ | heq <;> cases heq
  · rw [events_append, List.mem_append] at hmem
    rcases hmem with hmem | hmem
    · have hlt : call < g.calls := (run.preliminary hnone hmem).1
      omega
    · rcases hnew _ hmem with ⟨m, heq⟩ | heq <;> cases heq
  · rw [events_append, List.mem_append] at hmem
    rcases hmem with hmem | hmem
    · exact (run.preliminary hnone hmem).internal
    · rcases hnew _ hmem with ⟨m, rfl⟩ | rfl <;> rfl
  · rw [events_append, List.mem_append] at hmem
    rcases hmem with hmem | hmem
    · exact absurd rfl (run.preliminary hnone hmem).2
    · rcases hnew _ hmem with ⟨m, heq⟩ | heq <;> cases heq

/-- If a frail task has been discarded before a step, the submitter does not break down in it. -/
lemma Judged.broken_of_some (hjudged : Judged i h b) (run : Steps {} h g) (named : h.Named)
    (hb : g.scene.batches[i]? = some b) {es : List (Event α)}
    (htends : Tends i b g.scene.moment k es c) {x : Entry α}
    (hfind : (events h).find? (·.2.isFrailDiscard) = some x) :
    c.submitter.broken = true ↔ ∃ t, x = (.batch i, .discarded t) ∧ t.id.call = b.call ∧
      ∀ caller, (.batch i, .admitted caller t) ∉ events (h ++ k) := by
  have hbrittle : g.scene.brittle = false := by
    rw [run.brittle_eq, noisy, List.any_map, Bool.not_eq_false', List.any_eq_true]
    exact ⟨x, List.mem_of_find?_eq_some hfind, List.find?_some hfind⟩
  have hsame : c.submitter.broken = b.submitter.broken := by
    rcases htends.handles.broken with ⟨heq, -⟩ | ⟨heq, -⟩
    · exact heq
    · rw [heq, Scene.moment, hbrittle, Bool.false_and, Bool.or_false]
  rw [hsame, hjudged.broken, hfind]
  simp only [Option.some.injEq, events_append, List.mem_append, not_or]
  refine exists_congr fun t => and_congr_right fun hx => and_congr_right fun _ =>
    forall_congr' fun caller => (and_iff_left fun hadmitted => ?_).symm
  -- what is admitted was in hand before, and had not been discarded
  have hhand := htends.handles.admitted caller t ((htends.events _).1 hadmitted)
  refine (run.inHand_fresh named (List.mem_append_right _ (List.mem_flatMap.2
    ⟨b, List.mem_of_getElem? hb, hhand⟩))).2 (List.mem_map_of_mem ?_)
  exact mem_discarded (hx ▸ List.mem_of_find?_eq_some hfind)

/-- If none has been discarded, it breaks down in the step if it discards one. -/
lemma Judged.broken_of_none (hjudged : Judged i h b) (run : Steps {} h g) (named : h.Named)
    (hb : g.scene.batches[i]? = some b) {es : List (Event α)}
    (htends : Tends i b g.scene.moment k es c)
    (hfind : (events h).find? (·.2.isFrailDiscard) = none) :
    c.submitter.broken = true ↔ ∃ t, (events k).find? (·.2.isFrailDiscard) =
      some (.batch i, .discarded t) ∧ t.id.call = b.call ∧
        ∀ caller, (.batch i, .admitted caller t) ∉ events (h ++ k) := by
  have here : g.scene.poolAt (.batch i) = some b.pool := congrArg (Option.map _) hb
  have hbrittle : g.scene.brittle = true := by
    rw [run.brittle_eq, noisy, List.any_map, Bool.not_eq_true', List.any_eq_false]
    exact fun x hx => List.find?_eq_none.1 hfind x hx
  have hwhole : b.submitter.broken = false := by
    rw [← Bool.not_eq_true, hjudged.broken, hfind]
    rintro ⟨t, heq, -⟩
    cases heq
  have hloud : ∀ {t}, (events k).find? (·.2.isFrailDiscard) = some (.batch i, .discarded t) →
      .discarded t ∈ es ∧ noisy es = true := fun hk => by
    have hmem := (htends.events _).1 (List.mem_of_find?_eq_some hk)
    have hfrail := List.find?_some hk
    exact ⟨hmem, List.any_eq_true.2 ⟨_, hmem, hfrail⟩⟩
  rcases htends.handles.broken with ⟨heq, hqueue⟩ | ⟨heq, hhand, hadmits⟩
  · rw [heq, hwhole]
    refine ⟨fun hfalse => (Bool.false_ne_true hfalse).elim, ?_⟩
    rintro ⟨t, hk, -, hnot⟩
    obtain ⟨caller, hcaller⟩ :=
      mem_admitted.1 (run.admitted_of_queue here (hqueue t (hloud hk).1))
    exact absurd (events_append h k ▸ List.mem_append_left _ hcaller) (hnot caller)
  · rw [heq, hwhole, Scene.moment, hbrittle, Bool.true_and, Bool.false_or]
    refine ⟨fun hnoisy => ?_, fun hfirst => (hloud hfirst.choose_spec.1).2⟩
    have hnothing : noisy (([] : List (Entry α)).map Prod.snd) = false := rfl
    obtain ⟨t, ht, hk⟩ := exists_find_of_noisy (.batch i) hnothing hnoisy
    have hinHand := hhand t ht
    refine ⟨t, ?_, run.call_of_inHand named hb hinHand, fun caller hmem => ?_⟩
    · rw [htends.alone hnoisy]
      exact hk
    · rw [events_append, List.mem_append] at hmem
      rcases hmem with hmem | hmem
      · exact run.not_admitted_of_inHand named (List.mem_append_right _ (List.mem_flatMap.2
          ⟨b, List.mem_of_getElem? hb, hinHand⟩)) here (mem_admitted.2 ⟨caller, hmem⟩)
      · exact hadmits caller t ((htends.events _).1 hmem)

/-- What is judged before a step is judged after it. -/
lemma Judged.step (hjudged : Judged i h b) (run : Steps {} h g) (named : h.Named)
    (hb : g.scene.batches[i]? = some b) {es : List (Event α)}
    (htends : Tends i b g.scene.moment k es c) : Judged i (h ++ k) c where
  broken := by
    rw [htends.call, events_append, List.find?_append]
    cases hfind : (events h).find? (·.2.isFrailDiscard) with
    | some x =>
      rw [Option.some_or, hjudged.broken_of_some run named hb htends hfind, events_append]
      simp
    | none =>
      rw [Option.none_or, hjudged.broken_of_none run named hb htends hfind, events_append]
  answered answer hmem := by
    rw [htends.call, events_append, List.mem_append] at hmem
    rcases hmem with hmem | hmem
    · obtain ⟨hfin, hverdict⟩ := hjudged.answered answer hmem
      rw [Batch.Verdict, Batch.Finished, htends.handles.finished hfin]
      exact ⟨hfin, hverdict⟩
    · exact (htends.handles.answered _ _ ((htends.events _).1 hmem)).2
  anonymous := (htends.anonymous hjudged.anonymous).1
  internal e hmem := by
    rw [events_append, List.mem_append] at hmem
    exact hmem.elim (hjudged.internal e) fun hmem =>
      (htends.anonymous hjudged.anonymous).2 e ((htends.events _).1 hmem)
  others n hmem := by
    rw [events_append, List.mem_append] at hmem
    rw [htends.call]
    exact hmem.elim (hjudged.others n) fun hmem =>
      (htends.handles.answered _ _ ((htends.events _).1 hmem)).1
  returned hdone := by
    rw [htends.call, events_append]
    rcases htends.returns with hsame | ⟨answer, hanswer⟩
    · obtain ⟨answer, hmem⟩ := hjudged.returned (hsame ▸ hdone)
      exact ⟨answer, List.mem_append_left _ hmem⟩
    · exact ⟨answer, List.mem_append_right _ ((htends.events _).2 hanswer)⟩
  closed hc := by
    rw [events_append, List.mem_append]
    exact (htends.closed hc).imp hjudged.closed (htends.events _).2

/-- **A batch can be judged by what has happened**, if it has not been given up.

**Proof sketch.** Discards panic until a frail task has been discarded. So a submitter breaks down
in no step after the first discard of a frail task, and in no step before it. In that step it does
if the task was in its hands, and then the task has not been admitted and is not admitted later; if
it was in the queue, it has been admitted. -/
theorem Steps.judged (run : Steps {} h g) (named : h.Named) (hb : g.scene.batches[i]? = some b)
    (kept : (Place.batch i, .batchDropped) ∉ events h) : Judged i h b := by
  induction run generalizing b with
  | refl => cases hb
  | @tail g₁ g₂ h₁ k run last ih =>
    have named₁ : History.Named h₁ := named.of_append_left
    rw [events_append, List.mem_append, not_or] at kept
    cases hb₁ : g₁.scene.batches[i]? with
    | none => exact .of_new run named₁ last hb₁ hb
    | some b₁ =>
      obtain ⟨c, es, hc, htends⟩ := last.tends run hb₁ kept.2
      cases hb.symm.trans hc
      exact (ih named₁ hb₁ kept.1).step run named₁ hb₁ htends

/-! ## What has happened to a batch that is answered -/

/-- What has happened to a batch of some tasks when its submitter has ended. -/
structure Released (i : Nat) (tasks : List (Task α)) (past : List (Entry α)) : Prop where
  /-- Its pool has been closed. -/
  closed : (.batch i, .poolClosed) ∈ past
  /-- Whatever was not admitted has been discarded. -/
  discarded : ∀ t ∈ tasks, (∀ caller, (.batch i, .admitted caller t) ∉ past) →
    (.batch i, .discarded t) ∈ past

/-- What has happened to it when it is answered. -/
structure Over (i : Nat) (tasks : List (Task α)) (past : List (Entry α)) : Prop extends
    Released i tasks past where
  /-- Whatever was started has come to its end. -/
  ended : ∀ t, (.batch i, .started t) ∈ past → (.batch i, .ended t) ∈ past
  /-- Each task has come to its end or been discarded. -/
  fates : ∀ t ∈ tasks, (.batch i, .ended t) ∈ past ∨ (.batch i, .discarded t) ∈ past

/-- What has happened in a run has happened in one of its steps. -/
lemma Steps.exists_step (run : Steps {} h g) {x : Entry α} {before after : List (Entry α)}
    (hsplit : events h = before ++ x :: after) : ∃ h₁ g₁ k g₂ h₂ es fs, h = h₁ ++ k ++ h₂ ∧
      Steps {} h₁ g₁ ∧ Step g₁ k g₂ ∧ Steps g₂ h₂ g ∧ before = events h₁ ++ es ∧
        events k = es ++ x :: fs := by
  induction run generalizing after with
  | refl => simp [events] at hsplit
  | @tail g₁ g₂ h₁ k run last ih =>
    rw [events_append, List.append_eq_append_iff] at hsplit
    rcases hsplit with ⟨es, rfl, hk⟩ | ⟨es, hh, hk⟩
    · exact ⟨h₁, g₁, k, g₂, [], es, after, (List.append_nil _).symm, run, last, .refl g₂, rfl, hk⟩
    · cases es with
      | nil =>
        refine ⟨h₁, g₁, k, g₂, [], [], after, (List.append_nil _).symm, run, last, .refl g₂, ?_,
          hk.symm⟩
        rw [hh]
        simp
      | cons y es =>
        obtain ⟨rfl, -⟩ := List.cons_eq_cons.1 hk
        obtain ⟨h₀, g₀, k₀, g₀', h₀', es₀, fs₀, rfl, hrun, hstep, hrest, heq⟩ := ih hh
        exact ⟨h₀, g₀, k₀, g₀', h₀' ++ k, es₀, fs₀, List.append_assoc .., hrun, hstep,
          hrest.tail last, heq⟩

/-- Tasks are collected from the events of one kind. -/
lemma mem_collect_trailAt {kind : Occurrence α → Option (Task α)} {e : Event α}
    (hkind : ∀ o, kind o = some t ↔ o = event e) :
    t ∈ collect kind (trailAt place h) ↔ (place, e) ∈ events h := by
  rw [mem_collect, mem_events, ← mem_trailAt]
  constructor
  · rintro ⟨o, ho, hk⟩
    exact (hkind o).1 hk ▸ ho
  · exact fun ho => ⟨_, ho, (hkind _).2 rfl⟩

/-- So are those that have been started. -/
lemma mem_started :
    t ∈ collect started? (trailAt place h) ↔ (place, .started t) ∈ events h := by
  refine mem_collect_trailAt fun o => ?_
  cases o with
  | event e => cases e <;> simp [started?]
  | _ => simp [started?]

/-- Those that have ended. -/
lemma mem_ended : t ∈ collect ended? (trailAt place h) ↔ (place, .ended t) ∈ events h := by
  refine mem_collect_trailAt fun o => ?_
  cases o with
  | event e => cases e <;> simp [ended?]
  | _ => simp [ended?]

/-- And those that have been discarded. -/
lemma mem_discarded_trailAt :
    t ∈ collect discarded? (trailAt place h) ↔ (place, .discarded t) ∈ events h := by
  refine mem_collect_trailAt fun o => ?_
  cases o with
  | event e => cases e <;> simp [discarded?]
  | _ => simp [discarded?]

/-- Each task of a batch is still there, or has come to its end or been discarded. -/
lemma Steps.batch_places (run : Steps {} h g) (hb : g.scene.batches[i]? = some b) :
    ∃ tasks, (Place.batch i, batched b.call tasks) ∈ h ∧ ∀ t ∈ tasks,
      t ∈ b.stock ∨ (.batch i, .ended t) ∈ events h ∨ (.batch i, .discarded t) ∈ events h := by
  obtain ⟨b₀, tasks, before, es, starts, steps, -, htrail⟩ := run.changes_of_empty.batch_life hb
  have hbalance := Batch.Steps.balance steps
  rw [starts.stock_eq] at hbalance
  have hafter : ∀ kind : Occurrence α → Option (Task α),
      collect kind (es.map event) ⊆ collect kind (trailAt (.batch i) h) := fun kind u hu => by
    rw [htrail, List.map_append, collect_append, collect_cons, collect_append]
    exact List.mem_append_right _ (List.mem_append_right _ (List.mem_append_right _ hu))
  refine ⟨tasks, ?_, fun t ht => ?_⟩
  · rw [← mem_trailAt, htrail]
    exact List.mem_append_right _ List.mem_cons_self
  · rcases List.mem_append.1 (hbalance.symm.subset ht) with hu | hu
    · exact (List.mem_append.1 hu).imp_right fun hu => .inl (mem_ended.1 (hafter _ hu))
    · exact .inr (.inr (mem_discarded_trailAt.1 (hafter _ hu)))

/-- Whatever has come to its end has been admitted, and so has what is in the queue of a pool or on
its workers. -/
lemma Steps.admitted_of_place (run : Steps {} h g) {p : Pool α}
    (here : g.scene.poolAt place = some p)
    (ht : t ∈ p.queue ∨ t ∈ p.underway ∨ (place, .ended t) ∈ events h) :
    ∃ caller, (place, .admitted caller t) ∈ events h := by
  rcases ht with ht | ht | ht
  · exact mem_admitted.1 (run.admitted_of_queue here ht)
  · obtain ⟨r, hr, rfl⟩ := List.mem_map.1 ht
    exact mem_admitted.1 (run.running_admitted here hr)
  · obtain ⟨p₀, os, blank, hsteps, hos, -⟩ := run.changes_of_empty.life here
    obtain ⟨turned, dropped, hledger⟩ := hsteps.ledger
    obtain ⟨hadmits, hstarts, hends, -⟩ := collect_congr hos
    have hwork := hledger.work
    rw [blank.underway, List.nil_append, hends] at hwork
    have hstarted := hwork.subset (List.mem_append_right _ (mem_ended.2 ht))
    have hadmitted := (hsteps.started_prefix blank.queue).subset hstarted
    rw [Trail.admitted, hadmits] at hadmitted
    exact mem_admitted.1 hadmitted

/-- **When the submitter has ended** the pool has been closed and what was not admitted has been
discarded. -/
lemma Steps.released (run : Steps {} h g) (hb : g.scene.batches[i]? = some b)
    (hjudged : Judged i h b) (finished : b.Finished) :
    ∃ tasks, (Place.batch i, batched b.call tasks) ∈ h ∧ Released i tasks (events h) := by
  have here : g.scene.poolAt (.batch i) = some b.pool := congrArg (Option.map _) hb
  have sound := run.batches_sound b (List.mem_of_getElem? hb)
  obtain ⟨tasks, htasks, hplaces⟩ := run.batch_places hb
  refine ⟨tasks, htasks, hjudged.closed (sound.finished finished).1, fun t ht hnot => ?_⟩
  have hadmitted := fun hwhere => not_exists.2 hnot (run.admitted_of_place (t := t) here hwhere)
  rcases hplaces t ht with hstock | hended | hdiscarded
  · rw [sound.stock_of_finished finished] at hstock
    exact (hadmitted ((List.mem_append.1 hstock).imp_right .inl)).elim
  · exact (hadmitted (.inr (.inr hended))).elim
  · exact hdiscarded

/-- **When no worker is left either**, everything is over. -/
lemma Steps.over_of_gone (run : Steps {} h g) (hb : g.scene.batches[i]? = some b)
    (hjudged : Judged i h b) (finished : b.Finished) (gone : b.pool.workers = 0) :
    ∃ tasks, (Place.batch i, batched b.call tasks) ∈ h ∧ Over i tasks (events h) := by
  have here : g.scene.poolAt (.batch i) = some b.pool := congrArg (Option.map _) hb
  have sound := run.batches_sound b (List.mem_of_getElem? hb)
  obtain ⟨tasks, htasks, hreleased⟩ := run.released hb hjudged finished
  refine ⟨tasks, htasks, hreleased, fun t ht => ?_, fun t ht => ?_⟩
  · -- nothing runs, so that whatever was started has come to its end
    obtain ⟨p₀, os, blank, hsteps, hos, -⟩ := run.changes_of_empty.life here
    obtain ⟨turned, dropped, hledger⟩ := hsteps.ledger
    obtain ⟨-, hstarts, hends, -⟩ := collect_congr hos
    have hwork := hledger.work
    rw [Pool.underway_eq_nil gone, blank.underway, List.nil_append, List.nil_append, hends,
      hstarts] at hwork
    exact mem_ended.1 (hwork.symm.subset (mem_started.2 ht))
  · obtain ⟨tasks', htasks', hplaces⟩ := run.batch_places hb
    have hsame := Steps.call_once run htasks htasks' rfl rfl
    cases hsame
    refine (hplaces t ht).resolve_left fun hstock => ?_
    rw [sound.stock_of_finished finished, sound.pool.queue_of_gone gone,
      Pool.underway_eq_nil gone] at hstock
    cases hstock

/-- A submitter that has broken down has ended when nothing can move. -/
lemma finished_of_broken (settled : g.Settled) (hb : g.scene.batches[i]? = some b)
    (broken : b.submitter.broken = true) : b.Finished := by
  have hfeed : b.feed? g.scene.moment = none :=
    Batch.step?_eq_none_iff.1 (settled.2 b (List.mem_of_getElem? hb)) .feed
  refine (Batch.feed?_eq_none_iff.1 hfeed).resolve_right fun ⟨active, _⟩ => ?_
  rw [active] at broken
  cases broken

/-- **A batch has been answered** if whatever was started has ended, and nothing can move. -/
lemma Steps.returned_of_ended (run : Steps {} h g) (named : h.Named) (settled : g.Settled)
    (hb : g.scene.batches[i]? = some b) (hjudged : Judged i h b)
    (ended : ∀ t, (.batch i, .started t) ∈ events h → (.batch i, .ended t) ∈ events h) :
    ∃ answer, (.batch i, .batchAnswered b.call answer) ∈ events h := by
  have hmem := List.mem_of_getElem? hb
  refine hjudged.returned ?_
  -- if the call were pending a task would run, which has been started and has ended
  by_contra hpending
  have hrunning := (run.batches_sound b hmem).running_of_pending (settled.2 b hmem)
    (by simpa using hpending)
  obtain ⟨r, hr⟩ := List.exists_mem_of_ne_nil _ hrunning
  have here : g.scene.poolAt (.batch i) = some b.pool := congrArg (Option.map _) hb
  have hstarted : (.batch i, .started r.task) ∈ events h := by
    obtain ⟨p₀, os, blank, hsteps, hos, -⟩ := run.changes_of_empty.life here
    obtain ⟨turned, dropped, hledger⟩ := hsteps.ledger
    have hwork := hledger.work
    rw [blank.underway, List.nil_append, (collect_congr hos).2.1] at hwork
    exact mem_started.1 (hwork.subset (List.mem_append_left _ (List.mem_map_of_mem hr)))
  have hended : r.task ∈ collect ended? (trail h) :=
    mem_collect.2 ⟨_, List.mem_map_of_mem (mem_events.1 (ended _ hstarted)), rfl⟩
  have hunderway : r.task ∈ g.scene.underway := List.mem_map_of_mem
    (List.mem_append_right _ (List.mem_flatMap.2 ⟨b, hmem, hr⟩))
  have honce := (run.once named).sublist
    ((List.sublist_append_left _ (collect discarded? (trail h))).map Task.id)
  rw [List.map_append, List.nodup_append] at honce
  exact honce.2.2 _ (List.mem_map_of_mem (List.mem_append_right _ hunderway)) _
    (List.mem_map_of_mem hended) rfl

/-- It stays so as long as nothing is started. -/
lemma Over.append {tasks : List (Task α)} {past es : List (Entry α)} (hover : Over i tasks past)
    (hes : ∀ t, (Place.batch i, .started t) ∉ es) : Over i tasks (past ++ es) where
  closed := List.mem_append_left _ hover.closed
  discarded t ht hnot := List.mem_append_left _
    (hover.discarded t ht fun caller hmem => hnot caller (List.mem_append_left _ hmem))
  ended t ht := List.mem_append_left _
    (hover.ended t ((List.mem_append.1 ht).resolve_right (hes t)))
  fates t ht := (hover.fates t ht).imp (List.mem_append_left _) (List.mem_append_left _)

/-- The call of a batch that is begun later has not been made before. -/
lemma Steps.le_call (after : Steps g k g') (run : Steps {} h g)
    (hnone : g.scene.batches[i]? = none) (hb : g'.scene.batches[i]? = some b) :
    g.calls ≤ b.call := by
  rcases (after.changes run.batches_sound).batch_of_none hnone with ⟨hnone', -⟩ |
    ⟨b₀, call, tasks, before, es, c, starts, hc, htrail, -, hsteps⟩
  · cases hnone'.symm.trans hb
  · cases hc.symm.trans hb
    rw [Batch.Steps.call_eq hsteps, starts.call]
    have hmem : batched call tasks ∈ trail k :=
      (trailAt_sublist (.batch i) k).subset
        (htrail ▸ List.mem_append_right _ List.mem_cons_self)
    exact (after.calls.2.2 call (mem_collect.2 ⟨_, hmem, rfl⟩)).1

/-- **A batch is answered when everything is over**, if it has not been given up.

**Proof sketch.** The call returns when the submitter has ended and the collector has been told that
no worker is left. Then nothing is in hand, in the queue or on a worker. -/
theorem Steps.over_of_answered (run : Steps {} h g) (named : h.Named)
    (hb : g.scene.batches[i]? = some b)
    (kept : (Place.batch i, .batchDropped) ∉ events h) {before after : List (Entry α)}
    {answer : Answer α}
    (hsplit : events h = before ++ (.batch i, .batchAnswered b.call answer) :: after) :
    ∃ tasks, (Place.batch i, batched b.call tasks) ∈ h ∧ Over i tasks before := by
  obtain ⟨h₁, g₁, k, g₂, h₂, es, fs, rfl, run₁, step, rest, rfl, hk⟩ := run.exists_step hsplit
  have hanswer : (Place.batch i, .batchAnswered b.call answer) ∈ events k := by simp [hk]
  simp only [events_append, List.mem_append, not_or] at kept
  have named₁ : History.Named h₁ := (History.Named.of_append_left named).of_append_left
  have run₂ : Steps {} (h₁ ++ k) g₂ := run₁.tail step
  cases hb₁ : g₁.scene.batches[i]? with
  | none =>
    -- its call has not been made before
    cases hb₂ : g₂.scene.batches[i]? with
    | none =>
      have hlt := run₂.preliminary hb₂ (events_append h₁ k ▸ List.mem_append_right _ hanswer)
      exact absurd (rest.le_call run₂ hb₂ hb) (Nat.not_le.2 hlt.1)
    | some b₂ =>
      obtain ⟨call, n, hn, tasks, admission, rfl, htrail, -⟩ := step.new_batch hb₁ hb₂
      rw [mem_events, ← mem_trailAt, htrail] at hanswer
      simp [Pool.opening] at hanswer
  | some b₁ =>
    obtain ⟨c, es', hc, htends⟩ := step.tends run₁ hb₁ kept.1.2
    obtain ⟨hfin, hheld, hreceiving, hstarted⟩ :=
      htends.handles.returned _ _ ((htends.events _).1 hanswer)
    have sound := Steps.batches_sound run₁ b₁ (List.mem_of_getElem? hb₁)
    have hcall : b.call = b₁.call := by
      obtain ⟨d, ds, hd, -, hsteps⟩ :=
        (Steps.changes ((Chain.single step).trans rest) (Steps.batches_sound run₁)).batch hb₁
      cases hb.symm.trans hd
      exact Batch.Steps.call_eq hsteps
    have hw : b₁.pool.workers = 0 := sound.gone_of_received hheld hreceiving
    obtain ⟨tasks, htasks, hover⟩ :=
      Steps.over_of_gone run₁ hb₁ (Steps.judged run₁ named₁ hb₁ kept.1.1) hfin hw
    rw [← hcall] at htasks
    refine ⟨tasks, List.mem_append_left _ (List.mem_append_left _ htasks), ?_⟩
    exact hover.append fun t ht => hstarted t ((htends.events _).1 (hk ▸ List.mem_append_left _ ht))

end Stage

end Workforce
