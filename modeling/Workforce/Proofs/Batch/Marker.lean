import Workforce.Proofs.Batch.Excuse
/-!
# The absent marker in place of a panic

A worker whose task panics is idle at once; one whose task returns the absent marker publishes it
first. In a batch in which nothing moves there is room for the marker, and the collector waits for
it, so that it only passes through the results queue. If the batch was given up, nobody waits: then
both workers exit, for different reasons.

## Main definitions

* `Workforce.Pool.Expects` — a collector waits for outputs, and there is none.
* `Workforce.Batch.withMarker` — a batch with an absent marker in its results queue.
* `Workforce.Batch.Ready` — what is known of a batch in which nothing moves.

## Main results

* `Workforce.Batch.settle_withMarker` — the collector takes the marker, and nothing else differs.
* `Workforce.Batch.Ready.finish_excuse` — what follows from the end of a task, if its panic is
  excused.

## Implementation notes

The marker is not taken at once: takers and leavers come first among the moves of a batch, and so
does the next submission. These moves do not look into the results queue, which is why the marker is
carried along until none of them is enabled.
-/

namespace Workforce

variable {α : Type} (chosen : Task α → Bool)

/-! ## Ends of tasks -/

namespace Pool

/-- The end of a task is the same, unless it is a chosen one that panics: then its worker has an
absent marker to publish. -/
lemma finish_excuse_cases (name : TaskId) (p : Pool α) :
    (p.excuse chosen).finish name = excused chosen (p.finish name) ∧
        (∀ e ∈ (p.finish name).2, ¬e.Pardoned chosen) ∨
      ∃ r ∈ p.running, ∃ rest, r.task.outcome = .panic ∧ chosen r.task = true ∧
        p.finish name = ({ p with running := rest, idle := p.idle + 1 },
          [.ended r.task, .taskFailed]) ∧
        (p.excuse chosen).finish name =
          (excuse chosen { p with running := rest, publishing := p.publishing ++ [none] },
            [.ended (r.task.excuse chosen)]) := by
  have hname : (fun r : Run α => r.task.id == name) ∘ Run.excuse chosen =
      fun r => r.task.id == name := funext fun r => by simp [Run.excuse]
  have hfind : (p.excuse chosen).running.find? (·.task.id == name) =
      (p.running.find? (·.task.id == name)).map (Run.excuse chosen) := by
    show (p.running.map (Run.excuse chosen)).find? _ = _
    rw [List.find?_map, hname]
  have herase : (p.excuse chosen).running.eraseP (·.task.id == name) =
      (p.running.eraseP (·.task.id == name)).map (Run.excuse chosen) := by
    show (p.running.map (Run.excuse chosen)).eraseP _ = _
    rw [List.eraseP_map, hname]
  simp only [finish, finish?, hfind, herase]
  cases hr : p.running.find? (·.task.id == name) with
  | none => exact .inl ⟨rfl, by simp⟩
  | some r =>
    have htask : (r.excuse chosen).task = r.task.excuse chosen := rfl
    simp only [Option.map_some, htask]
    rcases r.task.excuse_cases chosen with ⟨heq, hother⟩ | ⟨hpanic, hchosen, habsent⟩
    · rw [heq]
      have hend : ¬(Event.ended r.task).Pardoned chosen := hother
      have hfailed : ¬(Event.taskFailed : Event α).Pardoned chosen := id
      refine .inl ⟨?_, ?_⟩ <;> cases r.task.outcome <;>
        simp [Outcome.output?, excused, Event.excuse, heq, excuse, hend, hfailed]
    · right
      rw [hpanic, habsent]
      exact ⟨r, List.mem_of_find?_eq_some hr, _, hpanic, hchosen, rfl, rfl⟩

/-- The pool, but with these outputs in the results queue. -/
def withResults (outputs : List (Option α)) (p : Pool α) : Pool α := { p with results := outputs }

/-- Workers that take tasks or exit and submissions that are decided on do not look into the results
queue. -/
lemma perform?_withResults (m : Moment) (outputs : List (Option α)) (p : Pool α) {k : Move}
    (hk : k ∈ [.take, .leave, .enter]) : (p.withResults outputs).perform? m k =
      (p.perform? m k).map (Prod.map (withResults outputs) id) := by
  cases k with
  | take =>
    simp only [perform?, take?, withResults]
    split <;> rfl
  | leave =>
    have hretire : ∀ (p : Pool α) (reason : List (Event α)),
        (p.withResults outputs).retire m reason =
          Prod.map (withResults outputs) id (p.retire m reason) := fun p reason => by
      simp only [retire, apply_ite (Prod.map (withResults outputs) id)]
      rfl
    have hidle := fun n reason => hretire { p with idle := n } reason
    simp only [perform?, leave?, withResults]
    split
    · rfl
    · simp only [apply_ite (Option.map _), Option.map_some, ← hidle]
      rfl
  | enter =>
    simp only [perform?, enter?, withResults]
    split
    · rfl
    · simp only [apply_ite (Option.map _)]
      rfl
  | publish | deliver => simp at hk

/-- A collector waits for outputs, and there is none. -/
structure Expects (p : Pool α) : Prop where
  receiving : p.receiving = [⟨none, true⟩]
  results : p.results = []
  publishing : p.publishing = []

/-- It goes on waiting. -/
lemma Expects.of_perform? {m : Moment} {p q : Pool α} {es : List (Event α)} (hp : p.Expects)
    {k : Move} (hk : k ∈ [.take, .leave, .enter]) (h : p.perform? m k = some (q, es)) :
    q.Expects := by
  cases k with
  | take =>
    obtain ⟨n, t, rest, -, -, -, heq⟩ := take?_eq_some_iff.1 h
    cases heq
    exact ⟨hp.receiving, hp.results, hp.publishing⟩
  | leave =>
    obtain ⟨n, -, -, heq⟩ := leave?_eq_some_iff.1 h
    obtain ⟨rfl, -⟩ := Prod.ext_iff.1 heq
    refine ⟨?_, ?_, ?_⟩
    · rw [receiving_retire, hp.receiving]
    · rw [results_retire, hp.results]
    · rw [publishing_retire, hp.publishing]
  | enter =>
    obtain ⟨s, rest, -, ⟨-, heq⟩ | ⟨-, -, -, heq⟩⟩ := enter?_eq_some_iff.1 h <;>
      cases heq <;> exact ⟨hp.receiving, hp.results, hp.publishing⟩
  | publish | deliver => simp at hk

end Pool

namespace Batch

/-- The batch, but with an absent marker in the results queue. -/
def withMarker (b : Batch α) : Batch α := { b with pool := b.pool.withResults [none] }

/-- The moves of the pool that are tried first. -/
def earlyMoves : List Pool.Move := [.take, .leave, .enter]

/-- The first of these that is enabled. -/
def early? (m : Moment) (b : Batch α) : Option (Batch α × List (Event α)) :=
  earlyMoves.findSome? (b.performPool? m)

/-- They are tried first. -/
lemma step?_eq_or (m : Moment) (b : Batch α) : b.step? m = (b.early? m).or
    ([.pool .publish, .pool .deliver, .feed, .conclude].findSome? (b.perform? m)) := by
  have hall : Move.all =
      earlyMoves.map .pool ++ [.pool .publish, .pool .deliver, .feed, .conclude] := rfl
  rw [step?, hall, List.findSome?_append, List.findSome?_map]
  rfl

/-- They do not depend on the marker. -/
lemma early?_withMarker (m : Moment) (b : Batch α) :
    b.withMarker.early? m = (b.early? m).map (Prod.map withMarker id) := by
  have hmove : ∀ k ∈ earlyMoves, b.withMarker.performPool? m k =
      (b.performPool? m k).map (Prod.map withMarker id) := fun k hk => by
    have hpool : b.withMarker.pool.perform? m k =
        (b.pool.perform? m k).map (Prod.map (Pool.withResults [none]) id) :=
      Pool.perform?_withResults m [none] b.pool hk
    simp only [performPool?, hpool, Option.map_map]
    congr 1
    funext r
    simp [withMarker, observeAll_setPool]
  rw [early?, early?, List.map_findSome?, ← List.head?_filterMap, ← List.head?_filterMap,
    List.filterMap_congr hmove]
  rfl

/-- The collector goes on waiting. -/
lemma expects_of_early? {m : Moment} {b c : Batch α} {es : List (Event α)} (hb : b.pool.Expects)
    (h : b.early? m = some (c, es)) : c.pool.Expects := by
  obtain ⟨k, hk, hmove⟩ := List.exists_of_findSome?_eq_some h
  obtain ⟨q, hq, rfl⟩ := performPool?_eq_some_iff.1 hmove
  exact hb.of_perform? hk hq

/-- A collector that waits for outputs takes the marker, unless one of these moves comes first. -/
lemma step?_withMarker (m : Moment) {b : Batch α} (hb : b.pool.Expects)
    (hnone : b.early? m = none) :
    b.withMarker.step? m = some (b, [.received none true none]) := by
  have hpublish : b.withMarker.performPool? m .publish = none := by
    have hnone : b.withMarker.pool.publish? m = none :=
      Pool.publish?_eq_none_iff.2 (.inl hb.publishing)
    simp [performPool?, Pool.perform?, hnone]
  have hback : ({ b.withMarker.pool with results := [], receiving := [⟨none, true⟩] } : Pool α) =
      b.pool := by
    rw [← hb.results, ← hb.receiving]
    rfl
  have hdeliver : b.withMarker.pool.deliver? = some (b.pool, [.received none true none]) :=
    Pool.deliver?_eq_some_iff.2 ⟨⟨none, true⟩, [], hb.receiving, .inl ⟨none, [], rfl, by
      rw [← hback]
      rfl⟩⟩
  have hmove : b.withMarker.performPool? m .deliver = some (b, [.received none true none]) :=
    performPool?_eq_some_iff.2 ⟨b.pool, hdeliver, rfl⟩
  rw [step?_eq_or, early?_withMarker, hnone, List.findSome?_cons, perform?, hpublish,
    List.findSome?_cons, perform?, hmove]
  rfl

/-- **A marker for the collector changes nothing** but that the collector takes it. -/
theorem settle_withMarker (m : Moment) {b : Batch α} (hb : b.pool.Expects) : ∃ xs ys,
    (b.settle m).2 = xs ++ ys ∧
      b.withMarker.settle m = ((b.settle m).1, xs ++ .received none true none :: ys) := by
  have taken : ∀ {m : Moment} {b : Batch α}, b.pool.Expects → b.early? m = none →
      b.withMarker.settle m = ((b.settle m).1, .received none true none :: (b.settle m).2) := by
    intro m b hb hnone
    have hafter : m.after [(.received none true none : Event α)] = m := by
      simp [Moment.after, Event.isFrailDiscard]
    rw [settle_of_step? (step?_withMarker m hb hnone), hafter]
    rfl
  fun_induction settle m b with
  | case1 m b h =>
    have hnone : b.early? m = none := (Option.or_eq_none_iff.1 (step?_eq_or m b ▸ h)).1
    refine ⟨[], [], rfl, ?_⟩
    rw [taken hb hnone, settle_eq_self h]
    rfl
  | case2 m b c es h d fs hr ih =>
    cases hearly : b.early? m with
    | none =>
      refine ⟨[], es ++ fs, rfl, ?_⟩
      rw [taken hb hearly, settle_of_step? h, hr]
      rfl
    | some x =>
      have hx : x = (c, es) := by
        rw [step?_eq_or, hearly] at h
        exact Option.some.inj h
      subst hx
      obtain ⟨xs, ys, hsplit, hsettle⟩ := ih (expects_of_early? hb hearly)
      have hstep : b.withMarker.step? m = some (c.withMarker, es) := by
        rw [step?_eq_or, early?_withMarker, hearly]
        rfl
      rw [hr] at hsplit hsettle
      refine ⟨es ++ xs, ys, ?_, ?_⟩
      · rw [List.append_assoc, ← hsplit]
      · rw [settle_of_step? hstep, hsettle, List.append_assoc]

/-! ## The end of an excused task -/

/-- What is known of a batch in which nothing moves: if its call has returned no worker is left, or
it was given up. -/
structure Ready (gone : Prop) (b : Batch α) : Prop where
  rest : b.pool.Resting
  sound : b.Sound
  returned : (b.pool.held = false → b.pool.workers = 0) ∨
    gone ∧ b.pool.deserted = true ∧ b.pool.cancelled = true

/-- The batch after a worker's task has panicked; `rest` are the tasks that run on. -/
def failed (rest : List (Run α)) (b : Batch α) : Batch α :=
  { b with pool := { b.pool with running := rest, idle := b.pool.idle + 1 } }

/-- The batch after it has returned the absent marker instead. -/
def marked (rest : List (Run α)) (b : Batch α) : Batch α :=
  { b with pool := { b.pool with running := rest, publishing := b.pool.publishing ++ [none] } }

variable {b : Batch α} {gone : Prop} (rest : List (Run α))

/-- None of the other workers moves then. -/
lemma early?_marked (hb : b.pool.Resting) (m : Moment) : (b.marked rest).early? m = none := by
  have htake : (b.marked rest).pool.take? m = none := Pool.take?_eq_none_iff.2 hb.take
  have hleave : (b.marked rest).pool.leave? m = none := Pool.leave?_eq_none_iff.2 hb.leave
  have hworkers : (b.marked rest).pool.workers ≠ 0 := by
    simp [marked, Pool.workers]
  have henter : (b.marked rest).pool.enter? m = none :=
    Pool.enter?_eq_none_iff.2 (hb.enter.imp_right fun h => ⟨hworkers, h.2⟩)
  simp [early?, earlyMoves, performPool?, Pool.perform?, htake, hleave, henter]

/-- **If the collector waits** the marker is published, and the collector takes it. -/
lemma settle_marked (hb : b.pool.Resting) (hp : b.pool.Expects) (m : Moment) : ∃ xs ys,
    ((b.failed rest).settle m).2 = xs ++ ys ∧
      (b.marked rest).settle m = (((b.failed rest).settle m).1,
        .published none :: (xs ++ .received none true none :: ys)) := by
  have hexpects : (b.failed rest).pool.Expects := ⟨hp.receiving, hp.results, hp.publishing⟩
  have hpublish : (b.marked rest).pool.publish? m =
      some ((b.failed rest).withMarker.pool, [.published none]) := by
    have hused : (b.marked rest).pool.deserted = false := by
      simp [marked, Pool.deserted, hp.receiving]
    have hroom : (b.marked rest).pool.results.length < (b.marked rest).pool.capacity := by
      have hpos := b.pool.size_pos
      simp [marked, hp.results, Pool.capacity, hpos]
    refine Pool.publish?_eq_some_iff.2 ⟨none, [], ?_, .inr ⟨hused, hroom, ?_⟩⟩
    · simp [marked, hp.publishing]
    · simp [marked, failed, withMarker, Pool.withResults, hp.publishing, hp.results]
  have hmove : (b.marked rest).performPool? m .publish =
      some ((b.failed rest).withMarker, [.published none]) :=
    performPool?_eq_some_iff.2 ⟨_, hpublish, rfl⟩
  have hstep : (b.marked rest).step? m =
      some ((b.failed rest).withMarker, [.published none]) := by
    rw [step?_eq_or, early?_marked rest hb, List.findSome?_cons, perform?, hmove]
    rfl
  have hafter : m.after [(.published none : Event α)] = m := by
    simp [Moment.after, Event.isFrailDiscard]
  obtain ⟨xs, ys, hsplit, hsettle⟩ := settle_withMarker m hexpects
  refine ⟨xs, ys, hsplit, ?_⟩
  rw [settle_of_step? hstep, hafter, hsettle]
  rfl

/-- **If the batch was given up** both workers exit. -/
lemma settle_marked_of_deserted (hb : b.pool.Resting) (deserted : b.pool.deserted = true)
    (cancelled : b.pool.cancelled = true) (m : Moment) : ∃ es,
    ((b.failed rest).settle m).2 = .sawCancellation :: es ∧
      (b.marked rest).settle m = (((b.failed rest).settle m).1, .receiverGone :: es) := by
  have hidle : b.pool.idle = 0 := hb.leave.resolve_right fun h => by simp [cancelled] at h
  have hpublishing : b.pool.publishing = [] :=
    hb.publish.resolve_right fun h => by simp [deserted] at h
  -- the worker is in neither of the two places any more
  obtain ⟨x, hretire⟩ : ∃ x : Pool α × List (Event α), ∀ reason,
      ({ b.pool with running := rest } : Pool α).retire m reason = (x.1, reason ++ x.2) :=
    ⟨_, fun reason => Pool.retire_eq_append m reason _⟩
  have hleave : (b.failed rest).pool.leave? m = some (x.1, .sawCancellation :: x.2) := by
    have hfarewell : (b.failed rest).pool.farewell = [.sawCancellation] :=
      Pool.farewell_of_cancelled cancelled
    refine Pool.leave?_eq_some_iff.2 ⟨b.pool.idle, rfl, .inl cancelled, ?_⟩
    rw [hfarewell]
    exact hretire [.sawCancellation]
  have hpublish : (b.marked rest).pool.publish? m = some (x.1, .receiverGone :: x.2) := by
    refine Pool.publish?_eq_some_iff.2 ⟨none, [], ?_, .inl ⟨deserted, ?_⟩⟩
    · simp [marked, hpublishing]
    · simp only [marked, ← hpublishing]
      exact hretire [.receiverGone]
  -- the batch learns nothing from the exit of a worker
  have hlearn : ∀ (q : Pool α) (e : Event α), (∀ c : Batch α, c.observe e = c) →
      ({ ({ b with pool := q } : Batch α).observeAll (e :: x.2) with pool := x.1 } : Batch α) =
        { b.observeAll x.2 with pool := x.1 } := fun q e he => by
    rw [observeAll, List.foldl_cons, he, ← observeAll, observeAll_setPool]
  have hmove : (b.failed rest).performPool? m .leave =
      some ({ b.observeAll x.2 with pool := x.1 }, .sawCancellation :: x.2) :=
    performPool?_eq_some_iff.2 ⟨x.1, hleave, (hlearn _ _ fun _ => rfl).symm⟩
  have hmove' : (b.marked rest).performPool? m .publish =
      some ({ b.observeAll x.2 with pool := x.1 }, .receiverGone :: x.2) :=
    performPool?_eq_some_iff.2 ⟨x.1, hpublish, (hlearn _ _ fun _ => rfl).symm⟩
  have htake : (b.failed rest).performPool? m .take = none := by
    have hnone : (b.failed rest).pool.take? m = none := Pool.take?_eq_none_iff.2 (.inl cancelled)
    simp [performPool?, Pool.perform?, hnone]
  have hstep : (b.failed rest).step? m = some
      ({ b.observeAll x.2 with pool := x.1 }, .sawCancellation :: x.2) := by
    rw [step?_eq_or, early?, earlyMoves, List.findSome?_cons, htake, List.findSome?_cons, hmove]
    rfl
  have hstep' : (b.marked rest).step? m = some
      ({ b.observeAll x.2 with pool := x.1 }, .receiverGone :: x.2) := by
    rw [step?_eq_or, early?_marked rest hb, List.findSome?_cons, perform?, hmove']
    rfl
  have hafter : m.after (.receiverGone :: x.2) = m.after (.sawCancellation :: x.2) := by
    simp [Moment.after, Event.isFrailDiscard]
  rw [settle_of_step? hstep, settle_of_step? hstep', hafter]
  exact ⟨_, rfl, rfl⟩

/-- **The end of a task in a batch in which nothing moves** is the same and has the same
consequences, unless the task is a chosen one that panics. Then the panic is not noted, and the
absent marker passes through the results queue or, if the batch was given up, the worker exits for
another reason. -/
theorem Ready.finish_excuse (hb : b.Ready gone) (name : TaskId) :
    (b.excuse chosen).finish name = excused chosen (b.finish name) ∧
        (∀ e ∈ (b.finish name).2, ¬e.Pardoned chosen) ∨
      ∃ t c d, t.outcome = .panic ∧ chosen t = true ∧
        b.finish name = (c, [.ended t, .taskFailed]) ∧
        (b.excuse chosen).finish name = (d, [.ended (t.excuse chosen)]) ∧
        ∀ m, (d.settle m).1 = (c.settle m).1.excuse chosen ∧
          ((∃ xs ys, (c.settle m).2 = xs ++ ys ∧ (d.settle m).2 =
              .published none :: (xs.map (Event.excuse chosen) ++
                .received none true none :: ys.map (Event.excuse chosen))) ∨
            gone ∧ ∃ es, (c.settle m).2 = .sawCancellation :: es ∧
              (d.settle m).2 = .receiverGone :: es.map (Event.excuse chosen)) := by
  rcases Pool.finish_excuse_cases chosen name b.pool with ⟨hsame, hother⟩ |
    ⟨r, hr, rest, hpanic, hchosen, hfinish, hfinish'⟩
  · have hpool : (b.excuse chosen).pool.finish name =
        Pool.excused chosen (b.pool.finish name) := hsame
    refine .inl ⟨?_, hother⟩
    rw [finish, hpool]
    rfl
  · have hpool : (b.excuse chosen).pool.finish name = _ := hfinish'
    have hworkers : b.pool.workers ≠ 0 := fun hw => by
      rw [(Pool.workers_eq_zero_iff.1 hw).2.1] at hr
      cases hr
    refine .inr ⟨r.task, b.failed rest, (b.marked rest).excuse chosen, hpanic, hchosen, ?_, ?_,
      fun m => ?_⟩
    · rw [finish, hfinish]
      rfl
    · rw [finish, hpool]
      rfl
    · rw [settle_excuse]
      rcases hb.returned with hreturned | ⟨hgone, deserted, cancelled⟩
      · have hheld : b.pool.held = true := by
          by_contra hheld
          exact hworkers (hreturned (by simpa using hheld))
        have hreceiving : b.pool.receiving = [⟨none, true⟩] :=
          hb.sound.collector.resolve_right fun h => hworkers (h.2 hheld)
        obtain ⟨hresults, hpublishing, -⟩ :=
          hb.rest.empty_of_receiving (by simp [hreceiving])
        obtain ⟨xs, ys, hsplit, hsettle⟩ :=
          settle_marked rest hb.rest ⟨hreceiving, hresults, hpublishing⟩ m
        refine ⟨by rw [hsettle]; rfl, .inl ⟨xs, ys, hsplit, ?_⟩⟩
        rw [hsettle]
        simp [excused, Event.excuse]
      · obtain ⟨es, hsplit, hsettle⟩ :=
          settle_marked_of_deserted rest hb.rest deserted cancelled m
        refine ⟨by rw [hsettle]; rfl, .inr ⟨hgone, es, hsplit, ?_⟩⟩
        rw [hsettle]
        rfl

end Batch

end Workforce
