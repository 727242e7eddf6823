import Workforce.Proofs.Batch.Advance
/-!
# Cancelled pools

In a cancelled pool no task is started any more. What runs comes to its end and its output to the
receivers; what is handed in is admitted as long as a worker is left and there is room, and is
discarded with the queue by the last worker.

## Main definitions

* `Workforce.Pool.outstanding` — a bound on the outputs that a cancelled pool still has to give.

## Main results

* `Workforce.Pool.Steps.closed_iff` — a run closes a pool exactly if it says so.
* `Workforce.Pool.Steps.started_of_cancelled` — nothing is started in a cancelled pool.
* `Workforce.Pool.Steps.flow` — outputs are passed on as long as the pool is in use.
* `Workforce.Pool.Steps.outstanding_le` — they become fewer with each that is received.
* `Workforce.Pool.Resting.settle_submit_of_room`, `Resting.settle_submit_of_gone` — how one
  submission is answered.
-/

namespace Workforce.Pool

open Occurrence Trail

variable {α : Type} {p q : Pool α} {os : Trail α}

/-! ## Closing -/

/-- A step that closes a pool says so, and no other does. -/
lemma Step.closed_cases (h : Step p os q) :
    (q.closed = p.closed ∧ collect close? os = []) ∨
      (q.closed = true ∧ collect close? os = [()]) := by
  cases h with
  | stop | leave | lose =>
    refine .inl ⟨closed_retire .., ?_⟩
    exact collect_retire_of_none _ _ _ rfl rfl rfl fun _ => rfl
  | close => exact .inr ⟨rfl, rfl⟩
  | withdraw call =>
    exact .inl ⟨rfl, collect_withdraw_of_none call p (fun _ => rfl) (fun _ => rfl) fun _ => rfl⟩
  | retract => exact .inl ⟨rfl, collect_retract_of_none p (fun _ => rfl) fun _ => rfl⟩
  | resign => exact .inl ⟨rfl, collect_map_none _ _ (fun _ => rfl) _⟩
  | _ => exact .inl ⟨rfl, rfl⟩

/-- **A pool is closed by a run exactly if the run says so**, or if it was closed before. -/
theorem Steps.closed_iff (h : Steps p os q) :
    q.closed = true ↔ p.closed = true ∨ collect close? os ≠ [] := by
  induction h with
  | refl => simp
  | @tail q r os ps chain last ih =>
    rw [collect_append]
    rcases last.closed_cases with ⟨hr, hclose⟩ | ⟨hr, hclose⟩
    · rw [hr, hclose, List.append_nil]
      exact ih
    · rw [hr, hclose]
      simp

/-! ## Tasks -/

/-- Along steps a cancelled pool stays cancelled. -/
lemma Steps.cancelled_mono (h : Steps p os q) (hp : p.cancelled = true) : q.cancelled = true :=
  h.keeps (P := fun r => r.cancelled = true) (fun _ _ _ hs => hs.cancelled_mono) hp

/-- **Nothing is started in a cancelled pool.** -/
theorem Steps.started_of_cancelled (h : Steps p os q) (hp : p.cancelled = true) :
    collect started? os = [] := by
  induction h with
  | refl => rfl
  | @tail q r os ps chain last ih =>
    rw [collect_append, ih, List.nil_append]
    rcases last.queue_cases with ⟨-, hs, -⟩ | ⟨t, -, -, -, -, hc⟩ | ⟨s, -, hs, -⟩ | ⟨-, hs, -⟩
    · exact hs
    · rw [Steps.cancelled_mono chain hp] at hc
      cases hc
    · exact hs
    · exact hs

/-- What ran in a cancelled pool runs or has ended. -/
lemma Steps.underway_of_cancelled (h : Steps p os q) (hp : p.cancelled = true) :
    (q.underway ++ collect ended? os).Perm p.underway := by
  obtain ⟨turned, dropped, hledger⟩ := h.ledger
  have hwork := hledger.work
  rwa [h.started_of_cancelled hp, List.append_nil] at hwork

/-- As long as a worker is left, the queue of a cancelled pool grows by what is admitted. -/
lemma Steps.queue_of_cancelled (h : Steps p os q) (hp : p.cancelled = true) (hw : q.workers ≠ 0) :
    q.queue = p.queue ++ admitted os := by
  obtain ⟨turned, dropped, hledger⟩ := h.ledger
  have hdropped : dropped = [] := hledger.drops.resolve_right fun hd => hw hd.1
  have hqueue := hledger.queue
  rw [h.started_of_cancelled hp, hdropped, List.append_nil, List.nil_append] at hqueue
  exact hqueue.symm

/-- Nothing is admitted to a pool without workers. -/
lemma Steps.admitted_of_gone (h : Steps p os q) (hp : p.workers = 0) :
    collect admitted? os = [] := by
  induction h with
  | refl => rfl
  | @tail q r os ps chain last ih =>
    rw [collect_append, ih, (last.quiet (Steps.workers_eq_zero chain hp)).2.1]
    rfl

/-! ## Submissions -/

/-- Only a pool without workers, or one that is closed, refuses anybody. -/
lemma Step.refused_cases (h : Step p os q) :
    collect refused? os = [] ∨ p.workers = 0 ∨ p.closed = true := by
  cases h with
  | refuse m submitting why => exact .inr (why.imp_right And.right)
  | turnAway m s closed => exact .inr (.inr closed)
  | stop | leave | lose =>
    exact .inl (collect_retire_of_none _ _ _ rfl rfl rfl fun _ => rfl)
  | withdraw call =>
    exact .inl (collect_withdraw_of_none call p (fun _ => rfl) (fun _ => rfl) fun _ => rfl)
  | retract => exact .inl (collect_retract_of_none p (fun _ => rfl) fun _ => rfl)
  | resign => exact .inl (collect_map_none _ _ (fun _ => rfl) _)
  | _ => exact .inl rfl

/-- As long as a worker is left and the pool is open, nobody is refused. -/
lemma Steps.refused_of_open (h : Steps p os q) (hw : q.workers ≠ 0) (hq : q.closed = false) :
    collect refused? os = [] := by
  induction h with
  | refl => rfl
  | @tail q r os ps chain last ih =>
    have hw' : q.workers ≠ 0 := fun hz => hw (Nat.le_zero.1 (hz ▸ last.workers_le))
    have hq' : q.closed = false := by
      by_contra hne
      rw [last.closed_mono (by simpa using hne)] at hq
      cases hq
    rw [collect_append, ih hw' hq', List.nil_append]
    refine last.refused_cases.resolve_right ?_
    rintro (hz | hc)
    · exact hw' hz
    · rw [hq'] at hc
      cases hc

/-- Where nobody has been refused, whoever was in the line or has joined it is in it, was admitted
or gave up. -/
lemma Steps.line_of_open (h : Steps p os q) (hw : q.workers ≠ 0) (hq : q.closed = false) :
    (q.submitting ++ collect admitted? os ++ collect retracted? os).Perm
      (p.submitting ++ collect asked? os) := by
  obtain ⟨turned, dropped, hledger⟩ := h.ledger
  have hturned : turned = [] := by
    have hrefusals := hledger.refusals
    rw [h.refused_of_open hw hq] at hrefusals
    exact List.map_eq_nil_iff.1 hrefusals
  have hline := hledger.line
  rwa [hturned, List.append_nil] at hline

/-! ## Outputs -/

/-- A pool whose handle is held is in use. -/
lemma deserted_of_held (h : p.held = true) : p.deserted = false := by
  simp [deserted, h]

/-- **Outputs are passed on** in their order, as long as the pool is not deserted. -/
theorem Steps.flow (h : Steps p os q) (hq : q.deserted = false) :
    p.results ++ p.publishing ++ Trail.outputs os = received os ++ q.results ++ q.publishing := by
  induction h with
  | refl => simp [Trail.outputs, received]
  | @tail q r os ps chain last ih =>
    have hd : q.deserted = false := by
      by_contra hne
      rw [last.deserted_mono (by simpa using hne)] at hq
      cases hq
    have hfirst := ih hd
    have hlast := last.flow hd
    rw [outputs_append, received_append, ← List.append_assoc, hfirst,
      List.append_assoc (received os), List.append_assoc (received os), hlast]
    simp only [List.append_assoc]

/-- A bound on the outputs that a cancelled pool still has to give, and on what has to happen before
they are at hand. -/
def outstanding (p : Pool α) : Nat :=
  2 * p.running.length + p.results.length + p.publishing.length

/-- **The outputs of a cancelled pool come to their end**: each end of a task and each receipt
lowers the bound. -/
theorem Steps.outstanding_le (h : Steps p os q) (hp : p.cancelled = true)
    (hq : q.deserted = false) :
    q.outstanding + (collect ended? os).length + (received os).length ≤ p.outstanding := by
  have hwork := (h.underway_of_cancelled hp).length_eq
  have hflow := congrArg List.length (h.flow hq)
  have houtputs : (Trail.outputs os).length ≤ (collect ended? os).length :=
    List.length_filterMap_le ..
  simp only [underway, List.length_append, List.length_map] at hwork hflow
  simp only [outstanding]
  omega

/-- The end of a task that runs lowers the bound. -/
lemma outstanding_finish_lt {r : Run α} (hr : r ∈ p.running) :
    (p.finish r.task.id).1.outstanding < p.outstanding := by
  rcases p.finish_cases r.task.id with ⟨-, hnone⟩ | ⟨before, r', after, hrun, -, -, heq⟩
  · exact absurd rfl (hnone r hr)
  · have hone : r'.task.outcome.output?.toList.length ≤ 1 := by
      cases r'.task.outcome.output? <;> simp
    rw [heq]
    simp only [outstanding, hrun, List.length_append, List.length_cons]
    omega

/-- A cancelled pool at rest that runs nothing and has no output at hand has no workers. -/
lemma Resting.gone_of_outstanding (h : p.Resting) (hc : p.cancelled = true) (ho : p.running = [])
    (hr : p.results = []) : p.workers = 0 := by
  refine workers_eq_zero_iff.2 ⟨h.idle_of_ending (.inr hc), ho, ?_⟩
  refine h.publish.resolve_right ?_
  rintro ⟨-, hfull⟩
  have := p.capacity_pos
  rw [hr, List.length_nil] at hfull
  omega

/-! ## How one submission is answered -/

/-- Letting a pool settle does not touch the handle. -/
@[simp] lemma held_settle (m : Moment) (p : Pool α) : (p.settle m).1.held = p.held :=
  settle_induction m p (P := fun q => q.held = p.held) rfl
    fun _ _ _ _ _ hp h => (lowers_of_perform? h).held.trans hp

/-- A pool in which nothing can move has settled. -/
lemma settle_eq_self {m : Moment} (h : p.step? m = none) : p.settle m = (p, []) := by
  rw [settle]
  split
  · rfl
  · next heq => rw [h] at heq; cases heq

/-- A pool in which something can move settles from there. -/
lemma settle_of_step? {m : Moment} {es : List (Event α)} (h : p.step? m = some (q, es)) :
    p.settle m = ((q.settle (m.after es)).1, es ++ (q.settle (m.after es)).2) := by
  rw [settle]
  split
  · next heq => rw [h] at heq; cases heq
  · next heq =>
    rw [h] at heq
    cases heq
    rfl

/-- If no idle worker moves, the first waiting submission does. -/
lemma step?_of_enter? {m : Moment} {r : Pool α × List (Event α)} (htake : p.take? m = none)
    (hleave : p.leave? m = none) (henter : p.enter? m = some r) : p.step? m = some r := by
  simp [step?, Move.all, perform?, htake, hleave, henter]

namespace Resting

/-- **A cancelled pool with a worker admits a submission if there is room**, and that is all that
happens. -/
theorem settle_submit_of_room (h : p.Resting) (hc : p.cancelled = true) (hopen : p.closed = false)
    (hw : p.workers ≠ 0) (room : p.queue.length < p.capacity) (m m' : Moment) (s : Submission α) :
    (p.submit m s).1.settle m' =
      ({ p with queue := p.queue ++ [s.task] }, [.admitted s.caller s.task]) := by
  have hline : p.submitting = [] := h.enter.resolve_right fun hfull => by omega
  have hidle : p.idle = 0 := h.idle_of_ending (.inr hc)
  let q : Pool α := { p with submitting := [], queue := p.queue ++ [s.task] }
  have hq : q = { p with queue := p.queue ++ [s.task] } := by
    show ({ p with submitting := [], queue := _ } : Pool α) = _
    rw [← hline]
  have hsubmit : (p.submit m s).1 = { p with submitting := [s] } := by
    rw [submit, if_neg (by simp [hopen]), hline]
    rfl
  have hstep : ({ p with submitting := [s] } : Pool α).step? m' =
      some (q, [.admitted s.caller s.task]) := by
    have hw' : ({ p with submitting := [s] } : Pool α).workers ≠ 0 := hw
    have hroom : p.queue.length < ({ p with submitting := [s] } : Pool α).capacity := room
    refine step?_of_enter? (take?_eq_none_iff.2 (.inl hc)) (leave?_eq_none_iff.2 (.inl hidle)) ?_
    unfold enter?
    dsimp only
    rw [if_neg hw', if_pos hroom, if_neg (by simp [hopen])]
  have hrest : q.Resting := by
    refine ⟨.inl hc, .inl hidle, .inl rfl, ?_, h.deliver⟩
    have hd : q.deserted = p.deserted := by simp [q, deserted, hline]
    exact h.publish.imp_right fun hp => ⟨hd.trans hp.1, hp.2⟩
  rw [hsubmit, settle_of_step? hstep, settle_eq_self (step?_eq_none_iff_resting.2 hrest),
    List.append_nil, hq]

/-- **A pool without workers refuses a submission**, and that is all that happens, even if the pool
is not closed. -/
theorem settle_submit_of_gone (h : p.Resting) (hopen : p.closed = false) (hw : p.workers = 0)
    (m m' : Moment) (s : Submission α) : (p.submit m s).1.settle m' = (p, refusal m' s) := by
  have hline : p.submitting = [] := h.enter.resolve_right fun hfull => hfull.1 hw
  have hidle : p.idle = 0 := (workers_eq_zero_iff.1 hw).1
  have hq : ({ p with submitting := [] } : Pool α) = p := by rw [← hline]
  have hsubmit : (p.submit m s).1 = { p with submitting := [s] } := by
    rw [submit, if_neg (by simp [hopen]), hline]
    rfl
  have hstep : ({ p with submitting := [s] } : Pool α).step? m' = some (p, refusal m' s) := by
    have hw' : ({ p with submitting := [s] } : Pool α).workers = 0 := hw
    refine step?_of_enter? (take?_eq_none_iff.2 (.inr (.inl hidle)))
      (leave?_eq_none_iff.2 (.inl hidle)) ?_
    unfold enter?
    dsimp only
    rw [if_pos hw', hq]
  rw [hsubmit, settle_of_step? hstep, settle_eq_self (step?_eq_none_iff_resting.2 h),
    List.append_nil]

end Resting

end Workforce.Pool
