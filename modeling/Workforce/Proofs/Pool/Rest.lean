import Workforce.Proofs.Pool.Outputs
/-!
# Pools at rest

A pool is *at rest* when none of its moves is enabled. What keeps it there: each kind of move is
blocked for a reason, and together the reasons show who waits for whom. In the end every call that
waits on a pool at rest waits for a running task or for somebody who takes outputs.

## Main definitions

* `Workforce.Pool.Resting` — for each kind of move, why it is not enabled.

## Main results

* `Workforce.Pool.step?_eq_none_iff_resting` — nothing can move exactly for these reasons.
* `Workforce.Pool.Resting.full_of_submitting` — whoever waits to submit faces a full queue.
* `Workforce.Pool.Resting.running_of_receiving` — whoever waits for the last outputs waits for a
  running task.
* `Workforce.Pool.Resting.empty_of_deserted` — a deserted pool that runs nothing is empty.
-/

namespace Workforce.Pool

variable {α : Type} {p : Pool α}

/-- Why each kind of move is not enabled. -/
structure Resting (p : Pool α) : Prop where
  take : p.cancelled = true ∨ p.idle = 0 ∨ p.queue = []
  leave : p.idle = 0 ∨ p.cancelled = false ∧ (p.queue ≠ [] ∨ p.sealed = false)
  enter : p.submitting = [] ∨ p.workers ≠ 0 ∧ p.capacity ≤ p.queue.length
  publish : p.publishing = [] ∨ p.deserted = false ∧ p.capacity ≤ p.results.length
  deliver : p.receiving = [] ∨ p.results = [] ∧ p.workers ≠ 0

/-! ## Moves that are not enabled -/

/-- No worker takes a task. -/
lemma take?_eq_none_iff {m : Moment} :
    p.take? m = none ↔ p.cancelled = true ∨ p.idle = 0 ∨ p.queue = [] := by
  unfold take?
  cases hc : p.cancelled <;> cases hi : p.idle <;> cases hq : p.queue <;> simp

/-- No idle worker exits. -/
lemma leave?_eq_none_iff {m : Moment} :
    p.leave? m = none ↔
      p.idle = 0 ∨ p.cancelled = false ∧ (p.queue ≠ [] ∨ p.sealed = false) := by
  unfold leave?
  cases hi : p.idle with
  | zero => simp
  | succ n =>
    cases hc : p.cancelled <;> cases hs : p.sealed <;> cases hq : p.queue <;> simp

/-- No submission comes to its decision. -/
lemma enter?_eq_none_iff {m : Moment} :
    p.enter? m = none ↔ p.submitting = [] ∨ p.workers ≠ 0 ∧ p.capacity ≤ p.queue.length := by
  unfold enter?
  cases hs : p.submitting with
  | nil => simp
  | cons s rest =>
    by_cases hw : p.workers = 0
    · simp [hw]
    · by_cases hroom : p.queue.length < p.capacity
      · cases hc : p.closed <;> simp [hw, hroom]
      · simp [hw, hroom]
        omega

/-- No publisher publishes or gives up. -/
lemma publish?_eq_none_iff {m : Moment} :
    p.publish? m = none ↔
      p.publishing = [] ∨ p.deserted = false ∧ p.capacity ≤ p.results.length := by
  unfold publish?
  cases hs : p.publishing with
  | nil => simp
  | cons output rest =>
    cases hd : p.deserted with
    | true => simp
    | false =>
      by_cases hroom : p.results.length < p.capacity
      · simp [hroom]
      · simp [hroom]
        omega

/-- No receiver is answered. -/
lemma deliver?_eq_none_iff :
    p.deliver? = none ↔ p.receiving = [] ∨ p.results = [] ∧ p.workers ≠ 0 := by
  unfold deliver?
  cases hr : p.receiving <;> cases ho : p.results <;> simp

/-- Nothing can move exactly when each kind of move is blocked. -/
theorem step?_eq_none_iff_resting {m : Moment} : p.step? m = none ↔ p.Resting := by
  rw [step?_eq_none_iff]
  constructor
  · intro h
    exact ⟨take?_eq_none_iff.1 (h .take), leave?_eq_none_iff.1 (h .leave),
      enter?_eq_none_iff.1 (h .enter), publish?_eq_none_iff.1 (h .publish),
      deliver?_eq_none_iff.1 (h .deliver)⟩
  · intro h k
    cases k with
    | take => exact take?_eq_none_iff.2 h.take
    | leave => exact leave?_eq_none_iff.2 h.leave
    | enter => exact enter?_eq_none_iff.2 h.enter
    | publish => exact publish?_eq_none_iff.2 h.publish
    | deliver => exact deliver?_eq_none_iff.2 h.deliver

/-! ## Who waits for whom -/

/-- The queues have room for something. -/
lemma capacity_pos (p : Pool α) : 0 < p.capacity := by
  have := p.size_pos
  rw [capacity]
  omega

namespace Resting

/-- Idle workers have nothing to take. -/
lemma idle_cases (h : p.Resting) :
    p.idle = 0 ∨ p.queue = [] ∧ p.cancelled = false ∧ p.sealed = false := by
  rcases h.leave with hi | ⟨hc, hwhy⟩
  · exact .inl hi
  · rcases h.take with hc' | hi | hq
    · simp [hc] at hc'
    · exact .inl hi
    · exact .inr ⟨hq, hc, hwhy.resolve_left (absurd hq)⟩

/-- Whoever waits to submit faces a full queue, and the workers that have not exited are running a
task or waiting for room in a full results queue. -/
lemma full_of_submitting (h : p.Resting) (hp : p.Sound) (hs : p.submitting ≠ []) :
    p.queue.length = p.capacity ∧ p.workers ≠ 0 ∧ p.idle = 0 ∧
      (p.publishing = [] ∨ p.results.length = p.capacity) := by
  obtain ⟨hw, hfull⟩ := h.enter.resolve_left hs
  have hne : p.queue ≠ [] := by
    intro hq
    have := p.capacity_pos
    rw [hq, List.length_nil] at hfull
    omega
  refine ⟨Nat.le_antisymm hp.queue_le hfull, hw, ?_, ?_⟩
  · exact h.idle_cases.resolve_right fun hq => hne hq.1
  · exact h.publish.imp_right fun hr => Nat.le_antisymm hp.results_le hr.2

/-- While somebody waits for outputs, none is at hand. -/
lemma empty_of_receiving (h : p.Resting) (hr : p.receiving ≠ []) :
    p.results = [] ∧ p.publishing = [] ∧ p.workers ≠ 0 := by
  obtain ⟨hresults, hw⟩ := h.deliver.resolve_left hr
  refine ⟨hresults, h.publish.resolve_right ?_, hw⟩
  rintro ⟨-, hfull⟩
  have := p.capacity_pos
  rw [hresults, List.length_nil] at hfull
  omega

/-- No worker of a pool that is closed or cancelled is idle. -/
lemma idle_of_ending (h : p.Resting) (hend : p.closed = true ∨ p.cancelled = true) :
    p.idle = 0 := by
  refine h.idle_cases.resolve_right ?_
  rintro ⟨hq, hc, hsealed⟩
  have hclosed : p.closed = true := hend.resolve_right (by simp [hc])
  -- a closed pool that is not sealed has a submission in the line, which faces a full queue
  have hsub : p.submitting ≠ [] := fun hs => by simp [Pool.sealed, hs, hclosed] at hsealed
  have hfull := (h.enter.resolve_left hsub).2
  have := p.capacity_pos
  rw [hq, List.length_nil] at hfull
  omega

/-- **Whoever waits for the last outputs waits for a running task.** -/
theorem running_of_receiving (h : p.Resting) (hr : p.receiving ≠ [])
    (hend : p.closed = true ∨ p.cancelled = true) : p.running ≠ [] := by
  obtain ⟨-, hpublishing, hw⟩ := h.empty_of_receiving hr
  intro hrunning
  exact hw (workers_eq_zero_iff.2 ⟨h.idle_of_ending hend, hrunning, hpublishing⟩)

/-- A deserted pool that runs nothing is empty. -/
lemma empty_of_deserted (h : p.Resting) (hp : p.Sound) (hd : p.deserted = true)
    (hrunning : p.running = []) : p.workers = 0 ∧ p.queue = [] := by
  have hpublishing : p.publishing = [] := h.publish.resolve_right fun hr => by simp [hd] at hr
  have hidle : p.idle = 0 := by
    refine h.idle_cases.resolve_right ?_
    rintro ⟨-, -, hsealed⟩
    have hsub : p.submitting = [] := (deserted_iff.1 hd).2.1
    simp [Pool.sealed, hsub, hd] at hsealed
  have hw : p.workers = 0 := workers_eq_zero_iff.2 ⟨hidle, hrunning, hpublishing⟩
  exact ⟨hw, hp.queue_of_gone hw⟩

end Resting

end Workforce.Pool
