import Workforce.Proofs.Pool.Step
/-!
# Workers and places

How the flags of a pool, the number of its workers and the fill of its queues change from step to
step, and what follows for every pool that comes from a new one.

## Main definitions

* `Workforce.Pool.Sound` — the bounds that hold of every pool, and why workers have exited.

## Main results

* `Workforce.Pool.Step.closed_mono`, `Step.cancelled_mono`, `Step.deserted_mono`,
  `Step.sealed_mono` — a pool that is closed, cancelled, deserted or sealed stays so.
* `Workforce.Pool.Step.queue_cases` — all that a step can do to the task queue.
* `Workforce.Pool.Sound.step` — every step keeps the bounds.
-/

namespace Workforce.Pool

open Occurrence Trail

variable {α : Type} {p q : Pool α} {os : Trail α}

/-! ## What never reverts -/

/-- Nobody holds a deserted pool, and nobody waits on it. -/
lemma deserted_iff : p.deserted = true ↔
    p.held = false ∧ p.submitting = [] ∧ p.receiving = [] := by
  simp [deserted, and_assoc]

/-- No task can come into a pool on which no submission waits and which is closed or deserted. -/
lemma sealed_iff : p.sealed = true ↔
    p.submitting = [] ∧ (p.closed = true ∨ p.deserted = true) := by
  simp [Pool.sealed]

/-- No step changes the size. -/
lemma Step.size_eq (h : Step p os q) : q.size = p.size := by
  cases h with
  | stop | leave | lose => exact size_retire ..
  | _ => rfl

/-- A closed pool stays closed. -/
lemma Step.closed_mono (h : Step p os q) (hp : p.closed = true) : q.closed = true := by
  cases h with
  | stop | leave | lose => exact (closed_retire ..).trans hp
  | close => rfl
  | _ => exact hp

/-- A cancelled pool stays cancelled. -/
lemma Step.cancelled_mono (h : Step p os q) (hp : p.cancelled = true) : q.cancelled = true := by
  cases h with
  | stop | leave | lose => exact (cancelled_retire ..).trans hp
  | cancel => rfl
  | follow => simp [parentCancelled, hp]
  | _ => exact hp

/-- Nobody comes back to a deserted pool. -/
lemma Step.deserted_mono (h : Step p os q) (hp : p.deserted = true) : q.deserted = true := by
  rw [deserted_iff] at hp ⊢
  obtain ⟨hheld, hsub, hrec⟩ := hp
  cases h with
  | stop | leave | lose =>
    exact ⟨(held_retire ..).trans hheld, (submitting_retire ..).trans hsub,
      (receiving_retire ..).trans hrec⟩
  | accept submitting | refuse _ submitting => simp [hsub] at submitting
  | deliver receiving | tell receiving => simp [hrec] at receiving
  | submit s held | receive r held => simp [hheld] at held
  | release => exact ⟨rfl, hsub, hrec⟩
  | withdraw call => exact ⟨hheld, by simp [Pool.withdraw, hsub], by simp [Pool.withdraw, hrec]⟩
  | retract => exact ⟨hheld, rfl, hrec⟩
  | resign => exact ⟨hheld, hsub, rfl⟩
  | _ => exact ⟨hheld, hsub, hrec⟩

/-- Once no task can come, none ever can. -/
lemma Step.sealed_mono (h : Step p os q) (hp : p.sealed = true) : q.sealed = true := by
  rw [sealed_iff] at hp ⊢
  obtain ⟨hsub, hwhy⟩ := hp
  refine ⟨?_, hwhy.imp h.closed_mono h.deserted_mono⟩
  cases h with
  | stop | leave | lose => exact (submitting_retire ..).trans hsub
  | accept submitting | refuse _ submitting => simp [hsub] at submitting
  | submit s held opened => simp [deserted_iff, held, opened] at hwhy
  | withdraw call => simp [Pool.withdraw, hsub]
  | retract => rfl
  | _ => exact hsub

/-- Along steps the size stays. -/
lemma Steps.size_eq (h : Steps p os q) : q.size = p.size :=
  h.keeps (P := fun r => r.size = p.size) (fun _ _ _ hs hr => hs.size_eq.trans hr) rfl

/-- Along steps a closed pool stays closed. -/
lemma Steps.closed_mono (h : Steps p os q) (hp : p.closed = true) : q.closed = true :=
  h.keeps (P := fun r => r.closed = true) (fun _ _ _ hs => hs.closed_mono) hp

/-! ## Workers -/

/-- A step takes away no worker, or one, which has seen the cancellation or finds that no task can
come. Its exit is reported, and with the last one the close of the results. -/
lemma Step.workers_cases (h : Step p os q) :
    (q.workers = p.workers ∧ collect exit? os = [] ∧ collect finale? os = []) ∨
      (q.workers + 1 = p.workers ∧ (p.cancelled = true ∨ p.sealed = true) ∧
        collect exit? os = [()] ∧ collect finale? os = if q.workers = 0 then [()] else []) := by
  cases h with
  | @stop n m idle cancelled =>
    right
    obtain ⟨hexit, hfinale⟩ :=
      collect_exits_retire m [.sawCancellation] { p with idle := n } (by simp)
    rw [hexit, hfinale, workers_retire]
    refine ⟨?_, .inl cancelled, rfl, rfl⟩
    simp only [workers, idle]
    omega
  | @leave n m idle queue isSealed =>
    right
    obtain ⟨hexit, hfinale⟩ := collect_exits_retire m [] { p with idle := n } (by simp)
    rw [hexit, hfinale, workers_retire]
    refine ⟨?_, .inr isSealed, rfl, rfl⟩
    simp only [workers, idle]
    omega
  | @lose output rest m publishing deserted =>
    right
    obtain ⟨hexit, hfinale⟩ :=
      collect_exits_retire m [.receiverGone] { p with publishing := rest } (by simp)
    have hsealed : p.sealed = true :=
      sealed_iff.2 ⟨(deserted_iff.1 deserted).2.1, .inr deserted⟩
    rw [hexit, hfinale, workers_retire]
    refine ⟨?_, .inr hsealed, rfl, rfl⟩
    simp only [workers, publishing, List.length_cons]
    omega
  | withdraw call =>
    refine .inl ⟨rfl, ?_, ?_⟩
    all_goals exact collect_withdraw_of_none call p (fun _ => rfl) (fun _ => rfl) fun _ => rfl
  | retract =>
    refine .inl ⟨rfl, ?_, ?_⟩
    all_goals exact collect_retract_of_none p (fun _ => rfl) fun _ => rfl
  | resign =>
    refine .inl ⟨rfl, ?_, ?_⟩
    all_goals exact collect_map_none _ _ (fun _ => rfl) _
  | take now active idle queue =>
    refine .inl ⟨?_, rfl, rfl⟩
    simp only [workers, idle, List.length_append, List.length_singleton]
    omega
  | publish publishing wanted room =>
    refine .inl ⟨?_, rfl, rfl⟩
    simp only [workers, publishing, List.length_cons]
    omega
  | finish running outcome =>
    refine .inl ⟨?_, rfl, rfl⟩
    simp only [workers, running, List.length_append, List.length_cons, List.length_nil]
    omega
  | fail running outcome =>
    refine .inl ⟨?_, rfl, rfl⟩
    simp only [workers, running, List.length_append, List.length_cons]
    omega
  | _ => exact .inl ⟨rfl, rfl, rfl⟩

/-- Workers never become more. -/
lemma Step.workers_le (h : Step p os q) : q.workers ≤ p.workers := by
  rcases h.workers_cases with ⟨h, -⟩ | ⟨h, -⟩ <;> omega

/-- A pool without workers gets none. -/
lemma Steps.workers_eq_zero (h : Steps p os q) (hp : p.workers = 0) : q.workers = 0 :=
  h.keeps (P := fun r => r.workers = 0) (fun _ _ _ hs hr => by have := hs.workers_le; omega) hp

/-! ## Queues -/

/-- All that a step can do to the task queue: nothing, start its head, add an admitted task at its
end, or drop it together with the last worker. -/
lemma Step.queue_cases (h : Step p os q) :
    (q.queue = p.queue ∧ collect started? os = [] ∧ collect admitted? os = [] ∧
      (q.workers = 0 → p.workers = 0)) ∨
    (∃ t, p.queue = t :: q.queue ∧ collect started? os = [t] ∧ collect admitted? os = [] ∧
      q.workers ≠ 0 ∧ p.cancelled = false) ∨
    (∃ s, q.queue = p.queue ++ [s.task] ∧ collect started? os = [] ∧ collect admitted? os = [s] ∧
      q.workers ≠ 0 ∧ p.queue.length < p.capacity ∧ p.closed = false) ∨
    (q.queue = [] ∧ collect started? os = [] ∧ collect admitted? os = [] ∧ q.workers = 0 ∧
      (p.queue = [] ∨ p.cancelled = true ∨ p.deserted = true)) := by
  -- the exit of a worker, the last one or not
  have exits : ∀ (m : Moment) (reason : List (Event α)) (p' : Pool α), p'.queue = p.queue →
      collect started? (reason.map event) = [] → collect admitted? (reason.map event) = [] →
      (p.queue = [] ∨ p.cancelled = true ∨ p.deserted = true) →
      ((p'.retire m reason).1.queue = p.queue ∧
        collect started? ((p'.retire m reason).2.map event) = [] ∧
        collect admitted? ((p'.retire m reason).2.map event) = [] ∧
        ((p'.retire m reason).1.workers = 0 → p.workers = 0)) ∨
      ((p'.retire m reason).1.queue = [] ∧
        collect started? ((p'.retire m reason).2.map event) = [] ∧
        collect admitted? ((p'.retire m reason).2.map event) = [] ∧
        (p'.retire m reason).1.workers = 0 ∧
        (p.queue = [] ∨ p.cancelled = true ∨ p.deserted = true)) := by
    intro m reason p' hq hstarted hadmitted hwhy
    have h1 : collect started? ((p'.retire m reason).2.map event) = [] :=
      (collect_retire_of_none m reason p' rfl rfl rfl fun _ => rfl).trans hstarted
    have h2 : collect admitted? ((p'.retire m reason).2.map event) = [] :=
      (collect_retire_of_none m reason p' rfl rfl rfl fun _ => rfl).trans hadmitted
    by_cases hw : p'.workers = 0
    · exact .inr ⟨by rw [queue_retire, if_pos hw], h1, h2, by rw [workers_retire, hw], hwhy⟩
    · refine .inl ⟨by rw [queue_retire, if_neg hw, hq], h1, h2, fun h => absurd h ?_⟩
      rwa [workers_retire]
  cases h with
  | take now active idle queue =>
    refine .inr (.inl ⟨_, queue, rfl, rfl, ?_, active⟩)
    simp [workers]
  | accept submitting alive room opened =>
    exact .inr (.inr (.inl ⟨_, rfl, rfl, rfl, alive, room, opened⟩))
  | @stop n m idle cancelled =>
    rcases exits m [.sawCancellation] { p with idle := n } rfl rfl rfl (.inr (.inl cancelled))
      with h | h
    · exact .inl h
    · exact .inr (.inr (.inr h))
  | @leave n m idle queue isSealed =>
    rcases exits m [] { p with idle := n } rfl rfl rfl (.inl queue) with h | h
    · exact .inl h
    · exact .inr (.inr (.inr h))
  | @lose output rest m publishing deserted =>
    rcases exits m [.receiverGone] { p with publishing := rest } rfl rfl rfl
      (.inr (.inr deserted)) with h | h
    · exact .inl h
    · exact .inr (.inr (.inr h))
  | withdraw call =>
    refine .inl ⟨rfl, ?_, ?_, id⟩
    · exact collect_withdraw_of_none call p (fun _ => rfl) (fun _ => rfl) fun _ => rfl
    · exact collect_withdraw_of_none call p (fun _ => rfl) (fun _ => rfl) fun _ => rfl
  | retract =>
    refine .inl ⟨rfl, ?_, ?_, id⟩
    · exact collect_retract_of_none p (fun _ => rfl) fun _ => rfl
    · exact collect_retract_of_none p (fun _ => rfl) fun _ => rfl
  | resign =>
    exact .inl ⟨rfl, collect_map_none _ _ (fun _ => rfl) _, collect_map_none _ _ (fun _ => rfl) _,
      id⟩
  | finish running outcome =>
    refine .inl ⟨rfl, rfl, rfl, fun h => absurd h ?_⟩
    simp [workers]
  | fail running outcome =>
    refine .inl ⟨rfl, rfl, rfl, fun h => absurd h ?_⟩
    simp [workers]
  | publish publishing wanted room =>
    refine .inl ⟨rfl, rfl, rfl, fun h => absurd h ?_⟩
    simp [workers]
  | _ => exact .inl ⟨rfl, rfl, rfl, id⟩

/-- The results queue grows only where there is room. -/
lemma Step.results_le (h : Step p os q) (hp : p.results.length ≤ p.capacity) :
    q.results.length ≤ q.capacity := by
  have hcap : q.capacity = p.capacity := by rw [capacity, h.size_eq, capacity]
  rw [hcap]
  cases h with
  | stop | leave | lose =>
    rw [results_retire]
    exact hp
  | publish publishing wanted room =>
    rw [List.length_append, List.length_singleton]
    exact room
  | deliver receiving results =>
    rw [results, List.length_cons] at hp
    exact Nat.le_of_succ_le hp
  | _ => exact hp

/-- What holds of every pool. -/
structure Sound (p : Pool α) : Prop where
  queue_le : p.queue.length ≤ p.capacity
  results_le : p.results.length ≤ p.capacity
  workers_le : p.workers ≤ p.size
  /-- The last worker leaves no task in the queue. -/
  queue_of_gone : p.workers = 0 → p.queue = []
  /-- As long as a pool is not cancelled and tasks can still come, no worker has exited. -/
  alive : p.cancelled = true ∨ p.sealed = true ∨ p.workers = p.size

/-- Every step keeps what holds of every pool. -/
theorem Sound.step (hp : p.Sound) (h : Step p os q) : q.Sound where
  queue_le := by
    have hcap : q.capacity = p.capacity := by rw [capacity, h.size_eq, capacity]
    have := hp.queue_le
    rw [hcap]
    rcases h.queue_cases with ⟨hq, -⟩ | ⟨t, hq, -⟩ | ⟨s, hq, -, -, -, hroom, -⟩ | ⟨hq, -⟩
    · rwa [hq]
    · rw [hq, List.length_cons] at this
      omega
    · rw [hq, List.length_append, List.length_singleton]
      omega
    · simp [hq]
  results_le := h.results_le hp.results_le
  workers_le := by
    rw [h.size_eq]
    exact Nat.le_trans h.workers_le hp.workers_le
  queue_of_gone hw := by
    rcases h.queue_cases with ⟨hq, -, -, hworkers⟩ | ⟨t, -, -, -, hworkers, -⟩ |
      ⟨s, -, -, -, hworkers, -⟩ | ⟨hq, -⟩
    · rw [hq, hp.queue_of_gone (hworkers hw)]
    · exact absurd hw hworkers
    · exact absurd hw hworkers
    · exact hq
  alive := by
    rw [h.size_eq]
    rcases h.workers_cases with ⟨hw, -⟩ | ⟨-, hw, -⟩
    · rw [hw]
      exact hp.alive.imp h.cancelled_mono (Or.imp_left h.sealed_mono)
    · exact hw.elim (fun hc => .inl (h.cancelled_mono hc)) fun hs => .inr (.inl (h.sealed_mono hs))

end Workforce.Pool
