import Mathlib.Data.List.Perm.Basic
import Workforce.Proofs.Pool.Workers
/-!
# What becomes of tasks

A submission that was asked for waits in line, was admitted, was refused or was given up. An
admitted task waits in the queue, was started, or was dropped with the queue when the last worker
exited; a started task runs or has ended. A *ledger* says this of the part of a run that leads from
one state of a pool to another.

## Main definitions

* `Workforce.Pool.inHand`, `Pool.underway`, `Pool.stock` — the tasks in the line, on workers, and
  altogether in a pool.
* `Workforce.Pool.Ledger` — the accounts of a part of a run.

## Main results

* `Workforce.Pool.Steps.ledger` — the accounts of every run are in order.
* `Workforce.Pool.Ledger.balance` — no task is lost and none is duplicated.
-/

namespace Workforce.Pool

open Occurrence Trail

variable {α : Type} {p q r : Pool α} {os ps : Trail α}

/-! ## Where tasks are -/

/-- The tasks of the submissions in the line. -/
def inHand (p : Pool α) : List (Task α) := p.submitting.map (·.task)

/-- The tasks on workers. -/
def underway (p : Pool α) : List (Task α) := p.running.map (·.task)

/-- The tasks in a pool. -/
def stock (p : Pool α) : List (Task α) := p.inHand ++ p.queue ++ p.underway

/-- A pool without workers runs nothing. -/
lemma underway_eq_nil (h : p.workers = 0) : p.underway = [] := by
  have hlen : p.running.length = 0 := by
    rw [workers] at h
    omega
  rw [underway, List.length_eq_zero_iff.1 hlen, List.map_nil]

/-! ## Accounts -/

/-- The accounts of a part of a run of a pool, with the submissions that were refused in it and the
tasks that were dropped with the queue. -/
structure Ledger (p : Pool α) (os : Trail α) (q : Pool α) (turned : List (Submission α))
    (dropped : List (Task α)) : Prop where
  /-- Whoever was in the line or has joined it is in it, was admitted, was refused or gave up. -/
  line : (q.submitting ++ collect admitted? os ++ turned ++ collect retracted? os).Perm
    (p.submitting ++ collect asked? os)
  /-- The calls of the refused submissions are told. -/
  refusals : turned.map (·.caller) = collect refused? os
  /-- What was refused, given up or dropped is discarded, and nothing else. -/
  discards : (collect discarded? os).Perm
    (turned.map (·.task) ++ (collect retracted? os).map (·.task) ++ dropped)
  /-- What was in the queue or has come into it was started, is in it or was dropped. -/
  queue : p.queue ++ admitted os = collect started? os ++ q.queue ++ dropped
  /-- What was running or has been started runs or has ended. -/
  work : (q.underway ++ collect ended? os).Perm (p.underway ++ collect started? os)
  /-- The queue is dropped with the last worker, and only if the pool is cancelled or deserted. -/
  drops : dropped = [] ∨
    q.workers = 0 ∧ q.queue = [] ∧ (q.cancelled = true ∨ q.deserted = true)

/-- Where no task moves the accounts are in order. -/
lemma Ledger.still (submitting : q.submitting = p.submitting) (queue : q.queue = p.queue)
    (running : q.running = p.running) (asked : collect asked? os = [])
    (admitted : collect admitted? os = []) (retracted : collect retracted? os = [])
    (refused : collect refused? os = []) (discarded : collect discarded? os = [])
    (started : collect started? os = []) (ended : collect ended? os = []) :
    Ledger p os q [] [] where
  line := by simp [submitting, asked, admitted, retracted]
  refusals := by rw [refused, List.map_nil]
  discards := by simp [discarded, retracted]
  queue := by simp [queue, started, Trail.admitted, admitted]
  work := by simp [underway, running, started, ended]
  drops := .inl rfl

/-- Where some submissions give up and nothing else happens to tasks, the accounts are in order. -/
lemma Ledger.leave (left : List (Submission α))
    (submitting : (q.submitting ++ left).Perm p.submitting) (queue : q.queue = p.queue)
    (running : q.running = p.running) (retracted : collect retracted? os = left)
    (discarded : collect discarded? os = left.map (·.task)) (asked : collect asked? os = [])
    (admitted : collect admitted? os = []) (refused : collect refused? os = [])
    (started : collect started? os = []) (ended : collect ended? os = []) :
    Ledger p os q [] [] where
  line := by simpa [asked, admitted, retracted] using submitting
  refusals := by rw [refused, List.map_nil]
  discards := by simp [discarded, retracted]
  queue := by simp [queue, started, Trail.admitted, admitted]
  work := by simp [underway, running, started, ended]
  drops := .inl rfl

/-- The accounts of a task's end. -/
lemma Ledger.finish {before after : List (Run α)} {r : Run α} (es : List (Event α))
    (quiet : es = [] ∨ es = [.taskFailed]) (submitting : q.submitting = p.submitting)
    (queue : q.queue = p.queue) (running : p.running = before ++ r :: after)
    (rest : q.running = before ++ after) :
    Ledger p (event (.ended r.task) :: es.map event) q [] [] := by
  have hnone : ∀ {β : Type} (kind : Occurrence α → Option β), kind (event .taskFailed) = none →
      collect kind (es.map event) = [] := by
    intro β kind h
    rcases quiet with rfl | rfl
    · rfl
    · rw [List.map_singleton, collect_cons, h]
      rfl
  refine ⟨?_, ?_, ?_, ?_, ?_, .inl rfl⟩
  · simp [submitting, hnone admitted? rfl, hnone asked? rfl, hnone retracted? rfl, admitted?,
      asked?, retracted?]
  · simp [hnone refused? rfl, refused?]
  · simp [hnone discarded? rfl, hnone retracted? rfl, discarded?, retracted?]
  · simp [queue, admitted, hnone admitted? rfl, hnone started? rfl, admitted?, started?]
  · simp only [collect_cons, hnone ended? rfl, hnone started? rfl, underway, running, rest]
    simp only [ended?, started?, Option.toList, List.map_append, List.map_cons, List.append_nil]
    rw [List.append_assoc]
    exact List.Perm.append_left _ (List.perm_append_singleton _ _)

/-- The accounts of a worker's exit, the last one's or not. -/
lemma ledger_retire (m : Moment) (reason : List (Event α)) (r : Pool α)
    (submitting : r.submitting = p.submitting) (queue : r.queue = p.queue)
    (running : r.running = p.running)
    (quiet : ∀ e ∈ reason, e = .sawCancellation ∨ e = .receiverGone)
    (why : p.queue = [] ∨ (r.retire m reason).1.cancelled = true ∨
      (r.retire m reason).1.deserted = true) :
    ∃ dropped, Ledger p ((r.retire m reason).2.map event) (r.retire m reason).1 [] dropped := by
  have hnone : ∀ {β : Type} (kind : Occurrence α → Option β),
      kind (event .sawCancellation) = none → kind (event .receiverGone) = none →
      kind (event .workerStopped) = none → kind (event .workerAborted) = none →
      kind (event .resultsClosed) = none → (∀ t, kind (event (.discarded t)) = none) →
      collect kind ((r.retire m reason).2.map event) = [] := by
    intro β kind h1 h2 h3 h4 h5 h6
    rw [collect_retire_of_none m reason r h3 h4 h5 h6, collect_reason quiet kind h1 h2]
  have hdiscarded := collect_discarded_retire m reason r
  rw [collect_reason quiet discarded? rfl rfl, List.nil_append, queue] at hdiscarded
  have hasked : collect asked? ((r.retire m reason).2.map event) = [] :=
    hnone asked? rfl rfl rfl rfl rfl fun _ => rfl
  have hadmitted : collect admitted? ((r.retire m reason).2.map event) = [] :=
    hnone admitted? rfl rfl rfl rfl rfl fun _ => rfl
  have hretracted : collect retracted? ((r.retire m reason).2.map event) = [] :=
    hnone retracted? rfl rfl rfl rfl rfl fun _ => rfl
  have hrefused : collect refused? ((r.retire m reason).2.map event) = [] :=
    hnone refused? rfl rfl rfl rfl rfl fun _ => rfl
  have hstarted : collect started? ((r.retire m reason).2.map event) = [] :=
    hnone started? rfl rfl rfl rfl rfl fun _ => rfl
  have hended : collect ended? ((r.retire m reason).2.map event) = [] :=
    hnone ended? rfl rfl rfl rfl rfl fun _ => rfl
  by_cases hw : r.workers = 0
  · rw [if_pos hw] at hdiscarded
    have hq : (r.retire m reason).1.queue = [] := by rw [queue_retire, if_pos hw]
    refine ⟨p.queue, ?_, ?_, ?_, ?_, ?_, ?_⟩
    · rw [hadmitted, hretracted, hasked, submitting_retire, submitting]
      simp
    · rw [hrefused, List.map_nil]
    · rw [hdiscarded, hretracted]
      simp
    · rw [Trail.admitted, hadmitted, hstarted, hq]
      simp
    · rw [hended, hstarted, underway, underway, running_retire, running]
    · rcases why with why | why
      · exact .inl why
      · exact .inr ⟨by rw [workers_retire, hw], hq, why⟩
  · rw [if_neg hw] at hdiscarded
    refine ⟨[], Ledger.still ?_ ?_ ?_ hasked hadmitted hretracted hrefused hdiscarded hstarted
      hended⟩
    · rw [submitting_retire, submitting]
    · rw [queue_retire, if_neg hw, queue]
    · rw [running_retire, running]

/-- The accounts of one step. -/
theorem Step.ledger (h : Step p os q) : ∃ turned dropped, Ledger p os q turned dropped := by
  cases h with
  | take now active idle queue =>
    refine ⟨[], [], ?_, rfl, .nil, ?_, ?_, .inl rfl⟩
    · simp [admitted?, retracted?, asked?]
    · simp [queue, admitted, admitted?, started?]
    · simp [underway, ended?, started?, Run.start]
  | @stop n m idle cancelled =>
    refine ⟨[], ledger_retire m [.sawCancellation] { p with idle := n } rfl rfl rfl (by simp) ?_⟩
    exact .inr (.inl (by rw [cancelled_retire, cancelled]))
  | @leave n m idle queue isSealed =>
    exact ⟨[], ledger_retire m [] { p with idle := n } rfl rfl rfl (by simp) (.inl queue)⟩
  | @lose output rest m publishing deserted =>
    refine ⟨[], ledger_retire m [.receiverGone] { p with publishing := rest } rfl rfl rfl
      (by simp) (.inr (.inr ?_))⟩
    exact (Step.lose m publishing deserted).deserted_mono deserted
  | accept submitting alive room opened =>
    refine ⟨[], [], ?_, rfl, .nil, ?_, ?_, .inl rfl⟩
    · rw [submitting]
      simp [admitted?, retracted?, asked?]
    · simp [admitted, admitted?, started?]
    · simp [underway, ended?, started?]
  | @refuse s rest m submitting why =>
    refine ⟨[s], [], ?_, rfl, .refl _, ?_, ?_, .inl rfl⟩
    · rw [submitting]
      simp [refusal, admitted?, retracted?, asked?]
    · simp [refusal, admitted, admitted?, started?]
    · simp [refusal, underway, ended?, started?]
  | submit s held opened =>
    refine ⟨[], [], ?_, rfl, .nil, ?_, ?_, .inl rfl⟩
    · simp [admitted?, retracted?, asked?]
    · simp [admitted, admitted?, started?]
    · simp [underway, ended?, started?]
  | turnAway m s closed =>
    refine ⟨[s], [], ?_, rfl, .refl _, ?_, ?_, .inl rfl⟩
    · simp [refusal, admitted?, retracted?, asked?]
    · simp [refusal, admitted, admitted?, started?]
    · simp [refusal, underway, ended?, started?]
  | withdraw call =>
    refine ⟨[], [], .leave (p.submitting.filter (·.caller == some call)) ?_ rfl rfl ?_ ?_ ?_ ?_ ?_
      ?_ ?_⟩
    · exact (List.perm_append_comm).trans (List.filter_append_perm _ _)
    · rw [collect_withdraw, collect_map retracted? _ id (fun _ => rfl),
        collect_map_none retracted? _ (fun _ => rfl),
        collect_map_none retracted? _ (fun _ => rfl)]
      simp
    · rw [collect_withdraw, collect_map_none discarded? _ (fun _ => rfl),
        collect_map_none discarded? _ (fun _ => rfl),
        collect_map discarded? _ (·.task) (fun _ => rfl)]
      rfl
    all_goals
      exact collect_withdraw_of_none call p (fun _ => rfl) (fun _ => rfl) fun _ => rfl
  | retract =>
    refine ⟨[], [], .leave p.submitting (.refl _) rfl rfl ?_ ?_ ?_ ?_ ?_ ?_ ?_⟩
    · rw [collect_append, collect_map retracted? _ id (fun _ => rfl),
        collect_map_none retracted? _ (fun _ => rfl)]
      simp
    · rw [collect_append, collect_map_none discarded? _ (fun _ => rfl),
        collect_map discarded? _ (·.task) (fun _ => rfl)]
      rfl
    all_goals exact collect_retract_of_none p (fun _ => rfl) fun _ => rfl
  | resign =>
    refine ⟨[], [], .still rfl rfl rfl ?_ ?_ ?_ ?_ ?_ ?_ ?_⟩
    all_goals exact collect_map_none _ _ (fun _ => rfl) _
  | finish running outcome =>
    exact ⟨[], [], .finish [] (.inl rfl) rfl rfl running rfl⟩
  | fail running outcome =>
    exact ⟨[], [], .finish [.taskFailed] (.inr rfl) rfl rfl running rfl⟩
  | _ => exact ⟨[], [], .still rfl rfl rfl rfl rfl rfl rfl rfl rfl rfl⟩

/-! ## Accounts of runs -/

/-- Without workers nothing is started or admitted, and an empty queue stays empty. -/
lemma Step.quiet (h : Step p os q) (hp : p.workers = 0) :
    collect started? os = [] ∧ collect admitted? os = [] ∧ (p.queue = [] → q.queue = []) := by
  have hq : q.workers = 0 := Nat.le_zero.1 (hp ▸ h.workers_le)
  rcases h.queue_cases with ⟨hqueue, hs, ha, -⟩ | ⟨t, -, -, -, hw, -⟩ | ⟨s, -, -, -, hw, -⟩ |
    ⟨hqueue, hs, ha, -⟩
  · exact ⟨hs, ha, fun h => hqueue.trans h⟩
  · exact absurd hq hw
  · exact absurd hq hw
  · exact ⟨hs, ha, fun _ => hqueue⟩

/-- The accounts are carried on by a step.

**Proof sketch.** Each account is the sum of the two parts. Only the order in the queue needs a
second look: if the queue has been dropped before, the last worker has exited, so that the step
neither starts nor admits anything. -/
lemma Ledger.tail {turned turned' : List (Submission α)} {dropped dropped' : List (Task α)}
    (h : Ledger p os q turned dropped) (step : Step q ps r)
    (k : Ledger q ps r turned' dropped') :
    Ledger p (os ++ ps) r (turned ++ turned') (dropped ++ dropped') := by
  classical
  -- what the step does after the queue has been dropped
  have after : dropped ≠ [] → collect started? ps = [] ∧ collect admitted? ps = [] ∧
      q.queue = [] ∧ r.queue = [] ∧ r.workers = 0 ∧ (r.cancelled = true ∨ r.deserted = true) := by
    intro hne
    rcases h.drops with hd | ⟨hw, hqueue, hwhy⟩
    · exact absurd hd hne
    · obtain ⟨hs, ha, hr⟩ := step.quiet hw
      exact ⟨hs, ha, hqueue, hr hqueue, Nat.le_zero.1 (hw ▸ step.workers_le),
        hwhy.imp step.cancelled_mono step.deserted_mono⟩
  refine ⟨?_, ?_, ?_, ?_, ?_, ?_⟩
  · rw [List.perm_iff_count]
    intro s
    have h1 := h.line.count_eq s
    have h2 := k.line.count_eq s
    simp only [collect_append, List.count_append] at h1 h2 ⊢
    omega
  · rw [List.map_append, h.refusals, k.refusals, collect_append]
  · rw [List.perm_iff_count]
    intro t
    have h1 := h.discards.count_eq t
    have h2 := k.discards.count_eq t
    simp only [collect_append, List.count_append, List.map_append] at h1 h2 ⊢
    omega
  · by_cases hd : dropped = []
    · have h1 := h.queue
      have h2 := k.queue
      subst hd
      rw [List.append_nil] at h1
      rw [admitted_append, collect_append, ← List.append_assoc, h1, List.append_assoc, h2]
      simp
    · obtain ⟨hs, ha, hq, hr, -⟩ := after hd
      have h1 := h.queue
      have h2 := k.queue
      rw [admitted, ha, hs, hq, hr] at h2
      rw [admitted_append, admitted, admitted, ha, List.map_nil, List.append_nil, ← admitted, h1,
        collect_append, hs, hq, hr]
      simpa using h2
  · rw [List.perm_iff_count]
    intro t
    have h1 := h.work.count_eq t
    have h2 := k.work.count_eq t
    simp only [collect_append, List.count_append] at h1 h2 ⊢
    omega
  · by_cases hd : dropped = []
    · rw [hd, List.nil_append]
      exact k.drops
    · obtain ⟨-, -, -, hr, hw, hwhy⟩ := after hd
      exact .inr ⟨hw, hr, hwhy⟩

/-- The accounts of every run are in order. -/
theorem Steps.ledger (h : Steps p os q) : ∃ turned dropped, Ledger p os q turned dropped := by
  induction h with
  | refl => exact ⟨[], [], .still rfl rfl rfl rfl rfl rfl rfl rfl rfl rfl⟩
  | tail _ last ih =>
    obtain ⟨turned, dropped, hledger⟩ := ih
    obtain ⟨turned', dropped', hlast⟩ := last.ledger
    exact ⟨_, _, hledger.tail last hlast⟩

/-! ## What the accounts say -/

namespace Ledger

variable {turned : List (Submission α)} {dropped : List (Task α)}

/-- **No task is lost and none is duplicated.** The tasks that were there and those that were handed
in are those that are there, those that have ended and those that were discarded. -/
theorem balance (h : Ledger p os q turned dropped) :
    (q.stock ++ collect ended? os ++ collect discarded? os).Perm
      (p.stock ++ (collect asked? os).map (·.task)) := by
  classical
  rw [List.perm_iff_count]
  intro t
  have hline := (h.line.map (·.task)).count_eq t
  have hdiscards := h.discards.count_eq t
  have hqueue := congrArg (List.count t) h.queue
  have hwork := h.work.count_eq t
  simp only [List.map_append, List.count_append, stock, inHand, admitted] at *
  omega

/-- As long as a pool is neither cancelled nor deserted, an admitted task waits in the queue, runs
or has ended. -/
theorem admitted_perm (h : Ledger p os q turned dropped) (hc : q.cancelled = false)
    (hd : q.deserted = false) :
    (q.queue ++ q.underway ++ collect ended? os).Perm (p.queue ++ p.underway ++ admitted os) := by
  classical
  have hdropped : dropped = [] := by
    rcases h.drops with h | ⟨-, -, h | h⟩
    · exact h
    · exact absurd hc (by simp [h])
    · exact absurd hd (by simp [h])
  rw [List.perm_iff_count]
  intro t
  have hqueue := congrArg (List.count t) h.queue
  have hwork := h.work.count_eq t
  simp only [List.count_append, hdropped, List.count_nil] at *
  omega

end Ledger

/-- The same for a run whose accounts nobody looks at. -/
theorem Steps.balance (h : Steps p os q) :
    (q.stock ++ collect ended? os ++ collect discarded? os).Perm
      (p.stock ++ (collect asked? os).map (·.task)) :=
  let ⟨_, _, hledger⟩ := h.ledger
  hledger.balance

/-- From an empty queue tasks are started in the order of their admissions. -/
theorem Steps.started_prefix (h : Steps p os q) (hp : p.queue = []) :
    collect started? os <+: admitted os := by
  obtain ⟨turned, dropped, hledger⟩ := h.ledger
  have hqueue := hledger.queue
  rw [hp, List.nil_append, List.append_assoc] at hqueue
  exact ⟨_, hqueue.symm⟩

/-- What is handed over to a pool comes with submissions. -/
lemma Step.given_eq (h : Step p os q) :
    Trail.given os = (collect asked? os).map (·.task) := by
  cases h with
  | stop | leave | lose =>
    rw [given_map_event, collect_map_event asked? fun _ => rfl]
    rfl
  | withdraw call =>
    rw [given_append, given_append, given_map_none retracted (fun _ => rfl),
      given_map_none departed (fun _ => rfl), given_map_event,
      collect_withdraw_of_none call p (fun _ => rfl) (fun _ => rfl) fun _ => rfl]
    rfl
  | retract =>
    rw [given_append, given_map_none retracted (fun _ => rfl), given_map_none _ (fun _ => rfl),
      collect_retract_of_none p (fun _ => rfl) fun _ => rfl]
    rfl
  | resign =>
    rw [given_map_none departed (fun _ => rfl), collect_map_none asked? _ fun _ => rfl]
    rfl
  | _ => rfl

/-- The same along a run. -/
lemma Steps.given_eq (h : Steps p os q) :
    Trail.given os = (collect asked? os).map (·.task) := by
  induction h with
  | refl => rfl
  | tail _ last ih => rw [given_append, collect_append, List.map_append, ih, last.given_eq]

end Workforce.Pool
