import Workforce.Proofs.Pool.Ledger
import Workforce.Proofs.Pool.Rest
/-!
# The steps of a batch

All that can happen to a batch, one constructor for each case. A step of a batch is a run of its
pool, and both agree on what is essential: what the batch adds are notes, and discards of tasks that
the pool never had.

## Main definitions

* `Workforce.Batch.Sound` — what holds of every batch.
* `Workforce.Batch.Step` — a step of a batch.
* `Workforce.Batch.stock` — the tasks that a batch holds.

## Main results

* `Workforce.Batch.Step.of_perform?` — every internal move is a step.
* `Workforce.Batch.Step.pool` — a step of a batch is a run of its pool.
* `Workforce.Batch.Step.balance` — no task is lost and none is duplicated.
-/

namespace Workforce.Batch

open Occurrence Trail

variable {α : Type} {b c : Batch α} {es : List (Event α)}

/-! ## What the batch learns -/

/-- The batch learns what was admitted, what becomes of its submitter, and values. -/
lemma observeAll_frame (es : List (Event α)) (b : Batch α) : b.observeAll es = { b with
    admitted := (b.observeAll es).admitted
    submitter := (b.observeAll es).submitter
    values := (b.observeAll es).values } := by
  induction es generalizing b with
  | nil => rfl
  | cons e es ih =>
    have hfirst : b.observe e = { b with
        admitted := (b.observe e).admitted
        submitter := (b.observe e).submitter
        values := (b.observe e).values } := by
      unfold observe
      split <;> rfl
    rw [observeAll, List.foldl_cons, ← observeAll, ih, hfirst]

section Frame

variable (es : List (Event α)) (b : Batch α)

@[simp] lemma pool_observeAll : (b.observeAll es).pool = b.pool := by rw [observeAll_frame]
@[simp] lemma remaining_observeAll : (b.observeAll es).remaining = b.remaining := by
  rw [observeAll_frame]
@[simp] lemma call_observeAll : (b.observeAll es).call = b.call := by rw [observeAll_frame]
@[simp] lemma total_observeAll : (b.observeAll es).total = b.total := by rw [observeAll_frame]

end Frame

/-- Without a refusal the submitter goes on as before. -/
lemma submitter_observeAll {es : List (Event α)} (h : collect refused? (es.map event) = [])
    (b : Batch α) : (b.observeAll es).submitter = b.submitter := by
  induction es generalizing b with
  | nil => rfl
  | cons e es ih =>
    rw [List.map_cons, collect_cons, List.append_eq_nil_iff] at h
    rw [observeAll, List.foldl_cons, ← observeAll, ih h.2]
    cases e with
    | refused caller panicked => simp [refused?] at h
    | received caller drains output => cases output <;> rfl
    | _ => rfl

/-! ## What holds of every batch -/

/-- The submitter has ended. -/
def Finished (b : Batch α) : Prop := ∃ panicked, b.submitter = .finished panicked

/-- What holds of every batch. -/
structure Sound (b : Batch α) : Prop where
  pool : b.pool.Sound
  /-- At most one submission is in the line, and only while the submitter hands in tasks. -/
  single : b.pool.submitting.length ≤ 1
  line : b.submitter = .active ∨ b.pool.submitting = []
  /-- The submitter closes the pool and leaves nothing behind. -/
  finished : b.Finished → b.pool.closed = true ∧ b.remaining = []
  /-- Nobody else closes the pool. -/
  closed : b.pool.closed = true → b.Finished
  /-- The call returns only after the submitter has ended and nobody receives any more. -/
  pending : b.pool.held = true ∨ b.Finished ∧ b.pool.receiving = []
  /-- The collector waits until it finds the results closed. -/
  collector : b.pool.receiving = [⟨none, true⟩] ∨
    b.pool.receiving = [] ∧ (b.pool.held = true → b.pool.workers = 0)

/-- A submitter that has ended is not active. -/
lemma Finished.not_active (h : b.Finished) : b.submitter ≠ .active := by
  obtain ⟨panicked, hs⟩ := h
  simp [hs]

/-- As long as the submitter is active, the pool is open. -/
lemma Sound.open_of_active (hb : b.Sound) (active : b.submitter = .active) :
    b.pool.closed = false := by
  by_contra hclosed
  exact (hb.closed (by simpa using hclosed)).not_active active

/-- Once the collector is done, no worker is left. -/
lemma Sound.gone_of_received (hb : b.Sound) (held : b.pool.held = true)
    (receiving : b.pool.receiving = []) : b.pool.workers = 0 := by
  rcases hb.collector with hc | ⟨-, hw⟩
  · simp [receiving] at hc
  · exact hw held

/-! ## Steps -/

/-- A step of a batch, with its events. -/
inductive Step : Batch α → List (Event α) → Batch α → Prop
  /-- The pool moves, which the batch observes. -/
  | move {b : Batch α} {q : Pool α} {es : List (Event α)} (m : Moment) (k : Pool.Move)
      (move : b.pool.perform? m k = some (q, es)) :
      Step b es ({ b with pool := q }.observeAll es)
  /-- The submitter ends: what it has not handed in and what still waits is discarded, and the
  pool is closed. -/
  | stop {b c : Batch α} {es : List (Event α)} (unfinished : 0 < b.submitter.rank)
      (pool : c.pool = ({ b.pool with submitting := [] } : Pool α).close.1)
      (remaining : c.remaining = []) (finished : c.Finished) (call : c.call = b.call)
      (discards : (collect discarded? (es.map event)).Perm (b.pool.inHand ++ b.remaining))
      (quiet : ∀ e ∈ es, essential (event e) = false) : Step b es c
  /-- The submitter hands in the next task. -/
  | feed {b : Batch α} {t : Task α} {rest : List (Task α)} (m : Moment)
      (active : b.submitter = .active) (submitting : b.pool.submitting = [])
      (remaining : b.remaining = t :: rest) (held : b.pool.held = true) :
      Step b (b.pool.submit m ⟨none, t⟩).2
        ({ b with pool := (b.pool.submit m ⟨none, t⟩).1, remaining := rest }.observeAll
          (b.pool.submit m ⟨none, t⟩).2)
  /-- The call returns. -/
  | conclude {b : Batch α} {es : List (Event α)} (finished : b.Finished)
      (receiving : b.pool.receiving = []) (discards : collect discarded? (es.map event) = [])
      (quiet : ∀ e ∈ es, essential (event e) = false) :
      Step b es { b with pool := b.pool.release }
  /-- A running task ends. -/
  | finish {b : Batch α} (id : TaskId) : Step b (b.finish id).2 (b.finish id).1
  /-- The cancellation of the parent arrives. -/
  | follow {b : Batch α} : Step b [] b.parentCancelled
  /-- The batch is given up. -/
  | abandon {b : Batch α} : Step b b.abandon.2 b.abandon.1

/-- Steps of a batch one after the other. -/
abbrev Steps : Batch α → List (Event α) → Batch α → Prop := Chain Step

/-! ## Moves are steps -/

/-- A pool in whose line nobody waits. -/
lemma clear_eq_self {p : Pool α} (h : p.submitting = []) : { p with submitting := [] } = p := by
  rw [← h]

/-- Closing a pool shows in nothing but a note. -/
lemma close_snd (p : Pool α) : p.close.2 = [] ∨ p.close.2 = [.poolClosed] := by
  unfold Pool.close
  split
  · exact .inl rfl
  · exact .inr rfl

/-- Nothing essential happens when a pool is closed, and nothing is discarded. -/
lemma close_quiet (p : Pool α) :
    (∀ e ∈ p.close.2, essential (event e) = false) ∧
      collect discarded? (p.close.2.map event) = [] := by
  rcases close_snd p with h | h <;> rw [h]
  · exact ⟨by simp, rfl⟩
  · refine ⟨fun e he => ?_, rfl⟩
    rw [List.mem_singleton.1 he]
    rfl

/-- The submitter of `b` ends as `b₀`, which has taken what waited in the line into its hands and
discarded it before. -/
lemma Step.of_endSubmitter (b₀ : Batch α) (m : Moment) (panicked : Bool) (before : List (Event α))
    (h : 0 < b.submitter.rank) (pool : b₀.pool = { b.pool with submitting := [] })
    (call : b₀.call = b.call)
    (discards : (collect discarded? (before.map event) ++ b₀.remaining).Perm
      (b.pool.inHand ++ b.remaining))
    (quiet : ∀ e ∈ before, essential (event e) = false) :
    Step b (before ++ (b₀.endSubmitter m panicked).2) (b₀.endSubmitter m panicked).1 := by
  obtain ⟨hquiet, hdiscards⟩ := close_quiet b₀.pool
  refine .stop h ?_ rfl ⟨_, rfl⟩ call ?_ ?_
  · rw [← pool]
    rfl
  · rw [endSubmitter, List.map_append, List.map_append, collect_append, collect_append, hdiscards,
      collect_discards, List.append_nil]
    exact discards
  · intro e he
    rcases List.mem_append.1 he with he | he
    · exact quiet e he
    · rcases List.mem_append.1 he with he | he
      · obtain ⟨t, -, rfl⟩ := List.mem_map.1 he
        rfl
      · exact hquiet e he

/-- The submitter of `b` stops as `b₀` with a task in its hands. -/
lemma Step.of_halt (b₀ : Batch α) (m : Moment) (t : Task α) {reason : Event α}
    (h : 0 < b.submitter.rank) (pool : b₀.pool = { b.pool with submitting := [] })
    (call : b₀.call = b.call) (discards : (t :: b₀.remaining).Perm (b.pool.inHand ++ b.remaining))
    (note : discarded? (event reason) = none) (quiet : essential (event reason) = false) :
    Step b (b₀.halt m t reason).2 (b₀.halt m t reason).1 := by
  cases hbreaks : m.breaks t with
  | true =>
    have hstep := Step.of_endSubmitter b₀ m true [.discarded t] h pool call discards
      (by simp [essential, admitted?, started?, ended?, receipt?, told?])
    simpa [halt, hbreaks] using hstep
  | false =>
    have hstep := Step.of_endSubmitter b₀ m false [.discarded t, reason] h pool call
      (by rw [List.map_cons, List.map_singleton, collect_cons, collect_cons, note]; exact discards)
      (by simpa [essential, admitted?, started?, ended?, receipt?, told?] using quiet)
    simpa [halt, hbreaks] using hstep

/-- Every internal move is a step. -/
theorem Step.of_perform? (hb : b.Sound) {m : Moment} {k : Move}
    (h : b.perform? m k = some (c, es)) : Step b es c := by
  cases k with
  | pool k =>
    obtain ⟨q, hq, rfl⟩ := performPool?_eq_some_iff.1 h
    rw [← observeAll_setPool]
    exact .move m k hq
  | feed =>
    have hpos : b.submitter = .active → 0 < b.submitter.rank := fun hs => by
      simp [hs, Submitter.rank]
    cases feed?_eq_some_iff.1 h with
    | @refused panicked hs =>
      have hline : b.pool.submitting = [] := hb.line.resolve_left (by simp [hs])
      exact .of_endSubmitter b m panicked [] (by simp [hs, Submitter.rank])
        (clear_eq_self hline).symm rfl (by simp [Pool.inHand, hline]) (by simp)
    | done hs hsub =>
      exact .of_endSubmitter b m false [] (hpos hs)
        (clear_eq_self hsub).symm rfl (by simp [Pool.inHand, hsub]) (by simp)
    | @back s line reason hs hsub hwhy =>
      have hline : line = [] := by
        have := hb.single
        rw [hsub, List.length_cons] at this
        exact List.length_eq_zero_iff.1 (by omega)
      have hdiscards : (s.task :: b.remaining).Perm (b.pool.inHand ++ b.remaining) := by
        simp [Pool.inHand, hsub, hline]
      obtain ⟨-, rfl⟩ | ⟨-, -, rfl⟩ := hwhy
      · exact .of_halt _ m s.task (hpos hs) rfl rfl hdiscards rfl rfl
      · exact .of_halt _ m s.task (hpos hs) rfl rfl hdiscards rfl rfl
    | due hs hsub hrem =>
      exact .of_endSubmitter b m false [.deadlineReached b.admitted] (hpos hs)
        (clear_eq_self hsub).symm rfl (by simp [Pool.inHand, hsub, discarded?])
        (by simp [essential, admitted?, started?, ended?, receipt?, told?])
    | @stopped t rest hs hsub hrem =>
      exact .of_halt { b with remaining := rest } m t (hpos hs) (clear_eq_self hsub).symm rfl
        (by simp [Pool.inHand, hsub, hrem]) rfl rfl
    | submit hs hsub hrem =>
      refine .feed m hs hsub hrem (hb.pending.resolve_right ?_)
      rintro ⟨hfinished, -⟩
      exact hfinished.not_active hs
  | conclude =>
    obtain ⟨panicked, hs, -, hrec, heq⟩ := conclude?_eq_some_iff.1 h
    cases heq
    refine .conclude ⟨_, hs⟩ hrec ?_ ?_
    · cases panicked <;> rfl
    · cases panicked <;> simp [essential, admitted?, started?, ended?, receipt?, told?]

/-! ## A step of a batch is a run of its pool -/

/-- The essence of occurrences none of which is essential. -/
lemma essence_map_event {es : List (Event α)} (h : ∀ e ∈ es, essential (event e) = false) :
    essence (es.map event) = [] := by
  refine essence_eq_nil fun o ho => ?_
  obtain ⟨e, he, rfl⟩ := List.mem_map.1 ho
  exact h e he

/-- Giving up a batch is reported in notes and discards. -/
lemma abandon_snd : b.abandon.2 = .batchDropped :: (b.pool.close.2 ++ [.poolCancelled] ++
    (b.pool.inHand ++ b.remaining).map .discarded) := rfl

/-- All that is essential when a batch is given up is that its pool is cancelled. -/
lemma essence_abandon : essence (b.abandon.2.map event) = essence [event .poolCancelled] := by
  rw [abandon_snd, List.map_cons, List.map_append, List.map_append, ← List.singleton_append,
    essence_append, essence_append, essence_append, essence_map_event (close_quiet _).1,
    List.map_map, essence_map (event ∘ Event.discarded) fun _ => rfl]
  rfl

/-- Giving up a batch discards what waits in the line and what remains. -/
lemma collect_discarded_abandon :
    collect discarded? (b.abandon.2.map event) = b.pool.inHand ++ b.remaining := by
  rw [abandon_snd, List.map_cons, List.map_append, List.map_append, collect_cons, collect_append,
    collect_append, collect_discards, (close_quiet b.pool).2]
  rfl

/-- What is discarded when all waiting submissions are given up. -/
lemma collect_discarded_retract (p : Pool α) :
    collect discarded? (p.submitting.map retracted ++
      p.submitting.map fun s => event (.discarded s.task)) = p.inHand := by
  rw [collect_append, collect_map_none discarded? _ (fun _ => rfl),
    collect_map discarded? _ (·.task) (fun _ => rfl), List.nil_append]
  rfl

/-- **A step of a batch is a run of its pool**, and both agree on what is essential. Whatever the
pool discards the batch discards. -/
theorem Step.pool (h : Step b es c) :
    ∃ os, Pool.Steps b.pool os c.pool ∧ essence os = essence (es.map event) ∧
      collect discarded? os ⊆ collect discarded? (es.map event) := by
  cases h with
  | move m k move =>
    rw [pool_observeAll]
    exact ⟨_, .single (.of_perform? move), rfl, fun _ h => h⟩
  | stop unfinished pool remaining finished call discards quiet =>
    rw [pool]
    refine ⟨_, (Chain.single .retract).trans (Pool.Steps.of_close _), ?_, ?_⟩
    · simp only [essence_append, essence_map retracted fun _ => rfl,
        essence_map (fun s : Submission α => event (.discarded s.task)) fun _ => rfl,
        essence_map_event (close_quiet _).1, essence_map_event quiet]
      rfl
    · rw [collect_append, collect_discarded_retract, (close_quiet _).2, List.append_nil]
      exact fun t ht => discards.symm.subset (List.mem_append_left _ ht)
  | feed m active submitting remaining held =>
    rw [pool_observeAll]
    exact ⟨_, .single (.of_submit m ⟨none, _⟩ held), rfl, fun _ h => h⟩
  | conclude finished receiving discards quiet =>
    exact ⟨_, .single .release, (essence_map_event quiet).symm, by simp⟩
  | finish id => exact ⟨_, .of_finish id b.pool, rfl, fun _ h => h⟩
  | follow => exact ⟨_, .single .follow, rfl, fun _ h => h⟩
  | abandon =>
    refine ⟨_, ((((Pool.Steps.of_close b.pool).trans (.single .cancel)).trans
      (.single .retract)).trans (.single .resign)).trans (.single .release), ?_, ?_⟩
    · rw [essence_abandon]
      simp only [essence_append, essence_map retracted fun _ => rfl,
        essence_map departed fun _ => rfl,
        essence_map (fun s : Submission α => event (.discarded s.task)) fun _ => rfl,
        essence_map_event (close_quiet _).1]
      rfl
    · have hline : ({ b.pool.close.1 with cancelled := true } : Pool α).inHand =
          b.pool.inHand := by
        unfold Pool.close
        split <;> rfl
      rw [collect_discarded_abandon, collect_append, collect_append, collect_append,
        collect_append, collect_discarded_retract,
        collect_map_none discarded? departed (fun _ => rfl), (close_quiet _).2, hline]
      simp [discarded?]

/-! ## Tasks -/

/-- The tasks that a batch holds. -/
def stock (b : Batch α) : List (Task α) := b.remaining ++ b.pool.stock

/-- Closing a pool moves no task. -/
@[simp] lemma stock_close (p : Pool α) : p.close.1.stock = p.stock := by
  unfold Pool.close
  split <;> rfl

/-- Where nothing essential happens no task ends. -/
lemma collect_ended_of_quiet {es : List (Event α)} (h : ∀ e ∈ es, essential (event e) = false) :
    collect ended? (es.map event) = [] := by
  rw [collect, List.filterMap_eq_nil_iff]
  intro o ho
  obtain ⟨e, he, rfl⟩ := List.mem_map.1 ho
  exact (kinds_of_not_essential (h e he)).2.2.1

/-- The steps of the pool lose no task of the batch. -/
lemma balance_of_pool (os : Trail α) (h : Pool.Steps b.pool os c.pool)
    (remaining : (c.remaining ++ (collect asked? os).map (·.task)).Perm b.remaining)
    (ended : collect ended? os = collect ended? (es.map event))
    (discarded : collect discarded? os = collect discarded? (es.map event)) :
    (c.stock ++ collect ended? (es.map event) ++ collect discarded? (es.map event)).Perm
      b.stock := by
  classical
  rw [List.perm_iff_count]
  intro t
  have hpool := h.balance.count_eq t
  have hremaining := remaining.count_eq t
  rw [ended, discarded] at hpool
  simp only [stock, List.count_append] at hpool hremaining ⊢
  omega

/-- **No task of a batch is lost and none is duplicated.** -/
theorem Step.balance (h : Step b es c) :
    (c.stock ++ collect ended? (es.map event) ++ collect discarded? (es.map event)).Perm
      b.stock := by
  cases h with
  | move m k move =>
    refine balance_of_pool (es.map event) ?_ ?_ rfl rfl
    · rw [pool_observeAll]
      exact .single (.of_perform? move)
    · rw [remaining_observeAll, collect_map_event asked? fun _ => rfl]
      simp
  | stop unfinished pool remaining finished call discards quiet =>
    classical
    rw [collect_ended_of_quiet quiet, stock, stock, pool, remaining, stock_close,
      List.perm_iff_count]
    intro t
    have hdiscards := discards.count_eq t
    simp only [Pool.stock, Pool.inHand, Pool.underway, List.count_append, List.map_nil,
      List.count_nil] at hdiscards ⊢
    omega
  | @feed t rest m active submitting remaining held =>
    refine balance_of_pool (asked ⟨none, t⟩ :: (b.pool.submit m ⟨none, t⟩).2.map event) ?_ ?_
      rfl rfl
    · rw [pool_observeAll]
      exact .single (.of_submit m _ held)
    · rw [remaining_observeAll, remaining, collect_cons, collect_map_event asked? fun _ => rfl]
      exact List.perm_append_singleton t rest
  | conclude finished receiving discards quiet =>
    rw [collect_ended_of_quiet quiet, discards, List.append_nil, List.append_nil]
    exact .refl _
  | finish id =>
    refine balance_of_pool ((b.finish id).2.map event) (.of_finish id b.pool) ?_ rfl rfl
    rw [collect_map_event asked? fun _ => rfl, List.map_nil, List.append_nil]
    exact .refl _
  | follow =>
    rw [List.map_nil, collect_nil, collect_nil, List.append_nil, List.append_nil]
    exact .refl _
  | abandon =>
    classical
    have hstock : b.abandon.1.stock = b.pool.queue ++ b.pool.underway := by
      have hclose : b.pool.close.1.queue = b.pool.queue ∧
          b.pool.close.1.running = b.pool.running := by
        unfold Pool.close
        split <;> exact ⟨rfl, rfl⟩
      show b.pool.close.1.queue ++ b.pool.close.1.underway = _
      rw [Pool.underway, hclose.1, hclose.2]
      rfl
    have hended : collect ended? (b.abandon.2.map event) = [] :=
      (collect_congr essence_abandon).2.2.1
    rw [hended, collect_discarded_abandon, hstock,
      List.perm_iff_count]
    intro t
    simp only [stock, Pool.stock, List.count_append, List.count_nil]
    omega

/-! ## Runs -/

/-- A run of a batch is a run of its pool. -/
theorem Steps.pool (h : Steps b es c) :
    ∃ os, Pool.Steps b.pool os c.pool ∧ essence os = essence (es.map event) ∧
      collect discarded? os ⊆ collect discarded? (es.map event) := by
  induction h with
  | refl => exact ⟨[], .refl _, rfl, fun _ h => h⟩
  | tail _ last ih =>
    obtain ⟨os, hsteps, hos, hdiscards⟩ := ih
    obtain ⟨ps, hlast, hps, hdiscards'⟩ := last.pool
    refine ⟨os ++ ps, hsteps.trans hlast, ?_, ?_⟩
    · rw [List.map_append, essence_append, essence_append, hos, hps]
    · rw [List.map_append, collect_append, collect_append]
      exact List.append_subset_of_subset_of_subset
        (List.Subset.trans hdiscards (List.subset_append_left _ _))
        (List.Subset.trans hdiscards' (List.subset_append_right _ _))

/-- A run of a batch loses no task and duplicates none. -/
theorem Steps.balance (h : Steps b es c) :
    (c.stock ++ collect ended? (es.map event) ++ collect discarded? (es.map event)).Perm
      b.stock := by
  classical
  induction h with
  | refl =>
    rw [List.map_nil, collect_nil, collect_nil, List.append_nil, List.append_nil]
  | tail _ last ih =>
    rw [List.perm_iff_count]
    intro t
    have hrun := ih.count_eq t
    have hlast := last.balance.count_eq t
    simp only [List.map_append, collect_append, List.count_append] at hrun hlast ⊢
    omega

/-- Whatever a batch holds it has been given. -/
lemma Steps.stock_subset (h : Steps b es c) : ∀ t ∈ c.stock, t ∈ b.stock := by
  intro t ht
  exact h.balance.subset (List.mem_append_left _ (List.mem_append_left _ ht))

/-- A batch is run by one call. -/
lemma Step.call_eq (h : Step b es c) : c.call = b.call := by
  cases h with
  | move m k move => rw [call_observeAll]
  | feed m active submitting remaining held => rw [call_observeAll]
  | stop unfinished pool remaining finished call discards quiet => exact call
  | _ => rfl

/-- The same along a run. -/
lemma Steps.call_eq (h : Steps b es c) : c.call = b.call :=
  h.keeps (P := fun d : Batch α => d.call = b.call) (fun _ _ _ hs hd => hs.call_eq.trans hd) rfl

end Workforce.Batch
