import Workforce.Proofs.Scene.Reach
import Workforce.Proofs.Diary
/-!
# How a batch advances

The internal moves of a batch that nobody gives up, one constructor for each case, with what becomes
of its tasks. The submissions of such a batch are never refused and its outputs never lost. Once
something stops its submitter, nothing else moves at its pool before the submitter has ended, so
that nothing is admitted any more.

## Main definitions

* `Workforce.Batch.Blocked` — nothing can be admitted, because nothing was handed in yet or because
  the queue is full and the workers are busy.
* `Workforce.Batch.Kept` — what holds of every batch that nobody gives up.
* `Workforce.Batch.Advance` — an internal move of such a batch.

## Main results

* `Workforce.Batch.Kept.advance` — every internal move is one of these.
* `Workforce.Batch.Kept.of_advance` — they keep what holds of every such batch.
* `Workforce.Batch.Kept.settle_induction` — what they keep is kept until nothing moves.
-/

namespace Workforce.Pool

open Occurrence Trail

variable {α : Type}

/-- The end of a task takes its run off a worker, which goes on to publish the output or, after a
panic, is idle again; or there is no such task. -/
lemma finish_cases (id : TaskId) (p : Pool α) :
    (p.finish id = (p, []) ∧ ∀ r ∈ p.running, r.task.id ≠ id) ∨
    ∃ before r after, p.running = before ++ r :: after ∧ r.task.id = id ∧
      gist (p.finish id).2 = { ended := [r.task] } ∧
      (p.finish id).1 = { p with
        running := before ++ after
        publishing := p.publishing ++ r.task.outcome.output?.toList
        idle := p.idle + if r.task.outcome.output?.isNone then 1 else 0 } := by
  cases hfind : p.running.find? (·.task.id == id) with
  | none =>
    refine .inl ⟨by simp [finish, finish?, hfind], fun r hr => ?_⟩
    simpa using List.find?_eq_none.1 hfind r hr
  | some r =>
    obtain ⟨before, after, hrun, herase⟩ := exists_of_find?_eq_some hfind
    have hid : r.task.id = id := by simpa using List.find?_some hfind
    refine .inr ⟨before, r, after, hrun, hid, ?_⟩
    unfold finish finish?
    rw [hfind]
    dsimp only
    rw [herase]
    cases r.task.outcome.output? with
    | none => simp [gist, ended?, started?, discarded?, answered?, Trail.admitted, admitted?]
    | some output => simp [gist, ended?, started?, discarded?, answered?, Trail.admitted, admitted?]

end Workforce.Pool

namespace Workforce.Batch

open Occurrence Trail

variable {α : Type} {b c : Batch α} {es : List (Event α)} {now : Nat} {x : Gist α}
  {left dropped : List (Task α)}

/-! ## What holds of every batch that nobody gives up -/

/-- The tasks that have not been admitted: what waits in the line and what remains. -/
def ahead (b : Batch α) : List (Task α) := b.pool.inHand ++ b.remaining

/-- The deadline has been reached. -/
def Due (now : Nat) (b : Batch α) : Prop := ∃ time, b.deadline = some time ∧ time ≤ now

lemma isDue_iff {m : Moment} : b.isDue m = true ↔ b.Due m.now := by
  cases h : b.deadline <;> simp [isDue, Due, h]

/-- A submission waits at a full queue while the workers are busy. -/
structure Jammed (b : Batch α) : Prop where
  line : b.pool.submitting ≠ []
  full : b.pool.queue.length = b.pool.capacity
  busy : b.pool.running ≠ []
  idle : b.pool.idle = 0
  publishing : b.pool.publishing = []

/-- Nothing has come to the pool yet. -/
structure Untouched (b : Batch α) : Prop where
  line : b.pool.submitting = []
  queue : b.pool.queue = []
  running : b.pool.running = []
  publishing : b.pool.publishing = []

/-- Nothing can be admitted before the submitter moves. -/
def Blocked (b : Batch α) : Prop := b.Untouched ∨ b.Jammed

/-- What holds at a time of a batch that nobody gives up. -/
structure Kept (now : Nat) (b : Batch α) : Prop where
  sound : b.Sound
  /-- Only the parent cancels the pool. -/
  parent : b.pool.cancelled = true → b.pool.child = true
  /-- No submission has been refused. -/
  steady : b.submitter = .active ∨ b.Finished
  /-- The call returns after all workers have exited. -/
  gone : b.pool.held = false → b.pool.workers = 0
  /-- When the submitter is about to be stopped nothing can be admitted. -/
  blocked : b.submitter = .active → b.pool.cancelled = true ∨ b.Due now → b.Blocked

/-! ## Moves -/

/-- An internal move of a batch that nobody gives up, with what becomes of tasks and calls. Of the
tasks that are discarded, the first list has those that were never admitted and the second one those
that were. -/
inductive Advance (now : Nat) :
    Batch α → Gist α → List (Task α) → List (Task α) → Batch α → Prop
  /-- An idle worker takes the head of the queue. -/
  | take {b : Batch α} {n : Nat} {t : Task α} {rest : List (Task α)}
      (active : b.pool.cancelled = false) (idle : b.pool.idle = n + 1)
      (queue : b.pool.queue = t :: rest) :
      Advance now b { started := [t] } [] []
        { b with pool := { b.pool with
          idle := n, queue := rest, running := b.pool.running ++ [Run.start now t] } }
  /-- An idle worker exits, but not as the last one. -/
  | exit {b : Batch α} {n counted : Nat} (idle : b.pool.idle = n + 1)
      (others : n + b.pool.running.length + b.pool.publishing.length ≠ 0)
      (why : b.pool.cancelled = true ∨ b.pool.queue = [] ∧ b.Finished) :
      Advance now b {} [] [] { b with pool := { b.pool with idle := n, counted := counted } }
  /-- The last worker exits, and the queue is dropped. -/
  | last {b : Batch α} {counted : Nat} (idle : b.pool.idle = 1) (running : b.pool.running = [])
      (publishing : b.pool.publishing = [])
      (why : b.pool.cancelled = true ∨ b.pool.queue = [] ∧ b.Finished) :
      Advance now b { discarded := b.pool.queue } [] b.pool.queue
        { b with pool := { b.pool with idle := 0, counted := counted, queue := [] } }
  /-- The submission that waits is admitted. -/
  | enter {b : Batch α} {s : Submission α} (active : b.submitter = .active)
      (line : b.pool.submitting = [s]) (room : b.pool.queue.length < b.pool.capacity) :
      Advance now b { admitted := [s.task] } [] []
        { b with
          pool := { b.pool with submitting := [], queue := b.pool.queue ++ [s.task] }
          admitted := b.admitted + 1 }
  /-- An output is published. -/
  | publish {b : Batch α} {output : Option α} {rest : List (Option α)}
      (publishing : b.pool.publishing = output :: rest) :
      Advance now b {} [] []
        { b with pool := { b.pool with
          publishing := rest, results := b.pool.results ++ [output], idle := b.pool.idle + 1 } }
  /-- The collector gets an output. -/
  | deliver {b : Batch α} {output : Option α} {rest : List (Option α)}
      (results : b.pool.results = output :: rest) :
      Advance now b {} [] []
        { b with pool := { b.pool with results := rest }, values := b.values ++ output.toList }
  /-- The collector is told that the results are closed. -/
  | tell {b : Batch α} (results : b.pool.results = []) (gone : b.pool.workers = 0) :
      Advance now b {} [] [] { b with pool := { b.pool with receiving := [] } }
  /-- The submitter hands in the next task. -/
  | hand {b : Batch α} {t : Task α} {rest : List (Task α)} (active : b.submitter = .active)
      (line : b.pool.submitting = []) (remaining : b.remaining = t :: rest)
      (early : ¬ b.Due now) (free : b.pool.cancelled = false) :
      Advance now b {} [] []
        { b with pool := { b.pool with submitting := [⟨none, t⟩] }, remaining := rest }
  /-- The submitter ends, because it has nothing left to hand in or because it is stopped. What it
  has left is discarded. -/
  | halt {b : Batch α} {panicked : Bool} (active : b.submitter = .active)
      (why : b.ahead = [] ∨ b.Due now ∨ b.pool.cancelled = true)
      (frail : panicked = true → ∃ t ∈ b.ahead, t.frail = true) :
      Advance now b { discarded := b.ahead } b.ahead []
        { b with
          pool := { b.pool with submitting := [], closed := true }
          remaining := []
          submitter := .finished panicked }
  /-- The call returns. -/
  | conclude {b : Batch α} {panicked : Bool} (finished : b.submitter = .finished panicked)
      (held : b.pool.held = true) (receiving : b.pool.receiving = []) :
      Advance now b
        { answered := [(b.call, .batch (if panicked then .error .discardPanic else .ok b.values))] }
        [] []
        { b with pool := b.pool.release }

/-- Moves change neither the limits of a batch nor what has reached it from the parent. -/
lemma Advance.limits (h : Advance now b x left dropped c) :
    c.deadline = b.deadline ∧ c.pool.child = b.pool.child ∧
      c.pool.cancelled = b.pool.cancelled := by
  cases h <;> exact ⟨rfl, rfl, rfl⟩

/-! ## Events that the batch ignores -/

/-- What the exit of a worker is about. -/
lemma gist_retire (m : Moment) {reason : List (Event α)} (hreason : gist reason = {})
    (p : Pool α) :
    gist (p.retire m reason).2 = { discarded := if p.workers = 0 then p.queue else [] } := by
  obtain ⟨fs, hfs, hstops⟩ := Pool.retire_snd m reason p
  have hquiet : gist fs = {} := gist_quiet fun e he => by
    rcases hstops e he with rfl | rfl | rfl <;> rfl
  rw [hfs, gist_append, gist_append, hreason, hquiet]
  split
  · rw [gist_discards]
    simp
  · simp

/-- The batch learns nothing from events each of which tells it nothing. -/
lemma observeAll_of_quiet (h : ∀ e ∈ es, ∀ b : Batch α, b.observe e = b) (b : Batch α) :
    b.observeAll es = b := by
  induction es with
  | nil => rfl
  | cons e es ih =>
    rw [observeAll, List.foldl_cons, h e List.mem_cons_self]
    exact ih fun f hf => h f (List.mem_cons_of_mem _ hf)

/-- The batch learns nothing from the exit of a worker. -/
lemma observeAll_retire (m : Moment) {reason : List (Event α)}
    (hreason : ∀ e ∈ reason, ∀ b : Batch α, b.observe e = b) (p : Pool α) (b : Batch α) :
    b.observeAll (p.retire m reason).2 = b :=
  observeAll_of_quiet (Pool.forall_mem_retire m p hreason (fun _ _ _ => rfl) (fun _ => rfl)
    (fun _ => rfl) fun _ => rfl) b

/-- Closing a pool is about nothing. -/
lemma gist_close (p : Pool α) : gist p.close.2 = {} := by
  rcases close_snd p with h | h <;> rw [h] <;> rfl

/-! ## Every move is one of these -/

/-- At most one submission is in the line. -/
lemma Sound.line_eq (hb : b.Sound) {s : Submission α} {rest : List (Submission α)}
    (h : b.pool.submitting = s :: rest) : rest = [] := by
  have := hb.single
  rw [h, List.length_cons] at this
  exact List.length_eq_zero_iff.1 (by omega)

namespace Kept

/-- The submitter is stopped when the pool is cancelled. -/
lemma free_of_not_stopped (hb : Kept now b) (h : b.isStopped = false) :
    b.pool.cancelled = false := by
  by_contra hc
  have hc : b.pool.cancelled = true := by simpa using hc
  simp [isStopped, hb.parent hc, hc] at h

/-- Nobody cancels the pool of a batch that does not follow its parent. -/
lemma free_of_alone (hb : Kept now b) (alone : b.pool.child = false) :
    b.pool.cancelled = false := by
  by_contra hc
  have hchild := hb.parent (by simpa using hc)
  simp [alone] at hchild

/-- A submission that waits finds a pool that is open and has workers. -/
lemma open_of_line (hb : Kept now b) (h : b.pool.submitting ≠ []) :
    b.submitter = .active ∧ b.pool.closed = false ∧ b.pool.workers ≠ 0 := by
  have hactive : b.submitter = .active := hb.sound.line.resolve_right h
  refine ⟨hactive, hb.sound.open_of_active hactive, fun hw => ?_⟩
  obtain ⟨-, hrunning, -⟩ := Pool.workers_eq_zero_iff.1 hw
  rcases hb.sound.pool.alive with hc | hs | hsize
  · rcases hb.blocked hactive (.inl hc) with hu | hj
    · exact h hu.line
    · exact hj.busy hrunning
  · exact h (Pool.sealed_iff.1 hs).1
  · have := b.pool.size_pos
    omega

/-- As long as workers are left, the call is pending. -/
lemma held_of_workers (hb : Kept now b) (h : b.pool.workers ≠ 0) : b.pool.held = true := by
  by_contra hh
  exact h (hb.gone (by simpa using hh))

/-- The collector waits as long as workers are left. -/
lemma receiving_of_workers (hb : Kept now b) (h : b.pool.workers ≠ 0) : b.pool.receiving ≠ [] :=
  mt (hb.sound.gone_of_received (hb.held_of_workers h)) h

/-- Nobody leaves the pool while workers are left. -/
lemma not_deserted (hb : Kept now b) (h : b.pool.workers ≠ 0) : b.pool.deserted = false := by
  simp [Pool.deserted, hb.held_of_workers h]

/-- Where a worker finds that no task can come, the submitter has ended. -/
lemma finished_of_sealed (hb : Kept now b) (hw : b.pool.workers ≠ 0)
    (h : b.pool.sealed = true) : b.Finished := by
  rcases (Pool.sealed_iff.1 h).2 with hc | hd
  · exact hb.sound.closed hc
  · rw [hb.not_deserted hw] at hd
    cases hd

/-- The exit of a worker. -/
lemma exit_cases {n : Nat} (m : Moment) (reason : List (Event α)) (idle : b.pool.idle = n + 1)
    (why : b.pool.cancelled = true ∨ b.pool.queue = [] ∧ b.Finished) (hreason : gist reason = {})
    (hquiet : ∀ e ∈ reason, ∀ b : Batch α, b.observe e = b) :
    ∃ left dropped, Advance now b (gist (({ b.pool with idle := n } : Pool α).retire m reason).2)
      left dropped
      ({ b with pool := (({ b.pool with idle := n } : Pool α).retire m reason).1 }.observeAll
        (({ b.pool with idle := n } : Pool α).retire m reason).2) := by
  rw [observeAll_retire m hquiet, gist_retire m hreason, Pool.retire_fst]
  by_cases hw : ({ b.pool with idle := n } : Pool α).workers = 0
  · obtain ⟨hn, hrunning, hpublishing⟩ := Pool.workers_eq_zero_iff.1 hw
    change n = 0 at hn
    subst hn
    rw [if_pos hw, if_pos hw]
    exact ⟨_, _, .last idle hrunning hpublishing why⟩
  · rw [if_neg hw, if_neg hw]
    exact ⟨_, _, .exit idle hw why⟩

/-- The end of the submitter, which has taken what waits in the line into its hands. -/
lemma halt_cases (m : Moment) (reason : List (Event α))
    (panicked : Bool) (inHand rest : List (Task α)) (active : b.submitter = .active)
    (why : b.ahead = [] ∨ b.Due now ∨ b.pool.cancelled = true)
    (ahead : b.ahead = inHand ++ rest)
    (frail : panicked = true → ∃ t ∈ inHand, t.frail = true) (hreason : gist reason = {}) :
    ∃ left dropped, Advance now b
      (gist (inHand.map .discarded ++ (reason ++ (({ b with
        pool := { b.pool with submitting := [] }
        remaining := rest } : Batch α).endSubmitter m panicked).2)))
      left dropped (({ b with
        pool := { b.pool with submitting := [] }
        remaining := rest } : Batch α).endSubmitter m panicked).1 := by
  have hgist : gist (inHand.map .discarded ++ (reason ++ (({ b with
      pool := { b.pool with submitting := [] }
      remaining := rest } : Batch α).endSubmitter m panicked).2)) = { discarded := b.ahead } := by
    rw [endSubmitter, gist_append, gist_append, gist_append, gist_discards, gist_discards,
      gist_close, hreason, ahead]
    simp
    rfl
  rw [hgist, endSubmitter, Pool.close_frame]
  refine ⟨_, _, .halt active why fun h => ?_⟩
  rw [ahead]
  rcases Bool.or_eq_true_iff.1 h with h | h
  · obtain ⟨t, ht, hfrail⟩ := frail h
    exact ⟨t, List.mem_append_left _ ht, hfrail⟩
  · obtain ⟨t, ht, hbreaks⟩ := List.any_eq_true.1 h
    simp only [Moment.breaks, Bool.and_eq_true] at hbreaks
    exact ⟨t, List.mem_append_right _ ht, hbreaks.2⟩

/-- The end of the submitter that is stopped with a task in its hands. -/
lemma halt_in_hand (m : Moment) {t : Task α} {rest : List (Task α)} {reason : Event α}
    (active : b.submitter = .active) (why : b.Due now ∨ b.pool.cancelled = true)
    (ahead : b.ahead = t :: rest) (hreason : gist [reason] = {}) :
    ∃ left dropped, Advance now b
      (gist (({ b with
        pool := { b.pool with submitting := [] }
        remaining := rest } : Batch α).halt m t reason).2)
      left dropped (({ b with
        pool := { b.pool with submitting := [] }
        remaining := rest } : Batch α).halt m t reason).1 := by
  have hfrail : m.breaks t = true → ∃ u ∈ [t], u.frail = true := fun h =>
    ⟨t, List.mem_singleton_self _, (Bool.and_eq_true_iff.1 h).2⟩
  have hstep := halt_cases m (if m.breaks t then [] else [reason]) (m.breaks t) [t] rest active
    (.inr why) ahead hfrail (by split <;> trivial)
  unfold halt
  cases hbreaks : m.breaks t <;> simpa [hbreaks] using hstep

/-- A move of the pool is one of the moves. -/
lemma advance_pool {m : Moment} (hb : Kept m.now b) {k : Pool.Move} {q : Pool α}
    (h : b.pool.perform? m k = some (q, es)) :
    ∃ left dropped, Advance m.now b (gist es) left dropped
      ({ b with pool := q }.observeAll es) := by
  cases k with
  | take =>
    obtain ⟨n, t, rest, hc, hi, hq, heq⟩ := Pool.take?_eq_some_iff.1 h
    cases heq
    exact ⟨_, _, .take hc hi hq⟩
  | leave =>
    obtain ⟨n, hi, hwhy, heq⟩ := Pool.leave?_eq_some_iff.1 h
    have hw : b.pool.workers ≠ 0 := by
      rw [Pool.workers, hi]
      omega
    obtain ⟨rfl, rfl⟩ := Prod.ext_iff.1 heq
    refine exit_cases m b.pool.farewell hi
      (hwhy.imp_right fun hs => ⟨hs.1, hb.finished_of_sealed hw hs.2⟩) ?_
      (Pool.forall_mem_farewell fun b => rfl)
    unfold Pool.farewell
    split <;> rfl
  | enter =>
    obtain ⟨s, rest, hs, hwhat⟩ := Pool.enter?_eq_some_iff.1 h
    obtain ⟨hactive, hopen, hw⟩ := hb.open_of_line (by simp [hs])
    obtain rfl := hb.sound.line_eq hs
    obtain ⟨hz | ⟨-, hclosed⟩, -⟩ | ⟨-, hroom, -, heq⟩ := hwhat
    · exact absurd hz hw
    · simp [hopen] at hclosed
    · cases heq
      exact ⟨_, _, .enter hactive hs hroom⟩
  | publish =>
    obtain ⟨output, rest, hp, hwhat⟩ := Pool.publish?_eq_some_iff.1 h
    have hw : b.pool.workers ≠ 0 := by
      rw [Pool.workers, hp, List.length_cons]
      omega
    rw [hb.not_deserted hw] at hwhat
    obtain ⟨hd, -⟩ | ⟨-, -, heq⟩ := hwhat
    · cases hd
    · cases heq
      exact ⟨_, _, .publish hp⟩
  | deliver =>
    have hcollector : ∀ r rest, b.pool.receiving = r :: rest → r = ⟨none, true⟩ ∧ rest = [] := by
      intro r rest hr
      rcases hb.sound.collector with hc | ⟨hc, -⟩
      · simpa [hr] using hc
      · simp [hr] at hc
    obtain ⟨r, rest, hr, ⟨output, outputs, ho, heq⟩ | ⟨ho, hw, heq⟩⟩ :=
      Pool.deliver?_eq_some_iff.1 h <;> obtain ⟨rfl, rfl⟩ := hcollector r rest hr <;> cases heq
    · have hobserve : ({ b with pool := { b.pool with
          results := outputs, receiving := [⟨none, true⟩] } } : Batch α).observeAll
          [.received none true output] = { b with
            pool := { b.pool with results := outputs }
            values := b.values ++ output.toList } := by
        rw [← hr]
        cases output <;> simp [observeAll, observe]
      show ∃ left dropped, Advance m.now b _ left dropped (({ b with pool := { b.pool with
          results := outputs, receiving := [⟨none, true⟩] } } : Batch α).observeAll _)
      rw [hobserve]
      exact ⟨_, _, .deliver ho⟩
    · exact ⟨_, _, .tell ho hw⟩

/-- A move of the submitter is one of the moves. -/
lemma advance_feed {m : Moment} (hb : Kept m.now b) (h : b.feed? m = some (c, es)) :
    ∃ left dropped, Advance m.now b (gist es) left dropped c := by
  cases feed?_eq_some_iff.1 h with
  | refused hs =>
    -- no submission has been refused
    rcases hb.steady with hactive | ⟨k, hk⟩
    · simp [hs] at hactive
    · simp [hs] at hk
  | done hactive hline hrem =>
    have hahead : b.ahead = [] := by rw [ahead, Pool.inHand, hline, hrem]; rfl
    have hstep : ∃ left dropped, Advance m.now b _ left dropped _ :=
      halt_cases m [] false [] [] hactive (.inl hahead) hahead (by simp) rfl
    rwa [show ({ b with pool := { b.pool with submitting := [] }, remaining := [] } : Batch α) = b
      by rw [clear_eq_self hline, ← hrem]] at hstep
  | @back s line reason hactive hs hwhy =>
    obtain rfl := hb.sound.line_eq hs
    have hahead : b.ahead = s.task :: b.remaining := by rw [ahead, Pool.inHand, hs]; rfl
    obtain ⟨hdue, rfl⟩ | ⟨-, hstop, rfl⟩ := hwhy
    · exact halt_in_hand m hactive (.inl (isDue_iff.1 hdue)) hahead rfl
    · simp only [isStopped, Bool.and_eq_true] at hstop
      exact halt_in_hand m hactive (.inr hstop.2) hahead rfl
  | @due t rest hactive hline hrem hdue =>
    have hahead : b.ahead = t :: rest := by rw [ahead, Pool.inHand, hline, hrem]; rfl
    have hstep : ∃ left dropped, Advance m.now b _ left dropped _ :=
      halt_cases m [.deadlineReached b.admitted] false [] (t :: rest) hactive
        (.inr (.inl (isDue_iff.1 hdue))) hahead (by simp) rfl
    rwa [show ({ b with
        pool := { b.pool with submitting := [] }, remaining := t :: rest } : Batch α) = b
      by rw [clear_eq_self hline, ← hrem]] at hstep
  | @stopped t rest hactive hline hrem _ hstop =>
    have hahead : b.ahead = t :: rest := by rw [ahead, Pool.inHand, hline, hrem]; rfl
    simp only [isStopped, Bool.and_eq_true] at hstop
    have hstep : ∃ left dropped, Advance m.now b _ left dropped _ := halt_in_hand m
      hactive (.inr hstop.2) hahead (rfl : gist [.admissionCancelled b.admitted] = {})
    rwa [clear_eq_self hline] at hstep
  | @submit t rest hactive hline hrem hearly hstop =>
    have hopen : b.pool.closed = false := hb.sound.open_of_active hactive
    have hfree : b.pool.cancelled = false := hb.free_of_not_stopped hstop
    have hdue : ¬ b.Due m.now := fun hd => by simp [isDue_iff.2 hd] at hearly
    unfold Pool.submit
    rw [if_neg (by simp [hopen]), hline]
    exact ⟨_, _, .hand hactive hline hrem hdue hfree⟩

/-- **Every internal move is one of these.** -/
theorem advance {m : Moment} (hb : Kept m.now b) {k : Move} (h : b.perform? m k = some (c, es)) :
    ∃ left dropped, Advance m.now b (gist es) left dropped c := by
  cases k with
  | pool k =>
    obtain ⟨q, hq, rfl⟩ := performPool?_eq_some_iff.1 h
    rw [← observeAll_setPool]
    exact hb.advance_pool hq
  | feed => exact hb.advance_feed h
  | conclude =>
    obtain ⟨panicked, hs, hheld, hrec, heq⟩ := conclude?_eq_some_iff.1 h
    cases heq
    have hstep : ∃ left dropped, Advance m.now b _ left dropped _ :=
      ⟨_, _, .conclude hs hheld hrec⟩
    cases panicked <;> exact hstep

/-! ## What moves keep -/

/-- Before the submitter has moved, no move but its own undoes what blocks it. -/
lemma blocked_advance (hb : Kept now b) (h : Advance now b x left dropped c)
    (hactive : c.submitter = .active) (hwhy : c.pool.cancelled = true ∨ c.Due now) : c.Blocked := by
  cases h with
  | take active idle queue =>
    rcases hb.blocked hactive hwhy with hu | hj
    · exact absurd hu.queue (by simp [queue])
    · exact absurd hj.idle (by simp [idle])
  | exit idle | last idle =>
    rcases hb.blocked hactive hwhy with hu | hj
    · exact .inl ⟨hu.line, by first | exact hu.queue | rfl, hu.running, hu.publishing⟩
    · exact absurd hj.idle (by simp [idle])
  | enter active line room =>
    rcases hb.blocked hactive hwhy with hu | hj
    · exact absurd hu.line (by simp [line])
    · have := hj.full
      omega
  | publish publishing =>
    rcases hb.blocked hactive hwhy with hu | hj
    · exact absurd hu.publishing (by simp [publishing])
    · exact absurd hj.publishing (by simp [publishing])
  | deliver | tell =>
    rcases hb.blocked hactive hwhy with hu | hj
    · exact .inl ⟨hu.line, hu.queue, hu.running, hu.publishing⟩
    · exact .inr ⟨hj.line, hj.full, hj.busy, hj.idle, hj.publishing⟩
  | hand active line remaining early free =>
    rcases hwhy with hc | hd
    · exact absurd hc (by simp [free])
    · exact absurd hd early
  | halt => cases hactive
  | conclude finished => simp [finished] at hactive

/-- **The moves keep what holds of every batch that nobody gives up.** -/
theorem of_advance (hb : Kept now b) (h : Advance now b x left dropped c) (sound : c.Sound) :
    Kept now c := by
  refine ⟨sound, ?_, ?_, ?_, hb.blocked_advance h⟩
  · cases h <;> exact hb.parent
  · cases h with
    | halt => exact .inr ⟨_, rfl⟩
    | _ => exact hb.steady
  · cases h with
    | conclude finished held receiving =>
      exact fun _ => hb.sound.gone_of_received held receiving
    | take active idle queue =>
      intro hheld
      have := hb.gone hheld
      rw [Pool.workers, idle] at this
      omega
    | exit idle others why =>
      intro hheld
      have := hb.gone hheld
      rw [Pool.workers, idle] at this
      omega
    | last idle running publishing why => exact fun _ => by simp [Pool.workers, running, publishing]
    | publish publishing =>
      intro hheld
      have := hb.gone hheld
      rw [Pool.workers, publishing, List.length_cons] at this
      omega
    | _ => exact hb.gone

/-- **What the moves keep is kept until nothing moves**, together with what has happened. -/
theorem settle_induction {P : Batch α → Diary α → Prop} {m : Moment} {d : Diary α}
    (hb : Kept m.now b) (h0 : P b d)
    (hstep : ∀ b d x left dropped c, Kept m.now b → P b d → Advance m.now b x left dropped c →
      P c (d ++ .note m.now x)) :
    Kept m.now (b.settle m).1 ∧ P (b.settle m).1 (d ++ .note m.now (gist (b.settle m).2)) := by
  fun_induction Batch.settle m b generalizing d with
  | case1 m b h =>
    rw [gist_nil, Diary.note_empty, Diary.append_empty]
    exact ⟨hb, h0⟩
  | case2 m b c es h c' fs hr ih =>
    obtain ⟨k, hk⟩ := exists_move_of_step? h
    obtain ⟨left, dropped, hadvance⟩ := hb.advance hk
    have hc : Kept m.now c := hb.of_advance hadvance (hb.sound.step (.of_perform? hb.sound hk))
    have hrest := ih hc (hstep b d _ _ _ c hb h0 hadvance) hstep
    rw [hr] at hrest
    rw [gist_append, Diary.note_append, ← Diary.append_assoc]
    exact hrest

/-! ## Batches at rest -/

/-- The active submitter of a batch at rest waits at a full queue, and nothing stops it. -/
lemma jammed_of_rest {m : Moment} (hb : Kept m.now b) (rest : b.step? m = none)
    (active : b.submitter = .active) :
    b.Jammed ∧ b.pool.cancelled = false ∧ ¬ b.Due m.now := by
  have hresting : b.pool.Resting := resting_of_step? rest
  rcases feed?_eq_none_iff.1 (step?_eq_none_iff_parts.1 rest).2.1 with ⟨k, hk⟩ |
    ⟨-, hline, hdue, hstop⟩
  · simp [active] at hk
  · obtain ⟨hfull, hw, hidle, -⟩ := hresting.full_of_submitting hb.sound.pool hline
    have hreceiving : b.pool.receiving ≠ [] := hb.receiving_of_workers hw
    obtain ⟨-, hpublishing, -⟩ := hresting.empty_of_receiving hreceiving
    have hbusy : b.pool.running ≠ [] := fun hrunning =>
      hw (Pool.workers_eq_zero_iff.2 ⟨hidle, hrunning, hpublishing⟩)
    exact ⟨⟨hline, hfull, hbusy, hidle, hpublishing⟩, hb.free_of_not_stopped hstop,
      fun hd => by simp [isDue_iff.2 hd] at hdue⟩

/-- The end of a task keeps what holds of every batch that nobody gives up. -/
lemma finish {m : Moment} (hb : Kept m.now b) (rest : b.step? m = none) (id : TaskId) :
    Kept m.now (b.finish id).1 := by
  have hstep := Pool.Steps.of_finish id b.pool
  obtain ⟨-, -, -, hcancelled, hchild⟩ := Pool.finish_frame id b.pool
  refine ⟨hb.sound.step (.finish id), ?_, hb.steady, fun hheld => ?_, fun active hwhy => ?_⟩
  · show (b.pool.finish id).1.cancelled = true → (b.pool.finish id).1.child = true
    rw [hcancelled, hchild]
    exact hb.parent
  · exact hstep.workers_eq_zero (hb.gone ((Pool.held_finish id b.pool).symm.trans hheld))
  · obtain ⟨-, hfree, hearly⟩ := hb.jammed_of_rest rest active
    rcases hwhy with hc | hd
    · exact absurd (hcancelled.symm.trans hc) (by simp [hfree])
    · exact absurd hd hearly

/-- So does the cancellation of the parent. -/
lemma follow {m : Moment} (hb : Kept m.now b) (rest : b.step? m = none) :
    Kept m.now b.parentCancelled := by
  refine ⟨hb.sound.step .follow, fun hc => ?_, hb.steady, hb.gone, fun active _ => .inr ?_⟩
  · have hc : b.pool.cancelled = true ∨ b.pool.child = true := Bool.or_eq_true_iff.1 hc
    exact hc.elim hb.parent fun h => h
  · obtain ⟨hline, hfull, hbusy, hidle, hpublishing⟩ := (hb.jammed_of_rest rest active).1
    exact ⟨hline, hfull, hbusy, hidle, hpublishing⟩

/-- So does the clock. -/
lemma wait {m : Moment} (hb : Kept m.now b) (rest : b.step? m = none) (time : Nat) :
    Kept time b :=
  ⟨hb.sound, hb.parent, hb.steady, hb.gone,
    fun active _ => .inr (hb.jammed_of_rest rest active).1⟩

end Kept

end Workforce.Batch
