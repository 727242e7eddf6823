import Workforce.Proofs.Batch.Advance
import Workforce.Proofs.Schedule
/-!
# The accounts of a batch

What became of the tasks of a batch up to a time, and when: which were admitted and started, which
were left when the submitter ended, and which were dropped with the queue. The values collected are
those of the tasks that have ended, in the order of their ends, and the call returns at the latest
end.

## Main definitions

* `Workforce.Batch.Account` — the accounts of a batch at a time.

## Main results

* `Workforce.Batch.Account.advance`, `Account.finish`, `Account.follow`, `Account.wait` — the
  accounts are carried on by moves, ends of tasks, the cancellation of the parent and the clock.
* `Workforce.Batch.Account.final` — what they come to when nothing runs any more.

## Implementation notes

A batch is stopped at most once, at the deadline or at the cancellation. That time is a parameter of
the accounts.
-/

namespace Workforce

open Occurrence Trail Schedule

variable {α : Type}

/-- The value that a task has produced. -/
def Task.value? (t : Task α) : Option α :=
  match t.outcome with
  | .value v => some v
  | _ => none

/-- Of what a task hands over, the value counts. -/
lemma filterMap_output (t : Task α) :
    t.outcome.output?.toList.filterMap id = t.value?.toList := by
  unfold Task.value?
  cases t.outcome <;> rfl

/-- The latest end, or the given time if nothing has ended. -/
def Diary.latestEnd (d : Diary α) (t₀ : Nat) : Nat := latest t₀ (d.ends.map Prod.fst)

namespace Batch

variable {b c : Batch α} {now call t₀ stop : Nat} {tasks left dropped l r : List (Task α)}
  {d : Diary α} {x : Gist α}

/-! ## The accounts -/

/-- What became of the tasks of a batch up to a time. -/
structure Account (call t₀ stop : Nat) (tasks : List (Task α)) (now : Nat) (b : Batch α)
    (d : Diary α) (left dropped : List (Task α)) : Prop where
  caller : b.call = call
  since : t₀ ≤ now
  past : ∀ y ∈ d.ends, y.1 ≤ now
  /-- Tasks are admitted in their order, until the submitter ends and some are left. -/
  given : d.admitted ++ b.ahead ++ left = tasks
  /-- What was admitted is started in that order, until some are dropped with the queue. -/
  admitted : d.started ++ b.pool.queue ++ dropped = d.admitted
  /-- What was started runs or has ended. -/
  started : (b.pool.underway ++ d.ended).Perm d.started
  active : b.submitter = .active → left = [] ∧ dropped = []
  drops : dropped = [] ∨
    b.pool.workers = 0 ∧ b.pool.queue = [] ∧ b.pool.cancelled = true
  /-- What is left is discarded when the submitter is stopped, and what is dropped at the latest
  end. -/
  discards : d.discards = left.map (stop, ·) ++ dropped.map (d.latestEnd t₀, ·)
  stopped : b.submitter = .active → b.pool.cancelled = true ∨ b.Due now → now = stop
  why : left ≠ [] → b.pool.cancelled = true ∨ b.Due now
  /-- The values of the tasks that have ended are collected or on their way. -/
  values : b.values ++ (b.pool.results ++ b.pool.publishing).filterMap id =
    d.ended.filterMap Task.value?
  told : b.pool.receiving = [] → b.pool.results = [] ∧ b.pool.workers = 0
  /-- While the call is pending a task runs, or the last one has just ended. -/
  lively : b.pool.held = true → b.pool.running ≠ [] ∨ d.latestEnd t₀ = now
  pending : b.pool.held = true → d.answers = []
  /-- The call returns at the latest end. -/
  answered : b.pool.held = false → ∃ panicked, b.submitter = .finished panicked ∧
    d.answers = [(d.latestEnd t₀, call,
      .batch (if panicked then .error .discardPanic else .ok b.values))]
  /-- The submitter breaks down only if it discards a task that makes it do so. -/
  frail : b.submitter = .finished true → ∃ t ∈ left, t.frail = true

/-- The submitter does not break down if none of the tasks that are left makes it do so. -/
lemma eq_false_of_sturdy {panicked : Bool}
    (frail : panicked = true → ∃ t ∈ left, t.frail = true)
    (sturdy : ∀ t ∈ left, t.frail = false) : panicked = false := by
  by_contra hp
  obtain ⟨t, ht, hf⟩ := frail (by simpa using hp)
  simp [sturdy t ht] at hf

namespace Account

/-! ## Moves -/

/-- In a move no task ends. -/
lemma ended_nil (h : Advance now b x l r c) : x.ended = [] := by
  cases h <;> rfl

/-- A move does not change what has ended. -/
lemma ends_advance (d : Diary α) (h : Advance now b x l r c) :
    (d ++ .note now x).ends = d.ends := by
  rw [Diary.ends_append, Diary.note, ended_nil h, List.map_nil, List.append_nil]

/-- Nothing has been dropped where workers are left. -/
lemma dropped_nil (acc : Account call t₀ stop tasks now b d left dropped)
    (h : b.pool.workers ≠ 0) : dropped = [] :=
  acc.drops.resolve_right fun hd => h hd.1

/-- Tasks are given out in their order. -/
lemma given_advance (acc : Account call t₀ stop tasks now b d left dropped)
    (h : Advance now b x l r c) :
    (d ++ .note now x).admitted ++ c.ahead ++ (left ++ l) = tasks := by
  have hgiven := acc.given
  cases h with
  | enter active line room =>
    obtain ⟨rfl, -⟩ := acc.active active
    simpa [Diary.admitted, Diary.note, ahead, Pool.inHand, line] using hgiven
  | hand active line remaining early free =>
    obtain ⟨rfl, -⟩ := acc.active active
    simpa [Diary.admitted, Diary.note, ahead, Pool.inHand, line, remaining] using hgiven
  | halt active why frail =>
    obtain ⟨rfl, -⟩ := acc.active active
    simpa [Diary.admitted, Diary.note, ahead, Pool.inHand] using hgiven
  | _ => simpa [Diary.admitted, Diary.note, ahead, Pool.inHand, Pool.release] using hgiven

/-- What was admitted is started in that order. -/
lemma admitted_advance (acc : Account call t₀ stop tasks now b d left dropped)
    (h : Advance now b x l r c) :
    (d ++ .note now x).started ++ c.pool.queue ++ (dropped ++ r) =
      (d ++ .note now x).admitted := by
  have hadmitted := acc.admitted
  cases h with
  | take active idle queue =>
    simpa [Diary.started, Diary.admitted, Diary.note, queue] using hadmitted
  | enter active line room =>
    obtain ⟨-, rfl⟩ := acc.active active
    simpa [Diary.started, Diary.admitted, Diary.note, ← List.append_assoc] using hadmitted
  | last idle running publishing why =>
    have hnil : dropped = [] := acc.dropped_nil (by rw [Pool.workers, idle]; omega)
    simpa [Diary.started, Diary.admitted, Diary.note, hnil] using hadmitted
  | _ => simpa [Diary.started, Diary.admitted, Diary.note, Pool.release] using hadmitted

/-- What was started runs or has ended. -/
lemma started_advance (acc : Account call t₀ stop tasks now b d left dropped)
    (h : Advance now b x l r c) :
    (c.pool.underway ++ (d ++ .note now x).ended).Perm (d ++ .note now x).started := by
  have hstarted := acc.started
  rw [Diary.ended, ends_advance d h, ← Diary.ended]
  cases h with
  | @take n t rest active idle queue =>
    have hunder : ({ b.pool with
        idle := n
        queue := rest
        running := b.pool.running ++ [Run.start now t] } : Pool α).underway =
          b.pool.underway ++ [t] := by simp [Pool.underway, Run.start]
    have hnote : (d ++ .note now { started := [t] }).started = d.started ++ [t] := by
      simp [Diary.started, Diary.note]
    rw [hunder, hnote, List.append_assoc]
    exact (List.perm_append_comm_assoc _ _ _).trans
      ((List.perm_append_comm).trans (hstarted.append_right [t]))
  | _ => simpa [Diary.started, Diary.note, Pool.underway, Pool.release] using hstarted

/-- What is dropped is what the last worker of a cancelled pool finds in the queue. -/
lemma drops_advance (acc : Account call t₀ stop tasks now b d left dropped)
    (h : Advance now b x l r c) :
    dropped ++ r = [] ∨
      c.pool.workers = 0 ∧ c.pool.queue = [] ∧ c.pool.cancelled = true := by
  have hdrops := acc.drops
  cases h with
  | take active idle queue | exit idle | publish publishing =>
    left
    rw [List.append_nil]
    exact acc.dropped_nil (by simp [Pool.workers, *])
  | last idle running publishing why =>
    rcases why with hc | ⟨hq, -⟩
    · exact .inr ⟨by simp [Pool.workers, running, publishing], rfl, hc⟩
    · left
      rw [hq, List.append_nil]
      exact acc.dropped_nil (by rw [Pool.workers, idle]; omega)
  | enter active line room =>
    obtain ⟨-, rfl⟩ := acc.active active
    exact .inl rfl
  | _ =>
    rw [List.append_nil]
    exact hdrops

/-- While the submitter is active nothing is left or dropped. -/
lemma active_advance (acc : Account call t₀ stop tasks now b d left dropped) (hb : Kept now b)
    (h : Advance now b x l r c) : c.submitter = .active → left ++ l = [] ∧ dropped ++ r = [] := by
  have hactive := acc.active
  cases h with
  | last idle running publishing why =>
    intro active
    obtain ⟨rfl, rfl⟩ := hactive active
    refine ⟨rfl, ?_⟩
    rcases why with hc | ⟨hq, -⟩
    · rcases hb.blocked active (.inl hc) with hu | hj
      · exact hu.queue
      · exact absurd hj.idle (by simp [idle])
    · exact hq
  | halt active why frail => intro h; cases h
  | _ => simpa using hactive

/-- No move brings a later end. -/
lemma latestEnd_advance (d : Diary α) (h : Advance now b x l r c) :
    (d ++ .note now x).latestEnd t₀ = d.latestEnd t₀ := by
  rw [Diary.latestEnd, ends_advance d h, Diary.latestEnd]

/-- What is left is discarded by the submitter, and what is dropped by the last worker. -/
lemma discards_advance (acc : Account call t₀ stop tasks now b d left dropped) (hb : Kept now b)
    (h : Advance now b x l r c) :
    (d ++ .note now x).discards = (left ++ l).map (stop, ·) ++
      (dropped ++ r).map ((d ++ .note now x).latestEnd t₀, ·) := by
  have hdiscards := acc.discards
  rw [latestEnd_advance d h]
  cases h with
  | last idle running publishing why =>
    have hw : b.pool.workers ≠ 0 := by rw [Pool.workers, idle]; omega
    have hnil : dropped = [] := acc.dropped_nil hw
    have hnow := (acc.lively (hb.held_of_workers hw)).resolve_left fun h => h running
    simpa [Diary.note, hnil, hnow] using hdiscards
  | halt active why frail =>
    obtain ⟨rfl, rfl⟩ := acc.active active
    rcases why with hnil | hwhy
    · simpa [Diary.note, hnil] using hdiscards
    · have hnow := acc.stopped active (hwhy.elim .inr .inl)
      simpa [Diary.note, hnow] using hdiscards
  | _ => simpa [Diary.note] using hdiscards

/-- If tasks are left, the submitter has been stopped. -/
lemma why_advance (acc : Account call t₀ stop tasks now b d left dropped)
    (h : Advance now b x l r c) : left ++ l ≠ [] → c.pool.cancelled = true ∨ c.Due now := by
  cases h with
  | halt active why frail =>
    obtain ⟨rfl, -⟩ := acc.active active
    rcases why with hnil | hwhy
    · simp [hnil]
    · exact fun _ => hwhy.elim .inr .inl
  | _ =>
    rw [List.append_nil]
    exact acc.why

/-- The values pass from the publishers through the results to the collector. -/
lemma values_advance (acc : Account call t₀ stop tasks now b d left dropped)
    (h : Advance now b x l r c) :
    c.values ++ (c.pool.results ++ c.pool.publishing).filterMap id =
      (d ++ .note now x).ended.filterMap Task.value? := by
  have hvalues := acc.values
  rw [Diary.ended, ends_advance d h, ← Diary.ended]
  cases h with
  | publish publishing =>
    rw [publishing] at hvalues
    simpa only [List.append_assoc, List.singleton_append] using hvalues
  | @deliver output rest results =>
    cases output <;> simpa [results] using hvalues
  | _ => exact hvalues

/-- The collector is told at the end, and nothing comes after that. -/
lemma told_advance (acc : Account call t₀ stop tasks now b d left dropped)
    (h : Advance now b x l r c) :
    c.pool.receiving = [] → c.pool.results = [] ∧ c.pool.workers = 0 := by
  have htold := acc.told
  cases h with
  | take active idle queue | exit idle | last idle | publish publishing =>
    intro hr
    have hw := (htold hr).2
    exact absurd hw (by simp [Pool.workers, *])
  | deliver results =>
    intro hr
    exact absurd (htold hr).1 (by simp [results])
  | tell results gone => exact fun _ => ⟨results, gone⟩
  | _ => exact htold

/-- The call returns with the latest end. -/
lemma answered_advance (acc : Account call t₀ stop tasks now b d left dropped) (hb : Kept now b)
    (h : Advance now b x l r c) : c.pool.held = false →
    ∃ panicked, c.submitter = .finished panicked ∧
      (d ++ .note now x).answers = [((d ++ .note now x).latestEnd t₀, call,
        .batch (if panicked then .error .discardPanic else .ok c.values))] := by
  rw [latestEnd_advance d h]
  cases h with
  | conclude finished held receiving =>
    intro _
    refine ⟨_, finished, ?_⟩
    have hw := (acc.told receiving).2
    have hnow := (acc.lively held).resolve_left fun h => h (Pool.workers_eq_zero_iff.1 hw).2.1
    simp [Diary.note, acc.pending held, hnow, acc.caller]
  | deliver results =>
    intro hheld
    rcases hb.sound.pending with hh | ⟨-, hr⟩
    · exact absurd (hheld.symm.trans hh) (by simp)
    · exact absurd (acc.told hr).1 (by simp [results])
  | halt active why frail =>
    intro hheld
    obtain ⟨panicked, hfin, -⟩ := acc.answered hheld
    simp [active] at hfin
  | _ => simpa [Diary.note] using acc.answered

/-- **The accounts are carried on by the moves of the batch.** -/
theorem advance (acc : Account call t₀ stop tasks now b d left dropped) (hb : Kept now b)
    (h : Advance now b x l r c) :
    Account call t₀ stop tasks now c (d ++ .note now x) (left ++ l) (dropped ++ r) where
  caller := by cases h <;> exact acc.caller
  since := acc.since
  past := ends_advance d h ▸ acc.past
  given := acc.given_advance h
  admitted := acc.admitted_advance h
  started := acc.started_advance h
  active := acc.active_advance hb h
  drops := acc.drops_advance h
  discards := acc.discards_advance hb h
  stopped := by
    cases h with
    | halt => intro h; cases h
    | _ => exact acc.stopped
  why := acc.why_advance h
  values := acc.values_advance h
  told := acc.told_advance h
  lively := by
    rw [latestEnd_advance d h]
    cases h with
    | take => exact fun _ => .inl (by simp)
    | conclude => intro h; cases h
    | _ => exact acc.lively
  pending := by
    cases h with
    | conclude => intro h; cases h
    | _ => simpa [Diary.note] using acc.pending
  answered := acc.answered_advance hb h
  frail := by
    cases h with
    | halt active why frail =>
      intro hp
      obtain ⟨rfl, -⟩ := acc.active active
      exact frail (Submitter.finished.inj hp)
    | _ => simpa using acc.frail

/-! ## Ends, cancellation and the clock -/

/-- The latest end is the one that has just come. -/
lemma latestEnd_finish (acc : Account call t₀ stop tasks now b d left dropped) (t : Task α) :
    (d ++ .note now { ended := [t] }).latestEnd t₀ = now := by
  have hle : latest t₀ (d.ends.map Prod.fst) ≤ now :=
    latest_le acc.since (by simpa using fun a t h => acc.past (a, t) h)
  have hends : (d ++ .note now { ended := [t] }).ends.map Prod.fst =
      d.ends.map Prod.fst ++ [now] := by simp [Diary.note]
  rw [Diary.latestEnd, hends, latest_concat]
  omega

/-- **The accounts are carried on by the end of a task.** -/
theorem finish {m : Moment} (acc : Account call t₀ stop tasks m.now b d left dropped)
    (hb : Kept m.now b) (name : TaskId) :
    Account call t₀ stop tasks m.now (b.finish name).1
      (d ++ .note m.now (gist (b.finish name).2)) left dropped := by
  have hfinish : b.finish name =
      ({ b with pool := (b.pool.finish name).1 }, (b.pool.finish name).2) := rfl
  rcases Pool.finish_cases name b.pool with ⟨h, -⟩ | ⟨before, r, after, hrun, hid, hgist, hpool⟩
  · rw [hfinish, h]
    simpa using acc
  · have hw : b.pool.workers ≠ 0 := by
      rw [Pool.workers, hrun, List.length_append, List.length_cons]
      omega
    have hheld := hb.held_of_workers hw
    have hnil := acc.dropped_nil hw
    rw [hfinish, hpool]
    dsimp only
    rw [hgist]
    refine ⟨acc.caller, acc.since, ?_, ?_, ?_, ?_, acc.active, .inl hnil, ?_, acc.stopped, acc.why,
      ?_, fun hr => absurd (acc.told hr).2 hw, fun _ => .inr (acc.latestEnd_finish r.task), ?_,
      fun h => absurd (hheld.symm.trans h) (by simp), acc.frail⟩
    · intro y hy
      rcases List.mem_append.1 hy with hy | hy
      · exact acc.past y hy
      · rw [List.mem_singleton.1 hy]
    · simpa [Diary.admitted, Diary.note, ahead, Pool.inHand] using acc.given
    · simpa [Diary.admitted, Diary.started, Diary.note] using acc.admitted
    · have hstarted := acc.started
      simp only [Pool.underway, hrun, List.map_append, List.map_cons] at hstarted
      simp only [Pool.underway, Diary.started, Diary.ended, Diary.note, Diary.starts_append,
        Diary.ends_append, List.map_append, List.map_cons, List.map_nil, List.append_nil]
        at hstarted ⊢
      refine List.Perm.trans ?_ hstarted
      rw [← List.append_assoc]
      refine (List.perm_append_singleton _ _).trans ?_
      simp only [List.append_assoc, List.cons_append]
      exact List.perm_middle.symm
    · simpa [Diary.note, hnil] using acc.discards
    · have hvalues := acc.values
      have hoption := filterMap_output r.task
      have hended : (d ++ .note m.now { ended := [r.task] }).ended = d.ended ++ [r.task] := by
        simp [Diary.ended, Diary.note]
      have hone : [r.task].filterMap Task.value? = r.task.value?.toList := by
        cases h : r.task.value? <;> simp [h]
      have hall : (d ++ .note m.now { ended := [r.task] }).ended.filterMap Task.value? =
          d.ended.filterMap Task.value? ++ r.task.outcome.output?.toList.filterMap id := by
        rw [hended, List.filterMap_append, hone, hoption]
      rw [hall, ← hvalues]
      simp only [List.filterMap_append, List.append_assoc]
    · simpa [Diary.note] using acc.pending

/-- **They are carried on by the cancellation of the parent**, which comes at the given time if it
stops the batch. -/
theorem follow {m : Moment} (acc : Account call t₀ stop tasks m.now b d left dropped)
    (hb : Kept m.now b) (rest : b.step? m = none)
    (time : b.pool.child = true → b.pool.cancelled = false → m.now = stop) :
    Account call t₀ stop tasks m.now b.parentCancelled d left dropped := by
  have hmono : b.pool.cancelled = true → b.pool.parentCancelled.cancelled = true := fun h => by
    simp [Pool.parentCancelled, h]
  refine ⟨acc.caller, acc.since, acc.past, acc.given, acc.admitted, acc.started, acc.active,
    acc.drops.imp_right fun h => ⟨h.1, h.2.1, hmono h.2.2⟩, acc.discards, fun active hwhy => ?_,
    fun h => (acc.why h).imp_left hmono, acc.values, acc.told, acc.lively, acc.pending,
    acc.answered, acc.frail⟩
  obtain ⟨-, hfree, hearly⟩ := hb.jammed_of_rest rest active
  rcases hwhy with hc | hd
  · rcases Bool.or_eq_true_iff.1 hc with hc | hchild
    · exact absurd hc (by simp [hfree])
    · exact time hchild hfree
  · exact absurd hd hearly

/-- **They are carried on by the clock**, which stops at the deadline of a pending batch. -/
theorem wait {m : Moment} (acc : Account call t₀ stop tasks m.now b d left dropped)
    (hb : Kept m.now b) (rest : b.step? m = none) {time : Nat} (later : m.now ≤ time)
    (deadline : b.pool.held = true → ∀ D, b.deadline = some D → m.now < D → D ≤ time →
      time = stop) :
    Account call t₀ stop tasks time b d left dropped := by
  refine ⟨acc.caller, Nat.le_trans acc.since later, fun y hy => Nat.le_trans (acc.past y hy) later,
    acc.given, acc.admitted, acc.started, acc.active, acc.drops, acc.discards,
    fun active hwhy => ?_, fun h => (acc.why h).imp_right fun ⟨D, hD, hle⟩ =>
      ⟨D, hD, Nat.le_trans hle later⟩, acc.values, acc.told,
    fun hheld => .inl (hb.sound.running_of_pending rest hheld), acc.pending, acc.answered,
    acc.frail⟩
  obtain ⟨hj, hfree, hearly⟩ := hb.jammed_of_rest rest active
  have hheld := hb.held_of_workers fun hw => hj.busy (Pool.workers_eq_zero_iff.1 hw).2.1
  rcases hwhy with hc | ⟨D, hD, hle⟩
  · exact absurd hc (by simp [hfree])
  · exact deadline hheld D hD (Nat.lt_of_not_le fun h => hearly ⟨D, hD, h⟩) hle

/-! ## The end -/

/-- **What the accounts come to** in a batch at rest that runs nothing any more. -/
theorem final {m : Moment} (acc : Account call t₀ stop tasks m.now b d left dropped)
    (hb : Kept m.now b) (rest : b.step? m = none) (hrun : b.pool.running = []) :
    d.admitted ++ left = tasks ∧ d.started ++ dropped = d.admitted ∧ d.ended.Perm d.started ∧
      ∃ panicked, d.answers = [(d.latestEnd t₀, call, .batch
        (if panicked then .error .discardPanic else .ok (d.ended.filterMap Task.value?)))] ∧
      (panicked = true → ∃ t ∈ left, t.frail = true) := by
  have hheld : b.pool.held = false := by
    by_contra h
    exact hb.sound.running_of_pending rest (by simpa [Batch.pending] using h) hrun
  obtain ⟨panicked, hfin, hanswers⟩ := acc.answered hheld
  obtain ⟨-, hr⟩ := hb.sound.pending.resolve_left (by simp [hheld])
  obtain ⟨hresults, hw⟩ := acc.told hr
  obtain ⟨-, -, hpublishing⟩ := Pool.workers_eq_zero_iff.1 hw
  have hahead : b.ahead = [] := by
    have hline : b.pool.submitting = [] := hb.sound.line.resolve_left (by simp [hfin])
    rw [ahead, Pool.inHand, hline, (hb.sound.finished ⟨_, hfin⟩).2]
    rfl
  have hgiven := acc.given
  have hadmitted := acc.admitted
  have hstarted := acc.started
  have hvalues := acc.values
  rw [hahead, List.append_nil] at hgiven
  rw [hb.sound.pool.queue_of_gone hw, List.append_nil] at hadmitted
  rw [Pool.underway, hrun, List.map_nil, List.nil_append] at hstarted
  rw [hresults, hpublishing, List.append_nil, List.filterMap_nil, List.append_nil] at hvalues
  rw [← hvalues]
  exact ⟨hgiven, hadmitted, hstarted, panicked, hanswers, fun h => acc.frail (h ▸ hfin)⟩

end Account

end Batch

end Workforce
