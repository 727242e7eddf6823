import Workforce.Proofs.Batch.Turn
/-!
# Punctual batches

A batch whose tasks have known running times follows the plan, provided that its tasks end when they
are due and that its parent does not stop it. In every state the times at which its workers become
free are those of the plan, as long as a task may still come to them.

## Main definitions

* `Workforce.Batch.OnTime` — a turn comes when it is due.
* `Workforce.Batch.Punctual` — what was started and what has ended follows the plan.

## Main results

* `Workforce.Batch.Punctual.advance`, `Punctual.apply` — moves, and turns that are on time, follow
  the plan.
* `Workforce.Batch.Punctual.final` — what has happened when nothing runs any more.
-/

namespace Workforce

open Schedule

variable {α : Type}

/-- When the task on a worker ends, with the task. -/
def Run.ending (r : Run α) : Nat × Task α := (r.due.getD 0, r.task)

/-- The run of a task of known running time ends after that time. -/
lemma Run.start_due (now : Nat) {t : Task α} (ht : t.duration.isSome) :
    (Run.start now t).due = some (now + t.length) := by
  obtain ⟨n, hn⟩ := Option.isSome_iff_exists.1 ht
  simp [Run.start, Task.length, hn]

/-- The worker that becomes free first, and one that is free now, may change places. -/
lemma Schedule.occupy_perm {free busy : List Nat} {now n : Nat} {t : Task α}
    (hperm : free.Perm (busy ++ List.replicate (n + 1) now)) (hle : ∀ x ∈ busy, now ≤ x) :
    earliest free = now ∧
      (occupy free t).Perm (busy ++ [now + t.length] ++ List.replicate n now) := by
  have hmem : now ∈ free := hperm.symm.subset (by simp)
  have hall : ∀ x ∈ free, now ≤ x := by
    intro x hx
    rcases List.mem_append.1 (hperm.subset hx) with hx | hx
    · exact hle x hx
    · exact Nat.le_of_eq (List.eq_of_mem_replicate hx).symm
  have hearliest := earliest_eq hmem hall
  refine ⟨hearliest, ?_⟩
  -- the erased entry is one of those that are free now
  have hcons : (busy ++ List.replicate (n + 1) now).Perm
      (now :: (busy ++ List.replicate n now)) := List.perm_middle
  have herase : (free.erase now).Perm (busy ++ List.replicate n now) := by
    simpa using (hperm.trans hcons).erase now
  rw [occupy, hearliest, List.append_assoc]
  exact (herase.cons _).trans List.perm_middle.symm

namespace Batch

variable {b c : Batch α} {now call t₀ stop m : Nat} {tasks left dropped l r : List (Task α)}
  {d : Diary α} {x : Gist α}

/-! ## Turns on time -/

/-- A turn comes when it is due: of the tasks that are due the first one ends, and the clock stops
at every end and at the deadline. -/
def OnTime (now : Nat) (b : Batch α) : Turn → Prop
  | .finish name => ∀ r ∈ b.pool.running, r.task.id = name → r.isDue now = true ∧
      ∀ r' ∈ b.pool.running, r'.isDue now = true → r.endsBefore r' = true
  | .wait time => now ≤ time ∧ (∀ r ∈ b.pool.running, ∀ x, r.due = some x → time ≤ x) ∧
      ∀ D, b.deadlineAhead? now = some D → time ≤ D
  | _ => True

/-! ## Following the plan -/

/-- What was started on `m` workers and what has ended follows the plan. -/
structure Punctual (t₀ m now : Nat) (b : Batch α) (d : Diary α) : Prop where
  alone : b.pool.child = false
  starts : d.starts = (greedy (List.replicate m t₀) d.started).map Slot.opening
  /-- As long as a task may come, the workers are free when the plan says. -/
  workers : b.pool.queue ≠ [] ∨ b.submitter = .active →
    (d.started.foldl occupy (List.replicate m t₀)).Perm
      (b.pool.running.map (·.ending.1) ++
        List.replicate (b.pool.idle + b.pool.publishing.length) now)
  dues : ∀ r ∈ b.pool.running, ∃ time, r.due = some time ∧ now ≤ time
  /-- What runs ends when the plan says, and so did what has ended. -/
  slots : (b.pool.running.map Run.ending ++ d.ends).Perm
    ((greedy (List.replicate m t₀) d.started).map Slot.ending)
  sorted : d.ends.Pairwise fun y z => sooner y z = true
  ahead : ∀ y ∈ d.ends, ∀ r ∈ b.pool.running, sooner y r.ending = true

namespace Punctual

/-- At the start nothing is planned yet. -/
lemma initial {hn : 0 < m} {admission : Admission} {parentCancelled : Bool}
    (hadmission : admission.followsParent = false) :
    Punctual now m now (Batch.initial now call m hn tasks admission parentCancelled) {} where
  alone := hadmission
  starts := rfl
  workers _ := .refl _
  dues r hr := by cases hr
  slots := .refl _
  sorted := .nil
  ahead y hy := by cases hy

/-- A run ends no earlier than now. -/
lemma le_ending (h : Punctual t₀ m now b d) {r : Run α} (hr : r ∈ b.pool.running) :
    now ≤ r.ending.1 := by
  obtain ⟨time, hdue, hle⟩ := h.dues r hr
  simpa [Run.ending, hdue] using hle

/-- What has ended was given before what is in the queue. -/
lemma before_of_queue (acc : Account call t₀ stop tasks now b d left dropped)
    (ordered : tasks.Pairwise fun t u => t.id.before u.id = true) {y : Nat × Task α}
    (hy : y ∈ d.ends) {t : Task α} {rest : List (Task α)} (queue : b.pool.queue = t :: rest) :
    y.2.id.before t.id = true := by
  have hstarted : y.2 ∈ d.started :=
    acc.started.subset (List.mem_append_right _ (List.mem_map_of_mem hy))
  have hgiven := acc.given
  rw [← acc.admitted, queue, List.append_assoc, List.append_assoc, List.append_assoc] at hgiven
  rw [← hgiven] at ordered
  exact (List.pairwise_append.1 ordered).2.2 _ hstarted _ (by simp)

/-- The tasks of the queue are tasks of the batch. -/
lemma mem_of_queue (acc : Account call t₀ stop tasks now b d left dropped) {t : Task α}
    (ht : t ∈ b.pool.queue) : t ∈ tasks := by
  rw [← acc.given, ← acc.admitted]
  simp [ht]

/-! ## Moves -/

/-- Moves that start nothing change neither the plan nor what runs. -/
lemma other (h : Punctual t₀ m now b d) (step : Advance now b x l r c) (started : x.started = [])
    (child : c.pool.child = b.pool.child) (running : c.pool.running = b.pool.running)
    (workers : c.pool.queue ≠ [] ∨ c.submitter = .active →
      (b.pool.queue ≠ [] ∨ b.submitter = .active) ∧
        c.pool.idle + c.pool.publishing.length = b.pool.idle + b.pool.publishing.length) :
    Punctual t₀ m now c (d ++ .note now x) := by
  have hends := Account.ends_advance d step
  have hstarts : (d ++ .note now x).starts = d.starts := by simp [Diary.note, started]
  have hsame : (d ++ .note now x).started = d.started := by
    rw [Diary.started, hstarts, Diary.started]
  refine ⟨child.trans h.alone, ?_, fun hopen => ?_, ?_, ?_, ?_, ?_⟩
  · rw [hstarts, hsame]
    exact h.starts
  · obtain ⟨hold, hcount⟩ := workers hopen
    rw [hsame, running, hcount]
    exact h.workers hold
  · rw [running]
    exact h.dues
  · rw [hsame, running, hends]
    exact h.slots
  · rw [hends]
    exact h.sorted
  · rw [hends, running]
    exact h.ahead

/-- The plan gives a task that is taken to a worker that is free now. -/
lemma take (h : Punctual t₀ m now b d)
    (acc : Account call t₀ stop tasks now b d left dropped)
    (ordered : tasks.Pairwise fun t u => t.id.before u.id = true) {n : Nat} {t : Task α}
    {rest : List (Task α)} (timed : t.duration.isSome) (active : b.pool.cancelled = false)
    (idle : b.pool.idle = n + 1) (queue : b.pool.queue = t :: rest) :
    Punctual t₀ m now { b with pool := { b.pool with
        idle := n, queue := rest, running := b.pool.running ++ [Run.start now t] } }
      (d ++ .note now { started := [t] }) := by
  have hends := Account.ends_advance d (.take active idle queue : Advance now b _ _ _ _)
  have hdue := Run.start_due now timed
  have hending : (Run.start now t).ending = (now + t.length, t) := by
    rw [Run.ending, hdue]
    rfl
  have hbusy : ∀ y ∈ b.pool.running.map (·.ending.1), now ≤ y := by
    intro y hy
    obtain ⟨r, hr, rfl⟩ := List.mem_map.1 hy
    exact h.le_ending hr
  have hworkers := h.workers (.inl (by simp [queue]))
  rw [idle, Nat.add_right_comm] at hworkers
  obtain ⟨hearliest, hoccupy⟩ := occupy_perm (t := t) hworkers hbusy
  have hstarted : (d ++ .note now { started := [t] }).started = d.started ++ [t] := by
    simp [Diary.started, Diary.note]
  have hplan : greedy (List.replicate m t₀) (d ++ .note now { started := [t] }).started =
      greedy (List.replicate m t₀) d.started ++ [⟨now, t⟩] := by
    rw [hstarted, greedy_concat, hearliest]
  refine ⟨h.alone, ?_, fun _ => ?_, ?_, ?_, ?_, ?_⟩
  · rw [hplan, List.map_append, ← h.starts]
    rfl
  · rw [hstarted, List.foldl_concat, List.map_append, List.map_singleton, hending]
    exact hoccupy
  · intro r hr
    rcases List.mem_append.1 hr with hr | hr
    · exact h.dues r hr
    · rw [List.mem_singleton.1 hr]
      exact ⟨_, hdue, Nat.le_add_right _ _⟩
  · rw [hplan, hends, List.map_append, List.map_append, List.map_singleton, hending,
      List.append_assoc]
    refine (List.perm_append_comm.append_left _).trans ?_
    rw [← List.append_assoc]
    exact h.slots.append_right _
  · rw [hends]
    exact h.sorted
  · intro y hy r hr
    rw [hends] at hy
    rcases List.mem_append.1 hr with hr | hr
    · exact h.ahead y hy r hr
    · rw [List.mem_singleton.1 hr, hending, sooner_iff]
      have hpast := acc.past y hy
      have hbefore := before_of_queue acc ordered hy queue
      rcases Nat.lt_or_ge y.1 (now + t.length) with hlt | hge
      · exact .inl hlt
      · exact .inr ⟨by dsimp only; omega, hbefore⟩

/-- **Moves follow the plan.** -/
theorem advance (h : Punctual t₀ m now b d) (hb : Kept now b)
    (acc : Account call t₀ stop tasks now b d left dropped)
    (ordered : tasks.Pairwise fun t u => t.id.before u.id = true)
    (timed : ∀ t ∈ tasks, t.duration.isSome) (step : Advance now b x l r c) :
    Punctual t₀ m now c (d ++ .note now x) := by
  have hfree := hb.free_of_alone h.alone
  -- no worker exits while a task may come
  have exits : (b.pool.cancelled = true ∨ b.pool.queue = [] ∧ b.Finished) →
      ¬(b.pool.queue ≠ [] ∨ b.submitter = .active) := by
    rintro (hc | ⟨hq, hfin⟩) hopen
    · simp [hfree] at hc
    · exact hopen.elim (absurd hq) hfin.not_active
  have hstep := h.other step
  cases step with
  | take active idle queue =>
    exact h.take acc ordered (timed _ (mem_of_queue acc (by simp [queue]))) active idle queue
  | exit idle others why => exact hstep rfl rfl rfl fun hopen => (exits why hopen).elim
  | last idle running publishing why =>
    refine hstep rfl rfl rfl fun hopen => (exits why ?_).elim
    exact hopen.imp_left fun hnil => absurd rfl hnil
  | enter active | hand active | halt active => exact hstep rfl rfl rfl fun _ => ⟨.inr active, rfl⟩
  | publish publishing =>
    refine hstep rfl rfl rfl fun hopen => ⟨hopen, ?_⟩
    rw [publishing, List.length_cons]
    dsimp only
    omega
  | conclude | deliver | tell => exact hstep rfl rfl rfl fun hopen => ⟨hopen, rfl⟩

/-! ## Turns -/

/-- While a task may come to the workers of a batch at rest, all of them are busy. -/
lemma busy_of_open (hb : Calm now b)
    (hopen : b.pool.queue ≠ [] ∨ b.submitter = .active) :
    b.pool.idle = 0 ∧ b.pool.publishing = [] := by
  rcases hopen with hq | active
  · have hresting : b.pool.Resting := resting_of_step? hb.rest
    have hw : b.pool.workers ≠ 0 := fun hw => hq (hb.kept.sound.pool.queue_of_gone hw)
    have hreceiving : b.pool.receiving ≠ [] := hb.kept.receiving_of_workers hw
    refine ⟨hresting.idle_cases.resolve_right fun h => hq h.1, ?_⟩
    exact (hresting.empty_of_receiving hreceiving).2.1
  · have hj := (hb.kept.jammed_of_rest (m := ⟨now, true⟩) hb.rest active).1
    exact ⟨hj.idle, hj.publishing⟩

/-- The end of the first task that is due follows the plan. -/
lemma finish (h : Punctual t₀ m now b d) (name : TaskId) (onTime : OnTime now b (.finish name)) :
    Punctual t₀ m now (b.finish name).1 (d ++ .note now (gist (b.finish name).2)) := by
  have hfinish : b.finish name =
      ({ b with pool := (b.pool.finish name).1 }, (b.pool.finish name).2) := rfl
  rcases Pool.finish_cases name b.pool with ⟨hnone, -⟩ |
    ⟨before, r, after, hrun, hid, hgist, hpool⟩
  · rw [hfinish, hnone]
    simpa using h
  · obtain ⟨hdue, hfirst⟩ := onTime r (by simp [hrun]) hid
    -- the task ends now
    obtain ⟨time, htime, hle⟩ := h.dues r (by simp [hrun])
    have hnow : r.due = some now := by
      simp only [Run.isDue, htime, Option.any_some, decide_eq_true_eq] at hdue
      rw [htime, Nat.le_antisymm hdue hle]
    have hending : r.ending = (now, r.task) := by rw [Run.ending, hnow]; rfl
    have hsub : ∀ s ∈ before ++ after, s ∈ b.pool.running := by
      intro s hs
      rw [hrun]
      rcases List.mem_append.1 hs with hs | hs <;> simp [hs]
    have hends : (d ++ .note now { ended := [r.task] }).ends = d.ends ++ [r.ending] := by
      rw [hending]
      rfl
    have hstarted : (d ++ .note now { ended := [r.task] }).started = d.started := by
      simp [Diary.started, Diary.note]
    rw [hfinish, hpool]
    dsimp only
    rw [hgist]
    refine ⟨h.alone, ?_, fun hopen => ?_, fun s hs => h.dues s (hsub s hs), ?_, ?_, ?_⟩
    · rw [hstarted]
      exact (List.append_nil _).trans h.starts
    · -- its worker publishes now or is idle
      have hcount : (b.pool.idle + if r.task.outcome.output?.isNone then 1 else 0) +
          (b.pool.publishing ++ r.task.outcome.output?.toList).length =
            b.pool.idle + b.pool.publishing.length + 1 := by
        cases r.task.outcome.output? <;> simp <;> omega
      have hworkers := h.workers hopen
      rw [hrun, List.map_append, List.map_cons, hending] at hworkers
      rw [hstarted]
      show List.Perm _ ((before ++ after).map _ ++ List.replicate
        ((b.pool.idle + if r.task.outcome.output?.isNone then 1 else 0) +
          (b.pool.publishing ++ r.task.outcome.output?.toList).length) now)
      rw [hcount, List.map_append]
      refine hworkers.trans ?_
      refine (List.perm_middle.append_right _).trans ?_
      exact List.perm_middle.symm
    · have hslots := h.slots
      rw [hrun, List.map_append, List.map_cons] at hslots
      rw [hstarted, hends]
      show List.Perm ((before ++ after).map _ ++ _) _
      refine List.Perm.trans ?_ hslots
      rw [List.map_append, ← List.append_assoc]
      refine (List.perm_append_singleton _ _).trans ?_
      exact ((List.perm_middle.append_right d.ends).symm)
    · rw [hends, List.pairwise_append]
      refine ⟨h.sorted, List.pairwise_singleton _ _, fun y hy z hz => ?_⟩
      rw [List.mem_singleton.1 hz]
      exact h.ahead y hy r (by simp [hrun])
    · intro y hy s hs
      rw [hends] at hy
      rcases List.mem_append.1 hy with hy | hy
      · exact h.ahead y hy s (hsub s hs)
      · obtain ⟨later, hlater, hnowle⟩ := h.dues s (hsub s hs)
        have hs' : s.ending = (later, s.task) := by rw [Run.ending, hlater]; rfl
        rw [List.mem_singleton.1 hy, hending, hs', sooner_iff]
        rcases Nat.lt_or_eq_of_le hnowle with hlt | heq
        · exact .inl hlt
        · subst heq
          have hdue' : s.isDue now = true := by simp [Run.isDue, hlater]
          have hbefore := hfirst s (hsub s hs) hdue'
          simp only [Run.endsBefore, hnow, hlater] at hbefore
          exact .inr ⟨rfl, by simpa using hbefore⟩

/-- The clock follows the plan. -/
lemma wait (h : Punctual t₀ m now b d) (hb : Calm now b) {time : Nat}
    (onTime : OnTime now b (.wait time)) : Punctual t₀ m time b d := by
  obtain ⟨-, hends, -⟩ := onTime
  refine ⟨h.alone, h.starts, fun hopen => ?_, fun r hr => ?_, h.slots, h.sorted, h.ahead⟩
  · obtain ⟨hidle, hpublishing⟩ := busy_of_open hb hopen
    have hworkers := h.workers hopen
    rw [hidle, hpublishing] at hworkers ⊢
    exact hworkers
  · obtain ⟨due, hdue, -⟩ := h.dues r hr
    exact ⟨due, hdue, hends r hr due hdue⟩

/-- **What happens on time follows the plan.** -/
theorem apply (h : Punctual t₀ m now b d) (hb : Calm now b) (y : Turn) (onTime : OnTime now b y) :
    Punctual t₀ m (y.time now) (y.apply b).1 (d ++ .note (y.time now) (gist (y.apply b).2)) := by
  cases y with
  | elsewhere => simpa [Turn.apply, Turn.time] using h
  | finish name => exact h.finish name onTime
  | follow => simpa [Turn.apply, Turn.time] using
      (⟨h.alone, h.starts, h.workers, h.dues, h.slots, h.sorted, h.ahead⟩ :
        Punctual t₀ m now b.parentCancelled d)
  | wait time => simpa [Turn.apply, Turn.time] using h.wait hb onTime

/-! ## The end -/

/-- **What has happened when nothing runs any more**: the tasks that were started were started and
have ended as planned. -/
theorem final (h : Punctual t₀ m now b d) (hrun : b.pool.running = [])
    (nodup : (d.started.map Task.id).Nodup) :
    d.ends = ((greedy (List.replicate m t₀) d.started).map Slot.ending).mergeSort sooner := by
  have hslots := h.slots
  rw [hrun, List.map_nil, List.nil_append] at hslots
  refine eq_mergeSort hslots h.sorted ?_
  rw [List.map_map]
  have hids : (fun y : Nat × Task α => y.2.id) ∘ Slot.ending = Task.id ∘ Slot.task := rfl
  rw [hids, ← List.map_map, map_task_greedy]
  exact nodup

end Punctual

end Batch

end Workforce
