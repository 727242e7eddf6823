import Workforce.Proofs.Batch.Turn
/-!
# Prompt batches

A batch that its parent does not stop admits a task whenever there is a place for it, until the
deadline. The queue has two places for each worker, and every start of a task makes room for one
more.

## Main definitions

* `Workforce.Batch.places` — the times at which there is a place for one more task.
* `Workforce.Batch.Prompt` — tasks were admitted at these times, and none after the deadline.

## Main results

* `Workforce.Batch.Prompt.advance`, `Prompt.apply` — moves and turns keep a batch prompt.
-/

namespace Workforce.Batch

variable {α : Type} {b c : Batch α} {now call t₀ stop m : Nat}
  {tasks left dropped l r : List (Task α)} {d : Diary α} {x : Gist α}

/-- The times at which there is a place for one more task, if the queue of `m` workers is empty at
first. -/
def places (t₀ m : Nat) (d : Diary α) : List Nat :=
  List.replicate (2 * m) t₀ ++ d.starts.map Prod.fst

/-- Tasks were admitted whenever there was a place, until the deadline. -/
structure Prompt (t₀ m now : Nat) (b : Batch α) (d : Diary α) (left : List (Task α)) : Prop where
  alone : b.pool.child = false
  size : b.pool.size = m
  admissions : d.admissions.map Prod.fst = (places t₀ m d).take d.admissions.length
  /-- A place that has not been taken is there only just now. -/
  fresh : b.submitter = .active → ∀ time ∈ (places t₀ m d).drop d.admissions.length, time = now
  early : ∀ D, b.deadline = some D → ∀ y ∈ d.admissions, y.1 < D
  /-- If tasks are left, no place has come before the deadline that was not taken. -/
  late : left ≠ [] → ∃ D, b.deadline = some D ∧
    ∀ time ∈ (places t₀ m d).drop d.admissions.length, D ≤ time

namespace Prompt

/-- At the start all places are there. -/
lemma initial {hn : 0 < m} {admission : Admission} {parentCancelled : Bool}
    (hadmission : admission.followsParent = false) :
    Prompt now m now (Batch.initial now call m hn tasks admission parentCancelled) {} [] where
  alone := hadmission
  size := rfl
  admissions := rfl
  fresh _ time htime := by
    have hmem : time ∈ List.replicate (2 * m) now := by simpa [places] using htime
    exact List.eq_of_mem_replicate hmem
  early D _ y hy := by cases hy
  late h := absurd rfl h

/-- What was admitted was started or is in the queue. -/
lemma length_admissions (h : Prompt t₀ m now b d left) (hb : Kept now b)
    (acc : Account call t₀ stop tasks now b d left dropped) :
    d.admissions.length = d.starts.length + b.pool.queue.length := by
  have hdropped : dropped = [] :=
    acc.drops.resolve_right fun hd => by simp [hb.free_of_alone h.alone] at hd
  have hadmitted := congrArg List.length acc.admitted
  simp only [hdropped, List.append_nil, List.length_append, Diary.started, Diary.admitted,
    List.length_map] at hadmitted
  exact hadmitted.symm

/-- No more tasks were admitted than there were places. -/
lemma length_le (h : Prompt t₀ m now b d left) (hb : Kept now b)
    (acc : Account call t₀ stop tasks now b d left dropped) :
    d.admissions.length ≤ (places t₀ m d).length := by
  have hlen := h.length_admissions hb acc
  have hqueue := hb.sound.pool.queue_le
  rw [Pool.capacity, h.size] at hqueue
  rw [places, List.length_append, List.length_replicate, List.length_map]
  omega

/-- If tasks are left the deadline has been reached. -/
lemma due_of_left (h : Prompt t₀ m now b d left) (hb : Kept now b)
    (acc : Account call t₀ stop tasks now b d left dropped) (hleft : left ≠ []) : b.Due now :=
  (acc.why hleft).resolve_left (by simp [hb.free_of_alone h.alone])

/-- Nothing is admitted at the deadline or later. -/
lemma early_of_enter (hb : Kept now b) {s : Submission α} (active : b.submitter = .active)
    (line : b.pool.submitting = [s]) (room : b.pool.queue.length < b.pool.capacity) {D : Nat}
    (hD : b.deadline = some D) : now < D := by
  by_contra hle
  rcases hb.blocked active (.inr ⟨D, hD, by omega⟩) with hu | hj
  · exact absurd hu.line (by simp [line])
  · have := hj.full
    omega

/-- What happens at other places than the door keeps a batch prompt. -/
lemma other {x : Gist α} (h : Prompt t₀ m now b d left) (child : c.pool.child = b.pool.child)
    (size : c.pool.size = b.pool.size) (submitter : c.submitter = b.submitter)
    (deadline : c.deadline = b.deadline) (admitted : x.admitted = []) (started : x.started = []) :
    Prompt t₀ m now c (d ++ .note now x) left := by
  have hadmissions : (d ++ .note now x).admissions = d.admissions := by
    simp [Diary.note, admitted]
  have hplaces : places t₀ m (d ++ .note now x) = places t₀ m d := by
    simp [places, Diary.note, started]
  exact ⟨child.trans h.alone, size.trans h.size, by rw [hadmissions, hplaces]; exact h.admissions,
    by rw [hadmissions, hplaces, submitter]; exact h.fresh,
    by rw [hadmissions, deadline]; exact h.early,
    by rw [hadmissions, hplaces, deadline]; exact h.late⟩

/-- Every task that is started makes one more place. -/
lemma take (h : Prompt t₀ m now b d left) (hb : Kept now b)
    (acc : Account call t₀ stop tasks now b d left dropped) (t : Task α)
    (child : c.pool.child = b.pool.child) (size : c.pool.size = b.pool.size)
    (submitter : c.submitter = b.submitter) (deadline : c.deadline = b.deadline) :
    Prompt t₀ m now c (d ++ .note now { started := [t] }) left := by
  have hlen := h.length_le hb acc
  have hadmissions : (d ++ .note now { started := [t] }).admissions = d.admissions := by
    simp [Diary.note]
  have hplaces : places t₀ m (d ++ .note now { started := [t] }) = places t₀ m d ++ [now] := by
    simp [places, Diary.note]
  refine ⟨child.trans h.alone, size.trans h.size, ?_, fun hactive => ?_, ?_, fun hleft => ?_⟩
  · rw [hadmissions, hplaces, List.take_append_of_le_length hlen]
    exact h.admissions
  · rw [submitter] at hactive
    rw [hadmissions, hplaces, List.drop_append_of_le_length hlen]
    exact List.forall_mem_append.2 ⟨h.fresh hactive, by simp⟩
  · rw [hadmissions, deadline]
    exact h.early
  · obtain ⟨D, hD, hlate⟩ := h.late hleft
    obtain ⟨D', hD', hle⟩ := h.due_of_left hb acc hleft
    cases hD.symm.trans hD'
    refine ⟨D, deadline.trans hD, ?_⟩
    rw [hadmissions, hplaces, List.drop_append_of_le_length hlen]
    exact List.forall_mem_append.2 ⟨hlate, by simpa using hle⟩

/-- A task that is admitted takes the first place that is there. -/
lemma enter (h : Prompt t₀ m now b d left) (hb : Kept now b)
    (acc : Account call t₀ stop tasks now b d left dropped) {s : Submission α}
    (active : b.submitter = .active) (line : b.pool.submitting = [s])
    (room : b.pool.queue.length < b.pool.capacity) (child : c.pool.child = b.pool.child)
    (size : c.pool.size = b.pool.size) (deadline : c.deadline = b.deadline) :
    Prompt t₀ m now c (d ++ .note now { admitted := [s.task] }) left := by
  have hplaces : places t₀ m (d ++ .note now { admitted := [s.task] }) = places t₀ m d := by
    simp [places, Diary.note]
  have hadmissions : (d ++ .note now { admitted := [s.task] }).admissions =
      d.admissions ++ [(now, s.task)] := rfl
  have hlt : d.admissions.length < (places t₀ m d).length := by
    have hlen := h.length_admissions hb acc
    rw [Pool.capacity, h.size] at room
    rw [places, List.length_append, List.length_replicate, List.length_map]
    omega
  have hdrop := List.drop_eq_getElem_cons hlt
  have hnow := h.fresh active _ (hdrop ▸ List.mem_cons_self)
  refine ⟨child.trans h.alone, size.trans h.size, ?_, fun _ time htime => ?_,
    fun D hD y hy => ?_, fun hleft => absurd (acc.active active).1 hleft⟩
  · rw [hadmissions, hplaces, List.map_append, h.admissions, List.length_append,
      List.length_singleton, List.take_add_one, List.getElem?_eq_getElem hlt, hnow]
    rfl
  · rw [hadmissions, hplaces, List.length_append, List.length_singleton] at htime
    exact h.fresh active time (hdrop ▸ List.mem_cons_of_mem _ htime)
  · rw [deadline] at hD
    rcases List.mem_append.1 hy with hy | hy
    · exact h.early D hD y hy
    · rw [List.mem_singleton.1 hy]
      exact early_of_enter hb active line room hD

/-- A submitter that stops with tasks left is stopped by the deadline. -/
lemma halt (h : Prompt t₀ m now b d []) (hb : Kept now b) (active : b.submitter = .active)
    (why : b.ahead = [] ∨ b.Due now ∨ b.pool.cancelled = true) (inactive : c.submitter ≠ .active)
    (child : c.pool.child = b.pool.child) (size : c.pool.size = b.pool.size)
    (deadline : c.deadline = b.deadline) :
    Prompt t₀ m now c (d ++ .note now { discarded := b.ahead }) b.ahead := by
  have hplaces : places t₀ m (d ++ .note now { discarded := b.ahead }) = places t₀ m d := by
    simp [places, Diary.note]
  have hadmissions : (d ++ .note now { discarded := b.ahead }).admissions = d.admissions := by
    simp [Diary.note]
  refine ⟨child.trans h.alone, size.trans h.size, ?_, (absurd · inactive), ?_, fun hleft => ?_⟩
  · rw [hadmissions, hplaces]
    exact h.admissions
  · rw [hadmissions, deadline]
    exact h.early
  · obtain ⟨D, hD, hle⟩ : b.Due now :=
      (why.resolve_left hleft).resolve_right (by simp [hb.free_of_alone h.alone])
    refine ⟨D, deadline.trans hD, fun time htime => ?_⟩
    rw [hadmissions, hplaces] at htime
    rw [h.fresh active time htime]
    exact hle

/-- **Moves keep a batch prompt.** -/
theorem advance (h : Prompt t₀ m now b d left) (hb : Kept now b)
    (acc : Account call t₀ stop tasks now b d left dropped) (step : Advance now b x l r c) :
    Prompt t₀ m now c (d ++ .note now x) (left ++ l) := by
  cases step with
  | @take n t =>
    rw [List.append_nil]
    exact h.take hb acc t rfl rfl rfl rfl
  | enter active line room =>
    rw [List.append_nil]
    exact h.enter hb acc active line room rfl rfl rfl
  | halt active why =>
    obtain ⟨rfl, -⟩ := acc.active active
    exact h.halt hb active why (by simp) rfl rfl rfl
  | _ =>
    rw [List.append_nil]
    exact h.other rfl rfl rfl rfl rfl rfl

/-- **Turns keep a batch prompt.** -/
theorem apply (h : Prompt t₀ m now b d left) (hb : Calm now b)
    (acc : Account call t₀ stop tasks now b d left dropped) (y : Turn) :
    Prompt t₀ m (y.time now) (y.apply b).1 (d ++ .note (y.time now) (gist (y.apply b).2)) left := by
  cases y with
  | elsewhere => exact h.other rfl rfl rfl rfl rfl rfl
  | finish name =>
    have hfinish : b.finish name =
        ({ b with pool := (b.pool.finish name).1 }, (b.pool.finish name).2) := rfl
    rcases Pool.finish_cases name b.pool with ⟨hnone, -⟩ | ⟨before, r, after, -, -, hgist, hpool⟩
    · rw [Turn.apply, hfinish, hnone]
      exact h.other rfl rfl rfl rfl rfl rfl
    · rw [Turn.apply, hfinish, hpool]
      exact h.other rfl rfl rfl rfl (by rw [hgist]) (by rw [hgist])
  | follow => exact h.other rfl rfl rfl rfl rfl rfl
  | wait time =>
    show Prompt t₀ m time b (d ++ .note time {}) left
    rw [Diary.note_empty, Diary.append_empty]
    refine ⟨h.alone, h.size, h.admissions, fun active => ?_, h.early, h.late⟩
    -- no place is left
    have hfull := (hb.kept.jammed_of_rest (m := ⟨now, true⟩) hb.rest active).1.full
    have hlen := h.length_admissions hb.kept acc
    rw [Pool.capacity, h.size] at hfull
    have hnone : (places t₀ m d).drop d.admissions.length = [] := by
      rw [List.drop_eq_nil_iff, places, List.length_append, List.length_replicate, List.length_map]
      omega
    simp [hnone]

end Prompt

end Workforce.Batch
