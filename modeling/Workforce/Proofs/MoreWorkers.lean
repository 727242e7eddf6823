import Mathlib.Algebra.GroupWithZero.Nat
import Mathlib.Data.List.Forall2
import Workforce.Proofs.Timeout
/-!
# More workers never hurt

Greedy list scheduling has anomalies when tasks wait for each other; here they do not. On a pool
that is larger no task of a batch starts later, and none is left by a timeout that the smaller pool
admits. A pool larger than the batch changes nothing at all.

The reason is an invariant of the plan: as tasks are placed one after the other, at every time at
least as many of the workers of the larger pool are free. Counting workers is what makes the
invariant easy to keep, since the worker that is taken is the first one to be free in either plan.

## Main definitions

* `Workforce.Schedule.Dominates` — at every time at least as many workers are free.
* `Workforce.Diary.Ahead` — in one diary every task starts and ends no later than in another one.

## Main results

* `Workforce.Schedule.Dominates.occupy` — placing a task keeps more workers free.
* `Workforce.Schedule.Dominates.greedy` — with more workers no slot begins later.
* `Workforce.Batch.Completed.admitted_prefix` — with more workers no fewer tasks are admitted.
* `Workforce.Stage.Steps.more_workers_never_hurt` — batches on pools of different sizes.
-/

namespace Workforce

variable {α : Type}

namespace Schedule

/-! ## More workers are free -/

/-- At every time at least as many workers of the second plan are free as of the first. -/
def Dominates (free free' : List Nat) : Prop :=
  ∀ time, free.countP (· ≤ time) ≤ free'.countP (· ≤ time)

variable {free free' : List Nat} {t : Task α} {ts : List (Task α)} {t₀ m m' : Nat}

/-- When workers are free, with one that is the first to be. -/
lemma countP_erase_earliest (hne : free ≠ []) (time : Nat) :
    free.countP (· ≤ time) =
      (free.erase (earliest free)).countP (· ≤ time) + if earliest free ≤ time then 1 else 0 := by
  rw [(List.perm_cons_erase (earliest_mem hne)).countP_eq, List.countP_cons]
  simp only [decide_eq_true_eq]

/-- No worker is free before the first one is. -/
lemma countP_eq_zero_of_lt_earliest {time : Nat} (h : time < earliest free) :
    free.countP (· ≤ time) = 0 := by
  rw [List.countP_eq_zero]
  intro x hx
  have := earliest_le hx
  simp only [decide_eq_true_eq]
  omega

namespace Dominates

/-- There are workers where there are more. -/
lemma ne_nil (h : Dominates free free') (hne : free ≠ []) : free' ≠ [] := by
  rintro rfl
  have hpos : 0 < free.countP (· ≤ earliest free) :=
    List.countP_pos_iff.2 ⟨_, earliest_mem hne, by simp⟩
  exact absurd (h (earliest free)) (Nat.not_le.2 hpos)

/-- Where more workers are free, one is free no later. -/
lemma earliest_le (h : Dominates free free') (hne : free ≠ []) :
    earliest free' ≤ earliest free := by
  have hpos : 0 < free.countP (· ≤ earliest free) :=
    List.countP_pos_iff.2 ⟨_, earliest_mem hne, by simp⟩
  obtain ⟨x, hx, hle⟩ := List.countP_pos_iff.1 (Nat.lt_of_lt_of_le hpos (h _))
  exact Nat.le_trans (Schedule.earliest_le hx) (of_decide_eq_true hle)

/-- **Placing a task keeps more workers free.** -/
lemma occupy (h : Dominates free free') (hne : free ≠ []) (t : Task α) :
    Dominates (occupy free t) (occupy free' t) := by
  intro time
  have hle := h.earliest_le hne
  have hcount := countP_erase_earliest hne time
  have hcount' := countP_erase_earliest (h.ne_nil hne) time
  have htime := h time
  rw [Schedule.occupy, Schedule.occupy, List.countP_cons, List.countP_cons]
  simp only [decide_eq_true_eq]
  by_cases hreached : earliest free ≤ time
  · -- either plan loses a worker that was free, and gets it back in the second one no later
    split_ifs at * <;> omega
  · -- in the first plan no worker is free yet
    have hzero := countP_eq_zero_of_lt_earliest (Nat.not_le.1 hreached)
    split_ifs at * <;> omega

/-- **With more workers no slot begins later.** -/
theorem greedy (h : Dominates free free') (hne : free ≠ []) (ts : List (Task α)) :
    List.Forall₂ (fun s s' : Slot α => s'.task = s.task ∧ s'.start ≤ s.start)
      (greedy free ts) (greedy free' ts) := by
  induction ts generalizing free free' with
  | nil => exact .nil
  | cons t ts ih =>
    exact .cons ⟨rfl, h.earliest_le hne⟩ (ih (h.occupy hne t) (List.cons_ne_nil _ _))

end Dominates

/-- There is a worker. -/
lemma replicate_ne_nil (hm : 0 < m) : List.replicate m t₀ ≠ [] := by
  rw [ne_eq, List.replicate_eq_nil_iff]
  omega

/-- More workers are free if all are free at the same time. -/
lemma dominates_replicate (hle : m ≤ m') (t₀ : Nat) :
    Dominates (List.replicate m t₀) (List.replicate m' t₀) := by
  intro time
  rw [List.countP_replicate, List.countP_replicate]
  split_ifs
  · exact hle
  · exact Nat.le_refl 0

/-- With more workers the slot at an index begins no later; it is one of the same task. -/
lemma exists_slot_at (hm : 0 < m) (hle : m ≤ m') {k : Nat} {s' : Slot α}
    (hs' : (greedy (List.replicate m' t₀) ts)[k]? = some s') :
    ∃ s, (greedy (List.replicate m t₀) ts)[k]? = some s ∧
      s'.task = s.task ∧ s'.start ≤ s.start := by
  have hslots := (dominates_replicate hle t₀).greedy (replicate_ne_nil hm) ts
  obtain ⟨hk', rfl⟩ := List.getElem?_eq_some_iff.1 hs'
  have hk := hslots.length_eq ▸ hk'
  exact ⟨_, List.getElem?_eq_getElem hk, hslots.get hk hk'⟩

/-- With more workers each slot begins no later than one of the same task. -/
lemma exists_slot (hm : 0 < m) (hle : m ≤ m') {s' : Slot α}
    (hs' : s' ∈ greedy (List.replicate m' t₀) ts) :
    ∃ s ∈ greedy (List.replicate m t₀) ts, s'.task = s.task ∧ s'.start ≤ s.start := by
  obtain ⟨k, hk⟩ := List.mem_iff_getElem?.1 hs'
  obtain ⟨s, hs, hsame⟩ := exists_slot_at hm hle hk
  exact ⟨s, List.mem_of_getElem? hs, hsame⟩

/-- Times that are pairwise no later have no later latest one. -/
lemma latest_mono {times times' : List Nat} (h : List.Forall₂ (fun x x' => x' ≤ x) times times') :
    latest t₀ times' ≤ latest t₀ times := by
  suffices hgen : ∀ {a a'}, a' ≤ a → latest a' times' ≤ latest a times from hgen (Nat.le_refl t₀)
  induction h with
  | nil => exact id
  | cons hle _ ih => exact fun ha => ih (by omega)

end Schedule

open Schedule

/-! ## Diaries with more workers -/

/-- In the second diary every task starts and ends no later than in the first, and calls are
answered no later. -/
structure Diary.Ahead (d d' : Diary α) : Prop where
  starts : List.Forall₂ (fun y y' => y'.2 = y.2 ∧ y'.1 ≤ y.1) d.starts d'.starts
  ends : ∀ y ∈ d.ends, ∃ time ≤ y.1, (time, y.2) ∈ d'.ends
  answers : List.Forall₂ (fun y y' => y'.2.1 = y.2.1 ∧ y'.1 ≤ y.1) d.answers d'.answers

namespace Batch.Completed

variable {call t₀ m m' : Nat} {deadline : Option Nat} {tasks left left' : List (Task α)}
  {d d' : Diary α}

/-- The last end is the latest one of the plan. -/
lemma latestEnd_eq (h : Completed call t₀ m deadline tasks d left) :
    d.latestEnd t₀ =
      latest t₀ ((greedy (List.replicate m t₀) d.admitted).map Slot.finish) := by
  have hperm := ((List.mergeSort_perm
    ((greedy (List.replicate m t₀) d.admitted).map Slot.ending) sooner).map Prod.fst)
  rw [Diary.latestEnd, h.ends, latest_perm hperm, List.map_map]
  rfl

/-- What was admitted was started. -/
lemma started_eq (h : Completed call t₀ m deadline tasks d left) : d.started = d.admitted := by
  rw [Diary.started, h.starts, List.map_map]
  exact map_task_greedy _ d.admitted

/-- Without a deadline the call returns with values. -/
lemma exists_values (h : Completed call t₀ m none tasks d left) :
    ∃ stop values, d.answers = [(stop, call, .batch (.ok values))] := by
  obtain ⟨panicked, hanswers, hfrail⟩ := h.answers
  have hleft : left = [] := by
    have hgiven := h.given
    rw [h.given_of_unlimited] at hgiven
    simpa using hgiven
  have hquiet : panicked = false := by
    by_contra hp
    obtain ⟨t, ht, -⟩ := hfrail (by simpa using hp)
    simp [hleft] at ht
  rw [hanswers, hquiet]
  exact ⟨_, _, rfl⟩

/-- With more workers no place in the queue becomes free later. -/
lemma place_le (h : Completed call t₀ m deadline tasks d left)
    (h' : Completed call t₀ m' deadline tasks d' left') (hm : 0 < m) (hle : m ≤ m')
    (admitted : d'.admitted <+: d.admitted) {k : Nat} {x x' : Nat}
    (hx : (places t₀ m d)[k]? = some x) (hx' : (places t₀ m' d')[k]? = some x') : x' ≤ x := by
  have hne : List.replicate m t₀ ≠ [] := replicate_ne_nil hm
  by_cases hfirst : k < 2 * m'
  · -- one of the places that are free at the start
    rw [places, List.getElem?_append_left (by simpa using hfirst),
      List.getElem?_replicate_of_lt hfirst] at hx'
    cases hx'
    exact (h.places_sorted hm).2 x (List.mem_of_getElem? hx)
  · -- a place that the start of an earlier task gives
    rw [places, List.getElem?_append_right (by simp; omega), List.length_replicate, h'.starts,
      List.map_map, List.getElem?_map, Option.map_eq_some_iff] at hx'
    rw [places, List.getElem?_append_right (by simp; omega), List.length_replicate, h.starts,
      List.map_map, List.getElem?_map, Option.map_eq_some_iff] at hx
    obtain ⟨s', hs', rfl⟩ := hx'
    obtain ⟨s, hs, rfl⟩ := hx
    obtain ⟨rest, hrest⟩ := admitted
    obtain ⟨s₁, hs₁, -, hsame⟩ := exists_slot_at hm hle hs'
    -- with fewer workers the place is given by a task that comes later in the list
    have hsplit := greedy_append (List.replicate m t₀) d'.admitted rest
    rw [hrest] at hsplit
    have hs₂ : (greedy (List.replicate m t₀) d.admitted)[k - 2 * m']? = some s₁ := by
      rw [hsplit, List.getElem?_append_left (List.getElem?_eq_some_iff.1 hs₁).1]
      exact hs₁
    have hlater : s₁.start ≤ s.start := by
      obtain ⟨hlt, rfl⟩ := List.getElem?_eq_some_iff.1 hs
      obtain ⟨hlt₂, rfl⟩ := List.getElem?_eq_some_iff.1 hs₂
      rcases Nat.eq_or_lt_of_le (Nat.sub_le_sub_left (Nat.mul_le_mul_left 2 hle) k) with heq | hlt'
      · simp only [heq, Nat.le_refl]
      · exact List.pairwise_iff_getElem.1 (pairwise_start hne) _ _ hlt₂ hlt hlt'
    exact Nat.le_trans hsame hlater

/-- **With more workers no fewer tasks are admitted.** -/
theorem admitted_prefix (h : Completed call t₀ m deadline tasks d left)
    (h' : Completed call t₀ m' deadline tasks d' left') (hm : 0 < m) (hle : m ≤ m') :
    d.admitted <+: d'.admitted := by
  have hd : d.admitted <+: tasks := ⟨left, h.given⟩
  have hd' : d'.admitted <+: tasks := ⟨left', h'.given⟩
  refine List.prefix_of_prefix_length_le hd hd' ?_
  by_contra hshort
  rw [Nat.not_le] at hshort
  have hprefix := List.prefix_of_prefix_length_le hd' hd (Nat.le_of_lt hshort)
  -- some task is left with more workers, so that the next place comes at the deadline or later
  have hleft : left' ≠ [] := by
    rintro rfl
    have := hd.length_le
    rw [← h'.given, List.append_nil] at this
    omega
  obtain ⟨D, hD, hlate⟩ := h'.late hleft
  simp only [Diary.admitted, List.length_map] at hshort
  have hroom' : d'.admissions.length < (places t₀ m' d').length := by
    have hstarted := congrArg List.length h'.starts
    rw [List.length_map, length_greedy, Diary.admitted, List.length_map] at hstarted
    rw [places, List.length_append, List.length_replicate, List.length_map]
    omega
  have hplace' := List.getElem?_eq_getElem hroom'
  have hDle : D ≤ (places t₀ m' d')[d'.admissions.length] := by
    refine hlate _ ?_
    rw [List.drop_eq_getElem_cons hroom']
    exact List.mem_cons_self
  -- with fewer workers that place is taken before the deadline
  have hplace : (places t₀ m d)[d'.admissions.length]? =
      some (d.admissions[d'.admissions.length]).1 := by
    have htaken : (d.admissions.map Prod.fst)[d'.admissions.length]? =
        some (d.admissions[d'.admissions.length]).1 := by
      rw [List.getElem?_map, List.getElem?_eq_getElem hshort]
      rfl
    rw [h.admissions, List.getElem?_take_of_lt hshort] at htaken
    exact htaken
  have hearly := h.early D hD _ (List.getElem_mem hshort)
  have := h.place_le h' hm hle hprefix hplace hplace'
  omega

/-- **With more workers nothing comes later**, if the same tasks are admitted. -/
theorem ahead (h : Completed call t₀ m deadline tasks d left)
    (h' : Completed call t₀ m' deadline tasks d' left') (hm : 0 < m) (hle : m ≤ m')
    (admitted : d'.admitted = d.admitted) : Diary.Ahead d d' := by
  have hne : List.replicate m t₀ ≠ [] := replicate_ne_nil hm
  have hslots := (dominates_replicate hle t₀).greedy hne d.admitted
  have hfinish : ∀ {s s' : Slot α}, s'.task = s.task ∧ s'.start ≤ s.start →
      s'.finish ≤ s.finish := by
    rintro s s' ⟨htask, hstart⟩
    rw [Slot.finish, Slot.finish, htask]
    omega
  refine ⟨?_, fun y hy => ?_, ?_⟩
  · rw [h.starts, h'.starts, admitted, List.forall₂_map_left_iff, List.forall₂_map_right_iff]
    exact hslots
  · rw [h.ends, List.mem_mergeSort] at hy
    obtain ⟨s, hs, rfl⟩ := List.mem_map.1 hy
    obtain ⟨i, hi, rfl⟩ := List.getElem_of_mem hs
    have hi' := hslots.length_eq ▸ hi
    have hslot := hslots.get hi hi'
    refine ⟨_, hfinish hslot, ?_⟩
    rw [h'.ends, admitted, List.mem_mergeSort, List.mem_map]
    exact ⟨_, List.getElem_mem hi', Prod.ext rfl hslot.1⟩
  · obtain ⟨panicked, hanswers, -⟩ := h.answers
    obtain ⟨panicked', hanswers', -⟩ := h'.answers
    rw [hanswers, hanswers', h.latestEnd_eq, h'.latestEnd_eq, admitted]
    refine .cons ⟨rfl, latest_mono ?_⟩ .nil
    rw [List.forall₂_map_left_iff, List.forall₂_map_right_iff]
    exact hslots.imp fun _ _ => hfinish

end Batch.Completed

/-! ## In a scene -/

namespace Stage

open Scene History Batch

/-- A batch does not tell pools apart that have a worker for each of its tasks. -/
lemma reach_of_length_le {s : Scene α} {call size size' : Nat} {tasks : List (Task α)}
    {admission : Admission} (large : tasks.length ≤ size) (large' : tasks.length ≤ size')
    (cs : List (Command α)) :
    s.reach call (.batch size tasks admission :: cs) =
      s.reach call (.batch size' tasks admission :: cs) := by
  have hnew : s.newBatch call size tasks admission = s.newBatch call size' tasks admission := by
    unfold Scene.newBatch Batch.start
    rw [Nat.min_eq_right large, Nat.min_eq_right large']
  rw [reach, reach, perform, perform, hnew]

/-- **More workers never hurt.** Begin a batch on a pool and the same batch on a larger one in the
same scene. Without a limit all tasks start on either, each one on the larger pool no later, and
the call returns no later. With a timeout every task that the first one admits is admitted by the
second one, if the clock moves beyond the end of the first one. If the pools have a worker for each
task, the runs are the same, whatever limits the batch and whatever is done afterwards. -/
theorem Steps.more_workers_never_hurt {h : History α} {g : Stage α} (run : Steps {} h g)
    (named : h.Named) {tasks : List (Task α)} (hne : tasks ≠ [])
    (numbered : Numbered g.calls tasks) (lengths : ∀ t ∈ tasks, t.duration.isSome)
    {size size' : Nat} (hsize : 0 < size) (hle : size ≤ size') :
    let plain := fun size => diaryAt (.batch g.scene.batches.length)
      (g.scene.reach g.calls [.batch size tasks .unlimited, .run]).2
    ((plain size).started = tasks ∧ (plain size').started = tasks ∧
      (∃ stop values, (plain size).answers = [(stop, g.calls, .batch (.ok values))]) ∧
      (∃ stop values, (plain size').answers = [(stop, g.calls, .batch (.ok values))]) ∧
      Diary.Ahead (plain size) (plain size')) ∧
    (∀ ms seconds nanoseconds,
      (∀ slot ∈ greedy (List.replicate (min size tasks.length) g.scene.now) tasks,
        slot.finish ≤ g.scene.now + ms) →
      (g.batchDiary size tasks ms (.within seconds nanoseconds)).admitted <+:
        (g.batchDiary size' tasks ms (.within seconds nanoseconds)).admitted) ∧
    (tasks.length ≤ size → ∀ admission cs,
      g.scene.reach g.calls (.batch size tasks admission :: cs) =
        g.scene.reach g.calls (.batch size' tasks admission :: cs)) := by
  intro plain
  have hsize' : 0 < size' := Nat.lt_of_lt_of_le hsize hle
  have hm := min_pos hsize hne
  have hmin : min size tasks.length ≤ min size' tasks.length := by omega
  refine ⟨?_, ?_, fun large admission cs => reach_of_length_le large (Nat.le_trans large hle) cs⟩
  · have hplain : ∀ {size}, 0 < size → ∃ left, Completed g.calls g.scene.now
        (min size tasks.length) none tasks (plain size) left := fun hsize =>
      exists_completed_run run named hsize hne numbered lengths .unlimited rfl rfl
    obtain ⟨left, hd⟩ := hplain hsize
    obtain ⟨left', hd'⟩ := hplain hsize'
    have hall := hd.given_of_unlimited
    have hall' := hd'.given_of_unlimited
    exact ⟨hd.started_eq.trans hall, hd'.started_eq.trans hall', hd.exists_values,
      hd'.exists_values, hd.ahead hd' hm hmin (hall'.trans hall.symm)⟩
  · intro ms seconds nanoseconds enough
    have henough' : ∀ slot ∈ greedy (List.replicate (min size' tasks.length) g.scene.now) tasks,
        slot.finish ≤ g.scene.now + ms := by
      intro slot hslot
      obtain ⟨slot₀, hslot₀, htask, hstart⟩ := exists_slot hm hmin hslot
      have := enough slot₀ hslot₀
      rw [Slot.finish] at this ⊢
      rw [htask]
      omega
    obtain ⟨left, hd⟩ := exists_completed_advance run named hsize hne numbered lengths
      (.within seconds nanoseconds) rfl enough
    obtain ⟨left', hd'⟩ := exists_completed_advance run named hsize' hne numbered lengths
      (.within seconds nanoseconds) rfl henough'
    exact hd.admitted_prefix hd' hm hmin

/-- Four tasks of two milliseconds each on one worker and on two. With a timeout of one and a half
milliseconds the last task is left on one worker only. -/
theorem more_workers_never_hurt_slow :
    let plain := fun size => diaryAt (.batch 0)
      (({} : Scene Nat).reach 0 [.batch size slowTasks .unlimited, .run]).2
    let timed := fun size => ({} : Stage Nat).batchDiary size slowTasks 8 (.within 0 1500000)
    (plain 1).starts.map Prod.fst = [0, 2, 4, 6] ∧ (plain 2).starts.map Prod.fst = [0, 0, 2, 2] ∧
      Diary.Ahead (plain 1) (plain 2) ∧
      (timed 1).admitted.length = 3 ∧ (timed 2).admitted.length = 4 ∧
      (timed 1).admitted <+: (timed 2).admitted ∧
      (({} : Scene Nat).reach 0 [.batch 4 slowTasks .unlimited, .run]).2 =
        (({} : Scene Nat).reach 0 [.batch (2 ^ 64 - 1) slowTasks .unlimited, .run]).2 := by
  intro plain timed
  have hne : slowTasks ≠ [] := by simp [slowTasks]
  obtain ⟨⟨-, -, -, -, hahead⟩, hprefix, -⟩ := Steps.more_workers_never_hurt
    (.refl ({} : Stage Nat)) .nil hne numbered_slowTasks (by simp [slowTasks])
    (by decide : 0 < 1) (by decide : 1 ≤ 2)
  obtain ⟨-, -, hsame⟩ := Steps.more_workers_never_hurt
    (.refl ({} : Stage Nat)) .nil hne numbered_slowTasks (by simp [slowTasks])
    (by decide : 0 < 4) (by decide : 4 ≤ 2 ^ 64 - 1)
  refine ⟨by decide +kernel, by decide +kernel, hahead, by decide +kernel, by decide +kernel,
    hprefix 8 0 1500000 (by decide), ?_⟩
  exact congrArg Prod.snd (hsame (Nat.le_refl 4) .unlimited [.run])

end Stage

end Workforce
