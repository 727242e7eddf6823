import Workforce.Proofs.Batch.Prompt
import Workforce.Proofs.Scene.Tick
/-!
# Batches in virtual time

A batch whose tasks have known running times, that does not follow the parent, and whose tasks end
when they are due. Its accounts, its starts and ends, and its admissions are known in every scene
that is reached by itself, and when none of its tasks runs any more they are complete.

## Main definitions

* `Workforce.Batch.Timed` — tasks with names in their order and with known running times.
* `Workforce.Batch.Planned` — a batch that follows the plan up to a time.
* `Workforce.Batch.Completed` — what has happened when it is complete.
* `Workforce.Scene.Follows` — the batch at an index of a scene follows the plan.

## Main results

* `Workforce.Batch.Planned.turn` — turns on time follow the plan.
* `Workforce.Batch.Planned.completed` — what the plan comes to.
* `Workforce.Scene.Follows.ticks` — what comes by itself follows the plan.
* `Workforce.Scene.exists_completed_run`, `Scene.exists_completed_advance` — commands that begin a
  batch and move the clock complete it.
-/

namespace Workforce

open Schedule Trail History

variable {α : Type}

namespace Batch

variable {b c : Batch α} {now call t₀ m : Nat} {deadline : Option Nat}
  {tasks left dropped l r : List (Task α)} {d : Diary α} {x : Gist α}

/-- Tasks with names in their order and with known running times. -/
structure Timed (tasks : List (Task α)) : Prop where
  ordered : tasks.Pairwise fun t u => t.id.before u.id = true
  nodup : (tasks.map Task.id).Nodup
  lengths : ∀ t ∈ tasks, t.duration.isSome

/-- A batch that follows the plan up to a time. -/
structure Planned (call t₀ m : Nat) (deadline : Option Nat) (tasks : List (Task α)) (now : Nat)
    (b : Batch α) (d : Diary α) (left dropped : List (Task α)) : Prop where
  limit : b.deadline = deadline
  account : Account call t₀ (deadline.getD t₀) tasks now b d left dropped
  punctual : Punctual t₀ m now b d
  prompt : Prompt t₀ m now b d left

/-- What has happened in a batch on `m` workers when it is complete. -/
structure Completed (call t₀ m : Nat) (deadline : Option Nat) (tasks : List (Task α))
    (d : Diary α) (left : List (Task α)) : Prop where
  /-- Some tasks from the beginning of the list were admitted, and the others were left. -/
  given : d.admitted ++ left = tasks
  admissions : d.admissions.map Prod.fst = (places t₀ m d).take d.admissions.length
  early : ∀ D, deadline = some D → ∀ y ∈ d.admissions, y.1 < D
  late : left ≠ [] → ∃ D, deadline = some D ∧
    ∀ time ∈ (places t₀ m d).drop d.admissions.length, D ≤ time
  /-- What was admitted has started and ended as planned. -/
  starts : d.starts = (greedy (List.replicate m t₀) d.admitted).map Slot.opening
  ends : d.ends = ((greedy (List.replicate m t₀) d.admitted).map Slot.ending).mergeSort sooner
  /-- What was left was discarded at the deadline. -/
  discards : d.discards = left.map (deadline.getD t₀, ·)
  /-- The call returned at the latest end. -/
  answers : ∃ panicked, d.answers = [(d.latestEnd t₀, call, .batch
      (if panicked then .error .discardPanic else .ok (d.ended.filterMap Task.value?)))] ∧
    (panicked = true → ∃ t ∈ left, t.frail = true)

namespace Planned

/-- Moves follow the plan. -/
lemma advance (h : Planned call t₀ m deadline tasks now b d left dropped) (hb : Kept now b)
    (timed : Timed tasks) (step : Advance now b x l r c) :
    Planned call t₀ m deadline tasks now c (d ++ .note now x) (left ++ l) (dropped ++ r) := by
  refine ⟨?_, h.account.advance hb step,
    h.punctual.advance hb h.account timed.ordered timed.lengths step,
    h.prompt.advance hb h.account step⟩
  cases step <;> exact h.limit

/-- So does what happens from outside, on time. -/
lemma apply (h : Planned call t₀ m deadline tasks now b d left dropped) (hb : Calm now b)
    (y : Turn) (onTime : OnTime now b y) :
    Planned call t₀ m deadline tasks (y.time now) (y.apply b).1
      (d ++ .note (y.time now) (gist (y.apply b).2)) left dropped := by
  have later : now ≤ y.time now := by
    cases y with
    | wait time => exact onTime.1
    | _ => exact Nat.le_refl _
  refine ⟨?_, h.account.apply hb y later ?_ ?_, h.punctual.apply hb y onTime,
    h.prompt.apply hb h.account y⟩
  · cases y <;> exact h.limit
  · intro _ hchild
    simp [h.punctual.alone] at hchild
  · intro hheld D hD hlt hle
    -- the clock does not go beyond the deadline
    have hstop : (deadline.getD t₀) = D := by rw [← h.limit, hD]; rfl
    rw [hstop]
    cases y with
    | wait time =>
      have hahead : b.deadlineAhead? now = some D :=
        deadlineAhead?_eq_some_iff.2 ⟨hheld, hD, hlt⟩
      exact Nat.le_antisymm (onTime.2.2 D hahead) hle
    | _ => exact absurd hlt (Nat.not_lt.2 hle)

/-- **Turns on time follow the plan.** -/
theorem turn (h : Planned call t₀ m deadline tasks now b d left dropped) (hb : Calm now b)
    (timed : Timed tasks) (brittle : Bool) (y : Turn) (onTime : OnTime now b y) :
    Calm (y.time now) (b.turn now brittle y).1 ∧ ∃ left dropped,
      Planned call t₀ m deadline tasks (y.time now) (b.turn now brittle y).1
        (d ++ .note (y.time now) (gist (b.turn now brittle y).2)) left dropped := by
  refine hb.turn (P := fun b d => ∃ left dropped,
    Planned call t₀ m deadline tasks (y.time now) b d left dropped) brittle y
    ⟨left, dropped, h.apply hb y onTime⟩ ?_
  rintro b d x l r c hkept ⟨left, dropped, hplanned⟩ step
  exact ⟨_, _, hplanned.advance hkept timed step⟩

/-- A batch that has just been started follows the plan. -/
lemma initial (now call : Nat) (hn : 0 < m) (parentCancelled : Bool) {admission : Admission}
    (alone : admission.followsParent = false) :
    Planned call now m (admission.deadline? now) tasks now
      (Batch.initial now call m hn tasks admission parentCancelled) {} [] [] := by
  have hacc : Account call now ((admission.deadline? now).getD now) tasks now
      (Batch.initial now call m hn tasks admission parentCancelled) {} [] [] := by
    refine .initial (fun hchild => by simp [alone] at hchild) fun time htime hle => ?_
    rw [htime]
    exact Nat.le_antisymm (Admission.le_of_deadline? htime) hle
  exact ⟨rfl, hacc, .initial alone, .initial alone⟩

/-- **What the plan comes to** when none of the tasks runs any more. -/
theorem completed (h : Planned call t₀ m deadline tasks now b d left dropped) (hb : Calm now b)
    (timed : Timed tasks) (hrun : b.pool.running = []) :
    Completed call t₀ m deadline tasks d left := by
  obtain ⟨hgiven, hstarted, -, hanswers⟩ := h.account.final (m := ⟨now, true⟩) hb.kept hb.rest hrun
  have hdropped : dropped = [] := h.account.drops.resolve_right fun hd => by
    simp [hb.kept.free_of_alone h.punctual.alone] at hd
  rw [hdropped, List.append_nil] at hstarted
  have hnodup : (d.started.map Task.id).Nodup := by
    have hall := timed.nodup
    rw [← hgiven, ← hstarted, List.map_append] at hall
    exact hall.of_append_left
  have hends := h.punctual.final hrun hnodup
  have hstarts := h.punctual.starts
  rw [hstarted] at hends hstarts
  refine ⟨hgiven, h.prompt.admissions, ?_, ?_, hstarts, hends, ?_, hanswers⟩
  · rw [← h.limit]
    exact h.prompt.early
  · rw [← h.limit]
    exact h.prompt.late
  · rw [h.account.discards, hdropped]
    exact List.append_nil _

end Planned

end Batch

/-! ## In a scene -/

/-- Nothing has been handed over yet. -/
lemma History.Named.nil : Named ([] : History α) :=
  ⟨fun _ _ _ h => absurd h List.not_mem_nil, fun _ _ _ _ _ h => absurd h List.not_mem_nil⟩

/-- A batch hands over tasks that carry the number of its call and their indices. -/
lemma History.Named.append_batched {h : History α} (named : h.Named) {call : Nat}
    {tasks : List (Task α)} (numbered : Numbered call tasks) (place : Place) (es : List (Entry α)) :
    History.Named (h ++ (place, .batched call tasks) :: ofEntries es) where
  asked q s c hq := by
    rcases List.mem_append.1 hq with hq | hq
    · exact named.asked q s c hq
    · simp [ofEntries] at hq
  batched q c ts i t hq := by
    rcases List.mem_append.1 hq with hq | hq
    · exact named.batched q c ts i t hq
    · simp only [ofEntries, List.mem_cons, Prod.mk.injEq, Occurrence.batched.injEq, List.mem_map,
        reduceCtorEq, and_false, exists_false, or_false] at hq
      obtain ⟨-, rfl, rfl⟩ := hq
      exact numbered i t

/-- Tasks that carry the number of a call and have known running times. -/
lemma Numbered.timed {call : Nat} {tasks : List (Task α)} (numbered : Numbered call tasks)
    (lengths : ∀ t ∈ tasks, t.duration.isSome) : Batch.Timed tasks :=
  ⟨numbered.pairwise_before, numbered.nodup, lengths⟩

namespace Scene

open Batch

variable {s t : Scene α} {ps : List (Phase α)} {deadlines : Scene α → List Nat}
  {i call t₀ m : Nat} {deadline : Option Nat} {tasks : List (Task α)} {d : Diary α}

/-- The batch at an index of a scene follows the plan. -/
def Follows (i call t₀ m : Nat) (deadline : Option Nat) (tasks : List (Task α)) (s : Scene α)
    (d : Diary α) : Prop :=
  s.Proper ∧ ∃ b left dropped, s.batches[i]? = some b ∧ Calm s.now b ∧
    Planned call t₀ m deadline tasks s.now b d left dropped

/-- The clock stops at the deadline of every batch with that deadline. -/
def Heeds (deadlines : Scene α → List Nat) (deadline : Option Nat) : Prop :=
  ∀ (s : Scene α), ∀ b ∈ s.batches, b.deadline = deadline → ∀ D,
    b.deadlineAhead? s.now = some D → D ∈ deadlines s

/-- It stops at all of them. -/
lemma heeds_deadlinesAhead : Heeds (α := α) deadlinesAhead deadline :=
  fun _ b hb _ _ hD => List.mem_filterMap.2 ⟨b, hb, hD⟩

/-- There is nothing to stop at if there is no deadline. -/
lemma heeds_none : Heeds deadlines none := fun _ _ _ hnone _ hD =>
  absurd (deadlineAhead?_eq_some_iff.1 hD).2.1 (by simp [hnone])

namespace Follows

/-- **What comes by itself follows the plan.** -/
theorem ticks (h : s.Follows i call t₀ m deadline tasks d) (timed : Timed tasks)
    (heeds : Heeds deadlines deadline) (ticks : Ticks deadlines s ps t) :
    t.Follows i call t₀ m deadline tasks (d ++ Workforce.diaryAt (.batch i) ps) := by
  induction ticks with
  | refl =>
    rw [Workforce.diaryAt, Diary.append_empty]
    exact h
  | @tail u v qs rs _ last ih =>
    obtain ⟨hproper, b, left, dropped, hb, hcalm, hplanned⟩ := ih
    obtain ⟨x, htimely, rfl, rfl⟩ := last
    have honTime := hproper.onTime hb htimely
      (heeds u b (List.mem_of_getElem? hb) hplanned.limit)
    have hspared : ∀ n, x ≠ .order n (.abandon b.call) := by
      rintro n rfl
      exact htimely
    obtain ⟨brittle, hb', hdiary, hnow⟩ := enact_batch hb x hspared
    obtain ⟨hcalm', left', dropped', hplanned'⟩ :=
      hplanned.turn hcalm timed brittle (x.turn u) honTime
    have hone : Workforce.diaryAt (.batch i) [(u.enact x).2] = (u.enact x).2.diaryAt (.batch i) :=
      Diary.append_empty _
    refine ⟨hproper.enact htimely, _, left', dropped', hb', ?_, ?_⟩
    · rw [hnow]
      exact hcalm'
    · rw [diaryAt_append, ← Diary.append_assoc, hone, hdiary, hnow]
      exact hplanned'

/-- A batch that has just been begun follows the plan. -/
lemma of_newBatch {h : History α} {g : Stage α} (run : Stage.Steps {} h g) (named : h.Named)
    {size : Nat} (hsize : 0 < size) (hne : tasks ≠ []) (numbered : Numbered g.calls tasks)
    (lengths : ∀ t ∈ tasks, t.duration.isSome) {admission : Admission}
    (alone : admission.followsParent = false) :
    (g.scene.enact (.order g.calls (.batch size tasks admission))).1.Follows
      g.scene.batches.length g.calls g.scene.now (min size tasks.length)
      (admission.deadline? g.scene.now) tasks
      ((g.scene.enact (.order g.calls (.batch size tasks admission))).2.diaryAt
        (.batch g.scene.batches.length)) := by
  obtain ⟨b, hb, hcalm, left, dropped, hplanned⟩ := Holds.of_newBatch (s := g.scene)
    (P := fun now b d => ∃ left dropped, Planned g.calls g.scene.now (min size tasks.length)
      (admission.deadline? g.scene.now) tasks now b d left dropped)
    hsize hne ⟨[], [], .initial _ _ (min_pos hsize hne) _ alone⟩ (by
      rintro b d x l r c hkept ⟨left, dropped, hplanned⟩ step
      exact ⟨_, _, hplanned.advance hkept (numbered.timed lengths) step⟩)
  have hsteps := (run.tail (.order g (.batch size tasks admission))).trans
    (Stage.Steps.settle (g.calls + 1) (g.scene.order g.calls (.batch size tasks admission)).1)
  refine ⟨⟨_, _, hsteps, ?_⟩, b, left, dropped, hb, hcalm, hplanned⟩
  exact (named.append_batched numbered _ _).append_entries _

/-- The batch is complete when none of its tasks can run. -/
lemma completed (h : s.Follows i call t₀ m deadline tasks d) (timed : Timed tasks)
    (hdue : s.firstDue? = none)
    (past : ∀ slot ∈ greedy (List.replicate m t₀) tasks, slot.finish ∉ s.endsAhead) :
    ∃ left, Completed call t₀ m deadline tasks d left := by
  obtain ⟨-, b, left, dropped, hb, hcalm, hplanned⟩ := h
  refine ⟨left, hplanned.completed hcalm timed ?_⟩
  by_contra hne
  obtain ⟨r, hr⟩ := List.exists_mem_of_ne_nil _ hne
  have hruns : r ∈ s.runs :=
    List.mem_append_right _ (List.mem_flatMap.2 ⟨b, List.mem_of_getElem? hb, hr⟩)
  obtain ⟨time, htime, -⟩ := hplanned.punctual.dues r hr
  -- it ends as planned
  have hending : r.ending ∈ (greedy (List.replicate m t₀) d.started).map Slot.ending :=
    hplanned.punctual.slots.subset (List.mem_append_left _ (List.mem_map_of_mem hr))
  obtain ⟨slot, hslot, heq⟩ := List.mem_map.1 hending
  have hplan : slot ∈ greedy (List.replicate m t₀) tasks := by
    rw [← hplanned.account.given, ← hplanned.account.admitted]
    simp only [List.append_assoc, greedy_append]
    exact List.mem_append_left _ hslot
  have hfinish : slot.finish = time := by
    have := congrArg Prod.fst heq
    simpa [Slot.ending, Run.ending, htime] using this
  exact past slot hplan (hfinish ▸ mem_endsAhead hdue hruns htime)

end Follows

/-! ## Commands -/

section Commands

variable {h : History α} {g : Stage α} {size : Nat}

/-- After the command that begins a batch the batch follows the plan. -/
lemma Follows.of_batch (run : Stage.Steps {} h g) (named : h.Named) (hsize : 0 < size)
    (hne : tasks ≠ []) (numbered : Numbered g.calls tasks)
    (lengths : ∀ t ∈ tasks, t.duration.isSome) {admission : Admission}
    (alone : admission.followsParent = false) :
    (act (g.scene.newBatch g.calls size tasks admission)).1.Follows
        g.scene.batches.length g.calls g.scene.now (min size tasks.length)
        (admission.deadline? g.scene.now) tasks
        (Workforce.diaryAt (.batch g.scene.batches.length)
          (act (g.scene.newBatch g.calls size tasks admission)).2) ∧
      (act (g.scene.newBatch g.calls size tasks admission)).1.now = g.scene.now := by
  have hfirst := of_newBatch run named hsize hne numbered lengths alone
  obtain ⟨-, -, -, hnow⟩ := enact_newBatch g.scene g.calls admission hsize hne
  have henact : g.scene.enact (.order g.calls (.batch size tasks admission)) =
      phase (g.scene.newBatch g.calls size tasks admission) := by rw [enact, immediate_batch]
  rw [henact] at hfirst hnow
  refine ⟨?_, (now_finishDue _).trans hnow⟩
  exact hfirst.ticks (numbered.timed lengths) heeds_deadlinesAhead (ticks_finishDue _ _)

/-- A batch without a deadline is complete when no stop is ahead. -/
theorem exists_completed_run (run : Stage.Steps {} h g) (named : h.Named) (hsize : 0 < size)
    (hne : tasks ≠ []) (numbered : Numbered g.calls tasks)
    (lengths : ∀ t ∈ tasks, t.duration.isSome) (admission : Admission)
    (alone : admission.followsParent = false)
    (unlimited : admission.deadline? g.scene.now = none) :
    ∃ left, Completed g.calls g.scene.now (min size tasks.length) none tasks
      (Workforce.diaryAt (.batch g.scene.batches.length)
        (g.scene.reach g.calls [.batch size tasks admission, .run]).2) left := by
  obtain ⟨hbatch, -⟩ := Follows.of_batch run named hsize hne numbered lengths alone
  rw [unlimited] at hbatch
  have timed := numbered.timed lengths
  obtain ⟨hticks, hdue, hends⟩ := ticks_run (firstDue?_finishDue
    (phase (g.scene.newBatch g.calls size tasks admission)).1)
  have hlast := (hbatch.ticks timed heeds_none hticks).completed timed hdue (by simp [hends])
  rw [← diaryAt_append] at hlast
  rw [reach, reach, reach, List.append_nil]
  exact hlast

/-- A batch is complete when the clock has moved past all ends that are planned. -/
theorem exists_completed_advance (run : Stage.Steps {} h g) (named : h.Named) (hsize : 0 < size)
    (hne : tasks ≠ []) (numbered : Numbered g.calls tasks)
    (lengths : ∀ t ∈ tasks, t.duration.isSome) (admission : Admission)
    (alone : admission.followsParent = false) {ms : Nat}
    (enough : ∀ slot ∈ greedy (List.replicate (min size tasks.length) g.scene.now) tasks,
      slot.finish ≤ g.scene.now + ms) :
    ∃ left, Completed g.calls g.scene.now (min size tasks.length)
      (admission.deadline? g.scene.now) tasks
      (Workforce.diaryAt (.batch g.scene.batches.length)
        (g.scene.reach g.calls [.batch size tasks admission, .advance ms]).2) left := by
  obtain ⟨hbatch, hnow⟩ := Follows.of_batch run named hsize hne numbered lengths alone
  have timed := numbered.timed lengths
  obtain ⟨hticks, htarget, hdue⟩ := ticks_advanceTo (firstDue?_finishDue
    (phase (g.scene.newBatch g.calls size tasks admission)).1) (Nat.le_add_right _ ms)
  have hlast := (hbatch.ticks timed heeds_deadlinesAhead hticks).completed timed hdue
    fun slot hslot hahead => by
      have hlt := (List.mem_filter.1 hahead).2
      have hle := enough slot hslot
      rw [htarget, decide_eq_true_eq] at hlt
      change (act (g.scene.newBatch g.calls size tasks admission)).1.now + ms < slot.finish at hlt
      omega
  rw [← diaryAt_append] at hlast
  rw [reach, reach, reach, List.append_nil]
  exact hlast

end Commands

end Scene

end Workforce
