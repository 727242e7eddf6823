import Workforce.Proofs.Scene.Detach
/-!
# Batches that follow the parent

A batch that follows the parent goes on like one without a limit until the parent is cancelled. From
then on none of its tasks starts any more. What runs at that moment comes to its end, and the call
returns the values of all tasks that were started.

## Main definitions

* `Workforce.Batch.Following` — what holds of such a batch before the parent is cancelled.
* `Workforce.Batch.Stopping` — what holds of it from then on.
* `Workforce.Diary.Stopped` — what becomes of its tasks.
* `Workforce.Scene.busy` — the tasks that the batch at an index of a scene runs.

## Main results

* `Workforce.Batch.Following.turn` — until then the batch goes on without leaving a task.
* `Workforce.Batch.Stopping.turn` — a batch that is stopping does so until it is complete.
* `Workforce.Batch.Stopping.stopped` — what becomes of its tasks.
* `Workforce.Scene.cancellable_batch_stopped` — what becomes of the tasks of a batch that follows
  the parent, whenever the parent is cancelled.
-/

namespace Workforce

open Schedule History

variable {α : Type}

/-! ## Before and after -/

namespace Diary

/-- Up to a time nothing has been discarded, and if the call has not returned then some task that
was started has not ended, or the last one has just done so. -/
structure Ongoing (t₀ stop : Nat) (d : Diary α) : Prop where
  since : t₀ ≤ stop
  past : ∀ y ∈ d.ends, y.1 ≤ stop
  discards : d.discards = []
  lively : d.answers = [] → d.ends.length < d.starts.length ∨ d.latestEnd t₀ = stop

/-- What becomes of the tasks of a batch that is stopped at a time: `before` and `since` are its
diaries up to that time and from then on, and `busy` are the tasks that still run. -/
structure Stopped (call t₀ stop : Nat) (tasks busy : List (Task α)) (before since : Diary α) :
    Prop where
  /-- From then on no task is admitted and none starts. -/
  admissions : since.admissions = []
  starts : since.starts = []
  given : before.admitted <+: tasks
  started : before.started <+: before.admitted
  /-- Every task that was started runs or has ended. -/
  ended : (busy ++ (before ++ since).ended).Perm before.started
  /-- Nothing was discarded before. The tasks that were not admitted are discarded at once, and
  those that were not started when nothing runs any more. -/
  discardsBefore : before.discards = []
  discards : since.discards = (tasks.drop before.admissions.length).map (stop, ·) ++
    if busy.isEmpty then
      (before.admitted.drop before.starts.length).map ((before ++ since).latestEnd t₀, ·)
    else []
  /-- Then the call returns the values of all tasks that were started, in the order they ended. -/
  answers : (before ++ since).answers =
    if busy.isEmpty then
      [((before ++ since).latestEnd t₀, call,
        .batch (.ok ((before ++ since).ended.filterMap Task.value?)))]
    else []
  /-- If it had not returned before, it does so when the last task that was running ends, and at
  once if none was. -/
  latest : before.answers = [] → busy = [] →
    (before ++ since).latestEnd t₀ = since.latestEnd stop

end Diary

open Diary

namespace Batch

variable {b c : Batch α} {now call t₀ stop : Nat} {tasks left dropped : List (Task α)}
  {d e : Diary α} {x : Gist α}

/-! ## Before the cancellation -/

/-- What holds of a batch that follows the parent before the parent is cancelled. -/
structure Following (call t₀ stop : Nat) (tasks : List (Task α)) (now : Nat) (b : Batch α)
    (d : Diary α) : Prop where
  limit : b.deadline = none
  child : b.pool.child = true
  free : b.pool.cancelled = false
  account : Account call t₀ stop tasks now b d [] []

namespace Following

/-- It holds of a batch that has just been started. -/
lemma initial {n : Nat} (hn : 0 < n) :
    Following call now stop tasks now (Batch.initial now call n hn tasks .untilCancelled false)
      {} where
  limit := rfl
  child := rfl
  free := rfl
  account := .initial (by simp) (by simp [Admission.deadline?])

/-- It is kept by moves: nothing is left or dropped. -/
lemma advance (h : Following call t₀ stop tasks now b d) (hb : Kept now b)
    (move : Advance now b x left dropped c) :
    Following call t₀ stop tasks now c (d ++ .note now x) := by
  obtain ⟨hdeadline, hchild, hcancelled⟩ := move.limits
  have hdue : ¬ b.Due now := by
    rintro ⟨D, hD, -⟩
    simp [h.limit] at hD
  have hnothing : left = [] ∧ dropped = [] := by
    cases move with
    | halt active why frail =>
      exact ⟨why.resolve_right (by simp [hdue, h.free]), rfl⟩
    | last idle running publishing why =>
      exact ⟨rfl, (why.resolve_left (by simp [h.free])).1⟩
    | _ => exact ⟨rfl, rfl⟩
  obtain ⟨rfl, rfl⟩ := hnothing
  exact ⟨hdeadline.trans h.limit, hchild.trans h.child, hcancelled.trans h.free,
    h.account.advance hb move⟩

/-- **It is kept by turns** before the parent is cancelled. -/
theorem turn (h : Following call t₀ stop tasks now b d) (hb : Calm now b) (brittle : Bool)
    {y : Turn} (quiet : y ≠ .follow) (later : now ≤ y.time now) :
    Calm (y.time now) (b.turn now brittle y).1 ∧
      Following call t₀ stop tasks (y.time now) (b.turn now brittle y).1
        (d ++ .note (y.time now) (gist (b.turn now brittle y).2)) := by
  obtain ⟨hdeadline, hchild, hcancelled⟩ := Turn.limits b quiet
  have happly : Following call t₀ stop tasks (y.time now) (y.apply b).1
      (d ++ .note (y.time now) (gist (y.apply b).2)) := by
    refine ⟨hdeadline.trans h.limit, hchild.trans h.child, hcancelled.trans h.free, ?_⟩
    refine h.account.apply hb y later (fun hy => absurd hy quiet) fun _ D hD => ?_
    simp [h.limit] at hD
  exact hb.turn brittle y happly fun _ _ _ _ _ _ hkept hP move => hP.advance hkept move

/-- Nothing has been discarded, and a batch at rest whose call has not returned runs a task, unless
the last one has just ended. -/
lemma ongoing (h : Following call t₀ stop tasks stop b d) : Ongoing t₀ stop d where
  since := h.account.since
  past := h.account.past
  discards := h.account.discards
  lively pending := by
    have hheld : b.pool.held = true := by
      by_contra hnot
      obtain ⟨panicked, -, hanswers⟩ := h.account.answered (by simpa using hnot)
      rw [pending] at hanswers
      cases hanswers
    refine (h.account.lively hheld).imp_left fun hrunning => ?_
    have hlength := h.account.started.length_eq
    have hpos := List.length_pos_iff.2 hrunning
    simp only [List.length_append, Pool.underway, Diary.ended, Diary.started, List.length_map]
      at hlength
    omega

end Following

/-! ## After the cancellation -/

/-- What holds of a batch from the cancellation of the parent on. Its diary has two parts, of which
the first one goes up to the cancellation. -/
structure Stopping (call t₀ stop : Nat) (tasks : List (Task α)) (d : Diary α) (now : Nat)
    (b : Batch α) (e : Diary α) : Prop where
  limit : b.deadline = none
  cancelled : b.pool.cancelled = true
  account : ∃ left dropped, Account call t₀ stop tasks now b (d ++ e) left dropped
  admissions : e.admissions = []
  starts : e.starts = []
  later : stop ≤ now
  ends : ∀ y ∈ e.ends, stop ≤ y.1

/-- The cancellation reaches a batch that follows the parent. -/
lemma Following.cancel (h : Following call t₀ stop tasks stop b d) (hb : Calm stop b) :
    Stopping call t₀ stop tasks d stop b.parentCancelled {} where
  limit := h.limit
  cancelled := by simp [parentCancelled, Pool.parentCancelled, h.child]
  account := by
    refine ⟨[], [], ?_⟩
    rw [Diary.append_empty]
    exact h.account.follow (m := ⟨stop, true⟩) hb.kept hb.rest fun _ _ => rfl
  admissions := rfl
  starts := rfl
  later := Nat.le_refl _
  ends := by simp

namespace Stopping

/-- A batch that starts after the cancellation is stopping at once. -/
lemma initial {n : Nat} (hn : 0 < n) :
    Stopping call now now tasks {} now (Batch.initial now call n hn tasks .untilCancelled true)
      {} where
  limit := rfl
  cancelled := rfl
  account := ⟨[], [], .initial (fun _ _ => rfl) (by simp [Admission.deadline?])⟩
  admissions := rfl
  starts := rfl
  later := Nat.le_refl _
  ends := by simp

/-- What happens at a time is added to the second part of the diary, if nothing is admitted or
started. -/
lemma note (h : Stopping call t₀ stop tasks d now b e) {time : Nat} (later : stop ≤ time)
    (limit : c.deadline = none) (cancelled : c.pool.cancelled = true)
    (account : ∃ left dropped, Account call t₀ stop tasks time c (d ++ e ++ .note time x)
      left dropped)
    (admitted : x.admitted = []) (started : x.started = []) :
    Stopping call t₀ stop tasks d time c (e ++ .note time x) := by
  refine ⟨limit, cancelled, ?_, ?_, ?_, later, fun y hy => ?_⟩
  · rwa [← Diary.append_assoc]
  · rw [Diary.admissions_append, h.admissions, Diary.note, admitted]
    rfl
  · rw [Diary.starts_append, h.starts, Diary.note, started]
    rfl
  · rcases List.mem_append.1 hy with hy | hy
    · exact h.ends y hy
    · obtain ⟨t, -, rfl⟩ := List.mem_map.1 hy
      exact later

/-- Its moves neither admit nor start a task. -/
lemma advance (h : Stopping call t₀ stop tasks d now b e) (hb : Kept now b)
    (move : Advance now b x left dropped c) :
    Stopping call t₀ stop tasks d now c (e ++ .note now x) := by
  obtain ⟨hdeadline, -, hcancelled⟩ := move.limits
  obtain ⟨l, r, acc⟩ := h.account
  have hnothing : x.admitted = [] ∧ x.started = [] := by
    cases move with
    | take active => exact absurd (active.symm.trans h.cancelled) (by simp)
    | enter active line room =>
      -- the submitter has been stopped before there is room for the submission
      rcases hb.blocked active (.inl h.cancelled) with hu | hj
      · exact absurd (line.symm.trans hu.line) (by simp)
      · exact absurd room (by rw [hj.full]; exact Nat.lt_irrefl _)
    | _ => exact ⟨rfl, rfl⟩
  exact h.note h.later (hdeadline.trans h.limit) (hcancelled.trans h.cancelled)
    ⟨_, _, acc.advance hb move⟩ hnothing.1 hnothing.2

/-- **It is kept by turns.** -/
theorem turn (h : Stopping call t₀ stop tasks d now b e) (hb : Calm now b) (brittle : Bool)
    {y : Turn} (later : now ≤ y.time now) :
    Calm (y.time now) (b.turn now brittle y).1 ∧
      Stopping call t₀ stop tasks d (y.time now) (b.turn now brittle y).1
        (e ++ .note (y.time now) (gist (b.turn now brittle y).2)) := by
  have hlimits : (y.apply b).1.deadline = none ∧ (y.apply b).1.pool.cancelled = true := by
    by_cases hy : y = .follow
    · subst hy
      exact ⟨h.limit, by simp [Turn.apply, parentCancelled, Pool.parentCancelled, h.cancelled]⟩
    · obtain ⟨hdeadline, -, hcancelled⟩ := Turn.limits b hy
      exact ⟨hdeadline.trans h.limit, hcancelled.trans h.cancelled⟩
  obtain ⟨l, r, acc⟩ := h.account
  have haccount := acc.apply hb y later
    (fun _ _ hfree => absurd (hfree.symm.trans h.cancelled) (by simp))
    fun _ D hD => by simp [h.limit] at hD
  obtain ⟨hadmitted, hstarted⟩ := Turn.gist_apply b y
  have happly := h.note (Nat.le_trans h.later later) hlimits.1 hlimits.2 ⟨l, r, haccount⟩ hadmitted
    hstarted
  exact hb.turn brittle y happly fun _ _ _ _ _ _ hkept hP move => hP.advance hkept move

/-- The submitter of a batch at rest has ended, and holds no task any more. -/
lemma ahead_eq_nil (h : Stopping call t₀ stop tasks d now b e) (hb : Calm now b) :
    b.ahead = [] := by
  have hfinished : b.Finished := hb.kept.steady.resolve_left fun active => by
    have hfree := (hb.kept.jammed_of_rest (m := ⟨now, true⟩) hb.rest active).2.1
    exact absurd (hfree.symm.trans h.cancelled) (by simp)
  obtain ⟨panicked, hfin⟩ := hfinished
  have hline : b.pool.submitting = [] := hb.kept.sound.line.resolve_left (by simp [hfin])
  rw [ahead, Pool.inHand, hline, (hb.kept.sound.finished ⟨_, hfin⟩).2]
  rfl

/-- The latest end is the last one since the cancellation, or the cancellation itself, if the call
had not returned before. -/
lemma latestEnd_eq (h : Stopping call t₀ stop tasks d now b e) (ongoing : Ongoing t₀ stop d)
    (ended : (d ++ e).ended.Perm d.started) (pending : d.answers = []) :
    (d ++ e).latestEnd t₀ = e.latestEnd stop := by
  rw [Diary.latestEnd, Diary.ends_append, List.map_append]
  refine latest_append_of_le (latest_le ongoing.since ?_) ?_ ?_
  · intro x hx
    obtain ⟨y, hy, rfl⟩ := List.mem_map.1 hx
    exact ongoing.past y hy
  · intro x hx
    obtain ⟨y, hy, rfl⟩ := List.mem_map.1 hx
    exact h.ends y hy
  · refine (ongoing.lively pending).symm.imp_right fun hlt hnil => ?_
    have hlength := ended.length_eq
    simp only [Diary.ended, Diary.started, List.length_map, Diary.ends_append, List.length_append,
      List.map_eq_nil_iff.1 hnil, List.length_nil] at hlength
    omega

/-- **What becomes of the tasks of a batch that is stopping.** -/
theorem stopped (h : Stopping call t₀ stop tasks d now b e) (hb : Calm now b)
    (ongoing : Ongoing t₀ stop d) (sturdy : ∀ t ∈ tasks, t.frail = false) :
    Stopped call t₀ stop tasks b.pool.underway d e := by
  obtain ⟨left, dropped, acc⟩ := h.account
  have hadmitted : (d ++ e).admitted = d.admitted := by
    rw [Diary.admitted, Diary.admissions_append, h.admissions, List.append_nil, Diary.admitted]
  have hstarted : (d ++ e).started = d.started := by
    rw [Diary.started, Diary.starts_append, h.starts, List.append_nil, Diary.started]
  have hgiven : d.admitted ++ left = tasks := by
    have := acc.given
    rwa [hadmitted, h.ahead_eq_nil hb, List.append_nil] at this
  have hqueue : d.started ++ (b.pool.queue ++ dropped) = d.admitted := by
    rw [← List.append_assoc, ← hstarted, acc.admitted, hadmitted]
  have hended : (b.pool.underway ++ (d ++ e).ended).Perm d.started := hstarted ▸ acc.started
  have hleft : tasks.drop d.admissions.length = left := by
    rw [← hgiven, List.drop_left']
    simp [Diary.admitted]
  have hdiscards : e.discards =
      left.map (stop, ·) ++ dropped.map ((d ++ e).latestEnd t₀, ·) := by
    have := acc.discards
    rwa [Diary.discards_append, ongoing.discards, List.nil_append] at this
  have hworkers : b.pool.running ≠ [] → b.pool.workers ≠ 0 := fun hrun hw =>
    hrun (Pool.workers_eq_zero_iff.1 hw).2.1
  refine ⟨h.admissions, h.starts, ⟨left, hgiven⟩, ⟨_, hqueue⟩, hended, ongoing.discards, ?_, ?_,
    fun pending idle => ?_⟩
  · rw [hdiscards, hleft]
    by_cases hrun : b.pool.running = []
    · obtain ⟨-, hdropped, -⟩ := acc.final (m := ⟨now, true⟩) hb.kept hb.rest hrun
      have hdrop : d.admitted.drop d.starts.length = dropped := by
        rw [← hadmitted, ← hdropped, hstarted, List.drop_left']
        simp [Diary.started]
      rw [if_pos (by simp [Pool.underway, hrun]), hdrop]
    · rw [if_neg (by simp [Pool.underway, hrun]), acc.dropped_nil (hworkers hrun)]
      rfl
  · by_cases hrun : b.pool.running = []
    · obtain ⟨-, -, -, panicked, hanswers, hfrail⟩ :=
        acc.final (m := ⟨now, true⟩) hb.kept hb.rest hrun
      have hquiet := eq_false_of_sturdy hfrail fun t ht =>
        sturdy t (hgiven ▸ List.mem_append_right _ ht)
      rw [if_pos (by simp [Pool.underway, hrun]), hanswers, hquiet]
      rfl
    · rw [if_neg (by simp [Pool.underway, hrun])]
      exact acc.pending (hb.kept.held_of_workers (hworkers hrun))
  · rw [idle, List.nil_append] at hended
    exact h.latestEnd_eq ongoing hended pending

end Stopping

end Batch

/-! ## In a scene -/

namespace Scene

open Batch

variable {s : Scene α} {i call t₀ stop size : Nat} {tasks : List (Task α)} {d e : Diary α}
  {xs : List (Action α)}

/-- The tasks that the batch at an index runs. -/
def busy (i : Nat) (s : Scene α) : List (Task α) := s.batches[i]?.elim [] (·.pool.underway)

/-- Actions before the cancellation of the parent. -/
lemma following_enactAll (h : s.Holds (Following call t₀ stop tasks) i d)
    (spared : Action.Spare call xs) (quiet : Action.Quiet xs) :
    (s.enactAll xs).1.Holds (Following call t₀ stop tasks) i
      (d ++ Workforce.diaryAt (.batch i) (s.enactAll xs).2) := by
  refine h.enactAll (· ≠ .follow) (fun hP => hP.account.caller)
    (fun brittle _ hquiet later hcalm hP => hP.turn hcalm brittle hquiet later) spared ?_
  rintro x hx s hfollow
  obtain ⟨n, rfl⟩ := Action.exists_of_turn_eq_follow hfollow
  exact quiet n hx

/-- What has become of its tasks by then. -/
lemma ongoing_of_following (h : s.Holds (Following call t₀ s.now tasks) i d) :
    Ongoing t₀ s.now d := by
  obtain ⟨b, -, -, hfollowing⟩ := h
  exact hfollowing.ongoing

/-- The cancellation of the parent. -/
lemma stopping_cancelParent (n : Nat) (h : s.Holds (Following call t₀ s.now tasks) i d) :
    (s.enact (.order n .cancelParent)).1.Holds (Stopping call t₀ s.now tasks d) i
      ((s.enact (.order n .cancelParent)).2.diaryAt (.batch i)) := by
  obtain ⟨b, hb, hcalm, hfollowing⟩ := h
  obtain ⟨brittle, hb', hdiary, hnow⟩ := enact_batch hb (.order n .cancelParent) (by simp)
  refine ⟨_, hb', ?_⟩
  rw [hdiary, hnow]
  exact hcalm.turn (P := Stopping call t₀ s.now tasks d s.now) (d := {}) brittle .follow
    (hfollowing.cancel hcalm) fun _ _ _ _ _ _ hkept hP move => hP.advance hkept move

/-- What becomes of the tasks of a batch that is stopping, whatever happens then. -/
lemma stopped_enactAll (h : s.Holds (Stopping call t₀ stop tasks d) i e)
    (ongoing : Ongoing t₀ stop d) (sturdy : ∀ t ∈ tasks, t.frail = false)
    (spared : Action.Spare call xs) :
    Stopped call t₀ stop tasks ((s.enactAll xs).1.busy i) d
      (e ++ Workforce.diaryAt (.batch i) (s.enactAll xs).2) := by
  obtain ⟨b, hb, hcalm, hstopping⟩ := h.enactAll (fun _ => True)
    (fun hP => by obtain ⟨_, _, acc⟩ := hP.account; exact acc.caller)
    (fun brittle _ _ later hcalm hP => hP.turn hcalm brittle later) spared
    (fun _ _ _ => trivial)
  have hbusy : (s.enactAll xs).1.busy i = b.pool.underway := by rw [busy, hb]; rfl
  rw [hbusy]
  exact hstopping.stopped hcalm ongoing sturdy

/-- **A batch that follows the parent returns exactly what was started.** Begin such a batch in any
scene, with tasks whose discard does not panic, and let anything happen but that its call is given
up. Until the parent is cancelled everything goes on as with a batch without a limit. If the parent
has been cancelled before the batch, or is cancelled between any two actions, no task is started
from then on and every task that was started comes to its end. The tasks that were not admitted are
discarded at once, and those that are queued when nothing runs any more. Then the call returns the
values of the tasks that were started, in the order of their ends. -/
theorem cancellable_batch_stopped (s : Scene α) (call : Nat) (hsize : 0 < size) (hne : tasks ≠ [])
    (sturdy : ∀ t ∈ tasks, t.frail = false) :
    let start := fun admission => Action.order call (.batch size tasks admission)
    let i := s.batches.length
    (s.parentCancelled = false → ∀ xs, Action.Quiet xs →
      (s.enactAll (start .untilCancelled :: xs)).2 = (s.enactAll (start .unlimited :: xs)).2) ∧
    (s.parentCancelled = true → ∀ ys, Action.Spare call ys →
      let after := s.enactAll (start .untilCancelled :: ys)
      Stopped call s.now s.now tasks (after.1.busy i) {} (diaryAt (.batch i) after.2)) ∧
    (s.parentCancelled = false →
      ∀ xs n ys, Action.Quiet xs → Action.Spare call xs → Action.Spare call ys →
      let before := s.enactAll (start .untilCancelled :: xs)
      let after := before.1.enactAll (.order n .cancelParent :: ys)
      Stopped call s.now before.1.now tasks (after.1.busy i) (diaryAt (.batch i) before.2)
        (diaryAt (.batch i) after.2)) := by
  refine ⟨fun free xs quiet => enactAll_untilCancelled free call hsize hne quiet,
    fun cancelled ys spared => ?_, fun free xs n ys quiet sparedXs sparedYs => ?_⟩
  · have hfirst : (s.enact (.order call (.batch size tasks .untilCancelled))).1.Holds
        (Stopping call s.now s.now tasks {}) s.batches.length _ :=
      .of_newBatch hsize hne (cancelled ▸ .initial (min_pos hsize hne))
        fun _ _ _ _ _ _ hkept hP move => hP.advance hkept move
    have hongoing : Ongoing s.now s.now ({} : Diary α) :=
      ⟨Nat.le_refl _, by simp, rfl, fun _ => .inr rfl⟩
    -- not one term: the diary of the first phase is read off the proof, not off the goal
    have hstopped := stopped_enactAll hfirst hongoing sturdy spared
    exact hstopped
  · let t := ((s.enact (.order call (.batch size tasks .untilCancelled))).1.enactAll xs).1
    have hfirst : (s.enact (.order call (.batch size tasks .untilCancelled))).1.Holds
        (Following call s.now t.now tasks) s.batches.length _ :=
      .of_newBatch hsize hne (free ▸ .initial (min_pos hsize hne))
        fun _ _ _ _ _ _ hkept hP move => hP.advance hkept move
    have hbefore : t.Holds (Following call s.now t.now tasks) s.batches.length _ :=
      following_enactAll hfirst sparedXs quiet
    have hstopped := stopped_enactAll (stopping_cancelParent n hbefore)
      (ongoing_of_following hbefore) sturdy sparedYs
    exact hstopped

/-! ## A batch of five tasks -/

/-- Five tasks that run until they are released. -/
def heldTasks : List (Task Nat) :=
  (List.range 5).map fun i => {
    id := ⟨0, some i⟩, duration := none, outcome := .value i, frail := false, trace := none }

/-- The five tasks on one worker. The parent is cancelled when the first task runs, two are queued
and two have not been admitted; three milliseconds later the first task ends. -/
theorem cancellable_batch_stopped_held :
    let before := ({} : Scene Nat).enactAll [.order 0 (.batch 1 heldTasks .untilCancelled)]
    let after := before.1.enactAll [.order 1 .cancelParent, .pass 3, .finish ⟨0, some 0⟩]
    Stopped 0 0 0 heldTasks [] (diaryAt (.batch 0) before.2) (diaryAt (.batch 0) after.2) ∧
      (diaryAt (.batch 0) after.2).discards =
        (heldTasks.drop 3).map (0, ·) ++ ((heldTasks.take 3).drop 1).map (3, ·) ∧
      (diaryAt (.batch 0) after.2).answers = [(3, 0, .batch (.ok [0]))] := by
  intro before after
  have hne : heldTasks ≠ [] := by simp [heldTasks]
  have hsturdy : ∀ t ∈ heldTasks, t.frail = false := by simp [heldTasks]
  obtain ⟨-, -, hstopped⟩ := cancellable_batch_stopped ({} : Scene Nat) 0 Nat.one_pos hne hsturdy
  obtain ⟨-, -, -, (hnow : before.1.now = 0)⟩ :=
    enact_newBatch ({} : Scene Nat) 0 .untilCancelled Nat.one_pos hne
  have hadmissions : (diaryAt (.batch 0) before.2).admissions.length = 3 := by decide +kernel
  have hstarts : (diaryAt (.batch 0) before.2).starts.length = 1 := by decide +kernel
  have hpending : (diaryAt (.batch 0) before.2).answers.length = 0 := by decide +kernel
  have hends : (diaryAt (.batch 0) before.2 ++ diaryAt (.batch 0) after.2).ends.length = 1 := by
    decide +kernel
  have hlatest : (diaryAt (.batch 0) before.2 ++ diaryAt (.batch 0) after.2).latestEnd 0 = 3 := by
    decide +kernel
  have hvalues : (diaryAt (.batch 0) before.2 ++ diaryAt (.batch 0) after.2).ended.filterMap
      Task.value? = [0] := by decide +kernel
  have hafter : Stopped 0 0 before.1.now heldTasks (after.1.busy 0) (diaryAt (.batch 0) before.2)
      (diaryAt (.batch 0) after.2) :=
    hstopped rfl [] 1 [.pass 3, .finish ⟨0, some 0⟩] (by simp [Action.Quiet])
      (by simp [Action.Spare]) (by simp [Action.Spare])
  have hbusy : after.1.busy 0 = [] := by
    have hlength := hafter.ended.length_eq
    rw [List.length_append, Diary.ended, Diary.started, List.length_map, List.length_map, hends,
      hstarts] at hlength
    exact List.length_eq_zero_iff.1 (by omega)
  rw [hbusy, hnow] at hafter
  refine ⟨hafter, ?_, ?_⟩
  · have hadmitted := List.prefix_iff_eq_take.1 hafter.given
    rw [Diary.admitted, List.length_map, hadmissions] at hadmitted
    rw [hafter.discards, hadmissions, hstarts, hlatest, Diary.admitted, hadmitted]
    rfl
  · have hanswers := hafter.answers
    rw [Diary.answers_append, List.length_eq_zero_iff.1 hpending, List.nil_append, hlatest,
      hvalues] at hanswers
    exact hanswers

end Scene

end Workforce
