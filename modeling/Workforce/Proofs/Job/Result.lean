import Workforce.Proofs.Cancellation
import Workforce.Proofs.Job.Course
import Workforce.Proofs.Timeout
/-!
# What comes of a job

Which tasks of a job that has its tasks are started, what becomes of them, and what the job returns,
whenever the request to shut down comes.

## Main definitions

* `Workforce.JobRun.diary` — what became of the tasks of a job.
* `Workforce.JobConfig.Result` — what comes of a job.

## Main results

* `Workforce.JobConfig.result_carriedOut` — what comes of every job on at least one worker that has
  its tasks.
* `Workforce.JobConfig.result_stoppedAt` — also if the request comes between two stops of the clock.

## Implementation notes

A job without a submit timeout is a batch that follows the parent, and one with a submit timeout is
a batch with a deadline that is given up when the request comes. The cases are: a job without items,
a job that is told to shut down before it begins, while its batch runs, or not before the batch is
complete.
-/

namespace Workforce

open Scene Batch Diary Schedule

/-- What became of the tasks of a job. -/
def JobRun.diary (r : JobRun) : Diary Nat := diaryAt (.batch 0) r.phases

namespace JobConfig

variable {c : JobConfig} {seed : UInt64} {interrupt : Scene Nat → Bool} {ps : List (Phase Nat)}
  {rootId : String}

/-- What comes of a job. It was told to shut down before its batch was complete, or even before it
began, or it was not. -/
structure Result (seed : UInt64) (early interrupted : Prop) (c : JobConfig) (r : JobRun) :
    Prop where
  rootId : r.rootId = (c.root seed).id
  /-- Everything happens in the batch. -/
  inner : ∀ p ∈ r.phases, p.Inner
  /-- The items are started in their order. -/
  started : r.diary.started <+: c.tasks (c.root seed)
  /-- A job with a submit timeout that is told to shut down before its batch is complete fails. -/
  fails : c.submitTimeout.isSome = true → interrupted → r.result = .error (.interrupted r.rootId)
  /-- Any other job returns the values of the tasks that were started, all of which have ended, on
  one worker in their order. -/
  returned : ¬(c.submitTimeout.isSome = true ∧ interrupted) →
    r.result = .ok (r.diary.ended.filterMap Task.value?) ∧ r.diary.ended.Perm r.diary.started ∧
      (min c.numWorkers c.batchItems = 1 → r.diary.ended = r.diary.started)
  /-- If it is not told to shut down before its batch is complete, the tasks that are not started
  are discarded at the deadline, if there is one. -/
  complete : ¬ interrupted → r.diary.started = c.tasks (c.root seed) ∨
    ∃ ms, c.submitTimeout = some ms ∧
      r.diary.discards = ((c.tasks (c.root seed)).drop r.diary.started.length).map (ms, ·)
  /-- A job without a submit timeout starts nothing once it is told to shut down. -/
  stopped : c.submitTimeout = none → (diaryAt (.batch 0) (r.onward.getD [])).starts = [] ∧
    (early → r.diary.starts = [])

/-! ## What a job returns -/

/-- A job whose batch has returned values returns them. -/
lemma resultOf_of_answered (inner : ∀ p ∈ ps, p.Inner) {time : Nat} {values : List Nat}
    (answers : (diaryAt (.batch 0) ps).answers = [(time, call, .batch (.ok values))]) :
    resultOf rootId ps = .ok values := by
  rw [resultOf, answers_of_inner inner, answers]
  rfl

/-- A job whose batch has not returned was interrupted. -/
lemma resultOf_of_pending (inner : ∀ p ∈ ps, p.Inner)
    (answers : (diaryAt (.batch 0) ps).answers = []) :
    resultOf rootId ps = .error (.interrupted rootId) := by
  rw [resultOf, answers_of_inner inner, answers]
  rfl

/-- The timeout of a job is its deadline. -/
lemma deadline_of_admission {ms D : Nat} (hms : c.submitTimeout = some ms)
    (hD : c.admission.deadline? 0 = some D) : D = ms := by
  rw [admission, hms] at hD
  unfold Admission.deadline? at hD
  dsimp only at hD
  split at hD
  · cases hD
    omega
  · cases hD

/-! ## Jobs that are not disturbed -/

/-- The request to shut down does not come. -/
lemma not_interrupted_iff : ¬ c.Interrupted seed interrupt ↔
    interrupt {} = false ∧ ∀ s ∈ c.scenes seed, interrupt s = false := by
  simp [Interrupted]

/-- Nothing comes after what comes before the request. -/
lemma phases_of_undisturbed {r : JobRun} {elapsed : Nat} {result : Except JobError (List Nat)}
    (hrun : r = ⟨rootId, ps, none, result, elapsed⟩) : r.phases = ps := by
  rw [hrun]
  exact List.append_nil ps

/-! ## Jobs that do not begin -/

/-- A job with a submit timeout that was told to shut down before. -/
lemma result_of_told (htold : interrupt {} = true) (htimeout : c.submitTimeout.isSome = true) :
    c.Result seed True True (c.carriedOut seed interrupt) := by
  have hrun : c.carriedOut seed interrupt =
      ⟨(c.root seed).id, [], none, .error (.interrupted (c.root seed).id), 0⟩ := by
    simp [carriedOut, carryOut, htold, htimeout]
  rw [hrun]
  exact {
    rootId := rfl
    inner := by simp [JobRun.phases]
    started := List.nil_prefix
    fails := fun _ _ => rfl
    returned := fun h => absurd ⟨htimeout, trivial⟩ h
    complete := fun h => absurd trivial h
    stopped := fun h => by simp [h] at htimeout }

/-- A job without items is complete at once. -/
lemma passes_of_empty (hempty : c.tasks (c.root seed) = []) (told : Bool) :
    (c.begun (c.root seed) told).1.passes patience complete = [] := by
  rw [begun_of_empty hempty, passes, if_pos]
  rfl

/-- It stays so. -/
lemma complete_of_empty (hempty : c.tasks (c.root seed) = []) {s : Scene Nat}
    (hticks : Ticks (nearDeadlines patience) (c.begun (c.root seed) false).1 ps s) :
    complete s = true := by
  have hbare : s.pools = [] ∧ s.batches = [] := by
    rw [begun_of_empty hempty] at hticks
    induction hticks with
    | refl => exact ⟨rfl, rfl⟩
    | tail _ last ih =>
      obtain ⟨x, htimely, -, rfl⟩ := last
      cases x with
      | order => cases htimely
      | _ =>
        simp [enact, immediate, Scene.phase, Scene.settle, Scene.finish, Scene.everywhere, after,
          sweep, ih.1, ih.2]
  simp [complete, pendingCalls, hbare.1, hbare.2]

/-- It returns no values. -/
lemma result_of_empty (hempty : c.tasks (c.root seed) = []) {early interrupted : Prop}
    (h : ¬(interrupt {} = true ∧ c.submitTimeout.isSome = true))
    (hnot : ¬(c.submitTimeout.isSome = true ∧ interrupted)) :
    c.Result seed early interrupted (c.carriedOut seed interrupt) := by
  have hrun : c.carriedOut seed interrupt = ⟨(c.root seed).id,
      [⟨0, [(.batch 0, .batchAnswered call (.batch (.ok [])))]⟩], none, .ok [], 0⟩ := by
    rw [carriedOut_eq_runBatch h, runBatch_undisturbed (by simp [passes_of_empty hempty])]
    dsimp only
    rw [begun_of_empty hempty, runUntil_of_stop rfl]
    rfl
  have hdiary : (c.carriedOut seed interrupt).diary =
      { answers := [(0, call, .batch (.ok []))] } := by
    rw [hrun]
    rfl
  refine ⟨by rw [hrun], ?_, ?_, fun h₁ h₂ => absurd ⟨h₁, h₂⟩ hnot, fun _ => ?_, fun _ => ?_,
    fun _ => ?_⟩
  · rw [hrun]
    intro p hp
    simp only [JobRun.phases, Option.getD_none, List.append_nil, List.mem_singleton] at hp
    subst hp
    intro x hx
    rw [List.mem_singleton.1 hx]
    exact ⟨rfl, rfl⟩
  · rw [hdiary]
    exact List.nil_prefix
  · rw [hdiary, hrun]
    exact ⟨rfl, .refl _, fun _ => rfl⟩
  · rw [hdiary, hempty]
    exact .inl rfl
  · rw [hdiary, hrun]
    exact ⟨rfl, fun _ => rfl⟩

/-! ## Jobs without a submit timeout -/

section Follower

variable {r : JobRun} {stop : Nat} {before since : Diary Nat}

/-- A job whose batch is stopped by the request. -/
lemma result_of_stopped {early : Prop} (hfollow : c.submitTimeout = none)
    (rootId : r.rootId = (c.root seed).id)
    (inner : ∀ p ∈ r.phases, p.Inner) (hresult : r.result = resultOf r.rootId r.phases)
    (hdiary : r.diary = before ++ since)
    (hstopped : Stopped call 0 stop (c.tasks (c.root seed)) [] before since)
    (serial : min c.numWorkers c.batchItems = 1 → r.diary.ended = r.diary.started)
    (onward : (diaryAt (.batch 0) (r.onward.getD [])).starts = [])
    (told : early → r.diary.starts = []) : c.Result seed early True r := by
  have hstarted : r.diary.started = before.started := by
    rw [hdiary, Diary.started, Diary.starts_append, hstopped.starts, List.append_nil, Diary.started]
  have hanswers : (diaryAt (.batch 0) r.phases).answers =
      [((before ++ since).latestEnd 0, call,
        .batch (.ok ((before ++ since).ended.filterMap Task.value?)))] := by
    have := hstopped.answers
    rw [if_pos List.isEmpty_nil] at this
    exact (congrArg Diary.answers hdiary).trans this
  have hended := hstopped.ended
  rw [List.nil_append, ← hdiary] at hended
  refine ⟨rootId, inner, ?_, fun h => by simp [hfollow] at h, fun _ => ⟨?_, ?_, serial⟩,
    fun h => absurd trivial h, fun _ => ⟨onward, told⟩⟩
  · rw [hstarted]
    exact hstopped.started.trans hstopped.given
  · rw [hresult, resultOf_of_answered inner hanswers, hdiary]
  · rw [hstarted]
    exact hended

/-- Such a job admits tasks until the parent is cancelled. -/
lemma admission_of_follow (hfollow : c.submitTimeout = none) : c.admission = .untilCancelled := by
  rw [admission, hfollow]

/-- The request to shut down cancels the parent. -/
lemma phase_cancelParent (n : Nat) (s : Scene Nat) :
    Scene.phase s.cancelParent = s.enact (.order n .cancelParent) := by
  rw [enact, immediate, order, History.events_ofEntries]

variable (hworkers : 1 ≤ c.numWorkers) (hne : c.tasks (c.root seed) ≠ [])
  (hfollow : c.submitTimeout = none)

include hworkers hne hfollow

/-- A job without a submit timeout that was told to shut down before. -/
lemma result_of_follower_told (htold : interrupt {} = true) :
    c.Result seed True True (c.carriedOut seed interrupt) := by
  obtain ⟨ps, t, b, hticks, hhosts, -, hidle, hinner, hrun⟩ :=
    exists_undisturbed hworkers hne (by simp [hfollow]) htold heeds_of_told
  obtain ⟨xs, hxs, hquiet⟩ := hticks.exists_actions
  have hstop : (c.begun (c.root seed) true).1.Holds (Stopping call 0 0 (c.tasks (c.root seed)) {}) 0
      ((c.begun (c.root seed) true).2.diaryAt (.batch 0)) := by
    rw [begun_eq_enact, admission_of_follow hfollow]
    exact Holds.of_newBatch hworkers hne (.initial (min_pos hworkers hne))
      fun _ _ _ _ _ _ hkept hP move => hP.advance hkept move
  have hongoing : Diary.Ongoing 0 0 ({} : Diary Nat) :=
    ⟨Nat.le_refl _, by simp, rfl, fun _ => .inr rfl⟩
  have hstopped := stopped_enactAll hstop hongoing
    (fun t ht => (c.plain_tasks (c.born_root seed) t ht).2) fun n hn => hquiet _ hn n _ rfl
  rw [hxs, busy, hhosts.first, Option.elim_some, Pool.underway, hidle, List.map_nil] at hstopped
  have hphases := phases_of_undisturbed hrun
  have hdiary : (c.carriedOut seed interrupt).diary =
      {} ++ diaryAt (.batch 0) ((c.begun (c.root seed) true).2 :: ps) := by
    rw [JobRun.diary, hphases]
    rfl
  refine result_of_stopped hfollow (by rw [hrun]) (hphases ▸ hinner)
    (by rw [hphases, hrun]) hdiary hstopped (fun one => ?_) (by rw [hrun]; rfl) fun _ => ?_
  · rw [JobRun.diary, hphases]
    exact hhosts.ended_eq_started hidle one
  · rw [JobRun.diary, hphases]
    exact hstopped.starts

/-- The batch of such a job goes on until the parent is cancelled. -/
lemma following_ticks {s : Scene Nat} (stop : Nat)
    (hticks : Ticks (nearDeadlines patience) (c.begun (c.root seed) false).1 ps s) :
    s.Holds (Following call 0 stop (c.tasks (c.root seed))) 0
      (diaryAt (.batch 0) ((c.begun (c.root seed) false).2 :: ps)) := by
  have hfirst : (c.begun (c.root seed) false).1.Holds
      (Following call 0 stop (c.tasks (c.root seed))) 0
      ((c.begun (c.root seed) false).2.diaryAt (.batch 0)) := by
    rw [begun_eq_enact, admission_of_follow hfollow]
    exact Holds.of_newBatch hworkers hne (.initial (min_pos hworkers hne))
      fun _ _ _ _ _ _ hkept hP move => hP.advance hkept move
  obtain ⟨xs, hxs, hquiet⟩ := hticks.exists_actions
  have hlast := following_enactAll hfirst (fun n hn => hquiet _ hn n _ rfl)
    fun n hn => hquiet _ hn n _ rfl
  rw [hxs] at hlast
  exact hlast

/-- A job without a submit timeout that is not told to shut down. -/
lemma result_of_follower_free (hfree : ¬ c.Interrupted seed interrupt) :
    c.Result seed False False (c.carriedOut seed interrupt) := by
  obtain ⟨htold, hquiet⟩ := not_interrupted_iff.1 hfree
  obtain ⟨ps, t, b, hticks, hhosts, -, hidle, hinner, hrun⟩ :=
    exists_undisturbed hworkers hne (by simp [hfollow]) htold fun s hs =>
      (heeds_of_not_told hs).trans (hquiet s hs)
  have hphases := phases_of_undisturbed hrun
  obtain ⟨b', hb', hcalm, hfollowing⟩ := following_ticks hworkers hne hfollow 0 hticks
  rw [hhosts.first] at hb'
  cases hb'
  obtain ⟨hgiven, hstarted, hended, panicked, hanswers, hfrail⟩ :=
    hfollowing.account.final (m := ⟨t.now, true⟩) hcalm.kept hcalm.rest hidle
  rw [List.append_nil] at hgiven hstarted
  rw [eq_false_of_sturdy hfrail (by simp)] at hanswers
  have hall : (c.carriedOut seed interrupt).diary.started = c.tasks (c.root seed) := by
    rw [JobRun.diary, hphases, hstarted, hgiven]
  refine ⟨by rw [hrun], hphases ▸ hinner, hall ▸ List.prefix_rfl, fun h => by simp [hfollow] at h,
    fun _ => ⟨?_, ?_, fun one => ?_⟩, fun _ => .inl hall, fun _ => ⟨by rw [hrun]; rfl, False.elim⟩⟩
  · rw [JobRun.diary, hphases, hrun]
    exact resultOf_of_answered hinner hanswers
  · rw [JobRun.diary, hphases]
    exact hended
  · rw [JobRun.diary, hphases]
    exact hhosts.ended_eq_started hidle one

/-- A job without a submit timeout that is told to shut down while its batch runs. -/
lemma result_of_follower_stopped {s : Scene Nat}
    (hticks : Ticks (nearDeadlines patience) (c.begun (c.root seed) false).1 ps s) :
    c.Result seed False True (c.stoppedAt seed ps s) := by
  obtain ⟨⟨b, hhosts⟩, hinner⟩ := hosts_ticks hworkers hne hticks
  have hbefore := following_ticks hworkers hne hfollow s.now hticks
  -- the parent is cancelled
  obtain ⟨hcancelled, hentries, hanonymous⟩ := hhosts.solo.cancelParent hhosts.anonymous
  obtain ⟨b', hsolo', hanonymous', hcut⟩ :=
    Solo.phase_inner hcancelled (hentries.trans List.map_nil.symm) hanonymous (by simp)
  rw [phase_cancelParent 0] at hsolo' hcut
  have hhosts' := hhosts.of_enact (by simp) hsolo' hanonymous'
  -- what runs comes to its end
  obtain ⟨hrest, hfinished⟩ := ticks_runUntil patience complete (s.enact (.order 0 .cancelParent)).1
  obtain ⟨⟨b'', hlast⟩, hinner'⟩ := hhosts'.ticks hrest
  obtain ⟨-, hidle⟩ := hlast.finished hfinished
  obtain ⟨xs, hxs, hquiet⟩ := hrest.exists_actions
  have hstopped := stopped_enactAll (stopping_cancelParent 0 hbefore) (ongoing_of_following hbefore)
    (fun t ht => (c.plain_tasks (c.born_root seed) t ht).2) fun n hn => hquiet _ hn n _ rfl
  rw [hxs, busy, hlast.first, Option.elim_some, Pool.underway, hidle, List.map_nil] at hstopped
  have hshut : c.shutDown s = s.enact (.order 0 .cancelParent) := by
    rw [← phase_cancelParent, shutDown, if_neg (by simp [hfollow])]
  have honward : (c.stoppedAt seed ps s).onward = some ((s.enact (.order 0 .cancelParent)).2 ::
      ((s.enact (.order 0 .cancelParent)).1.runUntil patience complete).2) := by
    rw [stoppedAt, hshut]
  have hphases : (c.stoppedAt seed ps s).phases =
      (c.begun (c.root seed) false).2 :: ps ++ (s.enact (.order 0 .cancelParent)).2 ::
        ((s.enact (.order 0 .cancelParent)).1.runUntil patience complete).2 := by
    rw [JobRun.phases, honward]
    rfl
  have hdiary : (c.stoppedAt seed ps s).diary =
      diaryAt (.batch 0) ((c.begun (c.root seed) false).2 :: ps) ++
        ((s.enact (.order 0 .cancelParent)).2.diaryAt (.batch 0) ++ diaryAt (.batch 0)
          ((s.enact (.order 0 .cancelParent)).1.runUntil patience complete).2) := by
    rw [JobRun.diary, hphases]
    exact diaryAt_append _ _ _
  refine result_of_stopped hfollow rfl ?_ rfl hdiary hstopped (fun one => ?_) ?_ False.elim
  · rw [hphases]
    exact List.forall_mem_append.2 ⟨hinner, List.forall_mem_cons.2 ⟨hcut, hinner'⟩⟩
  · rw [hdiary, ← Diary.append_assoc]
    exact hlast.ended_eq_started hidle one
  · rw [honward]
    exact hstopped.starts

end Follower

/-! ## Jobs with a submit timeout -/

section Timeout

/-- Such a job does not follow the parent. -/
lemma followsParent_of_timeout {ms : Nat} (hms : c.submitTimeout = some ms) :
    c.admission.followsParent = false := by
  rw [admission, hms]
  rfl

/-- Its deadline is waited for. -/
lemma heeds_admission {ms : Nat} (hms : c.submitTimeout = some ms) :
    Heeds (α := Nat) (nearDeadlines patience) (c.admission.deadline? 0) := by
  intro s b hb hdeadline D hD
  refine List.mem_filterMap.2 ⟨b, hb, Batch.nearDeadline?_eq_some_iff.2 ⟨hD, ?_⟩⟩
  have hlimit := (Batch.deadlineAhead?_eq_some_iff.1 hD).2.1
  rw [hdeadline, admission, hms] at hlimit
  unfold Admission.deadline? at hlimit
  dsimp only at hlimit
  split at hlimit
  · cases hlimit
    rw [patience]
    omega
  · cases hlimit

/-- **The request to shut down makes such a job give its batch up**, which then starts no task, and
does not return. -/
theorem shutDown_of_timeout {m : Nat} {s : Scene Nat} {b : Batch Nat} {d : Diary Nat}
    (hhosts : s.Hosts m b d) (hheld : b.pool.held = true)
    (htimeout : c.submitTimeout.isSome = true) :
    complete (c.shutDown s).1 = true ∧ (c.shutDown s).2.Inner ∧
      ((c.shutDown s).2.diaryAt (.batch 0)).starts = [] ∧
      ((c.shutDown s).2.diaryAt (.batch 0)).answers = [] := by
  obtain ⟨hcancelled, hnothing, -⟩ := hhosts.solo.cancelParent hhosts.anonymous
  have hours : (b.parentCancelled.pending && b.parentCancelled.call == call) = true := by
    have hcall : b.parentCancelled.call = call := hhosts.serial.caller
    rw [hcall, beq_self_eq_true, Bool.and_true]
    exact hheld
  obtain ⟨hsolo, hentries⟩ := hcancelled.everywhere (fun _ => Pool.withdraw call)
    (fun _ b => if b.pending && b.call == call then b.abandon else (b, []))
  rw [if_pos hours] at hsolo hentries
  have hshut : c.shutDown s = Scene.phase ((s.cancelParent.1.abandon call).1,
      s.cancelParent.2 ++ (s.cancelParent.1.abandon call).2) := if_pos htimeout
  obtain ⟨hlast, hphase⟩ := Solo.phase (r := ((s.cancelParent.1.abandon call).1,
    s.cancelParent.2 ++ (s.cancelParent.1.abandon call).2)) hsolo
  rw [← hshut] at hlast hphase
  let m : Moment :=
    ⟨(s.cancelParent.1.abandon call).1.now, (s.cancelParent.1.abandon call).1.brittle⟩
  let es := b.parentCancelled.abandon.2 ++ (b.parentCancelled.abandon.1.settle m).2
  obtain ⟨hpending, hstarted, hsilent⟩ := settle_abandon b.parentCancelled m
  have hall : (c.shutDown s).2.entries = es.map (Place.batch 0, ·) := by
    rw [hphase, hnothing, List.nil_append, List.map_append]
    exact congrArg (· ++ _) hentries
  have hinner : (c.shutDown s).2.Inner := by
    intro x hx
    rw [hall] at hx
    obtain ⟨e, he, rfl⟩ := List.mem_map.1 hx
    exact ⟨rfl, (hsilent e he).internal⟩
  have hdiary : (c.shutDown s).2.diaryAt (.batch 0) = .note (c.shutDown s).2.time (gist es) := by
    rw [Phase.diaryAt, hinner.eventsAt, hall, List.map_map]
    exact congrArg (fun fs => Diary.note _ (gist fs)) (List.map_id es)
  refine ⟨?_, hinner, ?_, ?_⟩
  · rw [complete, hlast.isEmpty_pendingCalls, hpending]
    rfl
  · rw [hdiary, Diary.note, hstarted]
    rfl
  · rw [hdiary, Diary.note, answered_of_silent hsilent]
    rfl

variable (hworkers : 1 ≤ c.numWorkers) (hne : c.tasks (c.root seed) ≠ []) {ms : Nat}
  (hms : c.submitTimeout = some ms)

include hworkers hne hms

/-- The batch of such a job follows the plan. -/
lemma follows_ticks {s : Scene Nat}
    (hticks : Ticks (nearDeadlines patience) (c.begun (c.root seed) false).1 ps s) :
    s.Follows 0 call 0 (min c.numWorkers c.batchItems) (c.admission.deadline? 0)
      (c.tasks (c.root seed)) (diaryAt (.batch 0) ((c.begun (c.root seed) false).2 :: ps)) := by
  have hnumbered := c.numbered_tasks (c.born_root seed)
  have hlengths := fun t ht => (c.plain_tasks (c.born_root seed) t ht).1
  have hfirst := Follows.of_newBatch (.refl ({} : Stage Nat)) .nil hworkers hne hnumbered hlengths
    (followsParent_of_timeout hms)
  rw [c.length_tasks (c.born_root seed)] at hfirst
  rw [begun_eq_enact] at hticks ⊢
  exact hfirst.ticks (hnumbered.timed hlengths) (heeds_admission hms) hticks

/-- A job with a submit timeout that is not told to shut down. -/
lemma result_of_timeout_free (hfree : ¬ c.Interrupted seed interrupt) :
    c.Result seed False False (c.carriedOut seed interrupt) := by
  obtain ⟨htold, hquiet⟩ := not_interrupted_iff.1 hfree
  obtain ⟨ps, t, b, hticks, hhosts, -, hidle, hinner, hrun⟩ :=
    exists_undisturbed hworkers hne (by simp [htold]) htold fun s hs =>
      (heeds_of_not_told hs).trans (hquiet s hs)
  have hphases := phases_of_undisturbed hrun
  have hdiary : (c.carriedOut seed interrupt).diary =
      diaryAt (.batch 0) ((c.begun (c.root seed) false).2 :: ps) := congrArg _ hphases
  obtain ⟨-, b', left, dropped, hb', hcalm, hplanned⟩ := follows_ticks hworkers hne hms hticks
  rw [hhosts.first] at hb'
  cases hb'
  have hcompleted := hplanned.completed hcalm ((c.numbered_tasks (c.born_root seed)).timed
    fun t ht => (c.plain_tasks (c.born_root seed) t ht).1) hidle
  obtain ⟨-, -, hended, -⟩ :=
    hplanned.account.final (m := ⟨t.now, true⟩) hcalm.kept hcalm.rest hidle
  rw [← hdiary] at hcompleted hended hhosts
  have hstarted : (c.carriedOut seed interrupt).diary.started =
      (c.carriedOut seed interrupt).diary.admitted := by
    rw [Diary.started, hcompleted.starts, List.map_map]
    exact map_task_greedy _ _
  obtain ⟨panicked, hanswers, hfrail⟩ := hcompleted.answers
  rw [eq_false_of_sturdy hfrail fun t ht => (c.plain_tasks (c.born_root seed) t
    (hcompleted.given ▸ List.mem_append_right _ ht)).2] at hanswers
  refine ⟨by rw [hrun], hphases ▸ hinner, ⟨left, hstarted ▸ hcompleted.given⟩,
    fun _ => False.elim, fun _ => ⟨?_, hended, hhosts.ended_eq_started hidle⟩, fun _ => ?_,
    fun h => by simp [hms] at h⟩
  · have hresult : (c.carriedOut seed interrupt).result =
        resultOf (c.root seed).id ((c.begun (c.root seed) false).2 :: ps) := by rw [hrun]
    rw [hdiary] at hanswers
    rw [hresult, hdiary]
    exact resultOf_of_answered hinner hanswers
  · by_cases hleft : left = []
    · have hgiven := hcompleted.given
      rw [hleft, List.append_nil, ← hstarted] at hgiven
      exact .inl hgiven
    · obtain ⟨D, hD, -⟩ := hcompleted.late hleft
      have hdrop :
          (c.tasks (c.root seed)).drop (c.carriedOut seed interrupt).diary.started.length =
            left := by
        rw [← hcompleted.given, hstarted, List.drop_left]
      refine .inr ⟨ms, hms, ?_⟩
      rw [hcompleted.discards, hdrop, hD, deadline_of_admission hms hD]
      rfl

/-- A job with a submit timeout that is told to shut down while its batch runs. -/
lemma result_of_timeout_stopped {s : Scene Nat}
    (hticks : Ticks (nearDeadlines patience) (c.begun (c.root seed) false).1 ps s)
    (hgoing : complete s = false) : c.Result seed False True (c.stoppedAt seed ps s) := by
  obtain ⟨⟨b, hhosts⟩, hinner⟩ := hosts_ticks hworkers hne hticks
  have hheld : b.pool.held = true := by
    rw [complete, hhosts.solo.isEmpty_pendingCalls] at hgoing
    simpa [Batch.pending] using hgoing
  obtain ⟨-, b', left, dropped, hb', -, hplanned⟩ := follows_ticks hworkers hne hms hticks
  rw [hhosts.first] at hb'
  cases hb'
  have hpending := hplanned.account.pending hheld
  have hstarted : (diaryAt (.batch 0) ((c.begun (c.root seed) false).2 :: ps)).started <+:
      c.tasks (c.root seed) := by
    rw [← hplanned.account.given, ← hplanned.account.admitted]
    simp only [List.append_assoc]
    exact List.prefix_append _ _
  -- the batch is given up
  have htimeout : c.submitTimeout.isSome = true := by simp [hms]
  obtain ⟨hcomplete, hcut, hstarts, hanswers⟩ := shutDown_of_timeout hhosts hheld htimeout
  have hphases : (c.stoppedAt seed ps s).phases =
      (c.begun (c.root seed) false).2 :: ps ++ [(c.shutDown s).2] := by
    unfold stoppedAt
    dsimp only
    rw [runUntil_of_stop hcomplete]
    rfl
  have hdiary : (c.stoppedAt seed ps s).diary =
      diaryAt (.batch 0) ((c.begun (c.root seed) false).2 :: ps) ++
        (c.shutDown s).2.diaryAt (.batch 0) := by
    rw [JobRun.diary, hphases, diaryAt_append]
    exact congrArg _ (Diary.append_empty _)
  have hinner' : ∀ p ∈ (c.stoppedAt seed ps s).phases, p.Inner := by
    rw [hphases]
    exact List.forall_mem_append.2 ⟨hinner, List.forall_mem_singleton.2 hcut⟩
  have hresult : (c.stoppedAt seed ps s).result =
      resultOf (c.stoppedAt seed ps s).rootId (c.stoppedAt seed ps s).phases := rfl
  refine ⟨rfl, hinner', ?_, fun _ _ => ?_, fun h => absurd ⟨htimeout, trivial⟩ h,
    fun h => absurd trivial h, fun h => by simp [hms] at h⟩
  · rw [hdiary, Diary.started, Diary.starts_append, hstarts, List.append_nil]
    exact hstarted
  · rw [hresult]
    refine resultOf_of_pending hinner' ?_
    rw [← JobRun.diary, hdiary, Diary.answers_append, hpending, hanswers]
    rfl

end Timeout

/-! ## All jobs -/

/-- **What comes of a job that is told to shut down at some moment** while its batch runs. -/
theorem result_stoppedAt (hworkers : 1 ≤ c.numWorkers) {s : Scene Nat}
    (hticks : Ticks (nearDeadlines patience) (c.begun (c.root seed) false).1 ps s)
    (hgoing : complete s = false) : c.Result seed False True (c.stoppedAt seed ps s) := by
  by_cases hne : c.tasks (c.root seed) = []
  · exact absurd (complete_of_empty hne hticks) (by simp [hgoing])
  cases htimeout : c.submitTimeout with
  | none => exact result_of_follower_stopped hworkers hne htimeout hticks
  | some ms => exact result_of_timeout_stopped hworkers hne htimeout hticks hgoing

/-- **What comes of a job that has its tasks** on at least one worker, whenever the request to shut
down comes. -/
theorem result_carriedOut (hworkers : 1 ≤ c.numWorkers) (seed : UInt64)
    (interrupt : Scene Nat → Bool) : c.Result seed (interrupt {} = true)
      (c.Interrupted seed interrupt) (c.carriedOut seed interrupt) := by
  by_cases htold : interrupt {} = true
  · rw [eq_true htold, eq_true (show c.Interrupted seed interrupt from .inl htold)]
    cases htimeout : c.submitTimeout with
    | some ms => exact result_of_told htold (by simp [htimeout])
    | none =>
      by_cases hne : c.tasks (c.root seed) = []
      · exact result_of_empty hne (by simp [htimeout]) (by simp [htimeout])
      · exact result_of_follower_told hworkers hne htimeout htold
  rw [eq_false htold]
  by_cases hinterrupted : c.Interrupted seed interrupt
  · obtain ⟨ps, s, hticks, hgoing, hrun⟩ :=
      exists_disturbed (by simpa using htold) (hinterrupted.resolve_left htold)
    rw [eq_true hinterrupted, hrun]
    exact result_stoppedAt hworkers hticks hgoing
  · rw [eq_false hinterrupted]
    by_cases hne : c.tasks (c.root seed) = []
    · exact result_of_empty hne (fun h => htold h.1) fun h => h.2
    cases htimeout : c.submitTimeout with
    | none => exact result_of_follower_free hworkers hne htimeout hinterrupted
    | some ms => exact result_of_timeout_free hworkers hne htimeout hinterrupted

end JobConfig

end Workforce
