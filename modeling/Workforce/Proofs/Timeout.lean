import Workforce.Proofs.Batch.Planned
/-!
# Batches with a timeout

A batch with a timeout is the batch without a limit, cut at its deadline: it admits the tasks that
the other one admits before the deadline, and what is admitted later by the other one does not
disturb them.

## Main definitions

* `Workforce.beforeTimeout` — a time is strictly before the end of a timeout.
* `Workforce.Diary.Cut` — one diary is another one cut at a deadline.

## Main results

* `Workforce.Batch.Completed.cut` — complete batches with and without a deadline.
* `Workforce.Stage.Steps.timed_batch_cut` — what becomes of the tasks of a batch with a timeout.
-/

namespace Workforce

open Schedule

variable {α : Type}

/-! ## Timeouts -/

/-- A time in milliseconds is strictly before the end of a timeout that begins at time `now`. -/
def beforeTimeout (now seconds nanoseconds time : Nat) : Bool :=
  time * 1000000 < now * 1000000 + (seconds * 1000000000 + nanoseconds)

/-- The deadline is the first whole millisecond that is not. -/
lemma beforeTimeout_iff {now seconds nanoseconds D time : Nat}
    (h : (Admission.within seconds nanoseconds).deadline? now = some D) :
    beforeTimeout now seconds nanoseconds time = true ↔ time < D := by
  unfold Admission.deadline? at h
  dsimp only at h
  split at h
  · cases h
    simp only [beforeTimeout, decide_eq_true_eq]
    omega
  · cases h

/-- The deadline of a longer timeout is not earlier, and does not fit if that one does not. -/
lemma deadline?_mono {now seconds nanoseconds seconds' nanoseconds' : Nat}
    (hle : seconds * 1000000000 + nanoseconds ≤ seconds' * 1000000000 + nanoseconds')
    (h : (Admission.within seconds nanoseconds).deadline? now = none) :
    (Admission.within seconds' nanoseconds').deadline? now = none := by
  have hround : ∀ s n : Nat,
      s * 1000 + (n + 999999) / 1000000 = (s * 1000000000 + n + 999999) / 1000000 := by
    intro s n
    have hsplit : s * 1000000000 + n + 999999 = n + 999999 + s * 1000 * 1000000 := by omega
    rw [hsplit, Nat.add_mul_div_right _ _ (by decide), Nat.add_comm]
  have hle : seconds * 1000 + (nanoseconds + 999999) / 1000000 ≤
      seconds' * 1000 + (nanoseconds' + 999999) / 1000000 := by
    rw [hround, hround]
    exact Nat.div_le_div_right (Nat.add_le_add_right hle _)
  unfold Admission.deadline? at h ⊢
  dsimp only at h ⊢
  split at h
  · cases h
  · next hlimit =>
    rw [Nat.add_assoc] at hlimit
    rw [if_neg]
    rw [Nat.add_assoc]
    exact fun hlt => hlimit (Nat.lt_of_le_of_lt (Nat.add_le_add_left hle _) hlt)

/-! ## Cutting -/

namespace Diary

/-- The entries about some tasks. -/
def about (ts : List (Task α)) (ys : List (Nat × Task α)) : List (Nat × Task α) :=
  ys.filter fun y => (ts.map Task.id).contains y.2.id

/-- The diary `T` of a batch with a deadline is the diary `P` of the same batch without one, cut at
the deadline `D`; `early` are the times before it. -/
structure Cut (call t₀ D : Nat) (early : Nat → Bool) (tasks : List (Task α)) (P T : Diary α) :
    Prop where
  /-- The deadline is the first time that is not before it. -/
  limit : ∀ time, early time = true ↔ time < D
  /-- The tasks that are admitted without a deadline before it are admitted, at the same times. -/
  admissions : T.admissions = P.admissions.filter fun y => early y.1
  given : T.admitted <+: tasks
  /-- They start and end at the same times. -/
  started : T.started = T.admitted
  starts : T.starts = about T.admitted P.starts
  ended : T.ended.Perm T.admitted
  ends : T.ends = about T.admitted P.ends
  /-- The others are discarded at the deadline. -/
  discards : T.discards = (tasks.drop T.admissions.length).map (D, ·)
  /-- The call returns at the latest end with their values. -/
  answers : T.answers = [(T.latestEnd t₀, call,
    .batch (.ok ((about T.admitted P.ends).filterMap (·.2.value?))))]

namespace Cut

variable {call t₀ D D' : Nat} {early early' : Nat → Bool} {tasks : List (Task α)}
  {P T T' : Diary α}

/-- If nothing is admitted before the deadline, nothing runs. -/
lemma eq_nil (h : Cut call t₀ D early tasks P T)
    (late : ∀ y ∈ P.admissions, early y.1 = false) :
    T.admissions = [] ∧ T.starts = [] ∧ T.answers = [(t₀, call, .batch (.ok []))] := by
  have hadmissions : T.admissions = [] := by
    rw [h.admissions, List.filter_eq_nil_iff]
    intro y hy
    simp [late y hy]
  have hnothing : ∀ ys : List (Nat × Task α), about T.admitted ys = [] := by
    intro ys
    rw [Diary.admitted, hadmissions, about, List.filter_eq_nil_iff]
    simp
  refine ⟨hadmissions, h.starts.trans (hnothing _), ?_⟩
  have hends := h.ends.trans (hnothing _)
  rw [h.answers, hnothing, Diary.latestEnd, hends]
  rfl

/-- A later deadline never admits fewer tasks. -/
lemma prefix_of_imp (h : Cut call t₀ D early tasks P T) (h' : Cut call t₀ D' early' tasks P T')
    (later : ∀ time, early time = true → early' time = true) : T.admitted <+: T'.admitted := by
  refine List.prefix_of_prefix_length_le h.given h'.given ?_
  rw [Diary.admitted, Diary.admitted, List.length_map, List.length_map, h.admissions,
    h'.admissions]
  exact List.Sublist.length_le (List.monotone_filter_right _ fun y => later y.1)

end Cut

end Diary

open Diary

/-- The slots of the tasks that are placed first. -/
lemma about_greedy {free : List Nat} {ts us : List (Task α)} (f : Slot α → Nat × Task α)
    (hf : ∀ s, (f s).2 = s.task) (nodup : ((ts ++ us).map Task.id).Nodup) :
    about ts ((greedy free (ts ++ us)).map f) = (greedy free ts).map f := by
  have htask : ∀ {free : List Nat} {ts : List (Task α)} {y : Nat × Task α},
      y ∈ (greedy free ts).map f → y.2 ∈ ts := by
    intro free ts y hy
    obtain ⟨s, hs, rfl⟩ := List.mem_map.1 hy
    rw [hf, ← map_task_greedy free ts]
    exact List.mem_map_of_mem hs
  rw [List.map_append, List.nodup_append] at nodup
  rw [greedy_append, List.map_append, about, List.filter_append]
  have hfirst : ((greedy free ts).map f).filter
      (fun y => (ts.map Task.id).contains y.2.id) = (greedy free ts).map f := by
    rw [List.filter_eq_self]
    intro y hy
    simpa using ⟨y.2, htask hy, rfl⟩
  have hrest : ((greedy (ts.foldl occupy free) us).map f).filter
      (fun y => (ts.map Task.id).contains y.2.id) = [] := by
    rw [List.filter_eq_nil_iff]
    intro y hy hmem
    have hmem : y.2.id ∈ ts.map Task.id := by simpa using hmem
    exact nodup.2.2 _ hmem _ (List.mem_map_of_mem (htask hy)) rfl
  rw [hfirst, hrest, List.append_nil]

/-- Entries can be sorted before some of them are picked. -/
lemma about_mergeSort {ts : List (Task α)} {ys : List (Nat × Task α)}
    (nodup : (ys.map (·.2.id)).Nodup) :
    about ts (ys.mergeSort sooner) = (about ts ys).mergeSort sooner := by
  refine eq_mergeSort ((List.mergeSort_perm ys sooner).filter _)
    ((pairwise_mergeSort_sooner ys).filter _) ?_
  exact (List.filter_sublist.map _).nodup nodup

namespace Batch

open Diary

variable {call t₀ m D : Nat} {deadline : Option Nat} {tasks left left' : List (Task α)}
  {d P T : Diary α}

namespace Completed

/-- Without a deadline no task is left. -/
lemma given_of_unlimited (h : Completed call t₀ m none tasks d left) : d.admitted = tasks := by
  have hleft : left = [] := by
    by_contra hne
    obtain ⟨D, hD, -⟩ := h.late hne
    cases hD
  have hgiven := h.given
  rwa [hleft, List.append_nil] at hgiven

/-- The call returns with values, if no task makes the submitter break down. -/
lemma answers_of_sturdy (h : Completed call t₀ m deadline tasks d left)
    (sturdy : ∀ t ∈ tasks, t.frail = false) :
    d.answers = [(d.latestEnd t₀, call, .batch (.ok (d.ends.filterMap (·.2.value?))))] := by
  obtain ⟨panicked, hanswers, hfrail⟩ := h.answers
  have hquiet := eq_false_of_sturdy hfrail fun t ht =>
    sturdy t (h.given ▸ List.mem_append_right _ ht)
  rw [hanswers, hquiet, Diary.ended, List.filterMap_map]
  rfl

/-- Places become free in the order of time, and none before the start. -/
lemma places_sorted (h : Completed call t₀ m deadline tasks d left) (hm : 0 < m) :
    (places t₀ m d).Pairwise (· ≤ ·) ∧ ∀ time ∈ places t₀ m d, t₀ ≤ time := by
  have hne : List.replicate m t₀ ≠ [] := by
    rw [ne_eq, List.replicate_eq_nil_iff]
    omega
  have hfree : ∀ x ∈ List.replicate m t₀, t₀ ≤ x := fun x hx =>
    Nat.le_of_eq (List.eq_of_mem_replicate hx).symm
  have hstarts : ∀ y ∈ d.starts, t₀ ≤ y.1 := by
    rw [h.starts]
    intro y hy
    obtain ⟨s, hs, rfl⟩ := List.mem_map.1 hy
    exact le_start hfree hne s hs
  constructor
  · rw [places, List.pairwise_append]
    refine ⟨List.pairwise_replicate.2 (.inr (Nat.le_refl _)), ?_, fun x hx y hy => ?_⟩
    · rw [h.starts, List.map_map, List.pairwise_map]
      exact pairwise_start hne
    · obtain ⟨z, hz, rfl⟩ := List.mem_map.1 hy
      rw [List.eq_of_mem_replicate hx]
      exact hstarts z hz
  · intro time htime
    rcases List.mem_append.1 htime with htime | htime
    · exact Nat.le_of_eq (List.eq_of_mem_replicate htime).symm
    · obtain ⟨z, hz, rfl⟩ := List.mem_map.1 htime
      exact hstarts z hz

/-- Nothing is admitted before the start. -/
lemma le_admission (h : Completed call t₀ m deadline tasks d left) (hm : 0 < m) :
    ∀ y ∈ d.admissions, t₀ ≤ y.1 := by
  intro y hy
  have hmem : y.1 ∈ d.admissions.map Prod.fst := List.mem_map_of_mem hy
  rw [h.admissions] at hmem
  exact (h.places_sorted hm).2 _ (List.mem_of_mem_take hmem)

/-- Without the deadline there are more places, after those with it. -/
lemma exists_places (hP : Completed call t₀ m none tasks P left')
    (hT : Completed call t₀ m deadline tasks T left) :
    ∃ more, places t₀ m P = places t₀ m T ++ more := by
  have hplan := greedy_append (List.replicate m t₀) T.admitted left
  rw [hT.given] at hplan
  refine ⟨((greedy (T.admitted.foldl occupy (List.replicate m t₀)) left).map
    Slot.opening).map Prod.fst, ?_⟩
  rw [places, places, hP.starts, hT.starts, hP.given_of_unlimited, hplan, List.map_append,
    List.map_append, List.append_assoc]

/-- Of the tasks that are admitted without the deadline the first ones are admitted, at the same
times. -/
lemma admissions_eq_take (hP : Completed call t₀ m none tasks P left')
    (hT : Completed call t₀ m deadline tasks T left) :
    T.admissions = P.admissions.take T.admissions.length := by
  obtain ⟨more, hmore⟩ := exists_places hP hT
  have hadmitted : P.admissions.map Prod.snd = tasks := hP.given_of_unlimited
  have hlen : T.admissions.length ≤ P.admissions.length := by
    have := congrArg List.length hT.given
    rw [← hadmitted, List.length_append, Diary.admitted, List.length_map, List.length_map] at this
    omega
  have hroom : T.admissions.length ≤ (places t₀ m T).length := by
    have := congrArg List.length hT.admissions
    rw [List.length_map, List.length_take] at this
    omega
  have htimes : T.admissions.map Prod.fst =
      (P.admissions.take T.admissions.length).map Prod.fst := by
    rw [List.map_take, hP.admissions, List.take_take, Nat.min_eq_left hlen, hmore,
      List.take_append_of_le_length hroom, ← hT.admissions]
  have htasks : T.admissions.map Prod.snd =
      (P.admissions.take T.admissions.length).map Prod.snd := by
    rw [List.map_take, hadmitted, ← hT.given, List.take_left']
    · rfl
    · simp [Diary.admitted]
  exact (List.zip_of_prod htimes htasks).trans (List.zip_of_prod rfl rfl).symm

/-- What is admitted without the deadline and not with it is admitted at the deadline or later. -/
lemma late_of_drop (hP : Completed call t₀ m none tasks P left')
    (hT : Completed call t₀ m (some D) tasks T left) (hm : 0 < m) :
    ∀ y ∈ P.admissions.drop T.admissions.length, D ≤ y.1 := by
  intro y hy
  obtain ⟨more, hmore⟩ := exists_places hP hT
  have hadmitted : P.admissions.map Prod.snd = tasks := hP.given_of_unlimited
  -- some tasks are left
  have hleft : left ≠ [] := by
    rintro rfl
    have hlen : P.admissions.length = T.admissions.length := by
      have := congrArg List.length hT.given
      rw [List.append_nil, ← hadmitted, Diary.admitted, List.length_map, List.length_map] at this
      exact this.symm
    rw [← hlen, List.drop_length] at hy
    cases hy
  obtain ⟨D', hD', hlate⟩ := hT.late hleft
  cases hD'
  have hlt : T.admissions.length < (places t₀ m T).length := by
    have hstarted := congrArg List.length hT.starts
    rw [List.length_map, length_greedy, Diary.admitted, List.length_map] at hstarted
    rw [places, List.length_append, List.length_replicate, List.length_map]
    omega
  have hmem : y.1 ∈ (places t₀ m P).drop T.admissions.length := by
    have hfst : y.1 ∈ (P.admissions.map Prod.fst).drop T.admissions.length := by
      rw [← List.map_drop]
      exact List.mem_map_of_mem hy
    rw [hP.admissions, List.drop_take] at hfst
    exact List.mem_of_mem_take hfst
  rw [hmore, List.drop_append_of_le_length (Nat.le_of_lt hlt)] at hmem
  rcases List.mem_append.1 hmem with hmem | hmem
  · exact hlate _ hmem
  · -- a place that comes later than one that is there at the deadline
    have hplace : (places t₀ m T)[T.admissions.length] ∈
        (places t₀ m T).drop T.admissions.length := by
      rw [List.drop_eq_getElem_cons hlt]
      exact List.mem_cons_self
    have hsorted := (hP.places_sorted hm).1
    rw [hmore, List.pairwise_append] at hsorted
    exact Nat.le_trans (hlate _ hplace) (hsorted.2.2 _ (List.getElem_mem hlt) _ hmem)

/-- **A batch with a deadline is the batch without one cut at the deadline.** -/
theorem cut (hP : Completed call t₀ m none tasks P left')
    (hT : Completed call t₀ m (some D) tasks T left) (hm : 0 < m) (timed : Timed tasks)
    (sturdy : ∀ t ∈ tasks, t.frail = false) {early : Nat → Bool}
    (hearly : ∀ time, early time = true ↔ time < D) : Cut call t₀ D early tasks P T := by
  have hgiven := hT.given
  have hnodup : ((T.admitted ++ left).map Task.id).Nodup := hgiven ▸ timed.nodup
  have hstarts : T.starts = about T.admitted P.starts := by
    rw [hP.starts, hP.given_of_unlimited, hT.starts, ← hgiven,
      about_greedy _ (fun _ => rfl) hnodup]
  have hends : T.ends = about T.admitted P.ends := by
    have hids : (((greedy (List.replicate m t₀) (T.admitted ++ left)).map Slot.ending).map
        (·.2.id)).Nodup := by
      have hcomp : (fun y : Nat × Task α => y.2.id) ∘ Slot.ending = Task.id ∘ Slot.task := rfl
      rw [List.map_map, hcomp, ← List.map_map, map_task_greedy]
      exact hnodup
    rw [hP.ends, hP.given_of_unlimited, hT.ends, ← hgiven, about_mergeSort hids,
      about_greedy _ (fun _ => rfl) hnodup]
  have hadmissions : T.admissions = P.admissions.filter fun y => early y.1 := by
    have htake := admissions_eq_take hP hT
    have hfirst : (P.admissions.take T.admissions.length).filter (fun y => early y.1) =
        P.admissions.take T.admissions.length := by
      rw [List.filter_eq_self, ← htake]
      exact fun y hy => (hearly _).2 (hT.early D rfl y hy)
    have hrest : (P.admissions.drop T.admissions.length).filter (fun y => early y.1) = [] := by
      rw [List.filter_eq_nil_iff]
      intro y hy hlt
      exact Nat.not_lt.2 (late_of_drop hP hT hm y hy) ((hearly _).1 hlt)
    conv_rhs => rw [← List.take_append_drop T.admissions.length P.admissions]
    rw [List.filter_append, hfirst, hrest, List.append_nil, ← htake]
  refine ⟨hearly, hadmissions, ⟨left, hgiven⟩, ?_, hstarts, ?_, hends, ?_, ?_⟩
  · rw [Diary.started, hT.starts, List.map_map]
    exact map_task_greedy _ T.admitted
  · have hperm := (List.mergeSort_perm
      ((greedy (List.replicate m t₀) T.admitted).map Slot.ending) sooner).map Prod.snd
    rw [Diary.ended, hT.ends]
    refine hperm.trans ?_
    rw [List.map_map]
    exact .of_eq (map_task_greedy _ T.admitted)
  · have hdrop : tasks.drop T.admissions.length = left := by
      rw [← hgiven, List.drop_left']
      simp [Diary.admitted]
    rw [hT.discards, hdrop]
    rfl
  · rw [hT.answers_of_sturdy sturdy, ← hends]

end Completed

end Batch

/-! ## In a scene -/

namespace Stage

open Scene History Batch Diary

/-- The diary of a batch that is begun at a stage, when the clock has moved on. -/
def batchDiary (g : Stage α) (size : Nat) (tasks : List (Task α)) (ms : Nat)
    (admission : Admission) : Diary α :=
  diaryAt (.batch g.scene.batches.length)
    (g.scene.reach g.calls [.batch size tasks admission, .advance ms]).2

/-- A timeout whose deadline does not fit the clock is none. -/
lemma reach_of_unfit {s : Scene α} {call size seconds nanoseconds : Nat} {tasks : List (Task α)}
    (unfit : (Admission.within seconds nanoseconds).deadline? s.now = none)
    (cs : List (Command α)) :
    s.reach call (.batch size tasks (.within seconds nanoseconds) :: cs) =
      s.reach call (.batch size tasks .unlimited :: cs) := by
  have hstart : ∀ parentCancelled,
      Batch.start true s.now call size tasks (.within seconds nanoseconds) parentCancelled =
        Batch.start true s.now call size tasks .unlimited parentCancelled := by
    intro parentCancelled
    simp only [Batch.start, unfit]
    rfl
  have hnew : s.newBatch call size tasks (.within seconds nanoseconds) =
      s.newBatch call size tasks .unlimited := by
    unfold Scene.newBatch
    rw [hstart]
  rw [reach, reach, perform, perform, hnew]

/-- Four tasks of two milliseconds each. -/
def slowTasks : List (Task Nat) :=
  (List.range 4).map fun i => {
    id := ⟨0, some i⟩, duration := some 2, outcome := .value i, frail := false, trace := none }

/-- They carry their indices. -/
lemma numbered_slowTasks : Numbered 0 slowTasks := by
  intro i t ht
  rcases i with _ | _ | _ | _ | i <;> simp [slowTasks] at ht <;> rw [← ht]

/-- **A timed batch is the plain batch cut at its deadline.** Begin a batch with a timeout and the
same batch without a limit in the same scene, and let the clock move beyond the end of the second.
The first one is the second one cut at the deadline. Hence a zero timeout runs nothing, a longer
timeout never admits fewer tasks, and a timeout whose deadline does not fit the clock is none. -/
theorem Steps.timed_batch_cut {h : History α} {g : Stage α} (run : Steps {} h g)
    (named : h.Named) {size : Nat} {tasks : List (Task α)} (hsize : 0 < size) (hne : tasks ≠ [])
    (numbered : Numbered g.calls tasks) (lengths : ∀ t ∈ tasks, t.duration.isSome)
    (sturdy : ∀ t ∈ tasks, t.frail = false) {ms : Nat}
    (enough : ∀ slot ∈ greedy (List.replicate (min size tasks.length) g.scene.now) tasks,
      slot.finish ≤ g.scene.now + ms) :
    let plain := g.batchDiary size tasks ms .unlimited
    let timed := fun seconds nanoseconds =>
      g.batchDiary size tasks ms (.within seconds nanoseconds)
    plain.answers = [(plain.latestEnd g.scene.now, g.calls,
        .batch (.ok (plain.ends.filterMap (·.2.value?))))] ∧
      (∀ seconds nanoseconds D,
        (Admission.within seconds nanoseconds).deadline? g.scene.now = some D →
        Cut g.calls g.scene.now D (beforeTimeout g.scene.now seconds nanoseconds) tasks plain
          (timed seconds nanoseconds)) ∧
      (∀ D, (Admission.within 0 0).deadline? g.scene.now = some D →
        (timed 0 0).admissions = [] ∧ (timed 0 0).starts = [] ∧
          (timed 0 0).answers = [(g.scene.now, g.calls, .batch (.ok []))]) ∧
      (∀ seconds nanoseconds seconds' nanoseconds',
        seconds * 1000000000 + nanoseconds ≤ seconds' * 1000000000 + nanoseconds' →
        (timed seconds nanoseconds).admitted <+: (timed seconds' nanoseconds').admitted) ∧
      ∀ seconds nanoseconds,
        (Admission.within seconds nanoseconds).deadline? g.scene.now = none →
        ∀ cs, g.scene.reach g.calls (.batch size tasks (.within seconds nanoseconds) :: cs) =
          g.scene.reach g.calls (.batch size tasks .unlimited :: cs) := by
  intro plain timed
  have hm := min_pos hsize hne
  have htimed := numbered.timed lengths
  obtain ⟨left', hplain⟩ := exists_completed_advance run named hsize hne numbered lengths
    .unlimited rfl enough
  have hplain : Completed g.calls g.scene.now (min size tasks.length) none tasks plain left' :=
    hplain
  have hcut : ∀ seconds nanoseconds D,
      (Admission.within seconds nanoseconds).deadline? g.scene.now = some D →
      Cut g.calls g.scene.now D (beforeTimeout g.scene.now seconds nanoseconds) tasks plain
        (timed seconds nanoseconds) := by
    intro seconds nanoseconds D hD
    obtain ⟨left, hcompleted⟩ := exists_completed_advance run named hsize hne numbered lengths
      (.within seconds nanoseconds) rfl enough
    rw [hD] at hcompleted
    exact hplain.cut hcompleted hm htimed sturdy fun time => beforeTimeout_iff hD
  have hunfit : ∀ seconds nanoseconds,
      (Admission.within seconds nanoseconds).deadline? g.scene.now = none →
      timed seconds nanoseconds = plain := by
    intro seconds nanoseconds hnone
    show diaryAt _ _ = diaryAt _ _
    rw [reach_of_unfit hnone]
  refine ⟨hplain.answers_of_sturdy sturdy, hcut, ?_, ?_, fun _ _ hnone => reach_of_unfit hnone⟩
  · -- a zero timeout
    intro D hD
    refine (hcut 0 0 D hD).eq_nil fun y hy => ?_
    have hle := hplain.le_admission hm y hy
    simp only [beforeTimeout, decide_eq_false_iff_not]
    omega
  · -- a longer timeout
    intro seconds nanoseconds seconds' nanoseconds' hle
    cases hlong : (Admission.within seconds' nanoseconds').deadline? g.scene.now with
    | none =>
      rw [hunfit _ _ hlong, hplain.given_of_unlimited]
      cases hshort : (Admission.within seconds nanoseconds).deadline? g.scene.now with
      | none =>
        have hall : (timed seconds nanoseconds).admitted = tasks := by
          rw [hunfit _ _ hshort, hplain.given_of_unlimited]
        exact ⟨[], (List.append_nil _).trans hall⟩
      | some D => exact (hcut _ _ D hshort).given
    | some D' =>
      cases hshort : (Admission.within seconds nanoseconds).deadline? g.scene.now with
      | none =>
        rw [deadline?_mono hle hshort] at hlong
        cases hlong
      | some D =>
        refine (hcut _ _ D hshort).prefix_of_imp (hcut _ _ D' hlong) fun time htime => ?_
        simp only [beforeTimeout, decide_eq_true_eq] at htime ⊢
        exact Nat.lt_of_lt_of_le htime (Nat.add_le_add_left hle _)

/-- The four tasks on one worker with a timeout of one and a half milliseconds: the last one would
be admitted after two milliseconds. -/
theorem timed_batch_cut_slow :
    let plain := ({} : Stage Nat).batchDiary 1 slowTasks 8 .unlimited
    let timed := ({} : Stage Nat).batchDiary 1 slowTasks 8 (.within 0 1500000)
    plain.admissions.map Prod.fst = [0, 0, 0, 2] ∧
      Cut 0 0 2 (beforeTimeout 0 0 1500000) slowTasks plain timed ∧
      timed.admissions.length = 3 ∧ timed.discards = (slowTasks.drop 3).map (2, ·) := by
  intro plain timed
  have hne : slowTasks ≠ [] := by simp [slowTasks]
  have henough : ∀ slot ∈ greedy (List.replicate (min 1 slowTasks.length) 0) slowTasks,
      slot.finish ≤ 0 + 8 := by decide
  obtain ⟨-, hcut, -⟩ := Steps.timed_batch_cut (.refl ({} : Stage Nat)) .nil Nat.one_pos hne
    numbered_slowTasks (by simp [slowTasks]) (by simp [slowTasks]) henough
  have hcut : Cut 0 0 2 (beforeTimeout 0 0 1500000) slowTasks plain timed := hcut 0 1500000 2 rfl
  have hlength : timed.admissions.length = 3 := by decide +kernel
  refine ⟨by decide +kernel, hcut, hlength, ?_⟩
  rw [hcut.discards, hlength]

end Stage

end Workforce
