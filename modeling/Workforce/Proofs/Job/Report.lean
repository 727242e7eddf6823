import Workforce.Program
import Workforce.Proofs.Job.Result
/-!
# What a job reports

A job processes its items in their order, from the first to some item, and notes each of them once
in the span of its own trace context. It returns the numbers of the items that were processed and
are not skipped, and notes how many they are. A job with more items than tasks fit into a list
panics once it has noted its start, and processes none.

## Main definitions

* `Workforce.JobRun.processed` — the items that are processed.
* `Workforce.JobConfig.notes` — what a job notes itself.
* `Workforce.JobConfig.Report` — what a job reports when it has processed so many items.

## Main results

* `Workforce.JobRun.notes_eq` — what a job notes itself are its start, its items and its end.
* `Workforce.JobConfig.items_reported` — what every job on at least one worker reports.

## Implementation notes

A request to shut down that comes before the batch is complete stops admission for good: the pool
takes no task from then on, and none that waits in its queue is started.
-/

namespace Workforce

open Scene Occurrence Trail

/-! ## What a job notes -/

/-- The record of an item that is processed. -/
def itemRecord (rootId : String) (item : Nat) : Record where
  note := ⟨.info, .job, "Process item " ++ toString item⟩
  span := some (TraceContext.childId rootId item)

/-- The items that are processed in some phases. -/
def itemsOf (ps : List (Phase Nat)) : List Nat :=
  (collect started? ((JobRun.eventsOf ps).map event)).map itemOf

/-- What a job notes itself, from its start to its end or its panic. A signal may be the request to
shut down. -/
def JobConfig.notes (seed : UInt64) (showTime : Nat → String) (signal : Option Signal)
    (c : JobConfig) (run : Except JobPanic JobRun) : List Record :=
  (c.records (c.root seed).id showTime ((signal.map Signal.announcement).getD []) run).filter
    fun record => record.note.origin = .job

namespace JobRun

variable {r : JobRun}

/-- The items that are processed. -/
def processed (r : JobRun) : List Nat := itemsOf r.phases

/-- Numbering events does not change them. -/
lemma map_snd_number {α : Type} (t : Tally) (es : List (Event α)) :
    (t.number es).map Prod.snd = es := by
  induction es generalizing t with
  | nil => rfl
  | cons e es ih => rw [Tally.number, List.map_cons, ih]

/-- Of what happens the job itself notes the items. -/
lemma filter_record? (es : List (Nat × Event Nat)) :
    (es.filterMap fun (worker, e) => e.record? worker).filter
        (fun record => record.note.origin = .job) =
      (collect started? ((es.map Prod.snd).map event)).map fun t =>
        { note := ⟨.info, .job, "Process item " ++ toString (itemOf t)⟩, span := t.trace } := by
  induction es with
  | nil => rfl
  | cons e es ih =>
    obtain ⟨worker, e⟩ := e
    rw [List.filterMap_cons, List.map_cons, List.map_cons, collect_cons, List.map_append, ← ih]
    cases e <;> rfl

/-- What announces a request to shut down is not noted by the job. -/
lemma filter_announcement (signal : Option Signal) :
    ((signal.map Signal.announcement).getD []).filter
      (fun record => record.note.origin = .job) = [] := by
  cases signal <;> rfl

/-- Neither is its end by others. -/
lemma filter_ending? (showTime : Nat → String) (r : JobRun) :
    (r.ending? showTime).toList.filter (fun record => record.note.origin = .job) =
      (r.ending? showTime).toList := by
  unfold ending?
  cases r.result <;> rfl

/-- **What a job notes itself** are its start, its items and its end. -/
theorem notes_eq (seed : UInt64) (showTime : Nat → String) (signal : Option Signal)
    (c : JobConfig) : c.notes seed showTime signal (.ok r) = c.opening (c.root seed).id ::
      ((collect started? ((eventsOf r.phases).map event)).map fun t =>
        { note := ⟨.info, .job, "Process item " ++ toString (itemOf t)⟩, span := t.trace }) ++
      (r.ending? showTime).toList := by
  have hsplit (xs : List (Nat × Event Nat)) (n : Nat) :
      collect started? ((xs.map Prod.snd).map event) =
        collect started? (((xs.take n).map Prod.snd).map event) ++
          collect started? (((xs.drop n).map Prod.snd).map event) := by
    rw [← collect_append, ← List.map_append, ← List.map_append, List.take_append_drop]
  have hnumbered := hsplit (({} : Tally).number (eventsOf r.phases)) (eventsOf r.before).length
  rw [map_snd_number] at hnumbered
  have hannounce : (if r.onward.isSome then (signal.map Signal.announcement).getD [] else []).filter
      (fun record => record.note.origin = .job) = [] := by
    split
    · exact filter_announcement signal
    · rfl
  rw [JobConfig.notes, JobConfig.records, List.filter_cons_of_pos (by rfl), records]
  simp only [List.filter_append, filter_record?, hannounce, filter_ending?]
  rw [hnumbered, List.map_append, List.append_nil, List.cons_append]

end JobRun

/-! ## What a job reports -/

namespace JobConfig

variable {c : JobConfig} {seed : UInt64} {early interrupted : Prop} {r : JobRun} {k : Nat}

/-- What a job reports when it has processed so many items. It was told to shut down before its
batch was complete, or even before it began, or it was not. -/
structure Report (seed : UInt64) (early interrupted : Prop) (c : JobConfig) (k : Nat) (r : JobRun) :
    Prop where
  bound : k ≤ c.batchItems
  /-- The first items are processed, in their order. -/
  processed : r.processed = List.range' 1 k
  /-- The job notes its start, each of these items in the span of its own trace context, and its end
  if it has not failed. -/
  notes : ∀ showTime signal, c.notes seed showTime signal (.ok r) =
    c.opening (c.root seed).id :: (List.range' 1 k).map (itemRecord (c.root seed).id) ++
      (r.ending? showTime).toList
  /-- It returns the numbers of the items that are not skipped, on one worker in their order. -/
  values : ∀ values, r.result = .ok values →
    values.Perm ((List.range' 1 k).filter (c.Yields ·)) ∧
      values.length = (if c.skipEvery = 0 then k else k - k / c.skipEvery) ∧
      (min c.numWorkers c.batchItems = 1 → values.Pairwise (· < ·))
  /-- Then it notes its end and how many they are. -/
  ending : ∀ showTime values, r.result = .ok values → ∃ rest,
    (r.ending? showTime).map (fun record => record.note.text) =
      some ("End job, " ++ toString values.length ++ " values in " ++ rest)
  /-- If it is not told to shut down before its batch is complete, it processes all items, unless
  the others are discarded when the submit timeout is over. -/
  complete : ¬ interrupted → k = c.batchItems ∨ ∃ ms, c.submitTimeout = some ms ∧
    r.diary.discards.map (fun y => (y.1, itemOf y.2)) =
      (List.range' (k + 1) (c.batchItems - k)).map (ms, ·)
  /-- A job without a submit timeout processes no item once it is told to shut down, and those that
  it processes to the end. -/
  stopped : c.submitTimeout = none →
    itemsOf (r.onward.getD []) = [] ∧ (early → k = 0) ∧
      (r.diary.ended.map itemOf).Perm (List.range' 1 k) ∧ ∃ values, r.result = .ok values

/-- The records of the first items. -/
lemma records_take (hk : k ≤ c.batchItems) :
    (((c.tasks (c.root seed)).take k).map fun t => ({
      note := ⟨.info, .job, "Process item " ++ toString (itemOf t)⟩, span := t.trace } : Record)) =
      (List.range' 1 k).map (itemRecord (c.root seed).id) := by
  rw [c.take_tasks (c.born_root seed) hk, List.map_map, List.range'_eq_map_range, List.map_map]
  refine List.map_congr_left fun i _ => ?_
  simp only [Function.comp_apply, itemRecord, itemOf, task, Option.getD_some, Nat.add_comm 1 i]
  rfl

/-- The items after the first ones. -/
lemma items_drop (seed : UInt64) (c : JobConfig) (k : Nat) :
    ((c.tasks (c.root seed)).drop k).map itemOf = List.range' (k + 1) (c.batchItems - k) := by
  have hall := c.items_take (c.born_root seed) (Nat.le_refl c.batchItems)
  rw [List.take_of_length_le (Nat.le_of_eq (c.length_tasks (c.born_root seed)))] at hall
  rw [List.map_drop, hall, List.drop_range', Nat.mul_one, Nat.add_comm 1 k]

/-- **What a job reports** is told by what comes of it. -/
theorem Result.report (h : c.Result seed early interrupted r) :
    ∃ k, c.Report seed early interrupted k r := by
  let k := r.diary.started.length
  have htake : r.diary.started = (c.tasks (c.root seed)).take k :=
    List.prefix_iff_eq_take.1 h.started
  have hk : k ≤ c.batchItems := by
    rw [← c.length_tasks (c.born_root seed)]
    exact h.started.length_le
  have hstarted : collect started? ((JobRun.eventsOf r.phases).map event) = r.diary.started :=
    collect_of_inner h.inner
  have hitems : r.diary.started.map itemOf = List.range' 1 k := by
    rw [htake, c.items_take (c.born_root seed) hk]
  refine ⟨k, hk, ?_, fun showTime signal => ?_, fun values hvalues => ?_,
    fun showTime values hvalues => ?_, fun hfree => ?_, fun hfollow => ?_⟩
  · rw [JobRun.processed, itemsOf, hstarted, hitems]
  · rw [r.notes_eq, hstarted, htake, records_take hk]
  · have hreturned : ¬(c.submitTimeout.isSome = true ∧ interrupted) := fun hboth => by
      have hresult := h.fails hboth.1 hboth.2
      rw [hvalues] at hresult
      cases hresult
    obtain ⟨hresult, hended, hserial⟩ := h.returned hreturned
    rw [hvalues] at hresult
    cases hresult
    have hyields : r.diary.started.filterMap Task.value? =
        (List.range' 1 k).filter (c.Yields ·) := by
      rw [htake, c.values_take (c.born_root seed) hk]
    have hperm := hended.filterMap Task.value?
    rw [hyields] at hperm
    refine ⟨hperm, hperm.length_eq.trans (c.length_yields k), fun one => ?_⟩
    rw [hserial one, hyields]
    exact (List.pairwise_lt_range' 1 Nat.one_pos).filter _
  · rw [JobRun.ending?, hvalues]
    exact ⟨_, by simp only [Option.map_some, String.append_assoc]; rfl⟩
  · refine (h.complete hfree).imp (fun hall => ?_) fun ⟨ms, hms, hdiscards⟩ => ⟨ms, hms, ?_⟩
    · show r.diary.started.length = _
      rw [hall, c.length_tasks (c.born_root seed)]
    · rw [hdiscards, List.map_map, ← items_drop seed c k, List.map_map]
      rfl
  · obtain ⟨honward, hearly⟩ := h.stopped hfollow
    obtain ⟨hresult, hended, -⟩ := h.returned (by simp [hfollow])
    refine ⟨?_, fun he => ?_, hitems ▸ hended.map itemOf, ⟨_, hresult⟩⟩
    · have honwardInner : ∀ p ∈ r.onward.getD [], p.Inner := fun p hp =>
        h.inner p (List.mem_append_right _ hp)
      rw [itemsOf, JobRun.eventsOf, collect_of_inner honwardInner, Diary.started, honward]
      rfl
    · show r.diary.started.length = 0
      rw [Diary.started, hearly he]
      rfl

/-- A job that panics has noted its start. -/
lemma notes_error (c : JobConfig) (seed : UInt64) (showTime : Nat → String)
    (signal : Option Signal) (p : JobPanic) :
    c.notes seed showTime signal (.error p) = [c.opening (c.root seed).id] := rfl

/-- **What a job reports**, on at least one worker, with or without a submit timeout, and whenever
the request to shut down comes: before the job, when the clock stops while the batch runs, or at any
moment between. A job of `2 ^ 59` items or more panics instead: it notes its start and processes
no item. -/
theorem items_reported (hworkers : 1 ≤ c.numWorkers) (seed : UInt64) :
    (c.batchItems < 2 ^ 59 →
      (∀ interrupt, ∃ r k, c.run seed interrupt = .ok r ∧
        c.Report seed (interrupt {} = true) (c.Interrupted seed interrupt) k r) ∧
      ∀ ps s, Ticks (nearDeadlines patience) (c.begun (c.root seed) false).1 ps s →
        complete s = false → ∃ k, c.Report seed False True k (c.stoppedAt seed ps s)) ∧
    (2 ^ 59 ≤ c.batchItems → ∀ interrupt, c.run seed interrupt = .error .capacityOverflow ∧
      ∀ showTime signal, c.notes seed showTime signal (c.run seed interrupt) =
        [c.opening (c.root seed).id]) := by
  refine ⟨fun few => ⟨fun interrupt => ?_, fun _ _ ticks going =>
    (result_stoppedAt hworkers ticks going).report⟩, fun many interrupt => ?_⟩
  · obtain ⟨k, hreport⟩ := (result_carriedOut hworkers seed interrupt).report
    exact ⟨_, k, run_of_fits (c.fits_iff.2 few) seed interrupt, hreport⟩
  · have hpanic := run_of_not_fits (c.not_fits_iff.2 many) seed interrupt
    exact ⟨hpanic, fun showTime signal => hpanic ▸ c.notes_error seed showTime signal _⟩

/-- Three items on one worker, of which the second is skipped, without a request to shut down. -/
theorem items_reported_three :
    let c : JobConfig := ⟨1, 3, 50, none, 2, some "r"⟩
    ∃ r, c.run 0 (fun _ => false) = .ok r ∧ r.processed = [1, 2, 3] ∧ r.result = .ok [1, 3] ∧
      ∀ showTime, ∃ rest,
        (c.notes 0 showTime none (.ok r)).map (fun record => (record.note.text, record.span)) =
          [("Start job with 3 items on 1 workers", none), ("Process item 1", some "r_1"),
            ("Process item 2", some "r_2"), ("Process item 3", some "r_3"),
            ("End job, 2 values in " ++ rest, none)] := by
  intro c
  obtain ⟨r, k, hrun, hreport⟩ :=
    ((items_reported (c := c) (Nat.le_refl 1) 0).1 (by decide)).1 fun _ => false
  have hfree : ¬ c.Interrupted 0 fun _ => false := by simp [Interrupted]
  obtain rfl : k = 3 := by
    obtain h | ⟨ms, hms, -⟩ := hreport.complete hfree
    · exact h
    · cases hms
  obtain ⟨-, -, -, values, hresult⟩ := hreport.stopped rfl
  obtain ⟨hperm, -, hsorted⟩ := hreport.values values hresult
  have hyields : (List.range' 1 3).filter (c.Yields ·) = [1, 3] := by decide
  rw [hyields] at hperm
  obtain rfl : values = [1, 3] := hperm.eq_of_pairwise
    (fun _ _ _ _ h h' => absurd h' (Nat.lt_asymm h)) (hsorted rfl) (by decide)
  refine ⟨r, hrun, hreport.processed, hresult,
    fun showTime => ⟨showTime r.elapsed ++ ": [1, 3]", ?_⟩⟩
  have hbegin : (c.opening (c.root 0).id :: (List.range' 1 3).map (itemRecord (c.root 0).id)).map
      (fun record => (record.note.text, record.span)) =
        [("Start job with 3 items on 1 workers", none), ("Process item 1", some "r_1"),
          ("Process item 2", some "r_2"), ("Process item 3", some "r_3")] := by decide
  have hcount :
      "End job, " ++ toString [1, 3].length ++ " values in " = "End job, 2 values in " := by
    decide
  have hvalues : ": " ++ showValues [1, 3] = ": [1, 3]" := by decide
  rw [hreport.notes, JobRun.ending?, hresult, List.map_append, hbegin]
  simp only [Option.toList_some, List.map_cons, List.map_nil, List.cons_append, List.nil_append]
  rw [hcount, String.append_assoc, hvalues, String.append_assoc]

/-- A job of `2 ^ 59` items processes none of them, although it has no submit timeout and is never
told to shut down. -/
theorem items_not_reported :
    let c : JobConfig := ⟨1, 2 ^ 59, 0, none, 0, some "r"⟩
    c.submitTimeout = none ∧ ¬ c.Interrupted 0 (fun _ => false) ∧
      (¬ ∃ r k, c.run 0 (fun _ => false) = .ok r ∧
        c.Report 0 False (c.Interrupted 0 fun _ => false) k r) ∧
      ∀ showTime, (c.notes 0 showTime none (c.run 0 fun _ => false)).map (·.note.text) =
        ["Start job with 576460752303423488 items on 1 workers"] := by
  intro c
  have hpanic : c.run 0 (fun _ => false) = .error .capacityOverflow :=
    run_of_not_fits (by decide) 0 _
  refine ⟨rfl, by simp [Interrupted], fun ⟨r, k, hrun, _⟩ => ?_, fun showTime => ?_⟩
  · rw [hpanic] at hrun
    cases hrun
  · rw [hpanic, notes_error]
    decide

end JobConfig

end Workforce
