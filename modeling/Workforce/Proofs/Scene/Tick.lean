import Workforce.Proofs.Scene.Action
import Workforce.Proofs.Batch.Punctual
import Workforce.Proofs.Accounting
/-!
# What happens by itself

Between two commands tasks end and the clock moves. Of the tasks that are due the first one ends,
and the clock stops at the end of every running task and at certain deadlines. What the commands do
that move the clock consists of such actions.

## Main definitions

* `Workforce.Scene.Timely` — the action comes by itself.
* `Workforce.Scene.Leads` — one scene leads to another one without a command.
* `Workforce.Scene.Ticks` — such actions one after the other.
* `Workforce.Scene.Proper` — the scene has been reached with tasks that carry the names of their
  calls.

## Main results

* `Workforce.Scene.ticks_finishDue`, `ticks_advanceTo`, `ticks_run` — the commands that move the
  clock consist of such actions.
* `Workforce.Scene.firstDue?_perform` — after a command no task is due.
* `Workforce.Scene.Proper.onTime` — what comes by itself comes on time for every batch.
-/

namespace Workforce

open Occurrence Trail History

variable {α : Type}

/-! ## The run that ends first -/

namespace Run

/-- Of two runs one ends before the other. -/
lemma endsBefore_total (r s : Run α) : r.endsBefore s = true ∨ s.endsBefore r = true := by
  unfold endsBefore
  cases hr : r.due <;> cases hs : s.due
  · exact TaskId.before_total _ _
  · exact .inr rfl
  · exact .inl rfl
  · next a b =>
    rcases Nat.lt_trichotomy a b with h | h | h
    · exact .inl (by simp [h])
    · subst h
      simpa using TaskId.before_total r.task.id s.task.id
    · exact .inr (by simp [h])

/-- Runs are ordered by their ends. -/
lemma endsBefore_trans {r s t : Run α} (hrs : r.endsBefore s = true)
    (hst : s.endsBefore t = true) : r.endsBefore t = true := by
  unfold endsBefore at *
  cases hr : r.due <;> cases hs : s.due <;> cases ht : t.due <;>
    simp only [hr, hs, ht, Bool.false_eq_true, Bool.or_eq_true, Bool.and_eq_true,
      decide_eq_true_eq, beq_iff_eq] at hrs hst ⊢
  · exact TaskId.before_trans hrs hst
  · rcases hrs with hrs | ⟨hrs, hb⟩ <;> rcases hst with hst | ⟨hst, hb'⟩
    · exact .inl (Nat.lt_trans hrs hst)
    · exact .inl (hst ▸ hrs)
    · exact .inl (hrs ▸ hst)
    · exact .inr ⟨hrs.trans hst, TaskId.before_trans hb hb'⟩

/-- Of runs of two tasks only one ends before the other. -/
lemma endsBefore_antisymm {r s : Run α} (hrs : r.endsBefore s = true)
    (hsr : s.endsBefore r = true) : r.task.id = s.task.id := by
  unfold endsBefore at *
  cases hr : r.due <;> cases hs : s.due <;>
    simp only [hr, hs, Bool.false_eq_true, Bool.or_eq_true, Bool.and_eq_true,
      decide_eq_true_eq, beq_iff_eq] at hrs hsr
  · exact TaskId.before_antisymm hrs hsr
  · rcases hrs with hrs | ⟨heq, hb⟩ <;> rcases hsr with hsr | ⟨heq', hb'⟩
    · omega
    · omega
    · omega
    · exact TaskId.before_antisymm hb hb'

/-- The run that ends first ends before all others. -/
lemma endsBefore_of_earliest {rs : List (Run α)} {r : Run α} (h : earliest rs = some r) :
    ∀ s ∈ rs, r.endsBefore s = true := by
  induction rs generalizing r with
  | nil => cases h
  | cons q rs ih =>
    intro s hs
    have hrefl : ∀ p : Run α, p.endsBefore p = true := fun p => (endsBefore_total p p).elim id id
    unfold earliest at h
    split at h
    · next hnone =>
      cases h
      have hnil : rs = [] := by
        by_contra hne
        have hsome := isSome_earliest hne
        rw [hnone] at hsome
        cases hsome
      rw [hnil, List.mem_singleton] at hs
      rw [hs]
      exact hrefl _
    · next p hp =>
      split at h
      · next hq =>
        cases h
        rcases List.mem_cons.1 hs with rfl | hs
        · exact hrefl s
        · exact endsBefore_trans hq (ih hp s hs)
      · next hq =>
        cases h
        rcases List.mem_cons.1 hs with rfl | hs
        · exact (endsBefore_total s r).resolve_left hq
        · exact ih hp s hs

end Run

namespace History

/-- Events hand over no task. -/
lemma Named.append_entries {h : History α} (named : h.Named)
    (es : List (Entry α)) : History.Named (h ++ ofEntries es) where
  asked place q c hq := by
    rcases List.mem_append.1 hq with hq | hq
    · exact named.asked place q c hq
    · simp [ofEntries] at hq
  batched place c tasks i t hq := by
    rcases List.mem_append.1 hq with hq | hq
    · exact named.batched place c tasks i t hq
    · simp [ofEntries] at hq

end History

namespace Scene

variable {s t u : Scene α} {ps qs : List (Phase α)} {deadlines : Scene α → List Nat}

/-- If no task is due first, none is due. -/
lemma not_due_of_firstDue? (h : s.firstDue? = none) {r : Run α} (hr : r ∈ s.runs) :
    r.isDue s.now = false := by
  by_contra hdue
  have hne : s.runs.filter (·.isDue s.now) ≠ [] :=
    List.ne_nil_of_mem (List.mem_filter.2 ⟨hr, by simpa using hdue⟩)
  have hsome := Run.isSome_earliest hne
  rw [show Run.earliest (s.runs.filter (·.isDue s.now)) = none from h] at hsome
  cases hsome

/-- Then all ends lie ahead. -/
lemma mem_endsAhead (h : s.firstDue? = none) {r : Run α} (hr : r ∈ s.runs) {time : Nat}
    (hdue : r.due = some time) : time ∈ s.endsAhead := by
  have hlate := not_due_of_firstDue? h hr
  simp only [Run.isDue, hdue, Option.any_some, decide_eq_false_iff_not, Nat.not_le] at hlate
  exact List.mem_filter.2 ⟨List.mem_filterMap.2 ⟨r, hr, hdue⟩, by simpa using hlate⟩

/-! ## Actions that come by themselves -/

/-- The action comes by itself: the first task that is due ends, or none is due and the clock moves
no further than to the next end or deadline. -/
def Timely (deadlines : Scene α → List Nat) (s : Scene α) : Action α → Prop
  | .order _ _ => False
  | .finish name => ∃ r, s.firstDue? = some r ∧ r.task.id = name
  | .pass ms => s.firstDue? = none ∧ ∀ time ∈ s.endsAhead ++ deadlines s, s.now + ms ≤ time

/-- Such actions one after the other, with the phases that they lead to. -/
abbrev Ticks (deadlines : Scene α → List Nat) : Scene α → List (Phase α) → Scene α → Prop :=
  Chain fun s ps t => ∃ x, s.Timely deadlines x ∧ ps = [(s.enact x).2] ∧ t = (s.enact x).1

/-- One scene follows from another one without a command. -/
def Leads (s t : Scene α) : Prop := ∀ n, ∃ es, Stage.Steps ⟨n, s⟩ (ofEntries es) ⟨n, t⟩

/-- A scene follows from itself. -/
lemma Leads.refl (s : Scene α) : s.Leads s := fun n => ⟨[], .refl (⟨n, s⟩ : Stage α)⟩

/-- One scene follows after the other. -/
lemma Leads.trans (h : s.Leads t) (k : t.Leads u) : s.Leads u := fun n =>
  let ⟨es, hfirst⟩ := h n
  let ⟨fs, hrest⟩ := k n
  ⟨es ++ fs, ofEntries_append es fs ▸ hfirst.trans hrest⟩

/-- A scene settles without a command. -/
lemma leads_settle (s : Scene α) : s.Leads s.settle.1 := fun n => ⟨_, .settle n s⟩

/-- So it does after the end of a task. -/
lemma leads_finish (s : Scene α) (name : TaskId) : s.Leads (phase (s.finish name)).1 := by
  have hfinish : s.Leads (s.finish name).1 := fun n => ⟨_, .single (.finish ⟨n, s⟩ name)⟩
  exact hfinish.trans (leads_settle _)

/-- So it does when the clock has moved to a later time. -/
lemma leads_pass {time : Nat} (later : s.now ≤ time) :
    s.Leads (phase ({ s with now := time }, [])).1 := by
  have hclock : s.Leads { s with now := time } := fun n =>
    ⟨[], Chain.single (.clock ⟨n, s⟩ time later)⟩
  exact hclock.trans (leads_settle _)

/-- What comes by itself comes without a command. -/
lemma Timely.leads {x : Action α} (timely : s.Timely deadlines x) : s.Leads (s.enact x).1 := by
  cases x with
  | order => cases timely
  | finish name => exact leads_finish s name
  | pass ms => exact leads_pass (Nat.le_add_right _ _)

/-- So do such actions one after the other. -/
lemma Ticks.leads (h : Ticks deadlines s ps t) : s.Leads t := by
  induction h with
  | refl => exact .refl s
  | tail _ last ih =>
    obtain ⟨x, timely, -, rfl⟩ := last
    exact ih.trans timely.leads

/-- Such actions are actions. -/
lemma Ticks.exists_actions (h : Ticks deadlines s ps t) :
    ∃ xs, s.enactAll xs = (t, ps) ∧ ∀ x ∈ xs, ∀ n c, x ≠ Action.order n c := by
  induction h with
  | refl => exact ⟨[], rfl, by simp⟩
  | tail _ last ih =>
    obtain ⟨xs, hxs, hquiet⟩ := ih
    obtain ⟨x, htimely, rfl, rfl⟩ := last
    refine ⟨xs ++ [x], ?_, fun y hy => ?_⟩
    · rw [enactAll_append, hxs]
      rfl
    · rcases List.mem_append.1 hy with hy | hy
      · exact hquiet y hy
      · rw [List.mem_singleton.1 hy]
        rintro n c rfl
        exact htimely

/-- The due tasks end by themselves. -/
lemma ticks_finishDue (deadlines : Scene α → List Nat) (s : Scene α) :
    Ticks deadlines s s.finishDue.2 s.finishDue.1 := by
  fun_induction finishDue s with
  | case1 s h => exact .refl _
  | case2 s r h first rest ih =>
    have hfirst : Ticks deadlines s [first.2] first.1 :=
      Chain.single ⟨.finish r.task.id, ⟨r, h, rfl⟩, rfl, rfl⟩
    exact hfirst.trans ih

/-- Then none is due. -/
lemma firstDue?_finishDue (s : Scene α) : s.finishDue.1.firstDue? = none := by
  fun_induction finishDue s with
  | case1 s h => exact h
  | case2 s r h first rest ih => exact ih

/-- The clock moves to the next stop by itself. -/
lemma ticks_moveTo (hnone : s.firstDue? = none) {time : Nat} (later : s.now ≤ time)
    (stops : ∀ stop ∈ s.endsAhead ++ deadlines s, time ≤ stop) :
    Ticks deadlines s (s.moveTo time).2 (s.moveTo time).1 := by
  have henact : s.enact (.pass (time - s.now)) = phase ({ s with now := time }, []) := by
    have hnow : s.now + (time - s.now) = time := by omega
    rw [enact, immediate, hnow]
  have hfirst : Ticks deadlines s [(phase ({ s with now := time }, [])).2]
      (phase ({ s with now := time }, [])).1 := by
    refine Chain.single ⟨.pass (time - s.now), ⟨hnone, fun stop hstop => ?_⟩, ?_, ?_⟩
    · have := stops stop hstop
      omega
    · rw [henact]
    · rw [henact]
  exact hfirst.trans (ticks_finishDue deadlines _)

/-- No stop comes before the first one. -/
lemma le_of_min? {stops : List Nat} {time : Nat} (h : stops.min? = some time) :
    ∀ stop ∈ stops, time ≤ stop :=
  (List.min?_eq_some_iff.1 h).2

/-- **The clock moves from stop to stop up to a time by itself.** -/
theorem ticks_advanceTo {target : Nat} (hnone : s.firstDue? = none) (later : s.now ≤ target) :
    Ticks deadlinesAhead s (s.advanceTo target).2 (s.advanceTo target).1 ∧
      (s.advanceTo target).1.now = target ∧ (s.advanceTo target).1.firstDue? = none := by
  fun_induction advanceTo target s with
  | case1 s h =>
    have hnil : s.endsAhead ++ s.deadlinesAhead = [] := List.min?_eq_none_iff.1 h
    exact ⟨ticks_moveTo hnone later (by simp [hnil]), now_moveTo _ _, firstDue?_finishDue _⟩
  | case2 s time h ht first rest ih =>
    have hnow : first.1.now = time := now_moveTo time s
    obtain ⟨hticks, hend, hdue⟩ := ih (firstDue?_finishDue _) (by omega)
    have hfirst : Ticks deadlinesAhead s first.2 first.1 :=
      ticks_moveTo hnone (Nat.le_of_lt (lt_of_stop h)) (le_of_min? h)
    exact ⟨hfirst.trans hticks, hend, hdue⟩
  | case3 s time h ht =>
    have hle := le_of_min? h
    exact ⟨ticks_moveTo hnone later fun stop hstop => by have := hle stop hstop; omega,
      now_moveTo _ _, firstDue?_finishDue _⟩

/-- **The clock moves by itself until no stop is ahead.** -/
theorem ticks_run (hnone : s.firstDue? = none) :
    Ticks (nearDeadlines runPatience) s s.run.2 s.run.1 ∧ s.run.1.firstDue? = none ∧
      s.run.1.endsAhead = [] := by
  fun_induction run s with
  | case1 s h =>
    have hnil : s.endsAhead ++ s.nearDeadlines runPatience = [] := List.min?_eq_none_iff.1 h
    exact ⟨.refl _, hnone, (List.append_eq_nil_iff.1 hnil).1⟩
  | case2 s time h first rest ih =>
    obtain ⟨hticks, hdue, hends⟩ := ih (firstDue?_finishDue _)
    have hfirst : Ticks (nearDeadlines runPatience) s first.2 first.1 :=
      ticks_moveTo hnone (Nat.le_of_lt (mem_of_nearStop h).1) (le_of_min? h)
    exact ⟨hfirst.trans hticks, hdue, hends⟩

/-! ## Commands -/

/-- **After a command no task is due**, if none has been before. -/
theorem firstDue?_perform (hnone : s.firstDue? = none) (call : Nat) (c : Command α) :
    (s.perform call c).2.1.firstDue? = none := by
  cases hclock : c.movesClock with
  | false =>
    rcases Stage.perform_cases call s hclock with heq | ⟨heq, -⟩
    · rw [heq]
      exact firstDue?_finishDue _
    · rw [heq]
      exact hnone
  | true =>
    cases c with
    | advance ms => exact (ticks_advanceTo hnone (Nat.le_add_right s.now ms)).2.2
    | run => exact (ticks_run hnone).2.1
    | _ => cases hclock

/-! ## Names -/

/-- The scene has been reached with tasks that carry the names of their calls. -/
def Proper (s : Scene α) : Prop := ∃ n h, Stage.Steps {} h ⟨n, s⟩ ∧ h.Named

namespace Proper

/-- Without a command no task is handed over. -/
lemma of_leads (hs : s.Proper) (h : s.Leads t) : t.Proper := by
  obtain ⟨n, k, hsteps, named⟩ := hs
  obtain ⟨es, hrest⟩ := h n
  exact ⟨n, _, hsteps.trans hrest, named.append_entries es⟩

/-- What comes by itself hands over no task. -/
lemma enact (hs : s.Proper) {x : Action α} (timely : s.Timely deadlines x) :
    (s.enact x).1.Proper :=
  hs.of_leads timely.leads

/-- The tasks on workers have different names. -/
lemma runs_nodup (hs : s.Proper) : (s.runs.map (·.task.id)).Nodup := by
  obtain ⟨n, h, hsteps, named⟩ := hs
  have honce := hsteps.once named
  simp only [List.map_append] at honce
  have hunderway := honce.of_append_left.of_append_left.of_append_right
  rw [underway, List.map_map] at hunderway
  exact hunderway

/-- **What comes by itself comes on time for every batch**, if the clock stops at its deadline. -/
theorem onTime (hs : s.Proper) {i : Nat} {b : Batch α} (hb : s.batches[i]? = some b)
    {x : Action α} (timely : s.Timely deadlines x)
    (heeded : ∀ D, b.deadlineAhead? s.now = some D → D ∈ deadlines s) :
    b.OnTime s.now (x.turn s) := by
  have hruns : ∀ r ∈ b.pool.running, r ∈ s.runs := fun r hr =>
    List.mem_append_right _ (List.mem_flatMap.2 ⟨b, List.mem_of_getElem? hb, hr⟩)
  cases x with
  | order => cases timely
  | finish name =>
    obtain ⟨q, hq, rfl⟩ := timely
    have hdue := (List.mem_filter.1 (Run.mem_of_earliest hq)).2
    intro r hr hid
    have hsame : r = q := List.inj_on_of_nodup_map hs.runs_nodup (hruns r hr)
      (mem_runs_of_firstDue? hq) hid
    subst hsame
    refine ⟨hdue, fun r' hr' hdue' => ?_⟩
    exact Run.endsBefore_of_earliest hq r' (List.mem_filter.2 ⟨hruns r' hr', hdue'⟩)
  | pass ms =>
    obtain ⟨hnone, hstops⟩ := timely
    refine ⟨Nat.le_add_right _ _, fun r hr time hdue => ?_, fun D hD => ?_⟩
    · exact hstops time (List.mem_append_left _ (mem_endsAhead hnone (hruns r hr) hdue))
    · exact hstops D (List.mem_append_right _ (heeded D hD))

end Proper

end Scene

end Workforce
