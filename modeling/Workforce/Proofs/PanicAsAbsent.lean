import Workforce.Proofs.SubmitterError
import Workforce.Proofs.Scene.Excuse
/-!
# In a batch a panic counts as an absent marker

A task of a batch may just as well return the absent marker as panic, after the same running time.
The same tasks are admitted, start, end and are discarded, at the same times, and all calls return
at the same times with the same answers. Only the panic goes unnoted; and if the batch has been
given up, the worker reports its exit in other words.

## Main definitions

* `Workforce.warnings`, `Workforce.remarks` — the notes of panics, and all other notes.
* `Workforce.rewordedRemarks` — the other notes, with the exits of workers in the same words.
* `Workforce.pardons` — the ends of the tasks whose panics are excused.
* `Workforce.Scene.Pardons` — what it means that panics count as absent markers.

## Main results

* `Workforce.Scene.reports_excuse` — the reports on commands do not depend on it.
* `Workforce.Scene.panic_as_absent` — in batches panics count as absent markers.

## Implementation notes

Any number of tasks may be chosen, in any number of batches. They are told apart by their names, so
that every choice among the tasks of a batch is one of those considered here.
-/

namespace Workforce

variable {α : Type} (chosen : Task α → Bool)

/-! ## What is compared -/

/-- What becomes of a task at a place: only tasks of batches are excused. -/
def Place.excuse : Place → Task α → Task α
  | .batch _, t => t.excuse chosen
  | .pool _, t => t

/-- The tasks that are admitted, when and where. -/
def admissions (ps : List (Phase α)) : List (Nat × Place × Task α) :=
  (timeline ps).filterMap fun x => match x.2.2 with
    | .admitted _ task => some (x.1, x.2.1, task)
    | _ => none

/-- What is noted of an event at a place, but for the panics of the tasks of batches. -/
def Entry.remark? : Entry α → Option Note
  | (.batch _, .taskFailed) => none
  | (_, e) => e.note? "#"

/-- What is noted at a place, and when. -/
def remarks (place : Place) (ps : List (Phase α)) : List (Nat × Note) :=
  (timeline ps).filterMap fun x =>
    if x.2.1 = place then x.2.remark?.map (x.1, ·) else none

/-- What happens at a place, but a worker of a batch that finds nobody to receive its output might
as well have found the batch cancelled. -/
def Entry.reworded : Entry α → Entry α
  | (.batch i, .receiverGone) => (.batch i, .sawCancellation)
  | x => x

/-- What is noted, when and where, with the exits of workers reworded. -/
def rewordedRemarks (ps : List (Phase α)) : List (Nat × Place × Note) :=
  (timeline ps).filterMap fun x => x.2.reworded.remark?.map (x.1, x.2.1, ·)

/-- The place of the event if it is the note of a panic. -/
def Entry.warning? : Entry α → Option Place
  | (place, .taskFailed) => some place
  | _ => none

/-- The batch in which the event is the end of a chosen task that panics. -/
def Entry.pardon? : Entry α → Option Place
  | (.batch i, .ended t) => if t.outcome matches .panic && chosen t then some (.batch i) else none
  | _ => none

/-- The notes of panics: when and where. -/
def warnings (ps : List (Phase α)) : List (Nat × Place) :=
  (timeline ps).filterMap fun x => x.2.warning?.map (x.1, ·)

/-- The ends of chosen tasks of batches that panic: when and where. -/
def pardons (ps : List (Phase α)) : List (Nat × Place) :=
  (timeline ps).filterMap fun x => (x.2.pardon? chosen).map (x.1, ·)

/-- The report without the notes. -/
def Report.withoutNotes (r : Report α) : Report α := { r with notes := [] }

namespace Scene

/-- What is reached with some tasks, and what is reached if the chosen ones among those of batches
return the absent marker where they would panic. -/
structure Pardons (chosen : Task α → Bool) (r r' : Scene α × List (Phase α)) : Prop where
  /-- Phase by phase the same happens, but for what follows from the difference. -/
  phases : Excused chosen [] r.2 r'.2
  /-- The scene is the same in the end, but for tasks that have not ended. -/
  scene : r'.1 = r.1.excuse chosen
  /-- All calls return at the same times, with the same answers. -/
  answers : answers r'.2 = answers r.2
  /-- The same tasks are admitted, at the same times. -/
  admissions : admissions r'.2 =
    (admissions r.2).map fun x => (x.1, x.2.1, x.2.1.excuse chosen x.2.2)
  /-- The same tasks start, end and are discarded, at the same times. -/
  fates : fates r'.2 =
    (fates r.2).map fun x => (x.1, x.2.1, x.2.2.1, x.2.1.excuse chosen x.2.2.2)
  /-- Of the notes of panics those of the chosen tasks are missing. -/
  warnings : (warnings r.2).Perm (pardons chosen r.2 ++ warnings r'.2)
  /-- All other notes are the same in batches that have not been given up, and in pools. -/
  remarks : ∀ place, (place, .batchDropped) ∉ allEntries r.2 →
    remarks place r'.2 = remarks place r.2
  /-- They are the same everywhere but for the words in which workers report their exits. -/
  reworded : rewordedRemarks r'.2 = rewordedRemarks r.2

end Scene

/-! ## Phases -/

variable {chosen} {gone : Nat → Prop} {p q : Phase α}

/-- The same calls are answered in a phase. -/
lemma Excuses.answers_eq (h : Excuses chosen gone p.entries q.entries) : q.answers = p.answers :=
  h.filterMap_eq (fun ⟨place, e⟩ => by cases place <;> simp [Entry.excuse])
    (fun _ => rfl) (fun _ => rfl) (fun _ => rfl) (fun _ _ => rfl)

/-- What a log shows of a task. -/
def Task.label (t : Task α) : TaskId × Option String := (t.id, t.trace)

@[simp] lemma Task.label_excuse (t : Task α) : (t.excuse chosen).label = t.label := by
  simp [label]

/-- Tasks with the same labels have the same lines. -/
lemma Task.map_label {β : Type} {ts us : List (Task α)} (h : us.map label = ts.map label)
    (f : TaskId × Option String → β) : us.map (f ·.label) = ts.map (f ·.label) := by
  have hmap := congrArg (List.map f) h
  rwa [List.map_map, List.map_map] at hmap

/-- The same tasks are found in a phase, in the same order, by looking for one thing that happens to
tasks. -/
lemma Excuses.labels_eq (h : Excuses chosen gone p.entries q.entries)
    (kind : Entry α → Option (Task α))
    (same : ∀ i e, (kind (.batch i, e.excuse chosen)).map Task.label =
      (kind (.batch i, e)).map Task.label)
    (others : ∀ place e, e.fate? = none → kind (place, e) = none) :
    (q.entries.filterMap kind).map Task.label = (p.entries.filterMap kind).map Task.label := by
  rw [List.map_filterMap, List.map_filterMap]
  refine h.filterMap_eq (fun x => ?_) (fun _ => ?_) (fun _ => ?_) (fun _ => ?_) (fun _ => ?_)
  · obtain ⟨place, e⟩ := x
    cases place with
    | pool i => rfl
    | batch i => exact same i e
  · rw [others _ .taskFailed rfl]
    rfl
  · rw [others _ (.published none) rfl]
    rfl
  · rw [others _ (.received none true none) rfl]
    rfl
  · intro _
    rw [others _ .receiverGone rfl, others _ .sawCancellation rfl]

/-- Sorted by their names they are the same as well. -/
lemma Excuses.labels_tasksBy (h : Excuses chosen gone p.entries q.entries)
    (kind : Event α → Option (Task α))
    (same : ∀ e, (kind (e.excuse chosen)).map Task.label = (kind e).map Task.label)
    (others : ∀ e, e.fate? = none → kind e = none) :
    (q.tasksBy kind).map Task.label = (p.tasksBy kind).map Task.label := by
  have sorted : ∀ ts : List (Task α), (ts.mergeSort fun a b => a.id.before b.id).map Task.label =
      (ts.map Task.label).mergeSort fun a b => a.1.before b.1 := fun ts =>
    List.map_mergeSort fun _ _ _ _ => rfl
  rw [Phase.tasksBy, Phase.tasksBy, sorted, sorted,
    h.labels_eq (kind ·.2) (fun _ => same) fun _ => others]

/-- **The same becomes of tasks in a phase.** -/
lemma Excuses.log_eq (time : q.time = p.time) (h : Excuses chosen gone p.entries q.entries) :
    q.log = p.log := by
  simp only [Phase.log, time]
  refine congr (congrArg _ (congr (congrArg _
    (Task.map_label (h.labels_eq _ ?_ ?_) fun x => FateLine.mk p.time .finish x.1 none))
    (Task.map_label (h.labels_tasksBy _ ?_ ?_) fun x => FateLine.mk p.time .start x.1 x.2)))
    (Task.map_label (h.labels_tasksBy _ ?_ ?_) fun x => FateLine.mk p.time .discard x.1 none)
  · exact fun _ e => by cases e <;> simp [Event.excuse]
  · exact fun _ e he => by cases e <;> simp_all [Event.fate?]
  · exact fun e => by cases e <;> simp [Event.excuse]
  · exact fun e he => by cases e <;> simp_all [Event.fate?]
  · exact fun e => by cases e <;> simp [Event.excuse]
  · exact fun e he => by cases e <;> simp_all [Event.fate?]

/-- Only the panic of a chosen task of a batch may go unnoted. -/
lemma Entry.pardon?_eq_none {x : Entry α} (h : ¬x.Pardoned chosen) : x.pardon? chosen = none := by
  obtain ⟨place, e⟩ := x
  cases place with
  | pool i => rfl
  | batch i =>
    cases e with
    | ended t =>
      refine if_neg fun ht => h ?_
      cases hpanic : t.outcome <;> simp [hpanic] at ht
      exact ⟨hpanic, ht⟩
    | _ => rfl

@[simp] lemma Entry.warning?_excuse (x : Entry α) : (x.excuse chosen).warning? = x.warning? := by
  obtain ⟨place, e⟩ := x
  cases place with
  | pool i => rfl
  | batch i => cases e <;> rfl

/-- The notes of the panics of chosen tasks are missing from a phase. -/
lemma Excuses.warnings_perm {xs ys : List (Entry α)} (h : Excuses chosen gone xs ys) (time : Nat) :
    (xs.filterMap fun x => x.warning?.map (time, ·)).Perm
      ((xs.filterMap fun x => (x.pardon? chosen).map (time, ·)) ++
        ys.filterMap fun x => x.warning?.map (time, ·)) := by
  induction h with
  | nil => exact .refl _
  | @same xs ys x other _ ih =>
    simp only [List.filterMap_cons, Entry.pardon?_eq_none other, Entry.warning?_excuse,
      Option.map_none]
    cases x.warning? with
    | none => exact ih
    | some place => exact (ih.cons _).trans List.perm_middle.symm
  | failed i panics isChosen _ ih =>
    simpa [Entry.warning?, Entry.pardon?, panics, isChosen] using ih
  | published i _ ih => exact ih
  | received i _ ih => exact ih
  | worded _ _ ih => exact ih

namespace Scene

variable {s : Scene α} {n : Nat} {past : List (Entry α)} {ps qs : List (Phase α)}

/-! ## Reports -/

/-- A command returns the same at once. -/
lemma reply_excuse (chosen : Task α → Bool) (n : Nat) (s : Scene α) (c : Command α) :
    ((s.excuse chosen).perform n (c.excuse chosen)).1 = (s.perform n c).1 := by
  cases hvisit : c.visit? n with
  | some y =>
    have hpool : (s.excuse chosen).pool? y.1 = s.pool? y.1 := rfl
    rw [excuse_of_visit chosen hvisit, perform_of_visit hvisit, perform_of_visit hvisit, onPool,
      onPool, hpool]
    cases s.pool? y.1 <;> rfl
  | none =>
    cases c with
    | newPool size child =>
      have hparent : (s.excuse chosen).parentCancelled = s.parentCancelled := rfl
      simp only [Command.excuse, Scene.perform, Scene.newPool, hparent]
      cases Pool.make true size child (child && s.parentCancelled) <;> rfl
    | batch size tasks admission => rfl
    | cancelParent => rfl
    | askParent => rfl
    | describe i =>
      have hpool : (s.excuse chosen).pool? i = s.pool? i := rfl
      simp only [Command.excuse, Scene.perform, hpool]
      cases s.pool? i <;> rfl
    | abandon call =>
      simp only [Command.excuse, Scene.perform, pendingCalls_excuse]
      split <;> rfl
    | release name =>
      have hfind := congrArg Option.isSome (find_run_excuse chosen s name)
      simp only [Option.isSome_map] at hfind
      simp only [Command.excuse, Scene.perform]
      cases hr : s.runs.find? (·.task.id.text == name) <;>
        cases hr' : (s.excuse chosen).runs.find? (·.task.id.text == name) <;>
        simp [hr, hr'] at hfind ⊢
    | advance ms => rfl
    | run => rfl
    | _ => cases hvisit

/-- The report on a command is the same, but for the notes. -/
lemma report_excuse (h : Reached n past s) (c : Command α) :
    ((s.excuse chosen).report n (c.excuse chosen)).2.withoutNotes =
      (s.report n c).2.withoutNotes := by
  have hfirst := Tracks.perform chosen h c
  have hdone := hfirst.phases.flatMap_eq fun _ _ _ _ => Excuses.answers_eq
  have hlog := hfirst.phases.flatMap_eq fun _ _ _ => Excuses.log_eq
  have hrunning : ((s.perform n c).2.1.excuse chosen).runs.map (·.task.id) =
      (s.perform n c).2.1.runs.map (·.task.id) := by
    have hnames := congrArg (List.map Prod.fst) (runs_excuse chosen (s.perform n c).2.1)
    rwa [List.map_map, List.map_map] at hnames
  simp only [report, Report.withoutNotes, reply_excuse, hdone, hlog, hfirst.scene,
    pendingCalls_excuse, hrunning]
  rfl

variable (chosen) in
/-- **The reports on commands are the same**, but for the notes. -/
theorem reports_excuse (h : Reached n past s) (cs : List (Command α)) :
    ((s.excuse chosen).reports n (cs.map (Command.excuse chosen))).map Report.withoutNotes =
      (s.reports n cs).map Report.withoutNotes := by
  induction cs generalizing n past s with
  | nil => rfl
  | cons c cs ih =>
    have hfirst := Tracks.perform chosen h c
    have hrest := ih hfirst.reached
    rw [← hfirst.scene] at hrest
    exact List.cons_eq_cons.2 ⟨report_excuse h c, hrest⟩

/-! ## Timelines -/

/-- The same calls are answered. -/
lemma Excused.answers_eq (h : Excused chosen past ps qs) : answers qs = answers ps :=
  h.filterMap_timeline (fun _ ⟨place, e⟩ => by cases place <;> simp [Entry.excuse])
    (fun _ _ => rfl) (fun _ _ => rfl) (fun _ _ => rfl) (fun _ _ _ => rfl)

/-- The same tasks are admitted. -/
lemma Excused.admissions_eq (h : Excused chosen past ps qs) :
    admissions qs = (admissions ps).map fun x => (x.1, x.2.1, x.2.1.excuse chosen x.2.2) := by
  rw [admissions, admissions, List.map_filterMap]
  refine h.filterMap_timeline (fun time ⟨place, e⟩ => ?_) (fun _ _ => rfl) (fun _ _ => rfl)
    (fun _ _ => rfl) (fun _ _ _ => rfl)
  cases place <;> cases e <;> rfl

/-- The same becomes of tasks. -/
lemma Excused.fates_eq (h : Excused chosen past ps qs) :
    fates qs = (fates ps).map fun x =>
      (x.1, x.2.1, x.2.2.1, x.2.1.excuse chosen x.2.2.2) := by
  rw [fates, fates, List.map_filterMap]
  refine h.filterMap_timeline (fun time x => ?_) (fun _ _ => rfl) (fun _ _ => rfl)
    (fun _ _ => rfl) (fun _ _ _ => rfl)
  obtain ⟨place, e⟩ := x
  cases place <;> cases e <;> rfl

/-- The same is noted at a place, unless it is a batch that has been given up. -/
lemma Excused.remarks_eq (h : Excused chosen past ps qs) {place : Place}
    (kept : (place, .batchDropped) ∉ past ++ allEntries ps) :
    remarks place qs = remarks place ps := by
  refine h.filterMap_timeline (fun time ⟨p, e⟩ => ?_) (fun _ _ => ?_) (fun _ _ => ?_)
    (fun _ _ => ?_) fun time i lost => ?_
  · cases p <;> cases e <;> rfl
  · exact ite_self _
  · exact ite_self _
  · exact ite_self _
  · have hne : Place.batch i ≠ place := fun heq => kept (heq ▸ lost)
    rw [if_neg hne, if_neg hne]

/-- The same is noted everywhere but for the words. -/
lemma Excused.rewordedRemarks_eq (h : Excused chosen past ps qs) :
    rewordedRemarks qs = rewordedRemarks ps :=
  h.filterMap_timeline (fun _ ⟨place, e⟩ => by cases place <;> cases e <;> rfl)
    (fun _ _ => rfl) (fun _ _ => rfl) (fun _ _ => rfl) (fun _ _ _ => rfl)

/-- The notes of the panics of chosen tasks are missing. -/
lemma Excused.warnings_perm (h : Excused chosen past ps qs) :
    (warnings ps).Perm (pardons chosen ps ++ warnings qs) := by
  simp only [warnings, pardons]
  induction h with
  | nil => exact .refl _
  | @cons past p q ps qs time entries _ ih =>
    have hfirst := entries.warnings_perm p.time
    simp only [timeline_cons, List.filterMap_append, List.filterMap_map, Function.comp_def, time]
    refine (hfirst.append ih).trans ?_
    rw [List.append_assoc, List.append_assoc]
    exact (List.perm_append_comm_assoc ..).append_left _

/-- **In a batch a panic counts as an absent marker**, whatever is commanded. -/
theorem panic_as_absent (chosen : Task α → Bool) (cs : List (Command α)) :
    Pardons chosen (reach 0 {} cs) (reach 0 {} (cs.map (Command.excuse chosen))) ∧
      (reports 0 {} (cs.map (Command.excuse chosen))).map Report.withoutNotes =
        (reports 0 {} cs).map Report.withoutNotes := by
  have hstart : Reached 0 [] ({} : Scene α) :=
    ⟨[], .refl _, rfl, (fun p hp => by cases hp), (fun b hb => by cases hb)⟩
  have hempty : ({} : Scene α).excuse chosen = {} := rfl
  have hreach := Tracks.reach chosen hstart cs
  have hreports := reports_excuse chosen hstart cs
  rw [hempty] at hreach hreports
  refine ⟨?_, hreports⟩
  exact {
    phases := hreach.phases
    scene := hreach.scene
    answers := hreach.phases.answers_eq
    admissions := hreach.phases.admissions_eq
    fates := hreach.phases.fates_eq
    warnings := hreach.phases.warnings_perm
    remarks := fun _ kept => hreach.phases.remarks_eq kept
    reworded := hreach.phases.rewordedRemarks_eq }

/-- A batch of two tasks on one worker is given up while its first task runs. -/
def givenUp (outcome : Outcome Nat) : List (Command Nat) :=
  [.batch 1 [⟨⟨0, some 0⟩, some 10, outcome, false, none⟩,
    ⟨⟨0, some 1⟩, some 10, .value 1, false, none⟩] .unlimited, .advance 5, .abandon 0, .advance 5]

/-- Whether a worker exits because it finds nobody to receive its output. -/
def receiverMissed (cs : List (Command Nat)) : Bool :=
  (allEntries (reach 0 {} cs).2).any fun x => x.2 matches .receiverGone

/-- After the panic the worker exits because it finds the batch cancelled. -/
example : warnings (reach 0 {} (givenUp .panic)).2 = [(10, .batch 0)] ∧
    receiverMissed (givenUp .panic) = false := by
  decide +kernel

/-- With the absent marker it exits because it finds nobody to receive it. -/
example : (givenUp .panic).map (Command.excuse fun t => t.id.index == some 0) = givenUp .absent ∧
    warnings (reach 0 {} (givenUp .absent)).2 = [] ∧ receiverMissed (givenUp .absent) = true :=
  ⟨rfl, by decide +kernel, by decide +kernel⟩

end Scene

end Workforce
