import Workforce.Scene.Basic
/-!
# The clock of a scene

The clock moves from one *stop* to the next: to the end of a running task or to the deadline of a
batch. At a stop the deadlines take effect first and the scene settles; then the tasks that are due
end one by one, earliest first, and the scene settles after each.

## Main definitions

* `Workforce.Phase` — what happened from an action until the scene was settled.
* `Workforce.Scene.finishDue` — ends the tasks that are due.
* `Workforce.Scene.moveTo` — moves the clock to one time.
* `Workforce.Scene.advanceTo` — moves the clock from stop to stop up to a time.
* `Workforce.Scene.run` — moves the clock from stop to stop until no stop is ahead.
* `Workforce.Scene.tick?` — the next thing that happens by itself.
* `Workforce.Scene.runUntil` — what happens until the scene is as asked for.

## Main results

* `Workforce.Scene.load_phase_finish` — every end of a due task lowers the load, so that ending the
  due tasks comes to an end even if new ones fall due at once.
* `Workforce.Scene.measure_moveTo` — every stop ends a task or passes a deadline, so that a run
  comes to an end.
* `Workforce.Scene.remainder_of_tick?` — only so many things happen by themselves.

## Implementation notes

A run has *patience*: it does not wait for a deadline that lies further than that after the start of
its batch.
-/

namespace Workforce

variable {α : Type}

/-- What happened from one action until the scene was settled again. -/
structure Phase (α : Type) where
  /-- The time, which does not change within a phase. -/
  time : Nat
  entries : List (Entry α)

/-! ## The earliest end -/

/-- The run that ends first. -/
def Run.earliest : List (Run α) → Option (Run α)
  | [] => none
  | r :: rs =>
    match earliest rs with
    | none => some r
    | some s => if r.endsBefore s then some r else some s

/-- The run that ends first is one of the runs. -/
theorem Run.mem_of_earliest {rs : List (Run α)} {r : Run α} (h : earliest rs = some r) :
    r ∈ rs := by
  induction rs generalizing r with
  | nil => cases h
  | cons s rs ih =>
    unfold earliest at h
    split at h
    · cases h; exact List.mem_cons_self
    · next t ht =>
      split at h <;> cases h
      · exact List.mem_cons_self
      · exact List.mem_cons_of_mem _ (ih ht)

/-- Where there are runs, one of them ends first. -/
theorem Run.isSome_earliest {rs : List (Run α)} (h : rs ≠ []) : (earliest rs).isSome := by
  cases rs with
  | nil => exact absurd rfl h
  | cons r rs =>
    unfold earliest
    split
    · rfl
    · split <;> rfl

namespace Batch

/-- The deadline of a pending batch, if it lies ahead. -/
def deadlineAhead? (now : Nat) (b : Batch α) : Option Nat :=
  if b.pending then b.deadline.filter (now < ·) else none

/-- The deadline of a pending batch, if it lies ahead and no further after the start of the batch
than the given patience. -/
def nearDeadline? (patience now : Nat) (b : Batch α) : Option Nat :=
  (b.deadlineAhead? now).filter (· ≤ b.since + patience)

/-- A deadline ahead is a deadline of a pending batch. -/
theorem deadlineAhead?_eq_some_iff {now time : Nat} {b : Batch α} :
    b.deadlineAhead? now = some time ↔ b.pending = true ∧ b.deadline = some time ∧ now < time := by
  unfold deadlineAhead?
  split <;> simp_all [Option.filter_eq_some_iff]

/-- So is a near one. -/
theorem nearDeadline?_eq_some_iff {patience now time : Nat} {b : Batch α} :
    b.nearDeadline? patience now = some time ↔
      b.deadlineAhead? now = some time ∧ time ≤ b.since + patience := by
  simp [nearDeadline?, Option.filter_eq_some_iff]

end Batch

namespace Scene

/-! ## Phases -/

/-- Lets the scene settle after an action. -/
def phase (r : Scene α × List (Entry α)) : Scene α × Phase α :=
  (r.1.settle.1, ⟨r.1.now, r.2 ++ r.1.settle.2⟩)

@[simp] theorem now_phase (r : Scene α × List (Entry α)) : (phase r).1.now = r.1.now := rfl

/-- The next task to end of those that are due. -/
def firstDue? (s : Scene α) : Option (Run α) :=
  Run.earliest (s.runs.filter (·.isDue s.now))

/-- The task that is due first runs. -/
theorem mem_runs_of_firstDue? {s : Scene α} {r : Run α} (h : s.firstDue? = some r) :
    r ∈ s.runs :=
  (List.mem_filter.1 (Run.mem_of_earliest h)).1

/-- The end of a running task, with what it causes. -/
theorem load_phase_finish {s : Scene α} {r : Run α} (h : r ∈ s.runs) :
    (phase (s.finish r.task.id)).1.load < s.load :=
  Nat.lt_of_le_of_lt (load_settle _) (load_finish h)

/-- Ends the tasks that are due, one by one, until none is. -/
def finishDue (s : Scene α) : Scene α × List (Phase α) :=
  match _h : s.firstDue? with
  | none => (s, [])
  | some r =>
    let first := phase (s.finish r.task.id)
    let rest := first.1.finishDue
    (rest.1, first.2 :: rest.2)
termination_by s.load
decreasing_by exact load_phase_finish (mem_runs_of_firstDue? ‹_›)

@[simp] theorem now_finishDue (s : Scene α) : s.finishDue.1.now = s.now := by
  fun_induction finishDue s with
  | case1 => rfl
  | case2 s r h first rest ih => exact ih

/-- Moves the clock to one time: the deadlines take effect, then the due tasks end. -/
def moveTo (time : Nat) (s : Scene α) : Scene α × List (Phase α) :=
  let first := phase ({ s with now := time }, [])
  let rest := first.1.finishDue
  (rest.1, first.2 :: rest.2)

@[simp] theorem now_moveTo (time : Nat) (s : Scene α) : (s.moveTo time).1.now = time := by
  simp [moveTo]

/-! ## Stops -/

/-- The end times that lie ahead. -/
def endsAhead (s : Scene α) : List Nat :=
  (s.runs.filterMap (·.due)).filter (s.now < ·)

/-- The deadlines of pending batches that lie ahead. -/
def deadlinesAhead (s : Scene α) : List Nat :=
  s.batches.filterMap (·.deadlineAhead? s.now)

/-- A stop lies ahead. -/
theorem lt_of_stop {s : Scene α} {time : Nat}
    (h : (s.endsAhead ++ s.deadlinesAhead).min? = some time) : s.now < time := by
  have h := List.min?_mem h
  rcases List.mem_append.1 h with h | h
  · simpa using (List.mem_filter.1 h).2
  · obtain ⟨b, _, hb⟩ := List.mem_filterMap.1 h
    exact (Batch.deadlineAhead?_eq_some_iff.1 hb).2.2

/-- Moves the clock from stop to stop up to a time. -/
def advanceTo (target : Nat) (s : Scene α) : Scene α × List (Phase α) :=
  match _h : (s.endsAhead ++ s.deadlinesAhead).min? with
  | none => s.moveTo target
  | some time =>
    if _ht : time < target then
      let first := s.moveTo time
      let rest := first.1.advanceTo target
      (rest.1, first.2 ++ rest.2)
    else s.moveTo target
termination_by target - s.now
decreasing_by
  have := lt_of_stop ‹_›
  simp only [now_moveTo]
  omega

/-! ## Running until no stop is ahead -/

/-- The deadlines that lie ahead and are near enough to be waited for. -/
def nearDeadlines (patience : Nat) (s : Scene α) : List Nat :=
  s.batches.filterMap (·.nearDeadline? patience s.now)

/-- How many batches wait for a near deadline. -/
def waits (patience : Nat) (s : Scene α) : Nat :=
  total (fun b : Batch α => (b.nearDeadline? patience s.now).isSome.toNat) s.batches

/-- The first stop that lies ahead: the end of a running task or a near deadline. -/
def nearStop? (patience : Nat) (s : Scene α) : Option Nat :=
  (s.endsAhead ++ s.nearDeadlines patience).min?

/-- A near stop is the end of a task that runs or a near deadline. -/
theorem mem_of_nearStop {patience : Nat} {s : Scene α} {time : Nat}
    (h : s.nearStop? patience = some time) :
    s.now < time ∧ ((∃ r ∈ s.runs, r.due = some time) ∨
      ∃ b ∈ s.batches, b.nearDeadline? patience s.now = some time) := by
  rcases List.mem_append.1 (List.min?_mem h) with h | h
  · obtain ⟨h, ht⟩ := List.mem_filter.1 h
    exact ⟨by simpa using ht, .inl (List.mem_filterMap.1 h)⟩
  · obtain ⟨b, hb, h⟩ := List.mem_filterMap.1 h
    have ht := Batch.nearDeadline?_eq_some_iff.1 h
    exact ⟨(Batch.deadlineAhead?_eq_some_iff.1 ht.1).2.2, .inr ⟨b, hb, h⟩⟩

/-- A batch does not begin to wait: not later, and not after a change that keeps its limits and
does not bring a call back. -/
theorem isSome_nearDeadline_le {patience : Nat} {b c : Batch α} {now later : Nat}
    (hnow : now ≤ later) (hd : c.deadline = b.deadline) (hs : c.since = b.since)
    (hp : c.pending = true → b.pending = true) :
    (c.nearDeadline? patience later).isSome.toNat ≤
      (b.nearDeadline? patience now).isSome.toNat := by
  cases hc : c.nearDeadline? patience later with
  | none => simp
  | some time =>
    obtain ⟨ha, hn⟩ := Batch.nearDeadline?_eq_some_iff.1 hc
    obtain ⟨h1, h2, h3⟩ := Batch.deadlineAhead?_eq_some_iff.1 ha
    have : b.nearDeadline? patience now = some time :=
      Batch.nearDeadline?_eq_some_iff.2 ⟨Batch.deadlineAhead?_eq_some_iff.2
        ⟨hp h1, hd ▸ h2, Nat.lt_of_le_of_lt hnow h3⟩, hs ▸ hn⟩
    simp [this]

/-- Settling makes no batch wait. -/
theorem waits_settle (patience : Nat) (s : Scene α) :
    s.settle.1.waits patience ≤ s.waits patience := by
  simp only [settle, everywhere, waits, after, total_map]
  exact total_sweep_le (g := fun b : Batch α => (b.nearDeadline? patience s.now).isSome.toNat)
    (fun b c => by
      have h := Batch.lowers_settle ⟨s.now, b⟩ c
      exact isSome_nearDeadline_le (Nat.le_refl _) h.deadline h.since h.pending) _ _

/-- Neither does the end of a task. -/
theorem waits_finish (patience : Nat) (id : TaskId) (s : Scene α) :
    (s.finish id).1.waits patience ≤ s.waits patience := by
  simp only [finish, everywhere, waits, after, total_map]
  exact total_sweep_le (g := fun b : Batch α => (b.nearDeadline? patience s.now).isSome.toNat)
    (fun b c => isSome_nearDeadline_le (Nat.le_refl _) rfl rfl
      (by simp [Batch.pending, Batch.finish])) _ _

/-- Ending the due tasks adds no task and makes no batch wait; if a task is due, one ends. -/
theorem measure_finishDue (patience : Nat) (s : Scene α) :
    s.finishDue.1.load ≤ s.load ∧ s.finishDue.1.waits patience ≤ s.waits patience ∧
      (s.firstDue?.isSome → s.finishDue.1.load < s.load) := by
  fun_induction finishDue s with
  | case1 s h => simp [h]
  | case2 s r h first rest ih =>
    have h1 := load_phase_finish (mem_runs_of_firstDue? h)
    have h2 := Nat.le_trans (waits_settle patience _) (waits_finish patience r.task.id s)
    exact ⟨Nat.le_trans ih.1 (Nat.le_of_lt h1), Nat.le_trans ih.2.1 h2,
      fun _ => Nat.lt_of_le_of_lt ih.1 h1⟩

/-- A task whose end has come is due. -/
theorem isSome_firstDue {s : Scene α} {r : Run α} (h : r ∈ s.runs) (hr : r.due = some s.now) :
    s.firstDue?.isSome := by
  refine Run.isSome_earliest (List.ne_nil_of_mem (List.mem_filter.2 ⟨h, ?_⟩))
  simp [Run.isDue, hr]

/-- When the clock has moved to a near stop and the scene has settled, a task is due or a batch has
ceased to wait. -/
theorem measure_settle {patience : Nat} {s : Scene α} {time : Nat}
    (h : s.nearStop? patience = some time) :
    let t := ({ s with now := time } : Scene α).settle.1
    t.load ≤ s.load ∧ t.waits patience ≤ s.waits patience ∧
      (t.firstDue?.isSome ∨ t.waits patience < s.waits patience) := by
  obtain ⟨hlt, hstop⟩ := mem_of_nearStop h
  let s' : Scene α := { s with now := time }
  have hwaits : s'.settle.1.waits patience ≤ s'.waits patience := waits_settle patience s'
  have hle : ∀ b : Batch α, (b.nearDeadline? patience time).isSome.toNat ≤
      (b.nearDeadline? patience s.now).isSome.toNat := fun b =>
    isSome_nearDeadline_le (Nat.le_of_lt hlt) rfl rfl id
  refine ⟨load_settle s', Nat.le_trans hwaits (total_le_total s.batches hle), ?_⟩
  rcases hstop with ⟨r, hr, hdue⟩ | ⟨b, hb, hdue⟩
  · exact .inl (isSome_firstDue (mem_runs_settle (s := s') hr) hdue)
  · refine .inr (Nat.lt_of_le_of_lt hwaits (total_lt_total hle hb ?_))
    have : b.nearDeadline? patience time = none := by
      cases hn : b.nearDeadline? patience time with
      | none => rfl
      | some t =>
        have ha := (Batch.deadlineAhead?_eq_some_iff.1 (Batch.nearDeadline?_eq_some_iff.1 hdue).1)
        have hb := (Batch.deadlineAhead?_eq_some_iff.1 (Batch.nearDeadline?_eq_some_iff.1 hn).1)
        have : t = time := Option.some.inj (hb.2.1.symm.trans ha.2.1)
        omega
    change (b.nearDeadline? patience time).isSome.toNat < _
    simp [this, hdue]

/-- At every near stop a task ends or a deadline passes. -/
theorem measure_moveTo {patience : Nat} {s : Scene α} {time : Nat}
    (h : s.nearStop? patience = some time) :
    (s.moveTo time).1.load + (s.moveTo time).1.waits patience < s.load + s.waits patience := by
  let s' : Scene α := { s with now := time }
  have hm : (s.moveTo time).1 = s'.settle.1.finishDue.1 := rfl
  obtain ⟨h1, h2, h3⟩ : s'.settle.1.load ≤ s.load ∧
      s'.settle.1.waits patience ≤ s.waits patience ∧ (s'.settle.1.firstDue?.isSome ∨
        s'.settle.1.waits patience < s.waits patience) := measure_settle h
  obtain ⟨h4, h5, h6⟩ := measure_finishDue patience s'.settle.1
  rw [hm]
  rcases h3 with h3 | h3
  · have := h6 h3
    omega
  · omega

/-- How far after the start of its batch a deadline may lie so that a run waits for it. -/
def runPatience : Nat := 1000000000

/-- Moves the clock from stop to stop until no task that runs has an end ahead and no pending batch
has a near deadline ahead. -/
def run (s : Scene α) : Scene α × List (Phase α) :=
  match _h : s.nearStop? runPatience with
  | none => (s, [])
  | some time =>
    let first := s.moveTo time
    let rest := first.1.run
    (rest.1, first.2 ++ rest.2)
termination_by s.load + s.waits runPatience
decreasing_by exact measure_moveTo ‹_›

/-! ## One thing after the other -/

/-- The next thing that happens by itself: the end of a task that is due, or else the arrival of the
clock at the next stop. -/
def tick? (patience : Nat) (s : Scene α) : Option (Scene α × Phase α) :=
  match s.firstDue? with
  | some r => some (phase (s.finish r.task.id))
  | none => (s.nearStop? patience).map fun time => phase ({ s with now := time }, [])

/-- A bound on how many things still happen by themselves. -/
def remainder (patience : Nat) (s : Scene α) : Nat :=
  2 * (s.load + s.waits patience) + s.firstDue?.isNone.toNat

/-- Whatever happens by itself lowers the bound, and the parent is left alone. -/
theorem remainder_of_tick? {patience : Nat} {s : Scene α} {r : Scene α × Phase α}
    (h : s.tick? patience = some r) :
    r.1.remainder patience < s.remainder patience ∧
      r.1.parentCancelled = s.parentCancelled := by
  unfold tick? at h
  split at h
  · next r' hr =>
    cases h
    refine ⟨?_, rfl⟩
    have h1 := load_phase_finish (mem_runs_of_firstDue? hr)
    have h2 := Nat.le_trans (waits_settle patience _) (waits_finish patience r'.task.id s)
    have h3 := Bool.toNat_le (phase (s.finish r'.task.id)).1.firstDue?.isNone
    have h4 : (phase (s.finish r'.task.id)).1.waits patience ≤ s.waits patience := h2
    simp only [remainder]
    omega
  · next hr =>
    obtain ⟨time, ht, rfl⟩ := Option.map_eq_some_iff.1 h
    refine ⟨?_, rfl⟩
    obtain ⟨h1, h2, h3⟩ := measure_settle ht
    simp only [remainder, phase, hr]
    have h4 := Bool.toNat_le ({ s with now := time } : Scene α).settle.1.firstDue?.isNone
    rcases h3 with h3 | h3
    · have : ({ s with now := time } : Scene α).settle.1.firstDue?.isNone = false := by
        rw [← Option.not_isSome, h3]
        rfl
      rw [this]
      simp only [Bool.toNat_false, Option.isNone_none, Bool.toNat_true]
      omega
    · simp only [Option.isNone_none, Bool.toNat_true]
      omega

/-- Lets things happen, one after the other, until a settled scene is as asked for or nothing is
left to happen. -/
def runUntil (patience : Nat) (stop : Scene α → Bool) (s : Scene α) :
    Scene α × List (Phase α) :=
  if stop s then (s, [])
  else
    match _h : s.tick? patience with
    | none => (s, [])
    | some r =>
      let rest := r.1.runUntil patience stop
      (rest.1, r.2 :: rest.2)
termination_by s.remainder patience
decreasing_by exact (remainder_of_tick? ‹_›).1

end Scene

end Workforce
