import Mathlib.Data.List.Sort
import Workforce.Task
/-!
# Greedy list scheduling

The plan that a batch follows: tasks of known running times are taken in the order of their list,
and each starts as soon as one of the workers is free after all tasks before it have been placed.

## Main definitions

* `Workforce.Slot` — a task and the time at which it starts.
* `Workforce.Schedule.greedy` — the slots of tasks on workers that are free at given times.
* `Workforce.Schedule.latest` — the latest of some times, or the time before them.
* `Workforce.sooner` — tasks are ordered by the time of their ends, then by name.
* `Workforce.Numbered` — tasks carry the number of a call and their index.

## Main results

* `Workforce.Schedule.greedy_append` — what is placed later does not move what was placed before.
* `Workforce.Schedule.pairwise_start` — starts are in the order of the list.
* `Workforce.sorted_unique` — tasks can be sorted by their ends in one way only.
-/

namespace Workforce

variable {α : Type}

/-- How long a task runs that does not wait to be told to end. -/
def Task.length (t : Task α) : Nat := t.duration.getD 0

/-- A task and the time at which it starts. -/
structure Slot (α : Type) where
  start : Nat
  task : Task α

/-- When the task ends. -/
def Slot.finish (s : Slot α) : Nat := s.start + s.task.length

/-- The start of the task, with its time. -/
def Slot.opening (s : Slot α) : Nat × Task α := (s.start, s.task)

/-- The end of the task, with its time. -/
def Slot.ending (s : Slot α) : Nat × Task α := (s.finish, s.task)

namespace Schedule

/-! ## Workers that become free -/

/-- The earliest time at which one of the workers is free. -/
def earliest (free : List Nat) : Nat := free.min?.getD 0

/-- When the workers are free after one of them has run the task, as soon as it could. -/
def occupy (free : List Nat) (t : Task α) : List Nat :=
  (earliest free + t.length) :: free.erase (earliest free)

/-- The slots of tasks that are placed one after the other, each as soon as a worker is free. -/
def greedy : List Nat → List (Task α) → List (Slot α)
  | _, [] => []
  | free, t :: ts => ⟨earliest free, t⟩ :: greedy (occupy free t) ts

variable {free : List Nat} {t : Task α} {ts us : List (Task α)} {bound : Nat}

/-- Where there are workers, one of them is free at the earliest time. -/
lemma earliest_mem (h : free ≠ []) : earliest free ∈ free := by
  cases hmin : free.min? with
  | none => exact absurd (List.min?_eq_none_iff.1 hmin) h
  | some x =>
    rw [earliest, hmin]
    exact List.min?_mem hmin

/-- A time at which a worker is free is the earliest one if none is free before. -/
lemma earliest_eq (hmem : bound ∈ free) (hle : ∀ x ∈ free, bound ≤ x) : earliest free = bound := by
  have hmin : free.min? = some bound := List.min?_eq_some_iff.2 ⟨hmem, hle⟩
  rw [earliest, hmin]
  rfl

/-- No worker is free before the earliest time. -/
lemma earliest_le {x : Nat} (hx : x ∈ free) : earliest free ≤ x := by
  cases hmin : free.min? with
  | none => exact absurd (List.min?_eq_none_iff.1 hmin) (List.ne_nil_of_mem hx)
  | some y =>
    rw [earliest, hmin]
    exact (List.min?_eq_some_iff.1 hmin).2 x hx

/-- Workers are not free before a time if none was, nor before the earliest time. -/
lemma le_of_mem_occupy (hle : ∀ x ∈ free, bound ≤ x) (hne : free ≠ []) {x : Nat}
    (hx : x ∈ occupy free t) : bound ≤ x ∧ earliest free ≤ x := by
  rcases List.mem_cons.1 hx with rfl | hx
  · exact ⟨Nat.le_trans (hle _ (earliest_mem hne)) (Nat.le_add_right _ _), Nat.le_add_right _ _⟩
  · have hmem := List.mem_of_mem_erase hx
    exact ⟨hle x hmem, earliest_le hmem⟩

/-! ## Slots -/

@[simp] lemma greedy_nil : greedy free ([] : List (Task α)) = [] := rfl

/-- Every task gets one slot, in the order of the list. -/
@[simp] lemma map_task_greedy (free : List Nat) (ts : List (Task α)) :
    (greedy free ts).map (·.task) = ts := by
  induction ts generalizing free with
  | nil => rfl
  | cons t ts ih => rw [greedy, List.map_cons, ih]

@[simp] lemma length_greedy (free : List Nat) (ts : List (Task α)) :
    (greedy free ts).length = ts.length := by
  rw [← List.length_map (·.task), map_task_greedy]

/-- **What is placed later does not move what was placed before.** -/
theorem greedy_append (free : List Nat) (ts us : List (Task α)) :
    greedy free (ts ++ us) = greedy free ts ++ greedy (ts.foldl occupy free) us := by
  induction ts generalizing free with
  | nil => rfl
  | cons t ts ih => rw [List.cons_append, greedy, ih, greedy, List.foldl_cons, List.cons_append]

/-- One more task is placed behind the others. -/
lemma greedy_concat (free : List Nat) (ts : List (Task α)) (t : Task α) :
    greedy free (ts ++ [t]) = greedy free ts ++ [⟨earliest (ts.foldl occupy free), t⟩] :=
  greedy_append free ts [t]

/-- No task starts before the workers are free. -/
lemma le_start (hle : ∀ x ∈ free, bound ≤ x) (hne : free ≠ []) :
    ∀ s ∈ greedy free ts, bound ≤ s.start := by
  induction ts generalizing free with
  | nil => simp
  | cons t ts ih =>
    intro s hs
    rcases List.mem_cons.1 hs with rfl | hs
    · exact hle _ (earliest_mem hne)
    · exact ih (fun x hx => (le_of_mem_occupy hle hne hx).1) (List.cons_ne_nil _ _) s hs

/-- **Starts are in the order of the list.** -/
theorem pairwise_start (hne : free ≠ []) :
    (greedy free ts).Pairwise fun s s' => s.start ≤ s'.start := by
  induction ts generalizing free with
  | nil => exact .nil
  | cons t ts ih =>
    rw [greedy, List.pairwise_cons]
    refine ⟨le_start (fun x hx => ?_) (List.cons_ne_nil _ _), ih (List.cons_ne_nil _ _)⟩
    exact (le_of_mem_occupy (fun _ => earliest_le) hne hx).2

/-! ## The latest time -/

/-- The latest of some times, but not before the given one. -/
def latest (t₀ : Nat) (times : List Nat) : Nat := times.foldl max t₀

@[simp] lemma latest_nil (t₀ : Nat) : latest t₀ [] = t₀ := rfl

lemma latest_concat (t₀ x : Nat) (times : List Nat) :
    latest t₀ (times ++ [x]) = max (latest t₀ times) x := by
  rw [latest, List.foldl_append]
  rfl

/-- A bound on the times is a bound on the latest. -/
lemma latest_le {t₀ : Nat} {times : List Nat} (h₀ : t₀ ≤ bound) (h : ∀ x ∈ times, x ≤ bound) :
    latest t₀ times ≤ bound := by
  induction times generalizing t₀ with
  | nil => exact h₀
  | cons x times ih =>
    exact ih (Nat.max_le.2 ⟨h₀, h x List.mem_cons_self⟩) fun y hy => h y (List.mem_cons_of_mem _ hy)

/-- A latest time that is not before those that came earlier does not depend on them. -/
lemma latest_append_of_le {t₀ stop : Nat} {times later : List Nat} (before : latest t₀ times ≤ stop)
    (since : ∀ x ∈ later, stop ≤ x) (reached : latest t₀ times = stop ∨ later ≠ []) :
    latest t₀ (times ++ later) = latest stop later := by
  have hsplit : latest t₀ (times ++ later) = latest (latest t₀ times) later := List.foldl_append
  rw [hsplit]
  rcases reached with heq | hne
  · rw [heq]
  · cases later with
    | nil => exact absurd rfl hne
    | cons x later =>
      have hx := since x List.mem_cons_self
      have hmax : max (latest t₀ times) x = max stop x := by omega
      exact congrArg (latest · later) hmax

/-- The latest time does not depend on the order. -/
lemma latest_perm {t₀ : Nat} {times times' : List Nat} (h : times.Perm times') :
    latest t₀ times = latest t₀ times' :=
  h.foldl_eq' (fun x _ y _ z => by omega) t₀

end Schedule

/-! ## The order of ends -/

namespace TaskId

/-- Of two names one comes before the other. -/
lemma before_total (i j : TaskId) : i.before j = true ∨ j.before i = true := by
  obtain ⟨c, a⟩ := i
  obtain ⟨d, b⟩ := j
  cases a <;> cases b <;> simp [before] <;> omega

/-- Names are ordered. -/
lemma before_trans {i j k : TaskId} (hij : i.before j = true) (hjk : j.before k = true) :
    i.before k = true := by
  obtain ⟨c, a⟩ := i
  obtain ⟨d, b⟩ := j
  obtain ⟨e, x⟩ := k
  cases a <;> cases b <;> cases x <;> simp [before] at hij hjk ⊢ <;> omega

/-- Only a name itself comes both before and after it. -/
lemma before_antisymm {i j : TaskId} (hij : i.before j = true) (hji : j.before i = true) :
    i = j := by
  obtain ⟨c, a⟩ := i
  obtain ⟨d, b⟩ := j
  cases a <;> cases b <;> simp [before] at hij hji ⊢ <;> omega

end TaskId

/-- Ends of tasks, with their times, are ordered by time, then by name. -/
def sooner (x y : Nat × Task α) : Bool :=
  x.1 < y.1 || (x.1 == y.1 && x.2.id.before y.2.id)

section Sooner

variable {x y z : Nat × Task α} {xs ys : List (Nat × Task α)}

lemma sooner_iff : sooner x y = true ↔
    x.1 < y.1 ∨ x.1 = y.1 ∧ x.2.id.before y.2.id = true := by
  simp [sooner]

/-- Of two ends one is sooner. -/
lemma sooner_total (x y : Nat × Task α) : sooner x y = true ∨ sooner y x = true := by
  rw [sooner_iff, sooner_iff]
  rcases Nat.lt_trichotomy x.1 y.1 with h | h | h
  · exact .inl (.inl h)
  · exact (TaskId.before_total x.2.id y.2.id).imp (fun hb => .inr ⟨h, hb⟩)
      fun hb => .inr ⟨h.symm, hb⟩
  · exact .inr (.inl h)

lemma sooner_trans (hxy : sooner x y = true) (hyz : sooner y z = true) : sooner x z = true := by
  rw [sooner_iff] at hxy hyz ⊢
  rcases hxy with hxy | ⟨hxy, hb⟩ <;> rcases hyz with hyz | ⟨hyz, hb'⟩
  · exact .inl (Nat.lt_trans hxy hyz)
  · exact .inl (hyz ▸ hxy)
  · exact .inl (hxy ▸ hyz)
  · exact .inr ⟨hxy.trans hyz, TaskId.before_trans hb hb'⟩

/-- Of two ends of different tasks only one is sooner. -/
lemma sooner_antisymm (hxy : sooner x y = true) (hyx : sooner y x = true) :
    x.2.id = y.2.id := by
  rw [sooner_iff] at hxy hyx
  rcases hxy with hxy | ⟨hxy, hb⟩ <;> rcases hyx with hyx | ⟨hyx, hb'⟩
  · omega
  · omega
  · omega
  · exact TaskId.before_antisymm hb hb'

/-- **Tasks can be sorted by their ends in one way only**, if they have different names. -/
theorem sorted_unique (hperm : xs.Perm ys) (hxs : xs.Pairwise fun x y => sooner x y = true)
    (hys : ys.Pairwise fun x y => sooner x y = true) (hnodup : (ys.map (·.2.id)).Nodup) :
    xs = ys := by
  refine hperm.eq_of_pairwise (fun x y hx hy hxy hyx => ?_) hxs hys
  exact List.inj_on_of_nodup_map hnodup (hperm.subset hx) hy (sooner_antisymm hxy hyx)

/-- Sorting sorts. -/
lemma pairwise_mergeSort_sooner (xs : List (Nat × Task α)) :
    (xs.mergeSort sooner).Pairwise fun x y => sooner x y = true := by
  apply List.pairwise_mergeSort
  · exact fun _ _ _ => sooner_trans
  · intro x y
    rw [Bool.or_eq_true]
    exact sooner_total x y

/-- What is sorted is what sorting makes of it. -/
lemma eq_mergeSort (hperm : xs.Perm ys) (hxs : xs.Pairwise fun x y => sooner x y = true)
    (hnodup : (ys.map (·.2.id)).Nodup) : xs = ys.mergeSort sooner := by
  have hsort := List.mergeSort_perm ys sooner
  exact sorted_unique (hperm.trans hsort.symm) hxs (pairwise_mergeSort_sooner ys)
    ((hsort.map _).nodup_iff.2 hnodup)

end Sooner

/-! ## Names -/

/-- Tasks carry the number of a call and their index. -/
def Numbered (call : Nat) (tasks : List (Task α)) : Prop :=
  ∀ (i : Nat) (t : Task α), tasks[i]? = some t → t.id = ⟨call, some i⟩

namespace Numbered

variable {call : Nat} {tasks : List (Task α)}

/-- Tasks are named in their order. -/
lemma pairwise_before (h : Numbered call tasks) :
    tasks.Pairwise fun t u => t.id.before u.id = true := by
  rw [List.pairwise_iff_getElem]
  intro i j hi hj hij
  rw [h i _ (List.getElem?_eq_getElem hi), h j _ (List.getElem?_eq_getElem hj)]
  simp [TaskId.before]
  omega

/-- No two tasks have the same name. -/
lemma nodup (h : Numbered call tasks) : (tasks.map Task.id).Nodup := by
  rw [List.Nodup, List.pairwise_map, List.pairwise_iff_getElem]
  intro i j hi hj hij
  rw [h i _ (List.getElem?_eq_getElem hi), h j _ (List.getElem?_eq_getElem hj)]
  simp
  omega

end Numbered

end Workforce
