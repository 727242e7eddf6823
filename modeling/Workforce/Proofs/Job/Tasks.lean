import Mathlib.Algebra.GroupWithZero.Nat
import Workforce.Job.Log
import Workforce.Proofs.Batch.Account
/-!
# What is known of the tasks of a job

The tasks of a job in a closed form, when they fit into a list, their names and values, and how many
of the first items produce a value.

## Main definitions

* `Workforce.JobConfig.Yields` — the item produces a value.

## Main results

* `Workforce.TraceContext.children_eq` — the children of a trace context.
* `Workforce.JobConfig.fits_iff` — they fit into a list if there are few enough of them.
* `Workforce.JobConfig.tasks_eq` — the tasks of a job.
* `Workforce.JobConfig.values_take` — the values of the first tasks.
* `Workforce.JobConfig.length_yields` — how many they are.
-/

namespace Workforce

/-- The next few children of a trace context. -/
lemma TraceContext.children_eq (ctx : TraceContext) (k : Nat) : (ctx.children k).1 =
    (List.range k).map fun i => .withId (childId ctx.id (ctx.born + i + 1)) := by
  induction k generalizing ctx with
  | zero => rfl
  | succ k ih =>
    rw [List.range_succ_eq_map, List.map_cons, List.map_map, children, ih]
    refine congrArg₂ _ rfl (List.map_congr_left fun i _ => ?_)
    have hnumber : ctx.born + 1 + i + 1 = ctx.born + (i + 1) + 1 := by omega
    exact congrArg (fun n => withId (childId ctx.id n)) hnumber

namespace JobConfig

variable (c : JobConfig) (root : TraceContext)

/-! ## Items -/

/-- The item produces a value. -/
abbrev Yields (item : Nat) : Prop := c.skipEvery = 0 ∨ ¬ c.skipEvery ∣ item

/-- It does not if it is skipped. -/
lemma skips_eq_false_iff (item : Nat) : c.skips item = false ↔ c.Yields item := by
  rw [skips, Bool.and_eq_false_iff, decide_eq_false_iff_not, beq_eq_false_iff_ne,
    Nat.pos_iff_ne_zero, not_not, ne_eq, Yields, Nat.dvd_iff_mod_eq_zero]

/-- How many of the first items produce a value. -/
theorem length_yields (k : Nat) :
    ((List.range' 1 k).filter (c.Yields ·)).length =
      if c.skipEvery = 0 then k else k - k / c.skipEvery := by
  by_cases hzero : c.skipEvery = 0
  · simp [Yields, hzero]
  · rw [if_neg hzero]
    induction k with
    | zero => simp
    | succ k ih =>
      have hle : k / c.skipEvery ≤ k := Nat.div_le_self _ _
      rw [List.range'_1_concat, List.filter_append, List.length_append, ih, Nat.succ_div,
        Nat.add_comm 1 k]
      by_cases hdvd : c.skipEvery ∣ k + 1
      · simp [Yields, hzero, hdvd]
      · simp [Yields, hdvd]
        omega

/-! ## Tasks -/

/-- The tasks of a job fit into a list if there are fewer than `2 ^ 59` items. -/
theorem fits_iff : c.Fits ↔ c.batchItems < 2 ^ 59 := by
  have hlimit : listBytes = 2 ^ 63 - 1 := rfl
  rw [Fits, taskBytes, hlimit]
  omega

/-- Otherwise they do not. -/
lemma not_fits_iff : ¬ c.Fits ↔ 2 ^ 59 ≤ c.batchItems := by
  rw [c.fits_iff, Nat.not_lt]

/-- The trace context of a run has no children yet. -/
lemma born_root (seed : UInt64) : (c.root seed).born = 0 := by
  unfold JobConfig.root
  split <;> rfl

variable {root} (fresh : root.born = 0)

include fresh

/-- The tasks of a job: item `n` runs in the span of the `n`-th child. -/
theorem tasks_eq : c.tasks root = (List.range c.batchItems).map fun i =>
    c.task i (.withId (TraceContext.childId root.id (i + 1))) := by
  refine List.ext_getElem (by simp [tasks, TraceContext.children_eq]) fun i hi hi' => ?_
  simp [tasks, TraceContext.children_eq, fresh]

@[simp] lemma length_tasks : (c.tasks root).length = c.batchItems := by
  rw [c.tasks_eq fresh, List.length_map, List.length_range]

/-- The first tasks. -/
lemma take_tasks {k : Nat} (hk : k ≤ c.batchItems) : (c.tasks root).take k =
    (List.range k).map fun i => c.task i (.withId (TraceContext.childId root.id (i + 1))) := by
  rw [c.tasks_eq fresh, ← List.map_take, List.take_range, Nat.min_eq_left hk]

/-- They carry their indices. -/
lemma numbered_tasks : Numbered call (c.tasks root) := by
  intro i t ht
  rw [c.tasks_eq fresh, List.getElem?_map] at ht
  obtain ⟨j, hj, rfl⟩ := Option.map_eq_some_iff.1 ht
  obtain ⟨hlt, rfl⟩ := List.getElem?_eq_some_iff.1 hj
  simp [task, call]

/-- They have known running times, and none makes the submitter break down. -/
lemma plain_tasks : ∀ t ∈ c.tasks root, t.duration.isSome ∧ t.frail = false := by
  intro t ht
  rw [c.tasks_eq fresh] at ht
  obtain ⟨i, -, rfl⟩ := List.mem_map.1 ht
  exact ⟨rfl, rfl⟩

/-- The items that the first tasks process. -/
lemma items_take {k : Nat} (hk : k ≤ c.batchItems) :
    ((c.tasks root).take k).map itemOf = List.range' 1 k := by
  rw [c.take_tasks fresh hk, List.map_map, List.range'_eq_map_range]
  exact List.map_congr_left fun i _ => Nat.add_comm i 1

/-- The values that the first tasks produce. -/
theorem values_take {k : Nat} (hk : k ≤ c.batchItems) :
    ((c.tasks root).take k).filterMap Task.value? = (List.range' 1 k).filter (c.Yields ·) := by
  have hvalue : ∀ i, (c.task i (.withId (TraceContext.childId root.id (i + 1)))).value? =
      Option.guard (c.Yields ·) (1 + i) := by
    intro i
    have hskips := c.skips_eq_false_iff (i + 1)
    rw [Nat.add_comm 1 i, Option.guard]
    cases h : c.skips (i + 1) <;> simp_all [Task.value?, task]
  rw [c.take_tasks fresh hk, List.filterMap_map, List.range'_eq_map_range,
    ← List.filterMap_eq_filter, List.filterMap_map]
  exact List.filterMap_congr fun i _ => hvalue i

end JobConfig

end Workforce
