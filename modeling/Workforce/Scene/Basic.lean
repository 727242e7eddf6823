import Workforce.Batch
/-!
# Scenes

A scene holds pools and batches that live side by side, a clock, and a *parent* whose
cancellation reaches the pools and batches that follow it. The pools and batches of a scene do not
touch each other: what they have in common is the clock, the parent, and that the discard of a
frail task panics only once in a scene.

## Main definitions

* `Workforce.Scene` — a clock, the parent's state, pools and batches.
* `Workforce.Place` — where in a scene something happens.
* `Workforce.Scene.everywhere` — one change carried out at every pool and every batch.
* `Workforce.Scene.settle` — every pool and every batch moves until nothing moves.
* `Workforce.Scene.finish` — the end of a running task.

## Main results

* `Workforce.Scene.load_settle` — settling a scene adds no task.
* `Workforce.Scene.load_finish` — ending a task that runs takes it off the load.
-/

namespace Workforce

/-- Where in a scene something happens: at the pool or at the batch of that index. -/
inductive Place where
  | pool (index : Nat)
  | batch (index : Nat)
deriving DecidableEq

/-- Pools and batches under one clock and one parent. -/
structure Scene (α : Type) where
  /-- The time in milliseconds. -/
  now : Nat := 0
  /-- The parent has been cancelled. -/
  parentCancelled : Bool := false
  /-- The discard of a frail task still panics. -/
  brittle : Bool := true
  pools : List (Pool α) := []
  batches : List (Batch α) := []

/-- An event and where it happened. -/
abbrev Entry (α : Type) := Place × Event α

/-! ## Totals -/

/-- The sum of a count over a list. -/
def total {σ : Type} (count : σ → Nat) : List σ → Nat
  | [] => 0
  | x :: xs => count x + total count xs

/-- A count over what some elements are turned into. -/
theorem total_map {σ τ : Type} (count : τ → Nat) (f : σ → τ) (xs : List σ) :
    total count (xs.map f) = total (fun x => count (f x)) xs := by
  induction xs with
  | nil => rfl
  | cons x xs ih => simp [total, ih]

/-- A sum of smaller numbers is no larger. -/
theorem total_le_total {σ : Type} {f g : σ → Nat} (xs : List σ) (h : ∀ x, f x ≤ g x) :
    total f xs ≤ total g xs := by
  induction xs with
  | nil => exact Nat.le_refl _
  | cons x xs ih => exact Nat.add_le_add (h x) ih

/-- If one of the numbers is really smaller, so is the sum. -/
theorem total_lt_total {σ : Type} {f g : σ → Nat} {xs : List σ} (h : ∀ x, f x ≤ g x) {x : σ}
    (hx : x ∈ xs) (hlt : f x < g x) : total f xs < total g xs := by
  induction xs with
  | nil => cases hx
  | cons y ys ih =>
    rcases List.mem_cons.1 hx with rfl | hx
    · exact Nat.add_lt_add_of_lt_of_le hlt (total_le_total ys h)
    · exact Nat.add_lt_add_of_le_of_lt (h y) (ih hx)

/-! ## The same change at every place -/

section Sweep

variable {α σ : Type}

/-- Applies a change to one component after the other; it is told each time whether the discard
of a frail task still panics. -/
def sweep (f : Bool → σ → σ × List (Event α)) (brittle : Bool) :
    List σ → List (σ × List (Event α))
  | [] => []
  | x :: xs =>
    f brittle x :: sweep f (brittle && !(f brittle x).2.any Event.isFrailDiscard) xs

/-- The events of a sweep, each with its place. -/
def entries (place : Nat → Place) (rs : List (σ × List (Event α))) : List (Entry α) :=
  rs.zipIdx.flatMap fun (r, i) => r.2.map (place i, ·)

/-- A sweep changes every component. -/
theorem length_sweep (f : Bool → σ → σ × List (Event α)) (brittle : Bool) (xs : List σ) :
    (sweep f brittle xs).length = xs.length := by
  induction xs generalizing brittle with
  | nil => rfl
  | cons x xs ih => simp [sweep, ih]

/-- What a change leads to after a sweep it has led to from some component. -/
theorem exists_of_mem_sweep {f : Bool → σ → σ × List (Event α)} {brittle : Bool} {xs : List σ}
    {r : σ × List (Event α)} (h : r ∈ sweep f brittle xs) : ∃ b, ∃ x ∈ xs, f b x = r := by
  induction xs generalizing brittle with
  | nil => cases h
  | cons x xs ih =>
    rcases List.mem_cons.1 h with rfl | h
    · exact ⟨brittle, x, List.mem_cons_self, rfl⟩
    · obtain ⟨b, y, hy, hf⟩ := ih h
      exact ⟨b, y, List.mem_cons_of_mem _ hy, hf⟩

/-- A component has been changed by a sweep. -/
theorem exists_mem_sweep (f : Bool → σ → σ × List (Event α)) (brittle : Bool) {xs : List σ}
    {x : σ} (h : x ∈ xs) : ∃ b, f b x ∈ sweep f brittle xs := by
  induction xs generalizing brittle with
  | nil => cases h
  | cons y ys ih =>
    rcases List.mem_cons.1 h with rfl | h
    · exact ⟨brittle, List.mem_cons_self⟩
    · obtain ⟨b, hb⟩ := ih (brittle && !(f brittle y).2.any Event.isFrailDiscard) h
      exact ⟨b, List.mem_cons_of_mem _ hb⟩

/-- If no change adds to a count, a sweep does not. -/
theorem total_sweep_le {f : Bool → σ → σ × List (Event α)} {g : σ → Nat}
    (hle : ∀ b x, g (f b x).1 ≤ g x) (brittle : Bool) (xs : List σ) :
    total (g ·.1) (sweep f brittle xs) ≤ total g xs := by
  induction xs generalizing brittle with
  | nil => exact Nat.le_refl _
  | cons x xs ih =>
    have h1 := hle brittle x
    have h2 := ih (brittle && !(f brittle x).2.any Event.isFrailDiscard)
    simp only [sweep, total]
    omega

/-- If moreover one component's count goes down, so does the sum. -/
theorem total_sweep_lt {f : Bool → σ → σ × List (Event α)} {g : σ → Nat}
    (hle : ∀ b x, g (f b x).1 ≤ g x) (brittle : Bool) {xs : List σ} {x : σ} (hx : x ∈ xs)
    (hlt : ∀ b, g (f b x).1 < g x) :
    total (g ·.1) (sweep f brittle xs) < total g xs := by
  induction xs generalizing brittle with
  | nil => cases hx
  | cons y ys ih =>
    simp only [sweep, total]
    rcases List.mem_cons.1 hx with rfl | hx
    · have h1 := hlt brittle
      have h2 := total_sweep_le hle (brittle && !(f brittle x).2.any Event.isFrailDiscard) ys
      omega
    · have h1 := hle brittle y
      have h2 := ih (brittle && !(f brittle y).2.any Event.isFrailDiscard) hx
      omega

end Sweep

namespace Scene

variable {α : Type}

/-- The moment of a scene. -/
def moment (s : Scene α) : Moment := ⟨s.now, s.brittle⟩

/-- The scene after some events: once a frail task has been discarded, none panics again. -/
def after (es : List (Entry α)) (s : Scene α) : Scene α :=
  { s with brittle := s.brittle && !es.any (·.2.isFrailDiscard) }

/-- One change carried out at every pool and every batch, in their order. -/
def everywhere (onPool : Moment → Pool α → Pool α × List (Event α))
    (onBatch : Moment → Batch α → Batch α × List (Event α)) (s : Scene α) :
    Scene α × List (Entry α) :=
  let ps := sweep (fun b => onPool ⟨s.now, b⟩) s.brittle s.pools
  let s := { s with pools := ps.map Prod.fst }.after (entries .pool ps)
  let bs := sweep (fun b => onBatch ⟨s.now, b⟩) s.brittle s.batches
  ({ s with batches := bs.map Prod.fst }.after (entries .batch bs),
    entries .pool ps ++ entries .batch bs)

/-- Everything moves until nothing moves. -/
def settle (s : Scene α) : Scene α × List (Entry α) :=
  s.everywhere Pool.settle Batch.settle

/-- The tasks on workers. -/
def runs (s : Scene α) : List (Run α) :=
  s.pools.flatMap (·.running) ++ s.batches.flatMap (·.pool.running)

/-- The running task of that name ends, wherever it runs. -/
def finish (id : TaskId) (s : Scene α) : Scene α × List (Entry α) :=
  s.everywhere (fun _ => Pool.finish id) (fun _ => Batch.finish id)

/-- The tasks that have not come to their end. -/
def load (s : Scene α) : Nat :=
  total Pool.load s.pools + total Batch.load s.batches

/-! ## Load -/

@[simp] theorem now_everywhere (f : Moment → Pool α → Pool α × List (Event α))
    (g : Moment → Batch α → Batch α × List (Event α)) (s : Scene α) :
    (s.everywhere f g).1.now = s.now := rfl

@[simp] theorem now_settle (s : Scene α) : s.settle.1.now = s.now := rfl

@[simp] theorem now_finish (id : TaskId) (s : Scene α) : (s.finish id).1.now = s.now := rfl

/-- Settling adds no task. -/
theorem load_settle (s : Scene α) : s.settle.1.load ≤ s.load := by
  simp only [settle, everywhere, load, after, total_map]
  exact Nat.add_le_add
    (total_sweep_le (g := Pool.load) (fun b p => Pool.load_settle ⟨s.now, b⟩ p) _ _)
    (total_sweep_le (g := Batch.load) (fun b c => (Batch.lowers_settle ⟨s.now, b⟩ c).load) _ _)

/-- Settling takes no task off a worker. -/
theorem mem_runs_settle {s : Scene α} {r : Run α} (h : r ∈ s.runs) : r ∈ s.settle.1.runs := by
  simp only [runs, List.mem_append, List.mem_flatMap] at h ⊢
  rcases h with ⟨p, hp, hr⟩ | ⟨b, hb, hr⟩
  · obtain ⟨c, hc⟩ := exists_mem_sweep (fun b => Pool.settle ⟨s.now, b⟩) s.brittle hp
    exact .inl ⟨_, List.mem_map_of_mem (f := Prod.fst) hc, Pool.mem_running_settle _ _ hr⟩
  · obtain ⟨c, hc⟩ := exists_mem_sweep (fun b => Batch.settle ⟨s.now, b⟩) _ hb
    exact .inr ⟨_, List.mem_map_of_mem (f := Prod.fst) hc, (Batch.lowers_settle _ _).running _ hr⟩

/-- Ending a task that runs takes it off the load. -/
theorem load_finish {s : Scene α} {r : Run α} (h : r ∈ s.runs) :
    (s.finish r.task.id).1.load < s.load := by
  simp only [finish, everywhere, load, after, total_map]
  have pool_le := total_sweep_le (f := fun _ (p : Pool α) => p.finish r.task.id) (g := Pool.load)
    (fun _ p => Pool.load_finish_le _ p)
  have batch_le := total_sweep_le (f := fun _ (b : Batch α) => b.finish r.task.id) (g := Batch.load)
    (fun _ b => Nat.add_le_add_left (Pool.load_finish_le _ b.pool) _)
  simp only [runs, List.mem_append, List.mem_flatMap] at h
  rcases h with ⟨p, hp, hr⟩ | ⟨b, hb, hr⟩
  · exact Nat.add_lt_add_of_lt_of_le
      (total_sweep_lt (g := Pool.load) (fun _ p => Pool.load_finish_le _ p) _ hp
        fun _ => Pool.load_finish_lt hr)
      (batch_le _ _)
  · exact Nat.add_lt_add_of_le_of_lt (pool_le _ _)
      (total_sweep_lt (g := Batch.load)
        (fun _ b => Nat.add_le_add_left (Pool.load_finish_le _ b.pool) _) _ hb
        fun _ => Nat.add_lt_add_left (Pool.load_finish_lt hr) _)

end Scene

end Workforce
