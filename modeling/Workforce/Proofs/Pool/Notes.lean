import Workforce.Proofs.Capacity
import Workforce.Proofs.Exits
import Workforce.Proofs.Notes
/-!
# The notes of a pool

Every worker that begins or exits, every task that panics, the close of a pool and the close of its
results are noted, each of them once. What has been noted therefore tells how many workers a pool
has, how many of them have exited, and whether it has been closed.

## Main definitions

* `Workforce.Trail.tale` — the occurrences that are counted.
* `Workforce.Pool.Tally` — what has been noted of a pool, and what has happened to it.

## Main results

* `Workforce.Pool.Step.notes` — what a step notes of tasks and of a close.
* `Workforce.Pool.Steps.tally` — the notes on a pool from its beginning agree with its state.
-/

namespace Workforce

open Occurrence Trail

variable {α β : Type}

/-! ## What is counted -/

namespace Occurrence

/-- The occurrence is the begin or the exit of a worker, the close of the results or of a pool, the
end of a task, or the note on a task that has panicked. -/
def telling (o : Occurrence α) : Bool :=
  o.begun?.isSome || o.exit?.isSome || o.finale?.isSome || o.close?.isSome || o.ended?.isSome ||
    o.failed?.isSome

/-- What is not counted is none of these. -/
lemma kinds_of_not_telling {o : Occurrence α} (h : o.telling = false) :
    o.begun? = none ∧ o.exit? = none ∧ o.finale? = none ∧ o.close? = none ∧ o.ended? = none ∧
      o.failed? = none := by
  cases o with
  | event e => cases e <;> cases h <;> exact ⟨rfl, rfl, rfl, rfl, rfl, rfl⟩
  | _ => exact ⟨rfl, rfl, rfl, rfl, rfl, rfl⟩

end Occurrence

namespace Trail

/-- What is counted in a trail. -/
def tale (os : Trail α) : Trail α := os.filter Occurrence.telling

@[simp] lemma tale_append (os ps : Trail α) :
    tale (os ++ ps) = tale os ++ tale ps :=
  List.filter_append ..

/-- What is not counted is left out. -/
lemma tale_cons {o : Occurrence α} (h : o.telling = false) (os : Trail α) :
    tale (o :: os) = tale os :=
  List.filter_cons_of_neg (by simp [h])

/-- Nothing in the trail is counted. -/
lemma tale_eq_nil {os : Trail α} (h : ∀ o ∈ os, o.telling = false) : tale os = [] :=
  List.filter_eq_nil_iff.2 fun o ho => by simp [h o ho]

/-- Occurrences that are all alike and are not counted. -/
lemma tale_map {γ : Type} (f : γ → Occurrence α) (h : ∀ x, (f x).telling = false)
    (xs : List γ) : tale (xs.map f) = [] := by
  refine tale_eq_nil fun o ho => ?_
  obtain ⟨x, -, rfl⟩ := List.mem_map.1 ho
  exact h x

/-- Trails in which the same is counted agree on a kind of counted occurrences. -/
lemma collect_eq_of_tale {os ps : Trail α} (h : tale os = tale ps)
    {kind : Occurrence α → Option β} (hkind : ∀ o, o.telling = false → kind o = none) :
    collect kind os = collect kind ps := by
  rw [← collect_filter hkind, ← tale, h, tale, collect_filter hkind]

/-- What panicked in two trails. -/
@[simp] lemma panicked_append (os ps : Trail α) :
    panicked (os ++ ps) = panicked os ++ panicked ps := by
  rw [panicked, collect_append, List.filter_append]
  rfl

/-- Where nothing ends nothing panics. -/
lemma panicked_eq_nil {os : Trail α} (h : collect ended? os = []) : panicked os = [] := by
  rw [panicked, h, List.filter_nil]

end Trail

namespace Pool

variable {p q : Pool α} {os ps : Trail α}

/-! ## Steps -/

/-- **What a step notes of tasks and of a close.** No worker begins in it. A task that panics is
noted, and so is a close, unless the pool has been closed before. -/
theorem Step.notes (h : Step p os q) :
    collect begun? os = [] ∧
      (collect failed? os).length = (panicked os).length ∧
        (collect close? os).length + p.closed.toNat = q.closed.toNat := by
  -- a step in which nothing of that kind happens
  have quiet : collect begun? os = [] → collect failed? os = [] → collect ended? os = [] →
      collect close? os = [] → q.closed = p.closed → collect begun? os = [] ∧
        (collect failed? os).length = (panicked os).length ∧
          (collect close? os).length + p.closed.toNat = q.closed.toNat := by
    intro hbegun hfailed hended hclose hclosed
    rw [hfailed, panicked_eq_nil hended, hclose, hclosed]
    exact ⟨hbegun, rfl, Nat.zero_add _⟩
  cases h with
  | stop | leave | lose =>
    refine quiet ?_ ?_ ?_ ?_ (closed_retire ..)
    all_goals exact collect_retire_of_none _ _ _ rfl rfl rfl fun _ => rfl
  | withdraw call =>
    refine quiet ?_ ?_ ?_ ?_ rfl
    all_goals exact collect_withdraw_of_none call p (fun _ => rfl) (fun _ => rfl) fun _ => rfl
  | retract =>
    refine quiet ?_ ?_ ?_ ?_ rfl
    all_goals exact collect_retract_of_none p (fun _ => rfl) fun _ => rfl
  | resign =>
    refine quiet ?_ ?_ ?_ ?_ rfl
    all_goals exact collect_map_none _ _ (fun _ => rfl) _
  | finish running outcome => simp [panicked, ended?, outcome]
  | fail running outcome => simp [panicked, ended?, outcome]
  | close opened => simp [panicked, ended?, opened]
  | _ => exact quiet rfl rfl rfl rfl rfl

/-! ## Runs -/

/-- What has been noted of a pool agrees with what has happened to it. -/
structure Tally (p : Pool α) (os : Trail α) : Prop where
  /-- As many workers have begun as the pool was made with. -/
  begun : (collect begun? os).length = p.size
  /-- Every worker has exited once, or is there. -/
  exits : (collect exit? os).length + p.workers = p.size
  /-- The results have been closed once if all workers have exited. -/
  finale : (collect finale? os).length = if p.workers = 0 then 1 else 0
  /-- As many tasks were noted to have panicked as have done so. -/
  failed : (collect failed? os).length = (panicked os).length
  /-- The pool has been closed once if it is closed. -/
  closed : (collect close? os).length = p.closed.toNat

/-- The same is noted along a run. -/
lemma Steps.notes (h : Steps p os q) :
    collect begun? os = [] ∧
      (collect failed? os).length = (panicked os).length ∧
        (collect close? os).length + p.closed.toNat = q.closed.toNat := by
  induction h with
  | refl => exact ⟨rfl, rfl, Nat.zero_add _⟩
  | tail _ last ih =>
    obtain ⟨hbegun, hfailed, hclosed⟩ := ih
    obtain ⟨hbegun', hfailed', hclosed'⟩ := last.notes
    simp only [collect_append, panicked_append, List.length_append, hbegun, hbegun',
      List.append_nil, true_and]
    omega

/-- As many begins are noted when a pool is made as it has workers, and nothing else is counted. -/
lemma tale_opening (p : Pool α) :
    tale (p.opening.map event) = List.replicate p.size (event .workerStarted) := by
  rw [opening, List.map_cons, List.map_replicate, tale_cons rfl]
  exact List.filter_replicate_of_pos rfl

/-- **The notes on a pool agree with its state**, from its beginning on.

**Proof sketch.** Every step keeps the balance: a worker that exits is noted and taken off, the last
one closes the results, a task that panics is noted, and so is the first close. -/
theorem Steps.tally (h : Steps p os q) (blank : p.Blank) {all : Trail α}
    (hall : tale all = tale (p.opening.map event ++ os)) : Tally q all := by
  obtain ⟨hbegun, hfailed, hclosed⟩ := h.notes
  have hsize : p.workers ≠ 0 := blank.workers ▸ Nat.ne_of_gt p.size_pos
  -- of other kinds nothing is noted when the pool is made
  have later : ∀ {β : Type} (kind : Occurrence α → Option β),
      (∀ o, o.telling = false → kind o = none) → kind (event .workerStarted) = none →
      collect kind all = collect kind os := by
    intro β kind hkind hstart
    rw [collect_eq_of_tale hall hkind, collect_append, Scene.collect_opening kind p
      (hkind _ rfl) hstart, List.nil_append]
  have hstarts : collect begun? all = List.replicate p.size () := by
    rw [collect_eq_of_tale hall fun _ ho => (kinds_of_not_telling ho).1, collect_append, hbegun,
      ← collect_filter fun _ ho => (kinds_of_not_telling ho).1, ← tale, tale_opening]
    simp [collect]
  constructor
  · rw [hstarts, List.length_replicate, h.size_eq]
  · rw [later exit? (fun _ ho => (kinds_of_not_telling ho).2.1) rfl, h.exits, h.size_eq,
      blank.workers]
  · rw [later finale? (fun _ ho => (kinds_of_not_telling ho).2.2.1) rfl, h.finale hsize]
  · rw [later failed? (fun _ ho => (kinds_of_not_telling ho).2.2.2.2.2) rfl,
      panicked, later ended? (fun _ ho => (kinds_of_not_telling ho).2.2.2.2.1) rfl, ← panicked,
      hfailed]
  · rw [later close? (fun _ ho => (kinds_of_not_telling ho).2.2.2.1) rfl, ← hclosed, blank.closed]
    rfl

end Pool

end Workforce
