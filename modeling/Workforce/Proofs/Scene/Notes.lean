import Mathlib.Algebra.BigOperators.Group.List.Basic
import Mathlib.Algebra.GroupWithZero.Nat
import Workforce.Proofs.Batch.Notes
import Workforce.Proofs.Scene.Breakdown
/-!
# The notes of a scene

What is counted at a place agrees with the pool there, and where no pool is nothing is counted. What
is counted anywhere is therefore the sum of what can be told of the pools.

## Main definitions

* `Workforce.Scene.allPools` — all pools of a scene, those of batches included.
* `Workforce.Scene.places` — their places.
* `Workforce.Event.Idle` — an event at a place where no batch begins.

## Main results

* `Workforce.Stage.Steps.tally` — the notes at a place agree with the pool there.
* `Workforce.Stage.Steps.total_notes` — sums over the pools of a scene.
-/

namespace Workforce

open Occurrence Trail History

variable {α β : Type}

/-! ## Where no batch begins -/

/-- The event discards a task, or answers a call that was made before the given number of calls;
with a list of values only if there was nothing to run. -/
def Event.Idle (calls : Nat) (place : Place) (h : History α) : Event α → Prop
  | discarded _ => True
  | batchAnswered n answer =>
    n < calls ∧ ∀ values, answer = .batch (.ok values) → (place, batched n []) ∈ h
  | _ => False

namespace Stage

open Scene

variable {g g' : Stage α} {h k : History α} {place : Place} {p : Pool α} {i : Nat} {b : Batch α}

/-- What has happened at a place where no batch has begun. -/
lemma Steps.idle (run : Steps {} h g) (hnone : g.scene.batches[i]? = none) {e : Event α}
    (hx : (Place.batch i, e) ∈ events h) : e.Idle g.calls (.batch i) h := by
  rcases run.unbegun hnone hx with ⟨t, rfl⟩ | ⟨call, tasks, answer, hlt, hcall, rfl, hanswer⟩
  · trivial
  · refine ⟨hlt, fun values heq => ?_⟩
    rcases hanswer with ⟨rfl, -⟩ | ⟨-, rfl | rfl⟩
    · exact hcall
    · cases heq
    · cases heq

/-- Where no pool is nothing is counted. -/
lemma Steps.tale_of_none (run : Steps {} h g) (hnone : g.scene.poolAt place = none) :
    tale (trailAt place h) = [] := by
  cases place with
  | pool i =>
    rcases run.changes_of_empty.pool_of_none (i := i) rfl with ⟨-, htrail⟩ |
      ⟨n, hn, child, cancelled, q, os, hq, -⟩
    · rw [htrail]
      rfl
    · cases hnone.symm.trans hq
  | batch i =>
    refine tale_eq_nil fun o ho => ?_
    cases o with
    | event e =>
      have hidle := run.idle (Option.map_eq_none_iff.1 hnone) (mem_events.2 (mem_trailAt.1 ho))
      cases e <;> first | rfl | exact hidle.elim
    | _ => rfl

/-! ## Where a pool is -/

/-- What is counted of a batch is counted of its pool, from the beginning on. -/
lemma Steps.batch_tale (run : Steps {} h g) (hb : g.scene.batches[i]? = some b) :
    ∃ p os, p.Blank ∧ Pool.Steps p os b.pool ∧
      tale (trailAt (.batch i) h) = tale (p.opening.map event ++ os) := by
  induction run generalizing b with
  | refl => cases hb
  | @tail g₁ g₂ h₁ k run last ih =>
    rw [trailAt_append, tale_append]
    cases hb₁ : g₁.scene.batches[i]? with
    | none =>
      have hnone : g₁.scene.poolAt (.batch i) = none := Option.map_eq_none_iff.2 hb₁
      obtain ⟨call, n, hn, tasks, admission, rfl, htrail, -⟩ := last.new_batch hb₁ hb
      rw [Steps.tale_of_none run hnone, htrail, tale_cons rfl]
      exact ⟨_, [], (Pool.blank_fresh ..).receive _, .refl _, by rw [List.append_nil]; rfl⟩
    | some b₁ =>
      obtain ⟨p, os, blank, hsteps, htale⟩ := ih hb₁
      have sound := Steps.batches_sound run b₁ (List.mem_of_getElem? hb₁)
      obtain ⟨ps, hlast, hps⟩ : ∃ ps, Pool.Steps b₁.pool ps b.pool ∧
          tale ps = tale (trailAt (.batch i) k) := by
        rcases last.at_batch hb₁ with ⟨l, c, es, move, hc, htrail, -⟩ | ⟨x, hc, htrail, -⟩ |
          ⟨-, hc, htrail, -⟩ <;> cases hb.symm.trans hc <;> rw [htrail]
        · exact Batch.tale_of_perform? sound move
        · exact x.tale b₁
        · exact b₁.tale_abandon
      refine ⟨p, os ++ ps, blank, hsteps.trans hlast, ?_⟩
      rw [htale, ← hps, ← tale_append, List.append_assoc]

/-- **The notes at a place agree with the pool there.** -/
theorem Steps.tally (run : Steps {} h g) (here : g.scene.poolAt place = some p) :
    p.Tally (trailAt place h) := by
  cases place with
  | pool i =>
    obtain ⟨p₀, os, blank, -, hsteps, htrail⟩ := run.changes_of_empty.pool_life here
    exact hsteps.tally blank (by rw [htrail])
  | batch i =>
    obtain ⟨b, hb, rfl⟩ := Option.map_eq_some_iff.1 here
    obtain ⟨p₀, os, blank, hsteps, htale⟩ := run.batch_tale hb
    exact hsteps.tally blank htale

end Stage

/-! ## Sums -/

namespace Scene

/-- All pools of a scene, those of batches included. -/
def allPools (s : Scene α) : List (Pool α) := s.pools ++ s.batches.map (·.pool)

/-- The places of the pools. -/
def places (s : Scene α) : List Place :=
  (List.range s.pools.length).map .pool ++ (List.range s.batches.length).map .batch

variable {s : Scene α}

/-- A place is listed if there is a pool. -/
lemma mem_places {place : Place} : place ∈ s.places ↔ s.poolAt place ≠ none := by
  cases place <;> simp [places, poolAt]

/-- No place is listed twice. -/
lemma nodup_places (s : Scene α) : s.places.Nodup := by
  refine List.nodup_append.2 ⟨?_, ?_, ?_⟩
  · exact List.nodup_range.map fun _ _ h => Place.pool.inj h
  · exact List.nodup_range.map fun _ _ h => Place.batch.inj h
  · simp

/-- A sum over the places of the pools is a sum over the pools. -/
lemma sum_places {f : Place → Nat} {size : Pool α → Nat}
    (h : ∀ place p, s.poolAt place = some p → f place = size p) :
    (s.places.map f).sum = (s.allPools.map size).sum := by
  have hrange : ∀ {σ : Type} (xs : List σ) (place : Nat → Place) (pool : σ → Pool α),
      (∀ i x, xs[i]? = some x → s.poolAt (place i) = some (pool x)) →
      (List.range xs.length).map (f ∘ place) = xs.map (size ∘ pool) := by
    intro σ xs place pool hxs
    refine List.ext_getElem (by simp) fun i hi _ => ?_
    have hlt : i < xs.length := by simpa using hi
    simpa using h _ _ (hxs i xs[i] (List.getElem?_eq_getElem hlt))
  rw [places, allPools, List.map_append, List.map_append, List.map_map, List.map_map, List.map_map,
    hrange s.pools .pool id fun i p hp => hp,
    hrange s.batches .batch (·.pool) fun i b hb => by rw [poolAt, hb]; rfl]
  rfl

end Scene

namespace History

/-- What is counted anywhere is counted at one of some places. -/
lemma length_collect_trail {kind : Occurrence α → Option β} {ps : List Place} (nodup : ps.Nodup)
    (h : History α) (hall : ∀ x ∈ h, kind x.2 ≠ none → x.1 ∈ ps) :
    (collect kind (trail h)).length =
      (ps.map fun place => (collect kind (trailAt place h)).length).sum := by
  induction h with
  | nil => simp [trail, trailAt]
  | cons x h ih =>
    have hcons : ∀ place, (collect kind (trailAt place (x :: h))).length =
        (if x.1 = place then (kind x.2).toList.length else 0) +
          (collect kind (trailAt place h)).length := by
      intro place
      by_cases hx : x.1 = place
      · simp [trailAt, hx]
      · simp [trailAt, hx]
    have hone : (ps.map fun place => if x.1 = place then (kind x.2).toList.length else 0).sum =
        (kind x.2).toList.length := by
      rw [List.sum_map_eq_nsmul_single x.1 _ fun place hne _ => if_neg (Ne.symm hne), if_pos rfl]
      cases hkind : kind x.2 with
      | none => simp
      | some y =>
        rw [List.count_eq_one_of_mem nodup (hall x List.mem_cons_self (by simp [hkind])), one_nsmul]
    simp only [hcons]
    rw [List.sum_map_add, hone, ← ih fun y hy => hall y (List.mem_cons_of_mem _ hy), trail,
      List.map_cons, collect_cons, List.length_append]
    rfl

end History

namespace Stage

variable {g : Stage α} {h : History α}

/-- What is counted in a scene is counted at the places of its pools. -/
lemma Steps.length_collect (run : Steps {} h g) {kind : Occurrence α → Option β}
    (hkind : ∀ o, o.telling = false → kind o = none) :
    (collect kind (trail h)).length =
      (g.scene.places.map fun place => (collect kind (trailAt place h)).length).sum := by
  refine length_collect_trail g.scene.nodup_places h fun x hx hx' => ?_
  refine Scene.mem_places.2 fun hnone => hx' (hkind _ ?_)
  have hmem := List.filter_eq_nil_iff.1 (run.tale_of_none hnone) x.2 (mem_trailAt.2 hx)
  simpa using hmem

/-- **What is counted in a scene is the sum of what can be told of its pools.** -/
theorem Steps.total_notes (run : Steps {} h g) {kind : Occurrence α → Option β}
    (hkind : ∀ o, o.telling = false → kind o = none) {size : Pool α → Nat}
    (hsize : ∀ place p, g.scene.poolAt place = some p →
      (collect kind (trailAt place h)).length = size p) :
    (collect kind (trail h)).length = (g.scene.allPools.map size).sum := by
  rw [run.length_collect hkind, Scene.sum_places hsize]

end Stage

end Workforce
