import Workforce.Proofs.Scene.Action
import Workforce.Proofs.Batch.Detach
/-!
# Scenes in which a batch has no parent

As long as the parent is not cancelled, a scene goes on in the same way if one of its batches has no
parent.

## Main definitions

* `Workforce.Scene.detach` — the scene, but with no parent for the batch at an index.

## Main results

* `Workforce.Scene.enactAll_detach` — actions lead to the same phases.
* `Workforce.Scene.enactAll_untilCancelled` — a batch that follows the parent goes on like one
  without a limit.
-/

namespace Workforce.Scene

open History

variable {α σ : Type} {s : Scene α} {i : Nat}

/-! ## Changes everywhere -/

/-- What is read off the elements is changed at one of them. -/
lemma map_modify {τ : Type} (f : σ → σ) (h : τ → τ) (g : σ → τ) (same : ∀ x, g (f x) = h (g x))
    (i : Nat) (xs : List σ) : (xs.modify i f).map g = (xs.map g).modify i h := by
  apply List.ext_getElem?
  intro j
  simp only [List.getElem?_map, List.getElem?_modify]
  cases xs[j]? with
  | none => rfl
  | some x => by_cases hj : i = j <;> simp [hj, same]

/-- What is read off the elements is not changed. -/
lemma map_modify_eq {τ : Type} (f : σ → σ) (g : σ → τ) (same : ∀ x, g (f x) = g x) (i : Nat)
    (xs : List σ) : (xs.modify i f).map g = xs.map g := by
  rw [map_modify f id g same, List.modify_id]

/-- A change of an element of the first list. -/
lemma modify_append_left (f : σ → σ) {xs : List σ} (ys : List σ) {i : Nat} (hi : i < xs.length) :
    (xs ++ ys).modify i f = xs.modify i f ++ ys := by
  induction xs generalizing i with
  | nil => cases hi
  | cons x xs ih =>
    cases i with
    | zero => rfl
    | succ i =>
      rw [List.cons_append, List.modify_succ_cons, List.modify_succ_cons, List.cons_append,
        ih (Nat.lt_of_succ_lt_succ hi)]

/-- A change of the last element. -/
lemma modify_concat (f : σ → σ) (xs : List σ) (x : σ) :
    (xs ++ [x]).modify xs.length f = xs ++ [f x] := by
  induction xs with
  | nil => rfl
  | cons y ys ih => rw [List.cons_append, List.length_cons, List.modify_succ_cons, ih]; rfl

/-- A sweep over components one of which is a little different. -/
lemma sweep_modify {f : Bool → σ → σ × List (Event α)} {a : σ → σ} (brittle : Bool) {xs : List σ}
    {i : Nat}
    (same : ∀ b, ∀ x, xs[i]? = some x → f b (a x) = Prod.map a id (f b x)) :
    sweep f brittle (xs.modify i a) = (sweep f brittle xs).modify i (Prod.map a id) := by
  induction xs generalizing i brittle with
  | nil => simp [sweep]
  | cons x xs ih =>
    cases i with
    | zero =>
      have hx := same brittle x rfl
      simp only [List.modify_zero_cons, sweep, hx]
      rfl
    | succ i =>
      simp only [List.modify_succ_cons, sweep]
      rw [ih _ fun b y hy => same b y (by simpa using hy)]

/-- Its events are the same. -/
lemma entries_modify (place : Nat → Place) (a : σ → σ) (i : Nat)
    (rs : List (σ × List (Event α))) :
    entries place (rs.modify i (Prod.map a id)) = entries place rs := by
  have hentries : ∀ rs : List (σ × List (Event α)), entries place rs =
      (rs.map Prod.snd).zipIdx.flatMap fun x => x.1.map (place x.2, ·) := by
    intro rs
    rw [entries, List.zipIdx_map, List.flatMap_map]
    rfl
  rw [hentries, hentries, map_modify_eq (Prod.map a id) Prod.snd fun _ => rfl]

/-- The scene, but with no parent for the batch at an index. -/
def detach (i : Nat) (s : Scene α) : Scene α :=
  { s with batches := s.batches.modify i Batch.detach }

/-- A change everywhere that does not depend on the parent of that batch. -/
lemma everywhere_detach (f : Moment → Pool α → Pool α × List (Event α))
    {g : Moment → Batch α → Batch α × List (Event α)}
    (same : ∀ m b, s.batches[i]? = some b → g m b.detach = Prod.map Batch.detach id (g m b)) :
    (s.detach i).everywhere f g = Prod.map (detach i) id (s.everywhere f g) := by
  have hsweep := fun brittle : Bool => sweep_modify (f := fun b => g ⟨s.now, b⟩) brittle
    fun b x hx => same ⟨s.now, b⟩ x hx
  have hfst := map_modify (Prod.map Batch.detach id) Batch.detach
    (Prod.fst : Batch α × List (Event α) → Batch α) (fun _ => rfl) i
  simp only [everywhere, detach, after, hsweep, entries_modify, hfst]
  rfl

/-! ## Actions -/

/-- An action on a pool does not depend on it. -/
lemma visit_detach (j : Nat) (before after : Trail α)
    (f : Moment → Pool α → Pool α × List (Event α)) (i : Nat) (s : Scene α) :
    (s.detach i).visit j before after f = Prod.map (detach i) id (s.visit j before after f) := by
  have hat : (s.detach i).atPool j f = Prod.map (detach i) id (s.atPool j f) := by
    simp only [atPool, detach]
    split <;> rfl
  have hpool : (s.detach i).pool? j = s.pool? j := rfl
  simp only [visit, hpool, hat]
  split <;> rfl

/-- The calls that are pending do not depend on it. -/
lemma pendingCalls_detach (i : Nat) (s : Scene α) :
    (s.detach i).pendingCalls = s.pendingCalls := by
  have hcalls : ∀ bs : List (Batch α), (bs.filter (·.pending)).map (·.call) =
      ((bs.map fun b => (b.pending, b.call)).filter Prod.fst).map Prod.snd := by
    intro bs
    rw [List.filter_map, List.map_map]
    rfl
  simp only [pendingCalls, detach]
  rw [hcalls, hcalls, map_modify_eq Batch.detach (fun b => (b.pending, b.call)) fun _ => rfl]

/-- Neither do the tasks that run. -/
lemma runs_detach (i : Nat) (s : Scene α) : (s.detach i).runs = s.runs := by
  simp only [runs, detach, List.flatMap_def]
  rw [map_modify_eq Batch.detach (·.pool.running) fun _ => rfl]

/-- The end of a task. -/
lemma finish_detach (name : TaskId) (i : Nat) (s : Scene α) :
    (s.detach i).finish name = Prod.map (detach i) id (s.finish name) :=
  everywhere_detach _ fun _ b _ => Batch.finish_detach name b

/-- Beginning another batch. -/
lemma newBatch_detach (hi : i < s.batches.length) (call size : Nat) (tasks : List (Task α))
    (admission : Admission) :
    (s.detach i).newBatch call size tasks admission =
      Prod.map (detach i) id (s.newBatch call size tasks admission) := by
  have hlength : (s.detach i).batches.length = s.batches.length := List.length_modify ..
  simp only [newBatch, hlength]
  simp only [detach]
  split
  · rfl
  · rw [← modify_append_left _ _ hi]
    rfl
  · rfl

/-- **What an action does at once does not depend on the parent of that batch**, if it does not
cancel the parent. -/
theorem immediate_detach (hi : i < s.batches.length) {x : Action α}
    (quiet : ∀ n, x ≠ .order n .cancelParent) :
    (s.detach i).immediate x = Prod.map (detach i) id (s.immediate x) := by
  cases x with
  | finish name => exact finish_detach name i s
  | pass ms => rfl
  | order call c =>
    cases c with
    | cancelParent => exact absurd rfl (quiet call)
    | askParent => rfl
    | describe j => rfl
    | advance ms => rfl
    | run => rfl
    | newPool size child =>
      simp only [immediate, order, newPool, detach]
      split <;> rfl
    | submit j task => simp only [immediate, order, visit_detach]; rfl
    | next j => simp only [immediate, order, visit_detach]; rfl
    | shutdown j => simp only [immediate, order, visit_detach]; rfl
    | close j => simp only [immediate, order, visit_detach]; rfl
    | cancel j => simp only [immediate, order, visit_detach]; rfl
    | drop j => simp only [immediate, order, visit_detach]; rfl
    | batch size tasks admission =>
      rw [immediate_batch, immediate_batch, newBatch_detach hi]
    | abandon c =>
      by_cases hc : s.pendingCalls.contains c = true
      · have hc' : (s.detach i).pendingCalls.contains c = true := by rwa [pendingCalls_detach]
        rw [immediate_abandon call hc, immediate_abandon call hc']
        refine everywhere_detach _ fun _ b _ => ?_
        have habandon := Batch.abandon_detach b
        rw [apply_ite (Prod.map Batch.detach id), ← habandon]
        rfl
      · have hc' : ¬ (s.detach i).pendingCalls.contains c = true := by rwa [pendingCalls_detach]
        simp only [immediate, order, if_neg hc, if_neg hc']
        rfl
    | release name =>
      simp only [immediate, order, runs_detach, finish_detach]
      split <;> rfl

/-! ## Actions one after the other -/

/-- The cancellation of the parent has not reached the batch at an index before its end. -/
def Unstopped (i : Nat) (s : Scene α) : Prop := ∃ b, s.batches[i]? = some b ∧ b.Unstopped

/-- An action that does not cancel the parent does not stop it. -/
lemma Unstopped.immediate (hs : s.Unstopped i) {x : Action α}
    (quiet : ∀ n, x ≠ .order n .cancelParent) : (s.immediate x).1.Unstopped i := by
  obtain ⟨b, hb, hfree⟩ := hs
  by_cases hspared : ∀ call, x ≠ .order call (.abandon b.call)
  · refine ⟨_, (applies_immediate hb x hspared).1, ?_⟩
    cases hx : x.turn s with
    | elsewhere => exact hfree
    | wait time => exact hfree
    | finish name => exact hfree.finish name
    | follow =>
      obtain ⟨n, rfl⟩ := Action.exists_of_turn_eq_follow hx
      exact absurd rfl (quiet n)
  · -- the batch is given up, if its call is pending
    push Not at hspared
    obtain ⟨call, rfl⟩ := hspared
    simp only [Scene.immediate, order]
    split
    · obtain ⟨-, habandon, -⟩ := everywhere_batch (fun _ => Pool.withdraw b.call)
        (fun _ c => if c.pending && c.call == b.call then c.abandon else (c, [])) hb
      refine ⟨_, habandon, ?_⟩
      split
      · exact .inr ⟨_, rfl⟩
      · exact hfree
    · exact ⟨b, hb, hfree⟩

/-- Neither does what follows. -/
lemma Unstopped.settle (hs : s.Unstopped i) : s.settle.1.Unstopped i := by
  obtain ⟨b, hb, hfree⟩ := hs
  obtain ⟨brittle, hsettled, -⟩ := everywhere_batch Pool.settle Batch.settle hb
  exact ⟨_, hsettled, hfree.settle _⟩

/-- What follows does not depend on the parent of that batch. -/
lemma phase_detach {r : Scene α × List (Entry α)} (hr : r.1.Unstopped i) :
    phase (Prod.map (detach i) id r) = Prod.map (detach i) id (phase r) := by
  obtain ⟨b, hb, hfree⟩ := hr
  have hsettle : (r.1.detach i).settle = Prod.map (detach i) id r.1.settle := by
    refine everywhere_detach _ fun m c hc => ?_
    rw [hb] at hc
    cases hc
    exact Batch.settle_detach m hfree
  rw [phase, phase]
  simp only [Prod.map, hsettle]
  rfl

/-- **What actions lead to does not depend on it**, if none of them cancels the parent. -/
theorem enactAll_detach (hs : s.Unstopped i) {xs : List (Action α)}
    (quiet : Action.Quiet xs) :
    (s.detach i).enactAll xs = Prod.map (detach i) id (s.enactAll xs) := by
  induction xs generalizing s with
  | nil => rfl
  | cons x xs ih =>
    have hi : i < s.batches.length := by
      obtain ⟨b, hb, -⟩ := hs
      exact (List.getElem?_eq_some_iff.1 hb).1
    have hone : (s.detach i).enact x = Prod.map (detach i) id (s.enact x) := by
      rw [enact, immediate_detach hi quiet.head, phase_detach (hs.immediate quiet.head), enact]
    have hfirst : (s.enact x).1.Unstopped i := (hs.immediate quiet.head).settle
    simp only [enactAll, hone, Prod.map, ih hfirst quiet.tail]
    rfl

/-- **A batch that follows the parent goes on like one without a limit** until the parent is
cancelled. -/
theorem enactAll_untilCancelled (free : s.parentCancelled = false) (call : Nat) {size : Nat}
    {tasks : List (Task α)} (hsize : 0 < size) (hne : tasks ≠ []) {xs : List (Action α)}
    (quiet : Action.Quiet xs) :
    (s.enactAll (.order call (.batch size tasks .untilCancelled) :: xs)).2 =
      (s.enactAll (.order call (.batch size tasks .unlimited) :: xs)).2 := by
  have hnew : s.newBatch call size tasks .unlimited =
      Prod.map (detach s.batches.length) id (s.newBatch call size tasks .untilCancelled) := by
    simp only [newBatch_of_pos s call _ hsize hne, Prod.map, detach, modify_concat, free]
    rfl
  have hunstopped : (s.newBatch call size tasks .untilCancelled).1.Unstopped s.batches.length := by
    rw [newBatch_of_pos s call _ hsize hne]
    exact ⟨_, List.getElem?_concat_length, .inl free⟩
  have hfirst : s.enact (.order call (.batch size tasks .unlimited)) =
      Prod.map (detach s.batches.length) id
        (s.enact (.order call (.batch size tasks .untilCancelled))) := by
    rw [enact, immediate_batch, hnew, phase_detach hunstopped, enact, immediate_batch]
  have hsettled : (s.enact (.order call (.batch size tasks .untilCancelled))).1.Unstopped
      s.batches.length := by
    rw [enact, immediate_batch]
    exact hunstopped.settle
  simp only [enactAll, hfirst, Prod.map, enactAll_detach hsettled quiet]
  rfl

end Workforce.Scene
