import Workforce.Proofs.Scene.Turn
/-!
# Why pools are cancelled

A pool is cancelled when it is told so, or when it follows the parent and the parent is cancelled.
Pools are told so by a command, and the pool of a batch when the batch is given up; nothing else
that happens in a scene cancels a pool.

## Main definitions

* `Workforce.Stage.Makes` — the commands that make a pool that follows the parent, or does not.
* `Workforce.Stage.MadeBy` — a command has made the pool at a place.

## Main results

* `Workforce.Pool.Turn.cancel_cases`, `Batch.flags_of_perform?`, `Batch.Turn.cancel_cases`,
  `Stage.Step.cancel_cases` — what turns, moves and steps do to the cancellation of a pool.
* `Workforce.Stage.Steps.cancelled_iff` — why a pool is cancelled.
* `Workforce.Stage.Steps.made` — who makes a pool, and whether it follows the parent.
* `Workforce.Stage.Step.eq_cancel`, `Step.parent_cases` — who tells a pool, and who the parent.
-/

namespace Workforce

open Occurrence Trail History

variable {α : Type}

/-! ## Who is told to cancel -/

/-- A kind of occurrence that there is only one of. -/
lemma History.collect_ne_nil_iff {kind : Occurrence α → Option Unit} {o : Occurrence α}
    (h : ∀ o', kind o' = some () ↔ o' = o) (os : Trail α) : collect kind os ≠ [] ↔ o ∈ os := by
  constructor
  · intro hne
    obtain ⟨⟨⟩, hmem⟩ := List.exists_mem_of_ne_nil _ hne
    obtain ⟨o', ho', hkind⟩ := mem_collect.1 hmem
    rwa [← (h o').1 hkind]
  · intro hmem
    exact List.ne_nil_of_mem (mem_collect.2 ⟨o, hmem, (h o).2 rfl⟩)

/-- Of the occurrences that are collected as cancellations there is only one. -/
lemma Occurrence.cancel?_eq_some_iff (o : Occurrence α) :
    o.cancel? = some () ↔ o = event .poolCancelled := by
  cases o with
  | event e => cases e <;> simp
  | _ => simp

/-- Of the occurrences that are collected as closings there is only one. -/
lemma Occurrence.close?_eq_some_iff (o : Occurrence α) :
    o.close? = some () ↔ o = event .poolClosed := by
  cases o with
  | event e => cases e <;> simp
  | _ => simp

/-- Closing a pool does not cancel it. -/
lemma Pool.collect_cancel_close (p : Pool α) : collect cancel? (p.close.2.map event) = [] := by
  rcases Batch.close_snd p with h | h <;> rw [h] <;> rfl

/-- The end of a task does not cancel a pool. -/
lemma Pool.collect_cancel_finish (name : TaskId) (p : Pool α) :
    collect cancel? ((p.finish name).2.map event) = [] := by
  unfold finish
  cases h : p.finish? name with
  | none => rfl
  | some x =>
    unfold finish? at h
    split at h
    · cases h
    · dsimp only at h
      split at h <;> cases h <;> rfl

namespace Pool.Turn

/-- All that a turn can do to the cancellation of a pool: nothing, or the pool is told, or the
cancellation of the parent arrives. -/
lemma cancel_cases (m : Moment) (p : Pool α) (x : Turn α) :
    (x.apply m p).1.child = p.child ∧
      (((x.apply m p).1.cancelled = p.cancelled ∧ collect cancel? (x.apply m p).2 = [] ∧
          x.follows = false) ∨
        (x = cancel ∧ (x.apply m p).1.cancelled = true ∧
          collect cancel? (x.apply m p).2 = [()] ∧ x.follows = false) ∨
        ((x.apply m p).1.cancelled = (p.cancelled || p.child) ∧
          collect cancel? (x.apply m p).2 = [] ∧ x.follows = true)) := by
  cases x with
  | elsewhere => exact ⟨rfl, .inl ⟨rfl, rfl, rfl⟩⟩
  | submit call task =>
    simp only [apply, Pool.submit]
    split <;> exact ⟨rfl, .inl ⟨rfl, rfl, rfl⟩⟩
  | next call => exact ⟨rfl, .inl ⟨rfl, rfl, rfl⟩⟩
  | shutdown call =>
    simp only [apply, Pool.receive, close_frame, collect_append, collect_cancel_close]
    exact ⟨trivial, .inl ⟨trivial, rfl, rfl⟩⟩
  | close =>
    simp only [apply, close_frame, collect_cancel_close]
    exact ⟨trivial, .inl ⟨trivial, trivial, rfl⟩⟩
  | cancel => exact ⟨rfl, .inr (.inl ⟨rfl, rfl, rfl, rfl⟩)⟩
  | follow => exact ⟨rfl, .inr (.inr ⟨rfl, rfl, rfl⟩)⟩
  | drop => exact ⟨rfl, .inl ⟨rfl, rfl, rfl⟩⟩
  | abandon call =>
    refine ⟨rfl, .inl ⟨rfl, ?_, rfl⟩⟩
    exact collect_withdraw_of_none call p (fun _ => rfl) (fun _ => rfl) fun _ => rfl
  | finish name =>
    obtain ⟨-, -, -, hcancelled, hchild⟩ := finish_frame name p
    exact ⟨hchild, .inl ⟨hcancelled, collect_cancel_finish name p, rfl⟩⟩

end Pool.Turn

/-- Only the command that tells a pool to cancel is a turn in which it is told so. -/
lemma Command.eq_cancel_of_turn {call i : Nat} {s : Scene α} {p : Pool α} (c : Command α)
    (h : c.turn call s i p = .cancel) : c = .cancel i ∧ p.held = true := by
  have aimed : ∀ {j : Nat} {x : Pool.Turn α}, Pool.Turn.aimed i j p x = .cancel →
      x = .cancel ∧ j = i ∧ p.held = true := by
    intro j x h
    unfold Pool.Turn.aimed at h
    split at h
    · next hij => exact ⟨h, hij⟩
    · cases h
  cases c with
  | cancel j =>
    obtain ⟨-, rfl, held⟩ := aimed h
    exact ⟨rfl, held⟩
  | abandon c =>
    simp only [turn] at h
    split at h <;> cases h
  | release name =>
    simp only [turn] at h
    split at h <;> cases h
  | submit | next | shutdown | close | drop => cases (aimed h).1
  | _ => cases h

namespace Batch

variable {b c : Batch α} {es : List (Event α)}

/-- The end of the submitter does not cancel the pool. -/
lemma flags_endSubmitter (m : Moment) (panicked : Bool) (b : Batch α) :
    (b.endSubmitter m panicked).1.pool.cancelled = b.pool.cancelled ∧
      (b.endSubmitter m panicked).1.pool.child = b.pool.child ∧
        collect cancel? ((b.endSubmitter m panicked).2.map event) = [] := by
  refine ⟨by rw [endSubmitter, Pool.close_frame], by rw [endSubmitter, Pool.close_frame], ?_⟩
  rw [endSubmitter, List.map_append, collect_append, Pool.collect_cancel_close, List.map_map,
    collect_map_none cancel? (event ∘ Event.discarded) fun _ => rfl]
  rfl

/-- Nor does it when a task is in hand. -/
lemma flags_halt (m : Moment) (t : Task α) {reason : Event α} (b : Batch α)
    (hreason : cancel? (event reason) = none) :
    (b.halt m t reason).1.pool.cancelled = b.pool.cancelled ∧
      (b.halt m t reason).1.pool.child = b.pool.child ∧
        collect cancel? ((b.halt m t reason).2.map event) = [] := by
  obtain ⟨hcancelled, hchild, hnone⟩ := flags_endSubmitter m (m.breaks t) b
  refine ⟨hcancelled, hchild, ?_⟩
  unfold halt
  dsimp only
  split
  · rw [List.map_cons, collect_cons, hnone]
    rfl
  · rw [List.map_cons, List.map_cons, collect_cons, collect_cons, hnone, hreason]
    rfl

/-- No move of a batch cancels its pool. -/
lemma flags_of_perform? {m : Moment} {k : Move} (h : b.perform? m k = some (c, es)) :
    c.pool.cancelled = b.pool.cancelled ∧ c.pool.child = b.pool.child ∧
      collect cancel? (es.map event) = [] := by
  cases k with
  | pool k =>
    obtain ⟨q, hq, rfl⟩ := performPool?_eq_some_iff.1 h
    exact (Pool.flags_of_perform? hq).2
  | feed =>
    cases feed?_eq_some_iff.1 h with
    | @refused panicked => exact flags_endSubmitter m panicked b
    | done | due => exact flags_endSubmitter m false b
    | @back s line reason active hline hwhy =>
      obtain ⟨-, rfl⟩ | ⟨-, -, rfl⟩ := hwhy
      · exact flags_halt m s.task _ rfl
      · exact flags_halt m s.task _ rfl
    | @stopped t rest => exact flags_halt m t { b with remaining := rest } rfl
    | submit =>
      rw [pool_observeAll]
      unfold Pool.submit
      split <;> exact ⟨rfl, rfl, rfl⟩
  | conclude =>
    obtain ⟨panicked, -, -, -, heq⟩ := conclude?_eq_some_iff.1 h
    cases heq
    cases panicked <;> exact ⟨rfl, rfl, rfl⟩

/-- All that a turn can do to the cancellation of a batch: nothing, or the cancellation of the
parent arrives. -/
lemma Turn.cancel_cases (b : Batch α) (x : Turn) :
    (x.apply b).1.pool.child = b.pool.child ∧ collect cancel? ((x.apply b).2.map event) = [] ∧
      (((x.apply b).1.pool.cancelled = b.pool.cancelled ∧ x.follows = false) ∨
        ((x.apply b).1.pool.cancelled = (b.pool.cancelled || b.pool.child) ∧
          x.follows = true)) := by
  cases x with
  | elsewhere => exact ⟨rfl, rfl, .inl ⟨rfl, rfl⟩⟩
  | wait time => exact ⟨rfl, rfl, .inl ⟨rfl, rfl⟩⟩
  | follow => exact ⟨rfl, rfl, .inr ⟨rfl, rfl⟩⟩
  | finish name =>
    obtain ⟨-, -, -, hcancelled, hchild⟩ := Pool.finish_frame name b.pool
    exact ⟨hchild, Pool.collect_cancel_finish name b.pool, .inl ⟨hcancelled, rfl⟩⟩

end Batch

namespace Stage

open Scene

variable {g g' : Stage α} {h : History α} {place : Place} {p q : Pool α} {i : Nat}

/-- All that a step can do to the cancellation of a pool: nothing, or the pool is told, or the
cancellation of the parent arrives. -/
lemma Step.cancel_cases (step : Step g h g') (here : g.scene.poolAt place = some p) :
    ∃ q, g'.scene.poolAt place = some q ∧ q.child = p.child ∧
      ((q.cancelled = p.cancelled ∧ collect cancel? (trailAt place h) = [] ∧
          g'.scene.parentCancelled = g.scene.parentCancelled) ∨
        (q.cancelled = true ∧ collect cancel? (trailAt place h) ≠ [] ∧
          g'.scene.parentCancelled = g.scene.parentCancelled) ∨
        (q.cancelled = (p.cancelled || p.child) ∧ collect cancel? (trailAt place h) = [] ∧
          g'.scene.parentCancelled = true)) := by
  cases place with
  | pool i =>
    rcases step.at_pool here with ⟨k, q, es, move, hq, htrail, hparent⟩ | ⟨x, hq, htrail, hparent⟩
    · obtain ⟨-, hcancelled, hchild, hnone⟩ := Pool.flags_of_perform? move
      exact ⟨q, hq, hchild, .inl ⟨hcancelled, by rw [htrail, hnone], hparent⟩⟩
    · obtain ⟨hchild, hcases⟩ := x.cancel_cases g.scene.moment p
      rw [htrail, hparent]
      refine ⟨_, hq, hchild, ?_⟩
      rcases hcases with ⟨hc, hn, hf⟩ | ⟨-, hc, hn, hf⟩ | ⟨hc, hn, hf⟩
      · exact .inl ⟨hc, hn, by rw [hf, Bool.or_false]⟩
      · exact .inr (.inl ⟨hc, by rw [hn]; simp, by rw [hf, Bool.or_false]⟩)
      · exact .inr (.inr ⟨hc, hn, by rw [hf, Bool.or_true]⟩)
  | batch i =>
    obtain ⟨b, hb, rfl⟩ := Option.map_eq_some_iff.1 here
    have there : ∀ {c : Batch α}, g'.scene.batches[i]? = some c →
        g'.scene.poolAt (.batch i) = some c.pool := fun hc => congrArg (Option.map _) hc
    rcases step.at_batch hb with ⟨k, c, es, move, hc, htrail, hparent, -⟩ |
      ⟨x, hc, htrail, hparent⟩ | ⟨-, hc, htrail, hparent⟩
    · obtain ⟨hcancelled, hchild, hnone⟩ := Batch.flags_of_perform? move
      exact ⟨_, there hc, hchild, .inl ⟨hcancelled, by rw [htrail, hnone], hparent⟩⟩
    · obtain ⟨hchild, hnone, hcases⟩ := x.cancel_cases b
      rw [htrail, hparent]
      refine ⟨_, there hc, hchild, ?_⟩
      rcases hcases with ⟨hcancelled, hf⟩ | ⟨hcancelled, hf⟩
      · exact .inl ⟨hcancelled, hnone, by rw [hf, Bool.or_false]⟩
      · exact .inr (.inr ⟨hcancelled, hnone, by rw [hf, Bool.or_true]⟩)
    · refine ⟨_, there hc, ?_, .inr (.inl ⟨rfl, ?_, hparent⟩)⟩
      · show b.pool.close.1.child = b.pool.child
        rw [Pool.close_frame]
      · rw [htrail, collect_cancel_congr Batch.essence_abandon]
        simp

/-- Where no pool has been nobody has been told to cancel. -/
lemma Steps.cancel_of_none (run : Steps {} h g) (hnone : g.scene.poolAt place = none) :
    collect cancel? (trailAt place h) = [] := by
  cases place with
  | pool i =>
    rcases run.changes_of_empty.pool_of_none (i := i) rfl with ⟨-, htrail⟩ |
      ⟨n, hn, child, cancelled, q, os, hq, -⟩
    · rw [htrail]
      rfl
    · rw [poolAt, hq] at hnone
      cases hnone
  | batch i =>
    rcases run.changes_of_empty.batch_of_none (i := i) rfl with ⟨-, htrail⟩ |
      ⟨b, call, tasks, before, es, c, -, hc, -⟩
    · have hnone : essence (trailAt (.batch i) h) = essence [] := htrail
      exact collect_cancel_congr hnone
    · rw [poolAt, hc] at hnone
      cases hnone

/-- A new pool is cancelled if it follows a parent that is cancelled, and nobody tells it. -/
lemma Step.new_cancelled (step : Step g h g') (hnone : g.scene.poolAt place = none)
    (there : g'.scene.poolAt place = some p) :
    p.cancelled = (p.child && g.scene.parentCancelled) ∧
      collect cancel? (trailAt place h) = [] ∧
        g'.scene.parentCancelled = g.scene.parentCancelled := by
  cases place with
  | pool i =>
    obtain ⟨n, hn, child, rfl, htrail, hparent, -⟩ := step.new_pool hnone there
    exact ⟨rfl, by rw [htrail, collect_opening cancel? _ rfl rfl], hparent⟩
  | batch i =>
    obtain ⟨b, hb, rfl⟩ := Option.map_eq_some_iff.1 there
    obtain ⟨call, n, hn, tasks, admission, rfl, htrail, hparent, -⟩ :=
      step.new_batch (Option.map_eq_none_iff.1 hnone) hb
    refine ⟨rfl, ?_, hparent⟩
    rw [htrail, collect_cons, collect_opening cancel? _ rfl rfl]
    rfl

/-- **A pool is cancelled exactly if it was told so, or if it follows the parent and the parent has
been cancelled**, before the pool was made or afterwards.

**Proof sketch.** Induction on the run: each step leaves the pool and the parent alone, tells the
pool, or cancels the parent and with it the pools that follow it. A pool that is made follows the
parent as it is then. -/
theorem Steps.cancelled_iff (run : Steps {} h g) (here : g.scene.poolAt place = some p) :
    p.cancelled = true ↔ collect cancel? (trailAt place h) ≠ [] ∨
      p.child = true ∧ g.scene.parentCancelled = true := by
  generalize hstart : ({} : Stage α) = g₀ at run
  induction run generalizing p with
  | refl =>
    subst hstart
    cases place <;> cases here
  | @tail g g' h k run last ih =>
    rw [trailAt_append, collect_append]
    cases before : g.scene.poolAt place with
    | none =>
      subst hstart
      obtain ⟨hcancelled, hnone, hparent⟩ := last.new_cancelled before here
      rw [Steps.cancel_of_none run before, hnone, hparent, hcancelled]
      simp
    | some p₀ =>
      have hp₀ := ih before
      obtain ⟨q, hq, hchild, hcases⟩ := last.cancel_cases before
      rw [here] at hq
      cases hq
      rw [hchild]
      rcases hcases with ⟨hc, hn, hparent⟩ | ⟨hc, hn, hparent⟩ | ⟨hc, hn, hparent⟩
      · rw [hc, hn, hparent, List.append_nil]
        exact hp₀
      · rw [hc]
        simp [hn]
      · rw [hc, hn, hparent, List.append_nil, Bool.or_eq_true, hp₀]
        tauto

/-! ## Who makes a pool -/

/-- The commands that make a pool, each at its places. The pool follows the parent if it is made
with the parent's token; that of a batch does if the admission ends when the parent is cancelled. -/
inductive Makes : Place → Bool → Command α → Prop
  | pool (i size : Nat) (child : Bool) : Makes (.pool i) child (.newPool size child)
  | batch (i size : Nat) (tasks : List (Task α)) (admission : Admission) :
      Makes (.batch i) admission.followsParent (.batch size tasks admission)

/-- In the run that leads to `g` with the history `h` the command was given and made the pool at the
place. -/
def MadeBy (place : Place) (c : Command α) (h : History α) (g : Stage α) : Prop :=
  ∃ h₁ g₁ h₂, Steps {} h₁ g₁ ∧ g₁.scene.poolAt place = none ∧
    (g₁.scene.order g₁.calls c).1.poolAt place ≠ none ∧
      Steps ⟨g₁.calls + 1, (g₁.scene.order g₁.calls c).1⟩ h₂ g ∧
        h = h₁ ++ (g₁.scene.order g₁.calls c).2 ++ h₂

/-- A step after which there is a new pool is the command that makes it. -/
lemma Step.making (step : Step g h g') (hnone : g.scene.poolAt place = none)
    (there : g'.scene.poolAt place = some p) :
    ∃ c, Makes place p.child c ∧ g' = ⟨g.calls + 1, (g.scene.order g.calls c).1⟩ ∧
      h = (g.scene.order g.calls c).2 := by
  cases place with
  | pool i =>
    obtain ⟨n, hn, child, rfl, -, -, rfl, rfl⟩ := step.new_pool hnone there
    exact ⟨_, .pool i n child, rfl, rfl⟩
  | batch i =>
    obtain ⟨b, hb, rfl⟩ := Option.map_eq_some_iff.1 there
    obtain ⟨call, n, hn, tasks, admission, rfl, -, -, -, size, rfl, rfl⟩ :=
      step.new_batch (Option.map_eq_none_iff.1 hnone) hb
    exact ⟨_, .batch i size tasks admission, rfl, rfl⟩

/-- **Every pool was made by a command**, which tells whether the pool follows the parent.

**Proof sketch.** Induction on the run: where there was no pool before the last step, that step is
the command, and otherwise it leaves the pool following the parent or not. -/
theorem Steps.made (run : Steps {} h g) (here : g.scene.poolAt place = some p) :
    ∃ c, Makes place p.child c ∧ MadeBy place c h g := by
  generalize hstart : ({} : Stage α) = g₀ at run
  induction run generalizing p with
  | refl =>
    subst hstart
    cases place <;> cases here
  | @tail g g' h k run last ih =>
    subst hstart
    cases before : g.scene.poolAt place with
    | none =>
      obtain ⟨c, hc, rfl, rfl⟩ := last.making before here
      exact ⟨c, hc, h, g, [], run, before, by rw [here]; simp, .refl _, (List.append_nil _).symm⟩
    | some p₀ =>
      obtain ⟨q, hq, hchild, -⟩ := last.cancel_cases before
      rw [here] at hq
      cases hq
      obtain ⟨c, hc, h₁, g₁, h₂, first, hnone, hnew, after, rfl⟩ := ih before
      exact ⟨c, hchild ▸ hc, h₁, g₁, h₂ ++ k, first, hnone, hnew, after.tail last,
        List.append_assoc _ _ _⟩

/-! ## Who cancels a pool -/

/-- A step that says that a pool is told to cancel is the command that tells it. -/
lemma Step.eq_cancel (step : Step g h g') (here : g.scene.pools[i]? = some p)
    (told : collect cancel? (trailAt (.pool i) h) ≠ []) :
    p.held = true ∧ g' = ⟨g.calls + 1, (g.scene.order g.calls (.cancel i)).1⟩ := by
  cases step with
  | order c =>
    obtain ⟨-, htrail⟩ := order_pool here g.calls c
    rw [htrail] at told
    rcases ((c.turn g.calls g.scene i p).cancel_cases g.scene.moment p).2 with ⟨-, hnone, -⟩ |
      ⟨hturn, -⟩ | ⟨-, hnone, -⟩
    · exact absurd hnone told
    · obtain ⟨rfl, held⟩ := c.eq_cancel_of_turn hturn
      exact ⟨held, rfl⟩
    · exact absurd hnone told
  | @pool j p' q es k here' move =>
    rw [ofEntries_map, trailAt_ofTrail] at told
    split at told
    · exact absurd (Pool.flags_of_perform? move).2.2.2 told
    · exact absurd rfl told
  | batch k here' move =>
    rw [ofEntries_map, trailAt_pool_batch] at told
    exact absurd rfl told
  | finish id =>
    obtain ⟨-, htrail⟩ := everywhere_pool here (Pool.finish id) (Batch.finish id)
    rw [Scene.finish, htrail, Pool.collect_cancel_finish] at told
    exact absurd rfl told
  | clock time later => exact absurd rfl told

/-- A step leaves the parent alone, or is the command that cancels it. -/
lemma Step.parent_cases (step : Step g h g') :
    g'.scene.parentCancelled = g.scene.parentCancelled ∨
      g' = ⟨g.calls + 1, (g.scene.order g.calls .cancelParent).1⟩ := by
  cases step with
  | order c =>
    cases hc : c.cancelsParent with
    | false => exact .inl (by rw [parentCancelled_order, hc, Bool.or_false])
    | true =>
      cases c with
      | cancelParent => exact .inr rfl
      | _ => cases hc
  | _ => exact .inl rfl

end Stage

end Workforce
