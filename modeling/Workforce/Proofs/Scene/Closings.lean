import Workforce.Proofs.Closing
import Workforce.Proofs.Scene.Cancelled
/-!
# Who closes a pool

A pool is closed if, while its handle was held, it was told to close or its outputs were to be read
to the end. The pool of a batch is closed if the submitter has ended or the batch was given up.

## Main definitions

* `Workforce.Stage.ToldToClose` — a pool was told to close in a run.

## Main results

* `Workforce.Stage.Steps.closed_iff_told` — a pool is closed exactly if it was told so.
-/

namespace Workforce

open Occurrence Trail History

variable {α : Type}

/-- All that a turn can do to the close of a pool: nothing, or the pool is closed. -/
lemma Pool.Turn.close_cases (m : Moment) (p : Pool α) (x : Turn α) :
    (x.apply m p).1.closed = p.closed ∨ x = close ∨ ∃ call, x = shutdown call := by
  cases x with
  | close => exact .inr (.inl rfl)
  | shutdown call => exact .inr (.inr ⟨call, rfl⟩)
  | submit call task => exact .inl (by rw [apply, Pool.submit_frame])
  | finish name => exact .inl (Pool.finish_frame name p).2.2.1
  | _ => exact .inl rfl

/-- Only the commands that close a pool are turns in which it is closed. -/
lemma Command.eq_of_turn {call i : Nat} {s : Scene α} {p : Pool α} {c : Command α}
    (h : c.turn call s i p = .close ∨ ∃ n, c.turn call s i p = .shutdown n) :
    (c = .close i ∨ c = .shutdown i) ∧ p.held = true := by
  have aimed : ∀ {j : Nat} {x : Pool.Turn α}, (Pool.Turn.aimed i j p x = .close ∨
      ∃ n, Pool.Turn.aimed i j p x = .shutdown n) →
      (x = .close ∨ ∃ n, x = .shutdown n) ∧ j = i ∧ p.held = true := by
    intro j x h
    unfold Pool.Turn.aimed at h
    split at h
    · next hij => exact ⟨h, hij⟩
    · simp at h
  cases c with
  | close j =>
    obtain ⟨-, rfl, held⟩ := aimed h
    exact ⟨.inl rfl, held⟩
  | shutdown j =>
    obtain ⟨-, rfl, held⟩ := aimed h
    exact ⟨.inr rfl, held⟩
  | abandon c =>
    simp only [turn] at h
    split at h <;> simp at h
  | release name =>
    simp only [turn] at h
    split at h <;> simp at h
  | submit | next | cancel | drop =>
    have hx := (aimed h).1
    simp at hx
  | _ => simp [turn] at h

namespace Stage

open Scene

variable {g g' : Stage α} {h k : History α} {i : Nat} {p q : Pool α}

/-- A step that closes a pool is one of the commands that do so, given while its handle is held. -/
lemma Step.closing (step : Step g h g') (here : g.scene.pools[i]? = some p)
    (opened : p.closed = false) (there : g'.scene.pools[i]? = some q) (closed : q.closed = true) :
    ∃ c, (c = .close i ∨ c = .shutdown i) ∧ p.held = true ∧
      g' = ⟨g.calls + 1, (g.scene.order g.calls c).1⟩ ∧ h = (g.scene.order g.calls c).2 := by
  have still : ∀ {r : Pool α}, g'.scene.pools[i]? = some r → r.closed ≠ p.closed := by
    intro r hr heq
    cases there.symm.trans hr
    rw [opened, closed] at heq
    cases heq
  cases step with
  | order c =>
    have hpool := (order_pool here g.calls c).1
    rcases (c.turn g.calls g.scene i p).close_cases g.scene.moment p with heq | hturn
    · exact absurd heq (still hpool)
    · obtain ⟨hc, held⟩ := c.eq_of_turn hturn
      exact ⟨c, hc, held, rfl, rfl⟩
  | @pool j p' q' es k here' move =>
    by_cases hj : j = i
    · subst hj
      cases here'.symm.trans here
      have hset := List.getElem?_set_self (a := q') (List.getElem?_eq_some_iff.1 here').1
      exact absurd (Pool.flags_of_perform? move).1 (still hset)
    · exact absurd rfl (still ((List.getElem?_set_ne hj).trans here))
  | batch k here' move => exact absurd rfl (still here)
  | finish id =>
    have hpool := (everywhere_pool here (Pool.finish id) (Batch.finish id)).1
    exact absurd (Pool.finish_frame id p).2.2.1 (still hpool)
  | clock time later => exact absurd rfl (still here)

/-- In the run that leads to `g` with the history `h` the pool of that index was told to close, or
its outputs were to be read to the end, while its handle was held. -/
def ToldToClose (i : Nat) (h : History α) (g : Stage α) : Prop :=
  ∃ h₁ g₁ c h₂, Steps {} h₁ g₁ ∧ (∃ p, g₁.scene.pool? i = some p) ∧
    (c = .close i ∨ c = .shutdown i) ∧
      Steps ⟨g₁.calls + 1, (g₁.scene.order g₁.calls c).1⟩ h₂ g ∧
        h = h₁ ++ (g₁.scene.order g₁.calls c).2 ++ h₂

/-- A pool that was told to close is closed. -/
lemma ToldToClose.closed (told : ToldToClose i h g) (here : g.scene.pools[i]? = some p) :
    p.closed = true := by
  obtain ⟨h₁, g₁, c, h₂, before, ⟨p₁, hp₁⟩, hc, after, -⟩ := told
  have hclosed : Closed ⟨g₁.calls + 1, (g₁.scene.order g₁.calls c).1⟩ (.pool i) := by
    rcases hc with rfl | rfl
    · exact .close g₁ hp₁
    · exact .shutdown g₁ hp₁
  have sound := Steps.batches_sound (before.tail (.order g₁ c))
  obtain ⟨q, hq, hclosed⟩ := hclosed.closed sound
  obtain ⟨r, hr, hsteps⟩ := (after.changes sound).pool hq
  cases here.symm.trans hr
  exact hsteps.closed_mono hclosed

/-- **A pool is closed exactly if it was told so**, or if its outputs were to be read to the end,
while its handle was held.

**Proof sketch.** A pool is open when it is made. In the step in which it is not open any more, one
of the two commands is given. -/
theorem Steps.closed_iff_told (run : Steps {} h g) (here : g.scene.pools[i]? = some p) :
    p.closed = true ↔ ToldToClose i h g := by
  refine ⟨fun closed => ?_, fun told => told.closed here⟩
  generalize hstart : ({} : Stage α) = g₀ at run
  induction run generalizing p with
  | refl =>
    subst hstart
    cases here
  | @tail g₁ g₂ h₁ k run last ih =>
    subst hstart
    cases hp₁ : g₁.scene.pools[i]? with
    | none =>
      obtain ⟨n, hn, child, rfl, -⟩ := last.new_pool hp₁ here
      cases closed
    | some p₁ =>
      cases hclosed₁ : p₁.closed with
      | true =>
        obtain ⟨h₀, g₀, c, h₂, before, held, hc, after, rfl⟩ := ih hp₁ hclosed₁
        exact ⟨h₀, g₀, c, h₂ ++ k, before, held, hc, after.tail last, List.append_assoc _ _ _⟩
      | false =>
        obtain ⟨c, hc, held, rfl, rfl⟩ := last.closing hp₁ hclosed₁ here closed
        have hheld : g₁.scene.pool? i = some p₁ := by
          rw [pool?, hp₁, Option.filter_some, if_pos held]
        exact ⟨h₁, g₁, c, [], run, ⟨p₁, hheld⟩, hc, .refl _, (List.append_nil _).symm⟩

end Stage

end Workforce
