import Workforce.Proofs.Scene.Tick
/-!
# Letting things happen until

What happens by itself until a scene is as asked for, and the scenes that are passed through before
that. If something else stops it, it stops in one of these scenes.

## Main definitions

* `Workforce.Scene.passes` — the scenes that are passed through before a scene is as asked for.

## Main results

* `Workforce.Scene.ticks_runUntil` — it comes by itself, and goes on until the scene is as asked for
  or nothing is left to happen.
* `Workforce.Scene.runUntil_of_undisturbed`, `Scene.runUntil_of_disturbed` — what stops it in none
  of the scenes that it passes through does not matter, and what stops it stops it in one of them.
-/

namespace Workforce.Scene

variable {α : Type} {s t : Scene α} {patience : Nat} {finished stop : Scene α → Bool}

/-- What happens next comes by itself. -/
lemma ticks_tick? {r : Scene α × Phase α} (h : s.tick? patience = some r) :
    Ticks (nearDeadlines patience) s [r.2] r.1 := by
  unfold tick? at h
  split at h
  · next run hrun =>
    cases h
    exact Chain.single ⟨.finish run.task.id, ⟨run, hrun, rfl⟩, rfl, rfl⟩
  · next hnone =>
    obtain ⟨time, htime, rfl⟩ := Option.map_eq_some_iff.1 h
    have hlt := (mem_of_nearStop htime).1
    have henact : s.enact (.pass (time - s.now)) = phase ({ s with now := time }, []) := by
      rw [enact, immediate, Nat.add_sub_of_le (Nat.le_of_lt hlt)]
    refine Chain.single ⟨.pass (time - s.now), ⟨hnone, fun stop hstop => ?_⟩, ?_, ?_⟩
    · rw [Nat.add_sub_of_le (Nat.le_of_lt hlt)]
      exact le_of_min? htime stop hstop
    · rw [henact]
    · rw [henact]

/-- **What happens until a scene is as asked for comes by itself**, and then the scene is as asked
for or nothing is left to happen. -/
theorem ticks_runUntil (patience : Nat) (stop : Scene α → Bool) (s : Scene α) :
    Ticks (nearDeadlines patience) s (s.runUntil patience stop).2 (s.runUntil patience stop).1 ∧
      (stop (s.runUntil patience stop).1 = true ∨
        (s.runUntil patience stop).1.tick? patience = none) := by
  fun_induction runUntil patience stop s with
  | case1 s h => exact ⟨.refl _, .inl h⟩
  | case2 s h hnone => exact ⟨.refl _, .inr hnone⟩
  | case3 s h r hr rest ih => exact ⟨(ticks_tick? hr).trans ih.1, ih.2⟩

/-- Nothing happens in a scene that is as asked for. -/
lemma runUntil_of_stop (h : stop s = true) : s.runUntil patience stop = (s, []) := by
  rw [runUntil, if_pos h]

/-- Nor if nothing is left to happen. -/
lemma runUntil_of_still (hnone : s.tick? patience = none) : s.runUntil patience stop = (s, []) := by
  rw [runUntil]
  split
  · rfl
  · split
    · rfl
    · next r hr => simp [hnone] at hr

/-- Otherwise the next thing happens. -/
lemma runUntil_of_tick (h : stop s = false) {r : Scene α × Phase α}
    (hr : s.tick? patience = some r) :
    s.runUntil patience stop =
      ((r.1.runUntil patience stop).1, r.2 :: (r.1.runUntil patience stop).2) := by
  rw [runUntil, if_neg (by simp [h])]
  split
  · next hnone => simp [hr] at hnone
  · next r' hr' =>
    rw [hr] at hr'
    cases hr'
    rfl

/-! ## The scenes in between -/

/-- The scenes that are passed through before a scene is as asked for. -/
def passes (patience : Nat) (finished : Scene α → Bool) (s : Scene α) : List (Scene α) :=
  if finished s then []
  else
    match _h : s.tick? patience with
    | none => [s]
    | some r => s :: r.1.passes patience finished
termination_by s.remainder patience
decreasing_by exact (remainder_of_tick? ‹_›).1

/-- In none of them the parent is cancelled, if it was not before. -/
lemma parentCancelled_of_mem_passes (h : t ∈ s.passes patience finished) :
    t.parentCancelled = s.parentCancelled := by
  fun_induction passes patience finished s with
  | case1 s hfinished => cases h
  | case2 s hfinished hnone => rw [List.mem_singleton.1 h]
  | case3 s hfinished r hr ih =>
    rcases List.mem_cons.1 h with rfl | h
    · rfl
    · exact (ih h).trans (remainder_of_tick? hr).2

/-- They are not as asked for. -/
lemma not_finished_of_mem_passes (h : t ∈ s.passes patience finished) : finished t = false := by
  fun_induction passes patience finished s with
  | case1 s hfinished => cases h
  | case2 s hfinished hnone => simpa [List.mem_singleton.1 h] using hfinished
  | case3 s hfinished r hr ih =>
    rcases List.mem_cons.1 h with rfl | h
    · simpa using hfinished
    · exact ih h

/-- **What stops it in none of the scenes that it passes through does not matter.** -/
theorem runUntil_of_undisturbed (h : ∀ t ∈ s.passes patience finished, stop t = false) :
    s.runUntil patience (fun t => finished t || stop t) = s.runUntil patience finished ∧
      (finished (s.runUntil patience finished).1 = false →
        stop (s.runUntil patience finished).1 = false) := by
  fun_induction passes patience finished s with
  | case1 s hfinished =>
    rw [runUntil_of_stop hfinished, runUntil_of_stop (by simp [hfinished])]
    exact ⟨rfl, fun hnot => absurd hfinished (by simp [hnot])⟩
  | case2 s hfinished hnone =>
    rw [runUntil_of_still hnone, runUntil_of_still hnone]
    exact ⟨rfl, fun _ => h s (List.mem_singleton_self s)⟩
  | case3 s hfinished r hr ih =>
    have hfree := h s List.mem_cons_self
    obtain ⟨hrest, hlast⟩ := ih fun t ht => h t (List.mem_cons_of_mem _ ht)
    rw [runUntil_of_tick (by simp [hfinished, hfree]) hr,
      runUntil_of_tick (by simpa using hfinished) hr, hrest]
    exact ⟨rfl, hlast⟩

/-- **What stops it stops it in a scene that it passes through.** -/
theorem runUntil_of_disturbed (h : ∃ t ∈ s.passes patience finished, stop t = true) :
    (s.runUntil patience fun t => finished t || stop t).1 ∈ s.passes patience finished ∧
      stop (s.runUntil patience fun t => finished t || stop t).1 = true := by
  fun_induction passes patience finished s with
  | case1 s hfinished => simp at h
  | case2 s hfinished hnone =>
    obtain ⟨t, ht, hstop⟩ := h
    rw [List.mem_singleton.1 ht] at hstop
    rw [runUntil_of_still hnone]
    exact ⟨List.mem_singleton_self s, hstop⟩
  | case3 s hfinished r hr ih =>
    by_cases hstop : stop s = true
    · rw [runUntil_of_stop (by simp [hstop])]
      exact ⟨List.mem_cons_self, hstop⟩
    · have hrest : ∃ t ∈ r.1.passes patience finished, stop t = true := by
        obtain ⟨t, ht, htrue⟩ := h
        rcases List.mem_cons.1 ht with rfl | ht
        · exact absurd htrue hstop
        · exact ⟨t, ht, htrue⟩
      obtain ⟨hmem, htrue⟩ := ih hrest
      rw [runUntil_of_tick (by simp [hstop, hfinished]) hr]
      exact ⟨List.mem_cons_of_mem _ hmem, htrue⟩

end Workforce.Scene
