import Mathlib.Data.List.Nodup
import Mathlib.Data.List.Pairwise
import Workforce.Proofs.Scene.Stage
import Workforce.Proofs.Text.Quoted
/-!
# The numbers of calls

Calls are known by the numbers of the commands that made them, so that no two calls of a run have
the same number. If tasks carry the names of the calls that handed them over, no two tasks have the
same name either.

## Main results

* `Workforce.TaskId.text_injective` — the written name of a task tells its name.
* `Workforce.Stage.Steps.calls` — the numbers of the calls of a run increase.
* `Workforce.Stage.Steps.call_once` — no call is made twice.
* `Workforce.Stage.Steps.joined_nodup` — no receiver joins the line of a pool twice.
* `Workforce.Stage.Steps.distinct` — the tasks of a run have different names.
-/

namespace Workforce

open Occurrence Trail History

variable {α : Type}

/-! ## Written names -/

namespace TaskId

/-- No point is among the digits of a number. -/
lemma point_notMem_toDigits (n : Nat) : '.' ∉ Nat.toDigits 10 n := fun h => by
  have hdigit := Nat.isDigit_of_mem_toDigits (by decide) (by decide) h
  exact absurd hdigit (by decide)

/-- **The written name of a task tells its name.** -/
theorem text_injective : Function.Injective text := by
  rintro ⟨c, a⟩ ⟨d, b⟩ h
  have hchars := congrArg String.toList h
  have hpoint : ".".toList = ['.'] := rfl
  cases a <;> cases b <;>
    simp only [text, String.toList_append, Text.toList_toString, hpoint, List.append_assoc,
      List.singleton_append] at hchars
  · rw [Text.toDigits_injective hchars]
  · next k =>
    exact absurd (hchars ▸ List.mem_append_right _ List.mem_cons_self) (point_notMem_toDigits c)
  · next k =>
    exact absurd (hchars ▸ List.mem_append_right _ List.mem_cons_self) (point_notMem_toDigits d)
  · next k l =>
    obtain ⟨hc, -, hk⟩ := (List.append_cons_inj_of_notMem (point_notMem_toDigits c)
      (point_notMem_toDigits k)).1 hchars
    rw [Text.toDigits_injective hc, Text.toDigits_injective hk]

end TaskId

/-! ## The call that a command makes -/

namespace Scene

variable {s : Scene α}

/-- Events make no call. -/
lemma calls_ofEntries (es : List (Entry α)) : collect call? (trail (ofEntries es)) = [] := by
  have htrail : trail (ofEntries es) = (es.map Prod.snd).map event := by
    simp [trail, ofEntries, Function.comp_def]
  rw [htrail, collect_map_event call? fun _ => rfl]

/-- What occurs in an action on a pool is asked for before or after it, or is an event. -/
lemma mem_trail_visit {i : Nat} {before after : Trail α}
    {f : Moment → Pool α → Pool α × List (Event α)} {o : Occurrence α}
    (h : o ∈ trail (s.visit i before after f).2) :
    o ∈ before ∨ o ∈ after ∨ ∃ e, o = event e := by
  unfold visit at h
  split at h
  · cases h
  · rw [trail_append, trail_append, trail_ofTrail, trail_ofTrail, List.mem_append,
      List.mem_append] at h
    rcases h with (h | h) | h
    · exact .inl h
    · simp only [trail, ofEntries, List.map_map, List.mem_map] at h
      obtain ⟨x, -, rfl⟩ := h
      exact .inr (.inr ⟨x.2, rfl⟩)
    · exact .inr (.inl h)

/-- The calls that are made in an action on a pool are asked for before or after it. -/
lemma calls_visit (i : Nat) (before after : Trail α)
    (f : Moment → Pool α → Pool α × List (Event α)) (s : Scene α) :
    collect call? (trail (s.visit i before after f).2) = [] ∨
      collect call? (trail (s.visit i before after f).2) =
        collect call? before ++ collect call? after := by
  unfold visit
  split
  · exact .inl rfl
  · right
    rw [trail_append, trail_append, trail_ofTrail, trail_ofTrail, collect_append, collect_append,
      calls_ofEntries, List.append_nil]

/-- What occurs when a call is given up is no call. -/
lemma call?_of_mem_abandon {call c : Nat} {o : Occurrence α}
    (h : o ∈ trail (s.order call (.abandon c)).2) : call? o = none ∧ o.Signed := by
  unfold order at h
  dsimp only at h
  split at h
  · rw [trail_append, List.mem_append] at h
    rcases h with h | h
    · simp only [trail, ofTrail, List.map_flatMap, List.map_map, Function.comp_def,
        List.mem_flatMap, List.mem_map, List.mem_append] at h
      obtain ⟨x, -, o, ((⟨s, -, rfl⟩ | ⟨r, -, rfl⟩) | ⟨e, -, rfl⟩), rfl⟩ := h <;>
        exact ⟨rfl, trivial⟩
    · simp only [trail, ofTrail, List.map_flatMap, List.map_map, Function.comp_def,
        List.mem_flatMap, List.mem_map] at h
      obtain ⟨x, -, e, -, rfl⟩ := h
      exact ⟨rfl, trivial⟩
  · cases h

/-- A command makes at most one call, and that has the number of the command. -/
lemma calls_order (call : Nat) (s : Scene α) (c : Command α) :
    collect call? (trail (s.order call c).2) = [] ∨
      collect call? (trail (s.order call c).2) = [call] := by
  cases c with
  | newPool size child => exact .inl (calls_ofEntries _)
  | submit i task => exact calls_visit i _ _ _ s
  | next i => exact calls_visit i _ _ _ s
  | shutdown i => exact calls_visit i _ _ _ s
  | batch size tasks admission =>
    right
    show collect call? (batched call tasks :: trail (ofEntries _)) = [call]
    rw [collect_cons, calls_ofEntries]
    rfl
  | close i => exact .inl ((calls_visit i _ _ _ s).elim id id)
  | cancel i => exact .inl ((calls_visit i _ _ _ s).elim id id)
  | cancelParent => exact .inl (calls_ofEntries _)
  | askParent => exact .inl rfl
  | describe i => exact .inl rfl
  | drop i => exact .inl ((calls_visit i _ _ _ s).elim id id)
  | abandon c =>
    left
    rw [collect, List.filterMap_eq_nil_iff]
    exact fun o ho => (call?_of_mem_abandon ho).1
  | release name =>
    left
    unfold order
    dsimp only
    split
    · rfl
    · exact calls_ofEntries _
  | advance ms => exact .inl rfl
  | run => exact .inl rfl

/-- Events are signed. -/
lemma signed_of_mem_ofEntries {es : List (Entry α)} {o : Occurrence α}
    (h : o ∈ trail (ofEntries es)) : o.Signed := by
  simp only [trail, ofEntries, List.map_map, List.mem_map] at h
  obtain ⟨x, -, rfl⟩ := h
  trivial

/-- Who asks for something in a command has a number. -/
lemma signed_order (call : Nat) (s : Scene α) (c : Command α) :
    ∀ o ∈ trail (s.order call c).2, o.Signed := by
  intro o ho
  have hvisit : ∀ {i : Nat} {before after : Trail α}
      {f : Moment → Pool α → Pool α × List (Event α)}, (∀ o ∈ before, o.Signed) →
      (∀ o ∈ after, o.Signed) → o ∈ trail (s.visit i before after f).2 → o.Signed := by
    intro i before after f hbefore hafter hmem
    rcases mem_trail_visit hmem with h | h | ⟨e, rfl⟩
    · exact hbefore o h
    · exact hafter o h
    · trivial
  cases c with
  | newPool size child => exact signed_of_mem_ofEntries ho
  | submit i task => exact hvisit (by simp [Signed]) (by simp) ho
  | next i => exact hvisit (by simp) (by simp [Signed]) ho
  | shutdown i => exact hvisit (by simp) (by simp [Signed]) ho
  | batch size tasks admission =>
    rcases List.mem_cons.1 ho with rfl | ho
    · trivial
    · exact signed_of_mem_ofEntries ho
  | close i => exact hvisit (by simp) (by simp) ho
  | cancel i => exact hvisit (by simp) (by simp) ho
  | cancelParent => exact signed_of_mem_ofEntries ho
  | askParent => cases ho
  | describe i => cases ho
  | drop i => exact hvisit (by simp) (by simp) ho
  | abandon c => exact (call?_of_mem_abandon ho).2
  | release name =>
    unfold order at ho
    dsimp only at ho
    split at ho
    · cases ho
    · exact signed_of_mem_ofEntries ho
  | advance ms => cases ho
  | run => cases ho

end Scene

/-! ## The calls of a run -/

/-- What occurs at one place occurs in the same order in the whole. -/
lemma History.trailAt_sublist (place : Place) (h : History α) :
    (trailAt place h).Sublist (trail h) := by
  induction h with
  | nil => exact .slnil
  | cons x h ih =>
    by_cases hx : x.1 = place
    · have : trailAt place (x :: h) = x.2 :: trailAt place h := by simp [trailAt, hx]
      rw [this]
      exact ih.cons_cons x.2
    · have : trailAt place (x :: h) = trailAt place h := by simp [trailAt, hx]
      rw [this]
      exact ih.cons x.2

/-- What occurs anywhere occurs at some place. -/
lemma History.exists_mem_of_mem_trail {h : History α} {o : Occurrence α} (ho : o ∈ trail h) :
    ∃ place, (place, o) ∈ h := by
  obtain ⟨⟨place, o⟩, hmem, rfl⟩ := List.mem_map.1 ho
  exact ⟨place, hmem⟩

/-- Calls are made in the order of their numbers. -/
def Trail.Ordered (os : Trail α) : Prop :=
  os.Pairwise fun o o' => ∀ c, call? o = some c → ∀ c', call? o' = some c' → c < c'

/-- What belongs to calls is collected without repetition, if it tells the call. -/
lemma Trail.Ordered.nodup_collect {β : Type} {os : Trail α} (ordered : Ordered os)
    (kind : Occurrence α → Option β) (number : ∀ o ∈ os, ∀ x, kind o = some x → (call? o).isSome)
    (tells : ∀ o o' x, kind o = some x → kind o' = some x → call? o = call? o') :
    (collect kind os).Nodup := by
  rw [collect, List.Nodup, List.pairwise_filterMap]
  refine ordered.imp_of_mem fun {o o'} ho ho' hlt x hx y hy hxy => ?_
  subst hxy
  obtain ⟨c, hc⟩ := Option.isSome_iff_exists.1 (number o ho x hx)
  have hc' : call? o' = some c := (tells o o' x hx hy) ▸ hc
  exact Nat.lt_irrefl c (hlt c hc c hc')

namespace Stage

open Scene

variable {g g' : Stage α} {h : History α}

/-- A step makes at most one call, and that has the number of the next command. -/
lemma Step.calls (step : Step g h g') : g.calls ≤ g'.calls ∧
    (collect call? (trail h) = [] ∨
      collect call? (trail h) = [g.calls] ∧ g.calls < g'.calls) := by
  cases step with
  | order c =>
    refine ⟨Nat.le_succ _, ?_⟩
    exact (calls_order g.calls g.scene c).imp_right fun hc => ⟨hc, Nat.lt_succ_self _⟩
  | pool k here move => exact ⟨Nat.le_refl _, .inl (calls_ofEntries _)⟩
  | batch k here move => exact ⟨Nat.le_refl _, .inl (calls_ofEntries _)⟩
  | finish id => exact ⟨Nat.le_refl _, .inl (calls_ofEntries _)⟩
  | clock time later => exact ⟨Nat.le_refl _, .inl rfl⟩

/-- **The numbers of the calls of a run increase.** -/
theorem Steps.calls (steps : Steps g h g') : g.calls ≤ g'.calls ∧
    (collect call? (trail h)).Pairwise (· < ·) ∧
      ∀ c ∈ collect call? (trail h), g.calls ≤ c ∧ c < g'.calls := by
  induction steps with
  | refl => exact ⟨Nat.le_refl _, by simp [trail], by simp [trail]⟩
  | tail _ last ih =>
    obtain ⟨hle, hpairwise, hbound⟩ := ih
    obtain ⟨hle', hlast⟩ := last.calls
    rw [trail_append, collect_append]
    refine ⟨Nat.le_trans hle hle', ?_, ?_⟩
    · rcases hlast with hlast | ⟨hlast, -⟩
      · rw [hlast, List.append_nil]
        exact hpairwise
      · rw [hlast, List.pairwise_append]
        refine ⟨hpairwise, List.pairwise_singleton _ _, fun c hc d hd => ?_⟩
        rw [List.mem_singleton.1 hd]
        exact (hbound c hc).2
    · intro c hc
      rcases List.mem_append.1 hc with hc | hc
      · have := hbound c hc
        omega
      · rcases hlast with hlast | ⟨hlast, hlt⟩
        · simp [hlast] at hc
        · rw [hlast, List.mem_singleton] at hc
          omega

/-- Who asks for something in a run has a number. -/
lemma Steps.signed (steps : Steps g h g') : ∀ o ∈ trail h, o.Signed := by
  induction steps with
  | refl => simp [trail]
  | tail _ last ih =>
    intro o ho
    rw [trail_append, List.mem_append] at ho
    rcases ho with ho | ho
    · exact ih o ho
    · cases last with
      | order c => exact signed_order _ _ c o ho
      | pool k here move => exact signed_of_mem_ofEntries ho
      | batch k here move => exact signed_of_mem_ofEntries ho
      | finish id => exact signed_of_mem_ofEntries ho
      | clock time later => cases ho

/-- The calls of a run are made in the order of their numbers. -/
lemma Steps.ordered (steps : Steps g h g') : Ordered (trail h) :=
  List.pairwise_filterMap.1 steps.calls.2.1

/-- **No call is made twice**: at two places, or twice at the same. -/
theorem Steps.call_once (steps : Steps g h g') {c : Nat} {x y : Place × Occurrence α} (hx : x ∈ h)
    (hy : y ∈ h) (hcx : x.2.call? = some c) (hcy : y.2.call? = some c) : x = y := by
  have ordered : h.Pairwise fun x y => ∀ c, x.2.call? = some c → ∀ d, y.2.call? = some d → c < d :=
    List.pairwise_map.1 steps.ordered
  have apart : h.Pairwise fun x y => x.2.call? = some c → y.2.call? = some c → x = y :=
    ordered.imp fun hlt hx hy => absurd (hlt c hx c hy) (Nat.lt_irrefl c)
  have : Std.Symm fun x y : Place × Occurrence α =>
      x.2.call? = some c → y.2.call? = some c → x = y :=
    ⟨fun _ _ heq hy hx => (heq hx hy).symm⟩
  exact List.Pairwise.forall_of_forall (fun _ _ _ _ => rfl) apart hx hy hcx hcy

/-- No receiver joins the line of a pool twice. -/
theorem Steps.joined_nodup (steps : Steps g h g') (place : Place) :
    (collect joined? (trailAt place h)).Nodup := by
  have hsub := trailAt_sublist place h
  have ordered : Ordered (trailAt place h) := steps.ordered.sublist hsub
  refine ordered.nodup_collect joined? ?_ ?_
  · intro o ho r hr
    have hsigned := steps.signed o (hsub.subset ho)
    cases o <;> simp_all [joined?, Signed, call?]
  · intro o o' r hr hr'
    cases o <;> cases o' <;> simp_all [joined?, call?]

/-- The name of a task tells the call that handed it over. -/
lemma Steps.call_of_given (steps : Steps g h g') (named : Named h) {o : Occurrence α}
    (ho : o ∈ trail h) {t : Task α} (ht : t ∈ o.given) : call? o = some t.id.call := by
  obtain ⟨place, hmem⟩ := exists_mem_of_mem_trail ho
  cases o with
  | asked s =>
    obtain ⟨c, hc⟩ := Option.isSome_iff_exists.1 (steps.signed _ ho)
    rw [List.mem_singleton.1 ht, named.asked place s c hmem hc]
    exact hc
  | batched c tasks =>
    obtain ⟨i, hi⟩ := List.mem_iff_getElem?.1 ht
    rw [named.batched place c tasks i t hmem hi]
    rfl
  | _ => cases ht

/-- **The tasks of a run have different names**, if they carry the names of their calls. -/
theorem Steps.distinct (steps : Steps g h g') (named : Named h) :
    ((Trail.given (trail h)).map Task.id).Nodup := by
  rw [Trail.given, List.map_flatMap, List.nodup_flatMap]
  refine ⟨fun o ho => ?_, ?_⟩
  · obtain ⟨place, hmem⟩ := exists_mem_of_mem_trail ho
    cases o with
    | batched c tasks =>
      have hids : tasks.map Task.id = (List.range tasks.length).map fun i => ⟨c, some i⟩ := by
        refine List.ext_getElem (by simp) fun i hi hi' => ?_
        rw [List.length_map] at hi
        simp [named.batched place c tasks i tasks[i] hmem (List.getElem?_eq_getElem hi)]
      show (tasks.map Task.id).Nodup
      rw [hids]
      refine List.nodup_range.map fun i j hij => ?_
      simpa using hij
    | _ => simp [Occurrence.given]
  · refine steps.ordered.imp_of_mem fun {o o'} ho ho' hlt => ?_
    intro i hi hi'
    obtain ⟨t, ht, rfl⟩ := List.mem_map.1 hi
    obtain ⟨t', ht', hid⟩ := List.mem_map.1 hi'
    have hc := steps.call_of_given named ho ht
    have hc' := steps.call_of_given named ho' ht'
    rw [hid] at hc'
    exact Nat.lt_irrefl _ (hlt _ hc _ hc')

end Stage

end Workforce
