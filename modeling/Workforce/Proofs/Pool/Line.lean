import Workforce.Proofs.Pool.Outputs
/-!
# The line of submissions

Submissions join the line of a pool at its end. The first one is admitted or refused; those behind
it wait for their turn, or give up. Those that have been neither refused nor given up are therefore
admitted in the order in which they were handed in.

## Main definitions

* `Workforce.Trail.dismissed` — the callers whose submissions were given up or refused.
* `Workforce.Trail.lasting` — the submissions of the others, in the order of the calls.

## Main results

* `Workforce.Pool.Step.submitting_cases` — all that a step can do to the line.
* `Workforce.Pool.Step.line_eq` — who is left in it.
* `Workforce.Pool.Steps.lasting` — who is admitted and who still waits, in order.
-/

namespace Workforce

open Occurrence

variable {α : Type}

namespace Trail

variable {os ps : Trail α}

/-- The callers whose submissions were given up or refused. -/
def dismissed (os : Trail α) : List (Option Nat) :=
  (os.collect retracted?).map (·.caller) ++ os.collect refused?

/-- The submissions that were neither given up nor refused, in the order of the calls. -/
def lasting (os : Trail α) : List (Submission α) :=
  (os.collect asked?).filter (·.caller ∉ dismissed os)

lemma mem_dismissed_append {c : Option Nat} :
    c ∈ dismissed (os ++ ps) ↔ c ∈ dismissed os ∨ c ∈ dismissed ps := by
  simp only [dismissed, collect_append, List.map_append, List.mem_append]
  tauto

/-- What comes later strikes some submissions out and adds others. -/
lemma lasting_append : lasting (os ++ ps) =
    (lasting os).filter (·.caller ∉ dismissed ps) ++
      (ps.collect asked?).filter (·.caller ∉ dismissed (os ++ ps)) := by
  rw [lasting, collect_append, List.filter_append, lasting, List.filter_filter]
  congr 1
  refine List.filter_congr fun s _ => ?_
  simp [mem_dismissed_append, Bool.and_comm]

/-- Submissions none of which is dismissed. -/
lemma filter_dismissed_eq_self {ss : List (Submission α)}
    (h : ∀ s ∈ ss, s.caller ∉ dismissed os) : ss.filter (·.caller ∉ dismissed os) = ss :=
  List.filter_eq_self.2 fun s hs => by simpa using h s hs

end Trail

namespace Pool

open Trail

variable {p q : Pool α} {os : Trail α}

/-- All that a step can do to the line of submissions: nothing, add one, admit or refuse the first
one, refuse one that has not joined it, or remove those of some callers who give up. -/
lemma Step.submitting_cases (h : Step p os q) :
    (q.submitting = p.submitting ∧ collect asked? os = [] ∧ collect admitted? os = [] ∧
      collect retracted? os = [] ∧ collect refused? os = []) ∨
    (∃ s, q.submitting = p.submitting ++ [s] ∧ collect asked? os = [s] ∧
      collect admitted? os = [] ∧ collect retracted? os = [] ∧ collect refused? os = []) ∨
    (∃ s, p.submitting = s :: q.submitting ∧ collect asked? os = [] ∧
      collect admitted? os = [s] ∧ collect retracted? os = [] ∧ collect refused? os = []) ∨
    (∃ s, p.submitting = s :: q.submitting ∧ collect asked? os = [] ∧
      collect admitted? os = [] ∧ collect retracted? os = [] ∧
      collect refused? os = [s.caller]) ∨
    (∃ s, q.submitting = p.submitting ∧ collect asked? os = [s] ∧ collect admitted? os = [] ∧
      collect retracted? os = [] ∧ collect refused? os = [s.caller]) ∨
    (∃ f : Option Nat → Bool, q.submitting = p.submitting.filter (!f ·.caller) ∧
      collect asked? os = [] ∧ collect admitted? os = [] ∧
      collect retracted? os = p.submitting.filter (f ·.caller) ∧ collect refused? os = []) := by
  cases h with
  | stop | leave | lose =>
    refine .inl ⟨submitting_retire .., ?_, ?_, ?_, ?_⟩
    all_goals exact collect_retire_of_none _ _ _ rfl rfl rfl fun _ => rfl
  | submit s held opened => exact .inr (.inl ⟨s, rfl, rfl, rfl, rfl, rfl⟩)
  | @accept s rest submitting alive room opened =>
    exact .inr (.inr (.inl ⟨s, submitting, rfl, rfl, rfl, rfl⟩))
  | @refuse s rest m submitting why =>
    exact .inr (.inr (.inr (.inl ⟨s, submitting, rfl, rfl, rfl, rfl⟩)))
  | turnAway m s closed => exact .inr (.inr (.inr (.inr (.inl ⟨s, rfl, rfl, rfl, rfl, rfl⟩))))
  | withdraw call =>
    refine .inr (.inr (.inr (.inr (.inr ⟨(· == some call), rfl, ?_, ?_, ?_, ?_⟩))))
    · exact collect_withdraw_of_none call p (fun _ => rfl) (fun _ => rfl) fun _ => rfl
    · exact collect_withdraw_of_none call p (fun _ => rfl) (fun _ => rfl) fun _ => rfl
    · rw [collect_withdraw, collect_map retracted? _ id (fun _ => rfl), List.map_id,
        collect_map_none retracted? _ (fun _ => rfl), collect_map_none retracted? _ (fun _ => rfl)]
      simp
    · exact collect_withdraw_of_none call p (fun _ => rfl) (fun _ => rfl) fun _ => rfl
  | retract =>
    refine .inr (.inr (.inr (.inr (.inr ⟨fun _ => true, ?_, ?_, ?_, ?_, ?_⟩))))
    · simp
    · exact collect_retract_of_none p (fun _ => rfl) fun _ => rfl
    · exact collect_retract_of_none p (fun _ => rfl) fun _ => rfl
    · rw [collect_append, collect_map retracted? _ id (fun _ => rfl), List.map_id,
        collect_map_none retracted? _ (fun _ => rfl)]
      simp
    · exact collect_retract_of_none p (fun _ => rfl) fun _ => rfl
  | resign =>
    refine .inl ⟨rfl, ?_, ?_, ?_, ?_⟩
    all_goals exact collect_map_none _ _ (fun _ => rfl) _
  | _ => exact .inl ⟨rfl, rfl, rfl, rfl, rfl⟩

/-- Whoever gives up or is refused was in the line or has just come. -/
lemma Step.dismissed_subset (h : Step p os q) :
    ∀ c ∈ dismissed os, c ∈ (p.submitting ++ collect asked? os).map (·.caller) := by
  intro c hc
  rcases h.submitting_cases with ⟨-, -, -, hr, hf⟩ | ⟨s, -, -, -, hr, hf⟩ |
    ⟨s, -, -, -, hr, hf⟩ | ⟨s, hp, -, -, hr, hf⟩ | ⟨s, -, ha, -, hr, hf⟩ | ⟨f, -, -, -, hr, hf⟩
  · simp [dismissed, hr, hf] at hc
  · simp [dismissed, hr, hf] at hc
  · simp [dismissed, hr, hf] at hc
  · simp [dismissed, hr, hf] at hc
    simp [hc, hp]
  · simp [dismissed, hr, hf] at hc
    simp [hc, ha]
  · rw [dismissed, hr, hf, List.append_nil] at hc
    obtain ⟨s, hs, rfl⟩ := List.mem_map.1 hc
    exact List.mem_map_of_mem (List.mem_append_left _ (List.mem_of_mem_filter hs))

/-- A step admits from the head of the line and strikes out those that it dismisses, where no two
have the same caller. -/
lemma Step.line_eq (h : Step p os q)
    (nodup : ((p.submitting ++ collect asked? os).map (·.caller)).Nodup) :
    collect admitted? os ++ q.submitting =
      (p.submitting ++ collect asked? os).filter (·.caller ∉ dismissed os) := by
  rcases h.submitting_cases with ⟨hq, ha, hi, hr, hf⟩ | ⟨s, hq, ha, hi, hr, hf⟩ |
    ⟨s, hp, ha, hi, hr, hf⟩ | ⟨s, hp, ha, hi, hr, hf⟩ | ⟨s, hq, ha, hi, hr, hf⟩ |
    ⟨f, hq, ha, hi, hr, hf⟩
  · simp [dismissed, hr, hf, ha, hi, hq]
  · simp [dismissed, hr, hf, ha, hi, hq]
  · simp [dismissed, hr, hf, ha, hi, hp]
  · -- the head is refused, and nobody behind it has the same caller
    have hd : dismissed os = [s.caller] := by rw [dismissed, hr, hf]; rfl
    rw [ha, List.append_nil, hp, List.map_cons, List.nodup_cons] at nodup
    rw [ha, hi, hp, hd, List.append_nil, List.nil_append, List.filter_cons_of_neg (by simp)]
    refine (List.filter_eq_self.2 fun x hx => ?_).symm
    have hne : x.caller ≠ s.caller := fun h => nodup.1 (h ▸ List.mem_map_of_mem hx)
    simpa using hne
  · -- nobody in the line has the caller that is refused at the door
    have hd : dismissed os = [s.caller] := by rw [dismissed, hr, hf]; rfl
    rw [ha, List.map_append, List.nodup_append] at nodup
    rw [ha, hi, hq, hd, List.filter_append, List.nil_append,
      List.filter_cons_of_neg (by simp), List.filter_nil, List.append_nil]
    refine (List.filter_eq_self.2 fun x hx => ?_).symm
    have hne : x.caller ≠ s.caller := nodup.2.2 _ (List.mem_map_of_mem hx) _ (by simp)
    simpa using hne
  · -- whether a submission is given up depends on its caller only
    have hd : dismissed os = (p.submitting.filter (f ·.caller)).map (·.caller) := by
      rw [dismissed, hr, hf, List.append_nil]
    rw [ha, hi, hq, hd, List.append_nil, List.nil_append]
    refine List.filter_congr fun x hx => ?_
    have hiff : x.caller ∈ (p.submitting.filter (f ·.caller)).map (·.caller) ↔
        f x.caller = true := by
      constructor
      · intro hmem
        obtain ⟨y, hy, hyx⟩ := List.mem_map.1 hmem
        exact hyx ▸ (List.mem_filter.1 hy).2
      · exact fun hfx => List.mem_map_of_mem (List.mem_filter.2 ⟨hx, hfx⟩)
    cases hfx : f x.caller <;> simp only [hiff, hfx] <;> rfl

/-- Whoever is in the line has handed in a task, and so has whoever gave up or was refused. -/
lemma Steps.asked (h : Steps p os q) (hp : p.submitting = []) :
    (∀ s ∈ q.submitting, s ∈ collect asked? os) ∧
      ∀ c ∈ dismissed os, c ∈ (collect asked? os).map (·.caller) := by
  induction h with
  | refl => simp [hp, dismissed]
  | @tail q r os ps chain last ih =>
    obtain ⟨hline, hdismissed⟩ := ih
    simp only [collect_append, List.map_append, List.mem_append, mem_dismissed_append]
    refine ⟨fun x hx => ?_, ?_⟩
    · have hmem : x ∈ q.submitting ∨ x ∈ collect asked? ps := by
        rcases last.submitting_cases with ⟨hr, -⟩ | ⟨s, hr, ha, -⟩ | ⟨s, hq, -⟩ | ⟨s, hq, -⟩ |
          ⟨s, hr, -⟩ | ⟨f, hr, -⟩
        · exact .inl (hr ▸ hx)
        · rw [ha]
          exact List.mem_append.1 (hr ▸ hx)
        · exact .inl (hq ▸ List.mem_cons_of_mem s hx)
        · exact .inl (hq ▸ List.mem_cons_of_mem s hx)
        · exact .inl (hr ▸ hx)
        · exact .inl (List.mem_of_mem_filter (hr ▸ hx))
      exact hmem.imp_left (hline x)
    · rintro c (hc | hc)
      · exact .inl (hdismissed c hc)
      · have hmem := last.dismissed_subset c hc
        rw [List.map_append, List.mem_append] at hmem
        refine hmem.imp_left fun h => ?_
        obtain ⟨s, hs, rfl⟩ := List.mem_map.1 h
        exact List.mem_map_of_mem (hline s hs)

/-- **Submissions are admitted in the order in which they were handed in.** Those that were neither
given up nor refused have been admitted, or wait in line.

**Proof sketch.** Induction on the run. Whoever joins goes to the end of the line, and whoever is
admitted stands at its head. A submission that is given up or refused is struck out on both sides:
since nobody hands in two, it is not among those that were admitted. -/
theorem Steps.lasting (h : Steps p os q) (hp : p.submitting = [])
    (nodup : ((collect asked? os).map (·.caller)).Nodup) :
    Trail.lasting os = collect admitted? os ++ q.submitting := by
  induction h with
  | refl => simp [Trail.lasting, hp]
  | @tail q r os ps chain last ih =>
    rw [collect_append, List.map_append] at nodup
    have ih := ih nodup.of_append_left
    obtain ⟨hline, hdismissed⟩ := Steps.asked chain hp
    -- those that have been admitted, wait or have just come have different callers
    have hdistinct : ((collect admitted? os).map (·.caller) ++
        (q.submitting ++ collect asked? ps).map (·.caller)).Nodup := by
      have hsub : (Trail.lasting os ++ collect asked? ps).Sublist
          (collect asked? os ++ collect asked? ps) := List.filter_sublist.append_right _
      rw [ih, List.append_assoc] at hsub
      rw [← List.map_append]
      exact (hsub.map _).nodup (by rwa [List.map_append])
    have hadmitted : (collect admitted? os).filter (·.caller ∉ dismissed ps) =
        collect admitted? os := by
      refine filter_dismissed_eq_self fun x hx hmem => ?_
      exact (List.nodup_append.1 hdistinct).2.2 _ (List.mem_map_of_mem hx) _
        (last.dismissed_subset _ hmem) rfl
    have hnew : (collect asked? ps).filter (·.caller ∉ dismissed (os ++ ps)) =
        (collect asked? ps).filter (·.caller ∉ dismissed ps) := by
      refine List.filter_congr fun x hx => ?_
      have hbefore : x.caller ∉ dismissed os := fun hmem =>
        (List.nodup_append.1 nodup).2.2 _ (hdismissed _ hmem) _ (List.mem_map_of_mem hx) rfl
      simp [mem_dismissed_append, hbefore]
    calc Trail.lasting (os ++ ps)
        = (collect admitted? os ++ q.submitting).filter (·.caller ∉ dismissed ps) ++
            (collect asked? ps).filter (·.caller ∉ dismissed ps) := by
          rw [lasting_append, ih, hnew]
      _ = collect admitted? os ++
            (q.submitting ++ collect asked? ps).filter (·.caller ∉ dismissed ps) := by
          rw [List.filter_append, List.filter_append, hadmitted, List.append_assoc]
      _ = collect admitted? (os ++ ps) ++ r.submitting := by
          rw [← last.line_eq hdistinct.of_append_right, collect_append, List.append_assoc]

end Pool

end Workforce
