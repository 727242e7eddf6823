import Workforce.Proofs.Batch.Books
import Workforce.Proofs.Scene.Notes
/-!
# The books of the batches of a scene

Every batch keeps its books along every run. When a call was answered with values, the end of its
batch has therefore been noted once, with the counts that what occurred tells. By then everything
that was admitted has ended or was dropped with the queue, and every output has been received.

## Main definitions

* `Workforce.Trail.absent` — the tasks that ended without a value.

## Main results

* `Workforce.Stage.Steps.books` — every batch keeps its books.
* `Workforce.Stage.Steps.finished_once` — what is noted when a call is answered with values.
* `Workforce.Stage.Steps.census_of_told` — what became of the tasks that were admitted.
-/

namespace Workforce

open Occurrence Trail History

variable {α : Type}

/-! ## What has ended -/

/-- The tasks that ended without a value, and did not panic. -/
def Trail.absent (os : Trail α) : List (Task α) :=
  (os.collect ended?).filter (·.outcome.output? matches some none)

/-- A task that ends without a panic has a value or none. -/
lemma Trail.length_absent (os : Trail α) :
    ((Trail.outputs os).filterMap id).length + (absent os).length = (Trail.outputs os).length := by
  rw [outputs, absent]
  generalize os.collect ended? = ts
  induction ts with
  | nil => rfl
  | cons t ts ih =>
    rw [List.filterMap_cons, List.filter_cons]
    cases t.outcome.output? with
    | none => exact ih
    | some output => cases output <;> simp [← ih] <;> omega

namespace Stage

open Scene

variable {g g' : Stage α} {h k : History α} {place place' : Place} {p : Pool α} {i call : Nat}
  {b : Batch α} {tasks : List (Task α)} {values : List α}

/-! ## The books are kept -/

/-- Once somebody was told that the results are closed, nothing is admitted or received. -/
lemma Steps.over_of_told (run : Steps {} h g) (here : g.scene.poolAt place = some p)
    (told : collect told? (trailAt place h) ≠ []) (after : Steps g k g') :
    Trail.admitted (trailAt place k) = [] ∧ received (trailAt place k) = [] := by
  obtain ⟨p₀, os, blank, hsteps, hos, -⟩ := run.changes_of_empty.life here
  obtain ⟨-, -, -, -, htold⟩ := collect_congr hos
  obtain ⟨hgone, hresults, -⟩ := hsteps.told blank (htold ▸ told)
  obtain ⟨q, ps, -, hafter, hps⟩ := (after.changes run.batches_sound).at_place here
  obtain ⟨hadmitted, -, -, hreceipt, -⟩ := collect_congr hps
  rw [Trail.admitted, received, ← hadmitted, ← hreceipt, hafter.admitted_of_gone hgone,
    (hafter.silent hgone hresults).2.1]
  exact ⟨rfl, rfl⟩

/-- The books of a batch that begins: calls may have been answered at its place before. -/
lemma Steps.books_of_new (run : Steps {} h g) (last : Step g k g')
    (hnone : g.scene.batches[i]? = none) (hb : g'.scene.batches[i]? = some b) :
    b.Books (trailAt (.batch i) (h ++ k)) := by
  obtain ⟨call, n, hn, tasks, admission, rfl, htrail, -⟩ := last.new_batch hnone hb
  have hbefore : essence (trailAt (.batch i) h) = [] := by
    rcases run.changes_of_empty.batch_of_none (i := i) rfl with ⟨-, hbefore⟩ |
      ⟨-, -, -, -, -, c, -, hc, -⟩
    · exact hbefore
    · cases hnone.symm.trans hc
  have hessence : essence (trailAt (.batch i) (h ++ k)) = essence [] := by
    rw [trailAt_append, essence_append, hbefore, htrail]
    exact essence_opening _
  obtain ⟨hadmitted, -, -, hreceipt, -⟩ := collect_congr hessence
  have hidle : ∀ e, event e ∈ trailAt (.batch i) h → e.Idle g.calls (.batch i) h := fun e he =>
    run.idle hnone (mem_events.2 (mem_trailAt.1 he))
  refine ⟨⟨tasks, ?_, rfl⟩, ?_, ?_, fun _ hreceiving => ?_, .inl ?_, fun n values hmem => .inl ?_⟩
  · rw [trailAt_append, htrail]
    exact List.mem_append_right _ List.mem_cons_self
  · rw [Trail.admitted, hadmitted]
    rfl
  · rw [received, hreceipt]
    rfl
  · cases hreceiving
  · rw [trailAt_append, htrail, collect_append, collect_cons,
      Scene.collect_opening final? _ rfl rfl, List.append_nil, List.append_eq_nil_iff]
    refine ⟨List.filterMap_eq_nil_iff.2 fun o ho => ?_, rfl⟩
    cases o with
    | event e =>
      have he := hidle e ho
      cases e <;> first | rfl | exact he.elim
    | _ => rfl
  · rw [trailAt_append, List.mem_append] at hmem ⊢
    refine .inl (mem_trailAt.2 ((hidle _ (hmem.resolve_right fun hnew => ?_)).2 values rfl))
    rw [htrail] at hnew
    simp [Pool.opening] at hnew

/-- **Every batch keeps its books** along every run. -/
theorem Steps.books (run : Steps {} h g) (hb : g.scene.batches[i]? = some b) :
    b.Books (trailAt (.batch i) h) := by
  induction run generalizing b with
  | refl => cases hb
  | @tail g₁ g₂ h₁ k run last ih =>
    cases hb₁ : g₁.scene.batches[i]? with
    | none => exact Steps.books_of_new run last hb₁ hb
    | some b₁ =>
      have sound := Steps.batches_sound run b₁ (List.mem_of_getElem? hb₁)
      have here : g₁.scene.poolAt (.batch i) = some b₁.pool := congrArg (Option.map _) hb₁
      have afterwards := fun told => Steps.over_of_told run here told (.single last)
      rw [trailAt_append]
      rcases last.at_batch hb₁ with ⟨l, c, es, move, hc, htrail, -⟩ | ⟨x, hc, htrail, -⟩ |
        ⟨-, hc, htrail, -⟩ <;> cases hb.symm.trans hc <;> rw [htrail] at afterwards ⊢
      · by_cases hl : l = .conclude
        · subst hl
          exact (ih hb₁).conclude move
        · exact (ih hb₁).carry (.of_perform? sound hl move) afterwards
      · exact (ih hb₁).carry (.of_turn b₁ x) afterwards
      · exact (ih hb₁).carry (.of_abandon b₁) afterwards

/-! ## What is noted in the end -/

/-- A pool answers no call of a batch. -/
lemma Steps.not_answered (run : Steps {} h g) {n : Nat} {answer : Answer α} :
    (Place.pool i, event (.batchAnswered n answer)) ∉ h := fun hmem => by
  have hmem := mem_trailAt.2 hmem
  rcases run.changes_of_empty.pool_of_none (i := i) rfl with ⟨-, htrail⟩ |
    ⟨m, hm, child, cancelled, q, os, -, htrail, hsteps⟩
  · rw [htrail] at hmem
    cases hmem
  · rw [htrail, List.mem_append] at hmem
    rcases hmem with hmem | hmem
    · simp [Pool.opening] at hmem
    · exact not_answered_of_unanswered (Pool.Steps.unanswered hsteps) hmem

/-- **What is noted when a call is answered with values**: the end of its batch, once, with the
number of the tasks that were admitted, of those that were given, and of the values. The values are
those that were received. -/
theorem Steps.finished_once (run : Steps {} h g) (hne : tasks ≠ [])
    (hcall : (place, batched call tasks) ∈ h)
    (hanswer : (place', event (.batchAnswered call (.batch (.ok values)))) ∈ h) :
    place' = place ∧ (∃ p, g.scene.poolAt place = some p) ∧
      values = (received (trailAt place h)).filterMap id ∧
      collect told? (trailAt place h) ≠ [] ∧
      collect final? (trailAt place h) =
        [((Trail.admitted (trailAt place h)).length, tasks.length, values.length)] := by
  -- the call was not made with nothing to run
  have hsome : ∀ q, (q, batched call []) ∉ h := fun q hmem => by
    cases run.call_once hcall hmem rfl rfl
    exact hne rfl
  cases place' with
  | pool j => exact absurd hanswer run.not_answered
  | batch j =>
    cases hb : g.scene.batches[j]? with
    | none => exact absurd ((run.idle hb (mem_events.2 hanswer)).2 values rfl) (hsome _)
    | some b =>
      have books := run.books hb
      obtain ⟨hown, hvalues, hfinal⟩ := (books.answered call values
        (mem_trailAt.2 hanswer)).resolve_left fun hmem => hsome _ (mem_trailAt.1 hmem)
      obtain ⟨tasks', hcall', htotal⟩ := books.tasks
      cases run.call_once hcall (mem_trailAt.1 hcall') rfl (congrArg some hown.symm)
      obtain ⟨-, told, -⟩ := books.final.resolve_left (by rw [hfinal]; exact List.cons_ne_nil _ _)
      refine ⟨rfl, ⟨b.pool, congrArg (Option.map _) hb⟩, hvalues.trans books.values, told, ?_⟩
      rw [hfinal, books.admitted, htotal, hvalues]

/-- **What became of the tasks that were admitted** at a place, once somebody was told that the
results are closed there: each has ended with an output, which has been received, or panicked or was
dropped with the queue. -/
theorem Steps.census_of_told (run : Steps {} h g) (named : h.Named)
    (here : g.scene.poolAt place = some p) (told : collect told? (trailAt place h) ≠ []) :
    Trail.outputs (trailAt place h) = received (trailAt place h) ∧
      (received (trailAt place h)).length + (panicked (trailAt place h)).length +
        (dropped (trailAt place h)).length = (Trail.admitted (trailAt place h)).length := by
  obtain ⟨p₀, os, blank, hsteps, hos, hdiscards⟩ := run.changes_of_empty.life here
  obtain ⟨hadmitted, hstarted, hended, hreceipt, htold⟩ := collect_congr hos
  obtain ⟨hgone, -, houtputs⟩ := hsteps.told blank (htold ▸ told)
  rw [Trail.outputs, received, hended, hreceipt] at houtputs
  obtain ⟨turned, lost, hledger⟩ := hsteps.ledger
  have hsplit := hledger.queue
  rw [blank.queue, List.nil_append, Trail.admitted, hadmitted, hstarted] at hsplit
  have hlost : lost ⊆ collect discarded? (trailAt place h) := fun t ht =>
    hdiscards (hledger.discards.symm.subset (List.mem_append_right _ ht))
  have hdropped := (run.length_dropped here hsplit hlost).2 named
  -- whatever was started has ended
  have hwork := hledger.work.length_eq
  rw [Pool.underway_eq_nil hgone, blank.underway, List.nil_append, List.nil_append, hended,
    hstarted] at hwork
  have hlength := congrArg List.length hsplit
  have houtcomes := length_outputs (trailAt place h)
  rw [(run.pool_sound here).queue_of_gone hgone, List.append_nil, List.length_append] at hlength
  refine ⟨houtputs, ?_⟩
  rw [Trail.outputs, houtputs, ← received] at houtcomes
  rw [← hdropped, Trail.admitted, hlength]
  omega

end Stage

end Workforce
