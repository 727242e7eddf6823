import Workforce.Proofs.Scene.Calls
/-!
# Outputs are delivered in order

The outputs of the tasks of a pool reach the receivers without loss, duplication or overtaking, and
calls for the next output are served in the order of the calls. The results are reported closed only
at their end, and from then on always.

## Main definitions

* `Workforce.Stage.Delivered` — where the outputs of a pool are.
* `Workforce.Stage.Served` — what becomes of calls for the next output.

## Main results

* `Workforce.Pool.Steps.matched` — where nobody reads to the end, the `k`-th call gets the `k`-th
  output.
* `Workforce.Stage.Steps.delivered_in_order` — both hold after every run.
-/

namespace Workforce

open Occurrence Trail History

variable {α : Type}

/-! ## Calls and outputs -/

/-- What is put together from pairs and some rest is the pairs and what is put together from the
rest. -/
lemma zip_map_append {β γ : Type} (xs : List (β × γ)) (bs : List β) (cs : List γ) :
    (xs.map Prod.fst ++ bs).zip (xs.map Prod.snd ++ cs) = xs ++ bs.zip cs := by
  induction xs with
  | nil => rfl
  | cons x xs ih =>
    rw [List.map_cons, List.map_cons, List.cons_append, List.cons_append, List.zip_cons_cons, ih]
    rfl

namespace Pool

variable {p q : Pool α} {os : Trail α}

/-- Whoever got an output or was told that the results are closed had joined the line. -/
lemma Steps.answered_joined (h : Steps p os q) (hp : p.receiving = []) :
    (∀ x ∈ collect receipt? os, x.1 ∈ collect joined? os) ∧
      ∀ r ∈ collect told? os, r ∈ collect joined? os := by
  induction h with
  | refl => simp
  | @tail q r os ps chain last ih =>
    obtain ⟨hreceipt, htold⟩ := ih
    obtain ⟨hreceiving, -⟩ := Steps.joined chain hp
    simp only [collect_append, List.mem_append]
    -- only the head of the line is answered
    have answered : (∀ x ∈ collect receipt? ps, x.1 ∈ q.receiving) ∧
        ∀ r ∈ collect told? ps, r ∈ q.receiving := by
      rcases last.receiving_cases with ⟨-, -, -, hr, ht⟩ | ⟨-, -, -, -, hr, ht, -⟩ |
        ⟨x, rest, output, hx, -, -, -, hr, ht, -⟩ | ⟨x, hx, -, -, hr, ht, -⟩ | ⟨-, -, -, -, hr, ht⟩
      · simp [hr, ht]
      · simp [hr, ht]
      · simp [hr, ht, hx]
      · simp [hr, ht, hx]
      · simp [hr, ht]
    constructor
    · rintro x (hx | hx)
      · exact .inl (hreceipt x hx)
      · exact .inl (hreceiving _ (answered.1 x hx))
    · rintro x (hx | hx)
      · exact .inl (htold x hx)
      · exact .inl (hreceiving x (answered.2 x hx))

/-- **The `k`-th call that is not given up gets the `k`-th output**, where nobody reads to the end.
In a pool at rest no call waits while there is an output for it.

**Proof sketch.** Calls are served in their order and outputs are received in theirs, so that the
receipts pair off the calls and the outputs from the front. Once a call has been told that the
results are closed no output is left; and a call that waits at rest faces empty results. -/
theorem Steps.matched (h : Steps p os q) (blank : p.Blank) (hp : p.receiving = [])
    (nodup : (collect joined? os).Nodup) (single : ∀ r ∈ collect joined? os, r.drains = false) :
    collect receipt? os <+: (kept os).zip (Trail.outputs os) ∧
      (q.Resting → collect receipt? os = (kept os).zip (Trail.outputs os)) := by
  obtain ⟨hreceipt, htold⟩ := h.answered_joined hp
  obtain ⟨hreceiving, -⟩ := Steps.joined h hp
  have all : ∀ rs : List Receiver, (∀ r ∈ rs, r ∈ collect joined? os) → nexts rs = rs := by
    intro rs hrs
    rw [nexts, List.filter_eq_self]
    intro r hr
    simp [single r (hrs r hr)]
  have hserved := Steps.served h blank hp nodup
  have hfst : ∀ r ∈ (collect receipt? os).map Prod.fst, r ∈ collect joined? os := by
    intro r hr
    obtain ⟨x, hx, rfl⟩ := List.mem_map.1 hr
    exact hreceipt x hx
  rw [all _ hfst, all _ htold, all _ hreceiving, List.append_assoc] at hserved
  obtain ⟨rest, hrest, hpublishing⟩ := Steps.outputs h blank
  rw [received, List.append_assoc] at hrest
  rw [hserved, hrest, zip_map_append]
  refine ⟨List.prefix_append _ _, fun resting => ?_⟩
  -- at rest nobody waits, or no output is left
  have nothing : collect told? os ++ q.receiving = [] ∨ q.results ++ rest = [] := by
    by_cases ht : collect told? os = []
    · by_cases hr : q.receiving = []
      · left
        rw [ht, hr]
        rfl
      · right
        obtain ⟨hresults, hpub, -⟩ := resting.empty_of_receiving hr
        have hd : q.deserted = false := by simp [deserted, hr]
        rw [hresults, hpublishing hd, hpub]
        rfl
    · right
      obtain ⟨-, -, hout⟩ := Steps.told h blank ht
      rw [hrest, received] at hout
      exact List.append_right_eq_self.1 hout
  rcases nothing with hnil | hnil
  · rw [hnil, List.zip_nil_left, List.append_nil]
  · rw [hnil, List.zip_nil_right, List.append_nil]

/-- Where no output is left, whoever waits or comes still waits, or was told, or gave up. -/
lemma Step.dismissed (h : Step p os q) (hr : p.results = []) :
    (q.receiving ++ collect told? os ++ collect departed? os).Perm
      (p.receiving ++ collect joined? os) := by
  rcases h.receiving_cases with ⟨hq, hj, hd, -, ht⟩ | ⟨x, hq, hj, hd, -, ht, -⟩ |
    ⟨x, rest, output, -, -, -, -, -, -, hne⟩ | ⟨x, hx, hj, hd, -, ht, -⟩ | ⟨f, hq, hj, hd, -, ht⟩
  · rw [hq, hj, hd, ht, List.append_nil]
  · rw [hq, hj, hd, ht, List.append_nil, List.append_nil]
  · exact absurd hr hne
  · rw [hx, hj, hd, ht, List.append_nil, List.append_nil]
    exact List.perm_append_singleton x q.receiving
  · rw [hq, hj, hd, ht, List.append_nil, List.append_nil]
    exact List.perm_append_comm.trans (List.filter_append_perm f p.receiving)

/-- The same along a run. -/
lemma Steps.dismissed (h : Steps p os q) (hw : p.workers = 0) (hr : p.results = []) :
    (q.receiving ++ collect told? os ++ collect departed? os).Perm
      (p.receiving ++ collect joined? os) := by
  induction h with
  | refl => simp
  | @tail q r os ps chain last ih =>
    have hlast := last.dismissed (Steps.silent chain hw hr).2.2
    rw [List.perm_iff_count]
    intro x
    have h1 := ih.count_eq x
    have h2 := hlast.count_eq x
    simp only [collect_append, List.count_append] at h1 h2 ⊢
    omega

end Pool

/-! ## Outputs and calls in a scene -/

namespace Stage

open Scene

variable {g : Stage α} {h : History α} {place : Place} {i : Nat} {p : Pool α}

/-- Where the outputs of the tasks of a pool are. -/
structure Delivered (place : Place) (p : Pool α) (h : History α) : Prop where
  /-- They have been received, or wait in the results queue or at workers, in the order in which
  they came. -/
  flow : p.deserted = false → outputs (trailAt place h) =
    received (trailAt place h) ++ p.results ++ p.publishing
  /-- A deserted pool has lost at most what was not in the results queue. -/
  kept : ∃ rest, outputs (trailAt place h) = received (trailAt place h) ++ p.results ++ rest
  /-- Nobody is told that the results are closed before every worker has exited and every output has
  been received. -/
  finished : collect told? (trailAt place h) ≠ [] →
    p.workers = 0 ∧ p.results = [] ∧ outputs (trailAt place h) = received (trailAt place h)

/-- What becomes of calls for the next output of a pool. -/
structure Served (i : Nat) (p : Pool α) (h : History α) (g : Stage α) : Prop where
  /-- Those that were not given up have got an output, or were told that the results are closed, or
  wait, in the order of the calls. -/
  order : Trail.kept (trailAt (.pool i) h) =
    nexts ((collect receipt? (trailAt (.pool i) h)).map Prod.fst) ++
      nexts (collect told? (trailAt (.pool i) h)) ++ nexts p.receiving
  /-- A call that was given up while it waited has got nothing. -/
  departed : ∀ r ∈ collect departed? (trailAt (.pool i) h), r.drains = false →
    r ∉ (collect receipt? (trailAt (.pool i) h)).map Prod.fst ∧
      r ∉ collect told? (trailAt (.pool i) h)
  /-- Where nobody reads to the end, each output has gone to the call of its number. -/
  matched : (∀ r ∈ collect joined? (trailAt (.pool i) h), r.drains = false) →
    collect receipt? (trailAt (.pool i) h) <+:
      (Trail.kept (trailAt (.pool i) h)).zip (outputs (trailAt (.pool i) h))
  /-- When nothing can move, no call waits for an output that is there. -/
  complete : (∀ r ∈ collect joined? (trailAt (.pool i) h), r.drains = false) → g.Settled →
    collect receipt? (trailAt (.pool i) h) =
      (Trail.kept (trailAt (.pool i) h)).zip (outputs (trailAt (.pool i) h))
  /-- Once somebody has been told that the results are closed, everybody is, except for those who
  give up. -/
  closed : collect told? (trailAt (.pool i) h) ≠ [] → ∀ h' g', Steps g h' g' →
    collect receipt? (trailAt (.pool i) h') = [] ∧
      ∃ q, g'.scene.poolAt (.pool i) = some q ∧
        (q.receiving ++ collect told? (trailAt (.pool i) h') ++
          collect departed? (trailAt (.pool i) h')).Perm
            (p.receiving ++ collect joined? (trailAt (.pool i) h')) ∧
        (g'.Settled → q.receiving = [])

/-- The outputs of a pool are where they should be. -/
lemma Steps.delivered (run : Steps {} h g) (here : g.scene.poolAt place = some p) :
    Delivered place p h := by
  obtain ⟨p₀, os, blank, hsteps, hos, -⟩ := run.changes_of_empty.life here
  obtain ⟨-, -, hended, hreceipt, htold⟩ := collect_congr hos
  obtain ⟨rest, hrest, hpublishing⟩ := Pool.Steps.outputs hsteps blank
  have hout : outputs (trailAt place h) = outputs os := by rw [outputs, ← hended, outputs]
  have hrec : received (trailAt place h) = received os := by rw [received, ← hreceipt, received]
  refine ⟨fun hd => ?_, ⟨rest, ?_⟩, fun hne => ?_⟩
  · rw [hout, hrec, hrest, hpublishing hd]
  · rw [hout, hrec, hrest]
  · rw [hout, hrec]
    exact Pool.Steps.told hsteps blank (htold ▸ hne)

/-- Calls for the next output become of what they should. -/
lemma Steps.served (run : Steps {} h g) (here : g.scene.pools[i]? = some p) :
    Served i p h g := by
  have hdelivered : Delivered (.pool i) p h := run.delivered here
  obtain ⟨p₀, os, blank, hempty, hsteps, same⟩ := run.changes_of_empty.pool_course here
  have hjoined := same joined? (fun _ => rfl) rfl
  have hdeparted := same departed? (fun _ => rfl) rfl
  have hreceipt := same receipt? (fun _ => rfl) rfl
  have htold := same told? (fun _ => rfl) rfl
  have hkept : Trail.kept (trailAt (.pool i) h) = Trail.kept os := by
    rw [Trail.kept, hjoined, hdeparted, Trail.kept]
  have hout : outputs (trailAt (.pool i) h) = outputs os := by
    rw [outputs, same ended? (fun _ => rfl) rfl, outputs]
  have nodup : (collect joined? os).Nodup := hjoined ▸ run.joined_nodup (.pool i)
  have order : Trail.kept (trailAt (.pool i) h) =
      nexts ((collect receipt? (trailAt (.pool i) h)).map Prod.fst) ++
        nexts (collect told? (trailAt (.pool i) h)) ++ nexts p.receiving := by
    rw [hkept, hreceipt, htold]
    exact Pool.Steps.served hsteps blank hempty nodup
  have hmatched : (∀ r ∈ collect joined? (trailAt (.pool i) h), r.drains = false) → _ :=
    fun single => Pool.Steps.matched hsteps blank hempty nodup (hjoined ▸ single)
  refine ⟨order, ?_, ?_, ?_, ?_⟩
  · intro r hr hdrains
    -- whoever has been answered is among those that were not given up
    have hout : r ∉ Trail.kept (trailAt (.pool i) h) := by
      intro hmem
      have := (List.mem_filter.1 hmem).2
      simp [hr] at this
    rw [order] at hout
    have hnext : (!r.drains) = true := by rw [hdrains]; rfl
    constructor
    · intro hmem
      have hmem' : r ∈ nexts _ := List.mem_filter.2 ⟨hmem, hnext⟩
      exact hout (List.mem_append_left _ (List.mem_append_left _ hmem'))
    · intro hmem
      have hmem' : r ∈ nexts _ := List.mem_filter.2 ⟨hmem, hnext⟩
      exact hout (List.mem_append_left _ (List.mem_append_right _ hmem'))
  · intro single
    rw [hreceipt, hkept, hout]
    exact (hmatched single).1
  · intro single settled
    rw [hreceipt, hkept, hout]
    exact (hmatched single).2 (settled.resting (show g.scene.poolAt (.pool i) = some p from here))
  · intro hne h' g' after
    obtain ⟨hw, hr, -⟩ := hdelivered.finished hne
    obtain ⟨q, hq, hafter⟩ :=
      (after.changes run.batches_sound).pool here
    refine ⟨(Pool.Steps.silent hafter hw hr).2.1, q, hq, Pool.Steps.dismissed hafter hw hr,
      fun settled => ?_⟩
    by_contra hwaiting
    have hresting := settled.resting (show g'.scene.poolAt (.pool i) = some q from hq)
    exact (hresting.empty_of_receiving hwaiting).2.2 (Pool.Steps.workers_eq_zero hafter hw)

/-- **Outputs are delivered without loss, duplication or overtaking**, after every run and at every
pool, those of batches included; and calls for the next output are served in their order.

**Proof sketch.** Publishers, the results queue and the line of receivers are three queues that feed
each other, each at its end and from its head, so that their concatenation changes at the ends only.
Receivers that give up leave the line without touching the results. -/
theorem Steps.delivered_in_order (run : Steps {} h g) (here : g.scene.poolAt place = some p) :
    Delivered place p h ∧ ∀ i, place = .pool i → Served i p h g := by
  refine ⟨run.delivered here, fun i hi => ?_⟩
  subst hi
  exact run.served here

/-- The short run: one output has been received, and the call that waits at first gets the next. -/
theorem delivered_in_order_short :
    (Delivered (.pool 0) shortPool shortHistory ∧
      ∀ i, Place.pool 0 = .pool i → Served i shortPool shortHistory shortStage) ∧
    received (trailAt (.pool 0) (shortHistory ++ lateHistory)) = [some 1, some 3] ∧
    Delivered (.pool 0) latePool (shortHistory ++ lateHistory) ∧
      ∀ i, Place.pool 0 = .pool i →
        Served i latePool (shortHistory ++ lateHistory) lateStage :=
  ⟨Steps.delivered_in_order shortRun rfl, rfl,
    Steps.delivered_in_order (shortRun.trans lateRun) rfl⟩

end Stage

end Workforce
