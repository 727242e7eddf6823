import Mathlib.Data.List.Nodup
import Mathlib.Tactic.ByContra
import Workforce.Proofs.Pool.Workers
/-!
# What becomes of outputs

Outputs pass from the workers that wait to publish through the results queue to the receivers, and
calls for the next output wait in line. Both keep their order, so that a run of a pool can be
compared with what went in and what came out.

## Main definitions

* `Workforce.Pool.Blank` — a pool in which nothing has happened yet.

## Main results

* `Workforce.Pool.Steps.outputs` — no output is lost, duplicated or overtaken.
* `Workforce.Pool.Steps.served` — nor is a call for the next output.
* `Workforce.Pool.Steps.told` — a receiver is told that the results are closed only at their end.
-/

namespace Workforce.Pool

open Occurrence Trail

variable {α : Type} {p q : Pool α} {os : Trail α}

/-! ## The beginning -/

/-- Nothing has happened in the pool yet. -/
structure Blank (p : Pool α) : Prop where
  counted : p.counted = p.size
  idle : p.idle = p.size
  running : p.running = []
  publishing : p.publishing = []
  queue : p.queue = []
  results : p.results = []
  submitting : p.submitting = []
  closed : p.closed = false
  held : p.held = true

/-- In a new pool nothing has happened. -/
lemma blank_fresh (size : Nat) (size_pos : 0 < size) (child cancelled : Bool) :
    (fresh size size_pos child cancelled : Pool α).Blank :=
  ⟨rfl, rfl, rfl, rfl, rfl, rfl, rfl, rfl, rfl⟩

/-- A receiver that joins the line changes nothing about that. -/
lemma Blank.receive (h : p.Blank) (r : Receiver) : (p.receive r).Blank :=
  ⟨h.counted, h.idle, h.running, h.publishing, h.queue, h.results, h.submitting, h.closed, h.held⟩

/-- At the beginning all workers are there. -/
lemma Blank.workers (h : p.Blank) : p.workers = p.size := by
  rw [Pool.workers, h.idle, h.running, h.publishing]
  rfl

/-- What holds of every pool holds at the beginning. -/
lemma Blank.sound (h : p.Blank) : p.Sound where
  queue_le := by simp [h.queue]
  results_le := by simp [h.results]
  workers_le := Nat.le_of_eq h.workers
  queue_of_gone _ := h.queue
  alive := .inr (.inr h.workers)

/-- A pool without workers has none of any kind. -/
lemma workers_eq_zero_iff : p.workers = 0 ↔ p.idle = 0 ∧ p.running = [] ∧ p.publishing = [] := by
  rw [workers, ← List.length_eq_zero_iff, ← List.length_eq_zero_iff]
  omega

/-! ## Outputs -/

/-- A step moves outputs on, in their order. -/
lemma Step.flow (h : Step p os q) (hp : p.deserted = false) :
    p.results ++ p.publishing ++ outputs os = received os ++ q.results ++ q.publishing := by
  have hnone : ∀ {os : Trail α}, collect ended? os = [] → collect receipt? os = [] →
      p.results ++ p.publishing ++ outputs os = received os ++ p.results ++ p.publishing := by
    intro os h1 h2
    simp [outputs, received, h1, h2]
  cases h with
  | stop | leave =>
    rw [results_retire, publishing_retire]
    refine hnone ?_ ?_
    · exact collect_retire_of_none _ _ _ rfl rfl rfl fun _ => rfl
    · exact collect_retire_of_none _ _ _ rfl rfl rfl fun _ => rfl
  | lose m publishing deserted => simp [deserted] at hp
  | publish publishing wanted room =>
    simp [publishing, outputs, received, ended?, receipt?]
  | deliver receiving results =>
    simp [results, outputs, received, ended?, receipt?]
  | refuse m submitting why => exact hnone rfl rfl
  | turnAway m s closed => exact hnone rfl rfl
  | withdraw call =>
    refine hnone ?_ ?_
    · exact collect_withdraw_of_none call p (fun _ => rfl) (fun _ => rfl) fun _ => rfl
    · exact collect_withdraw_of_none call p (fun _ => rfl) (fun _ => rfl) fun _ => rfl
  | retract =>
    refine hnone ?_ ?_
    · exact collect_retract_of_none p (fun _ => rfl) fun _ => rfl
    · exact collect_retract_of_none p (fun _ => rfl) fun _ => rfl
  | resign =>
    exact hnone (collect_map_none _ _ (fun _ => rfl) _) (collect_map_none _ _ (fun _ => rfl) _)
  | finish running outcome =>
    simp [outputs, received, ended?, receipt?, outcome]
  | fail running outcome =>
    simp [outputs, received, ended?, receipt?, outcome]
  | _ => exact hnone rfl rfl

/-- In a deserted pool nothing is received or published any more. -/
lemma Step.flow_of_deserted (h : Step p os q) (hp : p.deserted = true) :
    received os = [] ∧ q.results = p.results := by
  have hrec : p.receiving = [] := (deserted_iff.1 hp).2.2
  have hnone : ∀ {os : Trail α}, collect receipt? os = [] → received os = [] := by
    intro os h
    rw [received, h, List.map_nil]
  cases h with
  | stop | leave | lose =>
    refine ⟨hnone ?_, results_retire ..⟩
    exact collect_retire_of_none _ _ _ rfl rfl rfl fun _ => rfl
  | publish publishing wanted room => simp [hp] at wanted
  | deliver receiving results => simp [hrec] at receiving
  | withdraw call =>
    refine ⟨hnone ?_, rfl⟩
    exact collect_withdraw_of_none call p (fun _ => rfl) (fun _ => rfl) fun _ => rfl
  | retract => exact ⟨hnone (collect_retract_of_none p (fun _ => rfl) fun _ => rfl), rfl⟩
  | resign => exact ⟨hnone (collect_map_none _ _ (fun _ => rfl) _), rfl⟩
  | _ => exact ⟨rfl, rfl⟩

/-- **No output is lost, duplicated or overtaken.** Along a run the outputs of the tasks that end
are received or wait in the results queue, in the order of the ends; behind them come those that
wait to be published as long as the pool is not deserted.

**Proof sketch.** Induction on the run. Before the pool is deserted every step moves outputs on from
the publishers to the queue and from there to the receivers, at the ends of the lists; afterwards no
step touches the queue. -/
theorem Steps.outputs (h : Steps p os q) (blank : p.Blank) :
    ∃ rest, outputs os = received os ++ q.results ++ rest ∧
      (q.deserted = false → rest = q.publishing) := by
  induction h with
  | refl =>
    exact ⟨[], by simp [Trail.outputs, received, blank.results], fun _ => blank.publishing.symm⟩
  | @tail q r os ps chain last ih =>
    obtain ⟨rest, hrest, hpub⟩ := ih
    cases hd : q.deserted with
    | false =>
      refine ⟨r.publishing, ?_, fun _ => rfl⟩
      have hflow := last.flow hd
      rw [outputs_append, received_append, hrest, hpub hd, List.append_assoc (received os),
        List.append_assoc (received os), hflow]
      simp only [List.append_assoc]
    | true =>
      obtain ⟨hreceived, hresults⟩ := last.flow_of_deserted hd
      refine ⟨rest ++ Trail.outputs ps, ?_, fun hr => absurd hr ?_⟩
      · rw [outputs_append, received_append, hrest, hreceived, hresults]
        simp only [List.append_assoc, List.append_nil]
      · rw [last.deserted_mono hd]
        simp

/-! ## The end of the results -/

/-- Once the workers have exited and the results queue is empty, nothing ends and nothing is
received any more. -/
lemma Step.silent (h : Step p os q) (hw : p.workers = 0) (hr : p.results = []) :
    collect ended? os = [] ∧ collect receipt? os = [] ∧ q.results = [] := by
  obtain ⟨hidle, hrunning, hpublishing⟩ := workers_eq_zero_iff.1 hw
  cases h with
  | stop m idle | leave m idle => simp [hidle] at idle
  | lose m publishing => simp [hpublishing] at publishing
  | publish publishing => simp [hpublishing] at publishing
  | deliver receiving results => simp [hr] at results
  | finish running | fail running => simp [hrunning] at running
  | withdraw call =>
    refine ⟨?_, ?_, hr⟩
    · exact collect_withdraw_of_none call p (fun _ => rfl) (fun _ => rfl) fun _ => rfl
    · exact collect_withdraw_of_none call p (fun _ => rfl) (fun _ => rfl) fun _ => rfl
  | retract =>
    refine ⟨?_, ?_, hr⟩
    · exact collect_retract_of_none p (fun _ => rfl) fun _ => rfl
    · exact collect_retract_of_none p (fun _ => rfl) fun _ => rfl
  | resign =>
    exact ⟨collect_map_none _ _ (fun _ => rfl) _, collect_map_none _ _ (fun _ => rfl) _, hr⟩
  | _ => exact ⟨rfl, rfl, hr⟩

/-- The same along a run. -/
lemma Steps.silent (h : Steps p os q) (hw : p.workers = 0) (hr : p.results = []) :
    collect ended? os = [] ∧ collect receipt? os = [] ∧ q.results = [] := by
  induction h with
  | refl => exact ⟨rfl, rfl, hr⟩
  | @tail q r os ps chain last ih =>
    obtain ⟨hended, hreceipt, hresults⟩ := ih
    obtain ⟨hended', hreceipt', hresults'⟩ := last.silent (Steps.workers_eq_zero chain hw) hresults
    rw [collect_append, collect_append, hended, hreceipt]
    exact ⟨hended', hreceipt', hresults'⟩

/-- All that a step can do to the line of receivers: nothing, add one, serve the first one, tell it
that the results are closed, or remove some that have given up. -/
lemma Step.receiving_cases (h : Step p os q) :
    (q.receiving = p.receiving ∧ collect joined? os = [] ∧ collect departed? os = [] ∧
      collect receipt? os = [] ∧ collect told? os = []) ∨
    (∃ r, q.receiving = p.receiving ++ [r] ∧ collect joined? os = [r] ∧
      collect departed? os = [] ∧ collect receipt? os = [] ∧ collect told? os = [] ∧
      (r.drains = true → p.closed = true)) ∨
    (∃ r rest output, p.receiving = r :: rest ∧
      q.receiving = (if r.drains then rest ++ [r] else rest) ∧ collect joined? os = [] ∧
      collect departed? os = [] ∧ collect receipt? os = [(r, output)] ∧ collect told? os = [] ∧
      p.results ≠ []) ∨
    (∃ r, p.receiving = r :: q.receiving ∧ collect joined? os = [] ∧
      collect departed? os = [] ∧ collect receipt? os = [] ∧ collect told? os = [r] ∧
      p.workers = 0 ∧ p.results = [] ∧ q.workers = 0 ∧ q.results = []) ∨
    (∃ f : Receiver → Bool, q.receiving = p.receiving.filter (!f ·) ∧ collect joined? os = [] ∧
      collect departed? os = p.receiving.filter f ∧ collect receipt? os = [] ∧
      collect told? os = []) := by
  cases h with
  | stop | leave | lose =>
    refine .inl ⟨receiving_retire .., ?_, ?_, ?_, ?_⟩
    all_goals exact collect_retire_of_none _ _ _ rfl rfl rfl fun _ => rfl
  | receive r held drains => exact .inr (.inl ⟨r, rfl, rfl, rfl, rfl, rfl, drains⟩)
  | @deliver r rest output outputs receiving results =>
    have hne : p.results ≠ [] := by simp [results]
    exact .inr (.inr (.inl ⟨r, rest, output, receiving, rfl, rfl, rfl, rfl, rfl, hne⟩))
  | @tell r rest receiving results gone =>
    exact .inr (.inr (.inr (.inl
      ⟨r, receiving, rfl, rfl, rfl, rfl, gone, results, gone, results⟩)))
  | withdraw call =>
    refine .inr (.inr (.inr (.inr ⟨fun r => r.caller == some call, rfl, ?_, ?_, ?_, ?_⟩)))
    · exact collect_withdraw_of_none call p (fun _ => rfl) (fun _ => rfl) fun _ => rfl
    · rw [collect_withdraw, collect_map_none departed? _ (fun _ => rfl),
        collect_map departed? _ id (fun _ => rfl), collect_map_none departed? _ (fun _ => rfl)]
      simp
    · exact collect_withdraw_of_none call p (fun _ => rfl) (fun _ => rfl) fun _ => rfl
    · exact collect_withdraw_of_none call p (fun _ => rfl) (fun _ => rfl) fun _ => rfl
  | retract =>
    refine .inl ⟨rfl, ?_, ?_, ?_, ?_⟩
    all_goals exact collect_retract_of_none p (fun _ => rfl) fun _ => rfl
  | resign =>
    refine .inr (.inr (.inr (.inr ⟨fun _ => true, by simp, ?_, ?_, ?_, ?_⟩)))
    · exact collect_map_none _ _ (fun _ => rfl) _
    · rw [collect_map departed? _ id (fun _ => rfl), List.map_id]
      exact (List.filter_eq_self.2 fun _ _ => rfl).symm
    · exact collect_map_none _ _ (fun _ => rfl) _
    · exact collect_map_none _ _ (fun _ => rfl) _
  | _ => exact .inl ⟨rfl, rfl, rfl, rfl, rfl⟩

/-- **A receiver is told that the results are closed only at their end**: every worker has exited
and every output has been received. -/
theorem Steps.told (h : Steps p os q) (blank : p.Blank) (ht : collect told? os ≠ []) :
    q.workers = 0 ∧ q.results = [] ∧ Trail.outputs os = received os := by
  induction h with
  | refl => exact absurd rfl ht
  | @tail q r os ps chain last ih =>
    -- the end of the results is reached before the last step, or in it
    have reached : q.workers = 0 ∧ q.results = [] ∧ Trail.outputs os = received os := by
      by_cases hos : collect told? os = []
      · rw [collect_append, hos, List.nil_append] at ht
        rcases last.receiving_cases with ⟨-, -, -, -, h⟩ | ⟨-, -, -, -, -, h, -⟩ |
          ⟨-, -, -, -, -, -, -, -, h, -⟩ | ⟨x, hx, -, -, -, -, hw, hr, -⟩ | ⟨-, -, -, -, -, h⟩
        · exact absurd h ht
        · exact absurd h ht
        · exact absurd h ht
        · obtain ⟨rest, hrest, hpub⟩ := Steps.outputs chain blank
          have hd : q.deserted = false := by simp [deserted, hx]
          rw [hpub hd, (workers_eq_zero_iff.1 hw).2.2, hr] at hrest
          exact ⟨hw, hr, by simpa using hrest⟩
        · exact absurd h ht
      · exact ih hos
    obtain ⟨hw, hr, hout⟩ := reached
    obtain ⟨hended, hreceipt, hresults⟩ := last.silent hw hr
    refine ⟨Nat.le_zero.1 (hw ▸ last.workers_le), hresults, ?_⟩
    have houtputs : Trail.outputs ps = [] := by rw [Trail.outputs, hended, List.filterMap_nil]
    have hreceived : received ps = [] := by rw [received, hreceipt, List.map_nil]
    rw [outputs_append, received_append, hout, houtputs, hreceived]

/-! ## The line of receivers -/

/-- Whoever is in the line or has given up has joined the line. -/
lemma Steps.joined (h : Steps p os q) (hp : p.receiving = []) :
    (∀ r ∈ q.receiving, r ∈ collect joined? os) ∧
      ∀ r ∈ collect departed? os, r ∈ collect joined? os := by
  induction h with
  | refl => simp [hp]
  | @tail q r os ps chain last ih =>
    obtain ⟨hreceiving, hdeparted⟩ := ih
    simp only [collect_append, List.mem_append]
    rcases last.receiving_cases with ⟨hq, hj, hd, -⟩ | ⟨x, hq, hj, hd, -⟩ |
      ⟨x, rest, output, hx, hq, hj, hd, -⟩ | ⟨x, hx, hj, hd, -⟩ | ⟨f, hq, hj, hd, -⟩
    · rw [hq, hj, hd]
      exact ⟨fun y hy => .inl (hreceiving y hy), fun y hy => .inl (hdeparted y (by simpa using hy))⟩
    · rw [hq, hj, hd]
      refine ⟨fun y hy => ?_, fun y hy => .inl (hdeparted y (by simpa using hy))⟩
      rcases List.mem_append.1 hy with hy | hy
      · exact .inl (hreceiving y hy)
      · exact .inr hy
    · rw [hq, hj, hd]
      refine ⟨fun y hy => .inl (hreceiving y ?_),
        fun y hy => .inl (hdeparted y (by simpa using hy))⟩
      rw [hx]
      split at hy
      · simpa [or_comm] using hy
      · exact List.mem_cons_of_mem _ hy
    · rw [hj, hd]
      exact ⟨fun y hy => .inl (hreceiving y (hx ▸ List.mem_cons_of_mem _ hy)),
        fun y hy => .inl (hdeparted y (by simpa using hy))⟩
    · rw [hq, hj, hd]
      refine ⟨fun y hy => .inl (hreceiving y (List.mem_filter.1 hy).1), fun y hy => .inl ?_⟩
      rcases hy with hy | hy
      · exact hdeparted y hy
      · exact hreceiving y (List.mem_filter.1 hy).1

/-- **Calls for the next output are served in the order of the calls.** Those that were not given up
have got an output, or were told that the results are closed, or wait in line.

**Proof sketch.** Induction on the run. Whoever joins goes to the end of the line and whoever is
served stands at its head. A call that gives up is struck from both sides: since nobody joins twice,
it is not among those that were served. -/
theorem Steps.served (h : Steps p os q) (blank : p.Blank) (hp : p.receiving = [])
    (nodup : (collect joined? os).Nodup) :
    kept os = nexts ((collect receipt? os).map Prod.fst) ++ nexts (collect told? os) ++
      nexts q.receiving := by
  induction h with
  | refl => simp [kept, nexts, hp]
  | @tail q r os ps chain last ih =>
    rw [collect_append] at nodup
    have ih := ih nodup.of_append_left
    obtain ⟨hreceiving, hdeparted⟩ := Steps.joined chain hp
    rcases last.receiving_cases with ⟨hq, hj, hd, hr, ht⟩ | ⟨x, hq, hj, hd, hr, ht, -⟩ |
      ⟨x, rest, output, hx, hq, hj, hd, hr, ht, hne⟩ | ⟨x, hx, hj, hd, hr, ht, -⟩ |
      ⟨f, hq, hj, hd, hr, ht⟩
    · rw [kept_append hj hd, collect_append, collect_append, hr, ht, hq, ih]
      simp
    · -- one that joins has not given up before
      have hfresh : x ∉ collect departed? os := by
        intro hmem
        rw [hj] at nodup
        exact (List.nodup_append.1 nodup).2.2 x (hdeparted x hmem) x (by simp) rfl
      rw [kept_append_joined hfresh hj hd, collect_append, collect_append, hr, ht, hq, ih]
      simp
    · -- the one that gets an output stands at the head of the line, and nobody has been told
      have htold : collect told? os = [] := by
        by_contra hne'
        exact hne (Steps.told chain blank hne').2.1
      rw [kept_append hj hd, collect_append, collect_append, hr, ht, hq, ih, htold, hx]
      cases hdrains : x.drains <;> simp [nexts, hdrains]
    · rw [kept_append hj hd, collect_append, collect_append, hr, ht, ih, hx]
      simp [nexts, List.filter_cons]
      split <;> rfl
    · -- those that give up now are not among those that have been served
      have hdistinct : (kept os).Nodup := (nodup.of_append_left.filter _).filter _
      rw [ih] at hdistinct
      have hserved : (nexts ((collect receipt? os).map Prod.fst) ++ nexts (collect told? os)).filter
          (· ∉ q.receiving.filter f) =
          nexts ((collect receipt? os).map Prod.fst) ++ nexts (collect told? os) := by
        rw [List.filter_eq_self]
        intro y hy
        have hdrains : (!y.drains) = true := by
          rcases List.mem_append.1 hy with hy | hy <;> exact (List.mem_filter.1 hy).2
        have hout : y ∉ q.receiving := fun hmem =>
          (List.nodup_append.1 hdistinct).2.2 y hy y (List.mem_filter.2 ⟨hmem, hdrains⟩) rfl
        simp [hout]
      have hwaiting : (nexts q.receiving).filter (· ∉ q.receiving.filter f) =
          nexts (q.receiving.filter (!f ·)) := by
        rw [nexts, nexts, List.filter_comm, List.filter_filter, List.filter_filter]
        refine List.filter_congr fun y hy => ?_
        simp [List.mem_filter, hy]
      rw [kept_append_departed hj hd, collect_append, collect_append, hr, ht, hq, ih,
        List.filter_append, hserved, hwaiting]
      simp

end Workforce.Pool
