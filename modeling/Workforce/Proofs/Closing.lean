import Workforce.Proofs.Accounting
/-!
# Closed pools

Nothing is admitted to a pool any more once it has been closed. Submissions that wait for a place at
that moment are refused as soon as there is one, and keep the queue open until then; what was
admitted before comes to its end.

## Main definitions

* `Workforce.Stage.Closed` — the ways in which a pool gets closed.
* `Workforce.Stage.ClosedFor` — what holds of a pool from then on.

## Main results

* `Workforce.Stage.Steps.closed_for_good` — it holds after every run from a closed pool.
-/

namespace Workforce

open Occurrence Trail History

variable {α : Type}

/-- A call was told that its submission was refused: with no, or with a panic if the discard of the
task panicked. -/
def Occurrence.TellsRefusal (o : Occurrence α) (call : Nat) : Prop :=
  ∃ e, o = event e ∧
    (e.answer? = some (call, .submitted false) ∨ e.answer? = some (call, .panicked))

/-- Whoever is refused is told. -/
lemma Occurrence.tellsRefusal {o : Occurrence α} {call : Nat}
    (h : o.refused? = some (some call)) : o.TellsRefusal call := by
  cases o with
  | event e =>
    cases e with
    | refused caller panicked =>
      obtain rfl : caller = some call := Option.some.inj h
      refine ⟨_, rfl, ?_⟩
      cases panicked with
      | false => exact .inl rfl
      | true => exact .inr rfl
    | _ => cases h
  | _ => cases h

/-! ## Steps of a closed pool -/

namespace Pool

variable {p q : Pool α} {os : Trail α}

/-- A closed pool admits nothing, and its queue grows no longer. -/
lemma Step.of_closed (h : Step p os q) (closed : p.closed = true) :
    collect admitted? os = [] ∧ q.queue.length ≤ p.queue.length := by
  rcases h.queue_cases with ⟨hq, -, ha, -⟩ | ⟨t, hq, -, ha, -⟩ | ⟨s, -, -, -, -, -, hopen⟩ |
    ⟨hq, -, ha, -⟩
  · exact ⟨ha, Nat.le_of_eq (congrArg List.length hq)⟩
  · rw [hq, List.length_cons]
    exact ⟨ha, Nat.le_succ _⟩
  · rw [closed] at hopen
    cases hopen
  · rw [hq]
    exact ⟨ha, Nat.zero_le _⟩

/-- The same along a run. -/
lemma Steps.of_closed (h : Steps p os q) (closed : p.closed = true) :
    collect admitted? os = [] ∧ q.queue.length ≤ p.queue.length := by
  induction h with
  | refl => exact ⟨rfl, Nat.le_refl _⟩
  | @tail q r os ps chain last ih =>
    obtain ⟨hadmitted, hlength⟩ := ih
    obtain ⟨hadmitted', hlength'⟩ := last.of_closed (Steps.closed_mono chain closed)
    rw [collect_append, hadmitted, hadmitted']
    exact ⟨rfl, Nat.le_trans hlength' hlength⟩

/-- Whoever waits at a closed pool or hands in a task there still waits, was refused, or gave up;
the tasks of the latter two were discarded. -/
lemma Steps.line_of_closed (h : Steps p os q) (closed : p.closed = true) :
    ∃ turned : List (Submission α),
      (q.submitting ++ turned ++ collect retracted? os).Perm (p.submitting ++ collect asked? os) ∧
        turned.map (·.caller) = collect refused? os ∧
          ((turned ++ collect retracted? os).map (·.task)).Subperm (collect discarded? os) := by
  obtain ⟨turned, dropped, hledger⟩ := h.ledger
  refine ⟨turned, ?_, hledger.refusals, ?_⟩
  · have hline := hledger.line
    rw [(h.of_closed closed).1, List.append_nil] at hline
    exact hline
  · have hdiscards := hledger.discards
    rw [← List.map_append] at hdiscards
    exact (List.sublist_append_left _ dropped).subperm.trans hdiscards.symm.subperm

/-- As long as a submission waits at a pool that is not cancelled, no worker exits. -/
lemma Sound.staffed (hp : p.Sound) (hs : p.submitting ≠ []) (hc : p.cancelled = false) :
    p.workers = p.size := by
  rcases hp.alive with h | h | h
  · rw [hc] at h
    cases h
  · exact absurd (sealed_iff.1 h).1 hs
  · exact h

end Pool

namespace Stage

open Scene

variable {g g' : Stage α} {h h' : History α} {place : Place}

/-! ## How pools get closed -/

/-- The pool at a place has been closed. -/
inductive Closed : Stage α → Place → Prop
  /-- It was told to close. -/
  | close (g : Stage α) {i : Nat} {p : Pool α} (here : g.scene.pool? i = some p) :
      Closed ⟨g.calls + 1, (g.scene.order g.calls (.close i)).1⟩ (.pool i)
  /-- Its outputs were to be read to the end. -/
  | shutdown (g : Stage α) {i : Nat} {p : Pool α} (here : g.scene.pool? i = some p) :
      Closed ⟨g.calls + 1, (g.scene.order g.calls (.shutdown i)).1⟩ (.pool i)
  /-- The submitter of the batch has ended, in whatever way. -/
  | submitter {g : Stage α} {i : Nat} {b : Batch α} (here : g.scene.batches[i]? = some b)
      (finished : b.Finished) : Closed g (.batch i)
  /-- The batch was given up while it was pending. -/
  | abandon (g : Stage α) {i : Nat} {b : Batch α} (here : g.scene.batches[i]? = some b)
      (pending : b.pending = true) :
      Closed ⟨g.calls + 1, (g.scene.order g.calls (.abandon b.call)).1⟩ (.batch i)
  /-- One of these has happened before. -/
  | before {g : Stage α} {place : Place} {p : Pool α} (here : g.scene.poolAt place = some p)
      (closed : p.closed = true) : Closed g place

/-- After an action on a pool that is there, the pool is what the action made of it. -/
lemma poolAt_visit {s : Scene α} {i : Nat} {p : Pool α} (here : s.pool? i = some p)
    (before after : Trail α) (f : Moment → Pool α → Pool α × List (Event α)) :
    (s.visit i before after f).1.poolAt (.pool i) = some (f s.moment p).1 := by
  have hi : s.pools[i]? = some p := (Option.filter_eq_some_iff.1 here).1
  have hlt : i < s.pools.length := (List.getElem?_eq_some_iff.1 hi).1
  have hat : (s.atPool i f).1.pools = s.pools.set i (f s.moment p).1 := by
    rw [atPool, hi]
    rfl
  rw [visit, here]
  show (s.atPool i f).1.pools[i]? = _
  rw [hat, List.getElem?_set_self hlt]

/-- Whatever closed it, the pool is closed. -/
lemma Closed.closed (h : Closed g place) (sound : ∀ b ∈ g.scene.batches, b.Sound) :
    ∃ p, g.scene.poolAt place = some p ∧ p.closed = true := by
  cases h with
  | close g here =>
    refine ⟨_, poolAt_visit here _ _ _, ?_⟩
    rw [Pool.close_frame]
  | shutdown g here =>
    refine ⟨_, poolAt_visit here _ _ _, ?_⟩
    show (Pool.close _).1.closed = true
    rw [Pool.close_frame]
  | @submitter _ i b here finished =>
    refine ⟨b.pool, ?_, ((sound b (List.mem_of_getElem? here)).finished finished).1⟩
    show Option.map _ _ = _
    rw [here]
    rfl
  | @abandon g i b here pending =>
    have hcalls : g.scene.pendingCalls.contains b.call = true := by
      rw [List.contains_iff_mem, pendingCalls, List.mem_append, List.mem_map]
      exact .inr ⟨b, List.mem_filter.2 ⟨List.mem_of_getElem? here, pending⟩, rfl⟩
    have hbatches := (everywhere_const (Pool.withdraw b.call)
      (fun c => if c.pending && c.call == b.call then c.abandon else (c, [])) g.scene).2.1
    refine ⟨b.abandon.1.pool, ?_, ?_⟩
    · show (Scene.order _ _ _).1.batches[i]?.map _ = _
      rw [Scene.order, if_pos hcalls, Scene.abandon, hbatches, List.getElem?_map, here]
      simp [pending]
    · show b.pool.close.1.closed = true
      rw [Pool.close_frame]
  | before here closed => exact ⟨_, here, closed⟩

/-! ## What holds from then on -/

/-- What holds of a pool that was closed as `p` after the history `before`, when it has become `q`
after some more. -/
structure ClosedFor (place : Place) (p q : Pool α) (before after : History α) (g : Stage α) :
    Prop where
  here : g.scene.poolAt place = some q
  closed : q.closed = true
  /-- No submission is admitted. -/
  admission : collect admitted? (trailAt place after) = []
  /-- Whatever is started, before or after, had been admitted before, and is started in the order of
  the admissions. -/
  started : collect started? (trailAt place (before ++ after)) <+:
    Trail.admitted (trailAt place before)
  /-- Whoever waited or came later still waits, or was refused and told so, or gave up; the tasks of
  the latter two were discarded. -/
  late : ∃ turned : List (Submission α),
    (q.submitting ++ turned ++ collect retracted? (trailAt place after)).Perm
      (p.submitting ++ collect asked? (trailAt place after)) ∧
    (∀ s ∈ turned, ∀ call, s.caller = some call →
      ∃ o ∈ trailAt place after, o.TellsRefusal call) ∧
    ((turned ++ collect retracted? (trailAt place after)).map (·.task)).Subperm
      (collect discarded? (trailAt place after))
  /-- The task of such a submission never starts. -/
  never : (before ++ after).Named →
    ∀ s ∈ p.submitting ++ collect asked? (trailAt place after),
      s.task.id ∉ (collect started? (trail (before ++ after))).map Task.id
  /-- It is discarded exactly once, when it no longer waits. -/
  once : (before ++ after).Named →
    ∀ s ∈ p.submitting ++ collect asked? (trailAt place after),
      (s ∈ q.submitting → s.task.id ∉ (collect discarded? (trail (before ++ after))).map Task.id) ∧
      (s ∉ q.submitting →
        ((collect discarded? (trail (before ++ after))).map Task.id).count s.task.id = 1)
  /-- What was admitted before is in the queue, runs or has ended, as long as the pool is neither
  cancelled nor deserted. -/
  kept : q.cancelled = false → q.deserted = false → (Trail.admitted (trailAt place before)).Perm
    (q.queue ++ q.underway ++ collect ended? (trailAt place (before ++ after)))
  /-- So none of it is discarded. -/
  unharmed : (before ++ after).Named → q.cancelled = false → q.deserted = false →
    ∀ t ∈ Trail.admitted (trailAt place before), t ∉ collect discarded? (trail (before ++ after))
  /-- When all workers have exited, all of it has come to its end. -/
  complete : q.cancelled = false → q.deserted = false → q.workers = 0 →
    (Trail.admitted (trailAt place before)).Perm
      (collect ended? (trailAt place (before ++ after)))
  /-- No worker exits while somebody waits, unless the pool is cancelled. -/
  staffed : q.submitting ≠ [] → q.cancelled = false → q.workers = q.size
  /-- Whoever waits faces a full queue. -/
  full : g.Settled → q.submitting ≠ [] → q.queue.length = q.capacity
  /-- Once there has been room in the queue, all are refused or have given up. -/
  released : p.queue.length < p.capacity → g.Settled → q.submitting = []

/-- Nobody waits to submit to the pool of a batch that is closed. -/
lemma line_of_closed_batch (sound : ∀ b ∈ g.scene.batches, b.Sound) {i : Nat} {p : Pool α}
    (here : g.scene.poolAt (.batch i) = some p) (closed : p.closed = true) : p.submitting = [] := by
  obtain ⟨b, hb, rfl⟩ := Option.map_eq_some_iff.1 here
  have hsound := sound b (List.mem_of_getElem? hb)
  obtain ⟨panicked, hfinished⟩ := hsound.closed closed
  exact hsound.line.resolve_left (by simp [hfinished])

/-- The accounts of the line of a closed pool, at any place. -/
lemma Steps.line_of_closed (after : Steps g h g') (sound : ∀ b ∈ g.scene.batches, b.Sound)
    {p q : Pool α} (here : g.scene.poolAt place = some p) (there : g'.scene.poolAt place = some q)
    (closed : p.closed = true) (closed' : q.closed = true) : ∃ turned : List (Submission α),
      (q.submitting ++ turned ++ collect retracted? (trailAt place h)).Perm
        (p.submitting ++ collect asked? (trailAt place h)) ∧
      (∀ s ∈ turned, ∀ call, s.caller = some call →
        ∃ o ∈ trailAt place h, o.TellsRefusal call) ∧
      ((turned ++ collect retracted? (trailAt place h)).map (·.task)).Subperm
        (collect discarded? (trailAt place h)) := by
  have hchanges := after.changes sound
  cases place with
  | pool i =>
    obtain ⟨q', hq', hsteps⟩ := hchanges.pool here
    have hq : q' = q := Option.some.inj (hq'.symm.trans there)
    subst hq
    obtain ⟨turned, hline, hrefused, hdiscarded⟩ := Pool.Steps.line_of_closed hsteps closed
    refine ⟨turned, hline, fun s hs call hcall => ?_, hdiscarded⟩
    have hmem : some call ∈ collect refused? (trailAt (.pool i) h) := by
      rw [← hrefused, ← hcall]
      exact List.mem_map_of_mem hs
    obtain ⟨o, ho, hrefusal⟩ := mem_collect.1 hmem
    exact ⟨o, ho, tellsRefusal hrefusal⟩
  | batch i =>
    -- nobody waits at a batch whose submitter has ended, and nobody comes
    obtain ⟨b, hb, -⟩ := Option.map_eq_some_iff.1 here
    obtain ⟨c, es, -, htrail, -⟩ := hchanges.batch hb
    have hasked : collect asked? (trailAt (.batch i) h) = [] := by
      rw [htrail]
      exact collect_map_event asked? (fun _ => rfl) es
    have hretracted : collect retracted? (trailAt (.batch i) h) = [] := by
      rw [htrail]
      exact collect_map_event retracted? (fun _ => rfl) es
    have hp := line_of_closed_batch sound here closed
    have hq := line_of_closed_batch (hchanges.sound sound) there closed'
    refine ⟨[], ?_, by simp, ?_⟩
    · rw [hasked, hretracted, hp, hq]
      exact .nil
    · rw [hretracted]
      exact List.nil_subperm

/-- The task of whoever waits at a pool is in hand. -/
lemma mem_inHand_of_submitting (sound : ∀ b ∈ g.scene.batches, b.Sound) {q : Pool α}
    (there : g.scene.poolAt place = some q) (closed : q.closed = true) {s : Submission α}
    (hs : s ∈ q.submitting) : s.task ∈ g.scene.inHand := by
  cases place with
  | pool i =>
    rw [Scene.inHand, List.mem_append, List.mem_flatMap]
    exact .inl ⟨q, List.mem_of_getElem? there, List.mem_map_of_mem hs⟩
  | batch i =>
    rw [line_of_closed_batch sound there closed] at hs
    cases hs

/-- Whoever waited at a closed pool, or came later, and waits no longer has had the task
discarded. -/
lemma Steps.discarded_of_closed (after : Steps g h g') (sound : ∀ b ∈ g.scene.batches, b.Sound)
    {p q : Pool α} (here : g.scene.poolAt place = some p) (there : g'.scene.poolAt place = some q)
    (closed : p.closed = true) (closed' : q.closed = true) {s : Submission α}
    (hs : s ∈ p.submitting ++ collect asked? (trailAt place h)) (gone : s ∉ q.submitting) :
    s.task ∈ collect discarded? (trail h) := by
  obtain ⟨turned, hline, -, hdiscarded⟩ :=
    after.line_of_closed sound here there closed closed'
  have hmem := hline.symm.subset hs
  rw [List.append_assoc, List.mem_append] at hmem
  have htask := hdiscarded.subset (List.mem_map_of_mem (hmem.resolve_left gone))
  exact ((trailAt_sublist place h).filterMap discarded?).subset htask

/-- When nothing can move, whoever waits to submit faces a full queue. -/
lemma Steps.full_of_waiting (run : Steps {} h g) (settled : g.Settled) {q : Pool α}
    (there : g.scene.poolAt place = some q) (waiting : q.submitting ≠ []) :
    q.queue.length = q.capacity :=
  ((settled.resting there).full_of_submitting (run.pool_sound there) waiting).1

/-- **Nothing is admitted to a pool once it has been closed.** Submissions that wait then, or come
later, are refused or given up, without ever being started; what was admitted before is not
affected; and those that wait keep the workers there until there is room to refuse them.

**Proof sketch.** A closed pool stays closed, and no step of a closed pool admits anything or makes
its queue longer. The rest are the accounts of the whole run, which now know of no admission after
the close; that no worker exits while somebody waits is an invariant of every pool. -/
theorem Steps.closed_for_good {g₁ g₂ : Stage α} {h₁ h₂ : History α} (before : Steps {} h₁ g₁)
    (closed : g₁.Closed place) (after : Steps g₁ h₂ g₂) :
    ∃ p q, g₁.scene.poolAt place = some p ∧ ClosedFor place p q h₁ h₂ g₂ := by
  have sound : ∀ b ∈ g₁.scene.batches, b.Sound := before.batches_sound
  obtain ⟨p, here, hp⟩ := closed.closed sound
  obtain ⟨q, os, there, hsteps, hos⟩ := (after.changes sound).at_place here
  have hq : q.closed = true := Pool.Steps.closed_mono hsteps hp
  obtain ⟨hnone, hlength⟩ := Pool.Steps.of_closed hsteps hp
  have run : Steps {} (h₁ ++ h₂) g₂ := before.trans after
  have hsound : q.Sound := run.pool_sound there
  have hadmitted : collect admitted? (trailAt place h₂) = [] := by
    rw [← (collect_congr hos).1, hnone]
  have hbefore : Trail.admitted (trailAt place (h₁ ++ h₂)) =
      Trail.admitted (trailAt place h₁) := by
    rw [trailAt_append, admitted_append, Trail.admitted, Trail.admitted, hadmitted, List.map_nil,
      List.append_nil]
  have kept : q.cancelled = false → q.deserted = false →
      (Trail.admitted (trailAt place h₁)).Perm
        (q.queue ++ q.underway ++ collect ended? (trailAt place (h₁ ++ h₂))) := by
    intro hc hd
    rw [← hbefore]
    exact run.admitted_perm there hc hd
  have late := after.line_of_closed sound here there hp hq
  have gone : ∀ s ∈ p.submitting ++ collect asked? (trailAt place h₂), s ∉ q.submitting →
      s.task ∈ collect discarded? (trail (h₁ ++ h₂)) := by
    intro s hs hnot
    rw [trail_append, collect_append, List.mem_append]
    exact .inr (after.discarded_of_closed sound here there hp hq hs hnot)
  have hinHand : ∀ s ∈ q.submitting, s.task ∈ g₂.scene.inHand := fun s hs =>
    mem_inHand_of_submitting run.batches_sound there hq hs
  refine ⟨p, q, here, there, hq, hadmitted, ?_, late, ?_, ?_, kept, ?_, ?_, ?_, ?_, ?_⟩
  · rw [← hbefore]
    exact run.started_prefix there
  · intro named s hs
    by_cases hw : s ∈ q.submitting
    · exact (run.inHand_fresh named (hinHand s hw)).1
    · exact (run.discarded_once named (gone s hs hw)).1
  · intro named s hs
    constructor
    · intro hw
      exact (run.inHand_fresh named (hinHand s hw)).2
    · intro hw
      exact (run.discarded_once named (gone s hs hw)).2
  · intro named hc hd t ht
    exact run.not_discarded named there hc hd (hbefore.symm ▸ ht)
  · intro hc hd hw
    have hkept := kept hc hd
    rw [hsound.queue_of_gone hw, Pool.underway_eq_nil hw] at hkept
    exact hkept
  · exact hsound.staffed
  · intro settled hs
    exact run.full_of_waiting settled there hs
  · intro room settled
    by_contra hs
    have hfull := run.full_of_waiting settled there hs
    have hcapacity : q.capacity = p.capacity := by
      rw [Pool.capacity, Pool.Steps.size_eq hsteps, Pool.capacity]
    omega

/-- The short run: the call that waits at the close is refused when there is room, and so is one
that comes later. -/
theorem closed_for_good_short :
    Steps {} shortHistory shortStage ∧ shortStage.Closed (.pool 0) ∧
      Steps shortStage lateHistory lateStage ∧ lateStage.Settled ∧
        ∃ p q, shortStage.scene.poolAt (.pool 0) = some p ∧
          ClosedFor (.pool 0) p q shortHistory lateHistory lateStage :=
  ⟨shortRun, .before rfl rfl, lateRun, lateStage_settled,
    Steps.closed_for_good shortRun (.before rfl rfl) lateRun⟩

end Stage

end Workforce
