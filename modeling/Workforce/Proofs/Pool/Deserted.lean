import Workforce.Proofs.Exits
import Workforce.Proofs.Pool.Orderly
/-!
# Deserted pools

A worker learns that its pool is deserted only when it wants to publish. A worker whose task panics
has nothing to publish and goes on to the next task. How far this can go is measured by the *spare*
workers, those that are idle while there is a task for them: each start uses one up, and only a
panic makes a new one.

## Main definitions

* `Workforce.Trail.panics` — the tasks that have panicked.
* `Workforce.Pool.takers` — how many tasks idle workers may take at once.
* `Workforce.Pool.Dwindles` — what can still happen in a deserted pool.
* `Workforce.Pool.Passes` — the states that a pool passes through as it settles.
* `Workforce.Pool.Clears` — what follows as a deserted pool without a spare worker settles.
* `Workforce.Pool.Backed` — calls wait at a pool that nobody holds only behind a long queue.
* `Workforce.Pool.Covered` — the invariant by which a pool has no spare worker when it becomes
  deserted.
* `Workforce.Pool.Ebbs` — what happens in a deserted pool from one action to the next.

## Main results

* `Workforce.Pool.Steps.dwindles` — a deserted pool starts no more tasks than panic, apart from
  those for which workers were spare.
* `Workforce.Pool.clears_settle` — as it settles, the idle and the publishing workers exit.
* `Workforce.Pool.Covered.takers_eq_zero` — a pool that becomes deserted as it settles has no
  spare worker then.
* `Workforce.Pool.Resting.ebbs_finish` — what it does when one of its tasks ends.
-/

namespace Workforce

open Occurrence Trail

variable {α : Type}

/-- The tasks that have panicked, in the order of their ends. -/
def Trail.panics (os : Trail α) : List (Task α) :=
  (collect ended? os).filter (·.outcome.output?.isNone)

@[simp] lemma Trail.panics_append (os ps : Trail α) :
    panics (os ++ ps) = panics os ++ panics ps := by
  simp [panics]

namespace Pool

variable {p q r : Pool α} {os ps : Trail α} {m m' : Moment} {es fs : List (Event α)}

/-- How many tasks idle workers may take at once. -/
def takers (p : Pool α) : Nat := if p.cancelled then 0 else min p.idle p.queue.length

/-- No worker is spare exactly if no idle worker has a task to take. -/
lemma takers_eq_zero_iff :
    p.takers = 0 ↔ p.cancelled = true ∨ p.idle = 0 ∨ p.queue = [] := by
  unfold takers
  split
  · simp [*]
  · simp [*]

/-! ## Steps of a deserted pool -/

/-- What can still happen in a deserted pool `p` until it is the pool `q`. -/
structure Dwindles (p : Pool α) (os : Trail α) (q : Pool α) : Prop where
  deserted : q.deserted = true
  /-- Nothing is admitted, published or received. -/
  admitted : collect admitted? os = []
  results : q.results = p.results
  cancelled : p.cancelled = true → q.cancelled = true
  /-- Each start uses up a spare worker, and only a panic makes a new one. -/
  starts : (collect started? os).length + q.takers ≤ (panics os).length + p.takers
  /-- A worker that has an output is on its way to its exit. -/
  exits : (outputs os).length + p.publishing.length ≤
    (collect exit? os).length + q.publishing.length

namespace Dwindles

lemma refl (hp : p.deserted = true) : Dwindles p [] p :=
  ⟨hp, rfl, rfl, id, by simp [panics], by simp [outputs]⟩

lemma trans (h : Dwindles p os q) (k : Dwindles q ps r) : Dwindles p (os ++ ps) r := by
  refine ⟨k.deserted, by rw [collect_append, h.admitted, k.admitted]; rfl,
    k.results.trans h.results, k.cancelled ∘ h.cancelled, ?_, ?_⟩
  · have := h.starts
    have := k.starts
    rw [collect_append, panics_append, List.length_append, List.length_append]
    omega
  · have := h.exits
    have := k.exits
    rw [collect_append, outputs_append, List.length_append, List.length_append]
    omega

/-- A step in which no worker goes on to something else. -/
lemma still (deserted : q.deserted = true) (results : q.results = p.results)
    (idle : q.idle = p.idle) (queue : q.queue = p.queue) (publishing : q.publishing = p.publishing)
    (cancelled : p.cancelled = true → q.cancelled = true) (admitted : collect admitted? os = [])
    (started : collect started? os = []) (ended : collect ended? os = []) : Dwindles p os q := by
  refine ⟨deserted, admitted, results, cancelled, ?_, ?_⟩
  · have hle : q.takers ≤ p.takers := by
      unfold takers
      rw [idle, queue]
      split
      · exact Nat.zero_le _
      · next hq =>
        exact Nat.le_of_eq (if_neg fun hp => hq (cancelled hp)).symm
    rw [started, List.length_nil, Nat.zero_add]
    exact Nat.le_trans hle (Nat.le_add_left _ _)
  · rw [outputs, ended, publishing]
    exact Nat.add_le_add (Nat.zero_le _) (Nat.le_refl _)

/-- A worker exits that was idle or wanted to publish. -/
lemma retire (m : Moment) {reason : List (Event α)}
    (hreason : ∀ e ∈ reason, e = .sawCancellation ∨ e = .receiverGone)
    (deserted : (r.retire m reason).1.deserted = true) (results : r.results = p.results)
    (queue : r.queue = p.queue) (cancelled : r.cancelled = p.cancelled) (idle : r.idle ≤ p.idle)
    (publishing : p.publishing.length ≤ r.publishing.length + 1) :
    Dwindles p ((r.retire m reason).2.map event) (r.retire m reason).1 := by
  have hstarted : collect started? ((r.retire m reason).2.map event) = [] := by
    rw [collect_retire_of_none m reason r rfl rfl rfl fun _ => rfl,
      collect_reason hreason started? rfl rfl]
  have hended : collect ended? ((r.retire m reason).2.map event) = [] := by
    rw [collect_retire_of_none m reason r rfl rfl rfl fun _ => rfl,
      collect_reason hreason ended? rfl rfl]
  have hadmitted : collect admitted? ((r.retire m reason).2.map event) = [] := by
    rw [collect_retire_of_none m reason r rfl rfl rfl fun _ => rfl,
      collect_reason hreason admitted? rfl rfl]
  refine ⟨deserted, hadmitted, by rw [results_retire, results], fun hp => by
    rw [cancelled_retire, cancelled, hp], ?_, ?_⟩
  · have hle : (r.retire m reason).1.takers ≤ p.takers := by
      have hlen : (r.retire m reason).1.queue.length ≤ p.queue.length := by
        rw [queue_retire, queue]
        split
        · exact Nat.zero_le _
        · exact Nat.le_refl _
      unfold takers
      rw [cancelled_retire, cancelled, idle_retire]
      split
      · exact Nat.le_refl 0
      · omega
    rw [hstarted, List.length_nil, Nat.zero_add]
    exact Nat.le_trans hle (Nat.le_add_left _ _)
  · rw [outputs, hended, (collect_exits_retire m reason r hreason).1, publishing_retire]
    simp only [List.filterMap_nil, List.length_nil, List.length_singleton]
    omega

end Dwindles

/-- The steps that are left to a deserted pool. -/
theorem Step.dwindles (h : Step p os q) (hp : p.deserted = true) : Dwindles p os q := by
  have hq := h.deserted_mono hp
  obtain ⟨hheld, hsub, hrec⟩ := deserted_iff.1 hp
  cases h with
  | @take n t rest now active idle queue =>
    refine ⟨hq, rfl, rfl, id, ?_, Nat.le_refl _⟩
    simp only [takers, active, idle, queue, collect_cons, started?, panics, ended?,
      Bool.false_eq_true, if_false, Option.toList, List.length_cons, collect_nil, List.append_nil,
      List.filter_nil, List.length_nil]
    omega
  | @stop n m idle cancelled =>
    exact .retire m (by simp) hq rfl rfl rfl (by simp [idle]) (Nat.le_succ _)
  | @leave n m idle queue isSealed =>
    exact .retire m (by simp) hq rfl rfl rfl (by simp [idle]) (Nat.le_succ _)
  | @lose output rest m publishing deserted =>
    exact .retire m (by simp) hq rfl rfl rfl (Nat.le_refl _) (by simp [publishing])
  | accept submitting | refuse _ submitting => simp [hsub] at submitting
  | publish publishing wanted => simp [hp] at wanted
  | deliver receiving | tell receiving => simp [hrec] at receiving
  | submit s held | receive r held => simp [hheld] at held
  | turnAway m s closed => exact .still hq rfl rfl rfl rfl id rfl rfl rfl
  | close | release => exact .still hq rfl rfl rfl rfl id rfl rfl rfl
  | cancel => exact .still hq rfl rfl rfl rfl (fun _ => rfl) rfl rfl rfl
  | follow =>
    exact .still hq rfl rfl rfl rfl (fun hc => by simp [parentCancelled, hc]) rfl rfl rfl
  | withdraw call =>
    exact .still hq rfl rfl rfl rfl id
      (collect_withdraw_of_none call p (fun _ => rfl) (fun _ => rfl) fun _ => rfl)
      (collect_withdraw_of_none call p (fun _ => rfl) (fun _ => rfl) fun _ => rfl)
      (collect_withdraw_of_none call p (fun _ => rfl) (fun _ => rfl) fun _ => rfl)
  | retract =>
    exact .still hq rfl rfl rfl rfl id
      (collect_retract_of_none p (fun _ => rfl) fun _ => rfl)
      (collect_retract_of_none p (fun _ => rfl) fun _ => rfl)
      (collect_retract_of_none p (fun _ => rfl) fun _ => rfl)
  | resign =>
    exact .still hq rfl rfl rfl rfl id (collect_map_none _ _ (fun _ => rfl) _)
      (collect_map_none _ _ (fun _ => rfl) _)
      (collect_map_none _ _ (fun _ => rfl) _)
  | @finish before after r output running outcome =>
    refine ⟨hq, rfl, rfl, id, Nat.le_trans ?_ (Nat.le_add_left ..), ?_⟩
    · simp [takers, started?]
    · simp [outputs, ended?, outcome]
      omega
  | @fail before after r running outcome =>
    refine ⟨hq, rfl, rfl, id, ?_, by simp [outputs, ended?, outcome]⟩
    simp only [takers, collect_cons, started?, panics, ended?, Option.toList, List.filter_cons,
      outcome, Option.isNone_none, if_true, List.length_cons, collect_nil, List.append_nil,
      List.filter_nil, List.length_nil]
    split <;> omega

/-- **A deserted pool starts no more tasks than panic**, apart from those for which workers were
spare. -/
theorem Steps.dwindles (h : Steps p os q) (hp : p.deserted = true) : Dwindles p os q := by
  induction h with
  | refl => exact .refl hp
  | tail _ last ih => exact ih.trans (last.dwindles ih.deserted)

/-! ## Settling -/

/-- As it settles, a pool passes through another state after some events. -/
inductive Passes : Moment → Pool α → List (Event α) → Moment → Pool α → Prop
  | here (m : Moment) (p : Pool α) : Passes m p [] m p
  | step {m m' : Moment} {p q r : Pool α} {es fs : List (Event α)}
      (first : p.step? m = some (q, es)) (rest : Passes (m.after es) q fs m' r) :
      Passes m p (es ++ fs) m' r

/-- From there it settles as before. -/
lemma Passes.settle (h : Passes m p es m' q) :
    p.settle m = ((q.settle m').1, es ++ (q.settle m').2) := by
  induction h with
  | here => rfl
  | step first rest ih => rw [settle_of_step? first, ih, List.append_assoc]

/-- What every step keeps holds of every state that a pool passes through. -/
lemma Passes.keeps {P : Pool α → Prop} (h : Passes m p es m' q) (hp : P p)
    (step : ∀ {m p q es}, P p → p.step? m = some (q, es) → P q) : P q := by
  induction h with
  | here => exact hp
  | step first rest ih => exact ih (step hp first)

/-- A pool that settles ends no task. -/
lemma ended_of_perform? {k : Move} (h : p.perform? m k = some (q, es)) :
    collect ended? (es.map event) = [] := by
  have hretire : ∀ (r : Pool α) (reason : List (Event α)),
      collect ended? (reason.map event) = [] →
      collect ended? ((r.retire m reason).2.map event) = [] := fun r reason hreason => by
    rw [collect_retire_of_none m reason r rfl rfl rfl fun _ => rfl, hreason]
  cases k with
  | take =>
    obtain ⟨n, t, rest, -, -, -, heq⟩ := take?_eq_some_iff.1 h
    cases heq
    rfl
  | leave =>
    obtain ⟨n, -, -, heq⟩ := leave?_eq_some_iff.1 h
    obtain ⟨-, rfl⟩ := Prod.ext_iff.1 heq
    refine hretire _ _ ?_
    unfold farewell
    split <;> rfl
  | enter =>
    obtain ⟨s, rest, -, ⟨-, heq⟩ | ⟨-, -, -, heq⟩⟩ := enter?_eq_some_iff.1 h <;> cases heq <;> rfl
  | publish =>
    obtain ⟨output, rest, -, ⟨-, heq⟩ | ⟨-, -, heq⟩⟩ := publish?_eq_some_iff.1 h
    · obtain ⟨-, rfl⟩ := Prod.ext_iff.1 heq
      exact hretire _ _ rfl
    · cases heq
      rfl
  | deliver =>
    obtain ⟨r, rest, -, ⟨output, outputs, -, heq⟩ | ⟨-, -, heq⟩⟩ := deliver?_eq_some_iff.1 h <;>
      cases heq <;> rfl

/-- Settling ends no task. -/
lemma ended_settle (m : Moment) (p : Pool α) : collect ended? ((p.settle m).2.map event) = [] := by
  fun_induction settle m p with
  | case1 => rfl
  | case2 m p q es h r fs hr ih =>
    obtain ⟨k, hk⟩ := exists_move_of_step? h
    rw [hr] at ih
    rw [List.map_append, collect_append, ended_of_perform? hk, ih, List.nil_append]

/-- A settled pool that is deserted has only workers that run a task. -/
lemma Resting.workers_of_deserted (h : p.Resting) (hp : p.deserted = true) :
    p.idle = 0 ∧ p.publishing = [] ∧ p.workers = p.running.length := by
  have hidle : p.idle = 0 := by
    rcases h.idle_cases with hidle | ⟨-, -, hsealed⟩
    · exact hidle
    · have := sealed_iff.2 ⟨(deserted_iff.1 hp).2.1, .inr hp⟩
      rw [hsealed] at this
      cases this
  have hpublishing : p.publishing = [] := h.publish.resolve_right fun hd => by
    rw [hp] at hd
    cases hd.1
  refine ⟨hidle, hpublishing, ?_⟩
  rw [workers, hidle, hpublishing, List.length_nil, Nat.zero_add, Nat.add_zero]

/-- What follows as a deserted pool without a spare worker settles. -/
structure Clears (p : Pool α) (es : List (Event α)) (q : Pool α) : Prop where
  /-- No task is started, and none comes to its end. -/
  started : collect started? (es.map event) = []
  running : q.underway.Perm p.underway
  /-- The workers that are idle or want to publish exit, each of them once. -/
  exits : (collect exit? (es.map event)).length = p.idle + p.publishing.length
  left : q.workers = q.running.length

/-- **The idle and the publishing workers of a deserted pool exit as it settles.** -/
theorem clears_settle (m : Moment) (hp : p.deserted = true) (hnone : p.takers = 0) :
    Clears p (p.settle m).2 (p.settle m).1 := by
  have hsteps := Steps.of_settle m p
  have hdwindles := hsteps.dwindles hp
  have hended := ended_settle m p
  have hstarted : collect started? ((p.settle m).2.map event) = [] := by
    have := hdwindles.starts
    rw [panics, hended, hnone] at this
    exact List.length_eq_zero_iff.1 (by simpa using Nat.le_trans (Nat.le_add_right _ _) this)
  obtain ⟨turned, dropped, hledger⟩ := hsteps.ledger
  have hwork := hledger.work
  rw [hended, hstarted, List.append_nil, List.append_nil] at hwork
  obtain ⟨-, -, hleft⟩ := (step?_eq_none_iff_resting.1 (step?_settle m p)).workers_of_deserted
    hdwindles.deserted
  refine ⟨hstarted, hwork, ?_, hleft⟩
  have hexits := Steps.exits hsteps
  have hlength := hwork.length_eq
  rw [underway, underway, List.length_map, List.length_map] at hlength
  rw [hleft, hlength, workers] at hexits
  omega

/-! ## The moment of the desertion -/

/-- As long as a call waits to submit to a pool that nobody holds, more tasks are queued than there
are idle workers, so that the workers are busy when the call is answered. -/
def Backed (p : Pool α) : Prop :=
  p.held = true ∨ p.submitting = [] ∨ p.cancelled = true ∨ p.idle = 0 ∨ p.idle < p.queue.length

/-- A pool that is backed, and has no spare worker if it is deserted. -/
structure Covered (p : Pool α) : Prop where
  backed : p.Backed
  spare : p.deserted = true → p.takers = 0

namespace Covered

/-- So is a pool that is held, -/
lemma of_held (h : p.held = true) : p.Covered :=
  ⟨.inl h, fun hd => by simp [(deserted_iff.1 hd).1] at h⟩

/-- one that is cancelled, -/
lemma of_cancelled (h : p.cancelled = true) : p.Covered :=
  ⟨.inr (.inr (.inl h)), fun _ => takers_eq_zero_iff.2 (.inl h)⟩

/-- one whose workers are busy, -/
lemma of_idle (h : p.idle = 0) : p.Covered :=
  ⟨.inr (.inr (.inr (.inl h))), fun _ => takers_eq_zero_iff.2 (.inr (.inl h))⟩

/-- one without a spare worker on which no call waits to submit, -/
lemma of_takers (hline : p.submitting = []) (hnone : p.takers = 0) : p.Covered :=
  ⟨.inr (.inl hline), fun _ => hnone⟩

/-- and one that is backed and not deserted. -/
lemma of_used (used : p.deserted = false)
    (h : p.submitting = [] ∨ p.idle = 0 ∨ p.idle < p.queue.length) : p.Covered :=
  ⟨.inr (h.imp_right .inr), fun hd => by simp [used] at hd⟩

end Covered

/-- A settled pool is covered. -/
lemma Resting.covered (h : p.Resting) (sound : p.Sound) : p.Covered := by
  by_cases hline : p.submitting = []
  · exact .of_takers hline (takers_eq_zero_iff.2 h.take)
  · exact .of_idle (h.full_of_submitting sound hline).2.2.1

/-- The move that is made is the first one that can be. -/
lemma step?_cases (h : p.step? m = some (q, es)) :
    p.take? m = some (q, es) ∨
    p.take? m = none ∧ (p.leave? m = some (q, es) ∨
    p.leave? m = none ∧ (p.enter? m = some (q, es) ∨
    p.enter? m = none ∧ (p.publish? m = some (q, es) ∨
    p.publish? m = none ∧ p.deliver? = some (q, es)))) := by
  simp only [step?, Move.all, perform?, List.findSome?_cons, List.findSome?_nil] at h
  split at h
  · next heq => exact .inl (heq.trans h)
  · next htake =>
    refine .inr ⟨htake, ?_⟩
    split at h
    · next heq => exact .inl (heq.trans h)
    · next hleave =>
      refine .inr ⟨hleave, ?_⟩
      split at h
      · next heq => exact .inl (heq.trans h)
      · next henter =>
        refine .inr ⟨henter, ?_⟩
        split at h
        · next heq => exact .inl (heq.trans h)
        · next hpublish =>
          refine .inr ⟨hpublish, ?_⟩
          split at h
          · next heq => exact heq.trans h
          · cases h

/-- As a covered pool settles it stays covered. -/
lemma Covered.step? (h : p.Covered) (move : p.step? m = some (q, es)) : q.Covered := by
  obtain ⟨k, hk⟩ := exists_move_of_step? move
  have hstep := Step.of_perform? hk
  by_cases hd : p.deserted = true
  · have hdwindles := hstep.dwindles hd
    have hnone := hdwindles.starts
    rw [panics, ended_of_perform? hk, h.spare hd] at hnone
    exact .of_takers (deserted_iff.1 hdwindles.deserted).2.1
      (Nat.le_zero.1 (Nat.le_trans (Nat.le_add_left _ _) hnone))
  by_cases hh : p.held = true
  · exact .of_held ((lowers_of_perform? hk).held.trans hh)
  by_cases hc : p.cancelled = true
  · exact .of_cancelled (hstep.cancelled_mono hc)
  -- otherwise a call waits on it
  have hbacked : p.submitting = [] ∨ p.idle = 0 ∨ p.idle < p.queue.length :=
    (h.backed.resolve_left hh).imp_right fun h => h.resolve_left hc
  have hused : q.submitting = p.submitting → q.receiving = p.receiving → q.deserted = false := by
    intro hsub hrec
    rw [← Bool.not_eq_true, deserted_iff, hsub, hrec, (lowers_of_perform? hk).held]
    exact fun hq => hd (deserted_iff.2 hq)
  rcases step?_cases move with htake | ⟨htake, hleave | ⟨hleave, henter | ⟨henter, hpublish |
    ⟨hpublish, hdeliver⟩⟩⟩⟩
  · -- a task leaves the queue with an idle worker
    obtain ⟨n, t, rest, -, hidle, hqueue, heq⟩ := take?_eq_some_iff.1 htake
    cases heq
    rw [hidle, hqueue, List.length_cons] at hbacked
    exact .of_used (hused rfl rfl) (hbacked.imp_right fun hb => .inr (by dsimp only; omega))
  · -- no call waits to submit when an idle worker exits
    obtain ⟨n, -, why, heq⟩ := leave?_eq_some_iff.1 hleave
    obtain ⟨-, hsealed⟩ := why.resolve_left hc
    obtain ⟨rfl, -⟩ := Prod.ext_iff.1 heq
    exact .of_used (hused (submitting_retire ..) (receiving_retire ..))
      (.inl ((submitting_retire ..).trans (sealed_iff.1 hsealed).1))
  · -- no worker is idle when a call to submit is answered
    obtain ⟨s, rest, hline, how⟩ := enter?_eq_some_iff.1 henter
    have hidle : p.idle = 0 := by
      rcases take?_eq_none_iff.1 htake with hcancel | hidle | hqueue
      · exact absurd hcancel hc
      · exact hidle
      · simpa [hline, hqueue] using hbacked
    rcases how with ⟨-, heq⟩ | ⟨-, -, -, heq⟩ <;> cases heq <;> exact .of_idle hidle
  · -- a worker becomes idle only behind a full queue, if a call waits to submit
    obtain ⟨output, rest, -, ⟨hdeserted, -⟩ | ⟨-, -, heq⟩⟩ := publish?_eq_some_iff.1 hpublish
    · exact absurd hdeserted hd
    cases heq
    refine .of_used (hused rfl rfl) ?_
    rcases enter?_eq_none_iff.1 henter with hline | ⟨-, hfull⟩
    · exact .inl hline
    · have hpos := p.size_pos
      rw [capacity] at hfull
      rcases take?_eq_none_iff.1 htake with hcancel | hidle | hqueue
      · exact absurd hcancel hc
      · exact .inr (.inr (by dsimp only; omega))
      · rw [hqueue, List.length_nil] at hfull
        omega
  · -- an output leaves the results
    have hnone : p.takers = 0 := takers_eq_zero_iff.2 (take?_eq_none_iff.1 htake)
    obtain ⟨r, rest, -, how⟩ := deliver?_eq_some_iff.1 hdeliver
    rcases how with ⟨output, outputs, -, heq⟩ | ⟨-, -, heq⟩ <;> cases heq <;>
      exact ⟨h.backed, fun _ => hnone⟩

/-- **A pool that becomes deserted has no spare worker then**, if it was covered. -/
theorem Covered.takers_eq_zero (h : p.Covered) (passes : Passes m p es m' q)
    (hq : q.deserted = true) : q.takers = 0 :=
  (passes.keeps h fun hr move => hr.step? move).spare hq

/-! ## One task ends -/

/-- What happens in a deserted pool that is settled, from one action to the next. -/
inductive Ebbs (now : Nat) (p : Pool α) : List (Event α) → Pool α → Prop
  /-- None of its tasks ends, and nothing happens, except that the pool may be cancelled. -/
  | calm (cancelled : Bool) (since : p.cancelled = true → cancelled = true) :
      Ebbs now p [] { p with cancelled := cancelled }
  /-- A task ends with an output. Its worker finds nobody left to receive it, and exits. -/
  | output {before after : List (Run α)} {r : Run α} {output : Option α} (m : Moment)
      (running : p.running = before ++ r :: after)
      (outcome : r.task.outcome.output? = some output) :
      Ebbs now p
        (.ended r.task :: ({ p with running := before ++ after }.retire m [.receiverGone]).2)
        ({ p with running := before ++ after }.retire m [.receiverGone]).1
  /-- A task panics. Its worker goes on to the next task, which it starts at once. -/
  | next {before after : List (Run α)} {r : Run α} {t : Task α} {rest : List (Task α)}
      (running : p.running = before ++ r :: after) (outcome : r.task.outcome.output? = none)
      (active : p.cancelled = false) (queue : p.queue = t :: rest) :
      Ebbs now p [.ended r.task, .taskFailed, .started t]
        { p with running := before ++ after ++ [Run.start now t], queue := rest }
  /-- A task panics, and there is no other one for its worker, which exits. -/
  | last {before after : List (Run α)} {r : Run α} (m : Moment)
      (running : p.running = before ++ r :: after) (outcome : r.task.outcome.output? = none)
      (why : p.cancelled = true ∨ p.queue = []) :
      Ebbs now p
        (.ended r.task :: .taskFailed ::
          ({ p with running := before ++ after }.retire m
            (if p.cancelled then [.sawCancellation] else [])).2)
        ({ p with running := before ++ after }.retire m
          (if p.cancelled then [.sawCancellation] else [])).1

/-- A pool rests if all its workers run tasks and no call waits on it. -/
lemma resting_of_busy (idle : p.idle = 0) (publishing : p.publishing = [])
    (submitting : p.submitting = []) (receiving : p.receiving = []) : p.Resting :=
  ⟨.inr (.inl idle), .inl idle, .inl submitting, .inl publishing, .inl receiving⟩

/-- A pool settles with the exit of its only worker that does not run a task. -/
lemma settle_of_retire {reason : List (Event α)} (idle : r.idle = 0)
    (publishing : r.publishing = []) (submitting : r.submitting = []) (receiving : r.receiving = [])
    (step : p.step? m = some (r.retire m reason)) : p.settle m = r.retire m reason := by
  have hrest : (r.retire m reason).1.Resting := resting_of_busy ((idle_retire ..).trans idle)
    ((publishing_retire ..).trans publishing) ((submitting_retire ..).trans submitting)
    ((receiving_retire ..).trans receiving)
  generalize r.retire m reason = x at step hrest
  rw [settle_of_step? step, settle_eq_self (step?_eq_none_iff_resting.2 hrest), List.append_nil]

/-- Nothing but a publisher can move in a deserted pool without idle workers. -/
lemma step?_of_lose (hp : p.deserted = true) (idle : p.idle = 0) {output : Option α}
    {rest : List (Option α)} (publishing : p.publishing = output :: rest) (m : Moment) :
    p.step? m = some (({ p with publishing := rest } : Pool α).retire m [.receiverGone]) := by
  have htake : p.take? m = none := take?_eq_none_iff.2 (.inr (.inl idle))
  have hleave : p.leave? m = none := leave?_eq_none_iff.2 (.inl idle)
  have henter : p.enter? m = none := enter?_eq_none_iff.2 (.inl (deserted_iff.1 hp).2.1)
  simp [step?, Move.all, perform?, htake, hleave, henter, publish?, publishing, hp]

/-- An idle worker of a deserted pool exits if it has no task to take. -/
lemma step?_of_leave (hp : p.deserted = true) {n : Nat} (idle : p.idle = n + 1)
    (why : p.cancelled = true ∨ p.queue = []) (m : Moment) :
    p.step? m = some (({ p with idle := n } : Pool α).retire m
      (if p.cancelled then [.sawCancellation] else [])) := by
  have htake : p.take? m = none := take?_eq_none_iff.2 (why.imp_right .inr)
  have hsealed : p.sealed = true := sealed_iff.2 ⟨(deserted_iff.1 hp).2.1, .inr hp⟩
  rcases why with hc | hq
  · simp [step?, Move.all, perform?, htake, leave?, idle, hc]
  · cases hc : p.cancelled <;>
      simp [step?, Move.all, perform?, htake, leave?, idle, hc, hq, hsealed]

/-- **What a deserted pool does when one of its tasks ends.** -/
theorem Resting.ebbs_finish (h : p.Resting) (hp : p.deserted = true) (name : TaskId) (m : Moment) :
    Ebbs m.now p ((p.finish name).2 ++ ((p.finish name).1.settle m).2)
      ((p.finish name).1.settle m).1 := by
  obtain ⟨-, hsub, hrec⟩ := deserted_iff.1 hp
  obtain ⟨hidle, hpublishing, -⟩ := h.workers_of_deserted hp
  cases hfind : p.running.find? (·.task.id == name) with
  | none =>
    have hfinish : p.finish name = (p, []) := by simp [finish, finish?, hfind]
    rw [hfinish, settle_eq_self (step?_eq_none_iff_resting.2 h)]
    exact .calm p.cancelled id
  | some r =>
    obtain ⟨before, after, hrun, herase⟩ := exists_of_find?_eq_some hfind
    -- the pool without the worker
    let base : Pool α := { p with running := before ++ after }
    cases houtcome : r.task.outcome.output? with
    | some output =>
      have hbase : ({ base with publishing := [] } : Pool α) = base := by
        show ({ base with publishing := [] } : Pool α) = { base with publishing := p.publishing }
        rw [hpublishing]
      have hfinish : p.finish name = ({ base with publishing := [output] }, [.ended r.task]) := by
        simp [finish, finish?, hfind, houtcome, herase, hpublishing, base]
      have hstep : ({ base with publishing := [output] } : Pool α).step? m =
          some (base.retire m [.receiverGone]) :=
        (step?_of_lose (p := { base with publishing := [output] }) hp hidle rfl m).trans
          (congrArg (fun r : Pool α => some (r.retire m [.receiverGone])) hbase)
      have hsettle := settle_of_retire (r := base) hidle hpublishing hsub hrec hstep
      simp only [hfinish, hsettle]
      exact .output m hrun houtcome
    | none =>
      have hbase : ({ base with idle := 0 } : Pool α) = base := by
        show ({ base with idle := 0 } : Pool α) = { base with idle := p.idle }
        rw [hidle]
      have hfinish : p.finish name = ({ base with idle := 1 }, [.ended r.task, .taskFailed]) := by
        simp [finish, finish?, hfind, houtcome, herase, hidle, base]
      rw [hfinish]
      by_cases hwhy : p.cancelled = true ∨ p.queue = []
      · have hstep : ({ base with idle := 1 } : Pool α).step? m =
            some (base.retire m (if p.cancelled then [.sawCancellation] else [])) :=
          (step?_of_leave (p := { base with idle := 1 }) hp rfl hwhy m).trans
            (congrArg (fun r : Pool α =>
              some (r.retire m (if p.cancelled then [.sawCancellation] else []))) hbase)
        rw [settle_of_retire (r := base) hidle hpublishing hsub hrec hstep]
        exact .last m hrun houtcome hwhy
      · rw [not_or, Bool.not_eq_true] at hwhy
        obtain ⟨t, rest, hqueue⟩ := List.exists_cons_of_ne_nil hwhy.2
        let done : Pool α :=
          { base with queue := rest, running := before ++ after ++ [Run.start m.now t] }
        have hdone : ({ done with idle := 0 } : Pool α) = done := by
          show ({ done with idle := 0 } : Pool α) = { done with idle := p.idle }
          rw [hidle]
        have hstep : ({ base with idle := 1 } : Pool α).step? m = some (done, [.started t]) := by
          rw [← hdone]
          simp [step?, Move.all, perform?, take?, base, done, hwhy.1, hqueue]
        have hrest : done.Resting := resting_of_busy hidle hpublishing hsub hrec
        rw [settle_of_step? hstep, settle_eq_self (step?_eq_none_iff_resting.2 hrest)]
        exact .next hrun houtcome hwhy.1 hqueue

end Pool

end Workforce
