import Workforce.Proofs.Batch.Orderly
import Workforce.Proofs.Batch.Turn
import Workforce.Proofs.Pool.Cancelled
/-!
# What a batch answers

The submitter and the collector of a batch have no numbers, so that the only call that a batch
answers is the one that runs it. A batch that has been given up does not even answer that, and
starts no task.

## Main definitions

* `Workforce.Event.Internal` — the event answers no call but one that runs a batch.
* `Workforce.Event.Silent` — it answers no call at all.
* `Workforce.Pool.Anonymous` — nobody who waits at the pool has a number.

## Main results

* `Workforce.Batch.anonymous_settle`, `Batch.anonymous_apply` — in the pool of a batch it stays so,
  and all events are internal.
* `Workforce.Batch.settle_abandon` — what follows when a batch is given up.
-/

namespace Workforce

open Occurrence Trail

variable {α : Type}

/-! ## Internal events -/

/-- The event answers no call but one that runs a batch. -/
def Event.Internal (e : Event α) : Prop := e.answer? = answered? (event e)

/-- The event answers no call at all. -/
structure Event.Silent (e : Event α) : Prop where
  answer : e.answer? = none
  answered : answered? (event e) = none

/-- Then it answers none that does not run a batch. -/
lemma Event.Silent.internal {e : Event α} (h : e.Silent) : e.Internal :=
  h.answer.trans h.answered.symm

/-- Internal events answer the calls that they are about. -/
lemma answers_of_internal {es : List (Event α)} (h : ∀ e ∈ es, e.Internal) :
    es.filterMap Event.answer? = (gist es).answered := by
  have hcongr : es.filterMap Event.answer? = es.filterMap (answered? ∘ event) :=
    List.filterMap_congr h
  rw [hcongr, ← List.filterMap_map]
  rfl

/-- Silent events answer nothing. -/
lemma answered_of_silent {es : List (Event α)} (h : ∀ e ∈ es, e.Silent) :
    (gist es).answered = [] := by
  rw [← answers_of_internal fun e he => (h e he).internal, List.filterMap_eq_nil_iff]
  exact fun e he => (h e he).answer

/-- Discards answer nothing. -/
lemma silent_discards (ts : List (Task α)) : ∀ e ∈ ts.map Event.discarded, e.Silent := by
  intro e he
  obtain ⟨t, -, rfl⟩ := List.mem_map.1 he
  exact ⟨rfl, rfl⟩

/-! ## Pools -/

namespace Pool

variable {p q : Pool α} {es : List (Event α)}

/-- Nobody who waits at the pool has a number. -/
structure Anonymous (p : Pool α) : Prop where
  submitting : ∀ s ∈ p.submitting, s.caller = none
  receiving : ∀ r ∈ p.receiving, r.caller = none

/-- The exit of a worker answers nothing. -/
lemma silent_retire (m : Moment) {reason : List (Event α)} (hreason : ∀ e ∈ reason, e.Silent)
    (p : Pool α) : ∀ e ∈ (p.retire m reason).2, e.Silent :=
  forall_mem_retire m p hreason (fun _ _ => ⟨rfl, rfl⟩) ⟨rfl, rfl⟩ ⟨rfl, rfl⟩ ⟨rfl, rfl⟩

/-- Neither does closing a pool. -/
lemma silent_close (p : Pool α) : ∀ e ∈ p.close.2, e.Silent := by
  unfold close
  split
  · simp
  · exact fun e he => List.mem_singleton.1 he ▸ ⟨rfl, rfl⟩

namespace Anonymous

/-- An exit of a worker. -/
lemma retire (hp : p.Anonymous) (m : Moment) {reason : List (Event α)}
    (hreason : ∀ e ∈ reason, e.Silent) :
    (p.retire m reason).1.Anonymous ∧ ∀ e ∈ (p.retire m reason).2, e.Silent :=
  ⟨⟨by simpa using hp.submitting, by simpa using hp.receiving⟩, silent_retire m hreason p⟩

/-- It stays so in every move, and the move answers nothing. -/
lemma perform? (hp : p.Anonymous) {m : Moment} {k : Move} (h : p.perform? m k = some (q, es)) :
    q.Anonymous ∧ ∀ e ∈ es, e.Silent := by
  obtain ⟨hsubmitting, hreceiving⟩ := hp
  have single : ∀ e : Event α, e.Silent → ∀ f ∈ [e], f.Silent := fun e he f hf =>
    List.mem_singleton.1 hf ▸ he
  cases k with
  | take =>
    obtain ⟨n, t, rest, -, -, -, heq⟩ := take?_eq_some_iff.1 h
    cases heq
    exact ⟨⟨hsubmitting, hreceiving⟩, single _ ⟨rfl, rfl⟩⟩
  | leave =>
    obtain ⟨n, -, -, heq⟩ := leave?_eq_some_iff.1 h
    have hidle : ({ p with idle := n } : Pool α).Anonymous := ⟨hsubmitting, hreceiving⟩
    have hfarewell : ∀ e ∈ p.farewell, e.Silent := forall_mem_farewell ⟨rfl, rfl⟩
    have hexit := hidle.retire m hfarewell
    rwa [heq] at hexit
  | enter =>
    obtain ⟨s, rest, hs, hwhat⟩ := enter?_eq_some_iff.1 h
    rw [hs] at hsubmitting
    have hcaller : s.caller = none := hsubmitting s List.mem_cons_self
    have hrest : ∀ s ∈ rest, s.caller = none := fun s hs => hsubmitting s
      (List.mem_cons_of_mem _ hs)
    rcases hwhat with ⟨-, heq⟩ | ⟨-, -, -, heq⟩ <;> cases heq
    · refine ⟨⟨hrest, hreceiving⟩, fun e he => ?_⟩
      rcases List.mem_cons.1 he with rfl | he
      · exact ⟨rfl, rfl⟩
      · exact List.mem_singleton.1 he ▸ ⟨by simp [Event.answer?, hcaller], rfl⟩
    · exact ⟨⟨hrest, hreceiving⟩, single _ ⟨by simp [Event.answer?, hcaller], rfl⟩⟩
  | publish =>
    obtain ⟨output, rest, -, hwhat⟩ := publish?_eq_some_iff.1 h
    rcases hwhat with ⟨-, heq⟩ | ⟨-, -, heq⟩
    · have hline : ({ p with publishing := rest } : Pool α).Anonymous := ⟨hsubmitting, hreceiving⟩
      have hexit := hline.retire m (single .receiverGone ⟨rfl, rfl⟩)
      rwa [heq] at hexit
    · cases heq
      exact ⟨⟨hsubmitting, hreceiving⟩, single _ ⟨rfl, rfl⟩⟩
  | deliver =>
    obtain ⟨r, rest, hr, hwhat⟩ := deliver?_eq_some_iff.1 h
    rw [hr] at hreceiving
    have hcaller : r.caller = none := hreceiving r List.mem_cons_self
    have hrest : ∀ r ∈ rest, r.caller = none := fun s hs => hreceiving s
      (List.mem_cons_of_mem _ hs)
    rcases hwhat with ⟨output, outputs, -, heq⟩ | ⟨-, -, heq⟩ <;> cases heq
    · refine ⟨⟨hsubmitting, fun s hs => ?_⟩, single _ ?_⟩
      · dsimp only at hs
        split at hs
        · rcases List.mem_append.1 hs with hs | hs
          · exact hrest s hs
          · exact List.mem_singleton.1 hs ▸ hcaller
        · exact hrest s hs
      · exact ⟨by cases r.drains <;> simp [Event.answer?, hcaller], rfl⟩
    · exact ⟨⟨hsubmitting, hrest⟩, single _ ⟨by simp [Event.answer?, hcaller], rfl⟩⟩

/-- It stays so when a task ends. -/
lemma finish (hp : p.Anonymous) (id : TaskId) :
    (p.finish id).1.Anonymous ∧ ∀ e ∈ (p.finish id).2, e.Silent := by
  unfold Pool.finish finish?
  cases p.running.find? (·.task.id == id) with
  | none => exact ⟨hp, by simp⟩
  | some r =>
    dsimp only
    split
    · refine ⟨⟨hp.submitting, hp.receiving⟩, fun e he => ?_⟩
      exact List.mem_singleton.1 he ▸ ⟨rfl, rfl⟩
    · refine ⟨⟨hp.submitting, hp.receiving⟩, fun e he => ?_⟩
      rcases List.mem_cons.1 he with rfl | he
      · exact ⟨rfl, rfl⟩
      · exact List.mem_singleton.1 he ▸ ⟨rfl, rfl⟩

end Anonymous

end Pool

/-! ## Batches -/

namespace Batch

variable {b c : Batch α} {es : List (Event α)}

/-- When the submitter ends, nobody comes to wait. -/
lemma anonymous_endSubmitter (hb : b.pool.Anonymous) (m : Moment) (panicked : Bool) :
    (b.endSubmitter m panicked).1.pool.Anonymous ∧
      ∀ e ∈ (b.endSubmitter m panicked).2, e.Silent := by
  refine ⟨?_, List.forall_mem_append.2 ⟨silent_discards _, Pool.silent_close _⟩⟩
  show b.pool.close.1.Anonymous
  unfold Pool.close
  split
  · exact hb
  · exact ⟨hb.submitting, hb.receiving⟩

/-- The same when it stops with a task in its hands. -/
lemma anonymous_halt (hb : b.pool.Anonymous) (m : Moment) (t : Task α) {reason : Event α}
    (hreason : reason.Silent) :
    (b.halt m t reason).1.pool.Anonymous ∧ ∀ e ∈ (b.halt m t reason).2, e.Silent := by
  obtain ⟨hpool, hevents⟩ := anonymous_endSubmitter hb m (m.breaks t)
  refine ⟨hpool, fun e he => ?_⟩
  simp only [halt] at he
  rcases List.mem_cons.1 he with rfl | he
  · exact ⟨rfl, rfl⟩
  · split at he
    · exact hevents e he
    · rcases List.mem_cons.1 he with rfl | he
      · exact hreason
      · exact hevents e he

/-- The move of the submitter answers nothing. -/
lemma anonymous_feed? (hb : b.pool.Anonymous) {m : Moment} (h : b.feed? m = some (c, es)) :
    c.pool.Anonymous ∧ ∀ e ∈ es, e.Silent := by
  have hidle : ({ b.pool with submitting := [] } : Pool α).Anonymous := ⟨by simp, hb.receiving⟩
  cases feed?_eq_some_iff.1 h with
  | refused => exact anonymous_endSubmitter hb m _
  | done => exact anonymous_endSubmitter hb m _
  | back active line why =>
    refine anonymous_halt (b := { b with pool := { b.pool with submitting := [] } }) hidle m _ ?_
    rcases why with ⟨-, rfl⟩ | ⟨-, -, rfl⟩ <;> exact ⟨rfl, rfl⟩
  | due =>
    obtain ⟨hpool, hevents⟩ := anonymous_endSubmitter hb m false
    exact ⟨hpool, fun e he => (List.mem_cons.1 he).elim (fun he => he ▸ ⟨rfl, rfl⟩) (hevents e)⟩
  | @stopped t rest =>
    exact anonymous_halt (b := { b with remaining := rest }) hb m t ⟨rfl, rfl⟩
  | @submit t rest active line =>
    rw [pool_observeAll]
    unfold Pool.submit
    split
    · refine ⟨hb, fun e he => ?_⟩
      rcases List.mem_cons.1 he with rfl | he
      · exact ⟨rfl, rfl⟩
      · exact List.mem_singleton.1 he ▸ ⟨rfl, rfl⟩
    · refine ⟨⟨fun s hs => ?_, hb.receiving⟩, by simp⟩
      rw [line] at hs
      exact List.mem_singleton.1 hs ▸ rfl

/-- **The moves of a batch answer no call but its own.** -/
theorem anonymous_perform? (hb : b.pool.Anonymous) {m : Moment} {k : Move}
    (h : b.perform? m k = some (c, es)) : c.pool.Anonymous ∧ ∀ e ∈ es, e.Internal := by
  cases k with
  | pool k =>
    obtain ⟨q, hq, rfl⟩ := performPool?_eq_some_iff.1 h
    exact (hb.perform? hq).imp_right fun hevents e he => (hevents e he).internal
  | feed => exact (anonymous_feed? hb h).imp_right fun hevents e he => (hevents e he).internal
  | conclude =>
    obtain ⟨panicked, -, -, -, heq⟩ := conclude?_eq_some_iff.1 h
    cases heq
    refine ⟨⟨hb.submitting, hb.receiving⟩, ?_⟩
    cases panicked <;> simp [Event.Internal, Event.answer?, answered?]

/-- Neither does a batch that settles. -/
theorem anonymous_settle (hb : b.pool.Anonymous) (m : Moment) :
    (b.settle m).1.pool.Anonymous ∧ ∀ e ∈ (b.settle m).2, e.Internal := by
  fun_induction Batch.settle m b with
  | case1 m b h => exact ⟨hb, by simp⟩
  | case2 m b c es h d fs hr ih =>
    obtain ⟨k, hk⟩ := exists_move_of_step? h
    obtain ⟨hpool, hevents⟩ := anonymous_perform? hb hk
    have hrest := ih hpool
    rw [hr] at hrest
    exact ⟨hrest.1, List.forall_mem_append.2 ⟨hevents, hrest.2⟩⟩

/-- Neither does what happens to it from outside, unless it is given up. -/
theorem anonymous_apply (hb : b.pool.Anonymous) (y : Turn) :
    (y.apply b).1.pool.Anonymous ∧ ∀ e ∈ (y.apply b).2, e.Internal := by
  cases y with
  | elsewhere => exact ⟨hb, by simp [Turn.apply]⟩
  | wait time => exact ⟨hb, by simp [Turn.apply]⟩
  | follow => exact ⟨⟨hb.submitting, hb.receiving⟩, by simp [Turn.apply]⟩
  | finish name =>
    exact (hb.finish name).imp_right fun hevents e he => (hevents e he).internal

/-! ## Batches that are given up -/

namespace GivenUp

/-- Nobody waits at its pool. -/
lemma anonymous (hb : b.GivenUp) : b.pool.Anonymous := by
  have hgone := hb.deserted
  simp only [Pool.deserted, Bool.and_eq_true, List.isEmpty_iff] at hgone
  exact ⟨by simp [hgone.1.2], by simp [hgone.2]⟩

/-- If its pool is cancelled, its moves start no task and answer no call. -/
lemma silent_perform? (hb : b.GivenUp) (hcancelled : b.pool.cancelled = true) {m : Moment}
    {k : Move} (h : b.perform? m k = some (c, es)) :
    c.pool.cancelled = true ∧ (gist es).started = [] ∧ ∀ e ∈ es, e.Silent := by
  obtain ⟨l, q, -, hq, rfl⟩ := hb.exists_of_perform? h
  obtain ⟨-, hflag, -, -⟩ := Pool.flags_of_perform? hq
  have hsteps : Pool.Steps b.pool (es.map event) q := .single (.of_perform? hq)
  refine ⟨?_, Pool.Steps.started_of_cancelled hsteps hcancelled, (hb.anonymous.perform? hq).2⟩
  rw [pool_observeAll]
  exact hflag.trans hcancelled

/-- Neither does what follows. -/
lemma silent_settle (hb : b.GivenUp) (hcancelled : b.pool.cancelled = true) (m : Moment) :
    (gist (b.settle m).2).started = [] ∧ ∀ e ∈ (b.settle m).2, e.Silent := by
  fun_induction Batch.settle m b with
  | case1 m b h => exact ⟨rfl, by simp⟩
  | case2 m b c es h d fs hr ih =>
    obtain ⟨k, hk⟩ := exists_move_of_step? h
    obtain ⟨hcancelled', hstarted, hsilent⟩ := hb.silent_perform? hcancelled hk
    obtain ⟨hstarted', hsilent'⟩ := ih (hb.of_perform? hk) hcancelled'
    rw [hr] at hstarted' hsilent'
    refine ⟨?_, List.forall_mem_append.2 ⟨hsilent, hsilent'⟩⟩
    rw [gist_append, Gist.started_append, hstarted, hstarted', List.append_nil]

end GivenUp

/-- **A batch that is given up starts no task and answers no call from then on**, and its call is
not pending any more. -/
theorem settle_abandon (b : Batch α) (m : Moment) :
    (b.abandon.1.settle m).1.pending = false ∧
      (gist (b.abandon.2 ++ (b.abandon.1.settle m).2)).started = [] ∧
      ∀ e ∈ b.abandon.2 ++ (b.abandon.1.settle m).2, e.Silent := by
  have hgiven : b.abandon.1.GivenUp := ⟨⟨_, rfl⟩, by simp [abandon, Pool.deserted]⟩
  obtain ⟨hstarted, hsilent⟩ := hgiven.silent_settle rfl m
  refine ⟨?_, ?_, List.forall_mem_append.2 ⟨?_, hsilent⟩⟩
  · by_contra hpending
    have hheld := (lowers_settle m b.abandon.1).pending (by simpa using hpending)
    exact absurd hheld (by simp [pending, abandon])
  · have hnone : (gist b.abandon.2).started = [] := (collect_congr essence_abandon).2.1
    rw [gist_append, Gist.started_append, hnone, hstarted, List.append_nil]
  · rw [abandon_snd]
    intro e he
    rcases List.mem_cons.1 he with rfl | he
    · exact ⟨rfl, rfl⟩
    · refine List.forall_mem_append.2 ⟨List.forall_mem_append.2 ⟨Pool.silent_close _, ?_⟩,
        silent_discards _⟩ e he
      exact List.forall_mem_singleton.2 ⟨rfl, rfl⟩

end Batch

end Workforce
