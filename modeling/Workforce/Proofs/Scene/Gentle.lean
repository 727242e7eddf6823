import Workforce.Proofs.Scene.Orderly
/-!
# Moves when no discard panics

The discard of a frail task panics only once in a scene, so that the order of the moves decides
which of several discards it is. What depends on that is who is told of the panic: the answer to a
call, the count of the workers that a pool reports, and whether the stop of a submitter is noted.
Nothing else does. The same moves are enabled in the scene in which no discard panics, they start
and discard the same tasks there, and they answer the same calls.

## Main definitions

* `Workforce.Pool.gentle`, `Batch.gentle`, `Scene.gentle` — what is left of a state when it is
  forgotten that discards panic.
* `Workforce.Answer.Softens` — a call with its answer, and with the one it would get if no discard
  had panicked.
* `Workforce.Softens` — some events, and what would happen if no discard panicked.
* `Workforce.Fades` — the same, event by event.

## Main results

* `Workforce.Pool.perform?_gentle`, `Batch.perform?_gentle`, `Scene.moveAt?_gentle` — a move when no
  discard panics.
* `Workforce.Scene.play?_gentle` — moves in a given order when no discard panics.
* `Workforce.Scene.Orderly.gentle_unique` — in a scene that forgets panics all orders that end have
  the same outcome.
-/

namespace Workforce

open Occurrence Trail

variable {α : Type}

/-! ## Events -/

/-- The time alone: no discard panics. -/
def Moment.gentle (m : Moment) : Moment := { m with brittle := false }

/-- No discard panics. -/
@[simp] lemma Moment.breaks_gentle (m : Moment) (t : Task α) : m.gentle.breaks t = false := rfl

/-- Nor does one of several. -/
@[simp] lemma Moment.any_breaks_gentle (m : Moment) (ts : List (Task α)) :
    ts.any m.gentle.breaks = false :=
  List.any_eq_false.2 fun t _ => by simp

/-- An event of a pool when no discard panics. -/
def Event.gentle : Event α → Event α
  | refused caller _ => refused caller false
  | workerAborted => workerStopped
  | e => e

/-- Discards are as they were. -/
@[simp] lemma Event.map_gentle_discarded (ts : List (Task α)) :
    (ts.map discarded).map gentle = ts.map discarded := by
  rw [List.map_map]
  rfl

/-- A call with its answer, and with the answer it would get if no discard had panicked. -/
inductive Answer.Softens : Nat × Answer α → Nat × Answer α → Prop
  | same (x : Nat × Answer α) : Softens x x
  /-- A submission is refused. -/
  | refused (call : Nat) : Softens (call, .panicked) (call, .submitted false)
  /-- A batch is complete. -/
  | batch (call : Nat) (values : List α) :
      Softens (call, .batch (.error .discardPanic)) (call, .batch (.ok values))

/-- Some events, and what would happen if no discard panicked: the same tasks are started and
discarded, and the same calls are answered. -/
structure Softens (es fs : List (Event α)) : Prop where
  started : collect started? (es.map event) = collect started? (fs.map event)
  discarded : collect discarded? (es.map event) = collect discarded? (fs.map event)
  answered : List.Forall₂ Answer.Softens (es.filterMap Event.answer?)
    (fs.filterMap Event.answer?)

namespace Softens

variable {es fs es' fs' : List (Event α)}

/-- Nothing is changed where no discard panics. -/
lemma refl (es : List (Event α)) : Softens es es :=
  ⟨rfl, rfl, List.forall₂_same.2 fun x _ => .same x⟩

/-- Events one after the other. -/
lemma append (h : Softens es fs) (h' : Softens es' fs') : Softens (es ++ es') (fs ++ fs') where
  started := by simp only [List.map_append, collect_append, h.started, h'.started]
  discarded := by simp only [List.map_append, collect_append, h.discarded, h'.discarded]
  answered := by
    rw [List.filterMap_append, List.filterMap_append]
    exact List.rel_append h.answered h'.answered

end Softens

/-- An event, and what would happen in its place if no discard panicked. -/
inductive Event.Fades : Event α → Event α → Prop
  | same (e : Event α) : Fades e e
  | refused (caller : Option Nat) (panicked : Bool) :
      Fades (refused caller panicked) (refused caller false)
  | stopped : Fades workerAborted workerStopped
  | answered (call : Nat) (values : List α) :
      Fades (batchAnswered call (.batch (.error .discardPanic)))
        (batchAnswered call (.batch (.ok values)))

/-- The event is more than a note on how a batch went. -/
def Event.lasting : Event α → Bool
  | deadlineReached _ | admissionCancelled _ | batchFinished _ _ _ => false
  | _ => true

/-- Some events, and what would happen if no discard panicked: the same in the same order, but for
who is told of a panic and for notes on how a batch went. -/
def Fades (es fs : List (Event α)) : Prop :=
  List.Forall₂ Event.Fades (es.filter Event.lasting) (fs.filter Event.lasting)

namespace Fades

variable {es fs es' fs' : List (Event α)} {β : Type}

/-- Nothing is changed where no discard panics. -/
lemma refl (es : List (Event α)) : Fades es es := List.forall₂_same.2 fun e _ => .same e

/-- Events one after the other. -/
lemma append (h : Fades es fs) (h' : Fades es' fs') : Fades (es ++ es') (fs ++ fs') := by
  rw [Fades, List.filter_append, List.filter_append]
  exact List.rel_append h h'

/-- Events of a pool. -/
lemma of_pool (es : List (Event α)) : Fades es (es.map Event.gentle) := by
  have hsingle : ∀ e : Event α, Fades [e] [e.gentle] := fun e => by
    cases e with
    | refused caller panicked => exact .cons (.refused caller panicked) .nil
    | workerAborted => exact .cons .stopped .nil
    | _ => exact refl _
  induction es with
  | nil => exact refl []
  | cons e es ih => exact (hsingle e).append ih

/-- Nothing is told of notes, so that they can be left out. -/
lemma filterMap_lasting {f : Event α → Option β}
    (notes : ∀ e : Event α, e.lasting = false → f e = none) (es : List (Event α)) :
    (es.filter Event.lasting).filterMap f = es.filterMap f := by
  rw [List.filterMap_filter]
  refine List.filterMap_congr fun e _ => ?_
  cases he : e.lasting with
  | false => simp [notes e he]
  | true => rfl

/-- What is told of events is the same if it is the same of each one. -/
lemma filterMap_eq {f : Event α → Option β} (h : Fades es fs)
    (notes : ∀ e : Event α, e.lasting = false → f e = none)
    (same : ∀ {e e' : Event α}, e.Fades e' → f e' = f e) : es.filterMap f = fs.filterMap f := by
  rw [← filterMap_lasting notes es, ← filterMap_lasting notes fs]
  unfold Fades at h
  generalize es.filter Event.lasting = es at h
  generalize fs.filter Event.lasting = fs at h
  induction h with
  | nil => rfl
  | cons he _ ih => rw [List.filterMap_cons, List.filterMap_cons, same he, ih]

/-- The same tasks are started and discarded, and the same calls are answered. -/
lemma softens (h : Fades es fs) : Softens es fs where
  started := by
    rw [collect, collect, List.filterMap_map, List.filterMap_map]
    exact h.filterMap_eq (fun e he => by cases e <;> first | rfl | cases he) fun he => by
      cases he <;> rfl
  discarded := by
    rw [collect, collect, List.filterMap_map, List.filterMap_map]
    exact h.filterMap_eq (fun e he => by cases e <;> first | rfl | cases he) fun he => by
      cases he <;> rfl
  answered := by
    have notes : ∀ e : Event α, e.lasting = false → e.answer? = none := fun e he => by
      cases e <;> first | rfl | cases he
    have split : ∀ (e : Event α) es, (e :: es).filterMap Event.answer? =
        e.answer?.toList ++ es.filterMap Event.answer? := fun e es => by
      cases he : e.answer? <;> simp [he]
    rw [← filterMap_lasting notes es, ← filterMap_lasting notes fs]
    unfold Fades at h
    generalize es.filter Event.lasting = es at h
    generalize fs.filter Event.lasting = fs at h
    induction h with
    | nil => exact .nil
    | @cons e e' _ _ he _ ih =>
      have hfirst : List.Forall₂ Answer.Softens e.answer?.toList e'.answer?.toList := by
        cases he with
        | same => exact List.forall₂_same.2 fun x _ => .same x
        | refused caller panicked =>
          cases caller with
          | none => exact .nil
          | some call =>
            cases panicked with
            | false => exact .cons (.same _) .nil
            | true => exact .cons (.refused call) .nil
        | stopped => exact .nil
        | answered call values => exact .cons (.batch call values) .nil
      rw [split, split]
      exact List.rel_append hfirst ih

end Fades

/-! ## Pools -/

namespace Pool

variable {p q : Pool α} {m : Moment} {es : List (Event α)}

/-- The pool without the count of its workers, which is one too high after a worker panicked as it
exited. -/
def gentle (p : Pool α) : Pool α := { p with counted := 0 }

/-- The exit of a worker when no discard panics. -/
lemma retire_gentle (p : Pool α) (m : Moment) (reason : List (Event α)) :
    p.gentle.retire m.gentle (reason.map Event.gentle) =
      ((p.retire m reason).1.gentle, (p.retire m reason).2.map Event.gentle) := by
  have hw : p.gentle.workers = p.workers := rfl
  have hq : p.gentle.queue = p.queue := rfl
  by_cases hlast : p.workers = 0
  · cases hb : p.queue.any m.breaks
    all_goals
      simp only [retire, hw, hq, hlast, hb, Moment.any_breaks_gentle, if_true,
        Bool.false_eq_true, if_false, List.map_append, Event.map_gentle_discarded]
      rfl
  · simp only [retire, hw, hlast, if_false, List.map_append]
    rfl

/-- **A move of a pool when no discard panics.** -/
theorem perform?_gentle {k : Move} (h : p.perform? m k = some (q, es)) :
    p.gentle.perform? m.gentle k = some (q.gentle, es.map Event.gentle) := by
  cases k with
  | take =>
    obtain ⟨n, t, rest, hfree, hidle, hqueue, heq⟩ := take?_eq_some_iff.1 h
    cases heq
    exact take?_eq_some_iff.2 ⟨n, t, rest, hfree, hidle, hqueue, rfl⟩
  | leave =>
    obtain ⟨n, hidle, hwhy, heq⟩ := leave?_eq_some_iff.1 h
    have hreason : p.farewell.map Event.gentle = p.farewell := by
      unfold farewell
      split <;> rfl
    have hexit := retire_gentle { p with idle := n } m p.farewell
    rw [hreason, heq] at hexit
    exact leave?_eq_some_iff.2 ⟨n, hidle, hwhy, hexit⟩
  | enter =>
    obtain ⟨s, rest, hsub, ⟨hwhy, heq⟩ | ⟨hw, hroom, hopen, heq⟩⟩ := enter?_eq_some_iff.1 h
    · cases heq
      exact enter?_eq_some_iff.2 ⟨s, rest, hsub, .inl ⟨hwhy, rfl⟩⟩
    · cases heq
      exact enter?_eq_some_iff.2 ⟨s, rest, hsub, .inr ⟨hw, hroom, hopen, rfl⟩⟩
  | publish =>
    obtain ⟨output, rest, hpub, ⟨hd, heq⟩ | ⟨hd, hroom, heq⟩⟩ := publish?_eq_some_iff.1 h
    · have hexit := retire_gentle { p with publishing := rest } m [.receiverGone]
      rw [heq] at hexit
      exact publish?_eq_some_iff.2 ⟨output, rest, hpub, .inl ⟨hd, hexit⟩⟩
    · cases heq
      exact publish?_eq_some_iff.2 ⟨output, rest, hpub, .inr ⟨hd, hroom, rfl⟩⟩
  | deliver =>
    obtain ⟨r, rest, hrec, ⟨output, outputs, hout, heq⟩ | ⟨hout, hw, heq⟩⟩ :=
      deliver?_eq_some_iff.1 h <;> cases heq
    · exact deliver?_eq_some_iff.2 ⟨r, rest, hrec, .inl ⟨output, outputs, hout, rfl⟩⟩
    · exact deliver?_eq_some_iff.2 ⟨r, rest, hrec, .inr ⟨hout, hw, rfl⟩⟩

/-- What becomes of a task handed in when no discard panics. -/
lemma submit_gentle (p : Pool α) (m : Moment) (s : Submission α) : p.gentle.submit m.gentle s =
    ((p.submit m s).1.gentle, (p.submit m s).2.map Event.gentle) := by
  have hclosed : p.gentle.closed = p.closed := rfl
  unfold submit
  rw [hclosed]
  split <;> rfl

/-- The close of a pool does not depend on the count of its workers. -/
lemma close_gentle (p : Pool α) : p.gentle.close = (p.close.1.gentle, p.close.2) := by
  have hclosed : p.gentle.closed = p.closed := rfl
  unfold close
  rw [hclosed]
  split <;> rfl

/-- Whether a pool can move does not depend on whether discards panic. -/
lemma Resting.gentle (h : p.Resting) : p.gentle.Resting :=
  ⟨h.take, h.leave, h.enter, h.publish, h.deliver⟩

/-- Nor does whether it is orderly. -/
lemma Orderly.gentle (h : p.Orderly) : p.gentle.Orderly where
  line := h.line
  outputs := h.outputs.imp_right fun h => h.imp_right fun h =>
    h.imp_right fun h => ⟨h.single, h.line, h.idle, h.readers⟩

/-- Nor what holds of every pool. -/
lemma Sound.gentle (h : p.Sound) : p.gentle.Sound :=
  ⟨h.queue_le, h.results_le, h.workers_le, h.queue_of_gone, h.alive⟩

end Pool

/-! ## Batches -/

/-- A submitter of which it is forgotten whether it panicked. -/
def Submitter.gentle : Submitter → Submitter
  | active => active
  | refused _ => refused false
  | finished _ => finished false

namespace Batch

variable {b c : Batch α} {m : Moment} {es : List (Event α)} {now : Nat}

/-- The batch of which it is forgotten whether discards panicked. -/
def gentle (b : Batch α) : Batch α :=
  { b with pool := b.pool.gentle, submitter := b.submitter.gentle }

/-- What the batch learns when no discard panics. -/
lemma observeAll_gentle (es : List (Event α)) (b : Batch α) :
    b.gentle.observeAll (es.map Event.gentle) = (b.observeAll es).gentle := by
  induction es generalizing b with
  | nil => rfl
  | cons e es ih =>
    have hfirst : b.gentle.observe e.gentle = (b.observe e).gentle := by
      cases e with
      | refused caller panicked =>
        cases hs : b.submitter <;>
          simp [gentle, Event.gentle, observe, Submitter.refuse, Submitter.gentle, hs]
      | received caller drains output => cases output <;> rfl
      | _ => rfl
    simp only [observeAll, List.map_cons, List.foldl_cons] at ih ⊢
    rw [hfirst, ih]

/-- The end of the submitter when no discard panics. -/
lemma endSubmitter_gentle (b : Batch α) (m : Moment) (panicked : Bool) :
    b.gentle.endSubmitter m.gentle false =
      ((b.endSubmitter m panicked).1.gentle, (b.endSubmitter m panicked).2) := by
  have hremaining : b.gentle.remaining = b.remaining := rfl
  have hclose : b.gentle.pool.close = (b.pool.close.1.gentle, b.pool.close.2) :=
    b.pool.close_gentle
  simp only [endSubmitter, hremaining, hclose, Moment.any_breaks_gentle]
  rfl

/-- Its stop when no discard panics: the reason is noted. -/
lemma halt_gentle (b : Batch α) (m : Moment) (t : Task α) (reason : Event α)
    (note : reason.lasting = false) : ∃ fs, b.gentle.halt m.gentle t reason =
      ((b.halt m t reason).1.gentle, fs) ∧ Fades (b.halt m t reason).2 fs := by
  have hend := b.endSubmitter_gentle m (m.breaks t)
  refine ⟨.discarded t :: reason :: (b.endSubmitter m (m.breaks t)).2, ?_, ?_⟩
  · simp only [halt, Moment.breaks_gentle, hend]
    rfl
  · simp only [halt]
    split
    · rw [Fades, List.filter_cons_of_pos rfl, List.filter_cons_of_pos rfl,
        List.filter_cons_of_neg (by simp [note])]
      exact Fades.refl (.discarded t :: _)
    · exact .refl _

/-- What the submitter does when no discard panics. -/
lemma feed?_gentle (h : b.feed? m = some (c, es)) :
    ∃ fs, b.gentle.feed? m.gentle = some (c.gentle, fs) ∧ Fades es fs := by
  have hactive : b.submitter = .active → b.gentle.submitter = .active := fun hs => by
    rw [gentle, hs]
    rfl
  cases feed?_eq_some_iff.1 h with
  | @refused panicked hs =>
    have hsubmitter : b.gentle.submitter = .refused false := by
      rw [gentle, hs]
      rfl
    have hmove := feed?_eq_some_iff.2 (Feeds.refused (m := m.gentle) hsubmitter)
    rw [endSubmitter_gentle b m panicked] at hmove
    exact ⟨_, hmove, .refl _⟩
  | done hs line remaining =>
    have hmove := feed?_eq_some_iff.2 (Feeds.done (m := m.gentle) (hactive hs) line remaining)
    rw [endSubmitter_gentle b m false] at hmove
    exact ⟨_, hmove, .refl _⟩
  | @back s others reason hs line why =>
    have note : reason.lasting = false := by
      rcases why with ⟨-, rfl⟩ | ⟨-, -, rfl⟩ <;> rfl
    obtain ⟨fs, heq, hsoft⟩ :=
      halt_gentle { b with pool := { b.pool with submitting := [] } } m s.task reason note
    have hmove := feed?_eq_some_iff.2 (Feeds.back (m := m.gentle) (hactive hs) line why)
    exact ⟨fs, hmove.trans (congrArg some heq), hsoft⟩
  | due hs line remaining due =>
    have hmove := feed?_eq_some_iff.2 (Feeds.due (m := m.gentle) (hactive hs) line remaining due)
    rw [endSubmitter_gentle b m false] at hmove
    exact ⟨_, hmove, .refl _⟩
  | @stopped t rest hs line remaining early stopped =>
    obtain ⟨fs, heq, hsoft⟩ := halt_gentle { b with remaining := rest } m t
      (.admissionCancelled b.admitted) rfl
    have hmove := feed?_eq_some_iff.2
      (Feeds.stopped (m := m.gentle) (hactive hs) line remaining early stopped)
    exact ⟨fs, hmove.trans (congrArg some heq), hsoft⟩
  | @submit t rest hs line remaining early free =>
    have hmove := feed?_eq_some_iff.2
      (Feeds.submit (m := m.gentle) (hactive hs) line remaining early free)
    have hpool : b.gentle.pool = b.pool.gentle := rfl
    rw [hpool, Pool.submit_gentle] at hmove
    refine ⟨(b.pool.submit m ⟨none, t⟩).2.map Event.gentle, ?_, .of_pool _⟩
    rw [hmove, ← observeAll_gentle]
    rfl

/-- The return of the call when no discard panicked: with the values. -/
lemma conclude?_gentle (h : b.conclude? = some (c, es)) :
    ∃ fs, b.gentle.conclude? = some (c.gentle, fs) ∧ Fades es fs := by
  obtain ⟨panicked, hfin, hheld, hrec, heq⟩ := conclude?_eq_some_iff.1 h
  obtain ⟨rfl, rfl⟩ := Prod.ext_iff.1 heq
  have hfin' : b.gentle.submitter = .finished false := by
    rw [gentle, hfin]
    rfl
  refine ⟨_, conclude?_eq_some_iff.2 ⟨false, hfin', hheld, hrec, rfl⟩, ?_⟩
  cases panicked with
  | false => exact .refl _
  | true => exact .cons (.answered b.call b.values) .nil

/-- **A move of a batch when no discard panics.** -/
theorem perform?_gentle {k : Move} (h : b.perform? m k = some (c, es)) :
    ∃ fs, b.gentle.perform? m.gentle k = some (c.gentle, fs) ∧ Fades es fs := by
  cases k with
  | pool k =>
    obtain ⟨q, hq, rfl⟩ := performPool?_eq_some_iff.1 h
    refine ⟨es.map Event.gentle,
      performPool?_eq_some_iff.2 ⟨q.gentle, Pool.perform?_gentle hq, ?_⟩, .of_pool es⟩
    rw [observeAll_gentle]
    rfl
  | feed => exact feed?_gentle h
  | conclude => exact conclude?_gentle h

/-- Whether the submitter has ended does not depend on whether discards panicked. -/
lemma finished_gentle : b.gentle.Finished ↔ b.Finished := by
  cases hs : b.submitter <;> simp [Finished, gentle, hs, Submitter.gentle]

/-- Nor does whether it is active. -/
lemma active_gentle : b.gentle.submitter = .active ↔ b.submitter = .active := by
  cases hs : b.submitter <;> simp [gentle, hs, Submitter.gentle]

/-- Nor does whether a batch can move. -/
lemma step?_gentle (h : b.step? m = none) : b.gentle.step? m.gentle = none := by
  have now : m.now = m.gentle.now := rfl
  rw [step?_eq_none_congr now] at h
  obtain ⟨hpool, hfeed, hconclude⟩ := step?_eq_none_iff_parts.1 h
  refine step?_eq_none_iff_parts.2 ⟨?_, feed?_eq_none_iff.2 ?_, ?_⟩
  · exact Pool.step?_eq_none_iff_resting.2 (Pool.step?_eq_none_iff_resting.1 hpool).gentle
  · rw [finished_gentle, active_gentle]
    exact feed?_eq_none_iff.1 hfeed
  · rw [conclude?_eq_none_iff, finished_gentle]
    exact conclude?_eq_none_iff.1 hconclude

/-- Nor what holds of every batch. -/
lemma Sound.gentle (h : b.Sound) : b.gentle.Sound where
  pool := h.pool.gentle
  single := h.single
  line := h.line.imp_left active_gentle.2
  finished hfin := h.finished (finished_gentle.1 hfin)
  closed hclosed := finished_gentle.2 (h.closed hclosed)
  pending := h.pending.imp_right fun hend => ⟨finished_gentle.2 hend.1, hend.2⟩
  collector := h.collector

/-- Nor whether it is orderly. -/
lemma Orderly.gentle (h : b.Orderly now) : b.gentle.Orderly now := by
  rcases h with hkept | hgiven
  · refine .inl ⟨hkept.sound.gentle, hkept.parent, ?_, hkept.gone, fun active hwhy => ?_⟩
    · rw [active_gentle, finished_gentle]
      exact hkept.steady
    · rcases hkept.blocked (active_gentle.1 active) hwhy with h | h
      · exact .inl ⟨h.line, h.queue, h.running, h.publishing⟩
      · exact .inr ⟨h.line, h.full, h.busy, h.idle, h.publishing⟩
  · exact .inr ⟨finished_gentle.2 hgiven.finished, hgiven.deserted⟩

end Batch

/-! ## Scenes -/

namespace Scene

variable {s t u : Scene α} {es fs : List (Entry α)} {k : Move} {ks ls : List Move}

/-- The scene of which it is forgotten that discards panic. -/
def gentle (s : Scene α) : Scene α :=
  { s with
    brittle := false
    pools := s.pools.map Pool.gentle
    batches := s.batches.map Batch.gentle }

/-- What happens at each place when no discard panics. -/
lemma softens_map {place : Place} {es fs : List (Event α)} (h : Softens es fs) (q : Place) :
    Softens (eventsAt q (es.map (place, ·))) (eventsAt q (fs.map (place, ·))) := by
  by_cases hq : place = q
  · subst hq
    rwa [eventsAt_map, eventsAt_map]
  · have elsewhere : ∀ es : List (Event α), eventsAt q (es.map (place, ·)) = [] := fun es =>
      eventsAt_eq_nil fun x hx => by
        obtain ⟨e, -, rfl⟩ := List.mem_map.1 hx
        exact hq
    rw [elsewhere, elsewhere]
    exact .refl []

/-- **A move when no discard panics.** -/
theorem moveAt?_gentle {m : Moment} (h : s.moveAt? m k = some (t, es)) :
    ∃ fs, s.gentle.moveAt? m.gentle k = some (t.gentle, fs) ∧
      ∀ place, Softens (eventsAt place es) (eventsAt place fs) := by
  cases k with
  | pool i k =>
    obtain ⟨p, q, es, hp, hq, rfl, rfl⟩ := moveAt?_pool_iff.1 h
    refine ⟨_, moveAt?_pool_iff.2 ⟨p.gentle, q.gentle, es.map Event.gentle, ?_,
      Pool.perform?_gentle hq, ?_, rfl⟩, softens_map (Fades.of_pool es).softens⟩
    · rw [gentle, List.getElem?_map, hp]
      rfl
    · simp [gentle, putPool, after, List.map_set]
  | batch i k =>
    obtain ⟨b, c, es, hb, hc, rfl, rfl⟩ := moveAt?_batch_iff.1 h
    obtain ⟨fs, hmove, hsoft⟩ := Batch.perform?_gentle hc
    refine ⟨_, moveAt?_batch_iff.2 ⟨b.gentle, c.gentle, fs, ?_, hmove, ?_, rfl⟩,
      softens_map hsoft.softens⟩
    · rw [gentle, List.getElem?_map, hb]
      rfl
    · simp [gentle, putBatch, after, List.map_set]

/-- **Moves in a given order when no discard panics.** -/
theorem play?_gentle (h : s.play? ks = some (t, es)) : ∃ fs,
    s.gentle.play? ks = some (t.gentle, fs) ∧
      ∀ place, Softens (eventsAt place es) (eventsAt place fs) := by
  induction ks generalizing s es with
  | nil =>
    cases h
    exact ⟨[], rfl, fun _ => .refl _⟩
  | cons k ks ih =>
    obtain ⟨r, es₁, es₂, hr, hrest, rfl⟩ := Moves.play?_cons_eq_some_iff.1 h
    obtain ⟨fs₁, hr', hsoft₁⟩ := moveAt?_gentle hr
    obtain ⟨fs₂, hrest', hsoft₂⟩ := ih hrest
    refine ⟨fs₁ ++ fs₂,
      Moves.play?_cons_eq_some_iff.2 ⟨r.gentle, fs₁, fs₂, hr', hrest', rfl⟩, fun place => ?_⟩
    rw [eventsAt_append, eventsAt_append]
    exact (hsoft₁ place).append (hsoft₂ place)

/-- Whether a scene can move does not depend on whether discards panic. -/
lemma stuck_gentle (h : Moves.Stuck move? s) : Moves.Stuck move? s.gentle := by
  obtain ⟨hpools, hbatches⟩ := stuck_iff.1 h
  refine stuck_iff.2 ⟨fun p hp => ?_, fun b hb => ?_⟩
  · obtain ⟨q, hq, rfl⟩ := List.mem_map.1 hp
    have hrest := Pool.step?_eq_none_iff_resting.1 (hpools q hq)
    exact Pool.step?_eq_none_iff_resting.2 hrest.gentle
  · obtain ⟨c, hc, rfl⟩ := List.mem_map.1 hb
    exact Batch.step?_gentle (hbatches c hc)

/-- Nor does whether it is orderly. -/
lemma Orderly.gentle (hs : s.Orderly) : s.gentle.Orderly where
  pools p hp := by
    obtain ⟨q, hq, rfl⟩ := List.mem_map.1 hp
    exact (hs.pools q hq).gentle
  batches b hb := by
    obtain ⟨c, hc, rfl⟩ := List.mem_map.1 hb
    exact (hs.batches c hc).gentle

/-- Where no discard panics, moves of orderly scenes commute. -/
lemma commuting_of_not_brittle :
    Moves.Commuting (move? (α := α)) fun s => s.Orderly ∧ s.brittle = false where
  keep hs h := ⟨hs.1.of_moveAt? rfl h, by rw [(moment_of_moveAt? h).2, hs.2, Bool.false_and]⟩
  join hs hkl h h' := by
    have same : ∀ {s t : Scene α} {es : List (Entry α)} {k : Move}, s.brittle = false →
        s.move? k = some (t, es) → t.moment = s.moment := fun hs h => by
      rw [moment, moment, (moment_of_moveAt? h).1, (moment_of_moveAt? h).2, hs, Bool.false_and]
    obtain ⟨v, es', fs', hl, hk, hperm⟩ := hs.1.join rfl hkl h h'
    rw [← same hs.2 h] at hl
    rw [← same hs.2 h'] at hk
    exact ⟨v, es', fs', hl, hk, hperm⟩

/-- **Up to what depends on which discard panics, all orders that end have the same outcome.** -/
theorem Orderly.gentle_unique (hs : s.Orderly) (order : s.play? ks = some (t, es))
    (ends : Moves.Stuck move? t) (order' : s.play? ls = some (u, fs))
    (ends' : Moves.Stuck move? u) : t.gentle = u.gentle ∧ ks.Perm ls ∧
      ∃ es' fs' : List (Entry α), es'.Perm fs' ∧
        (∀ place, Softens (eventsAt place es) (eventsAt place es')) ∧
          ∀ place, Softens (eventsAt place fs) (eventsAt place fs') := by
  obtain ⟨es', hgentle, hsoft⟩ := play?_gentle order
  obtain ⟨fs', hgentle', hsoft'⟩ := play?_gentle order'
  obtain ⟨hstate, hmoves, hevents⟩ := commuting_of_not_brittle.determined ⟨hs.gentle, rfl⟩ hgentle
    (stuck_gentle ends) hgentle' (stuck_gentle ends')
  exact ⟨hstate, hmoves, es', fs', hevents, hsoft, hsoft'⟩

end Scene

end Workforce
