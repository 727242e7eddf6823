import Workforce.Proofs.Scene.Gentle
/-!
# Frail tasks

The discard of a frail task panics, but only once in a scene. A move that discards no frail task
does the same whether discards panic or not. So the order of the moves matters only where two moves
discard frail tasks, and then the two are at different places: of two moves at one place that can
be made in either order, the second one never discards a frail task if the first one did.

## Main definitions

* `Workforce.noisy` — a frail task is discarded.
* `Workforce.Scene.OnePlace` — frail tasks are discarded at one place at most.
* `Workforce.Scene.Local` — they are, in whatever order moves are made.

## Main results

* `Workforce.Pool.perform?_of_quiet`, `Batch.perform?_of_quiet`, `Scene.moveAt?_of_quiet` — a move
  that discards no frail task depends on the time only.
* `Workforce.Pool.Orderly.quiet_after`, `Batch.Orderly.quiet_after` — at one place, only one of two
  moves that can be made in either order discards frail tasks.
* `Workforce.Scene.commuting` — moves of orderly and local scenes commute.
* `Workforce.Scene.Orderly.local_of_onePlace` — it is enough that frail tasks are discarded at one
  place at most when the scene is left to settle.
-/

namespace Workforce

open Occurrence Trail

variable {α : Type}

/-! ## Events -/

/-- A frail task is discarded. -/
def noisy (es : List (Event α)) : Bool := es.any Event.isFrailDiscard

@[simp] lemma noisy_append (es fs : List (Event α)) : noisy (es ++ fs) = (noisy es || noisy fs) :=
  List.any_append

@[simp] lemma noisy_cons (e : Event α) (es : List (Event α)) :
    noisy (e :: es) = (e.isFrailDiscard || noisy es) := rfl

/-- Discards of tasks. -/
@[simp] lemma noisy_discards (ts : List (Task α)) :
    noisy (ts.map Event.discarded) = ts.any (·.frail) := List.any_map

/-- It is a matter of the tasks that are discarded. -/
lemma noisy_eq_any (es : List (Event α)) :
    noisy es = (collect discarded? (es.map event)).any (·.frail) := by
  induction es with
  | nil => rfl
  | cons e es ih =>
    rw [noisy_cons, ih, List.map_cons, collect_cons, List.any_append]
    congr 1
    cases e <;> simp [Event.isFrailDiscard, discarded?]

/-- It does not depend on whether discards panic. -/
lemma Softens.noisy_eq {es fs : List (Event α)} (h : Softens es fs) : noisy es = noisy fs := by
  rw [noisy_eq_any, noisy_eq_any, h.discarded]

/-- If no frail task has been discarded before, the first one is one of those discarded now. -/
lemma exists_find_of_noisy (place : Place) {past : List (Entry α)} {es : List (Event α)}
    (quiet : noisy (past.map Prod.snd) = false) (loud : noisy es = true) :
    ∃ t, .discarded t ∈ es ∧
      (past ++ es.map (place, ·)).find? (·.2.isFrailDiscard) = some (place, .discarded t) := by
  have hnone : past.find? (·.2.isFrailDiscard) = none := by
    rw [noisy, List.any_map] at quiet
    exact List.find?_eq_none.2 fun x hx => by simpa using List.any_eq_false.1 quiet x hx
  have hsome : (es.find? Event.isFrailDiscard).isSome = true := by
    rw [List.find?_isSome]
    exact List.any_eq_true.1 loud
  obtain ⟨e, he⟩ := Option.isSome_iff_exists.1 hsome
  have hfrail : e.isFrailDiscard = true := List.find?_some he
  cases e with
  | discarded t =>
    refine ⟨t, List.mem_of_find?_eq_some he, ?_⟩
    rw [List.find?_append, hnone, List.find?_map]
    exact congrArg (Option.map (Prod.mk place)) he
  | _ => cases hfrail

/-- One of several discards panics if discards panic and one of the tasks is frail. -/
lemma Moment.any_breaks (m : Moment) (ts : List (Task α)) :
    ts.any m.breaks = (m.brittle && ts.any (·.frail)) := by
  have hbreaks : m.breaks = fun t : Task α => m.brittle && t.frail := rfl
  rw [hbreaks]
  cases m.brittle <;> simp

/-! ## Pools -/

namespace Pool

variable {p q r t : Pool α} {m m' : Moment} {es fs fs' : List (Event α)} {k l : Move}

/-- The exit of a worker that discards no frail task. -/
lemma retire_of_quiet {reason : List (Event α)} (quiet : noisy (p.retire m reason).2 = false)
    (m' : Moment) : p.retire m' reason = p.retire m reason := by
  by_cases hw : p.workers = 0
  · have hnone : p.queue.any (·.frail) = false := by
      have hevents : ∃ last, (p.retire m reason).2 = reason ++ p.queue.map .discarded ++ last := by
        rw [retire, if_pos hw]
        split <;> exact ⟨_, rfl⟩
      obtain ⟨last, hlast⟩ := hevents
      rw [hlast, noisy_append, noisy_append, noisy_discards] at quiet
      exact (Bool.or_eq_false_iff.1 (Bool.or_eq_false_iff.1 quiet).1).2
    simp only [retire, Moment.any_breaks, hnone, Bool.and_false]
  · simp only [retire, if_neg hw]

/-- The refusal of a task that is not frail. -/
lemma refusal_of_quiet {s : Submission α} (quiet : noisy (refusal m s) = false) (m' : Moment) :
    refusal m' s = refusal m s := by
  have hs : s.task.frail = false := (Bool.or_eq_false_iff.1 quiet).1
  simp [refusal, Moment.breaks, hs]

/-- **A move that discards no frail task depends on the time only.** -/
theorem perform?_of_quiet (h : p.perform? m k = some (q, es)) (quiet : noisy es = false)
    (now : m'.now = m.now) : p.perform? m' k = some (q, es) := by
  cases k with
  | take =>
    obtain ⟨n, t, rest, hfree, hidle, hqueue, heq⟩ := take?_eq_some_iff.1 h
    exact take?_eq_some_iff.2 ⟨n, t, rest, hfree, hidle, hqueue, by rw [now, heq]⟩
  | leave =>
    obtain ⟨n, hidle, hwhy, heq⟩ := leave?_eq_some_iff.1 h
    have hexit := retire_of_quiet (by rw [heq]; exact quiet) m'
    exact leave?_eq_some_iff.2 ⟨n, hidle, hwhy, hexit.trans heq⟩
  | enter =>
    obtain ⟨s, rest, hsub, ⟨hwhy, heq⟩ | ⟨hw, hroom, hopen, heq⟩⟩ := enter?_eq_some_iff.1 h
    · cases heq
      have hrefusal := refusal_of_quiet quiet m'
      exact enter?_eq_some_iff.2 ⟨s, rest, hsub, .inl ⟨hwhy, by rw [hrefusal]⟩⟩
    · exact enter?_eq_some_iff.2 ⟨s, rest, hsub, .inr ⟨hw, hroom, hopen, heq⟩⟩
  | publish =>
    obtain ⟨output, rest, hpub, ⟨hd, heq⟩ | hother⟩ := publish?_eq_some_iff.1 h
    · have hexit := retire_of_quiet (by rw [heq]; exact quiet) m'
      exact publish?_eq_some_iff.2 ⟨output, rest, hpub, .inl ⟨hd, hexit.trans heq⟩⟩
    · exact publish?_eq_some_iff.2 ⟨output, rest, hpub, .inr hother⟩
  | deliver => exact h

/-- What becomes of a frail task handed in depends on the moment only if it is discarded. -/
lemma submit_of_quiet {s : Submission α} (quiet : noisy (p.submit m s).2 = false) (m' : Moment) :
    p.submit m' s = p.submit m s := by
  cases hclosed : p.closed with
  | false => simp only [submit, hclosed, Bool.false_eq_true, if_false]
  | true =>
    simp only [submit, hclosed, if_true] at quiet ⊢
    rw [refusal_of_quiet quiet m']

/-- Frail tasks are discarded by a decision on a submission, or from the queue by the exit of the
last worker. -/
lemma noisy_cases (h : p.perform? m k = some (q, es)) (loud : noisy es = true) :
    k = .enter ∨ (k = .leave ∨ k = .publish ∧ p.deserted = true) ∧ p.queue ≠ [] ∧
      q.workers = 0 := by
  -- an exit discards tasks only if it is the last one
  have exit : ∀ (p' : Pool α) {reason : List (Event α)}, noisy reason = false →
      p'.retire m reason = (q, es) → p'.queue ≠ [] ∧ q.workers = 0 := by
    intro p' reason hreason heq
    obtain ⟨rfl, rfl⟩ := Prod.ext_iff.1 heq
    have hw : p'.workers = 0 := by
      by_contra hw
      rw [retire, if_neg hw, noisy_append, hreason] at loud
      cases loud
    refine ⟨fun hqueue => ?_, by rw [workers_retire, hw]⟩
    rw [retire, if_pos hw, hqueue] at loud
    simp only [List.any_nil, Bool.false_eq_true, if_false, noisy_append, hreason] at loud
    cases loud
  cases k with
  | take =>
    obtain ⟨n, t, rest, -, -, -, heq⟩ := take?_eq_some_iff.1 h
    cases heq
    cases loud
  | leave =>
    obtain ⟨n, -, -, heq⟩ := leave?_eq_some_iff.1 h
    have hquiet : noisy p.farewell = false := by
      unfold farewell
      split <;> rfl
    exact .inr ⟨.inl rfl, exit { p with idle := n } hquiet heq⟩
  | enter => exact .inl rfl
  | publish =>
    obtain ⟨output, rest, -, ⟨hd, heq⟩ | ⟨-, -, heq⟩⟩ := publish?_eq_some_iff.1 h
    · exact .inr ⟨.inr ⟨rfl, hd⟩, exit { p with publishing := rest } rfl heq⟩
    · cases heq
      cases loud
  | deliver =>
    obtain ⟨r, rest, -, ⟨output, outputs, -, heq⟩ | ⟨-, -, heq⟩⟩ :=
      deliver?_eq_some_iff.1 h <;> cases heq <;> cases loud

/-- **Of two moves that can be made in either order, only one discards frail tasks.** -/
theorem Orderly.quiet_after (hp : p.Orderly) (hkl : k ≠ l) (h : p.perform? m k = some (q, es))
    (h' : p.perform? m l = some (r, fs)) (later : q.perform? m l = some (t, fs'))
    (loud : noisy es = true) : noisy fs' = false := by
  by_contra hnoisy
  have loud' : noisy fs' = true := by simpa using hnoisy
  rcases noisy_cases h loud with rfl | ⟨hk, -, hgone⟩
  · -- a submission has been decided on, so that the other move is no exit
    rcases noisy_cases later loud' with rfl | ⟨rfl | ⟨rfl, hdeserted⟩, -, -⟩
    · exact hkl rfl
    · exact hp.not_enter_leave h h'
    · have hheld : q.held = true := (lowers_of_perform? h).held.trans (hp.held_of_enter h h')
      simp [deserted, hheld] at hdeserted
  · -- the last worker has exited, so that the other move is no exit either
    obtain ⟨hidle, -, hpub⟩ := workers_eq_zero_iff.1 hgone
    rcases noisy_cases later loud' with rfl | ⟨rfl | ⟨rfl, -⟩, -, -⟩
    · rcases hk with rfl | ⟨rfl, hdeserted⟩
      · exact hp.not_enter_leave h' h
      · have hheld := hp.held_of_enter h' h
        simp [deserted, hheld] at hdeserted
    · obtain ⟨n, hn, -⟩ := leave?_eq_some_iff.1 later
      omega
    · obtain ⟨output, rest, hrest, -⟩ := publish?_eq_some_iff.1 later
      simp [hpub] at hrest

end Pool

/-! ## Batches -/

namespace Batch

variable {b c d t : Batch α} {m m' : Moment} {es fs fs' : List (Event α)} {k l : Move}

/-- Closing a pool discards nothing. -/
@[simp] lemma noisy_close (p : Pool α) : noisy p.close.2 = false := by
  rcases close_snd p with h | h <;> rw [h] <;> rfl

/-- The end of the submitter discards what remains. -/
lemma noisy_endSubmitter (m : Moment) (panicked : Bool) (b : Batch α) :
    noisy (b.endSubmitter m panicked).2 = b.remaining.any (·.frail) := by
  simp [endSubmitter]

/-- The end of the submitter when it discards no frail task. -/
lemma endSubmitter_of_quiet {panicked : Bool}
    (quiet : noisy (b.endSubmitter m panicked).2 = false) (m' : Moment) :
    b.endSubmitter m' panicked = b.endSubmitter m panicked := by
  rw [noisy_endSubmitter] at quiet
  simp only [endSubmitter, Moment.any_breaks, quiet, Bool.and_false]

/-- Its stop when it discards no frail task. -/
lemma halt_of_quiet {task : Task α} {reason : Event α}
    (quiet : noisy (b.halt m task reason).2 = false) (m' : Moment) :
    b.halt m' task reason = b.halt m task reason := by
  have hhalt : (b.halt m task reason).2 = .discarded task ::
      (if m.breaks task then (b.endSubmitter m (m.breaks task)).2
        else reason :: (b.endSubmitter m (m.breaks task)).2) := rfl
  rw [hhalt] at quiet
  obtain ⟨htask, hrest⟩ := Bool.or_eq_false_iff.1 quiet
  have hbreaks : ∀ m : Moment, m.breaks task = false := fun m => by
    rw [Moment.breaks, show task.frail = false from htask, Bool.and_false]
  rw [hbreaks, if_neg Bool.false_ne_true] at hrest
  have hend := endSubmitter_of_quiet (Bool.or_eq_false_iff.1 hrest).2 m'
  simp only [halt, hbreaks, hend]

/-- What the submitter does when it discards no frail task. -/
lemma Feeds.of_quiet {x : Batch α × List (Event α)} (h : b.Feeds m x) (quiet : noisy x.2 = false)
    (now : m'.now = m.now) : b.Feeds m' x := by
  have hdue : b.isDue m' = b.isDue m := by rw [isDue, isDue, now]
  cases h with
  | refused submitter =>
    rw [← endSubmitter_of_quiet quiet m']
    exact .refused submitter
  | done active line remaining =>
    rw [← endSubmitter_of_quiet quiet m']
    exact .done active line remaining
  | back active line why =>
    rw [← halt_of_quiet quiet m']
    rw [← hdue] at why
    exact .back active line why
  | due active line remaining due =>
    rw [← endSubmitter_of_quiet quiet m']
    exact .due active line remaining (hdue.trans due)
  | stopped active line remaining early stopped =>
    rw [← halt_of_quiet quiet m']
    exact .stopped active line remaining (hdue.trans early) stopped
  | submit active line remaining early free =>
    rw [← Pool.submit_of_quiet quiet m']
    exact .submit active line remaining (hdue.trans early) free

/-- **A move that discards no frail task depends on the time only.** -/
theorem perform?_of_quiet (h : b.perform? m k = some (c, es)) (quiet : noisy es = false)
    (now : m'.now = m.now) : b.perform? m' k = some (c, es) := by
  cases k with
  | pool k =>
    obtain ⟨q, hq, rfl⟩ := performPool?_eq_some_iff.1 h
    exact performPool?_eq_some_iff.2 ⟨q, Pool.perform?_of_quiet hq quiet now, rfl⟩
  | feed => exact feed?_eq_some_iff.2 ((feed?_eq_some_iff.1 h).of_quiet quiet now)
  | conclude => exact h

/-- The return of a call discards nothing. -/
lemma noisy_of_conclude? (h : b.conclude? = some (c, es)) : noisy es = false := by
  obtain ⟨panicked, -, -, -, heq⟩ := conclude?_eq_some_iff.1 h
  obtain ⟨-, rfl⟩ := Prod.ext_iff.1 heq
  cases panicked <;> rfl

/-- A move of the pool that can be made beside one of the submitter discards no frail task. -/
lemma Kept.quiet_of_feed (hb : b.Kept m.now) {k : Pool.Move}
    (h : b.performPool? m k = some (c, es)) (h' : b.feed? m = some (d, fs)) :
    noisy es = false := by
  obtain ⟨q, hq, -⟩ := performPool?_eq_some_iff.1 h
  obtain ⟨active, opened, held⟩ := hb.open_of_feed h'
  have hused : b.pool.deserted = false := by simp [Pool.deserted, held]
  by_contra hnoisy
  rcases Pool.noisy_cases hq (by simpa using hnoisy) with rfl | ⟨rfl | ⟨-, hd⟩, hqueue, hgone⟩
  · exact hb.ne_enter_of_feed h' hq rfl
  · -- the worker has seen the cancellation: then either the queue is empty or another one is busy
    obtain ⟨n, hidle, hwhy, heq⟩ := Pool.leave?_eq_some_iff.1 hq
    have hcancelled : b.pool.cancelled = true := hwhy.resolve_right fun hempty => hqueue hempty.1
    rcases hb.blocked active (.inl hcancelled) with hu | hj
    · exact hqueue hu.queue
    · obtain ⟨rfl, -⟩ := Prod.ext_iff.1 heq
      have hrun := (Pool.workers_eq_zero_iff.1 hgone).2.1
      rw [Pool.running_retire] at hrun
      exact hj.busy hrun
  · simp [hused] at hd

/-- **Of two moves that can be made in either order, only one discards frail tasks.** -/
theorem Orderly.quiet_after (hb : b.Orderly m.now) (hkl : k ≠ l)
    (h : b.perform? m k = some (c, es)) (h' : b.perform? m l = some (d, fs))
    (later : c.perform? m l = some (t, fs')) (loud : noisy es = true) : noisy fs' = false := by
  -- two moves of the pool
  have pools : ∀ {k l : Pool.Move}, k ≠ l → b.performPool? m k = some (c, es) →
      b.performPool? m l = some (d, fs) → c.performPool? m l = some (t, fs') →
      noisy fs' = false := by
    intro k l hkl h h' later
    obtain ⟨q, hq, rfl⟩ := performPool?_eq_some_iff.1 h
    obtain ⟨r, hr, -⟩ := performPool?_eq_some_iff.1 h'
    obtain ⟨p, hp, -⟩ := performPool?_eq_some_iff.1 later
    exact hb.pool.quiet_after hkl hq hr hp loud
  cases k with
  | pool k =>
    cases l with
    | pool l => exact pools (fun heq => hkl (congrArg Move.pool heq)) h h' later
    | feed =>
      rcases hb with hkept | hgiven
      · rw [hkept.quiet_of_feed h h'] at loud
        cases loud
      · obtain ⟨l, -, hl, -⟩ := hgiven.exists_of_perform? h'
        cases hl
    | conclude => exact noisy_of_conclude? later
  | feed =>
    cases l with
    | pool l =>
      rcases hb with hkept | hgiven
      · obtain ⟨v, -, hl⟩ := hkept.join_feed h' h
        cases hl.symm.trans later
        exact hkept.quiet_of_feed h' h
      · obtain ⟨k, -, hk, -⟩ := hgiven.exists_of_perform? h
        cases hk
    | feed => exact absurd rfl hkl
    | conclude => exact noisy_of_conclude? later
  | conclude =>
    rw [noisy_of_conclude? h] at loud
    cases loud

end Batch

/-! ## Scenes -/

namespace Scene

variable {s t u v : Scene α} {m m' : Moment} {es fs fs' : List (Entry α)} {k l : Move}

/-- The place of a move. -/
def Move.place : Move → Place
  | pool i _ => .pool i
  | batch i _ => .batch i

/-- **A move that discards no frail task depends on the time only.** -/
theorem moveAt?_of_quiet (h : s.moveAt? m k = some (t, es))
    (quiet : noisy (eventsAt k.place es) = false) (now : m'.now = m.now) :
    s.moveAt? m' k = some (t, es) := by
  cases k with
  | pool i k =>
    obtain ⟨p, q, fs, hp, hq, rfl, rfl⟩ := moveAt?_pool_iff.1 h
    rw [Move.place, eventsAt_map] at quiet
    exact moveAt?_pool_iff.2 ⟨p, q, fs, hp, Pool.perform?_of_quiet hq quiet now, rfl, rfl⟩
  | batch i k =>
    obtain ⟨b, c, fs, hb, hc, rfl, rfl⟩ := moveAt?_batch_iff.1 h
    rw [Move.place, eventsAt_map] at quiet
    exact moveAt?_batch_iff.2 ⟨b, c, fs, hb, Batch.perform?_of_quiet hc quiet now, rfl, rfl⟩

/-- A move that discards no frail task leaves the moment as it is. -/
lemma moment_of_quiet (h : s.move? k = some (t, es))
    (quiet : noisy (eventsAt k.place es) = false) : t.moment = s.moment := by
  have hsnd : noisy (es.map Prod.snd) = noisy (eventsAt k.place es) := by
    cases k with
    | pool i k =>
      obtain ⟨p, q, fs, -, -, -, rfl⟩ := moveAt?_pool_iff.1 h
      rw [Move.place, eventsAt_map, List.map_map, Function.comp_def, List.map_id']
    | batch i k =>
      obtain ⟨b, c, fs, -, -, -, rfl⟩ := moveAt?_batch_iff.1 h
      rw [Move.place, eventsAt_map, List.map_map, Function.comp_def, List.map_id']
  obtain ⟨hnow, hbrittle⟩ := moment_of_moveAt? h
  rw [moment, moment, hnow, hbrittle, ← noisy, hsnd, quiet, Bool.not_false, Bool.and_true]

/-- **Of two moves at one place that can be made in either order, only one discards frail
tasks.** -/
theorem Orderly.quiet_after (hs : s.Orderly) (hkl : k ≠ l) (place : k.place = l.place)
    (h : s.move? k = some (t, es)) (h' : s.move? l = some (u, fs))
    (later : t.moveAt? s.moment l = some (v, fs')) (loud : noisy (eventsAt k.place es) = true) :
    noisy (eventsAt l.place fs') = false := by
  cases k with
  | pool i k =>
    cases l with
    | pool j l =>
      cases place
      obtain ⟨p, q, es, hp, hq, rfl, rfl⟩ := moveAt?_pool_iff.1 h
      obtain ⟨p', r, fs, hp', hr, -, -⟩ := moveAt?_pool_iff.1 h'
      obtain ⟨q', x, fs', hq', hx, -, rfl⟩ := moveAt?_pool_iff.1 later
      cases hp.symm.trans hp'
      have hself : (s.putPool i (q, es)).pools[i]? = some q :=
        List.getElem?_set_self (List.getElem?_eq_some_iff.1 hp).1
      cases hself.symm.trans hq'
      rw [Move.place, eventsAt_map] at loud ⊢
      exact (hs.pools p (List.mem_of_getElem? hp)).quiet_after
        (fun heq => hkl (congrArg (Move.pool i) heq)) hq hr hx loud
    | batch j l => cases place
  | batch i k =>
    cases l with
    | pool j l => cases place
    | batch j l =>
      cases place
      obtain ⟨b, c, es, hb, hc, rfl, rfl⟩ := moveAt?_batch_iff.1 h
      obtain ⟨b', d, fs, hb', hd, -, -⟩ := moveAt?_batch_iff.1 h'
      obtain ⟨c', x, fs', hc', hx, -, rfl⟩ := moveAt?_batch_iff.1 later
      cases hb.symm.trans hb'
      have hself : (s.putBatch i (c, es)).batches[i]? = some c :=
        List.getElem?_set_self (List.getElem?_eq_some_iff.1 hb).1
      cases hself.symm.trans hc'
      rw [Move.place, eventsAt_map] at loud ⊢
      exact (hs.batches b (List.mem_of_getElem? hb)).quiet_after
        (fun heq => hkl (congrArg (Move.batch i) heq)) hc hd hx loud

/-! ## Frail tasks at one place -/

/-- Frail tasks are discarded at one place at most. -/
def OnePlace (es : List (Entry α)) : Prop :=
  ∀ place place', noisy (eventsAt place es) = true → noisy (eventsAt place' es) = true →
    place = place'

/-- It is enough if they are discarded at the same places in other events. -/
lemma OnePlace.mono (h : OnePlace fs)
    (hle : ∀ place, noisy (eventsAt place es) = true → noisy (eventsAt place fs) = true) :
    OnePlace es :=
  fun place place' hp hp' => h place place' (hle place hp) (hle place' hp')

/-- Frail tasks are discarded at one place at most, in whatever order moves are made when no discard
panics. -/
def Local (s : Scene α) : Prop :=
  ∀ (ks : List Move) (t : Scene α) (es : List (Entry α)), s.gentle.play? ks = some (t, es) →
    OnePlace es

/-- Moves keep a scene local. -/
lemma Local.of_move? (hs : s.Local) (h : s.move? k = some (t, es)) : t.Local := by
  intro ks u fs hplay
  obtain ⟨gs, hfirst, -⟩ := moveAt?_gentle h
  have hboth : s.gentle.play? (k :: ks) = some (u, gs ++ fs) :=
    Moves.play?_cons_eq_some_iff.2 ⟨t.gentle, gs, fs, hfirst, hplay, rfl⟩
  exact (hs _ _ _ hboth).mono fun place hp => by simp [hp]

/-- What a move that can be made first does after another one, in a local scene. -/
lemma Orderly.move?_later (hs : s.Orderly) (hlocal : s.brittle = true → s.Local) (hkl : k ≠ l)
    (h : s.move? k = some (t, es)) (h' : s.move? l = some (u, fs))
    (later : t.moveAt? s.moment l = some (v, fs')) : t.move? l = some (v, fs') := by
  obtain ⟨hnow, hafter⟩ := moment_of_moveAt? h
  cases hloud : noisy (eventsAt k.place es) with
  | false =>
    rw [move?, moment_of_quiet h hloud]
    exact later
  | true =>
    cases hbrittle : s.brittle with
    | false =>
      have hsame : t.moment = s.moment := by
        rw [moment, moment, hnow, hafter, hbrittle, Bool.false_and]
      rw [move?, hsame]
      exact later
    | true =>
      refine moveAt?_of_quiet later ?_ hnow
      by_contra hnoisy
      -- both moves discard frail tasks, also when no discard panics, hence at one place
      obtain ⟨gs, hfirst, hsoft⟩ := moveAt?_gentle h
      obtain ⟨gs', hsecond, hsoft'⟩ := moveAt?_gentle later
      have hplay : s.gentle.play? [k, l] = some (v.gentle, gs ++ gs') := by
        refine Moves.play?_cons_eq_some_iff.2 ⟨t.gentle, gs, gs', hfirst, ?_, rfl⟩
        have hmoment : t.gentle.moment = s.moment.gentle := congrArg (Moment.mk · false) hnow
        rw [← hmoment] at hsecond
        exact Moves.play?_cons_eq_some_iff.2
          ⟨v.gentle, gs', [], hsecond, rfl, (List.append_nil _).symm⟩
      have hplace : k.place = l.place := by
        refine hlocal hbrittle _ _ _ hplay k.place l.place ?_ ?_
        · simp [← (hsoft k.place).noisy_eq, hloud]
        · rw [eventsAt_append, noisy_append, ← (hsoft' l.place).noisy_eq,
            Bool.eq_true_of_not_eq_false hnoisy, Bool.or_true]
      exact hnoisy (hs.quiet_after hkl hplace h h' later hloud)

/-- **Moves of orderly and local scenes commute.** -/
theorem commuting :
    Moves.Commuting (move? (α := α)) fun s => s.Orderly ∧ (s.brittle = true → s.Local) where
  keep hs h := by
    refine ⟨hs.1.of_moveAt? rfl h, fun hbrittle => ?_⟩
    rw [(moment_of_moveAt? h).2] at hbrittle
    exact (hs.2 (Bool.and_eq_true_iff.1 hbrittle).1).of_move? h
  join hs hkl h h' := by
    obtain ⟨v, es', fs', hl, hk, hperm⟩ := hs.1.join rfl hkl h h'
    exact ⟨v, es', fs', hs.1.move?_later hs.2 hkl h h' hl,
      hs.1.move?_later hs.2 (Ne.symm hkl) h' h hk, hperm⟩

/-- **It is enough that frail tasks are discarded at one place at most when the scene is left to
settle.** Every order can be continued until nothing can move. If no discard panics, it then has
discarded the same tasks as the order in which the scene settles by itself. -/
theorem Orderly.local_of_onePlace (hs : s.Orderly) (h : OnePlace s.settle.2) : s.Local := by
  intro ks t es hplay
  obtain ⟨ls, hrest⟩ := plays_settle t
  obtain ⟨ks₀, hsettle⟩ := plays_settle s
  obtain ⟨fs, hgentle, hsoft⟩ := play?_gentle hsettle
  have ends : ∀ s : Scene α, Moves.Stuck move? s.settle.1 := fun s =>
    stuck_iff.2 (Stage.settled_settle 0 s)
  obtain ⟨-, -, hperm⟩ := commuting_of_not_brittle.determined ⟨hs.gentle, rfl⟩
    (Moves.play?_append hplay hrest) (ends t) hgentle (stuck_gentle (ends s))
  refine h.mono fun place hp => ?_
  have hsame : noisy (eventsAt place (es ++ t.settle.2)) = noisy (eventsAt place fs) :=
    (hperm.filterMap _).any_eq
  rw [(hsoft place).noisy_eq, ← hsame, eventsAt_append, noisy_append, hp, Bool.true_or]

end Scene

end Workforce
