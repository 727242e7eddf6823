import Workforce.Proofs.Accounting
import Workforce.Proofs.Progress
import Workforce.Proofs.Batch.Replies
import Workforce.Proofs.Scene.Aside
import Workforce.Proofs.Scene.Made
import Workforce.Proofs.Scene.Orderly
/-!
# Giving up a batch

A batch that is given up discards at once what it has not had admitted, and closes and cancels its
pool, which nobody listens to any more. What runs there comes to its end, its output is lost, and
the last worker discards the queue. Nothing of that touches any other pool, batch or call.

## Main definitions

* `Workforce.Event.aftermath` — what can still happen to a batch that was given up.
* `Workforce.Batch.Forsaken` — what holds of it.
* `Workforce.Stage.GivesUp` — what is done at once when a batch is given up.
* `Workforce.Stage.Aftermath` — what becomes of it then.

## Main results

* `Workforce.Stage.Steps.lone_call` — the call of a batch is no other one's.
* `Workforce.Stage.Step.forsaken`, `Stage.Steps.forsaken` — a batch that was given up stays so.
* `Workforce.Batch.Wanes.queue_cases` — its queue is whole until the last worker discards it.
* `Workforce.Stage.Steps.batch_fates` — what is known of a batch of which nothing is left.
* `Workforce.Stage.Steps.batch_given_up` — giving up a batch.
-/

namespace Workforce

open Occurrence Trail History

variable {α : Type}

/-! ## What can still happen -/

/-- No task is admitted or started, no submission decided on, no output published or received, and
no call answered. -/
def Event.aftermath : Event α → Bool
  | admitted _ _ | refused _ _ | started _ | published _ | received _ _ _ | toldClosed _ _
  | batchAnswered _ _ => false
  | _ => true

/-- Discards can. -/
lemma aftermath_discards (ts : List (Task α)) :
    ∀ e ∈ ts.map Event.discarded, e.aftermath = true := by
  intro e he
  obtain ⟨t, -, rfl⟩ := List.mem_map.1 he
  rfl

/-- Such events tell a batch nothing. -/
lemma Batch.observeAll_of_aftermath {es : List (Event α)} (h : ∀ e ∈ es, e.aftermath = true)
    (b : Batch α) : b.observeAll es = b :=
  observeAll_of_quiet (fun e he b => by cases e <;> first | rfl | cases h _ he) b

/-- They concern no task but those that end or are discarded. -/
lemma collect_of_aftermath {β : Type} {kind : Occurrence α → Option β} {os : Trail α}
    (h : ∀ o ∈ os, ∃ e : Event α, o = event e ∧ e.aftermath = true)
    (hkind : ∀ e : Event α, e.aftermath = true → kind (event e) = none) : collect kind os = [] := by
  refine List.filterMap_eq_nil_iff.2 fun o ho => ?_
  obtain ⟨e, rfl, he⟩ := h o ho
  exact hkind e he

namespace Pool

variable {p q : Pool α} {m : Moment} {es : List (Event α)}

/-- Workers can exit. -/
lemma aftermath_retire (m : Moment) {reason : List (Event α)}
    (hreason : ∀ e ∈ reason, e.aftermath = true) (p : Pool α) :
    ∀ e ∈ (p.retire m reason).2, e.aftermath = true :=
  forall_mem_retire m p hreason (fun _ _ => rfl) rfl rfl rfl

/-- **In a pool that is deserted and cancelled only exits are left**, and its results stay as they
are. -/
lemma aftermath_perform? (deserted : p.deserted = true) (cancelled : p.cancelled = true) {k : Move}
    (h : p.perform? m k = some (q, es)) :
    (∀ e ∈ es, e.aftermath = true) ∧ q.results = p.results ∧ q.deserted = true ∧
      q.cancelled = true := by
  have hstep : Step p (es.map event) q := .of_perform? h
  refine ⟨?_, (hstep.flow_of_deserted deserted).2, hstep.deserted_mono deserted,
    hstep.cancelled_mono cancelled⟩
  obtain ⟨-, hsubmitting, hreceiving⟩ := deserted_iff.1 deserted
  cases k with
  | take =>
    obtain ⟨n, t, rest, hfree, -⟩ := take?_eq_some_iff.1 h
    simp [cancelled] at hfree
  | leave =>
    obtain ⟨n, -, -, heq⟩ := leave?_eq_some_iff.1 h
    obtain ⟨-, rfl⟩ := Prod.ext_iff.1 heq
    exact aftermath_retire m (forall_mem_farewell rfl) _
  | enter =>
    obtain ⟨s, rest, hs, -⟩ := enter?_eq_some_iff.1 h
    simp [hsubmitting] at hs
  | publish =>
    obtain ⟨output, rest, -, ⟨-, heq⟩ | ⟨hwanted, -⟩⟩ := publish?_eq_some_iff.1 h
    · obtain ⟨-, rfl⟩ := Prod.ext_iff.1 heq
      refine aftermath_retire m (fun e he => ?_) _
      rw [List.mem_singleton.1 he]
      rfl
    · simp [deserted] at hwanted
  | deliver =>
    obtain ⟨r, rest, hr, -⟩ := deliver?_eq_some_iff.1 h
    simp [hreceiving] at hr

/-- Tasks can end. -/
lemma aftermath_finish (id : TaskId) (p : Pool α) :
    (∀ e ∈ (p.finish id).2, e.aftermath = true) ∧ (p.finish id).1.results = p.results := by
  unfold finish
  cases h : p.finish? id with
  | none => exact ⟨by simp, rfl⟩
  | some x =>
    unfold finish? at h
    split at h
    · cases h
    · dsimp only at h
      split at h <;> cases h <;> simp [Event.aftermath]

end Pool

/-! ## Batches that were given up -/

namespace Batch

variable {b c : Batch α} {m : Moment} {es : List (Event α)}

/-- What holds of a batch that was given up, beside what holds of its submitter and of its
receivers: its pool is cancelled. -/
structure Forsaken (b : Batch α) : Prop extends b.GivenUp where
  cancelled : b.pool.cancelled = true

/-- A batch that was given up and what it has become, with nothing but an aftermath. -/
structure Wanes (b : Batch α) (os : Trail α) (c : Batch α) : Prop where
  forsaken : c.Forsaken
  call : c.call = b.call
  values : c.values = b.values
  results : c.pool.results = b.pool.results
  events : ∀ o ∈ os, ∃ e : Event α, o = event e ∧ e.aftermath = true

/-- What becomes at once of its pool when a batch is given up. -/
lemma pool_abandon (b : Batch α) : b.abandon.1.pool = { b.pool with
    closed := true, cancelled := true, submitting := [], receiving := [], held := false } := by
  have hclose : b.pool.close.1 = { b.pool with closed := true } := by
    unfold Pool.close
    split
    · next closed => rw [← closed]
    · rfl
  simp only [abandon, Pool.cancel, hclose]

/-- A batch that is given up is forsaken. -/
lemma forsaken_abandon (b : Batch α) : b.abandon.1.Forsaken := ⟨b.givenUp_abandon, rfl⟩

/-- When it is given up, tasks are discarded and its pool is closed and cancelled. -/
lemma aftermath_abandon (b : Batch α) : ∀ e ∈ b.abandon.2, e.aftermath = true := by
  have hclose : ∀ e ∈ b.pool.close.2, e.aftermath = true := by
    rcases close_snd b.pool with h | h <;> rw [h]
    · simp
    · exact List.forall_mem_singleton.2 rfl
  rw [abandon_snd, List.forall_mem_cons, List.forall_mem_append, List.forall_mem_append]
  exact ⟨rfl, ⟨hclose, List.forall_mem_singleton.2 rfl⟩, aftermath_discards _⟩

/-- Events as they occur. -/
lemma exists_event {P : Event α → Prop} (h : ∀ e ∈ es, P e) :
    ∀ o ∈ es.map event, ∃ e : Event α, o = event e ∧ P e := by
  intro o ho
  obtain ⟨e, he, rfl⟩ := List.mem_map.1 ho
  exact ⟨e, rfl, h e he⟩

namespace Forsaken

/-- Nothing has happened yet. -/
lemma wanes (hb : b.Forsaken) : b.Wanes [] b := ⟨hb, rfl, rfl, rfl, by simp⟩

/-- It stays so in every move. -/
lemma perform? (hb : b.Forsaken) {k : Move} (h : b.perform? m k = some (c, es)) :
    b.Wanes (es.map event) c := by
  obtain ⟨l, q, -, hq, rfl⟩ := hb.toGivenUp.exists_of_perform? h
  obtain ⟨haftermath, hresults, hdeserted, hcancelled⟩ :=
    Pool.aftermath_perform? hb.deserted hb.cancelled hq
  rw [observeAll_of_aftermath haftermath]
  exact ⟨⟨⟨hb.finished, hdeserted⟩, hcancelled⟩, rfl, rfl, hresults, exists_event haftermath⟩

/-- It stays so whatever happens from outside. -/
lemma apply (hb : b.Forsaken) (x : Turn) : b.Wanes ((x.apply b).2.map event) (x.apply b).1 := by
  have hgiven : (x.apply b).1.GivenUp := hb.toGivenUp.apply x
  cases x with
  | elsewhere => exact hb.wanes
  | wait time => exact hb.wanes
  | follow =>
    refine ⟨⟨hgiven, ?_⟩, rfl, rfl, rfl, by simp [Turn.apply]⟩
    show (b.pool.cancelled || b.pool.child) = true
    rw [hb.cancelled, Bool.true_or]
  | finish name =>
    obtain ⟨haftermath, hresults⟩ := Pool.aftermath_finish name b.pool
    obtain ⟨-, -, -, hcancelled, -⟩ := Pool.finish_frame name b.pool
    exact ⟨⟨hgiven, hcancelled.trans hb.cancelled⟩, rfl, rfl, hresults, exists_event haftermath⟩

end Forsaken

/-- One aftermath after the other. -/
lemma Wanes.trans {d : Batch α} {os ps : Trail α} (h : b.Wanes os c) (k : c.Wanes ps d) :
    b.Wanes (os ++ ps) d where
  forsaken := k.forsaken
  call := k.call.trans h.call
  values := k.values.trans h.values
  results := k.results.trans h.results
  events o ho := (List.mem_append.1 ho).elim (h.events o) (k.events o)

/-- What a batch that was given up holds is in the queue or on a worker. -/
lemma Forsaken.stock_eq (hc : c.Forsaken) (sound : c.Sound) :
    c.stock = c.pool.queue ++ c.pool.underway := by
  obtain ⟨-, hsubmitting, -⟩ := Pool.deserted_iff.1 hc.deserted
  obtain ⟨-, hremaining⟩ := sound.finished hc.finished
  rw [Batch.stock, hremaining, Pool.stock, Pool.inHand, hsubmitting]
  rfl

/-- In an aftermath the queue stays as it is until no worker is left, and is discarded then. -/
lemma Wanes.queue_cases (h : b.Wanes (es.map event) c) (steps : Batch.Steps b es c)
    (hb : b.Forsaken) (sound : b.Sound) (sound' : c.Sound) :
    (c.pool.underway ++ collect ended? (es.map event)).Perm b.pool.underway ∧
      ((c.pool.workers ≠ 0 ∧ c.pool.queue = b.pool.queue ∧
          collect discarded? (es.map event) = []) ∨
        (c.pool.workers = 0 ∧ c.pool.queue = [] ∧
          (collect discarded? (es.map event)).Perm b.pool.queue)) := by
  obtain ⟨os, psteps, hos, -⟩ := Batch.Steps.pool steps
  obtain ⟨hadmits, -, hends, -⟩ := collect_congr hos
  have hruns := psteps.underway_of_cancelled hb.cancelled
  have hbalance := Batch.Steps.balance steps
  rw [h.forsaken.stock_eq sound', hb.stock_eq sound] at hbalance
  rw [hends] at hruns
  refine ⟨hruns, ?_⟩
  -- what is discarded has left the queue
  have hleft : (c.pool.queue ++ collect discarded? (es.map event)).Perm b.pool.queue := by
    classical
    rw [List.perm_iff_count] at hbalance hruns ⊢
    intro t
    have hall := hbalance t
    have hon := hruns t
    simp only [List.count_append] at hall hon ⊢
    omega
  by_cases hw : c.pool.workers = 0
  · have hempty := sound'.pool.queue_of_gone hw
    rw [hempty, List.nil_append] at hleft
    exact .inr ⟨hw, hempty, hleft⟩
  · have hkept := psteps.queue_of_cancelled hb.cancelled hw
    have hadmitted : Trail.admitted os = [] := by
      rw [Trail.admitted, hadmits, collect_of_aftermath h.events fun e he => by cases e <;> trivial]
      rfl
    rw [hadmitted, List.append_nil] at hkept
    rw [hkept] at hleft
    refine .inl ⟨hw, hkept, ?_⟩
    have hlength := hleft.length_eq
    rw [List.length_append] at hlength
    exact List.eq_nil_of_length_eq_zero (by omega)

end Batch

namespace Stage

open Scene

variable {g g' : Stage α} {h h' : History α} {i : Nat} {b c : Batch α}

/-- A step leaves a batch forsaken that was given up. -/
lemma Step.forsaken (step : Step g h g') (hb : g.scene.batches[i]? = some b)
    (forsaken : b.Forsaken) :
    ∃ c, g'.scene.batches[i]? = some c ∧ b.Wanes (trailAt (.batch i) h) c := by
  rcases step.at_batch hb with ⟨k, c, es, move, hc, htrail, -⟩ | ⟨x, hc, htrail, -⟩ |
    ⟨hpending, -⟩
  · exact ⟨c, hc, htrail ▸ forsaken.perform? move⟩
  · exact ⟨_, hc, htrail ▸ forsaken.apply x⟩
  · have hheld : b.pool.held = false := (Pool.deserted_iff.1 forsaken.deserted).1
    simp [Batch.pending, hheld] at hpending

/-- **A batch that was given up stays so**: nothing happens to it any more but ends of tasks, exits
of workers and discards. -/
theorem Steps.forsaken (after : Steps g h g') (hb : g.scene.batches[i]? = some b)
    (forsaken : b.Forsaken) :
    ∃ c, g'.scene.batches[i]? = some c ∧ b.Wanes (trailAt (.batch i) h) c := by
  induction after with
  | refl => exact ⟨b, hb, forsaken.wanes⟩
  | tail _ last ih =>
    obtain ⟨c, hc, hwanes⟩ := ih
    obtain ⟨d, hd, hlast⟩ := last.forsaken hc hwanes.forsaken
    rw [trailAt_append]
    exact ⟨d, hd, hwanes.trans hlast⟩

/-! ## Whose call is given up -/

/-- **The call of a batch is no other one's**: nobody with its number waits on a pool, and no other
batch was called by it. -/
theorem Steps.lone_call (run : Steps {} h g) (hb : g.scene.batches[i]? = some b) :
    (∀ p ∈ g.scene.pools,
      b.call ∉ p.submitting.filterMap (·.caller) ++ p.receiving.filterMap (·.caller)) ∧
      ∀ j c, g.scene.batches[j]? = some c → c.call = b.call → j = i := by
  obtain ⟨tasks, hcall, -⟩ := run.batch_tasks hb
  refine ⟨fun p hp hwaits => ?_, fun j c hc heq => ?_⟩
  · obtain ⟨j, hj⟩ := List.mem_iff_getElem?.1 hp
    rcases run.exists_waiting hj hwaits with ⟨q, hq, hcaller⟩ | ⟨r, hr, hcaller⟩
    · cases run.call_once hq hcall hcaller rfl
    · cases run.call_once hr hcall hcaller rfl
  · obtain ⟨others, hother, -⟩ := run.batch_tasks hc
    rw [heq] at hother
    cases run.call_once hother hcall rfl rfl
    rfl

/-- What occurs at one place only is what occurs there. -/
lemma eq_ofTrail {place : Place} {k : History α} (h : ∀ x ∈ k, x.1 = place) :
    k = ofTrail place (trailAt place k) := by
  induction k with
  | nil => rfl
  | cons x k ih =>
    obtain ⟨q, o⟩ := x
    obtain rfl : q = place := h _ List.mem_cons_self
    have hcons : trailAt q ((q, o) :: k) = o :: trailAt q k := by simp [trailAt]
    rw [hcons, ofTrail, List.map_cons, ← ofTrail, ← ih fun y hy => h y (List.mem_cons_of_mem _ hy)]

/-- What is done at once when a pending batch is given up. -/
structure GivesUp (i : Nat) (b : Batch α) (s : Scene α) (r : Scene α × History α) : Prop where
  /-- The batch is replaced by what it becomes, and nothing else in the scene changes: no other
  batch, no pool, not the parent and not the clock. If discards of frail tasks still panic, they do
  so until one of them is discarded here. -/
  scene : r.1 = s.putBatch i b.abandon
  /-- Nothing occurs anywhere else. -/
  history : r.2 = ofTrail (.batch i) (b.abandon.2.map event)
  /-- The tasks that have not been admitted are discarded: the one that waits for its place, and
  those that were still to be handed in. -/
  discarded : collect discarded? (trailAt (.batch i) r.2) = b.pool.inHand ++ b.remaining
  /-- Nothing else happens to tasks or outputs, and no call is answered. -/
  events : ∀ o ∈ trailAt (.batch i) r.2, ∃ e : Event α, o = event e ∧ e.aftermath = true
  /-- The other calls that are pending stay so. -/
  calls : ∀ k, k ∈ r.1.pendingCalls ↔ k ∈ s.pendingCalls ∧ k ≠ b.call

/-- A call is pending when somebody with its number waits on a pool, or when it is the call of a
batch that has not returned. -/
lemma mem_pendingCalls {s : Scene α} {k : Nat} : k ∈ s.pendingCalls ↔
    (∃ p ∈ s.pools, k ∈ p.submitting.filterMap (·.caller) ++ p.receiving.filterMap (·.caller)) ∨
      ∃ (j : Nat) (c : Batch α), s.batches[j]? = some c ∧ c.pending = true ∧ c.call = k := by
  have hbatches : k ∈ (s.batches.filter (·.pending)).map (·.call) ↔
      ∃ (j : Nat) (c : Batch α), s.batches[j]? = some c ∧ c.pending = true ∧ c.call = k := by
    constructor
    · intro hk
      obtain ⟨c, hc, hcall⟩ := List.mem_map.1 hk
      obtain ⟨hmem, hpending⟩ := List.mem_filter.1 hc
      obtain ⟨j, hj⟩ := List.mem_iff_getElem?.1 hmem
      exact ⟨j, c, hj, hpending, hcall⟩
    · rintro ⟨j, c, hj, hpending, hcall⟩
      exact List.mem_map.2 ⟨c, List.mem_filter.2 ⟨List.mem_of_getElem? hj, hpending⟩, hcall⟩
  rw [pendingCalls, List.mem_append, List.mem_flatMap, hbatches]

/-- When a batch is given up its call is not pending any more, and all others stay so. -/
lemma Steps.mem_pendingCalls_abandon (run : Steps {} h g) (hb : g.scene.batches[i]? = some b)
    (k : Nat) : k ∈ (g.scene.putBatch i b.abandon).pendingCalls ↔
      k ∈ g.scene.pendingCalls ∧ k ≠ b.call := by
  obtain ⟨hpools, hothers⟩ := run.lone_call hb
  rw [mem_pendingCalls, mem_pendingCalls]
  have hlt : i < g.scene.batches.length := (List.getElem?_eq_some_iff.1 hb).1
  have hself : (g.scene.putBatch i b.abandon).batches[i]? = some b.abandon.1 :=
    List.getElem?_set_self hlt
  have hother : ∀ j, j ≠ i →
      (g.scene.putBatch i b.abandon).batches[j]? = g.scene.batches[j]? := fun j hj =>
    List.getElem?_set_ne (Ne.symm hj)
  constructor
  · rintro (⟨p, hp, hk⟩ | ⟨j, c, hc, hpending, rfl⟩)
    · exact ⟨.inl ⟨p, hp, hk⟩, fun heq => hpools p hp (heq ▸ hk)⟩
    · by_cases hj : j = i
      · subst hj
        rw [hself] at hc
        cases hc
        cases hpending
      · rw [hother j hj] at hc
        exact ⟨.inr ⟨j, c, hc, hpending, rfl⟩, fun heq => hj (hothers j c hc heq)⟩
  · rintro ⟨⟨p, hp, hk⟩ | ⟨j, c, hc, hpending, rfl⟩, hne⟩
    · exact .inl ⟨p, hp, hk⟩
    · by_cases hj : j = i
      · subst hj
        rw [hb] at hc
        cases hc
        exact absurd rfl hne
      · exact .inr ⟨j, c, (hother j hj).trans hc, hpending, rfl⟩

/-- What is done at once when a pending batch is given up. -/
lemma Steps.gives_up (run : Steps {} h g) (hb : g.scene.batches[i]? = some b)
    (pending : b.pending = true) :
    GivesUp i b g.scene (g.scene.order g.calls (.abandon b.call)) := by
  obtain ⟨hpools, hothers⟩ := run.lone_call hb
  have hcalls : g.scene.pendingCalls.contains b.call = true := by
    simpa using mem_pendingCalls.2 (.inr ⟨i, b, hb, pending, rfl⟩)
  -- nobody else is concerned
  have hspared : ∀ j c, g.scene.batches[j]? = some c → j ≠ i →
      (if c.pending && c.call == b.call then c.abandon else (c, [])) = (c, []) := by
    intro j c hc hj
    have hne : c.call ≠ b.call := fun heq => hj (hothers j c hc heq)
    simp [hne]
  have hown : (if b.pending && b.call == b.call then b.abandon else (b, [])) = b.abandon := by
    simp [pending]
  have habandon : g.scene.abandon b.call =
      (g.scene.putBatch i b.abandon, b.abandon.2.map (Place.batch i, ·)) := by
    have hall := everywhere_of_others (f := fun _ => Pool.withdraw b.call)
      (g := fun _ c => if c.pending && c.call == b.call then c.abandon else (c, [])) hb
      (fun _ p hp => withdraw_eq_self (hpools p hp)) fun j c hc hj _ => hspared j c hc hj
    rwa [hown] at hall
  have hscene : (g.scene.order g.calls (.abandon b.call)).1 = g.scene.putBatch i b.abandon := by
    rw [order, if_pos hcalls, habandon]
  have htrail : trailAt (.batch i) (g.scene.order g.calls (.abandon b.call)).2 =
      b.abandon.2.map event := by
    obtain ⟨d, es, -, htrail, -⟩ := (Changes.order g.calls g.scene (.abandon b.call)).batch hb
    have hevents := eventsAt_events _ _ htrail
    rw [events_abandon _ _ _ hcalls, habandon, eventsAt_map] at hevents
    rw [htrail, hevents]
  have hplace : ∀ x ∈ (g.scene.order g.calls (.abandon b.call)).2, x.1 = .batch i := by
    intro x hx
    rw [order, if_pos hcalls] at hx
    rcases List.mem_append.1 hx with hx | hx
    · -- nobody waits on a pool with that number
      obtain ⟨y, hy, hx⟩ := List.mem_flatMap.1 hx
      obtain ⟨hsub, hrec⟩ :=
        not_or.1 fun hor => hpools y.1 (List.fst_mem_of_mem_zipIdx hy) (List.mem_append.2 hor)
      have hsub : y.1.submitting.filter (·.caller == some b.call) = [] :=
        List.filter_eq_nil_iff.2 fun s hs hc =>
          hsub (List.mem_filterMap.2 ⟨s, hs, by simpa using hc⟩)
      have hrec : y.1.receiving.filter (·.caller == some b.call) = [] :=
        List.filter_eq_nil_iff.2 fun r hr hc =>
          hrec (List.mem_filterMap.2 ⟨r, hr, by simpa using hc⟩)
      rw [Pool.withdraw, hsub, hrec] at hx
      cases hx
    · obtain ⟨⟨c, j⟩, hy, hx⟩ := List.mem_flatMap.1 hx
      by_cases hj : j = i
      · subst hj
        obtain ⟨o, -, rfl⟩ := List.mem_map.1 hx
        rfl
      · rw [hspared j c (List.mem_zipIdx_iff_getElem?.1 hy) hj] at hx
        cases hx
  refine ⟨hscene, (eq_ofTrail hplace).trans (by rw [htrail]), ?_, ?_, fun k => ?_⟩
  · rw [htrail, Batch.collect_discarded_abandon]
  · rw [htrail]
    exact Batch.exists_event b.aftermath_abandon
  · rw [hscene]
    exact run.mem_pendingCalls_abandon hb k

/-! ## What becomes of it -/

/-- What becomes of a batch that was given up: `b` is what it was then and `c` what it is at a later
stage, `past` is all that occurred until then, giving it up included, and `since` what occurred
since. -/
structure Aftermath (i : Nat) (b c : Batch α) (past since : History α) (g : Stage α) : Prop where
  here : g.scene.batches[i]? = some c
  /-- Its call does not return any more, and nobody has a task of it in hand. -/
  idle : c.pending = false ∧ c.pool.submitting = [] ∧ c.remaining = []
  /-- None of its tasks has been admitted or started since, no output has been published or
  received, and no call has been answered. -/
  events : ∀ o ∈ trailAt (.batch i) since, ∃ e : Event α, o = event e ∧ e.aftermath = true
  /-- Every task that ran runs on or has come to its end. -/
  runs : (c.pool.underway ++ collect ended? (trailAt (.batch i) since)).Perm b.pool.underway
  /-- What it handed over has gone nowhere. -/
  lost : c.pool.results = b.pool.results ∧ c.values = b.values
  /-- What was queued then is queued as long as a worker is left, and has been discarded when none
  is. -/
  queue : (c.pool.workers ≠ 0 ∧ c.pool.queue = b.pool.queue ∧
      collect discarded? (trailAt (.batch i) since) = []) ∨
    (c.pool.workers = 0 ∧ c.pool.queue = [] ∧
      (collect discarded? (trailAt (.batch i) since)).Perm b.pool.queue)
  /-- When nothing can move and none of its tasks runs, no worker is left. -/
  gone : g.Settled → c.pool.running = [] → c.pool.workers = 0
  /-- That is how it ends: from here on, without a command and without any time passing. -/
  ends : g.Settled → ∃ later g', Steps g later g' ∧ g'.Settled ∧ g'.calls = g.calls ∧
    g'.scene.now = g.scene.now ∧ ∃ d, g'.scene.batches[i]? = some d ∧ d.pool.running = []
  /-- When no worker is left, each of its tasks has ended or been discarded: as many times as it was
  handed over, and just once if tasks carry the names of their calls. -/
  fates : c.pool.workers = 0 → ∃ tasks before after,
    trailAt (.batch i) (past ++ since) = before ++ batched b.call tasks :: after ∧
      (collect ended? after ++ collect discarded? after).Perm tasks ∧
      ((past ++ since).Named → ∀ t ∈ tasks,
        ((collect ended? (trail (past ++ since)) ++
          collect discarded? (trail (past ++ since))).map Task.id).count t.id = 1)

/-- When nothing is left of a batch, each of its tasks has ended or been discarded. -/
lemma Steps.batch_fates (run : Steps {} h g) (hb : g.scene.batches[i]? = some b)
    (stock : b.stock = []) : ∃ tasks before after,
      trailAt (.batch i) h = before ++ batched b.call tasks :: after ∧
        (collect ended? after ++ collect discarded? after).Perm tasks ∧
        (h.Named → ∀ t ∈ tasks, ((collect ended? (trail h) ++
          collect discarded? (trail h)).map Task.id).count t.id = 1) := by
  obtain ⟨b₀, tasks, before, es, starts, steps, -, htrail⟩ := run.changes_of_empty.batch_life hb
  have hbalance := Batch.Steps.balance steps
  rw [stock, starts.stock_eq, List.nil_append] at hbalance
  have hended := collect_opening_append ended? b₀.pool rfl rfl es
  have hdiscarded := collect_opening_append discarded? b₀.pool rfl rfl es
  refine ⟨tasks, before, (b₀.pool.opening ++ es).map event, htrail, ?_, fun named t ht => ?_⟩
  · rwa [hended, hdiscarded]
  · have honce := run.once named
    rw [List.append_assoc, List.map_append] at honce
    refine List.count_eq_one_of_mem honce.of_append_right (List.mem_map_of_mem ?_)
    -- what occurs in the batch after its call occurs in the run
    have hpart : ∀ kind : Occurrence α → Option (Task α),
        collect kind ((b₀.pool.opening ++ es).map event) ⊆ collect kind (trail h) := by
      intro kind u hu
      refine ((trailAt_sublist (.batch i) h).filterMap kind).subset ?_
      have hafter : ((b₀.pool.opening ++ es).map event).Sublist (trailAt (.batch i) h) := by
        rw [htrail]
        exact (List.sublist_cons_self _ _).trans (List.sublist_append_right _ _)
      exact (hafter.filterMap kind).subset hu
    rcases List.mem_append.1 (hbalance.symm.subset ht) with hu | hu
    · exact List.mem_append_left _ (hpart _ (hended ▸ hu))
    · exact List.mem_append_right _ (hpart _ (hdiscarded ▸ hu))

/-- **Giving up a batch.** A pending batch that is given up discards at once, and never admits, what
has not been admitted. None of its tasks starts any more. Every task that runs comes to its end and
its output goes nowhere; the last worker discards the queue. So when nothing can move and none of
its tasks runs, no worker is left, and each of its tasks has ended or been discarded just once. At
the moment it is given up nothing changes anywhere else: no pool, no other batch, not the parent,
and no other call.

**Proof sketch.** Nobody else has the number of the call, so that only the batch is touched. From
then on it is forsaken: its submitter has ended, its pool is deserted, closed and cancelled. Such a
pool starts nothing and admits nothing, and in every step there is nothing but an end of a task or
an exit. Of the queue nothing is taken, so that it is whole until the last worker drops it, and a
worker of a deserted pool without a running task could exit. The balance of the tasks of the batch
over the whole run gives the rest. -/
theorem Steps.batch_given_up (run : Steps {} h g) (hb : g.scene.batches[i]? = some b)
    (pending : b.pending = true) :
    GivesUp i b g.scene (g.scene.order g.calls (.abandon b.call)) ∧
      ∀ since g', Steps ⟨g.calls + 1, (g.scene.order g.calls (.abandon b.call)).1⟩ since g' →
        ∃ c, Aftermath i b c (h ++ (g.scene.order g.calls (.abandon b.call)).2) since g' := by
  have hgives := run.gives_up hb pending
  refine ⟨hgives, fun since g' after => ?_⟩
  have run' : Steps {} (h ++ (g.scene.order g.calls (.abandon b.call)).2)
      ⟨g.calls + 1, (g.scene.order g.calls (.abandon b.call)).1⟩ := run.tail (.order g _)
  have whole := run'.trans after
  have hlt : i < g.scene.batches.length := (List.getElem?_eq_some_iff.1 hb).1
  have hb' : (g.scene.order g.calls (.abandon b.call)).1.batches[i]? = some b.abandon.1 := by
    rw [hgives.scene]
    exact List.getElem?_set_self hlt
  obtain ⟨c, hc, hwanes⟩ := after.forsaken hb' b.forsaken_abandon
  obtain ⟨d, es, hd, htrail, steps⟩ := (after.changes (Steps.batches_sound run')).batch hb'
  obtain rfl := Option.some.inj (hc.symm.trans hd)
  have hsound' := Steps.batches_sound run' _ (List.mem_of_getElem? hb')
  have hsound : c.Sound := Steps.batches_sound whole c (List.mem_of_getElem? hc)
  rw [htrail] at hwanes
  obtain ⟨hruns, hqueue⟩ := hwanes.queue_cases steps b.forsaken_abandon hsound' hsound
  have hresults := hwanes.results
  rw [b.pool_abandon] at hruns hqueue hresults
  obtain ⟨hheld, hsubmitting, -⟩ := Pool.deserted_iff.1 hwanes.forsaken.deserted
  refine ⟨c, hc, ⟨hheld, hsubmitting, (hsound.finished hwanes.forsaken.finished).2⟩,
    htrail ▸ hwanes.events, htrail ▸ hruns, ⟨hresults, hwanes.values⟩, htrail ▸ hqueue,
    fun settled hrunning => ?_, fun settled => Steps.run_out whole settled hc, fun hw => ?_⟩
  · have hrest := Batch.resting_of_step? (settled.2 c (List.mem_of_getElem? hc))
    exact (hrest.empty_of_deserted hsound.pool hwanes.forsaken.deserted hrunning).1
  · have hcall : c.call = b.call := hwanes.call
    have hstock : c.stock = [] := by
      obtain ⟨-, hrunning, hpublishing⟩ := Pool.workers_eq_zero_iff.1 hw
      rw [hwanes.forsaken.stock_eq hsound, hsound.pool.queue_of_gone hw, Pool.underway, hrunning]
      rfl
    have hfates := Steps.batch_fates whole hc hstock
    rwa [hcall] at hfates

/-! ## An example -/

/-- A task of the batch in the run below; it runs until it is told to end. -/
def heldTask (k : Nat) : Task Nat :=
  { id := ⟨0, some k⟩, duration := none, outcome := .value k, frail := false, trace := none }

/-- A batch of five tasks on one worker: one runs, two are queued, one waits for its place, and one
has not been handed in. -/
def heldBatch : Batch Nat where
  call := 0
  pool :=
    { size := 1
      size_pos := Nat.one_pos
      counted := 1
      idle := 0
      running := [Run.start 0 (heldTask 0)]
      publishing := []
      queue := [heldTask 1, heldTask 2]
      results := []
      submitting := [⟨none, heldTask 3⟩]
      receiving := [⟨none, true⟩]
      closed := false
      cancelled := false
      child := false
      held := true }
  total := 5
  remaining := [heldTask 4]
  submitter := .active
  admitted := 3
  values := []
  since := 0
  deadline := none

/-- The scene then. -/
def heldStage : Stage Nat := ⟨1, { batches := [heldBatch] }⟩

/-- What has occurred until then. -/
def heldTrail : Trail Nat :=
  [batched 0 [heldTask 0, heldTask 1, heldTask 2, heldTask 3, heldTask 4], event (.poolStarted 1),
    event .workerStarted, event (.admitted none (heldTask 0)), event (.started (heldTask 0)),
    event (.admitted none (heldTask 1)), event (.admitted none (heldTask 2))]

/-- The run up to there. -/
lemma heldRun : Steps {} (ofTrail (.batch 0) heldTrail) heldStage := by
  have called : Steps ({} : Stage Nat) _ _ := Chain.single (.order {} (.batch 1
    [heldTask 0, heldTask 1, heldTask 2, heldTask 3, heldTask 4] .unlimited))
  have busy := ((called.tail (.batch (i := 0) _ .feed rfl rfl)).tail
    (.batch (i := 0) _ (.pool .enter) rfl rfl)).tail (.batch (i := 0) _ (.pool .take) rfl rfl)
  have filling := (busy.tail (.batch (i := 0) _ .feed rfl rfl)).tail
    (.batch (i := 0) _ (.pool .enter) rfl rfl)
  have full := (filling.tail (.batch (i := 0) _ .feed rfl rfl)).tail
    (.batch (i := 0) _ (.pool .enter) rfl rfl)
  have last := full.tail (.batch (i := 0) _ .feed rfl rfl)
  exact last

/-- What occurs after it has been given up: the task that runs comes to its end, and the worker
exits. -/
def fallTrail : Trail Nat :=
  [event (.ended (heldTask 0)), event .receiverGone, event (.discarded (heldTask 1)),
    event (.discarded (heldTask 2)), event .workerStopped, event .resultsClosed]

/-- The scene at the end. -/
def fallStage : Stage Nat :=
  ⟨2, { batches := [{ heldBatch.abandon.1 with pool := { heldBatch.abandon.1.pool with
    counted := 0, running := [], queue := [] } }] }⟩

/-- That is a run. -/
lemma fallRun : Steps ⟨1 + 1, (heldStage.scene.order 1 (.abandon 0)).1⟩
    (ofTrail (.batch 0) fallTrail) fallStage := by
  have ended : Steps (⟨1 + 1, (heldStage.scene.order 1 (.abandon 0)).1⟩ : Stage Nat) _ _ :=
    Chain.single (.finish _ ⟨0, some 0⟩)
  have last := ended.tail (.batch (i := 0) _ (.pool .publish) rfl rfl)
  exact last

/-- In that run two tasks are discarded at once, one ends, and the worker discards the other two. -/
theorem batch_given_up_held :
    Steps {} (ofTrail (.batch 0) heldTrail) heldStage ∧ heldBatch.pending = true ∧
      GivesUp 0 heldBatch heldStage.scene (heldStage.scene.order 1 (.abandon 0)) ∧
      ∃ c, Aftermath 0 heldBatch c
        (ofTrail (.batch 0) heldTrail ++ (heldStage.scene.order 1 (.abandon 0)).2)
        (ofTrail (.batch 0) fallTrail) fallStage ∧ c.pool.workers = 0 := by
  have hall := Steps.batch_given_up heldRun (i := 0) (b := heldBatch) rfl rfl
  obtain ⟨c, hc⟩ := hall.2 _ _ fallRun
  refine ⟨heldRun, rfl, hall.1, c, hc, ?_⟩
  obtain rfl := Option.some.inj hc.here
  rfl

end Stage

end Workforce
