import Workforce.Proofs.Cancelling
import Workforce.Proofs.Scene.Mirror
/-!
# Closing and cancelling in either order

Who closes a pool that has been closed, or cancels one that has been cancelled, changes nothing. If
a pool is both closed and cancelled, it makes no difference which comes first, although idle workers
exit for different reasons then: both commands find the same workers idle, and an idle worker of a
pool at rest leaves behind an empty queue, so that nothing is discarded. Once the last worker has
exited those who wait for outputs are told, and there is nothing left for the other command to do.

## Main definitions

* `Workforce.Pool.dismissed` — a pool after its idle workers have exited.
* `Workforce.Pool.Still`, `Pool.Leaving` — a pool in which nothing else can move, and the pool while
  its workers exit.
* `Workforce.Stage.Obeys` — commands are given one after the other, and after each of them
  everything moves until nothing can.
* `Workforce.Stage.Ends` — what closing and cancelling a pool come to.

## Main results

* `Workforce.Pool.Leaving.of_perform?`, `Scene.leaving_of_play?` — in whatever order moves are made,
  idle workers exit and receivers are told, and nothing else happens.
* `Workforce.Stage.Steps.close_cancel` — closing and cancelling are idempotent and commute.
-/

namespace Workforce

open Occurrence Trail History

variable {α : Type}

/-- The call that is answered, with the answer. -/
def Occurrence.answer? : Occurrence α → Option (Nat × Answer α)
  | event e => e.answer?
  | _ => none

/-- The call of a receiver is told that the results are closed. -/
def Receiver.tell (r : Receiver) : Option (Nat × Answer α) :=
  r.caller.map (·, if r.drains then .terminated else .closed)

/-! ## Idle workers exit -/

namespace Pool

variable {p q r : Pool α} {m : Moment} {es : List (Event α)} {told : List Receiver}

/-- The pool after its idle workers have exited. If no other worker was left, those who wait for
outputs have been told that there are none. -/
def dismissed (p : Pool α) : Pool α :=
  { p with
    idle := 0
    counted := p.counted - p.idle
    receiving := if p.running.length + p.publishing.length = 0 then [] else p.receiving }

/-- Those who are told. -/
def informed (p : Pool α) : List Receiver :=
  if p.running.length + p.publishing.length = 0 then p.receiving else []

/-- The pool after it has been told to close, or else to cancel. -/
def ended (close : Bool) (p : Pool α) : Pool α :=
  { p with closed := p.closed || close, cancelled := p.cancelled || !close }

/-- Once idle workers have exited there is nobody left to tell. -/
lemma informed_dismissed (p : Pool α) : p.dismissed.informed = [] := by
  unfold informed dismissed
  split <;> simp_all

/-- Whatever a pool is told twice, its idle workers exit once. -/
lemma dismissed_ended_dismissed (a b : Bool) (p : Pool α) :
    ((p.ended a).dismissed.ended b).dismissed = ((p.ended a).ended b).dismissed := by
  unfold dismissed ended
  split <;> simp_all

/-- It does not matter what a pool is told first. -/
lemma ended_comm (a b : Bool) (p : Pool α) : (p.ended a).ended b = (p.ended b).ended a := by
  unfold ended
  simp [Bool.or_right_comm]

/-- Nothing moves in the pool but idle workers that exit, and after them receivers that are told:
there is nothing to take, no room for submissions or outputs, and no output at hand for those who
wait. -/
structure Still (p : Pool α) : Prop where
  held : p.held = true
  take : p.idle = 0 ∨ p.queue = []
  enter : p.submitting = [] ∨ p.idle = 0 ∧ p.workers ≠ 0 ∧ p.capacity ≤ p.queue.length
  publish : p.publishing = [] ∨ p.capacity ≤ p.results.length
  deliver : p.receiving = [] ∨ p.results = []

/-- So it is in a pool at rest, and it does not matter whether the pool is closed or cancelled. -/
lemma Resting.still (h : p.Resting) (held : p.held = true) (close : Bool) :
    (p.ended close).Still where
  held := held
  take := h.idle_cases.imp_right And.left
  enter := by
    refine h.enter.imp_right fun ⟨hw, hfull⟩ => ⟨h.idle_cases.resolve_right ?_, hw, hfull⟩
    rintro ⟨hqueue, -⟩
    have := p.capacity_pos
    rw [hqueue, List.length_nil] at hfull
    omega
  publish := h.publish.imp_right And.right
  deliver := h.deliver.imp_right And.left

/-- The pool has become `q` by exits of idle workers, and those `told` have been told. -/
structure Leaving (p q : Pool α) (told : List Receiver) : Prop where
  idle : q.idle ≤ p.idle
  line : told ++ q.receiving = p.receiving
  last : told = [] ∨ q.workers = 0
  same : q = { p with
    idle := q.idle, counted := p.counted - (p.idle - q.idle), receiving := q.receiving }

/-- Nobody has exited yet. -/
lemma Leaving.refl (p : Pool α) : Leaving p p [] :=
  ⟨Nat.le_refl _, rfl, .inl rfl, by simp⟩

/-- A worker that leaves behind an empty queue discards nothing. -/
lemma retire_of_empty (m : Moment) (reason : List (Event α)) (hqueue : p.queue = []) :
    p.retire m reason = ({ p with counted := p.counted - 1 },
      reason ++ .workerStopped :: if p.workers = 0 then [.resultsClosed] else []) := by
  obtain ⟨⟩ := p
  cases hqueue
  unfold retire
  split <;> simp

/-- **A move is one more exit, or one more receiver that is told.** -/
lemma Leaving.of_perform? (still : p.Still) (h : Leaving p q told) {k : Move}
    (move : q.perform? m k = some (r, es)) : ∃ more, Leaving p r (told ++ more) ∧
      collect discarded? (es.map event) = [] ∧ es.filterMap Event.answer? =
        more.filterMap Receiver.tell := by
  obtain ⟨hidle, hline, hlast, hsame⟩ := h
  have hqueue : q.queue = p.queue := by rw [hsame]
  have hsubmitting : q.submitting = p.submitting := by rw [hsame]
  have hpublishing : q.publishing = p.publishing := by rw [hsame]
  have hresults : q.results = p.results := by rw [hsame]
  have hcapacity : q.capacity = p.capacity := by rw [hsame]; rfl
  have hheld : q.held = true := by rw [hsame]; exact still.held
  cases k with
  | take =>
    obtain ⟨n, t, rest, -, hn, hq, -⟩ := take?_eq_some_iff.1 move
    rcases still.take with hz | hnil
    · omega
    · simp [hqueue, hnil] at hq
  | leave =>
    obtain ⟨n, hn, -, heq⟩ := leave?_eq_some_iff.1 move
    have hempty : ({ q with idle := n } : Pool α).queue = [] :=
      hqueue.trans (still.take.resolve_left (by omega))
    have htold : told = [] := hlast.resolve_right fun hw => by
      rw [workers] at hw
      omega
    rw [retire_of_empty m _ hempty] at heq
    cases heq
    refine ⟨[], ⟨by dsimp only; omega, by rw [List.append_nil]; exact hline,
      .inl (by rw [htold]; rfl), ?_⟩, ?_, ?_⟩
    · have hcounted : q.counted - 1 = p.counted - (p.idle - n) := by
        rw [hsame]
        dsimp only
        omega
      rw [hcounted]
      conv_lhs => rw [hsame]
    · unfold farewell
      split <;> split <;> rfl
    · unfold farewell
      split <;> split <;> rfl
  | enter =>
    obtain ⟨s, rest, hs, hwhy⟩ := enter?_eq_some_iff.1 move
    obtain ⟨hz, hw, hfull⟩ := still.enter.resolve_left (by simp [← hsubmitting, hs])
    have hroom : ¬q.queue.length < q.capacity := by rw [hqueue, hcapacity]; omega
    have hworkers : q.workers = p.workers := by
      have : q.idle = p.idle := by omega
      rw [hsame]
      simp only [workers, this]
    rcases hwhy with ⟨hgone | ⟨hlt, -⟩, -⟩ | ⟨-, hlt, -⟩
    · exact absurd (hworkers.symm.trans hgone) hw
    · exact absurd hlt hroom
    · exact absurd hlt hroom
  | publish =>
    obtain ⟨output, rest, hpub, hwhy⟩ := publish?_eq_some_iff.1 move
    have hfull := still.publish.resolve_left (by simp [← hpublishing, hpub])
    rcases hwhy with ⟨hd, -⟩ | ⟨-, hlt, -⟩
    · simp [deserted, hheld] at hd
    · rw [hresults, hcapacity] at hlt
      omega
  | deliver =>
    obtain ⟨x, rest, hx, hwhat⟩ := deliver?_eq_some_iff.1 move
    have hnone := still.deliver.resolve_left (by simp [← hline, hx])
    rcases hwhat with ⟨output, outputs, hout, -⟩ | ⟨-, hw, heq⟩
    · simp [hresults, hnone] at hout
    · cases heq
      refine ⟨[x], ⟨hidle, ?_, .inr hw, ?_⟩, rfl, rfl⟩
      · rw [← hline, hx, List.append_assoc]
        rfl
      · conv_lhs => rw [hsame]

/-- **When nothing can move any more** all idle workers have exited, and those who are left without
a worker have been told. -/
lemma Leaving.dismissed (h : Leaving p q told) (rest : q.Resting)
    (ending : p.closed = true ∨ p.cancelled = true) :
    q = p.dismissed ∧ told = p.informed := by
  obtain ⟨-, hline, hlast, hsame⟩ := h
  have hidle : q.idle = 0 := by
    refine rest.idle_of_ending ?_
    rw [hsame]
    exact ending
  have hworkers : q.workers = p.running.length + p.publishing.length := by
    rw [workers, hidle, hsame]
    simp
  by_cases hnone : p.running.length + p.publishing.length = 0
  · have hreceiving : q.receiving = [] := rest.deliver.resolve_right fun hw =>
      hw.2 (hworkers.trans hnone)
    rw [hreceiving, List.append_nil] at hline
    rw [hidle, hreceiving, Nat.sub_zero] at hsame
    rw [Pool.dismissed, informed, if_pos hnone, if_pos hnone]
    exact ⟨hsame, hline⟩
  · have htold : told = [] := hlast.resolve_right fun hw => hnone (hworkers.symm.trans hw)
    rw [htold, List.nil_append] at hline
    rw [hidle, hline, Nat.sub_zero] at hsame
    rw [Pool.dismissed, informed, if_neg hnone, if_neg hnone]
    exact ⟨hsame, htold⟩

end Pool

/-! ## In a scene in which nothing else can move -/

namespace Scene

variable {s t u : Scene α} {es fs : List (Entry α)} {i : Nat} {p q : Pool α}
  {told : List Receiver}

/-- The scene with another pool at that index. -/
def withPool (i : Nat) (p : Pool α) (s : Scene α) : Scene α := { s with pools := s.pools.set i p }

/-- In a scene in which nothing but the pool at that index can move, idle workers of the pool have
exited and those `told` have been told. -/
structure Leaving (i : Nat) (p : Pool α) (s t : Scene α) (es : List (Entry α)) (q : Pool α)
    (told : List Receiver) : Prop where
  scene : t = s.withPool i q
  pool : p.Leaving q told
  discarded : collect discarded? (trail (ofEntries es)) = []
  answered : es.filterMap (·.2.answer?) = told.filterMap Receiver.tell

/-- A move is one more exit, or one more receiver that is told: nothing can move elsewhere. -/
lemma Leaving.of_move? (settled : Stage.Settled ⟨0, s⟩) (here : i < s.pools.length)
    (still : p.Still) (h : Leaving i p s t es q told) {k : Move} (move : t.move? k = some (u, fs)) :
    ∃ r more, Leaving i p s u (es ++ fs) r (told ++ more) := by
  obtain ⟨rfl, hpool, hdiscarded, hanswered⟩ := h
  cases k with
  | pool j k =>
    obtain ⟨x, r, gs, hx, hmove, rfl, rfl⟩ := moveAt?_pool_iff.1 move
    by_cases hij : i = j
    · subst hij
      rw [withPool, List.getElem?_set_self here] at hx
      cases hx
      obtain ⟨more, hleaving, hnone, htell⟩ := hpool.of_perform? still hmove
      refine ⟨r, more, ?_, hleaving, ?_, ?_⟩
      · have hquiet : gs.any Event.isFrailDiscard = false := by
          rw [← noisy, noisy_eq_any, hnone]
          rfl
        simp [putPool, withPool, after, List.any_map, Function.comp_def, hquiet]
      · rw [ofEntries_append, trail_append, collect_append, hdiscarded, ofEntries_map,
          trail_ofTrail, hnone]
        rfl
      · rw [List.filterMap_append, List.filterMap_append, hanswered, List.filterMap_map, ← htell]
        rfl
    · rw [withPool, List.getElem?_set_ne hij] at hx
      have hnone := Pool.step?_eq_none_iff.1 (settled.1 x (List.mem_of_getElem? hx)) k
      cases hnone.symm.trans hmove
  | batch j k =>
    obtain ⟨x, r, gs, hx, hmove, rfl, rfl⟩ := moveAt?_batch_iff.1 move
    have hnone := Batch.step?_eq_none_iff.1 (settled.2 x (List.mem_of_getElem? hx)) k
    cases hnone.symm.trans hmove

/-- **In whatever order moves are made**, idle workers exit and receivers are told. -/
theorem leaving_of_play? (settled : Stage.Settled ⟨0, s⟩) (here : i < s.pools.length)
    (still : p.Still) (h : Leaving i p s t es q told) {ks : List Move}
    (order : t.play? ks = some (u, fs)) :
    ∃ r more, Leaving i p s u (es ++ fs) r (told ++ more) := by
  induction ks generalizing t es fs q told with
  | nil =>
    cases order
    exact ⟨q, [], by simpa using h⟩
  | cons k ks ih =>
    obtain ⟨v, gs, gs', hmove, hrest, rfl⟩ := Moves.play?_cons_eq_some_iff.1 order
    obtain ⟨r, more, hfirst⟩ := h.of_move? settled here still hmove
    obtain ⟨r', more', hlast⟩ := ih hfirst hrest
    exact ⟨r', more ++ more', by simpa using hlast⟩

/-- To put a pool in its own place changes nothing. -/
lemma withPool_self (hi : s.pools[i]? = some p) : s.withPool i p = s := by
  obtain ⟨hlt, rfl⟩ := List.getElem?_eq_some_iff.1 hi
  simp [withPool]

/-- To close a pool that is closed changes nothing. -/
lemma atPool_close (hi : s.pools[i]? = some p) (closed : p.closed = true) :
    s.atPool i (fun _ => Pool.close) = (s, []) := by
  have hself := withPool_self hi
  simp only [withPool] at hself
  simp [atPool, hi, Pool.close, closed, after, hself]

/-- To cancel a pool that is cancelled changes nothing, and is noted. -/
lemma atPool_cancel (hi : s.pools[i]? = some p) (cancelled : p.cancelled = true) :
    s.atPool i (fun _ => Pool.cancel) = (s, [(.pool i, .poolCancelled)]) := by
  have hpool : { p with cancelled := true } = p := by rw [← cancelled]
  have hself := withPool_self hi
  simp only [withPool] at hself
  simp [atPool, hi, Pool.cancel, hpool, after, hself, Event.isFrailDiscard]

/-- Nothing follows a command that leaves the scene as it is, if nothing can move and no task is
due. -/
lemma act_of_settled (settled : Stage.Settled ⟨0, s⟩) (idle : s.firstDue? = none) :
    act (s, es) = (s, [⟨s.now, es⟩]) := by
  rw [act, phase, settle_eq_self settled, finishDue_eq_self idle, List.append_nil]

/-- The command that closes the pool of that index, or else the one that cancels it. -/
def ending (i : Nat) (close : Bool) : Command α := if close then .close i else .cancel i

/-- What such a command does at once. -/
lemma order_ending (here : s.pool? i = some p) (call : Nat) (close : Bool) :
    (s.order call (ending i close)).1 = s.withPool i (p.ended close) ∧
      collect discarded? (trail (s.order call (ending i close)).2) = [] ∧
        collect answer? (trail (s.order call (ending i close)).2) = [] := by
  obtain ⟨hi, -⟩ := Option.filter_eq_some_iff.1 here
  cases close with
  | true =>
    have hended : (p.ended true) = { p with closed := true } := by simp [Pool.ended]
    rw [hended]
    rcases Batch.close_snd p with hevents | hevents <;>
      simp [ending, order, visit, here, atPool, hi, Pool.close_frame, hevents, withPool, after,
        ofTrail, ofEntries, trail, discarded?, answer?, Event.answer?, Event.isFrailDiscard]
  | false =>
    have hended : (p.ended false) = { p with cancelled := true } := by simp [Pool.ended]
    rw [hended]
    simp [ending, order, visit, here, atPool, hi, Pool.cancel, withPool, after, ofTrail,
      ofEntries, trail, discarded?, answer?, Event.answer?, Event.isFrailDiscard]

/-- **What becomes of a scene in which nothing could move** when a pool is told to close or to
cancel: the idle workers of the pool exit and receivers are told. -/
lemma Plays.dismissed (settled : Stage.Settled ⟨0, s⟩) (here : s.pool? i = some p) {close : Bool}
    (plays : Plays (s.withPool i (p.ended close)) es t) (stuck : Moves.Stuck move? t) :
    t = s.withPool i (p.ended close).dismissed ∧ collect discarded? (trail (ofEntries es)) = [] ∧
      es.filterMap (·.2.answer?) = p.informed.filterMap Receiver.tell := by
  obtain ⟨hp, held⟩ := Option.filter_eq_some_iff.1 here
  have hi : i < s.pools.length := (List.getElem?_eq_some_iff.1 hp).1
  have hstill := (settled.resting_pool hp).still held close
  have hstart : Leaving i (p.ended close) s (s.withPool i (p.ended close)) [] _ [] :=
    ⟨rfl, .refl _, rfl, rfl⟩
  obtain ⟨ks, order⟩ := plays
  obtain ⟨q, told, rfl, hleaving, hdiscarded, hanswered⟩ :=
    leaving_of_play? settled hi hstill hstart order
  have hq : (s.withPool i q).pools[i]? = some q := List.getElem?_set_self hi
  have hrest : q.Resting := Stage.Settled.resting_pool (g := ⟨0, _⟩) (stuck_iff.1 stuck) hq
  have hending : (p.ended close).closed = true ∨ (p.ended close).cancelled = true := by
    cases close <;> simp [Pool.ended]
  obtain ⟨rfl, htold⟩ := hleaving.dismissed hrest hending
  rw [List.nil_append] at htold
  rw [List.nil_append, List.nil_append, htold] at hanswered
  exact ⟨rfl, hdiscarded, hanswered⟩

end Scene

/-! ## Commands one after the other -/

namespace Stage

open Scene

variable {g g' : Stage α} {h h' : History α} {i : Nat} {p : Pool α}

/-- The commands are given one after the other, and after each of them everything moves, in whatever
order, until nothing can. -/
inductive Obeys : Stage α → List (Command α) → History α → Stage α → Prop
  | nil (g : Stage α) : Obeys g [] [] g
  | cons {g g' : Stage α} {c : Command α} {cs : List (Command α)} {t : Scene α}
      {es : List (Entry α)} {h : History α} (plays : (g.scene.order g.calls c).1.Plays es t)
      (stuck : Moves.Stuck move? t) (rest : Obeys ⟨g.calls + 1, t⟩ cs h g') :
      Obeys g (c :: cs) ((g.scene.order g.calls c).2 ++ ofEntries es ++ h) g'

/-- Whatever the commands, there is an order in which everything moves. -/
lemma Obeys.exists (g : Stage α) (cs : List (Command α)) : ∃ h g', Obeys g cs h g' := by
  induction cs generalizing g with
  | nil => exact ⟨[], g, .nil g⟩
  | cons c cs ih =>
    let s := (g.scene.order g.calls c).1
    obtain ⟨h, g', hrest⟩ := ih ⟨g.calls + 1, s.settle.1⟩
    exact ⟨_, g', .cons (plays_settle s) (stuck_iff.2 (settled_settle 0 s)) hrest⟩

/-- What is answered in the moves of a scene is answered in its history. -/
lemma collect_answer_ofEntries (es : List (Entry α)) :
    collect answer? (trail (ofEntries es)) = es.filterMap (·.2.answer?) := by
  simp only [collect, trail, ofEntries, List.map_map, List.filterMap_map]
  rfl

/-- One command that closes or cancels the pool, and what comes of it. -/
lemma Obeys.ending (settled : g.Settled) (here : g.scene.pool? i = some p) {close : Bool}
    {cs : List (Command α)} (obeys : Obeys g (ending i close :: cs) h g') : ∃ h',
    Obeys ⟨g.calls + 1, g.scene.withPool i (p.ended close).dismissed⟩ cs h' g' ∧
      Settled ⟨g.calls + 1, g.scene.withPool i (p.ended close).dismissed⟩ ∧
      (g.scene.withPool i (p.ended close).dismissed).pool? i = some (p.ended close).dismissed ∧
      collect discarded? (trail h) = collect discarded? (trail h') ∧
      collect answer? (trail h) =
        p.informed.filterMap Receiver.tell ++ collect answer? (trail h') := by
  cases obeys with
  | @cons _ _ _ _ t es h' plays stuck rest =>
    obtain ⟨hi, held⟩ := Option.filter_eq_some_iff.1 here
    obtain ⟨hscene, hdiscarded, hanswered⟩ := order_ending here g.calls close
    rw [hscene] at plays
    obtain ⟨rfl, hdiscarded', hanswered'⟩ := plays.dismissed settled here stuck
    refine ⟨h', rest, stuck_iff.1 stuck, ?_, ?_, ?_⟩
    · refine Option.filter_eq_some_iff.2 ⟨?_, held⟩
      exact List.getElem?_set_self (List.getElem?_eq_some_iff.1 hi).1
    · rw [trail_append, trail_append, collect_append, collect_append, hdiscarded, hdiscarded']
      rfl
    · rw [trail_append, trail_append, collect_append, collect_append, hanswered,
        collect_answer_ofEntries, hanswered']
      rfl

/-- Two such commands: it does not matter which of them is given first. -/
lemma Obeys.endings (settled : g.Settled) (here : g.scene.pool? i = some p) {a b : Bool}
    (obeys : Obeys g [Scene.ending i a, Scene.ending i b] h g') :
    g' = ⟨g.calls + 2, g.scene.withPool i ((p.ended a).ended b).dismissed⟩ ∧
      collect discarded? (trail h) = [] ∧
        collect answer? (trail h) = p.informed.filterMap Receiver.tell := by
  obtain ⟨h', obeys', settled', here', hdiscarded, hanswered⟩ := obeys.ending settled here
  obtain ⟨h'', obeys'', -, -, hdiscarded', hanswered'⟩ := obeys'.ending settled' here'
  cases obeys''
  rw [Pool.informed_dismissed] at hanswered'
  rw [hdiscarded, hdiscarded', hanswered, hanswered']
  refine ⟨?_, rfl, List.append_nil _⟩
  simp only [withPool, List.set_set, Pool.dismissed_ended_dismissed]

/-- What closing and cancelling the pool of that index come to, after a history, when nothing can
move. -/
structure Ends (i : Nat) (p : Pool α) (h : History α) (g : Stage α) : Prop where
  /-- To close the pool again changes nothing at all: the scene stays as it is and nothing
  happens. -/
  again_close : event .poolClosed ∈ trailAt (.pool i) h → ∀ call,
    g.scene.order call (.close i) = (g.scene, [])
  /-- To cancel the pool again, or after its parent has been cancelled, leaves the scene as it is.
  It is noted and nothing else happens. -/
  again_cancel : event .poolCancelled ∈ trailAt (.pool i) h ∨
    p.child = true ∧ g.scene.parentCancelled = true → ∀ call,
      g.scene.order call (.cancel i) = (g.scene, [(.pool i, event .poolCancelled)])
  /-- This is all that comes of these commands, if no task is due. -/
  nothing_follows : g.scene.firstDue? = none → ∀ call,
    (event .poolClosed ∈ trailAt (.pool i) h →
      g.scene.perform call (.close i) = (.nothing, g.scene, [⟨g.scene.now, []⟩])) ∧
    (event .poolCancelled ∈ trailAt (.pool i) h ∨
        p.child = true ∧ g.scene.parentCancelled = true →
      g.scene.perform call (.cancel i) =
        (.nothing, g.scene, [⟨g.scene.now, [(.pool i, .poolCancelled)]⟩]))
  /-- The pool can be closed and then cancelled, or cancelled and then closed. -/
  possible : (∃ h' g', Obeys g [.close i, .cancel i] h' g') ∧
    ∃ h' g', Obeys g [.cancel i, .close i] h' g'
  /-- In whatever order things move, both come to the same: the same scene in the end, the same
  tasks discarded and the same calls answered, in the same way. -/
  either : ∀ h₁ g₁ h₂ g₂, Obeys g [.close i, .cancel i] h₁ g₁ →
    Obeys g [.cancel i, .close i] h₂ g₂ → g₁ = g₂ ∧
      collect discarded? (trail h₁) = collect discarded? (trail h₂) ∧
        collect answer? (trail h₁) = collect answer? (trail h₂)

/-- **Closing and cancelling are idempotent and commute.** Take any run, and let nothing be able to
move after it. To close a pool that has been closed changes nothing at all; to cancel one that has
been cancelled, or whose parent has been, changes nothing and is noted; and to close a pool and then
to cancel it comes to the same as to cancel it and then to close it, in whatever order things move
in between.

**Proof sketch.** An idle worker of a pool at rest has nothing to take and nobody waits to submit,
so that after either command all idle workers exit, discarding nothing, and the last one leaves
those who wait for outputs to be told (`Workforce.Scene.leaving_of_play?`). After that no worker is
idle, and the other command sets nothing in motion (`Workforce.Stage.Obeys.endings`). -/
theorem Steps.close_cancel (run : Steps {} h g) (settled : g.Settled)
    (here : g.scene.pool? i = some p) : Ends i p h g := by
  obtain ⟨hi, -⟩ := Option.filter_eq_some_iff.1 here
  have hwhy := run.cancelledBy (show g.scene.poolAt (.pool i) = some p from hi)
  have hclose (again : event .poolClosed ∈ trailAt (.pool i) h) :=
    atPool_close hi ((hwhy.closed i rfl).2 again)
  have hcancel (again : event .poolCancelled ∈ trailAt (.pool i) h ∨
      p.child = true ∧ g.scene.parentCancelled = true) := atPool_cancel hi (hwhy.why.2 again)
  constructor
  case again_close =>
    intro again call
    rw [order, visit, here, hclose again]
    rfl
  case again_cancel =>
    intro again call
    rw [order, visit, here, hcancel again]
    rfl
  case nothing_follows =>
    intro idle call
    constructor
    · intro again
      rw [perform, onPool, here, hclose again]
      exact congrArg _ (act_of_settled settled idle)
    · intro again
      rw [perform, onPool, here, hcancel again]
      exact congrArg _ (act_of_settled settled idle)
  case possible => exact ⟨Obeys.exists g _, Obeys.exists g _⟩
  case either =>
    intro h₁ g₁ h₂ g₂ first second
    obtain ⟨hg₁, hdiscarded₁, hanswered₁⟩ :=
      Obeys.endings (a := true) (b := false) settled here first
    obtain ⟨hg₂, hdiscarded₂, hanswered₂⟩ :=
      Obeys.endings (a := false) (b := true) settled here second
    rw [hg₁, hg₂, Pool.ended_comm, hdiscarded₁, hdiscarded₂, hanswered₁, hanswered₂]
    exact ⟨rfl, rfl, rfl⟩

/-! ### Two idle workers and a call that waits for them -/

section IdleRun

/-- A pool of two workers, from which a call expects an output. -/
def idlePool : Pool Nat :=
  { Pool.fresh 2 Nat.two_pos false false with receiving := [⟨some 1, false⟩] }

/-- The scene with this pool. -/
def idleStage : Stage Nat := ⟨2, { pools := [idlePool] }⟩

/-- What occurs up to that moment. -/
def idleHistory : History Nat :=
  ofTrail (.pool 0) [event (.poolStarted 2), event .workerStarted, event .workerStarted,
    joined ⟨some 1, false⟩]

/-- The run that leads to it. -/
lemma idleRun : Steps {} idleHistory idleStage := by
  have opened : Steps ({} : Stage Nat) _ _ := Chain.single (.order {} (.newPool 2 false))
  exact opened.tail (.order _ (.next 0))

/-- Nothing can move in it. -/
lemma idleStage_settled : idleStage.Settled := by
  refine ⟨fun p hp => ?_, fun b hb => by cases hb⟩
  rw [List.mem_singleton.1 hp]
  rfl

/-- Both workers exit and the call is answered, whether the pool is closed first or cancelled
first. -/
theorem close_cancel_idle : idleStage.Settled ∧ Ends 0 idlePool idleHistory idleStage :=
  ⟨idleStage_settled, Steps.close_cancel idleRun idleStage_settled rfl⟩

/-- Nobody is left then, and nobody waits. -/
example : (idlePool.ended true).dismissed.workers = 0 ∧
    (idlePool.ended true).dismissed.receiving = [] ∧ idlePool.informed = [⟨some 1, false⟩] :=
  ⟨rfl, rfl, rfl⟩

end IdleRun

end Stage

end Workforce
