import Workforce.Proofs.Pool.Cancelled
import Workforce.Proofs.Commuting
/-!
# Moves of a pool commute

Two internal moves of a pool get in each other's way in two cases only. A submission that could be
admitted is refused once the last worker has seen the cancellation, and an output that could be
published is lost once the last receiver or submission has left a pool that nobody holds. In an
*orderly* pool neither can come about by moves alone: there any two moves that are enabled can be
made in either order. One action on a pool at rest leaves it orderly.

## Main definitions

* `Workforce.Pool.Clogged`, `Pool.Lone` — why no output can be lost.
* `Workforce.Pool.Orderly` — no two moves can get in each other's way.

## Main results

* `Workforce.Pool.Orderly.of_perform?` — moves keep a pool orderly.
* `Workforce.Pool.Orderly.join` — two moves of an orderly pool can be made in either order.
* `Workforce.Pool.Resting.orderly_submit`, `Resting.orderly_receive`, `Resting.orderly_flags`,
  `Resting.orderly_withdraw`, `Resting.orderly_finish` — one action leaves a pool at rest orderly.

## Implementation notes

The moment is the same for both orders, so that the discard of a frail task panics in both or in
neither.
-/

namespace Workforce.Pool

open Occurrence Trail

variable {α : Type} {m : Moment} {p q r : Pool α} {es fs : List (Event α)}

/-! ## Exits of workers -/

/-- The exit of a worker and its reason. -/
lemma retire_eq_append (m : Moment) (reason : List (Event α)) (p : Pool α) :
    p.retire m reason = ((p.retire m []).1, reason ++ (p.retire m []).2) := by
  unfold retire
  split
  · split <;> simp
  · simp

/-- The exit of a worker depends on the workers and the queue only. -/
lemma retire_congr (m : Moment) (reason : List (Event α)) (hw : q.workers = p.workers)
    (hq : q.queue = p.queue) (hc : q.counted = p.counted) : q.retire m reason =
      ({ q with
        counted := (p.retire m reason).1.counted
        queue := if p.workers = 0 then [] else p.queue }, (p.retire m reason).2) := by
  unfold retire
  rw [hw, hq, hc]
  split
  · split <;> rfl
  · rw [← hq]

/-! ## Orderly pools -/

/-- No output can be published as long as somebody might receive it: none waits for that, or the
results queue is full and nobody receives. -/
def Clogged (p : Pool α) : Prop :=
  p.publishing = [] ∨ p.capacity ≤ p.results.length ∧ p.receiving = []

/-- One output waits to be published, and meanwhile nobody comes into the queue, takes from it or
receives. -/
structure Lone (p : Pool α) : Prop where
  single : p.publishing.length = 1
  line : p.submitting = [] ∨ p.capacity ≤ p.queue.length
  idle : p.idle = 0 ∨ p.queue = []
  readers : p.receiving = [] ∨ p.results = []

/-- No two moves can get in each other's way, however many are made. -/
structure Orderly (p : Pool α) : Prop where
  /-- Nobody can be admitted to a cancelled pool by the time its last worker exits. -/
  line : p.cancelled = true → p.submitting = [] ∨ p.workers = 0 ∨ p.capacity ≤ p.queue.length ∨
    p.idle = 0 ∧ p.held = true ∧ p.Clogged
  /-- No output can be published by the time a pool that nobody holds is deserted. -/
  outputs : p.held = true ∨ p.deserted = true ∨ p.Clogged ∨ p.Lone

/-- Moves keep a pool clogged. -/
lemma Clogged.of_perform? {k : Move} (hp : p.Clogged) (h : p.perform? m k = some (q, es)) :
    q.Clogged := by
  cases k with
  | take =>
    obtain ⟨n, t, rest, -, -, -, heq⟩ := take?_eq_some_iff.1 h
    cases heq
    exact hp
  | leave =>
    obtain ⟨n, -, -, heq⟩ := leave?_eq_some_iff.1 h
    obtain ⟨rfl, -⟩ := Prod.ext_iff.1 heq
    simpa [Clogged, capacity] using hp
  | enter =>
    obtain ⟨s, rest, -, ⟨-, heq⟩ | ⟨-, -, -, heq⟩⟩ := enter?_eq_some_iff.1 h <;> cases heq
    · exact hp
    · exact hp
  | publish =>
    obtain ⟨output, rest, hpub, ⟨-, heq⟩ | ⟨-, hroom, -⟩⟩ := publish?_eq_some_iff.1 h
    · obtain ⟨rfl, -⟩ := Prod.ext_iff.1 heq
      obtain ⟨hfull, hrec⟩ := hp.resolve_left (by simp [hpub])
      exact .inr ⟨by simpa [capacity] using hfull, by simpa using hrec⟩
    · obtain ⟨hfull, -⟩ := hp.resolve_left (by simp [hpub])
      omega
  | deliver =>
    obtain ⟨r, rest, hrec, hwhat⟩ := deliver?_eq_some_iff.1 h
    have hpub : p.publishing = [] := hp.resolve_right fun hr => by simp [hrec] at hr
    obtain ⟨output, outputs, -, heq⟩ | ⟨-, -, heq⟩ := hwhat <;> cases heq
    · exact .inl hpub
    · exact .inl hpub

/-- After a move the one output that waits still waits alone, or it has been published. -/
lemma Lone.of_perform? {k : Move} (hp : p.Lone) (h : p.perform? m k = some (q, es)) :
    q.Clogged ∨ q.Lone := by
  have hw : p.workers ≠ 0 := by
    have := hp.single
    rw [workers]
    omega
  cases k with
  | take =>
    obtain ⟨n, t, rest, -, hidle, hqueue, -⟩ := take?_eq_some_iff.1 h
    have hstuck := hp.idle
    simp [hidle, hqueue] at hstuck
  | leave =>
    obtain ⟨n, hidle, -, heq⟩ := leave?_eq_some_iff.1 h
    obtain ⟨rfl, -⟩ := Prod.ext_iff.1 heq
    have hqueue : p.queue = [] := hp.idle.resolve_left (by simp [hidle])
    have hother : ({ p with idle := n } : Pool α).workers ≠ 0 := by
      have := hp.single
      simp only [workers]
      omega
    refine .inr ⟨by simpa using hp.single, ?_, .inr (by simp [hqueue]), by simpa using hp.readers⟩
    simpa [hother, capacity] using hp.line
  | enter =>
    obtain ⟨s, rest, hsub, hwhat⟩ := enter?_eq_some_iff.1 h
    have hfull := hp.line.resolve_left (by simp [hsub])
    rcases hwhat with ⟨hz | ⟨hroom, -⟩, -⟩ | ⟨-, hroom, -⟩
    · exact absurd hz hw
    · omega
    · omega
  | publish =>
    obtain ⟨output, rest, hpub, hwhat⟩ := publish?_eq_some_iff.1 h
    have hrest : rest = [] := by
      have := hp.single
      rw [hpub, List.length_cons] at this
      exact List.length_eq_zero_iff.1 (by omega)
    rcases hwhat with ⟨-, heq⟩ | ⟨-, -, heq⟩ <;> obtain ⟨rfl, -⟩ := Prod.ext_iff.1 heq
    · exact .inl (.inl (by simpa using hrest))
    · exact .inl (.inl hrest)
  | deliver =>
    obtain ⟨r, rest, hrec, hwhat⟩ := deliver?_eq_some_iff.1 h
    have hresults := hp.readers.resolve_left (by simp [hrec])
    rcases hwhat with ⟨output, outputs, hout, -⟩ | ⟨-, hz, -⟩
    · simp [hresults] at hout
    · exact absurd hz hw

/-- **Moves keep a pool orderly.** -/
theorem Orderly.of_perform? {k : Move} (hp : p.Orderly) (h : p.perform? m k = some (q, es)) :
    q.Orderly := by
  have hstep : Step p (es.map event) q := .of_perform? h
  have hheld : q.held = p.held := (lowers_of_perform? h).held
  have hcap : q.capacity = p.capacity := by rw [capacity, hstep.size_eq, capacity]
  obtain ⟨-, hcancelled, -⟩ := flags_of_perform? h
  refine ⟨fun hc => ?_, ?_⟩
  · rw [hcancelled] at hc
    rcases hp.line hc with hsub | hw | hfull | ⟨hidle, hin, hclog⟩
    · rcases submitting_of_perform? h with ⟨hq, -⟩ | ⟨s, hs⟩
      · exact .inl (hq.trans hsub)
      · simp [hsub] at hs
    · exact .inr (.inl (Steps.workers_eq_zero (.single hstep) hw))
    · rcases hstep.queue_cases with ⟨hq, -⟩ | ⟨t, -, -, -, -, hfree⟩ | ⟨s, hq, -⟩ | ⟨-, -, -, hw, -⟩
      · exact .inr (.inr (.inl (by rwa [hq, hcap])))
      · simp [hfree] at hc
      · refine .inr (.inr (.inl ?_))
        rw [hq, hcap, List.length_append]
        omega
      · exact .inr (.inl hw)
    · refine .inr (.inr (.inr ⟨?_, hheld.trans hin, hclog.of_perform? h⟩))
      cases k with
      | take =>
        obtain ⟨n, t, rest, -, hn, -⟩ := take?_eq_some_iff.1 h
        simp [hidle] at hn
      | leave =>
        obtain ⟨n, hn, -⟩ := leave?_eq_some_iff.1 h
        simp [hidle] at hn
      | enter =>
        obtain ⟨s, rest, -, ⟨-, heq⟩ | ⟨-, -, -, heq⟩⟩ := enter?_eq_some_iff.1 h <;> cases heq
        · exact hidle
        · exact hidle
      | publish =>
        obtain ⟨output, rest, hpub, ⟨hd, -⟩ | ⟨-, hroom, -⟩⟩ := publish?_eq_some_iff.1 h
        · simp [deserted, hin] at hd
        · obtain ⟨hfull, -⟩ := hclog.resolve_left (by simp [hpub])
          omega
      | deliver =>
        obtain ⟨r, rest, -, ⟨output, outputs, -, heq⟩ | ⟨-, -, heq⟩⟩ :=
          deliver?_eq_some_iff.1 h <;> cases heq
        · exact hidle
        · exact hidle
  · rcases hp.outputs with hin | hd | hclog | hlone
    · exact .inl (hheld.trans hin)
    · exact .inr (.inl (hstep.deserted_mono hd))
    · exact .inr (.inr (.inl (hclog.of_perform? h)))
    · exact .inr (.inr (hlone.of_perform? h))

/-! ## Pools at rest -/

namespace Resting

/-- A pool at rest is clogged. -/
lemma clogged (h : p.Resting) : p.Clogged := by
  refine h.publish.imp_right fun hblocked => ⟨hblocked.2, ?_⟩
  obtain ⟨-, hfull⟩ := hblocked
  by_contra hrec
  have hresults := (h.empty_of_receiving hrec).1
  have := p.capacity_pos
  rw [hresults, List.length_nil] at hfull
  omega

/-- Whoever waits to submit to a pool at rest faces a full queue. -/
lemma line_full (h : p.Resting) : p.submitting = [] ∨ p.capacity ≤ p.queue.length :=
  h.enter.imp_right And.right

/-- No worker of a cancelled pool at rest is idle. -/
lemma idle_of_cancelled (h : p.Resting) (hc : p.cancelled = true) : p.idle = 0 :=
  h.leave.resolve_right fun hfree => by simp [hc] at hfree

/-- A submission joins the line. -/
lemma orderly_submit (h : p.Resting) (held : p.held = true) (s : Submission α) :
    ({ p with submitting := p.submitting ++ [s] } : Pool α).Orderly where
  line hc := .inr (.inr (.inr ⟨h.idle_of_cancelled hc, held, h.clogged⟩))
  outputs := .inl held

/-- A receiver joins the line; it may have closed the pool before. -/
lemma orderly_receive (h : p.Resting) (held : p.held = true) (closed : Bool) (x : Receiver) :
    ({ p with closed := closed, receiving := p.receiving ++ [x] } : Pool α).Orderly where
  line _ := h.line_full.imp_right fun hfull => .inr (.inl hfull)
  outputs := .inl held

/-- The pool is closed, cancelled or given up. -/
lemma orderly_flags (h : p.Resting) (closed cancelled held : Bool) :
    ({ p with closed := closed, cancelled := cancelled, held := held } : Pool α).Orderly where
  line _ := h.line_full.imp_right fun hfull => .inr (.inl hfull)
  outputs := .inr (.inr (.inl h.clogged))

/-- A waiting call is given up. -/
lemma orderly_withdraw (h : p.Resting) (call : Nat) : (p.withdraw call).1.Orderly where
  line _ := by
    rcases h.line_full with hsub | hfull
    · exact .inl (by simp [withdraw, hsub])
    · exact .inr (.inr (.inl hfull))
  outputs := by
    rcases h.clogged with hpub | ⟨hfull, hrec⟩
    · exact .inr (.inr (.inl (.inl hpub)))
    · exact .inr (.inr (.inl (.inr ⟨hfull, by simp [withdraw, hrec]⟩)))

/-- A running task ends: its output is the only one that can be published now. -/
lemma orderly_finish (h : p.Resting) (id : TaskId) : (p.finish id).1.Orderly := by
  obtain ⟨heq, -⟩ | ⟨before, x, rest, -, -, -, heq⟩ := finish_cases id p
  · rw [heq]
    exact h.orderly_flags p.closed p.cancelled p.held
  · rw [heq]
    refine ⟨fun _ => h.line_full.imp_right fun hfull => .inr (.inl hfull), ?_⟩
    rcases h.clogged with hpub | ⟨hfull, hrec⟩
    · cases hout : x.task.outcome.output? with
      | none => exact .inr (.inr (.inl (.inl (by simp [hpub]))))
      | some output =>
        refine .inr (.inr (.inr ⟨by simp [hpub], h.line_full, ?_, ?_⟩))
        · exact h.idle_cases.imp (by simp) And.left
        · exact h.deliver.imp_right And.left
    · exact .inr (.inr (.inl (.inr ⟨hfull, hrec⟩)))

end Resting

/-! ## Two moves in either order -/

/-- The kinds of move that answer no call. -/
def Move.Silent (k : Move) : Prop := k ≠ .enter ∧ k ≠ .deliver

/-- What two moves led to can be made equal by making the other one, with the same events
altogether. Where a call is answered, each move has the same events in either order. -/
def Joins (m : Moment) (k l : Move) (q : Pool α) (es : List (Event α)) (r : Pool α)
    (fs : List (Event α)) : Prop :=
  ∃ t es' fs', q.perform? m l = some (t, fs') ∧ r.perform? m k = some (t, es') ∧
    (es ++ fs').Perm (fs ++ es') ∧ (es' = es ∧ fs' = fs ∨ k.Silent ∧ l.Silent)

namespace Joins

variable {k l : Move} {t : Pool α}

/-- The order does not matter. -/
lemma symm (h : Joins m k l q es r fs) : Joins m l k r fs q es := by
  obtain ⟨t, es', fs', hl, hk, hperm, hwhat⟩ := h
  exact ⟨t, fs', es', hk, hl, hperm.symm, hwhat.imp And.symm And.symm⟩

/-- Each move has the same events in either order. -/
lemma of_swap (hl : q.perform? m l = some (t, fs)) (hk : r.perform? m k = some (t, es)) :
    Joins m k l q es r fs :=
  ⟨t, es, fs, hl, hk, List.perm_append_comm, .inl ⟨rfl, rfl⟩⟩

/-- A worker takes the head of the queue while a submission gets a place. -/
lemma take_enter (h : p.take? m = some (q, es)) (h' : p.enter? m = some (r, fs)) :
    Joins m .take .enter q es r fs := by
  obtain ⟨n, t, rest, hfree, hidle, hqueue, heq⟩ := take?_eq_some_iff.1 h
  obtain ⟨s, line, hsub, hwhat⟩ := enter?_eq_some_iff.1 h'
  have hw : p.workers ≠ 0 := by
    rw [workers]
    omega
  have hroom : p.queue.length < p.capacity := by
    rcases hwhat with ⟨hz | ⟨hroom, -⟩, -⟩ | ⟨-, hroom, -⟩
    · exact absurd hz hw
    · exact hroom
    · exact hroom
  cases heq
  have hw' : ({ p with
      idle := n, queue := rest, running := p.running ++ [Run.start m.now t] } : Pool α).workers ≠
        0 := by
    simp [workers]
  have hroom' : rest.length < p.capacity := by
    rw [hqueue, List.length_cons] at hroom
    omega
  rcases hwhat with ⟨hwhy, heq⟩ | ⟨-, -, hopen, heq⟩ <;> cases heq
  · have hclosed : p.closed = true := (hwhy.resolve_left hw).2
    exact .of_swap
      (enter?_eq_some_iff.2 ⟨s, line, hsub, .inl ⟨.inr ⟨hroom', hclosed⟩, rfl⟩⟩)
      (take?_eq_some_iff.2 ⟨n, t, rest, hfree, hidle, hqueue, rfl⟩)
  · exact .of_swap
      (enter?_eq_some_iff.2 ⟨s, line, hsub, .inr ⟨hw', hroom', hopen, rfl⟩⟩)
      (take?_eq_some_iff.2 ⟨n, t, rest ++ [s.task], hfree, hidle, by simp [hqueue], rfl⟩)

/-- A worker takes the head of the queue while another one publishes or gives up. -/
lemma take_publish (h : p.take? m = some (q, es)) (h' : p.publish? m = some (r, fs)) :
    Joins m .take .publish q es r fs := by
  obtain ⟨n, t, rest, hfree, hidle, hqueue, heq⟩ := take?_eq_some_iff.1 h
  obtain ⟨output, others, hpub, hwhat⟩ := publish?_eq_some_iff.1 h'
  cases heq
  rcases hwhat with ⟨hd, heq⟩ | ⟨hd, hroom, heq⟩
  · -- the worker that exits is not the last one, before or after
    have hw : ({ p with publishing := others } : Pool α).workers ≠ 0 := by
      simp only [workers]
      omega
    have hw' : ({ p with
        idle := n, queue := rest, running := p.running ++ [Run.start m.now t]
        publishing := others } : Pool α).workers ≠ 0 := by
      simp [workers]
    rw [retire, if_neg hw] at heq
    cases heq
    refine .of_swap (publish?_eq_some_iff.2 ⟨output, others, hpub, .inl ⟨hd, ?_⟩⟩)
      (take?_eq_some_iff.2 ⟨n, t, rest, hfree, hidle, hqueue, rfl⟩)
    rw [retire, if_neg hw']
  · cases heq
    exact .of_swap (publish?_eq_some_iff.2 ⟨output, others, hpub, .inr ⟨hd, hroom, rfl⟩⟩)
      (take?_eq_some_iff.2 ⟨n + 1, t, rest, hfree, by simp [hidle], hqueue, rfl⟩)

/-- A worker takes the head of the queue while a receiver is answered. -/
lemma take_deliver (h : p.take? m = some (q, es)) (h' : p.deliver? = some (r, fs)) :
    Joins m .take .deliver q es r fs := by
  obtain ⟨n, t, rest, hfree, hidle, hqueue, heq⟩ := take?_eq_some_iff.1 h
  obtain ⟨x, others, hrec, ⟨output, outputs, hout, heq'⟩ | ⟨-, hw, -⟩⟩ :=
    deliver?_eq_some_iff.1 h'
  · cases heq
    cases heq'
    exact .of_swap (deliver?_eq_some_iff.2 ⟨x, others, hrec, .inl ⟨output, outputs, hout, rfl⟩⟩)
      (take?_eq_some_iff.2 ⟨n, t, rest, hfree, hidle, hqueue, rfl⟩)
  · rw [workers] at hw
    omega

/-- A worker exits while another one publishes or gives up. If both exit, it does not matter which
of them is the last one. -/
lemma leave_publish (h : p.leave? m = some (q, es)) (h' : p.publish? m = some (r, fs)) :
    Joins m .leave .publish q es r fs := by
  obtain ⟨n, hidle, hwhy, heq⟩ := leave?_eq_some_iff.1 h
  obtain ⟨output, others, hpub, hwhat⟩ := publish?_eq_some_iff.1 h'
  have hfirst : ({ p with idle := n } : Pool α).workers ≠ 0 := by
    simp only [workers, hpub, List.length_cons]
    omega
  rw [retire, if_neg hfirst] at heq
  cases heq
  rcases hwhat with ⟨hd, heq⟩ | ⟨hd, hroom, heq⟩
  · have hfirst' : ({ p with publishing := others } : Pool α).workers ≠ 0 := by
      simp only [workers]
      omega
    rw [retire, if_neg hfirst'] at heq
    cases heq
    -- the pool when both are off their lists, and its last exit
    let both : Pool α := { p with idle := n, publishing := others, counted := p.counted - 1 }
    refine ⟨(both.retire m []).1, p.farewell ++ (both.retire m []).2,
      [.receiverGone] ++ (both.retire m []).2, ?_, ?_, ?_, .inr ⟨?_, ?_⟩⟩
    · exact publish?_eq_some_iff.2 ⟨output, others, hpub, .inl ⟨hd, retire_eq_append m _ both⟩⟩
    · exact leave?_eq_some_iff.2 ⟨n, hidle, hwhy, retire_eq_append m _ both⟩
    · have hswap : (p.farewell ++ [Event.workerStopped] ++ [Event.receiverGone]).Perm
          ([Event.receiverGone] ++ [Event.workerStopped] ++ p.farewell) := by
        refine List.perm_append_comm.trans ?_
        rw [List.append_assoc]
        exact List.perm_append_comm.append_left _
      simpa only [List.append_assoc] using hswap.append_right (both.retire m []).2
    · simp [Move.Silent]
    · simp [Move.Silent]
  · cases heq
    -- the pool when the output has been published, and the exit after that
    let later : Pool α := { p with
      publishing := others, results := p.results ++ [output], idle := p.idle + 1 }
    have hlast : ({ later with idle := n + 1 } : Pool α).workers ≠ 0 := by
      simp only [workers]
      omega
    exact .of_swap (publish?_eq_some_iff.2 ⟨output, others, hpub, .inr ⟨hd, hroom, rfl⟩⟩)
      ((leave?_eq_some_iff (p := later)).2 ⟨n + 1, by simp [later, hidle], hwhy, if_neg hlast⟩)

/-- A worker exits while a receiver is answered. -/
lemma leave_deliver (h : p.leave? m = some (q, es)) (h' : p.deliver? = some (r, fs)) :
    Joins m .leave .deliver q es r fs := by
  obtain ⟨n, hidle, hwhy, heq⟩ := leave?_eq_some_iff.1 h
  obtain ⟨x, others, hrec, ⟨output, outputs, hout, heq'⟩ | ⟨-, hw, -⟩⟩ :=
    deliver?_eq_some_iff.1 h'
  · rw [retire_congr m p.farewell (p := { p with idle := n }) rfl rfl rfl] at heq
    cases heq
    cases heq'
    -- somebody receives, so that a sealed pool is closed
    have hsealed : p.sealed = true → ({ p with
        results := outputs
        receiving := if x.drains then others ++ [x] else others } : Pool α).sealed = true := by
      intro hs
      obtain ⟨hsub, hc⟩ := sealed_iff.1 hs
      refine sealed_iff.2 ⟨hsub, .inl (hc.resolve_right fun hd => ?_)⟩
      simp [deserted, hrec] at hd
    exact .of_swap
      (deliver?_eq_some_iff.2 ⟨x, others, hrec, .inl ⟨output, outputs, hout, rfl⟩⟩)
      (leave?_eq_some_iff.2 ⟨n, hidle, hwhy.imp_right (And.imp_right hsealed),
        retire_congr m p.farewell rfl rfl rfl⟩)
  · rw [workers] at hw
    omega

/-- A submission is decided on while an output is published, as long as somebody holds the pool. -/
lemma enter_publish (held : p.held = true) (h : p.enter? m = some (q, es))
    (h' : p.publish? m = some (r, fs)) : Joins m .enter .publish q es r fs := by
  obtain ⟨s, line, hsub, hwhat⟩ := enter?_eq_some_iff.1 h
  obtain ⟨output, others, hpub, ⟨hd, -⟩ | ⟨-, hroom, heq⟩⟩ := publish?_eq_some_iff.1 h'
  · simp [deserted, held] at hd
  · have hw : ({ p with
        publishing := others, results := p.results ++ [output], idle := p.idle + 1 } :
          Pool α).workers ≠ 0 := by
      simp only [workers]
      omega
    cases heq
    rcases hwhat with ⟨hwhy, heq⟩ | ⟨-, hplace, hopen, heq⟩ <;> cases heq
    · have hplace : p.queue.length < p.capacity ∧ p.closed = true := by
        refine hwhy.resolve_left fun hz => ?_
        simp [workers, hpub] at hz
      exact .of_swap
        (publish?_eq_some_iff.2 ⟨output, others, hpub, .inr ⟨by simp [deserted, held], hroom, rfl⟩⟩)
        (enter?_eq_some_iff.2 ⟨s, line, hsub, .inl ⟨.inr hplace, rfl⟩⟩)
    · exact .of_swap
        (publish?_eq_some_iff.2 ⟨output, others, hpub, .inr ⟨by simp [deserted, held], hroom, rfl⟩⟩)
        (enter?_eq_some_iff.2 ⟨s, line, hsub, .inr ⟨hw, hplace, hopen, rfl⟩⟩)

/-- A submission is decided on while a receiver is answered. -/
lemma enter_deliver (h : p.enter? m = some (q, es)) (h' : p.deliver? = some (r, fs)) :
    Joins m .enter .deliver q es r fs := by
  obtain ⟨s, line, hsub, hwhat⟩ := enter?_eq_some_iff.1 h
  obtain ⟨x, others, hrec, hwhat'⟩ := deliver?_eq_some_iff.1 h'
  rcases hwhat with ⟨hwhy, heq⟩ | ⟨hw, hplace, hopen, heq⟩ <;> cases heq <;>
    rcases hwhat' with ⟨output, outputs, hout, heq⟩ | ⟨hout, hz, heq⟩ <;> cases heq
  · exact .of_swap (deliver?_eq_some_iff.2 ⟨x, others, hrec, .inl ⟨output, outputs, hout, rfl⟩⟩)
      (enter?_eq_some_iff.2 ⟨s, line, hsub, .inl ⟨hwhy, rfl⟩⟩)
  · exact .of_swap (deliver?_eq_some_iff.2 ⟨x, others, hrec, .inr ⟨hout, hz, rfl⟩⟩)
      (enter?_eq_some_iff.2 ⟨s, line, hsub, .inl ⟨hwhy, rfl⟩⟩)
  · exact .of_swap (deliver?_eq_some_iff.2 ⟨x, others, hrec, .inl ⟨output, outputs, hout, rfl⟩⟩)
      (enter?_eq_some_iff.2 ⟨s, line, hsub, .inr ⟨hw, hplace, hopen, rfl⟩⟩)
  · exact absurd hz hw

/-- An output is published while another one is received, as long as somebody holds the pool. -/
lemma publish_deliver (held : p.held = true) (h : p.publish? m = some (q, es))
    (h' : p.deliver? = some (r, fs)) : Joins m .publish .deliver q es r fs := by
  obtain ⟨output, others, hpub, ⟨hd, -⟩ | ⟨-, hroom, heq⟩⟩ := publish?_eq_some_iff.1 h
  · simp [deserted, held] at hd
  · obtain ⟨x, rest, hrec, ⟨first, outputs, hout, heq'⟩ | ⟨-, hz, -⟩⟩ :=
      deliver?_eq_some_iff.1 h'
    · cases heq
      cases heq'
      have hroom' : outputs.length < p.capacity := by
        rw [hout, List.length_cons] at hroom
        omega
      exact .of_swap
        (deliver?_eq_some_iff.2 ⟨x, rest, hrec,
          .inl ⟨first, outputs ++ [output], by simp [hout], rfl⟩⟩)
        (publish?_eq_some_iff.2 ⟨output, others, hpub,
          .inr ⟨by simp [deserted, held], hroom', rfl⟩⟩)
    · simp [workers, hpub] at hz

end Joins

namespace Orderly

/-- A submission that is decided on has not seen the cancellation, and nobody exits meanwhile. -/
lemma not_enter_leave (hp : p.Orderly) (h : p.enter? m = some (q, es))
    (h' : p.leave? m = some (r, fs)) : False := by
  obtain ⟨s, line, hsub, hwhat⟩ := enter?_eq_some_iff.1 h
  obtain ⟨n, hidle, hc | ⟨-, hsealed⟩, -⟩ := leave?_eq_some_iff.1 h'
  · have hw : p.workers ≠ 0 := by
      rw [workers]
      omega
    rcases hp.line hc with hs | hz | hfull | ⟨hz, -⟩
    · simp [hsub] at hs
    · exact hw hz
    · rcases hwhat with ⟨hz | ⟨hroom, -⟩, -⟩ | ⟨-, hroom, -⟩
      · exact hw hz
      · omega
      · omega
    · omega
  · simp [sealed_iff, hsub] at hsealed

/-- An output is published while a submission is decided on only if somebody holds the pool. -/
lemma held_of_enter (hp : p.Orderly) (h : p.enter? m = some (q, es))
    (h' : p.publish? m = some (r, fs)) : p.held = true := by
  obtain ⟨s, line, hsub, hwhat⟩ := enter?_eq_some_iff.1 h
  obtain ⟨output, others, hpub, hwhat'⟩ := publish?_eq_some_iff.1 h'
  have hopen : p.deserted = false := by simp [deserted, hsub]
  rcases hp.outputs with hheld | hd | hclog | hlone
  · exact hheld
  · simp [hopen] at hd
  · obtain ⟨hfull, -⟩ := hclog.resolve_left (by simp [hpub])
    rcases hwhat' with ⟨hd, -⟩ | ⟨-, hroom, -⟩
    · simp [hopen] at hd
    · omega
  · have hfull := hlone.line.resolve_left (by simp [hsub])
    rcases hwhat with ⟨hz | ⟨hroom, -⟩, -⟩ | ⟨-, hroom, -⟩
    · simp [workers, hpub] at hz
    · omega
    · omega

/-- So it is while a receiver is answered. -/
lemma held_of_deliver (hp : p.Orderly) (h : p.publish? m = some (q, es))
    (h' : p.deliver? = some (r, fs)) : p.held = true := by
  obtain ⟨output, others, hpub, -⟩ := publish?_eq_some_iff.1 h
  obtain ⟨x, rest, hrec, hwhat⟩ := deliver?_eq_some_iff.1 h'
  rcases hp.outputs with hheld | hd | hclog | hlone
  · exact hheld
  · simp [deserted, hrec] at hd
  · obtain ⟨-, hnone⟩ := hclog.resolve_left (by simp [hpub])
    simp [hrec] at hnone
  · have hresults := hlone.readers.resolve_left (by simp [hrec])
    rcases hwhat with ⟨output, outputs, hout, -⟩ | ⟨-, hz, -⟩
    · simp [hresults] at hout
    · simp [workers, hpub] at hz

/-- A worker that takes a task does not exit. -/
lemma not_take_leave (h : p.take? m = some (q, es)) (h' : p.leave? m = some (r, fs)) : False := by
  obtain ⟨n, t, rest, hfree, -, hqueue, -⟩ := take?_eq_some_iff.1 h
  obtain ⟨n, -, hc | ⟨hempty, -⟩, -⟩ := leave?_eq_some_iff.1 h'
  · simp [hfree] at hc
  · simp [hqueue] at hempty

/-- **Two moves of an orderly pool can be made in either order.** -/
theorem join (hp : p.Orderly) {k l : Move} (hkl : k ≠ l) (h : p.perform? m k = some (q, es))
    (h' : p.perform? m l = some (r, fs)) : Joins m k l q es r fs := by
  cases k with
  | take =>
    cases l with
    | take => exact absurd rfl hkl
    | leave => exact (not_take_leave h h').elim
    | enter => exact .take_enter h h'
    | publish => exact .take_publish h h'
    | deliver => exact .take_deliver h h'
  | leave =>
    cases l with
    | take => exact (not_take_leave h' h).elim
    | leave => exact absurd rfl hkl
    | enter => exact (hp.not_enter_leave h' h).elim
    | publish => exact .leave_publish h h'
    | deliver => exact .leave_deliver h h'
  | enter =>
    cases l with
    | take => exact (Joins.take_enter h' h).symm
    | leave => exact (hp.not_enter_leave h h').elim
    | enter => exact absurd rfl hkl
    | publish => exact .enter_publish (hp.held_of_enter h h') h h'
    | deliver => exact .enter_deliver h h'
  | publish =>
    cases l with
    | take => exact (Joins.take_publish h' h).symm
    | leave => exact (Joins.leave_publish h' h).symm
    | enter => exact (Joins.enter_publish (hp.held_of_enter h' h) h' h).symm
    | publish => exact absurd rfl hkl
    | deliver => exact .publish_deliver (hp.held_of_deliver h h') h h'
  | deliver =>
    cases l with
    | take => exact (Joins.take_deliver h' h).symm
    | leave => exact (Joins.leave_deliver h' h).symm
    | enter => exact (Joins.enter_deliver h' h).symm
    | publish => exact (Joins.publish_deliver (hp.held_of_deliver h' h) h' h).symm
    | deliver => exact absurd rfl hkl

end Orderly

end Workforce.Pool
