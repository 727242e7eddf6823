import Workforce.Proofs.Scene.Aside
import Workforce.Proofs.Scene.Deed
/-!
# A pool without one of its calls

A call that waits on a pool and does not get what it waits for makes no difference to the pool. A
submission that waits stands in the line and keeps the queue open; but whoever stands behind it
could not have gone before it without it being admitted, and when the pool is closed it is refused
before a worker exits that waited for nothing else. A receiver that waits takes an output or is told
that there will be none, or nothing would have been there for anybody.

## Main definitions

* `Workforce.Pool.dismiss` — the pool without the call.
* `Workforce.Event.belongs` — the event is about the call or discards its task.
* `Workforce.Event.serves` — the event gives the call what it waits for.
* `Workforce.Pool.Spares` — what is known of a pool on which the call may wait.

## Main results

* `Workforce.Pool.Spares.perform?` — a move of the pool is one of the pool without the call, or the
  call is refused.
* `Workforce.Pool.Spares.step?`, `Pool.Spares.step?_eq_none` — so is the first enabled one.
* `Workforce.Pool.Spares.act` — what is done to the pool may be done to it without the call.
* `Workforce.Pool.Spares.submit_own`, `Spares.receive_own`, `Spares.withdraw_own` — the call itself
  makes no difference to the pool without it.
-/

namespace Workforce

variable {α : Type}

/-- The event is about the call or discards its task. -/
def Event.belongs (c : Nat) : Event α → Bool
  | discarded task => task.id.call == c
  | refused caller _ => caller == some c
  | _ => false

/-- The event gives the call what it waits for: it tells that its task has been admitted, or of an
output, or that there will be none. -/
def Event.serves (c : Nat) : Event α → Bool
  | admitted caller _ => caller == some c
  | received caller drains _ => caller == some c && !drains
  | toldClosed caller _ => caller == some c
  | _ => false

namespace Pool

variable {p q : Pool α} {m : Moment} {k : Move} {es : List (Event α)} {c : Nat}

/-- The pool without the call. -/
def dismiss (c : Nat) (p : Pool α) : Pool α := (p.withdraw c).1

/-- What is known of a pool on which the call may wait. -/
structure Spares (c : Nat) (p : Pool α) : Prop where
  /-- If the handle has been given up the call does not wait. -/
  held : p.held = true ∨
    c ∉ p.submitting.filterMap (·.caller) ++ p.receiving.filterMap (·.caller)
  /-- A task in the line is handed in by the call if it carries its number. -/
  line : ∀ s ∈ p.submitting, s.caller = some c ↔ s.task.id.call = c
  /-- The call does not read to the end. -/
  reads : ∀ r ∈ p.receiving, r.caller = some c → r.drains = false
  /-- No task of the call is in the queue. -/
  queue : ∀ t ∈ p.queue, t.id.call ≠ c

namespace Spares

/-- A pool is not deserted without the call unless it is with the call. -/
lemma deserted_eq (hp : p.Spares c) : (p.dismiss c).deserted = p.deserted := by
  rcases hp.held with hheld | hnone
  · have hheld' : (p.dismiss c).held = true := hheld
    simp [deserted, hheld, hheld']
  · rw [dismiss, Scene.withdraw_eq_self hnone]

end Spares

/-- A worker exits in the same way. -/
lemma retire_dismiss (reason : List (Event α)) :
    (p.dismiss c).retire m reason = ((p.retire m reason).1.dismiss c, (p.retire m reason).2) := by
  have hworkers : (p.dismiss c).workers = p.workers := rfl
  have hqueue : (p.dismiss c).queue = p.queue := rfl
  unfold retire
  rw [hworkers, hqueue]
  split
  · split <;> rfl
  · rfl

namespace Spares

/-- **A worker exits** in the same way without the call. -/
lemma retire (hp : p.Spares c) {reason : List (Event α)}
    (hreason : ∀ e ∈ reason, e.belongs c = false) (heq : p.retire m reason = (q, es)) :
    q.Spares c ∧ (p.dismiss c).retire m reason = (q.dismiss c, es) ∧
      ∀ e ∈ es, e.belongs c = false := by
  refine ⟨?_, by rw [retire_dismiss, heq], ?_⟩
  · have hq : q = (p.retire m reason).1 := by rw [heq]
    rw [hq, Pool.retire]
    split
    · split <;> exact ⟨hp.held, hp.line, hp.reads, by simp⟩
    · exact ⟨hp.held, hp.line, hp.reads, hp.queue⟩
  · have hes : es = (p.retire m reason).2 := by rw [heq]
    rw [hes]
    refine forall_mem_retire m p hreason (fun t ht => ?_) rfl rfl rfl
    simpa [Event.belongs] using hp.queue t ht

/-- The line moves on. -/
lemma of_line (hp : p.Spares c) {s : Submission α} {rest : List (Submission α)}
    (hline : p.submitting = s :: rest) : ({ p with submitting := rest } : Pool α).Spares c where
  held := hp.held.imp_right fun hnone hmem => hnone (by
    rw [hline, List.filterMap_cons]
    cases s.caller with
    | none => exact hmem
    | some k => exact List.mem_cons_of_mem _ hmem)
  line u hu := hp.line u (hline ▸ List.mem_cons_of_mem _ hu)
  reads := hp.reads
  queue := hp.queue

/-- What happens when a submission is refused belongs to the call if it is its own. -/
lemma belongs_refusal (hp : p.Spares c) {s : Submission α} (hs : s ∈ p.submitting) (m : Moment) :
    ∀ e ∈ refusal m s, e.belongs c = decide (s.caller = some c) := by
  have hname := hp.line s hs
  by_cases hcaller : s.caller = some c
  · simp [refusal, Event.belongs, hname.1 hcaller, hcaller]
  · have hid : s.task.id.call ≠ c := fun hid => hcaller (hname.2 hid)
    simp [refusal, Event.belongs, hid, hcaller]

/-- The first submission is decided on. -/
lemma enter (hp : p.Spares c) (h : p.enter? m = some (q, es))
    (unserved : ∀ e ∈ es, e.serves c = false) :
    q.Spares c ∧ ((q.dismiss c = p.dismiss c ∧ es ≠ [] ∧ ∀ e ∈ es, e.belongs c = true) ∨
      (p.dismiss c).enter? m = some (q.dismiss c, es) ∧ ∀ e ∈ es, e.belongs c = false) := by
  obtain ⟨s, rest, hline, hwhat⟩ := enter?_eq_some_iff.1 h
  have hs : s ∈ p.submitting := hline ▸ List.mem_cons_self
  have hrest := hp.of_line hline
  by_cases hcaller : s.caller = some c
  · rcases hwhat with ⟨-, heq⟩ | ⟨-, -, -, heq⟩
    · cases heq
      refine ⟨hrest, .inl ⟨?_, List.cons_ne_nil _ _, fun e he => ?_⟩⟩
      · simp [dismiss, withdraw, hline, hcaller]
      · simp [hp.belongs_refusal hs m e he, hcaller]
    · cases heq
      simp [Event.serves, hcaller] at unserved
  · have hid : s.task.id.call ≠ c := fun hid => hcaller ((hp.line s hs).2 hid)
    have hline' : (p.dismiss c).submitting = s :: rest.filter (·.caller != some c) := by
      simp [dismiss, withdraw, hline, hcaller]
    rcases hwhat with ⟨hwhy, heq⟩ | ⟨hworkers, hroom, hopen, heq⟩
    · cases heq
      refine ⟨hrest, .inr ⟨enter?_eq_some_iff.2 ⟨s, _, hline', .inl ⟨hwhy, rfl⟩⟩, fun e he => ?_⟩⟩
      simp [hp.belongs_refusal hs m e he, hcaller]
    · cases heq
      refine ⟨⟨hrest.held, hrest.line, hrest.reads, ?_⟩, .inr ⟨enter?_eq_some_iff.2
        ⟨s, _, hline', .inr ⟨hworkers, hroom, hopen, rfl⟩⟩, by simp [Event.belongs]⟩⟩
      exact List.forall_mem_append.2 ⟨hp.queue, by simpa using hid⟩

/-- The first receiver is answered. -/
lemma deliver (hp : p.Spares c) (h : p.deliver? = some (q, es))
    (unserved : ∀ e ∈ es, e.serves c = false) :
    q.Spares c ∧ (p.dismiss c).deliver? = some (q.dismiss c, es) ∧
      ∀ e ∈ es, e.belongs c = false := by
  obtain ⟨r, rest, hline, hwhat⟩ := deliver?_eq_some_iff.1 h
  have hr : r ∈ p.receiving := hline ▸ List.mem_cons_self
  have hcaller : r.caller ≠ some c := fun hcaller => by
    have hreads := hp.reads r hr hcaller
    rcases hwhat with ⟨output, outputs, -, heq⟩ | ⟨-, -, heq⟩ <;> cases heq <;>
      simp [Event.serves, hcaller, hreads] at unserved
  have hline' : (p.dismiss c).receiving = r :: rest.filter (·.caller != some c) := by
    simp [dismiss, withdraw, hline, hcaller]
  have held : ∀ rs : List Receiver, rs ⊆ r :: rest →
      p.held = true ∨ c ∉ p.submitting.filterMap (·.caller) ++ rs.filterMap (·.caller) :=
    fun rs hrs => hp.held.imp_right fun hnone hmem => hnone <| by
      rw [hline]
      exact (List.mem_append.1 hmem).elim (List.mem_append_left _) fun hmem => by
        obtain ⟨x, hx, hc⟩ := List.mem_filterMap.1 hmem
        exact List.mem_append_right _ (List.mem_filterMap.2 ⟨x, hrs hx, hc⟩)
  have reads : ∀ rs : List Receiver, rs ⊆ r :: rest →
      ∀ x ∈ rs, x.caller = some c → x.drains = false :=
    fun rs hrs x hx => hp.reads x (hline ▸ hrs hx)
  rcases hwhat with ⟨output, outputs, hresults, heq⟩ | ⟨hresults, hworkers, heq⟩
  · have hsub : (if r.drains then rest ++ [r] else rest) ⊆ r :: rest := by
      split
      · intro x hx
        simpa [or_comm] using hx
      · exact List.subset_cons_self _ _
    cases heq
    refine ⟨⟨held _ hsub, hp.line, reads _ hsub, hp.queue⟩, deliver?_eq_some_iff.2
      ⟨r, _, hline', .inl ⟨output, outputs, hresults, ?_⟩⟩, by simp [Event.belongs]⟩
    cases hdrains : r.drains <;> simp [dismiss, withdraw, hcaller]
  · cases heq
    exact ⟨⟨held _ (List.subset_cons_self _ _), hp.line, reads _ (List.subset_cons_self _ _),
      hp.queue⟩, deliver?_eq_some_iff.2 ⟨r, _, hline', .inr ⟨hresults, hworkers, rfl⟩⟩,
      by simp [Event.belongs]⟩

/-- **A move of the pool is one of the pool without the call**, or the call is refused. -/
theorem perform? (hp : p.Spares c) (h : p.perform? m k = some (q, es))
    (unserved : ∀ e ∈ es, e.serves c = false) :
    q.Spares c ∧ ((q.dismiss c = p.dismiss c ∧ es ≠ [] ∧ ∀ e ∈ es, e.belongs c = true) ∨
      (p.dismiss c).perform? m k = some (q.dismiss c, es) ∧ ∀ e ∈ es, e.belongs c = false) := by
  cases k with
  | take =>
    obtain ⟨n, t, rest, hcancelled, hidle, hqueue, heq⟩ := take?_eq_some_iff.1 h
    cases heq
    refine ⟨⟨hp.held, hp.line, hp.reads, fun u hu => hp.queue u ?_⟩, .inr ⟨?_, ?_⟩⟩
    · exact hqueue ▸ List.mem_cons_of_mem _ hu
    · exact take?_eq_some_iff.2 ⟨n, t, rest, hcancelled, hidle, hqueue, rfl⟩
    · simp [Event.belongs]
  | leave =>
    obtain ⟨n, hidle, hwhy, heq⟩ := leave?_eq_some_iff.1 h
    have hfarewell : ∀ e ∈ p.farewell, e.belongs c = false := forall_mem_farewell rfl
    have hexit : ({ p with idle := n } : Pool α).Spares c :=
      ⟨hp.held, hp.line, hp.reads, hp.queue⟩
    obtain ⟨hq, hsame, hes⟩ := hexit.retire hfarewell heq
    refine ⟨hq, .inr ⟨leave?_eq_some_iff.2 ⟨n, hidle, ?_, hsame⟩, hes⟩⟩
    refine hwhy.imp_right fun ⟨hqueue, hsealed⟩ => ⟨hqueue, ?_⟩
    rw [sealed, Bool.and_eq_true, List.isEmpty_iff] at hsealed
    have hline : (p.dismiss c).submitting = [] := by simp [dismiss, withdraw, hsealed.1]
    rw [sealed, hline, hp.deserted_eq]
    exact hsealed.2
  | enter => exact hp.enter h unserved
  | publish =>
    obtain ⟨output, rest, hpublishing, ⟨hdeserted, heq⟩ | ⟨hdeserted, hroom, heq⟩⟩ :=
      publish?_eq_some_iff.1 h
    · have hexit : ({ p with publishing := rest } : Pool α).Spares c :=
        ⟨hp.held, hp.line, hp.reads, hp.queue⟩
      obtain ⟨hq, hsame, hes⟩ := hexit.retire (by simp [Event.belongs]) heq
      exact ⟨hq, .inr ⟨publish?_eq_some_iff.2 ⟨output, rest, hpublishing,
        .inl ⟨hp.deserted_eq.trans hdeserted, hsame⟩⟩, hes⟩⟩
    · cases heq
      refine ⟨⟨hp.held, hp.line, hp.reads, hp.queue⟩, .inr ⟨publish?_eq_some_iff.2
        ⟨output, rest, hpublishing, .inr ⟨hp.deserted_eq.trans hdeserted, hroom, rfl⟩⟩, ?_⟩⟩
      simp [Event.belongs]
  | deliver => exact (hp.deliver h unserved).imp_right .inr

/-- The call is the first in the line and is refused by the first enabled move. -/
def TurnedAway (c : Nat) (m : Moment) (p : Pool α) : Prop :=
  ∃ s rest, p.submitting = s :: rest ∧ s.caller = some c ∧
    p.step? m = some ({ p with submitting := rest }, refusal m s)

/-- **A move that is not enabled** is not enabled without the call either, or the call is refused
next: nothing but its submission keeps an idle worker from exiting then. -/
lemma perform?_eq_none (hp : p.Spares c) (h : p.perform? m k = none) :
    (p.dismiss c).perform? m k = none ∨ TurnedAway c m p := by
  cases k with
  | take => exact .inl (take?_eq_none_iff.2 (take?_eq_none_iff (p := p).1 h))
  | leave =>
    by_cases hsealed : (p.dismiss c).sealed = true
    · rcases leave?_eq_none_iff.1 h with hidle | ⟨hcancelled, hqueue | hopen⟩
      · exact .inl (leave?_eq_none_iff.2 (.inl hidle))
      · exact .inl (leave?_eq_none_iff.2 (.inr ⟨hcancelled, .inl hqueue⟩))
      · by_cases hidle : p.idle = 0
        · exact .inl (leave?_eq_none_iff.2 (.inl hidle))
        by_cases hqueue : p.queue = []
        swap
        · exact .inl (leave?_eq_none_iff.2 (.inr ⟨hcancelled, .inl hqueue⟩))
        -- a worker waits only because the call is in the line
        rw [sealed, hp.deserted_eq, Bool.and_eq_true, List.isEmpty_iff] at hsealed
        obtain ⟨hnone, hwhy⟩ := hsealed
        have hwhy : (p.closed || p.deserted) = true := hwhy
        cases hline : p.submitting with
        | nil =>
          simp [sealed, hline, hwhy] at hopen
        | cons s rest =>
          have hdeserted : p.deserted = false := by simp [deserted, hline]
          have hclosed : p.closed = true := by simpa [hdeserted] using hwhy
          have hcaller : s.caller = some c := by
            have hall := List.filter_eq_nil_iff.1 hnone s (hline ▸ List.mem_cons_self)
            simpa using hall
          have hroom : p.queue.length < p.capacity := by
            have hpos := p.size_pos
            simp only [hqueue, capacity, List.length_nil]
            omega
          have htake : p.take? m = none := take?_eq_none_iff.2 (.inr (.inr hqueue))
          have henter : p.enter? m = some ({ p with submitting := rest }, refusal m s) :=
            enter?_eq_some_iff.2 ⟨s, rest, hline, .inl ⟨.inr ⟨hroom, hclosed⟩, rfl⟩⟩
          have hleave : p.leave? m = none := h
          refine .inr ⟨s, rest, hline, hcaller, ?_⟩
          simp only [step?, Move.all, List.findSome?_cons, Pool.perform?, htake, hleave, henter]
    · refine .inl (leave?_eq_none_iff.2 ?_)
      exact (leave?_eq_none_iff.1 h).imp_right fun hstays =>
        ⟨hstays.1, .inr (by simpa using hsealed)⟩
  | enter =>
    refine .inl (enter?_eq_none_iff.2 ((enter?_eq_none_iff.1 h).imp_left fun hline => ?_))
    simp [dismiss, withdraw, hline]
  | publish =>
    refine .inl (publish?_eq_none_iff.2 ((publish?_eq_none_iff.1 h).imp_right ?_))
    exact fun hstays => ⟨hp.deserted_eq.trans hstays.1, hstays.2⟩
  | deliver =>
    refine .inl (deliver?_eq_none_iff.2 ((deliver?_eq_none_iff.1 h).imp_left fun hline => ?_))
    simp [dismiss, withdraw, hline]

/-- Where nothing can move nothing can without the call. -/
lemma step?_eq_none (hp : p.Spares c) (h : p.step? m = none) : (p.dismiss c).step? m = none := by
  refine step?_eq_none_iff.2 fun k => ?_
  rcases hp.perform?_eq_none (step?_eq_none_iff.1 h k) with hnone | ⟨s, rest, -, -, hsome⟩
  · exact hnone
  · cases h.symm.trans hsome

/-- **The first enabled move of the pool** is the one of the pool without the call, or the call is
refused. -/
theorem step? (hp : p.Spares c) (h : p.step? m = some (q, es))
    (unserved : ∀ e ∈ es, e.serves c = false) :
    q.Spares c ∧ ((q.dismiss c = p.dismiss c ∧ ∀ e ∈ es, e.belongs c = true) ∨
      (p.dismiss c).step? m = some (q.dismiss c, es) ∧ ∀ e ∈ es, e.belongs c = false) := by
  by_cases haway : TurnedAway c m p
  · obtain ⟨s, rest, hline, hcaller, hsome⟩ := haway
    cases h.symm.trans hsome
    refine ⟨hp.of_line hline, .inl ⟨?_, fun e he => ?_⟩⟩
    · simp [dismiss, withdraw, hline, hcaller]
    · simp [hp.belongs_refusal (hline ▸ List.mem_cons_self) m e he, hcaller]
  · obtain ⟨k, hk⟩ := exists_move_of_step? h
    obtain ⟨hq, ⟨hsame, -, hes⟩ | ⟨-, hes⟩⟩ := hp.perform? hk unserved
    · exact ⟨hq, .inl ⟨hsame, hes⟩⟩
    · obtain ⟨y, hy, rfl⟩ := exists_findSome?_of (P := (· = (q.dismiss c, es))) h
        (fun l hl => (hp.perform?_eq_none hl).resolve_right haway) fun l hl => by
          obtain ⟨-, ⟨-, hne, hbelongs⟩ | ⟨hsame, -⟩⟩ := hp.perform? hl unserved
          · obtain ⟨e, he⟩ := List.exists_mem_of_ne_nil _ hne
            exact absurd ((hbelongs e he).symm.trans (hes e he)) (by simp)
          · exact ⟨_, hsame, rfl⟩
      exact ⟨hq, .inr ⟨hy, hes⟩⟩

end Spares

/-! ## From outside -/

/-- What is done to the pool is not about the call. -/
def Turn.Spares (c : Nat) : Turn α → Prop
  | submit call task => call ≠ c ∧ task.id.call ≠ c
  | next call | shutdown call | abandon call => call ≠ c
  | drop => False
  | _ => True

namespace Spares

/-- Closing a pool. -/
lemma close (hp : p.Spares c) : p.close.1.Spares c ∧
    (p.dismiss c).close = (p.close.1.dismiss c, p.close.2) ∧
      ∀ e ∈ p.close.2, e.belongs c = false := by
  have hclosed : (p.dismiss c).closed = p.closed := rfl
  refine ⟨?_, ?_, ?_⟩
  · rw [close_frame]
    exact ⟨hp.held, hp.line, hp.reads, hp.queue⟩
  · unfold Pool.close
    rw [hclosed]
    split <;> rfl
  · rcases Batch.close_snd p with h | h <;> rw [h] <;> simp [Event.belongs]

/-- Somebody else joins the line of receivers. -/
lemma receive (hp : p.Spares c) {call : Nat} (hcall : call ≠ c) (drains : Bool) :
    (p.receive ⟨some call, drains⟩).Spares c ∧
      (p.dismiss c).receive ⟨some call, drains⟩ = (p.receive ⟨some call, drains⟩).dismiss c := by
  refine ⟨⟨hp.held.imp_right fun hnone => ?_, hp.line, ?_, hp.queue⟩, ?_⟩
  · simpa [Pool.receive, hcall, Ne.symm hcall] using hnone
  · exact List.forall_mem_append.2 ⟨hp.reads, by simp [hcall]⟩
  · simp [dismiss, withdraw, Pool.receive, hcall]

/-- Somebody else hands in a task. -/
lemma submit (hp : p.Spares c) {call : Nat} {task : Task α} (hcall : call ≠ c)
    (htask : task.id.call ≠ c) (m : Moment) :
    (p.submit m ⟨some call, task⟩).1.Spares c ∧ (p.dismiss c).submit m ⟨some call, task⟩ =
      ((p.submit m ⟨some call, task⟩).1.dismiss c, (p.submit m ⟨some call, task⟩).2) ∧
        ∀ e ∈ (p.submit m ⟨some call, task⟩).2, e.belongs c = false := by
  have hclosed : (p.dismiss c).closed = p.closed := rfl
  unfold Pool.submit
  rw [hclosed]
  split
  · exact ⟨hp, rfl, by simp [refusal, Event.belongs, hcall, htask]⟩
  · refine ⟨⟨hp.held.imp_right fun hnone => ?_, ?_, hp.reads, hp.queue⟩, ?_, by simp⟩
    · simpa [hcall, Ne.symm hcall] using hnone
    · exact List.forall_mem_append.2 ⟨hp.line, by simp [hcall, htask]⟩
    · simp [dismiss, withdraw, hcall]

/-- Another call is given up. -/
lemma withdraw (hp : p.Spares c) {call : Nat} (hcall : call ≠ c) :
    (p.withdraw call).1.Spares c ∧
      (p.dismiss c).withdraw call = ((p.withdraw call).1.dismiss c, (p.withdraw call).2) ∧
        ∀ e ∈ (p.withdraw call).2, e.belongs c = false := by
  refine ⟨⟨hp.held.imp_right fun hnone hmem => ?_, fun s hs => ?_, fun r hr => ?_, hp.queue⟩, ?_,
    fun e he => ?_⟩
  · refine hnone ?_
    rw [List.mem_append, List.mem_filterMap, List.mem_filterMap] at hmem ⊢
    exact hmem.imp (fun ⟨s, hs, hc⟩ => ⟨s, List.mem_of_mem_filter hs, hc⟩)
      fun ⟨r, hr, hc⟩ => ⟨r, List.mem_of_mem_filter hr, hc⟩
  · exact hp.line s (List.mem_of_mem_filter hs)
  · exact hp.reads r (List.mem_of_mem_filter hr)
  · have hother : ∀ o : Option Nat, (o == some call && (o != some c)) = (o == some call) :=
      fun o => by
        by_cases ho : o = some call
        · simp [ho, hcall]
        · simp [ho]
    simp only [dismiss, Pool.withdraw, List.filter_filter, hother, Bool.and_comm]
  · obtain ⟨s, hs, rfl⟩ := List.mem_map.1 he
    obtain ⟨hmem, hcaller⟩ := List.mem_filter.1 hs
    have hcaller : s.caller = some call := by simpa using hcaller
    have hid : s.task.id.call ≠ c := fun hid => by
      have hc := (hp.line s hmem).2 hid
      simp [hcaller, hcall] at hc
    simpa [Event.belongs] using hid

/-- A task ends. -/
lemma finish (hp : p.Spares c) (id : TaskId) :
    (p.finish id).1.Spares c ∧
      (p.dismiss c).finish id = ((p.finish id).1.dismiss c, (p.finish id).2) ∧
        ∀ e ∈ (p.finish id).2, e.belongs c = false := by
  have hrunning : (p.dismiss c).running = p.running := rfl
  unfold Pool.finish finish?
  rw [hrunning]
  cases p.running.find? (·.task.id == id) with
  | none => exact ⟨hp, rfl, by simp⟩
  | some r =>
    dsimp only
    cases r.task.outcome.output? <;>
      exact ⟨⟨hp.held, hp.line, hp.reads, hp.queue⟩, rfl, by simp [Event.belongs]⟩

/-- **What is done to the pool may be done to it without the call.** -/
theorem act (hp : p.Spares c) {x : Turn α} (hx : x.Spares c) (m : Moment) :
    (x.act m p).1.Spares c ∧ x.act m (p.dismiss c) = ((x.act m p).1.dismiss c, (x.act m p).2) ∧
      ∀ e ∈ (x.act m p).2, e.belongs c = false := by
  cases x with
  | elsewhere => exact ⟨hp, rfl, by simp [Turn.act, Turn.apply]⟩
  | submit call task =>
    rw [Turn.act_submit, Turn.act_submit]
    exact hp.submit hx.1 hx.2 m
  | next call =>
    obtain ⟨hq, hsame⟩ := hp.receive hx false
    exact ⟨hq, congrArg (·, []) hsame, fun e he => absurd he List.not_mem_nil⟩
  | shutdown call =>
    obtain ⟨hq, hclose, hes⟩ := hp.close
    obtain ⟨hr, hsame⟩ := hq.receive hx true
    rw [Turn.act_shutdown, Turn.act_shutdown, hclose]
    exact ⟨hr, congrArg (·, p.close.2) hsame, hes⟩
  | close =>
    rw [Turn.act_close, Turn.act_close]
    exact hp.close
  | cancel =>
    rw [Turn.act_cancel, Turn.act_cancel]
    exact ⟨⟨hp.held, hp.line, hp.reads, hp.queue⟩, rfl, by simp [cancel, Event.belongs]⟩
  | follow =>
    exact ⟨⟨hp.held, hp.line, hp.reads, hp.queue⟩, rfl, by simp [Turn.act, Turn.apply]⟩
  | drop => exact hx.elim
  | abandon call =>
    rw [Turn.act_abandon, Turn.act_abandon]
    exact hp.withdraw hx
  | finish name =>
    rw [Turn.act_finish, Turn.act_finish]
    exact hp.finish name

/-- So may giving up the handle, if the call does not wait. -/
lemma act_drop (hp : p.Spares c)
    (hnone : c ∉ p.submitting.filterMap (·.caller) ++ p.receiving.filterMap (·.caller))
    (m : Moment) :
    (Turn.drop.act m p).1.Spares c ∧
      Turn.drop.act m (p.dismiss c) = ((Turn.drop.act m p).1.dismiss c, (Turn.drop.act m p).2) ∧
        ∀ e ∈ (Turn.drop.act m p).2, e.belongs c = false :=
  ⟨⟨.inr hnone, hp.line, hp.reads, hp.queue⟩, rfl, by simp [Turn.act, Turn.apply]⟩

/-! ## The call itself -/

/-- The call hands in its task. -/
lemma submit_own (hp : p.Spares c) (held : p.held = true) {task : Task α} (htask : task.id.call = c)
    (m : Moment) : (p.submit m ⟨some c, task⟩).1.Spares c ∧
      (p.submit m ⟨some c, task⟩).1.dismiss c = p.dismiss c ∧
        ∀ e ∈ (p.submit m ⟨some c, task⟩).2, e.belongs c = true := by
  unfold Pool.submit
  split
  · exact ⟨hp, rfl, by simp [refusal, Event.belongs, htask]⟩
  · refine ⟨⟨.inl held, ?_, hp.reads, hp.queue⟩, ?_, by simp⟩
    · exact List.forall_mem_append.2 ⟨hp.line, by simp [htask]⟩
    · simp [dismiss, Pool.withdraw]

/-- The call joins the line of receivers. -/
lemma receive_own (hp : p.Spares c) (held : p.held = true) :
    (p.receive ⟨some c, false⟩).Spares c ∧ (p.receive ⟨some c, false⟩).dismiss c = p.dismiss c := by
  refine ⟨⟨.inl held, hp.line, ?_, hp.queue⟩, ?_⟩
  · exact List.forall_mem_append.2 ⟨hp.reads, by simp⟩
  · simp [dismiss, Pool.withdraw, Pool.receive]

/-- The call is given up. -/
lemma withdraw_own (hp : p.Spares c) : (p.withdraw c).1.Spares c ∧
    (p.withdraw c).1.dismiss c = p.dismiss c ∧ ∀ e ∈ (p.withdraw c).2, e.belongs c = true := by
  refine ⟨⟨.inr ?_, fun s hs => ?_, fun r hr => ?_, hp.queue⟩, ?_, fun e he => ?_⟩
  · simp [Pool.withdraw]
  · exact hp.line s (List.mem_of_mem_filter hs)
  · exact hp.reads r (List.mem_of_mem_filter hr)
  · simp [dismiss, Pool.withdraw]
  · obtain ⟨s, hs, rfl⟩ := List.mem_map.1 he
    obtain ⟨hmem, hcaller⟩ := List.mem_filter.1 hs
    simpa [Event.belongs] using (hp.line s hmem).1 (by simpa using hcaller)

end Spares

end Pool

end Workforce
