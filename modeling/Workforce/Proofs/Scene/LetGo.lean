import Workforce.Proofs.Pool.Deserted
import Workforce.Proofs.Scene.Detach
import Workforce.Proofs.Scene.Made
import Workforce.Proofs.Scene.Mirror
/-!
# Pools that are let go

Nobody notices that the handle of a pool has been given up as long as a call waits on the pool: two
scenes that differ only in this go through the same phases. They part when the last call has been
answered or given up, and from then on no call on the pool is answered in either of them.

## Main definitions

* `Workforce.Pool.Vacant` — no call waits on a pool.
* `Workforce.Scene.letGo` — the handle of the pool at an index is given up.
* `Workforce.Scene.Linked` — the same has happened in two scenes as far as calls on a pool can tell.

## Main results

* `Workforce.Pool.settle_release` — a pool on which calls wait settles as if it were held.
* `Workforce.Scene.linked_reach` — two scenes that differ in who holds a pool are linked after all
  commands that are not given to the pool.
-/

namespace Workforce

open Occurrence Trail History

variable {α : Type}

namespace Pool

variable {p q : Pool α} {os : Trail α} {m m' : Moment} {es : List (Event α)}

/-- No call waits on the pool. -/
def Vacant (p : Pool α) : Prop := p.submitting = [] ∧ p.receiving = []

/-- Whether a call waits does not depend on who holds the pool. -/
lemma vacant_release : p.release.Vacant ↔ p.Vacant := Iff.rfl

/-- A pool on which a call waits is not deserted. -/
lemma deserted_of_not_vacant (h : ¬ p.Vacant) : p.deserted = false := by
  rw [← Bool.not_eq_true]
  exact fun hd => h (deserted_iff.1 hd).2

/-! ## A vacant pool stays vacant -/

/-- If no call comes to a vacant pool it stays vacant, and no call is answered. -/
lemma Step.vacant (h : Step p os q) (hp : p.Vacant) (unasked : collect asked? os = [])
    (unjoined : collect joined? os = []) :
    q.Vacant ∧ ∀ e, event e ∈ os → e.answer? = none := by
  obtain ⟨hsub, hrec⟩ := hp
  have hretire : ∀ {r : Pool α} (m : Moment) {reason : List (Event α)},
      r.submitting = [] → r.receiving = [] → (∀ e ∈ reason, e.answer? = none) →
      (r.retire m reason).1.Vacant ∧
        ∀ e, event e ∈ (r.retire m reason).2.map event → e.answer? = none := by
    intro r m reason hsub hrec hreason
    refine ⟨⟨(submitting_retire ..).trans hsub, (receiving_retire ..).trans hrec⟩, ?_⟩
    intro e he
    obtain ⟨e', he', heq⟩ := List.mem_map.1 he
    cases heq
    exact forall_mem_retire m r hreason (fun _ _ => rfl) rfl rfl rfl e he'
  cases h with
  | stop | leave | lose => exact hretire _ hsub hrec (by simp [Event.answer?])
  | accept submitting | refuse _ submitting => simp [hsub] at submitting
  | deliver receiving | tell receiving => simp [hrec] at receiving
  | submit | turnAway => simp [asked?] at unasked
  | receive => simp [joined?] at unjoined
  | withdraw call =>
    simp [Pool.withdraw, Vacant, hsub, hrec]
  | retract => exact ⟨⟨rfl, hrec⟩, by simp [hsub]⟩
  | resign => exact ⟨⟨hsub, rfl⟩, by simp [hrec]⟩
  | _ => exact ⟨⟨hsub, hrec⟩, by simp [Event.answer?]⟩

/-- So it does in a run. -/
lemma Steps.vacant (h : Steps p os q) (hp : p.Vacant) (unasked : collect asked? os = [])
    (unjoined : collect joined? os = []) :
    q.Vacant ∧ ∀ e, event e ∈ os → e.answer? = none := by
  induction h with
  | refl => exact ⟨hp, by simp⟩
  | tail _ last ih =>
    rw [collect_append, List.append_eq_nil_iff] at unasked unjoined
    obtain ⟨hq, hbefore⟩ := ih unasked.1 unjoined.1
    obtain ⟨hr, hlast⟩ := last.vacant hq unasked.2 unjoined.2
    exact ⟨hr, fun e he => (List.mem_append.1 he).elim (hbefore e) (hlast e)⟩

/-! ## Moves of a pool that is let go -/

/-- A pool on which a call waits moves as if it were held. -/
lemma perform?_release (h : ¬ p.Vacant) (m : Moment) (k : Move) :
    p.release.perform? m k = (p.perform? m k).map fun r => (r.1.release, r.2) := by
  have hd := deserted_of_not_vacant h
  have hd' : p.release.deserted = false := deserted_of_not_vacant (vacant_release.not.2 h)
  have hsealed : p.release.sealed = p.sealed := by rw [Pool.sealed, Pool.sealed, hd, hd']; rfl
  have hretire : ∀ (r : Pool α) (reason : List (Event α)),
      r.release.retire m reason = ((r.retire m reason).1.release, (r.retire m reason).2) := by
    intro r reason
    unfold retire
    show (if r.workers = 0 then _ else _) = _
    split
    · show (if r.queue.any m.breaks then _ else _) = _
      split <;> rfl
    · rfl
  cases k with
  | take =>
    simp only [perform?, take?, release]
    split <;> rfl
  | leave =>
    have hidle : p.release.idle = p.idle := rfl
    have hcancelled : p.release.cancelled = p.cancelled := rfl
    have hqueue : p.release.queue = p.queue := rfl
    simp only [perform?, leave?, hidle, hcancelled, hqueue, hsealed]
    cases p.idle with
    | zero => rfl
    | succ n =>
      dsimp only
      split
      · exact congrArg some (hretire { p with idle := n } _)
      · split
        · exact congrArg some (hretire { p with idle := n } _)
        · rfl
  | enter =>
    cases hs : p.submitting with
    | nil => simp [perform?, enter?, release, hs]
    | cons s rest =>
      have hline : p.release.submitting = s :: rest := hs
      have hworkers : p.release.workers = p.workers := rfl
      have hqueue : p.release.queue = p.queue := rfl
      have hcapacity : p.release.capacity = p.capacity := rfl
      have hclosed : p.release.closed = p.closed := rfl
      simp only [perform?, enter?, hs, hline, hworkers, hqueue, hcapacity, hclosed]
      split
      · rfl
      · split
        · split <;> rfl
        · rfl
  | publish =>
    cases hp : p.publishing with
    | nil => simp [perform?, publish?, release, hp]
    | cons output rest =>
      have hline : p.release.publishing = output :: rest := hp
      have hresults : p.release.results = p.results := rfl
      have hcapacity : p.release.capacity = p.capacity := rfl
      simp only [perform?, publish?, hp, hline, hresults, hcapacity, hd, hd', Bool.false_eq_true,
        if_false]
      split <;> rfl
  | deliver =>
    simp only [perform?, deliver?, release]
    split
    · rfl
    · rfl
    · show (if p.workers = 0 then _ else _) = _
      split <;> rfl

/-- So it does step by step. -/
lemma step?_release (h : ¬ p.Vacant) (m : Moment) :
    p.release.step? m = (p.step? m).map fun r => (r.1.release, r.2) := by
  rw [step?, step?, List.map_findSome?]
  exact congrArg (fun f => Move.all.findSome? f) (funext fun k => perform?_release h m k)

/-- **A pool on which calls wait settles as if it were held**, to the end or until no call waits any
more. -/
theorem settle_release (m : Moment) (h : ¬ p.Vacant) :
    (¬ (p.settle m).1.Vacant ∧ p.release.settle m = ((p.settle m).1.release, (p.settle m).2)) ∨
      ∃ es m' q, q.Vacant ∧ Passes m p es m' q ∧ Passes m p.release es m' q.release := by
  fun_induction settle m p with
  | case1 m p hnone =>
    have hnone' : p.release.step? m = none := by rw [step?_release h, hnone]; rfl
    exact .inl ⟨h, settle_eq_self hnone'⟩
  | case2 m p q es hstep r fs hr ih =>
    have hstep' : p.release.step? m = some (q.release, es) := by rw [step?_release h, hstep]; rfl
    by_cases hq : q.Vacant
    · have hpass := Passes.step hstep (.here (m.after es) q)
      have hpass' := Passes.step hstep' (.here (m.after es) q.release)
      exact .inr ⟨_, _, q, hq, hpass, hpass'⟩
    · rw [hr] at ih
      rcases ih hq with ⟨hwaits, hsettle⟩ | ⟨gs, m', c, hc, hpass, hpass'⟩
      · refine .inl ⟨hwaits, ?_⟩
        rw [settle_of_step? hstep', hsettle]
      · exact .inr ⟨_, m', c, hc, .step hstep hpass, .step hstep' hpass'⟩

/-- A vacant pool stays vacant as it settles, and no call is answered. -/
lemma Vacant.settle (h : p.Vacant) (m : Moment) :
    (p.settle m).1.Vacant ∧ ∀ e ∈ (p.settle m).2, e.answer? = none := by
  obtain ⟨hvacant, hquiet⟩ := Steps.vacant (Steps.of_settle m p) h
    (collect_map_event asked? (fun _ => rfl) _) (collect_map_event joined? (fun _ => rfl) _)
  exact ⟨hvacant, fun e he => hquiet e (List.mem_map_of_mem he)⟩

/-- If calls still wait on a pool when it has settled, it settles as if it were held. -/
lemma settle_release_of_waits (h : ¬ (p.settle m).1.Vacant) :
    p.release.settle m = Prod.map release id (p.settle m) := by
  rcases settle_release m (fun hp : p.Vacant => h (hp.settle m).1) with ⟨-, hsettle⟩ |
    ⟨es, m', q, hq, hpass, -⟩
  · exact hsettle
  · rw [hpass.settle] at h
    exact absurd (hq.settle m').1 h

/-- If not, it does so until none waits. -/
lemma passes_of_vacant (h : (p.settle m).1.Vacant) :
    ∃ es m' q, q.Vacant ∧ Passes m p es m' q ∧ Passes m p.release es m' q.release := by
  by_cases hp : p.Vacant
  · exact ⟨[], m, p, hp, .here m p, .here m p.release⟩
  · exact (settle_release m hp).resolve_left fun hwaits => hwaits.1 h

/-- The end of a task does not depend on who holds the pool. -/
lemma finish_release (name : TaskId) (p : Pool α) :
    p.release.finish name = Prod.map release id (p.finish name) := by
  have hrunning : p.release.running = p.running := rfl
  unfold finish finish?
  rw [hrunning]
  cases p.running.find? (·.task.id == name) with
  | none => rfl
  | some r =>
    dsimp only
    cases r.task.outcome.output? <;> rfl

/-- **A vacant pool stays vacant in a turn in which no call is made on it.** -/
lemma Vacant.turn (h : p.Vacant) (m : Moment) (x : Turn α)
    (uncalled : ∀ o ∈ (x.apply m p).2, o.call? = none) :
    (x.apply m p).1.Vacant ∧ ∀ e, event e ∈ (x.apply m p).2 → e.answer? = none := by
  -- steps in which nobody is asked for anything
  have steps : ∀ {os : Trail α}, Steps p os (x.apply m p).1 → os = (x.apply m p).2 →
      collect asked? os = [] → collect joined? os = [] →
      (x.apply m p).1.Vacant ∧ ∀ e, event e ∈ (x.apply m p).2 → e.answer? = none :=
    fun hsteps heq hasked hjoined => heq ▸ Steps.vacant hsteps h hasked hjoined
  cases x with
  | elsewhere => exact ⟨h, by simp [Turn.apply]⟩
  | submit call task => simpa [call?] using uncalled _ List.mem_cons_self
  | next call => simpa [call?] using uncalled _ List.mem_cons_self
  | shutdown call =>
    simpa [call?] using uncalled _ (List.mem_append_right _ List.mem_cons_self)
  | close =>
    exact steps (.of_close p) rfl (collect_map_event asked? (fun _ => rfl) _)
      (collect_map_event joined? (fun _ => rfl) _)
  | cancel => exact steps (.single .cancel) rfl rfl rfl
  | follow => exact steps (.single .follow) rfl rfl rfl
  | drop => exact steps (.single .release) rfl rfl rfl
  | abandon call =>
    exact steps (.single (.withdraw call)) rfl
      (collect_withdraw_of_none call p (fun _ => rfl) (fun _ => rfl) fun _ => rfl)
      (collect_withdraw_of_none call p (fun _ => rfl) (fun _ => rfl) fun _ => rfl)
  | finish name =>
    exact steps (.of_finish name p) rfl (collect_map_event asked? (fun _ => rfl) _)
      (collect_map_event joined? (fun _ => rfl) _)

end Pool

/-! ## What calls are told -/

/-- None of the events at a pool tells a call its answer. -/
def Silent (ys : List (Nat × Event α)) : Prop := ∀ y ∈ ys, y.2.answer? = none

lemma Silent.append {xs ys : List (Nat × Event α)} (h : Silent xs) (k : Silent ys) :
    Silent (xs ++ ys) :=
  fun y hy => (List.mem_append.1 hy).elim (h y) (k y)

namespace Scene

variable {s t : Scene α} {i : Nat} {p : Pool α} {ps qs : List (Phase α)}

/-- No call waits on the pool at an index. -/
def VacantAt (i : Nat) (s : Scene α) : Prop := ∃ p, s.pools[i]? = some p ∧ p.Vacant

/-- A call waits on the pool at an index. -/
def WaitsAt (i : Nat) (s : Scene α) : Prop := ∃ p, s.pools[i]? = some p ∧ ¬ p.Vacant

/-- The handle of the pool at an index is given up. -/
def letGo (i : Nat) (s : Scene α) : Scene α := { s with pools := s.pools.modify i Pool.release }

lemma now_letGo (i : Nat) (s : Scene α) : (s.letGo i).now = s.now := rfl

lemma getElem?_letGo (hp : s.pools[i]? = some p) : (s.letGo i).pools[i]? = some p.release := by
  rw [letGo, List.getElem?_modify_eq, hp]
  rfl

lemma getElem?_letGo_of_ne {j : Nat} (hj : j ≠ i) : (s.letGo i).pools[j]? = s.pools[j]? := by
  simp [letGo, hj.symm]

/-- Of a pool that is there it is known whether a call waits on it. -/
lemma waitsAt_or_vacantAt (hp : s.pools[i]? = some p) : s.WaitsAt i ∨ s.VacantAt i := by
  by_cases h : p.Vacant
  · exact .inr ⟨p, hp, h⟩
  · exact .inl ⟨p, hp, h⟩

lemma VacantAt.letGo (h : s.VacantAt i) : (s.letGo i).VacantAt i := by
  obtain ⟨p, hp, hv⟩ := h
  exact ⟨p.release, getElem?_letGo hp, hv⟩

/-! ## Pools on which no call waits -/

/-- If no call is made on a vacant pool in a step of a scene, it stays vacant, and none is
answered. -/
lemma VacantAt.of_step {g g' : Stage α} {h : History α} (vacant : g.scene.VacantAt i)
    (step : Stage.Step g h g') (uncalled : ∀ o ∈ trailAt (.pool i) h, o.call? = none) :
    g'.scene.VacantAt i ∧ ∀ e, event e ∈ trailAt (.pool i) h → e.answer? = none := by
  obtain ⟨p, hp, hv⟩ := vacant
  rcases step.at_pool hp with ⟨k, q, es, move, hq, htrail, -⟩ | ⟨x, hq, htrail, -⟩
  · rw [htrail]
    obtain ⟨hvacant, hquiet⟩ := (Pool.Step.of_perform? move).vacant hv
      (collect_map_event asked? (fun _ => rfl) _) (collect_map_event joined? (fun _ => rfl) _)
    exact ⟨⟨q, hq, hvacant⟩, hquiet⟩
  · rw [htrail] at uncalled ⊢
    obtain ⟨hvacant, hquiet⟩ := hv.turn _ x uncalled
    exact ⟨⟨_, hq, hvacant⟩, hquiet⟩

/-- **If no call is made on a vacant pool, none is answered**, and it stays vacant. -/
theorem VacantAt.of_steps {g g' : Stage α} {h : History α} (vacant : g.scene.VacantAt i)
    (steps : Stage.Steps g h g') (uncalled : ∀ o ∈ trailAt (.pool i) h, o.call? = none) :
    g'.scene.VacantAt i ∧ ∀ e, event e ∈ trailAt (.pool i) h → e.answer? = none := by
  induction steps with
  | refl => exact ⟨vacant, by simp [trailAt]⟩
  | tail _ last ih =>
    rw [trailAt_append] at uncalled ⊢
    obtain ⟨hbefore, hquiet⟩ := ih fun o ho => uncalled o (List.mem_append_left _ ho)
    obtain ⟨hafter, hlast⟩ := hbefore.of_step last fun o ho =>
      uncalled o (List.mem_append_right _ ho)
    exact ⟨hafter, fun e he => (List.mem_append.1 he).elim (hquiet e) (hlast e)⟩

/-- The pool at an index stays vacant, and no call on it is told anything. -/
structure Mute (i : Nat) (x : Scene α × List (Phase α)) : Prop where
  vacant : x.1.VacantAt i
  silent : Silent (heard i x.2)

/-- What was heard of a pool has occurred at it. -/
lemma event_mem_of_heard {h : History α} (hevents : events h = ps.flatMap (·.entries))
    {y : Nat × Event α} (hy : y ∈ heard i ps) : event y.2 ∈ trailAt (.pool i) h := by
  obtain ⟨q, hq, hy⟩ := List.mem_flatMap.1 hy
  obtain ⟨e, he, rfl⟩ := List.mem_map.1 hy
  have hmem : e ∈ eventsAt (.pool i) (events h) := by
    rw [hevents, eventsAt, List.filterMap_flatMap]
    exact List.mem_flatMap.2 ⟨q, hq, he⟩
  rw [eventsAt_eq_collect] at hmem
  obtain ⟨o, ho, hoe⟩ := mem_collect.1 hmem
  cases o with
  | event e' => cases hoe; exact ho
  | _ => cases hoe

/-- What happens without a command is mute. -/
lemma VacantAt.mute_of_reaches (vacant : s.VacantAt i)
    (h : Stage.Reaches ⟨0, s⟩ ps ⟨0, t⟩) : Mute i (t, ps) := by
  obtain ⟨k, hsteps, hevents, -⟩ := h
  obtain ⟨hvacant, hquiet⟩ := vacant.of_steps hsteps fun o ho =>
    hsteps.no_call rfl _ (mem_trailAt.1 ho)
  exact ⟨hvacant, fun y hy => hquiet _ (event_mem_of_heard hevents hy)⟩

/-- So is what happens when no call is made on the pool. -/
lemma VacantAt.mute_perform (vacant : s.VacantAt i) (n : Nat) {c : Command α}
    (elsewhere : c.target? ≠ some i) : Mute i (s.perform n c).2 := by
  obtain ⟨k, hsteps, hevents, hmakes⟩ := Stage.exists_perform n s c
  obtain ⟨hvacant, hquiet⟩ := vacant.of_steps hsteps fun o ho => by
    by_contra hne
    have hcall := hmakes _ (mem_trailAt.1 ho) (Option.isSome_iff_ne_none.2 hne)
    cases hcall <;> exact elsewhere rfl
  exact ⟨hvacant, fun y hy => hquiet _ (event_mem_of_heard hevents hy)⟩

/-! ## The same change in both scenes -/

/-- A sweep meets the components before one that differs as before. -/
lemma take_sweep_modify {σ : Type} (f : Bool → σ → σ × List (Event α)) (brittle : Bool)
    (xs : List σ) (i : Nat) (g : σ → σ) :
    (sweep f brittle (xs.modify i g)).take i = (sweep f brittle xs).take i := by
  induction xs generalizing i brittle with
  | nil => cases i <;> rfl
  | cons x xs ih =>
    cases i with
    | zero => rfl
    | succ i =>
      rw [List.modify_succ_cons, sweep, sweep, List.take_succ_cons, List.take_succ_cons, ih]

/-- A sweep over components one of which is different, where this makes no difference to what is
reported. -/
lemma sweep_modify_here {σ : Type} {f : Bool → σ → σ × List (Event α)} {a : σ → σ}
    (brittle : Bool) {xs : List σ} {i : Nat}
    (same : ∀ b x, xs[i]? = some x → (sweep f brittle xs)[i]? = some (f b x) →
      f b (a x) = Prod.map a id (f b x)) :
    sweep f brittle (xs.modify i a) = (sweep f brittle xs).modify i (Prod.map a id) := by
  induction xs generalizing i brittle with
  | nil => cases i <;> rfl
  | cons x xs ih =>
    cases i with
    | zero =>
      have hx := same brittle x rfl rfl
      simp only [List.modify_zero_cons, sweep, hx]
      rfl
    | succ i =>
      simp only [List.modify_succ_cons, sweep]
      rw [ih _ same]

/-- A change everywhere after which the pool at an index is as it would be if it were held. -/
lemma everywhere_letGo {f : Moment → Pool α → Pool α × List (Event α)}
    (g : Moment → Batch α → Batch α × List (Event α))
    (same : ∀ b p, s.pools[i]? = some p →
      (sweep (fun b => f ⟨s.now, b⟩) s.brittle s.pools)[i]? = some (f ⟨s.now, b⟩ p) →
      f ⟨s.now, b⟩ p.release = Prod.map Pool.release id (f ⟨s.now, b⟩ p)) :
    (s.letGo i).everywhere f g = Prod.map (letGo i) id (s.everywhere f g) := by
  have hsweep := sweep_modify_here (f := fun b => f ⟨s.now, b⟩) s.brittle same
  have hpools := map_modify (Prod.map Pool.release id) Pool.release
    (Prod.fst : Pool α × List (Event α) → Pool α) (fun _ => rfl) i
  simp only [everywhere, letGo, Scene.after, hsweep, entries_modify, hpools]
  rfl

/-- What a change everywhere does at the pool at an index is what the sweep does there. -/
lemma everywhere_at {f : Moment → Pool α → Pool α × List (Event α)}
    (g : Moment → Batch α → Batch α × List (Event α)) {r : Pool α × List (Event α)}
    (hr : (sweep (fun b => f ⟨s.now, b⟩) s.brittle s.pools)[i]? = some r) :
    (s.everywhere f g).1.pools[i]? = some r.1 ∧ eventsAt (.pool i) (s.everywhere f g).2 = r.2 := by
  obtain ⟨hpool, htrail⟩ := everywhere_of_sweep g hr
  refine ⟨hpool, ?_⟩
  rw [← events_ofEntries (s.everywhere f g).2]
  exact eventsAt_events _ _ htrail

/-! ## Linked scenes -/

/-- The same has happened in two scenes as far as calls on the pool at an index can tell: either
the scenes differ only in who holds the pool, on which calls wait, or no call waits on it any more
and what has happened at it since is told to nobody. -/
inductive Linked (i : Nat) : Scene α × List (Phase α) → Scene α × List (Phase α) → Prop
  | together {t : Scene α} {ps : List (Phase α)} (waits : t.WaitsAt i) :
      Linked i (t, ps) (t.letGo i, ps)
  | apart {t t' : Scene α} {ps ps' : List (Phase α)} (vacant : t.VacantAt i)
      (vacant' : t'.VacantAt i) (common rest rest' : List (Nat × Event α))
      (heard_eq : heard i ps = common ++ rest) (heard_eq' : heard i ps' = common ++ rest')
      (silent : Silent rest) (silent' : Silent rest') : Linked i (t, ps) (t', ps')

namespace Linked

variable {x x' y y' : Scene α × List (Phase α)}

/-- Nothing has happened. -/
lemma refl (hp : s.pools[i]? = some p) : Linked i (s, []) (s.letGo i, []) := by
  rcases waitsAt_or_vacantAt hp with h | h
  · exact .together h
  · exact .apart h h.letGo [] [] [] rfl rfl (by simp [Silent]) (by simp [Silent])

/-- What happens next depends on whether the scenes have parted. -/
lemma trans (h : Linked i x x')
    (together : x.1.WaitsAt i → x'.1 = x.1.letGo i → Linked i y y')
    (mute : x.1.VacantAt i → Mute i y) (mute' : x'.1.VacantAt i → Mute i y') :
    Linked i (y.1, x.2 ++ y.2) (y'.1, x'.2 ++ y'.2) := by
  cases h with
  | @together t ps waits =>
    cases together waits rfl with
    | together waits' => exact .together waits'
    | apart vacant vacant' common rest rest' heard_eq heard_eq' silent silent' =>
      refine .apart vacant vacant' (heard i ps ++ common) rest rest' ?_ ?_ silent silent' <;>
        rw [heard_append, List.append_assoc]
      · rw [heard_eq]
      · rw [heard_eq']
  | apart vacant vacant' common rest rest' heard_eq heard_eq' silent silent' =>
    have hy := mute vacant
    have hy' := mute' vacant'
    refine .apart hy.vacant hy'.vacant common (rest ++ heard i y.2) (rest' ++ heard i y'.2) ?_ ?_
      (silent.append hy.silent) (silent'.append hy'.silent) <;>
        rw [heard_append, ← List.append_assoc]
    · rw [heard_eq]
    · rw [heard_eq']

end Linked

/-! ## Linked scenes settle -/

/-- The pool at an index settles in both scenes at the same moment. -/
lemma settle_letGo_at (hp : s.pools[i]? = some p) : ∃ m : Moment,
    (s.settle.1.pools[i]? = some (p.settle m).1 ∧ eventsAt (.pool i) s.settle.2 = (p.settle m).2) ∧
      (s.letGo i).settle.1.pools[i]? = some (p.release.settle m).1 ∧
        eventsAt (.pool i) (s.letGo i).settle.2 = (p.release.settle m).2 := by
  have hsweep := getElem?_sweep (fun b => Pool.settle ⟨s.now, b⟩) s.brittle hp
  have hsweep' := getElem?_sweep (fun b => Pool.settle ⟨s.now, b⟩) s.brittle (getElem?_letGo hp)
  rw [letGo, take_sweep_modify] at hsweep'
  exact ⟨_, everywhere_at Batch.settle hsweep, everywhere_at (s := s.letGo i) Batch.settle hsweep'⟩

/-- **Linked scenes settle** after the same has been done in them. -/
lemma linked_phase (r : Scene α × List (Entry α)) (hp : r.1.pools[i]? = some p) :
    Linked i ((phase r).1, [(phase r).2])
      ((phase (Prod.map (letGo i) id r)).1, [(phase (Prod.map (letGo i) id r)).2]) := by
  obtain ⟨m, ⟨hpool, hevents⟩, hpool', hevents'⟩ := settle_letGo_at hp
  by_cases hv : (p.settle m).1.Vacant
  · obtain ⟨es, m', q, hq, hpass, hpass'⟩ := Pool.passes_of_vacant hv
    obtain ⟨hvacant, hsilent⟩ := hq.settle m'
    obtain ⟨hvacant', hsilent'⟩ := (show q.release.Vacant from hq).settle m'
    rw [hpass.settle] at hpool hevents
    rw [hpass'.settle] at hpool' hevents'
    have hmap : ∀ {fs : List (Event α)}, (∀ e ∈ fs, e.answer? = none) →
        Silent (fs.map (r.1.now, ·)) := by
      intro fs hfs y hy
      obtain ⟨e, he, rfl⟩ := List.mem_map.1 hy
      exact hfs e he
    refine .apart ⟨_, hpool, hvacant⟩ ⟨_, hpool', hvacant'⟩
      ((eventsAt (.pool i) r.2 ++ es).map (r.1.now, ·)) _ _ ?_ ?_ (hmap hsilent) (hmap hsilent')
    · simp [phase, hevents]
    · simp [phase, hevents', now_letGo]
  · have hsettle : (r.1.letGo i).settle = Prod.map (letGo i) id r.1.settle := by
      refine everywhere_letGo Batch.settle fun b p' hp' hr => ?_
      cases hp.symm.trans hp'
      obtain ⟨hpool'', -⟩ := everywhere_at Batch.settle hr
      refine Pool.settle_release_of_waits fun hvacant => hv ?_
      have heq : (p.settle m).1 = (p.settle ⟨r.1.now, b⟩).1 :=
        Option.some.inj (hpool.symm.trans hpool'')
      rwa [heq]
    have hphase : phase (Prod.map (letGo i) id r) = ((phase r).1.letGo i, (phase r).2) := by
      simp only [phase, Prod.map_fst, Prod.map_snd, hsettle, id_eq]
      rfl
    rw [hphase]
    exact .together ⟨_, hpool, hv⟩

/-! ## Due tasks -/

/-- The tasks that run do not depend on who holds a pool. -/
lemma runs_letGo (i : Nat) (s : Scene α) : (s.letGo i).runs = s.runs := by
  simp only [runs, letGo, List.flatMap_def,
    map_modify_eq Pool.release (Pool.running (α := α)) fun _ => rfl]

lemma firstDue?_letGo (i : Nat) (s : Scene α) : (s.letGo i).firstDue? = s.firstDue? := by
  rw [firstDue?, runs_letGo]
  rfl

/-- Neither do the ends of tasks. -/
lemma finish_letGo (name : TaskId) (i : Nat) (s : Scene α) :
    (s.letGo i).finish name = Prod.map (letGo i) id (s.finish name) :=
  everywhere_letGo _ fun _ p _ _ => Pool.finish_release name p

/-- **The due tasks end in both scenes.** -/
lemma linked_finishDue (hp : s.pools[i]? = some p) :
    Linked i s.finishDue (s.letGo i).finishDue := by
  induction s using finishDue.induct generalizing p with
  | case1 s hnone =>
    rw [finishDue_eq_self hnone, finishDue_eq_self ((firstDue?_letGo i s).trans hnone)]
    exact .refl hp
  | case2 s x hx first =>
    rename_i ih
    obtain ⟨hfinish, -⟩ := everywhere_pool hp (Pool.finish x.task.id) (Batch.finish x.task.id)
    have hfirst := linked_phase (s.finish x.task.id) hfinish
    rw [finishDue_of_firstDue? hx, finishDue_of_firstDue? ((firstDue?_letGo i s).trans hx),
      finish_letGo]
    refine hfirst.trans (fun waits heq => ?_) (fun vacant => ?_) fun vacant => ?_
    · obtain ⟨q, hq, -⟩ := waits
      exact heq ▸ ih hq
    · exact vacant.mute_of_reaches (Stage.Reaches.finishDue 0 _)
    · exact vacant.mute_of_reaches (Stage.Reaches.finishDue 0 _)

/-- After the same has been done in both scenes they settle, and the due tasks end. -/
lemma linked_act (r : Scene α × List (Entry α)) (hp : r.1.pools[i]? = some p) :
    Linked i (act r) (act (Prod.map (letGo i) id r)) := by
  refine (linked_phase r hp).trans (fun waits heq => ?_) (fun vacant => ?_) fun vacant => ?_
  · obtain ⟨q, hq, -⟩ := waits
    exact heq ▸ linked_finishDue hq
  · exact vacant.mute_of_reaches (Stage.Reaches.finishDue 0 _)
  · exact vacant.mute_of_reaches (Stage.Reaches.finishDue 0 _)

/-! ## The clock -/

/-- The clock moves to the same time in both scenes. -/
lemma linked_moveTo (hp : s.pools[i]? = some p) (time : Nat) :
    Linked i (s.moveTo time) ((s.letGo i).moveTo time) :=
  linked_act ({ s with now := time }, []) hp

/-- The clock has the same stops in both scenes. -/
lemma stops_letGo (i : Nat) (s : Scene α) :
    (s.letGo i).endsAhead ++ (s.letGo i).deadlinesAhead = s.endsAhead ++ s.deadlinesAhead := by
  rw [endsAhead, runs_letGo]
  rfl

/-- **The clock moves on in both scenes.** -/
lemma linked_advanceTo {target : Nat} (later : s.now ≤ target) (hp : s.pools[i]? = some p) :
    Linked i (s.advanceTo target) ((s.letGo i).advanceTo target) := by
  induction s using advanceTo.induct target generalizing p with
  | case1 s hstops =>
    have hnil := List.min?_eq_none_iff.1 hstops
    rw [advanceTo_of_le fun stop hstop => by simp [hnil] at hstop,
      advanceTo_of_le fun stop hstop => by simp [stops_letGo, hnil] at hstop]
    exact linked_moveTo hp target
  | case2 s time hstop hlt first =>
    rename_i ih
    have hnow : first.1.now = time := now_moveTo time s
    have hnow' : ((s.letGo i).moveTo time).1.now = time := now_moveTo time (s.letGo i)
    have hlater : first.1.now ≤ target := by omega
    rw [advanceTo_of_lt hstop hlt,
      advanceTo_of_lt ((congrArg List.min? (stops_letGo i s)).trans hstop) hlt]
    refine (linked_moveTo hp time).trans (fun waits heq => ?_) (fun vacant => ?_) fun vacant => ?_
    · obtain ⟨q, hq, -⟩ := waits
      exact heq ▸ ih hlater hq
    · exact vacant.mute_of_reaches (Stage.Reaches.advanceTo 0 hlater)
    · exact vacant.mute_of_reaches (Stage.Reaches.advanceTo 0 (by omega))
  | case3 s time hstop hlt =>
    have hle : ∀ stop ∈ s.endsAhead ++ s.deadlinesAhead, target ≤ stop := fun stop hmem =>
      Nat.le_trans (Nat.le_of_not_lt hlt) (le_of_min? hstop stop hmem)
    rw [advanceTo_of_le hle, advanceTo_of_le (stops_letGo i s ▸ hle)]
    exact linked_moveTo hp target

/-- The first near stop is the same in both scenes. -/
lemma nearStop?_letGo (patience i : Nat) (s : Scene α) :
    (s.letGo i).nearStop? patience = s.nearStop? patience := by
  rw [nearStop?, endsAhead, runs_letGo]
  rfl

/-- **The clock moves until no stop is ahead in both scenes.** -/
lemma linked_run (hp : s.pools[i]? = some p) : Linked i s.run (s.letGo i).run := by
  induction s using run.induct generalizing p with
  | case1 s hnone =>
    rw [run_of_none hnone, run_of_none ((nearStop?_letGo ..).trans hnone)]
    exact .refl hp
  | case2 s time hstop first =>
    rename_i ih
    rw [run_of_some hstop, run_of_some ((nearStop?_letGo ..).trans hstop)]
    refine (linked_moveTo hp time).trans (fun waits heq => ?_) (fun vacant => ?_) fun vacant => ?_
    · obtain ⟨q, hq, -⟩ := waits
      exact heq ▸ ih hq
    · exact vacant.mute_of_reaches (Stage.Reaches.run 0 _)
    · exact vacant.mute_of_reaches (Stage.Reaches.run 0 _)

/-! ## Commands -/

/-- An action on another pool. -/
lemma atPool_letGo {j : Nat} (hj : j ≠ i) (f : Moment → Pool α → Pool α × List (Event α))
    (s : Scene α) : (s.letGo i).atPool j f = Prod.map (letGo i) id (s.atPool j f) := by
  have hset : ∀ q : Pool α, (s.pools.modify i Pool.release).set j q =
      (s.pools.set j q).modify i Pool.release := by
    intro q
    apply List.ext_getElem?
    intro k
    rw [List.getElem?_set, List.getElem?_modify, List.getElem?_modify, List.getElem?_set,
      List.length_modify]
    by_cases hk : j = k
    · subst hk
      by_cases hlt : j < s.pools.length <;> simp [hj.symm, hlt]
    · simp [hk]
  unfold atPool
  rw [getElem?_letGo_of_ne hj]
  cases s.pools[j]? with
  | none => rfl
  | some q =>
    simp only [letGo, hset]
    rfl

/-- A command given to another pool. -/
lemma linked_onPool {j : Nat} (hj : j ≠ i) (f : Moment → Pool α → Pool α × List (Event α))
    (hp : s.pools[i]? = some p) : Linked i (s.onPool j f).2 ((s.letGo i).onPool j f).2 := by
  have hpool : (s.letGo i).pool? j = s.pool? j := by
    rw [pool?, pool?, getElem?_letGo_of_ne hj]
  unfold onPool
  rw [hpool]
  cases s.pool? j with
  | none => exact .refl hp
  | some q =>
    dsimp only
    rw [atPool_letGo hj]
    refine linked_act (p := p) _ ?_
    unfold atPool
    split
    · exact hp
    · simpa [Scene.after, List.getElem?_set, hj] using hp

/-- The calls that are pending do not depend on who holds a pool. -/
lemma pendingCalls_letGo (i : Nat) (s : Scene α) : (s.letGo i).pendingCalls = s.pendingCalls := by
  simp only [pendingCalls, letGo, List.flatMap_def]
  rw [map_modify_eq Pool.release (fun p : Pool α =>
    p.submitting.filterMap (·.caller) ++ p.receiving.filterMap (·.caller)) fun _ => rfl]

/-- Neither does what it means to give up a call. -/
lemma abandon_letGo (call i : Nat) (s : Scene α) :
    (s.letGo i).abandon call = Prod.map (letGo i) id (s.abandon call) :=
  everywhere_letGo _ fun _ _ _ _ => rfl

/-- Neither does the cancellation of the parent. -/
lemma cancelParent_letGo (i : Nat) (s : Scene α) :
    (s.letGo i).cancelParent = Prod.map (letGo i) id s.cancelParent :=
  everywhere_letGo (s := { s with parentCancelled := true }) _ fun _ _ _ _ => rfl

/-- A new pool comes after the one that is let go. -/
lemma newPool_letGo (hi : i < s.pools.length) (size : Nat) (child : Bool) :
    ((s.letGo i).newPool size child).2 = Prod.map (letGo i) id (s.newPool size child).2 := by
  have hlength : (s.letGo i).pools.length = s.pools.length := List.length_modify ..
  rcases Nat.eq_zero_or_pos size with rfl | hn
  · rfl
  · rw [newPool_of_pos hn, newPool_of_pos hn, hlength]
    simp only [Prod.map, letGo, modify_append_left _ _ hi, id_eq]

/-- A new batch has nothing to do with it. -/
lemma newBatch_letGo (call size : Nat) (tasks : List (Task α)) (admission : Admission) (i : Nat)
    (s : Scene α) : (s.letGo i).newBatch call size tasks admission =
      Prod.map (letGo i) id (s.newBatch call size tasks admission) := by
  simp only [newBatch, letGo]
  split <;> rfl

/-- A pool that is there is there after a change everywhere. -/
lemma isSome_everywhere (f : Moment → Pool α → Pool α × List (Event α))
    (g : Moment → Batch α → Batch α × List (Event α)) (hp : s.pools[i]? = some p) :
    ∃ q, (s.everywhere f g).1.pools[i]? = some q := by
  have hlt := (List.getElem?_eq_some_iff.1 hp).1
  rw [← length_pools_everywhere f g] at hlt
  exact ⟨_, List.getElem?_eq_getElem hlt⟩

/-- **A command that is not given to the pool is carried out in both scenes.** -/
theorem linked_perform (hp : s.pools[i]? = some p) (n : Nat) {c : Command α}
    (elsewhere : c.target? ≠ some i) :
    Linked i (s.perform n c).2 ((s.letGo i).perform n c).2 := by
  have other : ∀ {j : Nat}, c.target? = some j → j ≠ i := fun h hj => elsewhere (hj ▸ h)
  cases c with
  | newPool size child =>
    have hi := (List.getElem?_eq_some_iff.1 hp).1
    have hnew : (s.newPool size child).2.1.pools[i]? = some p := by
      rcases newPool_cases size child s with heq | ⟨hn, heq⟩ <;> rw [heq]
      · exact hp
      · exact (List.getElem?_append_left hi).trans hp
    have hact := linked_act _ hnew
    rw [← newPool_letGo hi] at hact
    exact hact
  | submit j task => exact linked_onPool (other rfl) _ hp
  | next j => exact linked_onPool (other rfl) _ hp
  | shutdown j => exact linked_onPool (other rfl) _ hp
  | close j => exact linked_onPool (other rfl) _ hp
  | cancel j => exact linked_onPool (other rfl) _ hp
  | drop j => exact linked_onPool (other rfl) _ hp
  | batch size tasks admission =>
    have hact := linked_act (s.newBatch n size tasks admission)
      (((congrArg (·[i]?) (newBatch_frame n size tasks admission s).1)).trans hp)
    rw [← newBatch_letGo] at hact
    exact hact
  | cancelParent =>
    obtain ⟨q, hq⟩ := isSome_everywhere (s := { s with parentCancelled := true })
      (fun _ p => (p.parentCancelled, [])) (fun _ b => (b.parentCancelled, [])) hp
    have hact := linked_act s.cancelParent hq
    rw [← cancelParent_letGo] at hact
    exact hact
  | askParent => exact .refl hp
  | describe j =>
    simp only [perform]
    split <;> split <;> exact .refl hp
  | abandon call =>
    simp only [perform, pendingCalls_letGo]
    split
    · obtain ⟨q, hq⟩ := isSome_everywhere (fun _ => Pool.withdraw call)
        (fun _ b => if b.pending && b.call == call then b.abandon else (b, [])) hp
      rw [abandon_letGo]
      exact linked_act (s.abandon call) hq
    · exact .refl hp
  | release name =>
    simp only [perform, runs_letGo]
    split
    · exact .refl hp
    · next r hr =>
      obtain ⟨hfinish, -⟩ := everywhere_pool hp (Pool.finish r.task.id) (Batch.finish r.task.id)
      rw [finish_letGo]
      exact linked_act (s.finish r.task.id) hfinish
  | advance ms => exact linked_advanceTo (Nat.le_add_right ..) hp
  | run => exact linked_run hp

/-- What happens is mute if no command is given to a vacant pool. -/
lemma VacantAt.mute_reach (vacant : s.VacantAt i) (n : Nat) {cs : List (Command α)}
    (elsewhere : ∀ c ∈ cs, c.target? ≠ some i) : Mute i (s.reach n cs) := by
  induction cs generalizing s n with
  | nil => exact ⟨vacant, by simp [reach, Silent]⟩
  | cons c cs ih =>
    have hfirst := vacant.mute_perform n (elsewhere c List.mem_cons_self)
    have hrest := ih hfirst.vacant (n + 1) fun c' hc' => elsewhere c' (List.mem_cons_of_mem _ hc')
    refine ⟨hrest.vacant, ?_⟩
    simpa [reach] using hfirst.silent.append hrest.silent

/-- **Two scenes that differ in who holds a pool** are linked after all commands that are not given
to the pool. -/
theorem linked_reach (hp : s.pools[i]? = some p) (n : Nat) {cs : List (Command α)}
    (elsewhere : ∀ c ∈ cs, c.target? ≠ some i) :
    Linked i (s.reach n cs) ((s.letGo i).reach n cs) := by
  induction cs generalizing s p n with
  | nil => exact .refl hp
  | cons c cs ih =>
    have hrest : ∀ c' ∈ cs, c'.target? ≠ some i := fun c' hc' =>
      elsewhere c' (List.mem_cons_of_mem _ hc')
    refine (linked_perform hp n (elsewhere c List.mem_cons_self)).trans (fun waits heq => ?_)
      (fun vacant => vacant.mute_reach (n + 1) hrest) fun vacant => vacant.mute_reach (n + 1) hrest
    obtain ⟨q, hq, -⟩ := waits
    exact heq ▸ ih hq (n + 1) hrest

/-! ## Answers -/

/-- The calls on the pool at an index that are answered, with the times and the answers. -/
def told (i : Nat) (ps : List (Phase α)) : List (Nat × Nat × Answer α) :=
  (heard i ps).filterMap fun y => y.2.answer?.map (y.1, ·)

/-- In linked scenes the same calls on the pool are answered. -/
lemma Linked.told_eq {x x' : Scene α × List (Phase α)} (h : Linked i x x') :
    told i x'.2 = told i x.2 := by
  have hsilent : ∀ {ys : List (Nat × Event α)}, Silent ys →
      ys.filterMap (fun y => y.2.answer?.map (y.1, ·)) = [] := by
    intro ys hys
    rw [List.filterMap_eq_nil_iff]
    intro y hy
    rw [hys y hy]
    rfl
  cases h with
  | together => rfl
  | apart _ _ common rest rest' heard_eq heard_eq' silent silent' =>
    rw [told, told, heard_eq, heard_eq', List.filterMap_append, List.filterMap_append,
      hsilent silent, hsilent silent']

/-- **To give up the handle of a pool changes nothing for the calls on it.** They are answered as if
something had been asked for that changes nothing. -/
theorem told_drop (settled : Stage.Settled ⟨0, s⟩) (idle : s.firstDue? = none) (i n : Nat)
    {cs : List (Command α)} (elsewhere : ∀ c ∈ cs, c.target? ≠ some i) :
    told i (s.reach n (.drop i :: cs)).2 = told i (s.reach n (.askParent :: cs)).2 := by
  cases hpool : s.pool? i with
  | none => simp [reach, perform, onPool, hpool]
  | some p =>
    obtain ⟨hp, -⟩ := Option.filter_eq_some_iff.1 hpool
    have hat : s.atPool i (fun _ p => (p.release, [])) = Prod.map (letGo i) id (s, []) := by
      simp [atPool, hp, letGo, Scene.after, List.modify_eq_set_getElem?]
    have hnow : act (s, []) = (s, [⟨s.now, []⟩]) := by
      rw [act, phase, settle_eq_self settled, finishDue_eq_self idle]
      rfl
    have hact := linked_act (i := i) (s, []) hp
    rw [← hat, hnow] at hact
    have hdrop : (s.perform n (.drop i)).2 = act (s.atPool i fun _ p => (p.release, [])) := by
      simp only [perform, onPool, hpool]
    have hrest := hact.trans (fun waits heq => heq ▸ linked_reach hp (n + 1) elsewhere)
      (fun vacant => vacant.mute_reach (n + 1) elsewhere)
      fun vacant => vacant.mute_reach (n + 1) elsewhere
    rw [← hdrop] at hrest
    exact hrest.told_eq

end Scene

end Workforce
