import Workforce.Proofs.Scene.Moves
/-!
# Commands are carried out by runs

What commands do to a scene, including all that happens until the scene has settled and the due
tasks have ended, is a run of the scene with the events that are reported. What holds after every
run therefore holds of every scene that commands reach, and there nothing can move.

## Main definitions

* `Workforce.History.events` — the events of a history.
* `Workforce.Command.movesClock` — the command moves the clock.
* `Workforce.Stage.Reaches` — a run with the events of these phases, after which nothing can move.

## Main results

* `Workforce.Stage.Steps.settle` — letting a scene settle is a run.
* `Workforce.Stage.settled_settle` — nothing can move in a settled scene.
* `Workforce.Stage.perform_cases` — what a command does at once, if it does not move the clock.
* `Workforce.Stage.reaches_reach` — carrying out a list of commands is a run.
* `Workforce.Stage.Steps.of_reach` — what commands reach from the beginning is reached by a run, and
  nothing can move there.

## Implementation notes

Whether something can move does not depend on whether discards still panic, so that what settles
later at other places does not set anything in motion again.
-/

namespace Workforce

open Occurrence Trail History

variable {α : Type}

/-! ## Batches that have settled -/

namespace Batch

variable {b : Batch α} {m m' : Moment}

/-- Nothing can move in a batch when neither its pool nor its submitter nor its call can. -/
lemma step?_eq_none_iff_parts : b.step? m = none ↔
    b.pool.step? m = none ∧ b.feed? m = none ∧ b.conclude? = none := by
  rw [step?_eq_none_iff, Pool.step?_eq_none_iff]
  constructor
  · intro h
    refine ⟨fun k => ?_, h .feed, h .conclude⟩
    simpa [perform?, performPool?] using h (.pool k)
  · rintro ⟨hpool, hfeed, hconclude⟩ k
    cases k with
    | pool k => simp [perform?, performPool?, hpool k]
    | feed => exact hfeed
    | conclude => exact hconclude

/-- Whether a batch can move depends on the time only. -/
lemma step?_eq_none_congr (now : m.now = m'.now) : b.step? m = none ↔ b.step? m' = none := by
  have hdue : b.isDue m = b.isDue m' := by rw [isDue, isDue, now]
  rw [step?_eq_none_iff_parts, step?_eq_none_iff_parts, feed?_eq_none_iff, feed?_eq_none_iff, hdue,
    Pool.step?_eq_none_congr m m']

/-- In a settled batch nothing can move. -/
lemma step?_settle (m : Moment) (b : Batch α) : (b.settle m).1.step? m = none := by
  fun_induction settle m b with
  | case1 m b h => exact h
  | case2 m b c es h d fs hr ih =>
    rw [hr] at ih
    have now : (m.after es).now = m.now := rfl
    exact (step?_eq_none_congr now).1 ih

end Batch

/-! ## Letting a scene settle -/

namespace Stage

open Scene

variable {g g' g'' : Stage α} {n : Nat} {s : Scene α}

/-- **Letting a scene settle is a run.** -/
theorem Steps.settle (n : Nat) (s : Scene α) :
    Steps ⟨n, s⟩ (ofEntries s.settle.2) ⟨n, s.settle.1⟩ :=
  .of_plays n (plays_settle s)

/-- **In a settled scene nothing can move.** -/
theorem settled_settle (n : Nat) (s : Scene α) : Settled ⟨n, s.settle.1⟩ := by
  constructor
  · intro p hp
    obtain ⟨r, hr, rfl⟩ := List.mem_map.1 hp
    obtain ⟨b, q, -, rfl⟩ := exists_of_mem_sweep hr
    exact (Pool.step?_eq_none_congr _ _ _).1 (Pool.step?_settle ⟨s.now, b⟩ q)
  · intro b hb
    obtain ⟨r, hr, rfl⟩ := List.mem_map.1 hb
    obtain ⟨brittle, c, -, rfl⟩ := exists_of_mem_sweep hr
    have now : (⟨s.now, brittle⟩ : Moment).now = s.settle.1.moment.now := rfl
    exact (Batch.step?_eq_none_congr now).1 (Batch.step?_settle ⟨s.now, brittle⟩ c)

end Stage

/-! ## The events of a history -/

namespace History

/-- The events of a history, each with its place. -/
def events (h : History α) : List (Entry α) :=
  h.filterMap fun x => match x.2 with
    | event e => some (x.1, e)
    | _ => none

@[simp] lemma events_append (h k : History α) : events (h ++ k) = events h ++ events k :=
  List.filterMap_append

@[simp] lemma events_ofEntries (es : List (Entry α)) : events (ofEntries es) = es := by
  simp [events, ofEntries, List.filterMap_map]

/-- Occurrences that are no events. -/
lemma events_map_eq_nil {γ : Type} (place : Place) (f : γ → Occurrence α)
    (hf : ∀ x e, f x ≠ event e) (xs : List γ) : events (ofTrail place (xs.map f)) = [] := by
  simp only [events, ofTrail, List.map_map, List.filterMap_map, List.filterMap_eq_nil_iff]
  intro x _
  show (match f x with | event e => some (place, e) | _ => none) = none
  cases h : f x <;> first | rfl | exact absurd h (hf x _)

/-- Only the events of components count. -/
lemma events_flatMap {γ : Type} (xs : List γ) (f : γ → History α) :
    events (xs.flatMap f) = xs.flatMap fun x => events (f x) := by
  induction xs with
  | nil => rfl
  | cons x xs ih => rw [List.flatMap_cons, events_append, ih, List.flatMap_cons]

end History

/-- The command moves the clock. -/
def Command.movesClock : Command α → Bool
  | advance _ | run => true
  | _ => false

namespace Stage

open Scene

variable {g g' g'' : Stage α} {ps qs : List (Phase α)} {n : Nat} {s t : Scene α}

/-! ## Phases -/

/-- There is a run from one scene to another with the events of these phases, and if nothing can
move in the first one then nothing can in the other. -/
def Reaches (g : Stage α) (ps : List (Phase α)) (g' : Stage α) : Prop :=
  ∃ h, Steps g h g' ∧ events h = ps.flatMap (·.entries) ∧ (g.Settled → g'.Settled)

/-- Nothing happens. -/
lemma Reaches.refl (g : Stage α) : Reaches g [] g :=
  ⟨[], .refl g, rfl, id⟩

/-- One thing happens after the other. -/
lemma Reaches.trans (h : Reaches g ps g') (k : Reaches g' qs g'') : Reaches g (ps ++ qs) g'' := by
  obtain ⟨xs, hsteps, hevents, hsettled⟩ := h
  obtain ⟨ys, ksteps, kevents, ksettled⟩ := k
  refine ⟨xs ++ ys, hsteps.trans ksteps, ?_, fun hg => ksettled (hsettled hg)⟩
  rw [events_append, hevents, kevents, List.flatMap_append]

/-- What begins with a step becomes a phase when the scene settles. -/
lemma Reaches.phase {h : History α} {r : Scene α × List (Entry α)} (step : Step g h ⟨n, r.1⟩)
    (entries : events h = r.2) : Reaches g [(Scene.phase r).2] ⟨n, (Scene.phase r).1⟩ := by
  refine ⟨h ++ ofEntries r.1.settle.2, (Chain.single step).trans (Steps.settle n r.1), ?_,
    fun _ => ?_⟩
  · rw [events_append, entries, events_ofEntries, List.flatMap_singleton]
    rfl
  · exact settled_settle n r.1

/-- Due tasks end in a run. -/
lemma Reaches.finishDue (n : Nat) (s : Scene α) :
    Reaches ⟨n, s⟩ s.finishDue.2 ⟨n, s.finishDue.1⟩ := by
  fun_induction Scene.finishDue s with
  | case1 s h => exact .refl _
  | case2 s r h first rest ih =>
    have hfirst : Reaches ⟨n, s⟩ [first.2] ⟨n, first.1⟩ :=
      .phase (.finish ⟨n, s⟩ r.task.id) (events_ofEntries _)
    exact hfirst.trans ih

/-- The clock moves to a later time in a run. -/
lemma Reaches.moveTo (n : Nat) {s : Scene α} {time : Nat} (later : s.now ≤ time) :
    Reaches ⟨n, s⟩ (s.moveTo time).2 ⟨n, (s.moveTo time).1⟩ := by
  have hclock : Reaches ⟨n, s⟩ [(Scene.phase ({ s with now := time }, [])).2]
      ⟨n, (Scene.phase ({ s with now := time }, [])).1⟩ := .phase (.clock ⟨n, s⟩ time later) rfl
  exact hclock.trans (.finishDue n _)

/-- The clock moves from stop to stop in a run. -/
lemma Reaches.advanceTo (n : Nat) {s : Scene α} {target : Nat} (later : s.now ≤ target) :
    Reaches ⟨n, s⟩ (s.advanceTo target).2 ⟨n, (s.advanceTo target).1⟩ := by
  fun_induction Scene.advanceTo target s with
  | case1 s h => exact .moveTo n later
  | case2 s time h ht first rest ih =>
    have hlt := lt_of_stop h
    have hfirst : Reaches ⟨n, s⟩ first.2 ⟨n, first.1⟩ := .moveTo n (Nat.le_of_lt hlt)
    refine hfirst.trans (ih ?_)
    rw [now_moveTo]
    exact Nat.le_of_lt ht
  | case3 s time h ht => exact .moveTo n later

/-- The clock moves in a run until no stop is ahead. -/
lemma Reaches.run (n : Nat) (s : Scene α) : Reaches ⟨n, s⟩ s.run.2 ⟨n, s.run.1⟩ := by
  fun_induction Scene.run s with
  | case1 s h => exact .refl _
  | case2 s time h first rest ih =>
    have hfirst : Reaches ⟨n, s⟩ first.2 ⟨n, first.1⟩ :=
      .moveTo n (Nat.le_of_lt (mem_of_nearStop h).1)
    exact hfirst.trans ih

/-! ## Commands -/

/-- What begins with a command's first step is carried out in a run. -/
lemma Reaches.act {h : History α} {r : Scene α × List (Entry α)} (step : Step g h ⟨n, r.1⟩)
    (entries : events h = r.2) : Reaches g (Scene.act r).2 ⟨n, (Scene.act r).1⟩ :=
  (Reaches.phase step entries).trans (.finishDue n _)

/-- A command that changes nothing is carried out in a run. -/
lemma Reaches.still (step : Step ⟨n, s⟩ [] ⟨n + 1, s⟩) : Reaches ⟨n, s⟩ [] ⟨n + 1, s⟩ :=
  ⟨[], .single step, rfl, id⟩

/-- The events of an action on a pool that is there are those of the action. -/
lemma events_visit {i : Nat} {before after : Trail α}
    {f : Moment → Pool α → Pool α × List (Event α)}
    (hbefore : events (ofTrail (.pool i) before) = [])
    (hafter : events (ofTrail (.pool i) after) = []) {p : Pool α} (hp : s.pool? i = some p) :
    s.visit i before after f = ((s.atPool i f).1, ofTrail (.pool i) before ++
      ofEntries (s.atPool i f).2 ++ ofTrail (.pool i) after) ∧
        events (s.visit i before after f).2 = (s.atPool i f).2 := by
  rw [visit, hp]
  refine ⟨rfl, ?_⟩
  rw [events_append, events_append, events_ofEntries, hbefore, hafter, List.append_nil]
  rfl

/-- What is recorded when a call is given up, beside the events, are no events. -/
lemma events_abandon (n c : Nat) (s : Scene α) (hc : s.pendingCalls.contains c = true) :
    events (s.order n (.abandon c)).2 = (s.abandon c).2 := by
  have hall := (everywhere_const (Pool.withdraw c)
    (fun b => if b.pending && b.call == c then b.abandon else (b, [])) s).2.2
  have hevents : (s.abandon c).2 = events (ofEntries (s.abandon c).2) := (events_ofEntries _).symm
  rw [hevents, Scene.abandon, hall, Scene.order, if_pos hc, events_append, events_append]
  simp only [events_flatMap]
  congr 1
  refine List.flatMap_congr fun x _ => ?_
  have hretracted := events_map_eq_nil (.pool x.2) (Occurrence.retracted (α := α))
    (by intro s e h; cases h) (x.1.submitting.filter (·.caller == some c))
  have hdeparted := events_map_eq_nil (.pool x.2) (Occurrence.departed (α := α))
    (by intro r e h; cases h) (x.1.receiving.filter (·.caller == some c))
  rw [ofTrail] at hretracted hdeparted
  rw [ofTrail, List.map_append, List.map_append, events_append, events_append, hretracted,
    hdeparted]
  rfl

/-- **A command that does not move the clock does something at once, after which the due tasks end,
or it does nothing.** -/
theorem perform_cases (n : Nat) (s : Scene α) {c : Command α} (still : c.movesClock = false) :
    (s.perform n c).2 = Scene.act ((s.order n c).1, events (s.order n c).2) ∨
      (s.perform n c).2 = (s, []) ∧ s.order n c = (s, []) := by
  -- an action on a pool, which may not be there
  have onPool : ∀ (i : Nat) (before after : Trail α)
      (f : Moment → Pool α → Pool α × List (Event α)), events (ofTrail (.pool i) before) = [] →
      events (ofTrail (.pool i) after) = [] →
      (s.onPool i f).2 =
          Scene.act ((s.visit i before after f).1, events (s.visit i before after f).2) ∨
        (s.onPool i f).2 = (s, []) ∧ s.visit i before after f = (s, []) := by
    intro i before after f hbefore hafter
    cases hp : s.pool? i with
    | none => exact .inr ⟨by rw [Scene.onPool, hp], by rw [visit, hp]⟩
    | some p =>
      obtain ⟨hvisit, hevents⟩ := events_visit (f := f) hbefore hafter hp
      refine .inl ?_
      rw [hevents, hvisit, Scene.onPool, hp]
  cases c with
  | newPool size child =>
    refine .inl ?_
    simp only [Scene.order, events_ofEntries]
    rfl
  | submit i task => exact onPool i _ _ _ rfl rfl
  | next i => exact onPool i _ _ _ rfl rfl
  | shutdown i => exact onPool i _ _ _ rfl rfl
  | batch size tasks admission =>
    have hevents : events ((Place.batch s.batches.length, batched n tasks) ::
        ofEntries (s.newBatch n size tasks admission).2) =
          (s.newBatch n size tasks admission).2 := events_ofEntries _
    refine .inl ?_
    simp only [Scene.order, hevents]
    rfl
  | close i => exact onPool i _ _ _ rfl rfl
  | cancel i => exact onPool i _ _ _ rfl rfl
  | cancelParent =>
    refine .inl ?_
    simp only [Scene.order, events_ofEntries]
    rfl
  | askParent => exact .inr ⟨rfl, rfl⟩
  | describe i =>
    refine .inr ⟨?_, rfl⟩
    rw [Scene.perform]
    split <;> rfl
  | drop i => exact onPool i _ _ _ rfl rfl
  | abandon c =>
    by_cases hc : s.pendingCalls.contains c = true
    · refine .inl ?_
      rw [events_abandon n c s hc, Scene.perform, if_pos hc, Scene.order, if_pos hc]
    · exact .inr ⟨by rw [Scene.perform, if_neg hc], by rw [Scene.order, if_neg hc]⟩
  | release name =>
    cases hfind : s.runs.find? (·.task.id.text == name) with
    | none => exact .inr ⟨by simp only [Scene.perform, hfind], by simp only [Scene.order, hfind]⟩
    | some r =>
      refine .inl ?_
      simp only [Scene.perform, Scene.order, hfind, events_ofEntries]
  | advance ms => cases still
  | run => cases still

/-- **A command is carried out in a run.** -/
theorem reaches_perform (n : Nat) (s : Scene α) (c : Command α) :
    Reaches ⟨n, s⟩ (s.perform n c).2.2 ⟨n + 1, (s.perform n c).2.1⟩ := by
  have step : Step ⟨n, s⟩ (s.order n c).2 ⟨n + 1, (s.order n c).1⟩ := .order ⟨n, s⟩ c
  cases hclock : c.movesClock with
  | false =>
    rcases perform_cases n s hclock with heq | ⟨heq, horder⟩
    · rw [heq]
      exact .act step rfl
    · rw [horder] at step
      rw [heq]
      exact .still step
  | true =>
    cases c with
    | advance ms =>
      have hstill : Reaches ⟨n, s⟩ [] ⟨n + 1, s⟩ := .still step
      exact hstill.trans (.advanceTo (n + 1) (Nat.le_add_right _ _))
    | run =>
      have hstill : Reaches ⟨n, s⟩ [] ⟨n + 1, s⟩ := .still step
      exact hstill.trans (.run (n + 1) s)
    | _ => cases hclock

/-- **A list of commands is carried out in a run**, with the events that are reported. -/
theorem reaches_reach (n : Nat) (s : Scene α) (cs : List (Command α)) :
    Reaches ⟨n, s⟩ (s.reach n cs).2 ⟨n + cs.length, (s.reach n cs).1⟩ := by
  induction cs generalizing n s with
  | nil => exact .refl _
  | cons c cs ih =>
    have hrest := ih (n + 1) (s.perform n c).2.1
    rw [Nat.add_assoc, Nat.add_comm 1] at hrest
    exact (reaches_perform n s c).trans hrest

/-- What commands reach from the beginning is reached by a run, and nothing can move there. -/
theorem Steps.of_reach (cs : List (Command α)) : ∃ h, Steps {} h ⟨cs.length, (reach 0 {} cs).1⟩ ∧
    events h = (reach 0 {} cs).2.flatMap (·.entries) ∧
      Settled ⟨cs.length, (reach 0 {} cs).1⟩ := by
  obtain ⟨h, hsteps, hevents, hsettled⟩ := reaches_reach 0 ({} : Scene α) cs
  rw [Nat.zero_add] at hsteps hsettled
  refine ⟨h, hsteps, hevents, hsettled ⟨?_, ?_⟩⟩
  · intro p hp
    cases hp
  · intro b hb
    cases hb

end Stage

end Workforce
