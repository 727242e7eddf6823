import Workforce.Proofs.Scene.Frail
/-!
# What is done at one place

To the pool at a place it makes no difference what happens elsewhere, but for one thing: the discard
of a frail task panics only if none has panicked before, anywhere. Whatever is done to a pool is
*mild*. If no discard panics it comes to the same, but for who is told of a panic; and if it
discards no frail task it depends on nothing but the pool and the time.

So the same is done to two pools that are the same as long as frail tasks are discarded either only
at their place or only elsewhere, and otherwise at least something that differs in nothing else.

## Main definitions

* `Workforce.Deed` — what is done at the place of a pool.
* `Workforce.Deed.Mild` — it is affected by panics of discards only in these ways.

## Main results

* `Workforce.Deed.mild_settle`, `Deed.mild_turn` — pools settle mildly, and turns are mild.
* `Workforce.Deed.Mild.agree` — a mild deed at the same place in two scenes.
-/

namespace Workforce

open Occurrence Trail

variable {α : Type}

/-- Whether a frail task is discarded does not depend on whether discards panic. -/
@[simp] lemma noisy_map_gentle (es : List (Event α)) : noisy (es.map Event.gentle) = noisy es :=
  (Fades.of_pool es).softens.noisy_eq.symm

/-! ## Pools -/

namespace Pool

variable {p q : Pool α} {m m' : Moment} {es : List (Event α)}

/-- Whether a move is enabled depends neither on the moment nor on the count of the workers. -/
lemma perform?_gentle_eq_none_iff {k : Move} :
    p.gentle.perform? m' k = none ↔ p.perform? m k = none := by
  cases k with
  | take => exact (take?_eq_none_iff (p := p.gentle)).trans (take?_eq_none_iff (p := p)).symm
  | leave => exact (leave?_eq_none_iff (p := p.gentle)).trans (leave?_eq_none_iff (p := p)).symm
  | enter => exact (enter?_eq_none_iff (p := p.gentle)).trans (enter?_eq_none_iff (p := p)).symm
  | publish =>
    exact (publish?_eq_none_iff (p := p.gentle)).trans (publish?_eq_none_iff (p := p)).symm
  | deliver =>
    exact (deliver?_eq_none_iff (p := p.gentle)).trans (deliver?_eq_none_iff (p := p)).symm

/-- What is found first, if another function finds something at the same elements. -/
lemma exists_findSome?_of {ι σ τ : Type} {f : ι → Option σ} {g : ι → Option τ} {x : σ}
    {P : τ → Prop} {as : List ι} (h : as.findSome? f = some x)
    (hnone : ∀ a, f a = none → g a = none)
    (hsome : ∀ a, f a = some x → ∃ y, g a = some y ∧ P y) :
    ∃ y, as.findSome? g = some y ∧ P y := by
  induction as with
  | nil => cases h
  | cons a as ih =>
    rw [List.findSome?_cons] at h ⊢
    cases hf : f a with
    | none =>
      rw [hf] at h
      rw [hnone a hf]
      exact ih h
    | some b =>
      rw [hf] at h
      cases h
      obtain ⟨y, hy, hP⟩ := hsome a hf
      rw [hy]
      exact ⟨y, rfl, hP⟩

/-- The first enabled move when no discard panics. -/
lemma step?_gentle (h : p.step? m = some (q, es)) :
    p.gentle.step? m.gentle = some (q.gentle, es.map Event.gentle) := by
  obtain ⟨y, hy, rfl⟩ := exists_findSome?_of (P := (· = (q.gentle, es.map Event.gentle))) h
    (fun _ => perform?_gentle_eq_none_iff.2) fun _ hk => ⟨_, perform?_gentle hk, rfl⟩
  exact hy

/-- The first enabled move when it discards no frail task. -/
lemma step?_of_quiet (h : p.step? m = some (q, es)) (quiet : noisy es = false)
    (now : m'.now = m.now) : p.step? m' = some (q, es) := by
  have hnone : ∀ k, p.perform? m k = none → p.perform? m' k = none := fun k hk => by
    have hgentle : p.gentle.perform? m k = none := perform?_gentle_eq_none_iff.2 hk
    exact perform?_gentle_eq_none_iff.1 hgentle
  obtain ⟨y, hy, rfl⟩ := exists_findSome?_of (P := (· = (q, es))) h hnone
    fun _ hk => ⟨_, perform?_of_quiet hk quiet now, rfl⟩
  exact hy

/-- **A pool settles when no discard panics** by the same moves. -/
theorem settle_gentle (m : Moment) (p : Pool α) : p.gentle.settle m.gentle =
    ((p.settle m).1.gentle, (p.settle m).2.map Event.gentle) := by
  fun_induction settle m p with
  | case1 m p h =>
    exact settle_eq_self (step?_eq_none_iff_resting.2 (step?_eq_none_iff_resting.1 h).gentle)
  | case2 m p q es h r fs hr ih =>
    have hafter : m.gentle.after (es.map Event.gentle) = (m.after es).gentle := rfl
    rw [settle_of_step? (step?_gentle h), hafter, ih, hr]
    simp

/-- **A pool that discards no frail task when it settles** does so in the same way whether discards
panic or not. -/
theorem settle_of_quiet (quiet : noisy (p.settle m).2 = false) (now : m'.now = m.now) :
    p.settle m' = p.settle m := by
  fun_induction settle m p generalizing m' with
  | case1 m p h => exact settle_eq_self ((step?_eq_none_congr _ _ _).1 h)
  | case2 m p q es h r fs hr ih =>
    rw [hr] at ih
    rw [noisy_append, Bool.or_eq_false_iff] at quiet
    have hrest : q.settle (m'.after es) = (r, fs) := ih quiet.2 now
    rw [settle_of_step? (step?_of_quiet h quiet.1 now), hrest]

/-- The end of a task does not depend on the count of the workers. -/
lemma finish_gentle (id : TaskId) (p : Pool α) : p.gentle.finish id =
    ((p.finish id).1.gentle, (p.finish id).2.map Event.gentle) := by
  have hrunning : p.gentle.running = p.running := rfl
  unfold finish finish?
  rw [hrunning]
  cases p.running.find? (·.task.id == id) with
  | none => rfl
  | some r => cases hout : r.task.outcome.output? <;> simp only [hout] <;> rfl

namespace Turn

/-- What a turn does to a pool at once, with the events. -/
def act (m : Moment) (p : Pool α) (x : Turn α) : Pool α × List (Event α) :=
  ((x.apply m p).1, collect event? (x.apply m p).2)

section Act

variable (m : Moment) (p : Pool α)

@[simp] lemma act_submit (call : Nat) (task : Task α) :
    (submit call task).act m p = p.submit m ⟨some call, task⟩ := by
  simp [act, apply, event?, collect_event]

@[simp] lemma act_shutdown (call : Nat) :
    (shutdown call).act m p = (p.close.1.receive ⟨some call, true⟩, p.close.2) := by
  simp [act, apply, event?, collect_event]

@[simp] lemma act_close : close.act m p = p.close := by simp [act, apply, collect_event]

@[simp] lemma act_cancel : cancel.act m p = p.cancel := by simp [act, apply, collect_event]

@[simp] lemma act_abandon (call : Nat) : (abandon call).act m p = p.withdraw call := by
  rw [act, apply, collect_append, collect_append, collect_map_none event? _ fun _ => rfl,
    collect_map_none event? _ fun _ => rfl, collect_event]
  rfl

@[simp] lemma act_finish (name : TaskId) : (finish name).act m p = p.finish name := by
  simp [act, apply, collect_event]

end Act

/-- **A turn when no discard panics.** -/
theorem act_gentle (m : Moment) (p : Pool α) (x : Turn α) : x.act m.gentle p.gentle =
    ((x.act m p).1.gentle, (x.act m p).2.map Event.gentle) := by
  have hclose : p.close.2.map Event.gentle = p.close.2 := by
    rcases Batch.close_snd p with h | h <;> rw [h] <;> rfl
  cases x with
  | submit call task => rw [act_submit, act_submit, submit_gentle]
  | shutdown call =>
    rw [act_shutdown, act_shutdown, close_gentle, hclose]
    rfl
  | close => rw [act_close, act_close, close_gentle, hclose]
  | cancel =>
    rw [act_cancel, act_cancel]
    rfl
  | abandon call =>
    rw [act_abandon, act_abandon, withdraw, withdraw, List.map_map]
    rfl
  | finish name => rw [act_finish, act_finish, finish_gentle]
  | _ => rfl

/-- Only when a task is handed in does it matter whether discards panic. -/
lemma act_congr {x : Turn α} (hx : ∀ call task, x ≠ .submit call task) (m m' : Moment)
    (p : Pool α) : x.act m' p = x.act m p := by
  cases x with
  | submit call task => exact absurd rfl (hx call task)
  | _ => rfl

/-- A turn that discards no frail task depends on nothing but the pool. -/
lemma act_of_quiet {x : Turn α} (quiet : noisy (x.act m p).2 = false) (m' : Moment) :
    x.act m' p = x.act m p := by
  cases x with
  | submit call task =>
    rw [act_submit] at quiet
    rw [act_submit, act_submit, submit_of_quiet quiet]
  | _ => rfl

end Turn

end Pool

/-! ## Pools without tasks -/

namespace Pool

variable {p : Pool α}

/-- A pool without tasks has none in the line, in the queue or on a worker. -/
lemma load_eq_zero_iff : p.load = 0 ↔ p.submitting = [] ∧ p.queue = [] ∧ p.running = [] := by
  simp [load, Nat.add_eq_zero_iff, and_assoc]

/-- It discards none when it settles. -/
lemma noisy_settle_of_load (h : p.load = 0) (m : Moment) : noisy (p.settle m).2 = false := by
  fun_induction settle m p with
  | case1 m p => rfl
  | case2 m p q es hstep r fs hr ih =>
    obtain ⟨k, hk⟩ := exists_move_of_step? hstep
    have hq : q.load = 0 := Nat.le_zero.1 (h ▸ (lowers_of_perform? hk).load)
    have hrest := ih hq
    rw [hr] at hrest
    rw [noisy_append, hrest, Bool.or_false]
    by_contra hloud
    obtain ⟨hsub, hqueue, -⟩ := load_eq_zero_iff.1 h
    rcases noisy_cases hk (by simpa using hloud) with rfl | ⟨-, hne, -⟩
    · obtain ⟨s, rest, hs, -⟩ := enter?_eq_some_iff.1 hk
      rw [hsub] at hs
      cases hs
    · exact hne hqueue

/-- It gets none and discards none when it is called, unless a task is handed in. -/
lemma load_act (h : p.load = 0) {x : Turn α} (hx : ∀ call task, x ≠ .submit call task)
    (m : Moment) : (x.act m p).1.load = 0 ∧ noisy (x.act m p).2 = false := by
  obtain ⟨hsub, hqueue, hrun⟩ := load_eq_zero_iff.1 h
  have hclose : p.close.1.load = 0 ∧ noisy p.close.2 = false := by
    refine ⟨?_, Batch.noisy_close p⟩
    rw [close_frame]
    exact h
  cases x with
  | submit call task => exact absurd rfl (hx call task)
  | shutdown call =>
    rw [Turn.act_shutdown]
    exact hclose
  | close =>
    rw [Turn.act_close]
    exact hclose
  | cancel =>
    rw [Turn.act_cancel]
    exact ⟨h, rfl⟩
  | abandon call =>
    rw [Turn.act_abandon, withdraw, hsub]
    exact ⟨load_eq_zero_iff.2 ⟨rfl, hqueue, hrun⟩, rfl⟩
  | finish name =>
    have hfinish : p.finish name = (p, []) := by
      rw [finish, finish?, hrun]
      rfl
    rw [Turn.act_finish, hfinish]
    exact ⟨h, rfl⟩
  | _ => exact ⟨h, rfl⟩

end Pool

/-! ## Deeds -/

/-- What is done at the place of a pool, which may be there or not, and what happens then. -/
abbrev Deed (α : Type) := Moment → Option (Pool α) → Option (Pool α) × List (Event α)

namespace Deed

/-- Nothing is done. -/
def still : Deed α := fun _ o => (o, [])

/-- Something is done to the pool, if it is there. -/
def toPool (f : Moment → Pool α → Pool α × List (Event α)) : Deed α
  | _, none => (none, [])
  | m, some p => (some (f m p).1, (f m p).2)

/-- A pool is put there. -/
def put (p : Pool α) : Deed α := fun _ _ => (some p, p.opening)

/-- Whether discards panic makes a difference only in who is told of a panic, and none at all if no
frail task is discarded. -/
structure Mild (d : Deed α) : Prop where
  gentle : ∀ {m m' o o'}, m'.now = m.now → o'.map Pool.gentle = o.map Pool.gentle →
    (d m' o').1.map Pool.gentle = (d m o).1.map Pool.gentle ∧
      (d m' o').2.map Event.gentle = (d m o).2.map Event.gentle
  quiet : ∀ {m m' o}, noisy (d m o).2 = false → m'.now = m.now → d m' o = d m o

/-- Doing nothing is mild. -/
lemma mild_still : (still : Deed α).Mild := ⟨fun _ h => ⟨h, rfl⟩, fun _ _ => rfl⟩

/-- Putting a pool there is mild. -/
lemma mild_put (p : Pool α) : (put p).Mild := ⟨fun _ _ => ⟨rfl, rfl⟩, fun _ _ => rfl⟩

/-- What is done to pools is mild if it comes to the same when no discard panics. -/
lemma mild_toPool {f : Moment → Pool α → Pool α × List (Event α)}
    (gentle : ∀ m p, f m.gentle p.gentle = ((f m p).1.gentle, (f m p).2.map Event.gentle))
    (quiet : ∀ {m m' p}, noisy (f m p).2 = false → m'.now = m.now → f m' p = f m p) :
    (toPool f).Mild where
  gentle {m m' o o'} now h := by
    cases o <;> cases o' <;> simp only [Option.map_none, Option.map_some, reduceCtorEq,
      Option.some.injEq] at h
    · exact ⟨rfl, rfl⟩
    · next p p' =>
      have hmoment : m'.gentle = m.gentle := congrArg (Moment.mk · false) now
      have heq := (gentle m' p').symm.trans ((congrArg₂ f hmoment h).trans (gentle m p))
      obtain ⟨hpool, hevents⟩ := Prod.mk.inj heq
      exact ⟨congrArg some hpool, hevents⟩
  quiet {m m' o} hquiet now := by
    cases o with
    | none => rfl
    | some p => simp only [toPool, quiet hquiet now]

/-- **Pools settle mildly.** -/
theorem mild_settle : (toPool (α := α) Pool.settle).Mild :=
  mild_toPool Pool.settle_gentle Pool.settle_of_quiet

/-- **Turns are mild**, also one that depends on the pool, if it does not depend on the count of the
workers. -/
theorem mild_turn {x : Pool α → Pool.Turn α} (hx : ∀ p, x p.gentle = x p) :
    (toPool fun m p => (x p).act m p).Mild :=
  mild_toPool (fun m p => by rw [hx, Pool.Turn.act_gentle])
    fun hquiet _ => Pool.Turn.act_of_quiet hquiet _

/-- **A mild deed at the same place in two scenes.** Frail tasks have been discarded elsewhere in
the first scene (`stray`), and in the second one discards still panic or not (`brittle`). If the
pools are the same but for panics of discards, then they stay so; and if they are really the same
unless frail tasks have been discarded both here and elsewhere, then that stays so too. -/
theorem Mild.agree {d : Deed α} (hd : d.Mild) (now : Nat) {o o' : Option (Pool α)}
    {brittle stray : Bool} (gentle : o'.map Pool.gentle = o.map Pool.gentle)
    (same : brittle = true ∨ stray = false → o' = o) :
    ((d ⟨now, brittle⟩ o').1.map Pool.gentle = (d ⟨now, brittle && !stray⟩ o).1.map Pool.gentle ∧
      (d ⟨now, brittle⟩ o').2.map Event.gentle =
        (d ⟨now, brittle && !stray⟩ o).2.map Event.gentle) ∧
      ((brittle && !noisy (d ⟨now, brittle⟩ o').2) = true ∨ stray = false →
        d ⟨now, brittle⟩ o' = d ⟨now, brittle && !stray⟩ o) := by
  refine ⟨hd.gentle rfl gentle, ?_⟩
  rintro (hquiet | hstray)
  · rw [Bool.and_eq_true, Bool.not_eq_true'] at hquiet
    obtain rfl := same (.inl hquiet.1)
    have hquieter : d ⟨now, brittle && !stray⟩ o' = d ⟨now, brittle⟩ o' := hd.quiet hquiet.2 rfl
    exact hquieter.symm
  · obtain rfl := same (.inr hstray)
    rw [hstray, Bool.not_false, Bool.and_true]

end Deed

end Workforce
