import Workforce.Proofs.Batch.Replies
import Workforce.Proofs.Scene.Accord
import Workforce.Proofs.Scene.Made
/-!
# Runs in which no discard panics

The same commands are given in two scenes, in the second of which no discard panics. The discard of
a frail task panics at most once, so that it is enough to look at the place where one does: there
somebody is told of the panic, who is told otherwise in the second scene, and a note may be missing.
Nothing else differs. The same tasks start, end and are discarded at the same times and in the same
order, and the same calls are answered, at all other places with the same answers.

## Main definitions

* `Workforce.Event.Alarming` — the event tells somebody of a panic.
* `Workforce.Event.Hushes` — an event, and what happens in its place in the second scene.
* `Workforce.Fading` — what is done to components does not depend on panics but for this.
* `Workforce.Hushed` — what happens in both scenes.
* `Workforce.hush` — two scenes that are in accord but for panics at some places.

## Main results

* `Workforce.Batch.settle_gentle` — a batch settles by the same moves when no discard panics.
* `Workforce.lawful_hush` — whatever scenes do by themselves keeps this accord.
* `Workforce.Scene.hushed_reach` — so do commands.
-/

namespace Workforce

open History

variable {α σ : Type}

/-! ## Who is told of a panic -/

/-- The event tells somebody of a panic. -/
def Event.Alarming : Event α → Prop
  | refused _ panicked => panicked = true
  | workerAborted => True
  | batchAnswered _ answer => answer = .panicked ∨ answer = .batch (.error .discardPanic)
  | _ => False

/-- Nobody is told of a panic when something is made. -/
lemma Event.Opens.not_alarming {e : Event α} (h : e.Opens) : ¬e.Alarming := by
  cases e with
  | batchAnswered call answer =>
    obtain rfl := (h : answer = .batch (.ok []))
    simp [Event.Alarming]
  | _ => simp_all [Event.Opens, Event.Alarming]

/-- Nobody is told of a panic by discards. -/
lemma not_alarming_discards (ts : List (Task α)) : ∀ e ∈ ts.map Event.discarded, ¬e.Alarming := by
  intro e he
  obtain ⟨t, -, rfl⟩ := List.mem_map.1 he
  exact id

/-- An event, and what happens in its place when no discard panics. Of a refusal only the submitter
of a batch is told otherwise, unless all callers may be; and of a batch that cannot be begun only
such callers are. -/
inductive Event.Hushes (told : Nat → Prop) : Event α → Event α → Prop
  | same (e : Event α) (calm : ¬e.Alarming) : Hushes told e e
  | refused (caller : Option Nat) (panicked : Bool) (who : caller = none ∨ ∀ call, told call) :
      Hushes told (refused caller panicked) (refused caller false)
  | stopped : Hushes told workerAborted workerStopped
  | answered (call : Nat) (values : List α) :
      Hushes told (batchAnswered call (.batch (.error .discardPanic)))
        (batchAnswered call (.batch (.ok values)))
  | unbegun (call : Nat) (who : told call) : Hushes told (batchAnswered call .panicked)
      (batchAnswered call (.batch (.error (.invalidSize 0))))

/-- **What would happen if no discard panicked is what happens then**, if nobody is told of a panic
then: either may all callers be told of it, or the first events tell of refusals the submitter of a
batch only. -/
theorem Fades.hushes {told : Nat → Prop} {es fs gs : List (Event α)} (h : Fades es gs)
    (h' : Fades fs gs) (calm : ∀ e ∈ fs, ¬e.Alarming)
    (who : (∀ call, told call) ∨ ∀ e ∈ es, e.Internal) :
    List.Forall₂ (Event.Hushes told) (es.filter Event.lasting) (fs.filter Event.lasting) := by
  unfold Fades at h h'
  have calm' : ∀ e ∈ fs.filter Event.lasting, ¬e.Alarming := fun e he =>
    calm e (List.mem_of_mem_filter he)
  have who' : (∀ call, told call) ∨ ∀ e ∈ es.filter Event.lasting, e.Internal :=
    who.imp_right fun h e he => h e (List.mem_of_mem_filter he)
  generalize es.filter Event.lasting = es at h who'
  generalize fs.filter Event.lasting = fs at h' calm'
  generalize gs.filter Event.lasting = gs at h h'
  -- an event that tells nobody of a panic is what would happen in its place
  have same : ∀ {e g : Event α}, e.Fades g → ¬e.Alarming → g = e := fun he hcalm => by
    cases he with
    | same => rfl
    | refused caller panicked =>
      cases panicked with
      | false => rfl
      | true => exact absurd rfl hcalm
    | stopped => exact absurd trivial hcalm
    | answered => exact absurd (.inr rfl) hcalm
  induction h' generalizing es with
  | nil =>
    cases h
    exact .nil
  | @cons f g fs gs hf _ ih =>
    obtain ⟨hcalm, hrest⟩ := List.forall_mem_cons.1 calm'
    cases h with
    | @cons e _ es _ he htail =>
      obtain rfl := same hf hcalm
      have hwho := who'.imp_right fun h e he => h e (List.mem_cons_of_mem _ he)
      refine .cons ?_ (ih _ hwho hrest htail)
      cases he with
      | same => exact .same _ hcalm
      | refused caller panicked =>
        refine .refused caller panicked (who'.symm.imp_left fun hinternal => ?_)
        have hnone := hinternal _ List.mem_cons_self
        simpa [Event.Internal, Event.answer?, Occurrence.answered?] using hnone
      | stopped => exact .stopped
      | answered call values => exact .answered call values

namespace Pool

variable {p q : Pool α} {m : Moment} {es : List (Event α)}

/-- Nobody is told of a panic when a worker exits and no discard panics. -/
lemma not_alarming_retire (calm : m.brittle = false) {reason : List (Event α)}
    (hreason : ∀ e ∈ reason, ¬e.Alarming) (p : Pool α) :
    ∀ e ∈ (p.retire m reason).2, ¬e.Alarming := by
  have hbreaks : p.queue.any m.breaks = false := by simp [Moment.any_breaks, calm]
  have hstop : ∀ e ∈ reason ++ p.queue.map .discarded, ¬e.Alarming :=
    List.forall_mem_append.2 ⟨hreason, not_alarming_discards _⟩
  unfold retire
  rw [hbreaks]
  split
  · exact List.forall_mem_append.2 ⟨hstop, by simp [Event.Alarming]⟩
  · exact List.forall_mem_append.2 ⟨hreason, by simp [Event.Alarming]⟩

/-- Nobody is told of one when a task is refused. -/
lemma not_alarming_refusal (calm : m.brittle = false) (s : Submission α) :
    ∀ e ∈ refusal m s, ¬e.Alarming := by
  simp [refusal, Moment.breaks, calm, Event.Alarming]

/-- **Nobody is told of a panic when no discard panics.** -/
lemma not_alarming_perform? {k : Move} (calm : m.brittle = false)
    (h : p.perform? m k = some (q, es)) : ∀ e ∈ es, ¬e.Alarming := by
  cases k with
  | take =>
    obtain ⟨n, t, rest, -, -, -, heq⟩ := take?_eq_some_iff.1 h
    cases heq
    simp [Event.Alarming]
  | leave =>
    obtain ⟨n, -, -, heq⟩ := leave?_eq_some_iff.1 h
    have hreason : ∀ e ∈ p.farewell, ¬e.Alarming := forall_mem_farewell (by simp [Event.Alarming])
    have hexit := not_alarming_retire calm hreason { p with idle := n }
    rwa [heq] at hexit
  | enter =>
    obtain ⟨s, rest, -, ⟨-, heq⟩ | ⟨-, -, -, heq⟩⟩ := enter?_eq_some_iff.1 h
    · cases heq
      exact not_alarming_refusal calm s
    · cases heq
      simp [Event.Alarming]
  | publish =>
    obtain ⟨output, rest, -, ⟨-, heq⟩ | ⟨-, -, heq⟩⟩ := publish?_eq_some_iff.1 h
    · have hreason : ∀ e ∈ [(.receiverGone : Event α)], ¬e.Alarming := by simp [Event.Alarming]
      have hexit := not_alarming_retire calm hreason { p with publishing := rest }
      rwa [heq] at hexit
    · cases heq
      simp [Event.Alarming]
  | deliver =>
    obtain ⟨r, rest, -, ⟨output, outputs, -, heq⟩ | ⟨-, -, heq⟩⟩ := deliver?_eq_some_iff.1 h <;>
      cases heq <;> simp [Event.Alarming]

/-- Nor is anybody when the pool settles. -/
lemma not_alarming_settle (calm : m.brittle = false) (p : Pool α) :
    ∀ e ∈ (p.settle m).2, ¬e.Alarming := by
  fun_induction settle m p with
  | case1 m p h => simp
  | case2 m p q es h r fs hr ih =>
    have hrest := ih (by simp [Moment.after, calm])
    rw [hr] at hrest
    obtain ⟨k, hk⟩ := exists_move_of_step? h
    exact List.forall_mem_append.2 ⟨not_alarming_perform? calm hk, hrest⟩

/-- Nor is anybody at a turn. -/
lemma Turn.not_alarming_act (calm : m.brittle = false) (x : Turn α) (p : Pool α) :
    ∀ e ∈ (x.act m p).2, ¬e.Alarming := by
  have hclose : ∀ e ∈ p.close.2, ¬e.Alarming := by
    rcases Batch.close_snd p with h | h <;> rw [h] <;> simp [Event.Alarming]
  cases x with
  | submit call task =>
    rw [act_submit, Pool.submit]
    split
    · exact not_alarming_refusal calm _
    · simp
  | shutdown call =>
    rw [act_shutdown]
    exact hclose
  | close =>
    rw [act_close]
    exact hclose
  | cancel =>
    rw [act_cancel]
    simp [Pool.cancel, Event.Alarming]
  | abandon call =>
    rw [act_abandon, withdraw]
    intro e he
    obtain ⟨s, -, rfl⟩ := List.mem_map.1 he
    exact id
  | finish name =>
    rw [act_finish, Pool.finish, finish?]
    split
    · simp
    · split <;> simp [Event.Alarming]
  | _ => exact fun e he => absurd he List.not_mem_nil

end Pool

/-! ## Batches -/

namespace Batch

variable {b c : Batch α} {m m' : Moment} {es : List (Event α)}

/-- A batch that has settled stays as it is. -/
lemma settle_eq_self (h : b.step? m = none) : b.settle m = (b, []) := by
  rw [settle]
  split
  · rfl
  · next heq => cases h.symm.trans heq

/-- A batch in which something can move settles from there. -/
lemma settle_of_step? (h : b.step? m = some (c, es)) :
    b.settle m = ((c.settle (m.after es)).1, es ++ (c.settle (m.after es)).2) := by
  rw [settle]
  split
  · next heq => cases h.symm.trans heq
  · next heq =>
    cases h.symm.trans heq
    rfl

/-- Whether a move is enabled does not depend on whether discards panic. -/
lemma perform?_gentle_eq_none_iff {k : Move} (now : m'.now = m.now) :
    b.gentle.perform? m' k = none ↔ b.perform? m k = none := by
  have hdue : b.gentle.isDue m' = b.isDue m := by
    have hdeadline : b.gentle.deadline = b.deadline := rfl
    rw [isDue, isDue, now, hdeadline]
  cases k with
  | pool k =>
    simp only [perform?, performPool?, Option.map_eq_none_iff]
    exact Pool.perform?_gentle_eq_none_iff (p := b.pool)
  | feed =>
    rw [perform?, perform?, feed?_eq_none_iff, feed?_eq_none_iff, finished_gentle, active_gentle,
      hdue]
    rfl
  | conclude =>
    rw [perform?, perform?, conclude?_eq_none_iff, conclude?_eq_none_iff, finished_gentle]
    rfl

/-- The first enabled move when no discard panics. -/
lemma exists_step?_gentle (h : b.step? m = some (c, es)) :
    ∃ fs, b.gentle.step? m.gentle = some (c.gentle, fs) ∧ Fades es fs := by
  have now : m.gentle.now = m.now := rfl
  obtain ⟨⟨d, fs⟩, hd, rfl, hfades⟩ := Pool.exists_findSome?_of
    (g := b.gentle.perform? m.gentle)
    (P := fun r : Batch α × List (Event α) => r.1 = c.gentle ∧ Fades es r.2) h
    (fun _ => (perform?_gentle_eq_none_iff now).2) fun _ hk => by
      obtain ⟨fs, hfs, hfades⟩ := perform?_gentle hk
      exact ⟨_, hfs, rfl, hfades⟩
  exact ⟨fs, hd, hfades⟩

/-- The first enabled move when it discards no frail task. -/
lemma step?_of_quiet (h : b.step? m = some (c, es)) (quiet : noisy es = false)
    (now : m'.now = m.now) : b.step? m' = some (c, es) := by
  have hnone : ∀ k, b.perform? m k = none → b.perform? m' k = none := fun k hk =>
    (perform?_gentle_eq_none_iff (m := m') rfl).1 ((perform?_gentle_eq_none_iff now).2 hk)
  obtain ⟨y, hy, rfl⟩ := Pool.exists_findSome?_of (P := (· = (c, es))) h hnone
    fun _ hk => ⟨_, perform?_of_quiet hk quiet now, rfl⟩
  exact hy

/-- **A batch settles when no discard panics** by the same moves. -/
theorem settle_gentle (m : Moment) (b : Batch α) : ∃ fs,
    b.gentle.settle m.gentle = ((b.settle m).1.gentle, fs) ∧ Fades (b.settle m).2 fs := by
  fun_induction settle m b with
  | case1 m b h => exact ⟨[], settle_eq_self (step?_gentle h), .refl []⟩
  | case2 m b c es h d fs hr ih =>
    rw [hr] at ih
    obtain ⟨es', hstep, hfades⟩ := exists_step?_gentle h
    obtain ⟨fs', hsettle, hfades'⟩ := ih
    have hafter : m.gentle.after es' = (m.after es).gentle := rfl
    refine ⟨es' ++ fs', ?_, hfades.append hfades'⟩
    rw [settle_of_step? hstep, hafter, hsettle]

/-- **A batch that discards no frail task when it settles** does so in the same way whether discards
panic or not. -/
theorem settle_of_quiet (quiet : noisy (b.settle m).2 = false) (now : m'.now = m.now) :
    b.settle m' = b.settle m := by
  fun_induction settle m b generalizing m' with
  | case1 m b h => exact settle_eq_self ((step?_eq_none_congr now.symm).1 h)
  | case2 m b c es h d fs hr ih =>
    rw [hr] at ih
    rw [noisy_append, Bool.or_eq_false_iff] at quiet
    have hrest : c.settle (m'.after es) = (d, fs) := ih quiet.2 now
    rw [settle_of_step? (step?_of_quiet h quiet.1 now), hrest]

/-! ### Nobody is told of a panic -/

/-- The submitter has not panicked. -/
def Composed (b : Batch α) : Prop := b.submitter.gentle = b.submitter

/-- A submitter that has not panicked does not panic when it ends and no discard panics. -/
lemma composed_endSubmitter (calm : m.brittle = false) (b : Batch α) :
    (b.endSubmitter m false).1.Composed ∧ ∀ e ∈ (b.endSubmitter m false).2, ¬e.Alarming := by
  have hbreaks : b.remaining.any m.breaks = false := by simp [Moment.any_breaks, calm]
  refine ⟨?_, List.forall_mem_append.2 ⟨not_alarming_discards _, ?_⟩⟩
  · rw [Composed, endSubmitter, hbreaks]
    rfl
  · rcases close_snd b.pool with h | h <;> rw [h] <;> simp [Event.Alarming]

/-- Nor when it stops. -/
lemma composed_halt (calm : m.brittle = false) (t : Task α) {reason : Event α}
    (hreason : ¬reason.Alarming) (b : Batch α) :
    (b.halt m t reason).1.Composed ∧ ∀ e ∈ (b.halt m t reason).2, ¬e.Alarming := by
  have hbreaks : m.breaks t = false := by simp [Moment.breaks, calm]
  obtain ⟨hend, hevents⟩ := b.composed_endSubmitter calm
  simp only [halt, hbreaks, Bool.false_eq_true, if_false]
  exact ⟨hend, List.forall_mem_cons.2 ⟨id, List.forall_mem_cons.2 ⟨hreason, hevents⟩⟩⟩

/-- What the batch learns does not make the submitter panic. -/
lemma Composed.observeAll (hb : b.Composed) (hes : ∀ e ∈ es, ¬e.Alarming) :
    (b.observeAll es).Composed := by
  induction es generalizing b with
  | nil => exact hb
  | cons e es ih =>
    refine ih ?_ fun e he => hes e (List.mem_cons_of_mem _ he)
    have he := hes e List.mem_cons_self
    cases e with
    | refused caller panicked =>
      have hpanicked : panicked = false := by simpa [Event.Alarming] using he
      subst hpanicked
      unfold Composed at hb ⊢
      cases hs : b.submitter <;> simp_all [observe, Submitter.refuse, Submitter.gentle]
    | received caller drains output => cases output <;> exact hb
    | _ => exact hb

/-- **Nobody is told of a panic when no discard panics**, and the submitter does not panic. -/
theorem Composed.perform? (hb : b.Composed) {k : Move} (calm : m.brittle = false)
    (h : b.perform? m k = some (c, es)) : c.Composed ∧ ∀ e ∈ es, ¬e.Alarming := by
  cases k with
  | pool k =>
    obtain ⟨q, hq, rfl⟩ := performPool?_eq_some_iff.1 h
    have hes := Pool.not_alarming_perform? calm hq
    exact ⟨hb.observeAll hes, hes⟩
  | feed =>
    cases feed?_eq_some_iff.1 h with
    | @refused panicked hs =>
      have hpanicked : panicked = false := by
        rw [Composed, hs] at hb
        cases hb
        rfl
      subst hpanicked
      exact composed_endSubmitter calm b
    | done => exact composed_endSubmitter calm b
    | @back s line reason hs hline why =>
      refine composed_halt calm s.task ?_ _
      rcases why with ⟨-, rfl⟩ | ⟨-, -, rfl⟩ <;> exact id
    | due =>
      obtain ⟨hend, hevents⟩ := composed_endSubmitter calm b
      exact ⟨hend, List.forall_mem_cons.2 ⟨id, hevents⟩⟩
    | stopped => exact composed_halt calm _ id _
    | @submit t rest =>
      have hes : ∀ e ∈ (b.pool.submit m ⟨none, t⟩).2, ¬e.Alarming := by
        unfold Pool.submit
        split
        · exact Pool.not_alarming_refusal calm _
        · simp
      exact ⟨Composed.observeAll (b := { b with
        pool := (b.pool.submit m ⟨none, t⟩).1, remaining := rest }) hb hes, hes⟩
  | conclude =>
    obtain ⟨panicked, hfin, -, -, heq⟩ := conclude?_eq_some_iff.1 h
    obtain ⟨rfl, rfl⟩ := Prod.ext_iff.1 heq
    have hpanicked : panicked = false := by
      rw [Composed, hfin] at hb
      cases hb
      rfl
    subst hpanicked
    exact ⟨hb, by simp [Event.Alarming]⟩

/-- Nor is anybody told of one when the batch settles. -/
lemma Composed.settle (hb : b.Composed) (calm : m.brittle = false) :
    (b.settle m).1.Composed ∧ ∀ e ∈ (b.settle m).2, ¬e.Alarming := by
  fun_induction Batch.settle m b with
  | case1 m b h => exact ⟨hb, by simp⟩
  | case2 m b c es h d fs hr ih =>
    obtain ⟨k, hk⟩ := exists_move_of_step? h
    obtain ⟨hc, hes⟩ := hb.perform? calm hk
    have hrest := ih hc (by simp [Moment.after, calm])
    rw [hr] at hrest
    exact ⟨hrest.1, List.forall_mem_append.2 ⟨hes, hrest.2⟩⟩

end Batch

/-! ## What is done to components -/

/-- What is done to components does not depend on whether discards panic, but for who is told of a
panic; and not at all if no frail task is discarded. -/
structure Fading (told : Nat → Prop) (R : σ → σ → Prop) (f : Moment → σ → σ × List (Event α)) :
    Prop where
  hushes : ∀ {m m' x y}, m'.now = m.now → m'.brittle = false → R x y →
    R (f m x).1 (f m' y).1 ∧ List.Forall₂ (Event.Hushes told) ((f m x).2.filter Event.lasting)
      ((f m' y).2.filter Event.lasting)
  quiet : ∀ {m m' x}, noisy (f m x).2 = false → m'.now = m.now → f m' x = f m x

/-- A pool, and what it is in the scene in which no discard panics. -/
def Pool.Softer (p q : Pool α) : Prop := q.gentle = p.gentle

/-- Both pools run the same tasks and have the same lines. -/
lemma Pool.Softer.view {p q : Pool α} (h : p.Softer q) : q.running = p.running ∧ q.held = p.held ∧
    q.submitting = p.submitting ∧ q.receiving = p.receiving := by
  have hrunning : q.gentle.running = p.gentle.running := congrArg Pool.running h
  have hheld : q.gentle.held = p.gentle.held := congrArg Pool.held h
  have hsubmitting : q.gentle.submitting = p.gentle.submitting := congrArg Pool.submitting h
  have hreceiving : q.gentle.receiving = p.gentle.receiving := congrArg Pool.receiving h
  exact ⟨hrunning, hheld, hsubmitting, hreceiving⟩

/-- A batch, and what it is in the scene in which no discard panics. -/
structure Batch.Softer (b c : Batch α) : Prop where
  gentle : c.gentle = b.gentle
  composed : c.Composed
  /-- Nobody who waits at its pool has a number. -/
  anonymous : b.pool.Anonymous

/-- Both batches run the same tasks and have the same calls and limits. -/
lemma Batch.Softer.view {b c : Batch α} (h : b.Softer c) : c.pool.running = b.pool.running ∧
    c.pending = b.pending ∧ c.call = b.call ∧ c.since = b.since ∧ c.deadline = b.deadline := by
  have hrunning : c.gentle.pool.running = b.gentle.pool.running :=
    congrArg (·.pool.running) h.gentle
  have hpending : c.gentle.pending = b.gentle.pending := congrArg Batch.pending h.gentle
  have hcall : c.gentle.call = b.gentle.call := congrArg Batch.call h.gentle
  have hsince : c.gentle.since = b.gentle.since := congrArg Batch.since h.gentle
  have hdeadline : c.gentle.deadline = b.gentle.deadline := congrArg Batch.deadline h.gentle
  exact ⟨hrunning, hpending, hcall, hsince, hdeadline⟩

section

variable {told : Nat → Prop}

/-- What is done to pools. -/
lemma Pool.fading {f : Moment → Pool α → Pool α × List (Event α)} (all : ∀ call, told call)
    (gentle : ∀ m p, f m.gentle p.gentle = ((f m p).1.gentle, (f m p).2.map Event.gentle))
    (calm : ∀ {m : Moment} {p}, m.brittle = false → ∀ e ∈ (f m p).2, ¬e.Alarming)
    (quiet : ∀ {m m' p}, noisy (f m p).2 = false → m'.now = m.now → f m' p = f m p) :
    Fading told Pool.Softer f where
  hushes {m m' p q} now hm h := by
    have hmoment : m'.gentle = m.gentle := congrArg (Moment.mk · false) now
    have hboth := (gentle m' q).symm.trans ((congrArg₂ f hmoment h).trans (gentle m p))
    obtain ⟨hpool, hevents⟩ := Prod.mk.inj hboth
    refine ⟨hpool, (Fades.of_pool _).hushes ?_ (calm hm) (.inl all)⟩
    rw [← hevents]
    exact .of_pool _
  quiet := quiet

/-- What is done to batches. -/
lemma Batch.fading {f : Moment → Batch α → Batch α × List (Event α)}
    (gentle : ∀ m b, ∃ fs, f m.gentle b.gentle = ((f m b).1.gentle, fs) ∧ Fades (f m b).2 fs)
    (calm : ∀ {m : Moment} {b : Batch α}, m.brittle = false → b.Composed →
      (f m b).1.Composed ∧ ∀ e ∈ (f m b).2, ¬e.Alarming)
    (anonymous : ∀ {m : Moment} {b : Batch α}, b.pool.Anonymous →
      (f m b).1.pool.Anonymous ∧ ∀ e ∈ (f m b).2, e.Internal)
    (quiet : ∀ {m m' b}, noisy (f m b).2 = false → m'.now = m.now → f m' b = f m b) :
    Fading told Batch.Softer f where
  hushes {m m' b c} now hm h := by
    have hmoment : m'.gentle = m.gentle := congrArg (Moment.mk · false) now
    obtain ⟨fs, heq, hfades⟩ := gentle m b
    obtain ⟨fs', heq', hfades'⟩ := gentle m' c
    have hboth := heq'.symm.trans ((congrArg₂ f hmoment h.gentle).trans heq)
    obtain ⟨hbatch, rfl⟩ := Prod.mk.inj hboth
    obtain ⟨hafter, hevents⟩ := calm hm h.composed
    obtain ⟨hpool, hinternal⟩ := anonymous (m := m) h.anonymous
    exact ⟨⟨hbatch, hafter, hpool⟩, hfades.hushes hfades' hevents (.inr hinternal)⟩
  quiet := quiet

/-- **Pools settle.** -/
theorem Pool.fading_settle (all : ∀ call, told call) :
    Fading (α := α) told Pool.Softer Pool.settle :=
  Pool.fading all settle_gentle (fun hm => not_alarming_settle hm _) settle_of_quiet

/-- **Something is done to a pool.** -/
theorem Pool.fading_turn (all : ∀ call, told call) (x : Pool.Turn α) :
    Fading told Pool.Softer fun m p => x.act m p :=
  Pool.fading all (fun m p => x.act_gentle m p) (fun hm => x.not_alarming_act hm _)
    fun hquiet _ => Pool.Turn.act_of_quiet hquiet _

/-- **Batches settle.** -/
theorem Batch.fading_settle : Fading (α := α) told Batch.Softer Batch.settle :=
  Batch.fading settle_gentle (fun hm hb => hb.settle hm) (fun hb => anonymous_settle hb _)
    settle_of_quiet

/-- A task ends in a batch. -/
lemma Batch.fading_finish (id : TaskId) :
    Fading (α := α) told Batch.Softer fun _ => Batch.finish id := by
  refine Batch.fading (fun m b => ⟨(b.finish id).2.map Event.gentle, ?_, .of_pool _⟩)
    (fun _ hb => ⟨hb, ?_⟩)
    (fun hb => (hb.finish id).imp_right fun hsilent e he => (hsilent e he).internal)
    fun _ _ => rfl
  · have hpool : b.gentle.pool = b.pool.gentle := rfl
    rw [finish, hpool, Pool.finish_gentle]
    rfl
  · next m b hm =>
    have hact := (Pool.Turn.finish id).not_alarming_act hm b.pool
    rwa [Pool.Turn.act_finish] at hact

/-- The parent is cancelled. -/
lemma Batch.fading_follow :
    Fading (α := α) told Batch.Softer fun _ (b : Batch α) => (b.parentCancelled, []) :=
  Batch.fading (fun _ _ => ⟨[], rfl, .refl []⟩) (fun _ hb => ⟨hb, by simp⟩)
    (fun hb => ⟨⟨hb.submitting, hb.receiving⟩, by simp⟩) fun _ _ => rfl

/-- The call of a batch is given up. -/
lemma Batch.fading_giveUp (call : Nat) :
    Fading (α := α) told Batch.Softer fun _ => Accord.giveUp call := by
  refine Batch.fading (fun m b => ⟨(Accord.giveUp call b).2, ?_, .refl _⟩) (fun _ hb => ?_)
    (fun {_ b} hb => ?_) fun _ _ => rfl
  · have hpending : b.gentle.pending = b.pending := rfl
    have hcall : b.gentle.call = b.call := rfl
    have hpool : b.gentle.pool = b.pool.gentle := rfl
    simp only [Accord.giveUp, hpending, hcall]
    split
    · rw [abandon, hpool, Pool.close_gentle]
      rfl
    · rfl
  · next m b _ =>
    unfold Accord.giveUp
    split
    · refine ⟨rfl, ?_⟩
      rw [abandon_snd]
      refine List.forall_mem_cons.2 ⟨id, List.forall_mem_append.2
        ⟨List.forall_mem_append.2 ⟨?_, by simp [Event.Alarming]⟩, not_alarming_discards _⟩⟩
      rcases close_snd b.pool with h | h <;> rw [h] <;> simp [Event.Alarming]
    · exact ⟨hb, by simp⟩
  · unfold Accord.giveUp
    split
    · obtain ⟨-, -, hsilent⟩ := settle_abandon b ⟨0, true⟩
      exact ⟨⟨by simp [abandon], by simp [abandon]⟩,
        fun e he => (hsilent e (List.mem_append_left _ he)).internal⟩
    · exact ⟨hb, by simp⟩

end

/-! ## What happens in both scenes -/

/-- An entry is the same in both scenes, but for panics at some places. -/
def Entry.Hushes (q : Place → Bool) (told : Nat → Prop) (x y : Entry α) : Prop :=
  y.1 = x.1 ∧ if q x.1 then x.2.Hushes told y.2 else y.2 = x.2

/-- The entry is more than a note on how a batch at one of these places went. -/
def Entry.lasting (q : Place → Bool) (x : Entry α) : Bool := !q x.1 || x.2.lasting

/-- What happens in the first scene, and what happens in the second one. -/
def Hushed (q : Place → Bool) (told : Nat → Prop) (es fs : List (Entry α)) : Prop :=
  List.Forall₂ (Entry.Hushes q told) (es.filter (Entry.lasting q)) (fs.filter (Entry.lasting q))

namespace Hushed

variable {q : Place → Bool} {told : Nat → Prop} {place : Place} {es fs es' fs' : List (Entry α)}

/-- The same may happen in both, if nobody is told of a panic at these places. -/
lemma refl (h : ∀ x ∈ es, q x.1 = true → ¬x.2.Alarming) : Hushed q told es es := by
  refine List.forall₂_same.2 fun x hx => ⟨rfl, ?_⟩
  split
  · next hq => exact .same _ (h x (List.mem_of_mem_filter hx) hq)
  · rfl

/-- One thing happens after the other. -/
lemma append (h : Hushed q told es fs) (h' : Hushed q told es' fs') :
    Hushed q told (es ++ es') (fs ++ fs') := by
  rw [Hushed, List.filter_append, List.filter_append]
  exact List.rel_append h h'

/-- What happens at one of the places. -/
lemma map {es fs : List (Event α)} (hq : q place = true)
    (h : List.Forall₂ (Event.Hushes told) (es.filter Event.lasting) (fs.filter Event.lasting)) :
    Hushed q told (es.map (place, ·)) (fs.map (place, ·)) := by
  have hlasting : Entry.lasting q ∘ (fun e : Event α => (place, e)) = Event.lasting := by
    funext e
    simp [Entry.lasting, hq]
  rw [Hushed, List.filter_map, List.filter_map, hlasting, List.forall₂_map_left_iff,
    List.forall₂_map_right_iff]
  exact h.imp fun _ _ he => ⟨rfl, by rwa [if_pos hq]⟩

end Hushed

/-! ## Accord but for panics -/

/-- Two scenes are the same but for panics at some places, as long as the first frail task that is
discarded is discarded at one of these, and is a task of one of some calls. In the second scene no
discard panics. -/
def hush (q : Place → Bool) (told : Nat → Prop) : Accord α where
  pool i p p' := if q (.pool i) then p.Softer p' else p' = p
  batch i b b' := if q (.batch i) then b.Softer b' else b' = b
  flags past brittle brittle' :=
    brittle' = false ∧ (brittle = true → noisy (past.map Prod.snd) = false)
  good past := ∀ place t, past.find? (·.2.isFrailDiscard) = some (place, .discarded t) →
    q place = true ∧ told t.id.call
  seen := Hushed q told
  minds _ := True

section

variable {q : Place → Bool} {told : Nat → Prop} {past : List (Entry α)}

/-- It is still known whether discards panic. -/
lemma hush_flags {place : Place} {es fs : List (Event α)} {brittle brittle' : Bool}
    (h : (hush q told).flags past brittle brittle') :
    (hush q told).flags (past ++ es.map (place, ·)) (brittle && !noisy es)
      (brittle' && !noisy fs) := by
  obtain ⟨rfl, hquiet⟩ := h
  refine ⟨rfl, fun hb => ?_⟩
  obtain ⟨hbrittle, hes⟩ := Bool.and_eq_true_iff.1 hb
  rw [List.map_append, noisy_append, hquiet hbrittle, Accord.noisy_map_map]
  simpa using hes

/-- **What does not depend on panics but for who is told of them** keeps the accord. -/
theorem Fading.keeps {R : σ → σ → Prop} {place : Nat → Place}
    {f : Moment → σ → σ × List (Event α)}
    (hf : ∀ i, q (place i) = true → Fading told R f)
    (quiet : ∀ {m m' x}, noisy (f m x).2 = false → m'.now = m.now → f m' x = f m x) :
    (hush q told).Keeps (fun i x y => if q (place i) then R x y else y = x) place f f := by
  intro i past now brittle brittle' x y hrel flags good
  obtain ⟨rfl, hquiet⟩ := id flags
  cases hqi : q (place i) with
  | true =>
    simp only [hqi, if_true] at hrel
    have now : (⟨now, false⟩ : Moment).now = (⟨now, brittle⟩ : Moment).now := rfl
    obtain ⟨hafter, hhushes⟩ := (hf i hqi).hushes now rfl hrel
    refine ⟨?_, .map hqi hhushes, hush_flags flags⟩
    simpa only [hqi, if_true] using hafter
  | false =>
    simp only [hqi, Bool.false_eq_true, if_false] at hrel
    subst hrel
    have heq : f ⟨now, false⟩ y = f ⟨now, brittle⟩ y := by
      cases brittle with
      | false => rfl
      | true =>
        refine quiet ?_ rfl
        by_contra hloud
        obtain ⟨t, -, hfind⟩ := exists_find_of_noisy (place i) (hquiet rfl)
          (by simpa using hloud)
        have hplace := (good _ _ hfind).1
        simp [hqi] at hplace
    rw [heq]
    refine ⟨?_, .refl fun x hx hq => ?_, hush_flags flags⟩
    · simp only [hqi, Bool.false_eq_true, if_false]
    · obtain ⟨e, -, rfl⟩ := List.mem_map.1 hx
      simp [hqi] at hq

/-- **Whatever scenes do by themselves keeps this accord.** -/
theorem lawful_hush (hq : ∀ i, q (.pool i) = true → ∀ call, told call) :
    (hush q told : Accord α).Lawful where
  good_of_append h place t ht := h place t (by rw [List.find?_append, ht]; rfl)
  quiet h hes := ⟨h.1, fun hb => by rw [List.map_append, noisy_append, h.2 hb, hes]; rfl⟩
  pool_view {i p p'} h := by
    simp only [hush] at h
    split at h
    · exact ⟨h.view.1, h.view.2.1⟩
    · rw [h]
      exact ⟨rfl, rfl⟩
  batch_view {i b c} h := by
    simp only [hush] at h
    split at h
    · exact h.view
    · rw [h]
      exact ⟨rfl, rfl, rfl, rfl, rfl⟩
  settle_pool := Fading.keeps (fun i hi => Pool.fading_settle (hq i hi)) Pool.settle_of_quiet
  settle_batch := Fading.keeps (fun _ _ => Batch.fading_settle) Batch.settle_of_quiet
  turn {x} _ := Fading.keeps (fun i hi => Pool.fading_turn (hq i hi) x)
    fun hquiet _ => Pool.Turn.act_of_quiet hquiet _
  finish _ := trivial
  finish_batch id := Fading.keeps (fun _ _ => Batch.fading_finish id) fun _ _ => rfl
  follow := trivial
  follow_batch := Fading.keeps (fun _ _ => Batch.fading_follow) fun _ _ => rfl
  awaits {i p p' call} h _ := by
    simp only [hush] at h
    split at h
    · obtain ⟨-, -, hsubmitting, hreceiving⟩ := h.view
      rw [hsubmitting, hreceiving]
    · rw [h]
  abandon_batch {call} _ := Fading.keeps (fun _ _ => Batch.fading_giveUp call) fun _ _ => rfl
  fresh i n hn child cancelled := by
    cases hqi : q (.pool i) <;> simp [hush, hqi, Pool.Softer]
  seen_append := .append
  seen_refl h := .refl fun x hx _ halarm => (h x hx).not_alarming halarm

/-- A batch can be begun in both scenes, or in none. -/
lemma begins_hush {call : Nat} {tasks : List (Task α)} (named : ∀ t ∈ tasks, t.id.call = call) :
    (hush q told).Begins call tasks where
  initial i now n hn admission parent := by
    cases hqi : q (.batch i) with
    | false => simp [hush, hqi]
    | true =>
      simp only [hush, hqi, if_true]
      exact ⟨rfl, rfl, by simp [Batch.initial, Pool.receive, Pool.fresh],
        by simp [Batch.initial, Pool.receive, Pool.fresh]⟩
  unbegun {i past now brittle brittle'} flags good := by
    obtain ⟨rfl, hquiet⟩ := id flags
    refine ⟨trivial, ?_, hush_flags flags⟩
    have hnone : tasks.any (⟨now, false⟩ : Moment).breaks = false := by simp [Moment.any_breaks]
    have hlost : noisy (Accord.unbegun ⟨now, brittle⟩ call tasks) = tasks.any (·.frail) := by
      rw [Accord.unbegun, noisy_append, noisy_discards]
      simp [Event.isFrailDiscard, noisy]
    have hcalm : ∀ e ∈ tasks.map Event.discarded ++
        [.batchAnswered call (.batch (.error (.invalidSize 0)))], ¬e.Alarming :=
      List.forall_mem_append.2 ⟨not_alarming_discards tasks,
        by simp [Event.Alarming, PoolError.discardPanic]⟩
    cases hbreaks : tasks.any (⟨now, brittle⟩ : Moment).breaks with
    | false =>
      rw [Accord.unbegun, Accord.unbegun, hbreaks, hnone]
      refine .refl fun x hx _ => ?_
      obtain ⟨e, he, rfl⟩ := List.mem_map.1 hx
      exact hcalm e he
    | true =>
      rw [Moment.any_breaks, Bool.and_eq_true] at hbreaks
      obtain ⟨rfl, hfrail⟩ := hbreaks
      obtain ⟨t, ht, hfind⟩ := exists_find_of_noisy (.batch i) (hquiet rfl)
        (hlost.trans hfrail)
      obtain ⟨hqi, htold⟩ := good _ _ hfind
      have htasks : t ∈ tasks := by simpa [Accord.unbegun] using ht
      rw [named t htasks] at htold
      refine .map hqi ?_
      rw [Accord.unbegun, Accord.unbegun, hnone, Moment.any_breaks, hfrail, List.filter_append,
        List.filter_append]
      refine List.rel_append (List.forall₂_same.2 fun e he => .same e ?_)
        (.cons (.unbegun call htold) .nil)
      exact not_alarming_discards tasks e (List.mem_of_mem_filter he)

end

/-! ## Runs -/

namespace Scene

variable {q : Place → Bool} {told : Nat → Prop}

/-- At the beginning the scenes are the same. -/
lemma hushed_initial (q : Place → Bool) (told : Nat → Prop) :
    (hush q told).Scenes [] ({} : Scene α) { brittle := false } :=
  ⟨rfl, rfl, .nil 0, .nil 0, rfl, fun _ => rfl⟩

/-- **The same commands in both scenes**, in the second of which no discard panics. -/
theorem hushed_reach (hq : ∀ i, q (.pool i) = true → ∀ call, told call) (cs : List (Command α)) :
    ∀ {past : List (Entry α)} {s u : Scene α} (n : Nat),
      (∀ (k : Nat) (c : Command α), cs[k]? = some c → c.Named (n + k)) →
      (hush q told).Scenes past s u → (hush q told).good (past ++ allEntries (s.reach n cs).2) →
        (hush q told).Runs past (s.reach n cs) (u.reach n cs) := by
  have hA := lawful_hush (α := α) hq
  induction cs with
  | nil => exact fun _ _ h _ => .refl h
  | cons c cs ih =>
    intro past s u n named h good
    simp only [reach, allEntries_append, ← List.append_assoc] at good ⊢
    have hbegins : ∀ size tasks admission, c = .batch size tasks admission →
        (hush q told).Begins n tasks := by
      rintro size tasks admission rfl
      refine begins_hush fun t ht => ?_
      obtain ⟨i, hi⟩ := List.mem_iff_getElem?.1 ht
      rw [named 0 (.batch size tasks admission) rfl i t hi]
      rfl
    have hfirst := h.perform hA n c (fun _ x _ _ _ _ _ _ _ _ hpq => hA.turn (x := x) trivial hpq)
      hbegins (fun _ _ => trivial) (hA.good_of_append good)
    refine hfirst.trans (ih (n + 1) (fun k c hc => ?_) hfirst.scenes good)
    rw [Nat.add_assoc, Nat.add_comm 1]
    exact named (k + 1) c hc

end Scene

end Workforce
