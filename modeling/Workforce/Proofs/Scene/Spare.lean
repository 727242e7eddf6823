import Workforce.Proofs.Pool.Dismissal
import Workforce.Proofs.Progress
import Workforce.Proofs.Scene.Hush
/-!
# A scene without one of its calls

Two scenes are looked at side by side, in the second of which a call has not been made. In the first
one the call waits on a pool but is not served. The pools of the second scene are those of the first
one without the call, the batches are the same, and the same happens at the same times but for what
is about the call. There is one exception: if the discard of the call's task panics, no later
discard does, while in the second scene the next one panics. So frail tasks are discarded in the
first scene only before or without the call's task, or discards do not panic in the first place.

## Main definitions

* `Workforce.Batch.Foreign` — a batch has nothing to do with the call.
* `Workforce.others` — what happens that is not about the call.
* `Workforce.shields` — only the discard of the call's task panics, of several that could.
* `Workforce.spare` — two scenes in accord, the second of which is without the call.

## Main results

* `Workforce.Pool.Spares.settle` — a pool settles without the call by the moves that are not about
  it.
* `Workforce.lawful_spare` — whatever scenes do by themselves keeps the accord.
* `Workforce.begins_spare`, `Workforce.keepsAt_drop_spare` — so do the beginning of a batch, and the
  end of a handle.
-/

namespace Workforce

open History Occurrence Trail

variable {α σ : Type} {c : Nat}

/-! ## Batches -/

namespace Batch

variable {b d : Batch α} {es : List (Event α)}

/-- The batch has nothing to do with the call: it is run by another one, which its tasks belong to,
and nobody at its pool has a number. -/
structure Foreign (c : Nat) (b : Batch α) : Prop where
  sound : b.Sound
  anonymous : b.pool.Anonymous
  call : b.call ≠ c
  stock : ∀ t ∈ b.stock, t.id.call ≠ c

namespace Foreign

/-- A batch that has just been begun, by another call. -/
lemma initial {now call n : Nat} {hn : 0 < n} {tasks : List (Task α)} (hcall : call ≠ c)
    (named : ∀ t ∈ tasks, t.id.call = call) (admission : Admission) (parentCancelled : Bool) :
    (Batch.initial now call n hn tasks admission parentCancelled).Foreign c where
  sound := sound_start rfl rfl
  anonymous := ⟨by simp [Batch.initial, Pool.receive, Pool.fresh],
    by simp [Batch.initial, Pool.receive, Pool.fresh]⟩
  call := hcall
  stock t ht := by
    have starts : Scene.Starts (Batch.initial now call n hn tasks admission parentCancelled) call
        tasks := ⟨rfl, rfl, rfl, _, hn, _, _, rfl⟩
    rw [starts.stock_eq] at ht
    rw [named t ht]
    exact hcall

/-- What happens in a batch is not about a call that it has nothing to do with: the tasks that it
discards are its own, and the submitter that is refused has no number. -/
lemma step (hb : b.Foreign c) (h : Step b es d) (anonymous : d.pool.Anonymous)
    (internal : ∀ e ∈ es, e.Internal) : d.Foreign c ∧ ∀ e ∈ es, e.belongs c = false := by
  refine ⟨⟨hb.sound.step h, anonymous, h.call_eq ▸ hb.call, fun t ht => ?_⟩, fun e he => ?_⟩
  · exact hb.stock t (Steps.stock_subset (.single h) t ht)
  · cases e with
    | discarded t =>
      have hdiscards : t ∈ collect discarded? (es.map event) :=
        mem_collect.2 ⟨_, List.mem_map_of_mem he, rfl⟩
      have hstock := hb.stock t (h.balance.subset (List.mem_append_right _ hdiscards))
      simpa [Event.belongs] using hstock
    | refused caller panicked =>
      have hnone := internal _ he
      have hcaller : caller = none := by
        simpa [Event.Internal, Event.answer?, answered?] using hnone
      simp [Event.belongs, hcaller]
    | _ => rfl

/-- It settles. -/
lemma settle (hb : b.Foreign c) (m : Moment) :
    (b.settle m).1.Foreign c ∧ ∀ e ∈ (b.settle m).2, e.belongs c = false := by
  fun_induction Batch.settle m b with
  | case1 m b h => exact ⟨hb, by simp⟩
  | case2 m b d es h r fs hr ih =>
    obtain ⟨k, hk⟩ := exists_move_of_step? h
    obtain ⟨hpool, hinternal⟩ := anonymous_perform? hb.anonymous hk
    obtain ⟨hd, hes⟩ := hb.step (.of_perform? hb.sound hk) hpool hinternal
    have hrest := ih hd
    rw [hr] at hrest
    exact ⟨hrest.1, List.forall_mem_append.2 ⟨hes, hrest.2⟩⟩

/-- A task ends in it. -/
lemma finish (hb : b.Foreign c) (id : TaskId) :
    (b.finish id).1.Foreign c ∧ ∀ e ∈ (b.finish id).2, e.belongs c = false := by
  obtain ⟨hpool, hsilent⟩ := hb.anonymous.finish id
  exact hb.step (.finish id) hpool fun e he => (hsilent e he).internal

/-- The parent is cancelled. -/
lemma follow (hb : b.Foreign c) : b.parentCancelled.Foreign c :=
  (hb.step .follow ⟨hb.anonymous.submitting, hb.anonymous.receiving⟩ (by simp)).1

/-- A call is given up, of a batch or of a pool. -/
lemma giveUp (hb : b.Foreign c) (call : Nat) : (Accord.giveUp call b).1.Foreign c ∧
    ∀ e ∈ (Accord.giveUp call b).2, e.belongs c = false := by
  unfold Accord.giveUp
  split
  · obtain ⟨-, -, hsilent⟩ := settle_abandon b ⟨0, true⟩
    exact hb.step .abandon ⟨by simp [Batch.abandon], by simp [Batch.abandon]⟩
      fun e he => (hsilent e (List.mem_append_left _ he)).internal
  · exact ⟨hb, by simp⟩

/-- The call that it has nothing to do with is given up. -/
lemma giveUp_eq_self (hb : b.Foreign c) : Accord.giveUp c b = (b, []) := by
  simp [Accord.giveUp, hb.call]

end Foreign

end Batch

/-! ## What is not about the call -/

/-- Where nothing is about the call. -/
lemma Event.filter_eq_self {es : List (Event α)} (h : ∀ e ∈ es, e.belongs c = false) :
    es.filter (!·.belongs c) = es :=
  List.filter_eq_self.2 fun e he => by simp [h e he]

/-- Where all is about the call. -/
lemma Event.filter_eq_nil {es : List (Event α)} (h : ∀ e ∈ es, e.belongs c = true) :
    es.filter (!·.belongs c) = [] :=
  List.filter_eq_nil_iff.2 fun e he => by simp [h e he]

/-- What happens that is not about the call. -/
def others (c : Nat) (es : List (Entry α)) : List (Entry α) := es.filter (!·.2.belongs c)

@[simp] lemma others_append (es fs : List (Entry α)) :
    others c (es ++ fs) = others c es ++ others c fs :=
  List.filter_append ..

/-- It is a matter of the events. -/
lemma others_map (place : Place) (es : List (Event α)) :
    others c (es.map (place, ·)) = (es.filter (!·.belongs c)).map (place, ·) :=
  List.filter_map

/-- So it is where nothing is about the call. -/
lemma others_eq_self {es : List (Entry α)} (h : ∀ x ∈ es, x.2.belongs c = false) :
    others c es = es :=
  List.filter_eq_self.2 fun x hx => by simp [h x hx]

/-- Where no frail task is discarded none is that is not the call's. -/
lemma noisy_others {es : List (Entry α)} (h : noisy (es.map Prod.snd) = false) :
    noisy ((others c es).map Prod.snd) = false :=
  List.any_eq_false.2 fun e he => by
    obtain ⟨x, hx, rfl⟩ := List.mem_map.1 he
    exact List.any_eq_false.1 h _ (List.mem_map_of_mem (List.mem_of_mem_filter hx))

/-- When something is made it is not about the call. -/
lemma Event.Opens.belongs_eq {e : Event α} (h : e.Opens) : e.belongs c = false := by
  cases e <;> first | rfl | cases h

/-- The first frail task that is discarded is the call's, and another one is discarded: only the
discard of the call's task panics. -/
def shields (c : Nat) (es : List (Entry α)) : Bool :=
  (es.find? (·.2.isFrailDiscard)).any (·.2.belongs c) && noisy ((others c es).map Prod.snd)

/-- If that is not so in the end, it was not before. -/
lemma shields_of_append {es fs : List (Entry α)} (h : shields c (es ++ fs) = false) :
    shields c es = false := by
  rw [shields, others_append, List.map_append, noisy_append, List.find?_append,
    Bool.and_eq_false_iff, Bool.or_eq_false_iff] at h
  rw [shields, Bool.and_eq_false_iff]
  refine h.imp (fun h => ?_) And.left
  cases hfind : es.find? (·.2.isFrailDiscard) with
  | none => rfl
  | some x => simpa [hfind] using h

/-- If it is not so, and a frail task that is not the call's is discarded after others, then one of
these was not the call's. -/
lemma noisy_others_of_shields {past es : List (Entry α)} (h : shields c (past ++ es) = false)
    (hes : ∀ x ∈ es, x.2.belongs c = false) (loud : noisy (es.map Prod.snd) = true)
    (before : noisy (past.map Prod.snd) = true) :
    noisy ((others c past).map Prod.snd) = true := by
  have hsome : (past.find? (·.2.isFrailDiscard)).isSome = true := by
    rw [List.find?_isSome]
    simpa [noisy, List.any_map] using before
  obtain ⟨x, hx⟩ := Option.isSome_iff_exists.1 hsome
  rw [shields, List.find?_append, hx, others_append, others_eq_self hes, List.map_append,
    noisy_append, loud, Bool.or_true, Bool.and_true] at h
  have hown : x.2.belongs c = false := h
  have hmem : x ∈ others c past :=
    List.mem_filter.2 ⟨List.mem_of_find?_eq_some hx, by simp [hown]⟩
  have hfrail : x.2.isFrailDiscard = true := by simpa using List.find?_some hx
  exact List.any_eq_true.2 ⟨x.2, List.mem_map_of_mem hmem, hfrail⟩

/-! ## Accord without the call -/

/-- Two scenes are the same but for a call, which is not made in the second one. Discards panicked
in both of them at the beginning, or did not (`brittle₀`). -/
def spare (c : Nat) (brittle₀ : Bool) : Accord α where
  pool _ p q := q = p.dismiss c ∧ p.Spares c
  batch _ b b' := b' = b ∧ b.Foreign c
  flags past brittle brittle' := brittle = (brittle₀ && !noisy (past.map Prod.snd)) ∧
    brittle' = (brittle₀ && !noisy ((others c past).map Prod.snd))
  good past := (∀ x ∈ past, x.2.serves c = false) ∧ (brittle₀ = true → shields c past = false)
  seen es fs := fs = others c es
  minds x := x.Spares c

section

variable {brittle₀ brittle brittle' : Bool} {now : Nat} {past : List (Entry α)} {place : Place}

/-- It is still known whether discards panic. -/
lemma spare_flags (place : Place) (es : List (Event α))
    (flags : (spare c brittle₀).flags past brittle brittle') :
    (spare c brittle₀).flags (past ++ es.map (place, ·)) (brittle && !noisy es)
      (brittle' && !noisy (es.filter (!·.belongs c))) := by
  obtain ⟨rfl, rfl⟩ := flags
  constructor
  · rw [List.map_append, noisy_append, Accord.noisy_map_map, Bool.not_or, Bool.and_assoc]
  · rw [others_append, others_map, List.map_append, noisy_append, Accord.noisy_map_map, Bool.not_or,
      Bool.and_assoc]

/-- **Where nothing is about the call** discards panic in both scenes or in none, or no frail task
is discarded. -/
lemma spare_agree {es : List (Event α)} (flags : (spare c brittle₀).flags past brittle brittle')
    (good : (spare c brittle₀).good (past ++ es.map (place, ·)))
    (hes : ∀ e ∈ es, e.belongs c = false) : brittle' = brittle ∨ noisy es = false := by
  obtain ⟨rfl, rfl⟩ := flags
  refine or_iff_not_imp_right.2 fun hloud => ?_
  cases brittle₀ with
  | false => rfl
  | true =>
    have hothers : ∀ x ∈ es.map (place, ·), x.2.belongs c = false := by simpa using hes
    have hnoisy := noisy_others_of_shields (good.2 rfl) hothers
      (by rw [Accord.noisy_map_map]; simpa using hloud)
    cases hbefore : noisy (past.map Prod.snd) with
    | true => rw [hnoisy hbefore]
    | false => rw [noisy_others hbefore]

/-- So that the same is done, if it depends on panics only where a frail task is discarded. -/
lemma spare_same {f : Moment → σ → σ × List (Event α)} {x : σ}
    (flags : (spare c brittle₀).flags past brittle brittle')
    (good : (spare c brittle₀).good (past ++ (f ⟨now, brittle⟩ x).2.map (place, ·)))
    (hes : ∀ e ∈ (f ⟨now, brittle⟩ x).2, e.belongs c = false)
    (quiet : ∀ {m m' x}, noisy (f m x).2 = false → m'.now = m.now → f m' x = f m x) :
    f ⟨now, brittle'⟩ x = f ⟨now, brittle⟩ x := by
  rcases spare_agree flags good hes with rfl | hquiet
  · rfl
  · exact quiet hquiet rfl

/-- What is done to a component and without the call to its counterpart. -/
lemma spare_goes {R : σ → σ → Prop} {x y : σ × List (Event α)} (rel : R x.1 y.1)
    (events : y.2 = x.2.filter (!·.belongs c))
    (flags : (spare c brittle₀).flags past brittle brittle') :
    (spare c brittle₀).Goes R place past brittle brittle' x y where
  rel := rel
  entries := by
    rw [events]
    exact (others_map place x.2).symm
  flags := by
    rw [events]
    exact spare_flags place x.2 flags

/-! ### Pools -/

/-- **A pool settles without the call** by the moves that are not about it. -/
theorem Pool.Spares.settle {p : Pool α} (hp : p.Spares c)
    (flags : (spare c brittle₀).flags past brittle brittle')
    (good : (spare c brittle₀).good (past ++ (p.settle ⟨now, brittle⟩).2.map (place, ·))) :
    (p.settle ⟨now, brittle⟩).1.Spares c ∧ (p.dismiss c).settle ⟨now, brittle'⟩ =
      ((p.settle ⟨now, brittle⟩).1.dismiss c,
        (p.settle ⟨now, brittle⟩).2.filter (!·.belongs c)) := by
  generalize hm : (⟨now, brittle⟩ : Moment) = m at good ⊢
  fun_induction Pool.settle m p generalizing brittle brittle' past with
  | case1 m p h =>
    refine ⟨hp, Pool.settle_eq_self ?_⟩
    exact (Pool.step?_eq_none_congr _ _ _).1 (hp.step?_eq_none h)
  | case2 m p q es h r fs hr ih =>
    subst hm
    rw [hr] at ih
    simp only [List.map_append, ← List.append_assoc] at good
    have hunserved : ∀ e ∈ es, e.serves c = false := fun e he =>
      good.1 (place, e) (by simp [he])
    have hearlier : (spare c brittle₀).good (past ++ es.map (place, ·)) :=
      ⟨fun x hx => good.1 x (List.mem_append_left _ hx),
        fun hb => shields_of_append (good.2 hb)⟩
    obtain ⟨hq, ⟨hsame, hes⟩ | ⟨hstep, hes⟩⟩ := hp.step? h hunserved
    · -- the call is refused, and nothing happens without it
      have hnone := Event.filter_eq_nil hes
      have hflags := spare_flags place es flags
      rw [hnone] at hflags
      obtain ⟨hr', hrest⟩ := ih hq (by simpa [noisy] using hflags) rfl good
      refine ⟨hr', ?_⟩
      rw [List.filter_append, hnone, List.nil_append, ← hsame]
      exact hrest
    · have hall := Event.filter_eq_self hes
      have hstep' : (p.dismiss c).step? ⟨now, brittle'⟩ = some (q.dismiss c, es) := by
        rcases spare_agree flags hearlier hes with rfl | hquiet
        · exact hstep
        · exact Pool.step?_of_quiet hstep hquiet rfl
      have hflags := spare_flags place es flags
      rw [hall] at hflags
      obtain ⟨hr', hrest⟩ := ih hq hflags rfl good
      refine ⟨hr', ?_⟩
      rw [List.filter_append, hall, Pool.settle_of_step? hstep']
      have hafter : (⟨now, brittle'⟩ : Moment).after es = ⟨now, brittle' && !noisy es⟩ := rfl
      rw [hafter, hrest]

/-- What is done to a pool may be done without the call to its counterpart. -/
lemma keepsAt_spare {i : Nat} {p : Pool α} {x : Pool.Turn α}
    (hx : p.Spares c → ∀ m, (x.act m p).1.Spares c ∧
      x.act m (p.dismiss c) = ((x.act m p).1.dismiss c, (x.act m p).2) ∧
        ∀ e ∈ (x.act m p).2, e.belongs c = false) : (spare c brittle₀).KeepsAt i p x := by
  rintro past now brittle brittle' _ ⟨rfl, hp⟩ flags good
  obtain ⟨hafter, -, hes⟩ := hx hp ⟨now, brittle⟩
  obtain ⟨-, hsame, -⟩ := hx hp ⟨now, brittle'⟩
  have heq : x.act ⟨now, brittle'⟩ p = x.act ⟨now, brittle⟩ p :=
    spare_same (f := fun m p => x.act m p) flags good hes fun hquiet _ =>
      Pool.Turn.act_of_quiet hquiet _
  rw [hsame, heq]
  exact spare_goes ⟨rfl, hafter⟩ (Event.filter_eq_self hes).symm flags

/-- **The end of a handle** may come if the call does not wait on the pool. -/
theorem keepsAt_drop_spare {i : Nat} {p : Pool α}
    (hnone : c ∉ p.submitting.filterMap (·.caller) ++ p.receiving.filterMap (·.caller)) :
    (spare c brittle₀).KeepsAt i p .drop :=
  keepsAt_spare fun hp m => hp.act_drop hnone m

/-! ### Batches -/

/-- What is done to batches that have nothing to do with the call is the same in both scenes. -/
lemma keeps_batch_spare {f : Moment → Batch α → Batch α × List (Event α)}
    (foreign : ∀ m b, b.Foreign c → (f m b).1.Foreign c ∧ ∀ e ∈ (f m b).2, e.belongs c = false)
    (quiet : ∀ {m m' x}, noisy (f m x).2 = false → m'.now = m.now → f m' x = f m x) :
    (spare c brittle₀).Keeps (spare c brittle₀).batch .batch f f := by
  rintro i past now brittle brittle' _ b ⟨rfl, hb⟩ flags good
  obtain ⟨hafter, hes⟩ := foreign ⟨now, brittle⟩ b hb
  rw [spare_same flags good hes quiet]
  exact spare_goes ⟨rfl, hafter⟩ (Event.filter_eq_self hes).symm flags

/-! ### Scenes -/

/-- Other calls wait with and without the call. -/
lemma mem_waiting_dismiss {p : Pool α} {call : Nat} (hcall : call ≠ c) :
    call ∈ (p.dismiss c).submitting.filterMap (·.caller) ++
        (p.dismiss c).receiving.filterMap (·.caller) ↔
      call ∈ p.submitting.filterMap (·.caller) ++ p.receiving.filterMap (·.caller) := by
  have other : ∀ o : Option Nat, o = some call → (o != some c) = true := fun o ho => by
    simp [ho, hcall]
  simp only [List.mem_append, List.mem_filterMap, Pool.dismiss, Pool.withdraw, List.mem_filter]
  constructor
  · rintro (⟨s, hs, hc⟩ | ⟨r, hr, hc⟩)
    · exact .inl ⟨s, hs.1, hc⟩
    · exact .inr ⟨r, hr.1, hc⟩
  · rintro (⟨s, hs, hc⟩ | ⟨r, hr, hc⟩)
    · exact .inl ⟨s, ⟨hs, other _ hc⟩, hc⟩
    · exact .inr ⟨r, ⟨hr, other _ hc⟩, hc⟩

/-- **Whatever scenes do by themselves keeps this accord.** -/
theorem lawful_spare : (spare c brittle₀ : Accord α).Lawful where
  good_of_append h := ⟨fun x hx => h.1 x (List.mem_append_left _ hx),
    fun hb => shields_of_append (h.2 hb)⟩
  quiet {past brittle brittle' es} h hes := by
    obtain ⟨rfl, rfl⟩ := h
    exact ⟨by rw [List.map_append, noisy_append, hes, Bool.or_false],
      by rw [others_append, List.map_append, noisy_append, noisy_others hes, Bool.or_false]⟩
  pool_view h := by
    obtain ⟨rfl, -⟩ := h
    exact ⟨rfl, rfl⟩
  batch_view h := by
    obtain ⟨rfl, -⟩ := h
    exact ⟨rfl, rfl, rfl, rfl, rfl⟩
  settle_pool := by
    rintro i past now brittle brittle' p _ ⟨rfl, hp⟩ flags good
    obtain ⟨hafter, hsettle⟩ := hp.settle flags good
    rw [hsettle]
    exact spare_goes ⟨rfl, hafter⟩ rfl flags
  settle_batch := keeps_batch_spare (fun m b hb => hb.settle m) Batch.settle_of_quiet
  turn hx := fun i past now brittle brittle' p q hpq flags good =>
    keepsAt_spare (fun hp m => hp.act hx m) hpq flags good
  finish _ := trivial
  finish_batch id := keeps_batch_spare (fun _ b hb => hb.finish id) fun _ _ => rfl
  follow := trivial
  follow_batch := keeps_batch_spare (fun _ b hb => ⟨hb.follow, by simp⟩) fun _ _ => rfl
  awaits h hcall := by
    obtain ⟨rfl, -⟩ := h
    exact mem_waiting_dismiss hcall
  abandon_batch {call} _ := keeps_batch_spare (fun _ b hb => hb.giveUp call) fun _ _ => rfl
  fresh i n hn child cancelled := ⟨rfl, ⟨.inl rfl, by simp [Pool.fresh], by simp [Pool.fresh],
    by simp [Pool.fresh]⟩⟩
  seen_append h h' := by
    obtain rfl := h
    obtain rfl := h'
    exact (others_append _ _).symm
  seen_refl h := (others_eq_self fun x hx => (h x hx).belongs_eq).symm

/-- **Another call begins a batch** in both scenes, or cannot in either. -/
theorem begins_spare {call : Nat} {tasks : List (Task α)} (hcall : call ≠ c)
    (named : ∀ t ∈ tasks, t.id.call = call) :
    (spare c brittle₀ : Accord α).Begins call tasks where
  initial i now n hn admission parent := ⟨rfl, .initial hcall named admission parent⟩
  unbegun {i past now brittle brittle'} flags good := by
    have hes : ∀ m : Moment, ∀ e ∈ Accord.unbegun m call tasks, e.belongs c = false := by
      intro m e he
      rcases List.mem_append.1 he with he | he
      · obtain ⟨t, ht, rfl⟩ := List.mem_map.1 he
        simp [Event.belongs, named t ht, hcall]
      · rw [List.mem_singleton.1 he]
        rfl
    have hquiet : ∀ {m m' : Moment} {x : Unit}, noisy (Accord.unbegun m call tasks) = false →
        m'.now = m.now → (x, Accord.unbegun m' call tasks) = (x, Accord.unbegun m call tasks) := by
      intro m m' x hquiet _
      have hfrail : tasks.any (·.frail) = false := by
        rw [Accord.unbegun, noisy_append, noisy_discards, Bool.or_eq_false_iff] at hquiet
        exact hquiet.1
      simp only [Accord.unbegun, Moment.any_breaks, hfrail, Bool.and_false]
    have hsame := spare_same (f := fun m (x : Unit) => (x, Accord.unbegun m call tasks)) (x := ())
      flags good (hes _) hquiet
    rw [hsame]
    exact spare_goes trivial (Event.filter_eq_self (hes _)).symm flags

end

end Workforce
