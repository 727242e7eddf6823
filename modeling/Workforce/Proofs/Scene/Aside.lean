import Workforce.Proofs.Scene.Deed
import Workforce.Proofs.Scene.Tick
/-!
# A scene as seen from one pool

Whatever is done in a scene does something to the pool at an index, and something aside from it. The
only thing done aside that the pool can tell is the discard of a frail task: after that, discards do
not panic any more. What a command does to the pool can be told from the pool alone.

## Main definitions

* `Workforce.strays`, `Workforce.strayFirst` — a frail task is discarded elsewhere than at the pool,
  or the first one is.
* `Workforce.Scene.Does` — what is done to the pool at an index.
* `Workforce.Scene.Alone` — no other pool of the scene has a task, and there are no batches.

## Main results

* `Workforce.Scene.Does.settle`, `Does.finish`, `Does.order` — what is done when a scene settles, by
  the end of a task and by a command.
* `Workforce.Scene.act_turn_singleton`, `Does.exists_mild` — what a command does to the pool can be
  told from the pool, the number of pools and the parent.
* `Workforce.Scene.Alone.settle`, `Alone.finish`, `Alone.order` — a pool stays alone.
-/

namespace Workforce

open Occurrence Trail History

variable {α : Type}

/-! ## Aside from one pool -/

/-- A frail task is discarded elsewhere than at the pool of that index. -/
def strays (i : Nat) (es : List (Entry α)) : Bool :=
  es.any fun x => x.1 != .pool i && x.2.isFrailDiscard

@[simp] lemma strays_append (i : Nat) (es fs : List (Entry α)) :
    strays i (es ++ fs) = (strays i es || strays i fs) :=
  List.any_append

/-- Frail tasks are discarded at the pool or elsewhere. -/
lemma noisy_map_snd (i : Nat) (es : List (Entry α)) :
    noisy (es.map Prod.snd) = (noisy (eventsAt (.pool i) es) || strays i es) := by
  induction es with
  | nil => rfl
  | cons x es ih =>
    have hcons : eventsAt (.pool i) (x :: es) = eventsAt (.pool i) [x] ++ eventsAt (.pool i) es :=
      eventsAt_append _ [x] es
    have hstrays : strays i (x :: es) = (strays i [x] || strays i es) := strays_append i [x] es
    rw [List.map_cons, noisy_cons, ih, hcons, hstrays, noisy_append]
    have hone : x.2.isFrailDiscard = (noisy (eventsAt (.pool i) [x]) || strays i [x]) := by
      by_cases hx : x.1 = .pool i <;> simp [eventsAt, strays, noisy, hx]
    rw [hone]
    ac_rfl

/-- None is discarded elsewhere if no event elsewhere is such a discard. -/
lemma strays_eq_false {i : Nat} {es : List (Entry α)}
    (h : ∀ x ∈ es, x.1 ≠ .pool i → x.2.isFrailDiscard = false) : strays i es = false := by
  refine List.any_eq_false.2 fun x hx => ?_
  by_cases hplace : x.1 = .pool i
  · simp [hplace]
  · simp [h x hx hplace]

/-- The first frail task that is discarded is discarded elsewhere. -/
def strayFirst (i : Nat) (es : List (Entry α)) : Bool :=
  (es.find? (·.2.isFrailDiscard)).any (·.1 != .pool i)

/-- What comes later counts if no frail task has been discarded yet. -/
lemma strayFirst_append (i : Nat) (es fs : List (Entry α)) : strayFirst i (es ++ fs) =
    (strayFirst i es || (!noisy (es.map Prod.snd) && strayFirst i fs)) := by
  rw [strayFirst, List.find?_append, strayFirst, strayFirst]
  cases h : es.find? (·.2.isFrailDiscard) with
  | none =>
    have hquiet : noisy (es.map Prod.snd) = false := by
      rw [noisy, List.any_map, List.any_eq_false]
      exact fun x hx => by simpa using List.find?_eq_none.1 h x hx
    simp [hquiet]
  | some x =>
    have hloud : noisy (es.map Prod.snd) = true := by
      rw [noisy, List.any_map, List.any_eq_true]
      exact ⟨x, List.mem_of_find?_eq_some h, by simpa using List.find?_some h⟩
    simp [hloud]

/-- If none is discarded elsewhere, the first one is not. -/
lemma strayFirst_eq_false {i : Nat} {es : List (Entry α)} (h : strays i es = false) :
    strayFirst i es = false := by
  rw [strayFirst]
  cases hfind : es.find? (·.2.isFrailDiscard) with
  | none => rfl
  | some x =>
    have hx := List.any_eq_false.1 h x (List.mem_of_find?_eq_some hfind)
    have hfrail : x.2.isFrailDiscard = true := by simpa using List.find?_some hfind
    simpa [hfrail] using hx

/-- If some are discarded and none at the pool, the first one is discarded elsewhere. -/
lemma strayFirst_eq_noisy {i : Nat} {es : List (Entry α)}
    (h : noisy (eventsAt (.pool i) es) = false) : strayFirst i es = noisy (es.map Prod.snd) := by
  rw [strayFirst, noisy, List.any_map]
  cases hfind : es.find? (·.2.isFrailDiscard) with
  | none =>
    refine (List.any_eq_false.2 fun x hx => ?_).symm
    simpa using List.find?_eq_none.1 hfind x hx
  | some x =>
    have hmem := List.mem_of_find?_eq_some hfind
    have hfrail : x.2.isFrailDiscard = true := by simpa using List.find?_some hfind
    have hany : es.any (Event.isFrailDiscard ∘ Prod.snd) = true :=
      List.any_eq_true.2 ⟨x, hmem, hfrail⟩
    have hplace : x.1 ≠ .pool i := fun heq => by
      have hat : x.2 ∈ eventsAt (.pool i) es :=
        List.mem_filterMap.2 ⟨x, hmem, by simp [heq]⟩
      exact absurd hfrail (List.any_eq_false.1 h _ hat)
    rw [hany]
    simpa using hplace

/-- Whether the first one is discarded elsewhere, if what comes before happens elsewhere. -/
lemma strayFirst_split {i : Nat} {before after : List (Entry α)} {es : List (Event α)}
    (h : ∀ x ∈ before, x.1 ≠ .pool i)
    (loud : noisy (before.map Prod.snd) = true ∨ noisy es = true) :
    strayFirst i (before ++ es.map (Place.pool i, ·) ++ after) = noisy (before.map Prod.snd) := by
  have hbefore : strayFirst i before = noisy (before.map Prod.snd) :=
    strayFirst_eq_noisy (by rw [eventsAt_eq_nil h]; rfl)
  have here : strayFirst i (es.map (Place.pool i, ·)) = false :=
    strayFirst_eq_false (strays_eq_false fun x hx hne => by
      obtain ⟨e, -, rfl⟩ := List.mem_map.1 hx
      exact absurd rfl hne)
  have hes : noisy ((es.map (Place.pool i, ·)).map Prod.snd) = noisy es := by
    simp [Function.comp_def]
  rw [List.append_assoc, strayFirst_append, strayFirst_append, hbefore, here, hes]
  rcases loud with h | h <;> simp [h]

/-- The pool that a command is given to. -/
def Command.target? : Command α → Option Nat
  | submit i _ | next i | shutdown i | close i | cancel i | drop i => some i
  | _ => none

namespace Scene

variable {s : Scene α} {i : Nat} {p : Pool α} {d : Deed α}

/-! ## What is done to one pool -/

/-- What is done to the pool at an index. Discards panic there unless they did not before or a frail
task is discarded elsewhere first. -/
structure Does (i : Nat) (d : Deed α) (s : Scene α) (r : Scene α × List (Entry α)) : Prop where
  place : (r.1.pools[i]?, eventsAt (.pool i) r.2) =
    d ⟨s.now, s.brittle && !strayFirst i r.2⟩ s.pools[i]?
  brittle : r.1.brittle = (s.brittle && !noisy (r.2.map Prod.snd))

/-- It is a matter of the pool that is there. -/
lemma Does.congr {f g : Moment → Pool α → Pool α × List (Event α)}
    {r : Scene α × List (Entry α)} (h : s.Does i (.toPool f) r)
    (heq : ∀ p, s.pools[i]? = some p → ∀ m, f m p = g m p) : s.Does i (.toPool g) r := by
  refine ⟨h.place.trans ?_, h.brittle⟩
  cases hp : s.pools[i]? with
  | none => rfl
  | some p => simp only [Deed.toPool, heq p hp]

/-- If nothing is done to the pool that is there, nothing is done. -/
lemma Does.to_still {f : Moment → Pool α → Pool α × List (Event α)}
    {r : Scene α × List (Entry α)} (h : s.Does i (.toPool f) r)
    (heq : ∀ p, s.pools[i]? = some p → ∀ m, f m p = (p, [])) : s.Does i .still r := by
  refine ⟨h.place.trans ?_, h.brittle⟩
  cases hp : s.pools[i]? with
  | none => rfl
  | some p => simp only [Deed.toPool, Deed.still, heq p hp]

/-! ## What happens everywhere -/

/-- What is reported of a sweep is reported of a component, at its place. -/
lemma exists_of_mem_entries_sweep {σ : Type} {place : Nat → Place}
    {f : Bool → σ → σ × List (Event α)} {brittle : Bool} {xs : List σ} {x : Entry α}
    (hx : x ∈ entries place (sweep f brittle xs)) :
    ∃ j y b, xs[j]? = some y ∧ x.1 = place j ∧ x.2 ∈ (f b y).2 := by
  obtain ⟨⟨r, j⟩, hr, hmem⟩ := List.mem_flatMap.1 hx
  obtain ⟨e, he, rfl⟩ := List.mem_map.1 hmem
  have hr : (sweep f brittle xs)[j]? = some r := List.mem_zipIdx_iff_getElem?.1 hr
  have hlt : j < xs.length := length_sweep f brittle xs ▸ (List.getElem?_eq_some_iff.1 hr).1
  have hy := List.getElem?_eq_getElem hlt
  have hchange := getElem?_sweep f brittle hy
  cases hr.symm.trans hchange
  exact ⟨j, _, _, hy, rfl, he⟩

/-- Where something happens in a change everywhere, a pool or a batch is changed. -/
lemma mem_everywhere {f : Moment → Pool α → Pool α × List (Event α)}
    {g : Moment → Batch α → Batch α × List (Event α)} {x : Entry α}
    (hx : x ∈ (s.everywhere f g).2) :
    (∃ j p b, s.pools[j]? = some p ∧ x.1 = .pool j ∧ x.2 ∈ (f ⟨s.now, b⟩ p).2) ∨
      ∃ j c b, s.batches[j]? = some c ∧ x.1 = .batch j ∧ x.2 ∈ (g ⟨s.now, b⟩ c).2 :=
  (List.mem_append.1 hx).imp exists_of_mem_entries_sweep exists_of_mem_entries_sweep

/-- A sweep changes nothing if no component changes. -/
lemma sweep_eq_self {σ : Type} {f : Bool → σ → σ × List (Event α)} {xs : List σ}
    (h : ∀ b, ∀ x ∈ xs, f b x = (x, [])) (brittle : Bool) :
    sweep f brittle xs = xs.map (·, []) := by
  induction xs generalizing brittle with
  | nil => rfl
  | cons x xs ih =>
    have hrest := ih (fun b y hy => h b y (List.mem_cons_of_mem x hy))
    rw [sweep, hrest, h brittle x List.mem_cons_self, List.map_cons]

/-- Nothing is reported of components that do not change. -/
lemma entries_eq_nil {σ : Type} (place : Nat → Place) (xs : List σ) :
    entries place (xs.map fun x => (x, ([] : List (Event α)))) = [] := by
  refine List.flatMap_eq_nil_iff.2 fun ⟨r, j⟩ hx => ?_
  obtain ⟨y, -, rfl⟩ := List.mem_map.1 (List.fst_mem_of_mem_zipIdx hx)
  rfl

/-- A change everywhere that changes no component changes nothing. -/
lemma everywhere_eq_self {f : Moment → Pool α → Pool α × List (Event α)}
    {g : Moment → Batch α → Batch α × List (Event α)}
    (hf : ∀ b, ∀ p ∈ s.pools, f ⟨s.now, b⟩ p = (p, []))
    (hg : ∀ b, ∀ c ∈ s.batches, g ⟨s.now, b⟩ c = (c, [])) : s.everywhere f g = (s, []) := by
  have hpools := fun brittle => sweep_eq_self (f := fun b => f ⟨s.now, b⟩) hf brittle
  have hbatches := fun brittle => sweep_eq_self (f := fun b => g ⟨s.now, b⟩) hg brittle
  have hfst : ∀ {σ : Type} (xs : List σ),
      (xs.map fun x => (x, ([] : List (Event α)))).map Prod.fst = xs := fun xs => by
    simp [Function.comp_def]
  simp only [everywhere, after, hpools, hbatches, entries_eq_nil, hfst, List.any_nil,
    Bool.not_false, Bool.and_true, List.append_nil]

/-- A sweep changes only one component if the others do not change. -/
lemma sweep_of_others {σ : Type} {f : Bool → σ → σ × List (Event α)} {xs : List σ} {i : Nat} {x : σ}
    (hx : xs[i]? = some x) (others : ∀ j y, xs[j]? = some y → j ≠ i → ∀ b, f b y = (y, []))
    (brittle : Bool) : sweep f brittle xs = (xs.map (·, [])).set i (f brittle x) := by
  induction xs generalizing i brittle with
  | nil => cases hx
  | cons y ys ih =>
    cases i with
    | zero =>
      cases hx
      have hrest : ∀ b, ∀ z ∈ ys, f b z = (z, []) := fun b z hz => by
        obtain ⟨j, hj⟩ := List.mem_iff_getElem?.1 hz
        exact others (j + 1) z hj (Nat.succ_ne_zero j) b
      rw [sweep, sweep_eq_self hrest]
      rfl
    | succ i =>
      have hfirst := others 0 y rfl (Nat.succ_ne_zero i).symm brittle
      have hrest :=
        ih hx (fun j z hz hj => others (j + 1) z hz fun h => hj (Nat.succ.inj h)) brittle
      rw [sweep, hfirst, List.any_nil, Bool.not_false, Bool.and_true, hrest]
      rfl

/-- Only that one is reported of then. -/
lemma entries_of_others {σ : Type} (place : Nat → Place) {xs : List σ} {i : Nat}
    (hi : i < xs.length) (r : σ × List (Event α)) :
    entries place ((xs.map fun x => (x, ([] : List (Event α)))).set i r) =
      r.2.map (place i, ·) := by
  have hentries : ∀ ys : List (σ × List (Event α)),
      entries place ys = ys.zipIdx.flatMap fun x => x.1.2.map (place x.2, ·) := fun _ => rfl
  have silent : ∀ (ys : List σ) (n : Nat), ((ys.map fun x => (x, ([] : List (Event α)))).zipIdx n
      ).flatMap (fun x => x.1.2.map (place x.2, ·)) = [] := fun ys n => by
    refine List.flatMap_eq_nil_iff.2 fun x hx => ?_
    obtain ⟨y, -, hy⟩ := List.mem_map.1 (List.fst_mem_of_mem_zipIdx hx)
    rw [← hy, List.map_nil]
  rw [List.set_eq_take_append_cons_drop, if_pos (by simpa using hi), ← List.map_take,
    ← List.map_drop, hentries, List.zipIdx_append, List.flatMap_append, List.zipIdx_cons,
    List.flatMap_cons]
  rw [silent, silent]
  simp [Nat.min_eq_left (Nat.le_of_lt hi)]

/-- A change everywhere that changes one batch only. -/
lemma everywhere_of_others {f : Moment → Pool α → Pool α × List (Event α)}
    {g : Moment → Batch α → Batch α × List (Event α)} {b : Batch α} (hb : s.batches[i]? = some b)
    (pools : ∀ brittle, ∀ p ∈ s.pools, f ⟨s.now, brittle⟩ p = (p, []))
    (others : ∀ j c, s.batches[j]? = some c → j ≠ i →
      ∀ brittle, g ⟨s.now, brittle⟩ c = (c, [])) :
    s.everywhere f g =
      (s.putBatch i (g s.moment b), (g s.moment b).2.map (Place.batch i, ·)) := by
  have hpools := sweep_eq_self (f := fun b => f ⟨s.now, b⟩) pools s.brittle
  have hbatches := sweep_of_others (f := fun b => g ⟨s.now, b⟩) hb others s.brittle
  have hfst : ∀ {σ : Type} (xs : List σ),
      (xs.map fun x => (x, ([] : List (Event α)))).map Prod.fst = xs := fun xs => by
    simp [Function.comp_def]
  have hlt : i < s.batches.length := (List.getElem?_eq_some_iff.1 hb).1
  simp only [everywhere, after, hpools, entries_eq_nil, hfst, List.any_nil, Bool.not_false,
    Bool.and_true, hbatches, entries_of_others _ hlt, List.map_set, List.nil_append]
  rfl

/-- A scene in which nothing can move stays as it is. -/
lemma settle_eq_self (settled : Stage.Settled ⟨0, s⟩) : s.settle = (s, []) :=
  everywhere_eq_self
    (fun _ p hp => Pool.settle_eq_self ((Pool.step?_eq_none_congr _ _ p).1 (settled.1 p hp)))
    fun b c hc => by
      have now : s.moment.now = (⟨s.now, b⟩ : Moment).now := rfl
      have hnone := (Batch.step?_eq_none_congr now).1 (settled.2 c hc)
      rw [Batch.settle]
      split
      · rfl
      · next heq => cases hnone.symm.trans heq

/-- Where there is no pool nothing happens. -/
lemma everywhere_pool_of_none (f : Moment → Pool α → Pool α × List (Event α))
    (g : Moment → Batch α → Batch α × List (Event α)) (hnone : s.pools[i]? = none) :
    (s.everywhere f g).1.pools[i]? = none ∧ eventsAt (.pool i) (s.everywhere f g).2 = [] := by
  constructor
  · have hlen : (s.everywhere f g).1.pools.length = s.pools.length := by
      simp only [everywhere, after, List.length_map, length_sweep]
    exact List.getElem?_eq_none_iff.2 (hlen ▸ List.getElem?_eq_none_iff.1 hnone)
  · refine eventsAt_eq_nil fun x hx hplace => ?_
    rcases mem_everywhere hx with ⟨j, p, b, hp, hj, -⟩ | ⟨j, c, b, -, hj, -⟩
    · cases hplace.symm.trans hj
      rw [hnone] at hp
      cases hp
    · cases hplace.symm.trans hj

/-- Discards panic afterwards if they did before and no frail task has been discarded. -/
lemma brittle_everywhere (f : Moment → Pool α → Pool α × List (Event α))
    (g : Moment → Batch α → Batch α × List (Event α)) (s : Scene α) :
    (s.everywhere f g).1.brittle =
      (s.brittle && !noisy ((s.everywhere f g).2.map Prod.snd)) := by
  simp [everywhere, after, noisy, List.any_map, Function.comp_def, Bool.and_assoc]

/-- **What is done to a pool when the scene settles**: it settles. -/
theorem Does.settle (i : Nat) (s : Scene α) : s.Does i (.toPool Pool.settle) s.settle := by
  refine ⟨?_, brittle_everywhere _ _ s⟩
  cases hp : s.pools[i]? with
  | none =>
    obtain ⟨hpool, hevents⟩ := everywhere_pool_of_none Pool.settle Batch.settle hp
    exact Prod.ext hpool hevents
  | some p =>
    obtain ⟨stray, ⟨hpool, htrail⟩, before, after, hsplit, hstray, hplace⟩ := settle_pool hp
    have hevents := eventsAt_events _ _ htrail
    rw [events_ofEntries] at hevents
    have hsame : p.settle ⟨s.now, s.brittle && !strayFirst i s.settle.2⟩ =
        p.settle ⟨s.now, s.brittle && !stray⟩ := by
      have hbefore : noisy (before.map Prod.snd) = stray := by
        rw [← hstray, noisy, List.any_map]
        rfl
      by_cases loud : noisy (before.map Prod.snd) = true ∨
          noisy (p.settle ⟨s.now, s.brittle && !stray⟩).2 = true
      · rw [hsplit, strayFirst_split hplace loud, hbefore]
      · have hquiet := (not_or.1 loud).2
        exact Pool.settle_of_quiet (by simpa using hquiet) rfl
    simp only [Deed.toPool, hsame]
    exact Prod.ext hpool hevents

/-- **What is done to a pool by the end of a task.** -/
theorem Does.finish (i : Nat) (s : Scene α) (id : TaskId) :
    s.Does i (.toPool fun _ => Pool.finish id) (s.finish id) := by
  refine ⟨?_, brittle_everywhere _ _ s⟩
  cases hp : s.pools[i]? with
  | none =>
    obtain ⟨hpool, hevents⟩ := everywhere_pool_of_none (fun _ => Pool.finish id)
      (fun _ => Batch.finish id) hp
    exact Prod.ext hpool hevents
  | some p =>
    obtain ⟨hpool, htrail⟩ := everywhere_pool hp (Pool.finish id) (Batch.finish id)
    have hevents := eventsAt_events _ _ htrail
    rw [events_ofEntries] at hevents
    exact Prod.ext hpool hevents

/-! ## Commands -/

/-- Discards panic after a command if they did before and no frail task has been discarded. -/
lemma brittle_order (call : Nat) (s : Scene α) (c : Command α) :
    (s.order call c).1.brittle =
      (s.brittle && !noisy ((events (s.order call c).2).map Prod.snd)) := by
  have same : s.brittle = (s.brittle && !noisy ((events []).map Prod.snd : List (Event α))) :=
    (Bool.and_true _).symm
  have visit : ∀ (j : Nat) (before after : Trail α)
      (f : Moment → Pool α → Pool α × List (Event α)),
      events (ofTrail (.pool j) before) = [] → events (ofTrail (.pool j) after) = [] →
      (s.visit j before after f).1.brittle =
        (s.brittle && !noisy ((events (s.visit j before after f).2).map Prod.snd)) := by
    intro j before after f hbefore hafter
    cases hp : s.pool? j with
    | none =>
      rw [Scene.visit, hp]
      exact same
    | some p =>
      obtain ⟨hvisit, hevents⟩ := Stage.events_visit (f := f) hbefore hafter hp
      rw [hevents, hvisit]
      dsimp only
      unfold atPool
      split
      · exact same
      · simp [Scene.after, noisy, Function.comp_def]
  cases c with
  | newPool size child =>
    simp only [order, events_ofEntries]
    rcases newPool_cases size child s with heq | ⟨hn, heq⟩
    · rw [heq]
      exact same
    · rw [heq]
      simp [noisy, Pool.opening, Event.isFrailDiscard]
  | submit j task => exact visit j _ _ _ rfl rfl
  | next j => exact visit j _ _ _ rfl rfl
  | shutdown j => exact visit j _ _ _ rfl rfl
  | close j => exact visit j _ _ _ rfl rfl
  | cancel j => exact visit j _ _ _ rfl rfl
  | drop j => exact visit j _ _ _ rfl rfl
  | batch size tasks admission =>
    have hevents : events ((Place.batch s.batches.length, batched call tasks) ::
        ofEntries (s.newBatch call size tasks admission).2) =
          (s.newBatch call size tasks admission).2 := events_ofEntries _
    simp only [order, hevents]
    unfold newBatch
    dsimp only
    split
    · exact same
    · simp [noisy, Pool.opening, Event.isFrailDiscard]
    · simp [after, noisy, List.any_map, Function.comp_def]
  | cancelParent =>
    simp only [order, events_ofEntries]
    exact brittle_everywhere _ _ { s with parentCancelled := true }
  | abandon c =>
    by_cases hc : s.pendingCalls.contains c = true
    · rw [Stage.events_abandon call c s hc, order, if_pos hc]
      have hbrittle : (s.abandon c).1.brittle =
          (s.brittle && !noisy ((s.abandon c).2.map Prod.snd)) := brittle_everywhere _ _ s
      exact hbrittle
    · rw [order, if_neg hc]
      exact same
  | release name =>
    cases hfind : s.runs.find? (·.task.id.text == name) with
    | none =>
      simp only [order, hfind]
      exact same
    | some r =>
      simp only [order, hfind, events_ofEntries]
      exact brittle_everywhere _ _ s
  | _ => exact same

/-- A task is handed in to a pool by the command that does so. -/
lemma eq_submit_of_turn {call k : Nat} {task : Task α} {c : Command α}
    (h : c.turn call s i p = .submit k task) : c = .submit i task := by
  have aimed : ∀ {j : Nat} {x : Pool.Turn α}, Pool.Turn.aimed i j p x = .submit k task →
      j = i ∧ x = .submit k task := by
    intro j x hx
    unfold Pool.Turn.aimed at hx
    split at hx
    · next hwhy => exact ⟨hwhy.1, hx⟩
    · cases hx
  cases c with
  | submit j t =>
    obtain ⟨rfl, heq⟩ := aimed h
    cases heq
    rfl
  | next | shutdown | close | cancel | drop => cases (aimed h).2
  | abandon c =>
    simp only [Command.turn] at h
    split at h <;> cases h
  | release name =>
    simp only [Command.turn] at h
    split at h <;> cases h
  | _ => cases h

/-- **What is done to a pool by a command** that does not make a pool: it is the turn of the
pool. -/
theorem Does.order (i call : Nat) (s : Scene α) {c : Command α}
    (hc : ∀ size child, c ≠ .newPool size child) :
    s.Does i (.toPool fun m p => (c.turn call s i p).act m p)
      (s.immediate (.order call c)) := by
  refine ⟨?_, brittle_order call s c⟩
  show ((s.order call c).1.pools[i]?, eventsAt _ (events (s.order call c).2)) = _
  rw [eventsAt_eq_collect]
  cases hp : s.pools[i]? with
  | none =>
    have hlen := (length_order call s c).1 hc
    have hpool : (s.order call c).1.pools[i]? = none :=
      List.getElem?_eq_none_iff.2 (hlen ▸ List.getElem?_eq_none_iff.1 hp)
    rcases (Changes.order call s c).pool_of_none hp with ⟨-, htrail⟩ |
      ⟨n, hn, child, cancelled, q, os, hq, -⟩
    · rw [hpool, htrail]
      rfl
    · rw [hpool] at hq
      cases hq
  | some p =>
    obtain ⟨hpool, htrail⟩ := order_pool hp call c
    have hmoment : (c.turn call s i p).act
        ⟨s.now, s.brittle && !strayFirst i (events (s.order call c).2)⟩ p =
          (c.turn call s i p).act s.moment p := by
      by_cases hsubmit : ∃ task, c = .submit i task
      · obtain ⟨task, rfl⟩ := hsubmit
        have hfirst : strayFirst i (events (s.order call (.submit i task)).2) = false :=
          strayFirst_eq_false (strays_eq_false fun x hx hne => by
            obtain ⟨o, ho⟩ := exists_mem_of_mem_events hx
            exact absurd ((visit_frame i _ _ _ s).2.2 _ ho) hne)
        rw [hfirst, Bool.not_false, Bool.and_true]
        rfl
      · exact Pool.Turn.act_congr (fun k task heq => hsubmit ⟨task, eq_submit_of_turn heq⟩) _ _ p
    rw [hpool, htrail]
    exact congrArg (fun r : Pool α × List (Event α) => (some r.1, r.2)) hmoment.symm

/-! ## Commands as seen from one pool -/

/-- Nothing is given up by a call that nobody waits for. -/
lemma withdraw_eq_self {c : Nat}
    (h : c ∉ p.submitting.filterMap (·.caller) ++ p.receiving.filterMap (·.caller)) :
    p.withdraw c = (p, []) := by
  obtain ⟨hsub, hrec⟩ := not_or.1 (fun hmem => h (List.mem_append.2 hmem))
  have hsub : ∀ x ∈ p.submitting, x.caller ≠ some c := fun x hx hc =>
    hsub (List.mem_filterMap.2 ⟨x, hx, hc⟩)
  have hrec : ∀ x ∈ p.receiving, x.caller ≠ some c := fun x hx hc =>
    hrec (List.mem_filterMap.2 ⟨x, hx, hc⟩)
  have hnone : p.submitting.filter (·.caller == some c) = [] :=
    List.filter_eq_nil_iff.2 fun x hx => by simp [hsub x hx]
  have hall : p.submitting.filter (·.caller != some c) = p.submitting :=
    List.filter_eq_self.2 fun x hx => by simp [hsub x hx]
  have hall' : p.receiving.filter (·.caller != some c) = p.receiving :=
    List.filter_eq_self.2 fun x hx => by simp [hrec x hx]
  rw [Pool.withdraw, hnone, hall, hall']
  rfl

/-- Nothing ends that does not run. -/
lemma finish_eq_self {id : TaskId} (h : ∀ r ∈ p.running, r.task.id ≠ id) :
    p.finish id = (p, []) := by
  have hnone : p.running.find? (·.task.id == id) = none :=
    List.find?_eq_none.2 fun r hr => by simp [h r hr]
  rw [Pool.finish, Pool.finish?, hnone]
  rfl

/-- The runs of a pool that is alone. -/
lemma runs_singleton (p : Pool α) : ({ pools := [p] } : Scene α).runs = p.running := by
  simp [runs]

/-- The calls that wait on a pool that is alone. -/
lemma pendingCalls_singleton (p : Pool α) : ({ pools := [p] } : Scene α).pendingCalls =
    p.submitting.filterMap (·.caller) ++ p.receiving.filterMap (·.caller) := by
  simp [pendingCalls]

/-- The runs of a pool are runs of the scene. -/
lemma mem_runs_of_pool (hp : s.pools[i]? = some p) {r : Run α} (hr : r ∈ p.running) :
    r ∈ s.runs :=
  List.mem_append_left _ (List.mem_flatMap.2 ⟨p, List.mem_of_getElem? hp, hr⟩)

/-- **What a command does to a pool can be told from the pool alone**: it would do the same if there
were nothing else in the scene. -/
theorem act_turn_singleton (hp : s.pools[i]? = some p) (call : Nat) (c : Command α) (m : Moment) :
    (c.turn call s i p).act m p = (c.turn call { pools := [p] } i p).act m p := by
  cases c with
  | abandon c =>
    simp only [Command.turn, pendingCalls_singleton]
    by_cases hwaits : c ∈ p.submitting.filterMap (·.caller) ++ p.receiving.filterMap (·.caller)
    · have hpending : c ∈ s.pendingCalls :=
        List.mem_append_left _ (List.mem_flatMap.2 ⟨p, List.mem_of_getElem? hp, hwaits⟩)
      simp only [List.contains_eq_mem, hpending, hwaits, decide_true, if_true]
    · simp only [List.contains_eq_mem, hwaits, decide_false, Bool.false_eq_true, if_false]
      split
      · rw [Pool.Turn.act_abandon, withdraw_eq_self hwaits]
        rfl
      · rfl
  | release name =>
    simp only [Command.turn, runs_singleton]
    cases hown : p.running.find? (·.task.id.text == name) with
    | none =>
      have hother : ∀ r ∈ p.running, r.task.id.text ≠ name := fun r hr => by
        simpa using List.find?_eq_none.1 hown r hr
      cases hfind : s.runs.find? (·.task.id.text == name) with
      | none => rfl
      | some r =>
        have hr : r.task.id.text = name := by simpa using List.find?_some hfind
        dsimp only
        rw [Pool.Turn.act_finish, finish_eq_self fun q hq hid => hother q hq (hid ▸ hr)]
        rfl
    | some q =>
      have hq : q.task.id.text = name := by simpa using List.find?_some hown
      cases hfind : s.runs.find? (·.task.id.text == name) with
      | none =>
        have hruns := mem_runs_of_pool hp (List.mem_of_find?_eq_some hown)
        exact absurd hq (by simpa using List.find?_eq_none.1 hfind q hruns)
      | some r =>
        have hr : r.task.id.text = name := by simpa using List.find?_some hfind
        dsimp only
        rw [TaskId.text_injective (hr.trans hq.symm)]
  | _ => rfl

/-- **What a command does to the pool at an index** depends, beside the pool that is there, on how
many pools there are and on the parent. -/
theorem Does.exists_mild (i call : Nat) (c : Command α) (n : Nat) (parent : Bool) :
    ∃ d : Deed α, d.Mild ∧ ∀ s : Scene α, s.pools.length = n → s.parentCancelled = parent →
      s.Does i d (s.immediate (.order call c)) := by
  by_cases hc : ∃ size child, c = .newPool size child
  · obtain ⟨size, child, rfl⟩ := hc
    have himmediate : ∀ s : Scene α, s.immediate (.order call (.newPool size child)) =
        (s.newPool size child).2 := fun s => by
      show ((s.newPool size child).2.1, events (ofEntries (s.newPool size child).2.2)) = _
      rw [events_ofEntries]
    have hbrittle := fun s : Scene α => brittle_order call s (.newPool size child)
    rcases Nat.eq_zero_or_pos size with rfl | hn
    · refine ⟨.still, Deed.mild_still, fun s _ _ => ⟨?_, hbrittle s⟩⟩
      rw [himmediate]
      rfl
    · by_cases hi : n = i
      · subst hi
        refine ⟨.put (.fresh size hn child (child && parent)), Deed.mild_put _,
          fun s hlen hparent => ⟨?_, hbrittle s⟩⟩
        rw [himmediate, newPool_of_pos hn, hparent, ← hlen, eventsAt_map]
        exact Prod.ext List.getElem?_concat_length rfl
      · refine ⟨.still, Deed.mild_still, fun s hlen hparent =>
          ⟨?_, hbrittle s⟩⟩
        rw [himmediate, newPool_of_pos hn]
        refine Prod.ext ?_ (eventsAt_eq_nil fun x hx => ?_)
        · have hne : s.pools.length ≠ i := hlen ▸ hi
          rcases Nat.lt_or_gt_of_ne hne with hlt | hlt
          · rw [List.getElem?_eq_none_iff.2 (by simp; omega)]
            exact (List.getElem?_eq_none_iff.2 (Nat.le_of_lt hlt)).symm
          · exact List.getElem?_append_left hlt
        · obtain ⟨e, -, rfl⟩ := List.mem_map.1 hx
          simpa [hlen] using hi
  · refine ⟨_, Deed.mild_turn (x := fun p => c.turn call { pools := [p] } i p) fun p => ?_,
      fun s _ _ => (Does.order i call s fun size child h => hc ⟨size, child, h⟩).congr
        fun p hp m => act_turn_singleton hp call c m⟩
    cases c <;> rfl

/-! ## A pool alone -/

/-- No other pool of the scene has a task, and there are no batches. -/
structure Alone (i : Nat) (s : Scene α) : Prop where
  batches : s.batches = []
  pools : ∀ j p, s.pools[j]? = some p → j ≠ i → p.load = 0

namespace Alone

/-- A change everywhere leaves a pool alone and discards no frail task elsewhere, if that holds of
its effect on a pool without tasks. -/
lemma everywhere (hs : s.Alone i) {f : Moment → Pool α → Pool α × List (Event α)}
    (hf : ∀ m p, p.load = 0 → (f m p).1.load = 0 ∧ noisy (f m p).2 = false)
    (g : Moment → Batch α → Batch α × List (Event α)) :
    (s.everywhere f g).1.Alone i ∧ strays i (s.everywhere f g).2 = false := by
  refine ⟨⟨?_, fun j q hq hj => ?_⟩, strays_eq_false fun x hx hplace => ?_⟩
  · simp [Scene.everywhere, after, hs.batches, sweep]
  · have hlt : j < s.pools.length := by
      have := (List.getElem?_eq_some_iff.1 hq).1
      simpa [Scene.everywhere, after, length_sweep] using this
    have hp := List.getElem?_eq_getElem hlt
    have hsweep := getElem?_sweep (fun b => f ⟨s.now, b⟩) s.brittle hp
    have hq :
        Option.map Prod.fst (sweep (fun b => f ⟨s.now, b⟩) s.brittle s.pools)[j]? = some q := by
      simpa [Scene.everywhere, after] using hq
    rw [hsweep] at hq
    cases hq
    exact (hf _ _ (hs.pools j _ hp hj)).1
  · rcases mem_everywhere hx with ⟨j, p, b, hp, hj, hmem⟩ | ⟨j, c, b, hc, -, -⟩
    · have hne : j ≠ i := fun h => hplace (h ▸ hj)
      have hquiet := (hf ⟨s.now, b⟩ p (hs.pools j p hp hne)).2
      simpa using List.any_eq_false.1 hquiet x.2 hmem
    · rw [hs.batches] at hc
      cases hc

/-- A pool that is alone stays so when the scene settles. -/
lemma settle (hs : s.Alone i) : s.settle.1.Alone i ∧ strays i s.settle.2 = false :=
  hs.everywhere (fun m p hp =>
    ⟨Nat.le_zero.1 (hp ▸ p.load_settle m), p.noisy_settle_of_load hp m⟩) _

/-- It stays so when a task ends. -/
lemma finish (hs : s.Alone i) (id : TaskId) :
    (s.finish id).1.Alone i ∧ strays i (s.finish id).2 = false :=
  hs.everywhere (fun m p hp => by
    have hact := p.load_act hp (x := .finish id) (fun _ _ h => by cases h) m
    rwa [Pool.Turn.act_finish] at hact) _

/-- An action on the pool leaves it alone. -/
lemma visit (hs : s.Alone i) (before after : Trail α)
    (f : Moment → Pool α → Pool α × List (Event α)) :
    (s.visit i before after f).1.Alone i ∧
      strays i (events (s.visit i before after f).2) = false := by
  obtain ⟨hbatches, -, hplace⟩ := visit_frame i before after f s
  refine ⟨⟨hbatches.trans hs.batches, fun k q hq hk => ?_⟩, strays_eq_false fun x hx hne => ?_⟩
  · refine hs.pools k q ?_ hk
    unfold Scene.visit at hq
    split at hq
    · exact hq
    · unfold atPool at hq
      split at hq
      · exact hq
      · exact (List.getElem?_set_ne (Ne.symm hk)).symm.trans hq
  · obtain ⟨o, ho⟩ := exists_mem_of_mem_events hx
    exact absurd (hplace _ ho) hne

/-- A new pool has no task. -/
lemma newPool (hs : s.Alone i) (size : Nat) (child : Bool) :
    (s.newPool size child).2.1.Alone i ∧
      strays i (events (ofEntries (s.newPool size child).2.2)) = false := by
  rw [events_ofEntries]
  rcases newPool_cases size child s with heq | ⟨hn, heq⟩
  · rw [heq]
    exact ⟨hs, rfl⟩
  · rw [heq]
    refine ⟨⟨hs.batches, fun j q hq hj => ?_⟩, strays_eq_false fun x hx _ => ?_⟩
    · cases hold : s.pools[j]? with
      | none =>
        obtain ⟨-, rfl⟩ := eq_of_getElem?_concat hold hq
        rfl
      | some p =>
        have hlt := (List.getElem?_eq_some_iff.1 hold).1
        exact hs.pools j q ((List.getElem?_append_left hlt).symm.trans hq) hj
    · obtain ⟨e, he, rfl⟩ := List.mem_map.1 hx
      rcases List.mem_cons.1 he with rfl | he
      · rfl
      · rw [List.eq_of_mem_replicate he]
        rfl

end Alone

/-- **A pool stays alone** when a command is given that is meant for no other pool and begins no
batch. -/
theorem Alone.order (hs : s.Alone i) (call : Nat) {c : Command α}
    (target : c.target? = none ∨ c.target? = some i)
    (hc : ∀ size tasks admission, c ≠ .batch size tasks admission) :
    (s.immediate (.order call c)).1.Alone i ∧
      strays i (s.immediate (.order call c)).2 = false := by
  have still : s.Alone i ∧ strays i ([] : List (Entry α)) = false := ⟨hs, rfl⟩
  -- an action on the pool
  have visit : ∀ (j : Nat) (before after : Trail α)
      (f : Moment → Pool α → Pool α × List (Event α)), some j = none ∨ some j = some i →
      (s.visit j before after f).1.Alone i ∧
        strays i (events (s.visit j before after f).2) = false := by
    intro j before after f hj
    obtain rfl : j = i := by simpa using hj
    exact hs.visit before after f
  cases c with
  | newPool size child => exact hs.newPool size child
  | submit j task => exact visit j _ _ _ target
  | next j => exact visit j _ _ _ target
  | shutdown j => exact visit j _ _ _ target
  | close j => exact visit j _ _ _ target
  | cancel j => exact visit j _ _ _ target
  | drop j => exact visit j _ _ _ target
  | batch size tasks admission => exact absurd rfl (hc size tasks admission)
  | cancelParent =>
    have hcancelled : ({ s with parentCancelled := true } : Scene α).Alone i :=
      ⟨hs.batches, hs.pools⟩
    show s.cancelParent.1.Alone i ∧ strays i (events (ofEntries s.cancelParent.2)) = false
    rw [events_ofEntries]
    exact hcancelled.everywhere (fun _ p hp => ⟨hp, rfl⟩) _
  | abandon c =>
    by_cases hpending : s.pendingCalls.contains c = true
    · rw [immediate_abandon call hpending]
      refine hs.everywhere (fun m p hp => ?_) _
      have hact := p.load_act hp (x := .abandon c) (fun _ _ h => by cases h) m
      rwa [Pool.Turn.act_abandon] at hact
    · rw [immediate, Scene.order, if_neg hpending]
      exact still
  | release name =>
    cases hfind : s.runs.find? (·.task.id.text == name) with
    | none =>
      simp only [immediate, Scene.order, hfind]
      exact still
    | some r =>
      simp only [immediate, Scene.order, hfind, events_ofEntries]
      exact hs.finish r.task.id
  | _ => exact still

end Scene

end Workforce
