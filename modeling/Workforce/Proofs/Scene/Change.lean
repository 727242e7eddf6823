import Workforce.Proofs.Batch.Sound
/-!
# Changes of a scene

Whatever happens in a scene happens at one place after the other: the pool or the batch there makes
steps, or a new one is put there. The trail at a place is therefore a run of what stands there, and
the tasks of a scene are the tasks at its places.

## Main definitions

* `Workforce.Scene.Change` — a change at one place, or at none.
* `Workforce.Scene.poolAt` — the pool at a place: a pool, or the pool of a batch.

## Main results

* `Workforce.Scene.Changes.pool`, `Changes.batch` — the trail at a place is a run of the pool or the
  batch there.
* `Workforce.Scene.Changes.life`, `Changes.pool_life`, `Changes.batch_life` — where the pool or the
  batch at a place has come from.
* `Workforce.Scene.Changes.balance` — no task is lost and none is duplicated.
-/

namespace Workforce.Scene

open Occurrence Trail History

variable {α : Type} {s t : Scene α} {k : History α}

/-! ## Changes -/

/-- A batch that has just been started for these tasks. -/
structure Starts (b : Batch α) (call : Nat) (tasks : List (Task α)) : Prop where
  call : b.call = call
  remaining : b.remaining = tasks
  submitter : b.submitter = .active
  pool : ∃ n hn child cancelled, b.pool = (Pool.fresh n hn child cancelled).receive ⟨none, true⟩

/-- What a batch has that has just been begun are the tasks of its call. -/
lemma Starts.stock_eq {b : Batch α} {call : Nat} {tasks : List (Task α)}
    (h : Starts b call tasks) : b.stock = tasks := by
  obtain ⟨n, hn, child, cancelled, hpool⟩ := h.pool
  rw [Batch.stock, h.remaining, hpool]
  simp [Pool.stock, Pool.inHand, Pool.underway, Pool.receive, Pool.fresh]

/-- A change of a scene at one place, or at none, with what occurs in it. -/
inductive Change : Scene α → History α → Scene α → Prop
  /-- Nothing happens at any place. -/
  | still {s t : Scene α} (pools : t.pools = s.pools) (batches : t.batches = s.batches) :
      Change s [] t
  /-- A pool makes steps. -/
  | pool {s t : Scene α} {i : Nat} {p q : Pool α} {os : Trail α} (here : s.pools[i]? = some p)
      (steps : Pool.Steps p os q) (pools : t.pools = s.pools.set i q)
      (batches : t.batches = s.batches) : Change s (ofTrail (.pool i) os) t
  /-- A batch makes steps. -/
  | batch {s t : Scene α} {i : Nat} {b c : Batch α} {es : List (Event α)}
      (here : s.batches[i]? = some b) (steps : Batch.Steps b es c) (pools : t.pools = s.pools)
      (batches : t.batches = s.batches.set i c) : Change s (ofTrail (.batch i) (es.map event)) t
  /-- A pool is made. -/
  | newPool {s t : Scene α} {n : Nat} (hn : 0 < n) (child cancelled : Bool)
      (pools : t.pools = s.pools ++ [Pool.fresh n hn child cancelled])
      (batches : t.batches = s.batches) :
      Change s (ofTrail (.pool s.pools.length)
        ((Pool.fresh n hn child cancelled : Pool α).opening.map event)) t
  /-- A batch is begun. -/
  | newBatch {s t : Scene α} {b : Batch α} {call : Nat} {tasks : List (Task α)}
      (starts : Starts b call tasks) (pools : t.pools = s.pools)
      (batches : t.batches = s.batches ++ [b]) :
      Change s (ofTrail (.batch s.batches.length)
        (batched call tasks :: b.pool.opening.map event)) t
  /-- A batch cannot be begun, or has nothing to run. -/
  | noBatch {s t : Scene α} {call : Nat} {tasks : List (Task α)} {es : List (Event α)}
      (pools : t.pools = s.pools) (batches : t.batches = s.batches)
      (discards : collect discarded? (es.map event) = tasks)
      (quiet : ∀ e ∈ es, essential (event e) = false) :
      Change s (ofTrail (.batch s.batches.length) (batched call tasks :: es.map event)) t

/-- Changes one after the other. -/
abbrev Changes : Scene α → History α → Scene α → Prop := Chain Change

/-- Steps of several components, one after the other in their order. -/
lemma Changes.components {σ : Type} (state : List σ → Scene α) (place : Nat → Place) (f : σ → σ)
    (g : σ → Trail α)
    (step : ∀ before x after, Change (state (before ++ x :: after))
      (ofTrail (place before.length) (g x)) (state (before ++ f x :: after)))
    (xs : List σ) (before : List σ) :
    Changes (state (before ++ xs))
      ((xs.zipIdx before.length).flatMap fun x => ofTrail (place x.2) (g x.1))
      (state (before ++ xs.map f)) := by
  induction xs generalizing before with
  | nil => exact .refl _
  | cons x xs ih =>
    have hrest := ih (before ++ [f x])
    rw [List.length_append, List.length_singleton, List.append_assoc, List.append_assoc] at hrest
    rw [List.zipIdx_cons, List.flatMap_cons, List.map_cons]
    exact (Chain.single (step before x xs)).trans hrest

/-- Every pool makes steps. -/
lemma Changes.pools (s : Scene α) (f : Pool α → Pool α) (g : Pool α → Trail α)
    (steps : ∀ p, Pool.Steps p (g p) (f p)) :
    Changes s (s.pools.zipIdx.flatMap fun x => ofTrail (.pool x.2) (g x.1))
      { s with pools := s.pools.map f } := by
  refine Changes.components (fun ps => { s with pools := ps }) Place.pool f g ?_ s.pools []
  intro before p after
  exact .pool (by simp) (steps p) (by simp) rfl

/-- Every batch makes steps. -/
lemma Changes.batches (s : Scene α) (f : Batch α → Batch α) (g : Batch α → List (Event α))
    (steps : ∀ b, Batch.Steps b (g b) (f b)) :
    Changes s (s.batches.zipIdx.flatMap fun x => ofTrail (.batch x.2) ((g x.1).map event))
      { s with batches := s.batches.map f } := by
  refine Changes.components (fun bs => { s with batches := bs }) Place.batch f
    (fun b => (g b).map event) ?_ s.batches []
  intro before b after
  exact .batch (by simp) (steps b) rfl (by simp)

/-! ## What happens at one place -/

@[simp] lemma trailAt_pool_batch (i j : Nat) (os : Trail α) :
    trailAt (.pool i) (ofTrail (.batch j) os) = [] := by
  rw [trailAt_ofTrail, if_neg (by simp)]

@[simp] lemma trailAt_batch_pool (i j : Nat) (os : Trail α) :
    trailAt (.batch i) (ofTrail (.pool j) os) = [] := by
  rw [trailAt_ofTrail, if_neg (by simp)]

lemma trailAt_pool_of_ne {i j : Nat} (hij : j ≠ i) (os : Trail α) :
    trailAt (.pool i) (ofTrail (.pool j) os) = [] := by
  rw [trailAt_ofTrail, if_neg (by simpa using hij)]

lemma trailAt_batch_of_ne {i j : Nat} (hij : j ≠ i) (os : Trail α) :
    trailAt (.batch i) (ofTrail (.batch j) os) = [] := by
  rw [trailAt_ofTrail, if_neg (by simpa using hij)]

/-- What occurs at a place occurs there. -/
lemma trailAt_ofTrail_self (place : Place) (os : Trail α) :
    trailAt place (ofTrail place os) = os := by
  rw [trailAt_ofTrail, if_pos rfl]

/-- A change makes the pool at an index run along the trail there. -/
lemma Change.at_pool (h : Change s k t) {i : Nat} {p : Pool α} (hp : s.pools[i]? = some p) :
    ∃ q, t.pools[i]? = some q ∧ Pool.Steps p (trailAt (.pool i) k) q := by
  cases h with
  | still pools batches => exact ⟨p, by rw [pools, hp], .refl p⟩
  | @pool _ j p' q os here steps pools batches =>
    by_cases hij : j = i
    · subst hij
      rw [here] at hp
      cases hp
      have hlt : j < s.pools.length := (List.getElem?_eq_some_iff.1 here).1
      refine ⟨q, ?_, ?_⟩
      · rw [pools, List.getElem?_set_self hlt]
      · rw [trailAt_ofTrail_self]
        exact steps
    · refine ⟨p, ?_, ?_⟩
      · rw [pools, List.getElem?_set_ne hij, hp]
      · rw [trailAt_pool_of_ne hij]
        exact .refl p
  | batch here steps pools batches =>
    rw [trailAt_pool_batch]
    exact ⟨p, by rw [pools, hp], .refl p⟩
  | newPool hn child cancelled pools batches =>
    have hlt : i < s.pools.length := (List.getElem?_eq_some_iff.1 hp).1
    rw [trailAt_pool_of_ne (Nat.ne_of_gt hlt)]
    exact ⟨p, by rw [pools, List.getElem?_append_left hlt, hp], .refl p⟩
  | newBatch starts pools batches =>
    rw [trailAt_pool_batch]
    exact ⟨p, by rw [pools, hp], .refl p⟩
  | noBatch pools batches discards quiet =>
    rw [trailAt_pool_batch]
    exact ⟨p, by rw [pools, hp], .refl p⟩

/-- A change makes the batch at an index run along the trail there. -/
lemma Change.at_batch (h : Change s k t) {i : Nat} {b : Batch α} (hb : s.batches[i]? = some b) :
    ∃ c es, t.batches[i]? = some c ∧ trailAt (.batch i) k = es.map event ∧
      Batch.Steps b es c := by
  have hlt : i < s.batches.length := (List.getElem?_eq_some_iff.1 hb).1
  cases h with
  | still pools batches => exact ⟨b, [], by rw [batches, hb], rfl, .refl b⟩
  | pool here steps pools batches =>
    rw [trailAt_batch_pool]
    exact ⟨b, [], by rw [batches, hb], rfl, .refl b⟩
  | @batch _ j b' c es here steps pools batches =>
    by_cases hij : j = i
    · subst hij
      rw [here] at hb
      cases hb
      refine ⟨c, es, ?_, ?_, steps⟩
      · rw [batches, List.getElem?_set_self hlt]
      · rw [trailAt_ofTrail_self]
    · refine ⟨b, [], ?_, ?_, .refl b⟩
      · rw [batches, List.getElem?_set_ne hij, hb]
      · rw [trailAt_batch_of_ne hij]
        rfl
  | newPool hn child cancelled pools batches =>
    rw [trailAt_batch_pool]
    exact ⟨b, [], by rw [batches, hb], rfl, .refl b⟩
  | newBatch starts pools batches =>
    rw [trailAt_batch_of_ne (Nat.ne_of_gt hlt)]
    exact ⟨b, [], by rw [batches, List.getElem?_append_left hlt, hb], rfl, .refl b⟩
  | noBatch pools batches discards quiet =>
    rw [trailAt_batch_of_ne (Nat.ne_of_gt hlt)]
    exact ⟨b, [], by rw [batches, hb], rfl, .refl b⟩

/-- **The trail at a place is a run of the pool there.** -/
theorem Changes.pool (h : Changes s k t) {i : Nat} {p : Pool α} (hp : s.pools[i]? = some p) :
    ∃ q, t.pools[i]? = some q ∧ Pool.Steps p (trailAt (.pool i) k) q := by
  induction h with
  | refl => exact ⟨p, hp, .refl p⟩
  | tail _ last ih =>
    obtain ⟨q, hq, hsteps⟩ := ih
    obtain ⟨r, hr, hlast⟩ := last.at_pool hq
    rw [trailAt_append]
    exact ⟨r, hr, hsteps.trans hlast⟩

/-- **The trail at a place is a run of the batch there.** -/
theorem Changes.batch (h : Changes s k t) {i : Nat} {b : Batch α} (hb : s.batches[i]? = some b) :
    ∃ c es, t.batches[i]? = some c ∧ trailAt (.batch i) k = es.map event ∧
      Batch.Steps b es c := by
  induction h with
  | refl => exact ⟨b, [], hb, rfl, .refl b⟩
  | tail _ last ih =>
    obtain ⟨c, es, hc, htrail, hsteps⟩ := ih
    obtain ⟨d, fs, hd, htrail', hlast⟩ := last.at_batch hc
    rw [trailAt_append, htrail, htrail', ← List.map_append]
    exact ⟨d, es ++ fs, hd, rfl, hsteps.trans hlast⟩

/-- Nothing occurs at the place of a pool before it is made; from then on the pool runs along the
trail there. -/
theorem Changes.pool_of_none (h : Changes s k t) {i : Nat} (hi : s.pools[i]? = none) :
    (t.pools[i]? = none ∧ trailAt (.pool i) k = []) ∨
      ∃ n hn child cancelled q os, t.pools[i]? = some q ∧
        trailAt (.pool i) k =
          (Pool.fresh n hn child cancelled : Pool α).opening.map event ++ os ∧
        Pool.Steps (Pool.fresh n hn child cancelled) os q := by
  induction h with
  | refl => exact .inl ⟨hi, rfl⟩
  | @tail t u _ _ chain last ih =>
    rw [trailAt_append]
    rcases ih with ⟨hnone, htrail⟩ | ⟨n, hn, child, cancelled, q, os, hq, htrail, hsteps⟩
    · rw [htrail, List.nil_append]
      cases last with
      | still pools batches => exact .inl ⟨by rw [pools, hnone], rfl⟩
      | @pool _ j p q os here steps pools batches =>
        have hij : j ≠ i := by
          rintro rfl
          rw [hnone] at here
          cases here
        rw [trailAt_pool_of_ne hij]
        exact .inl ⟨by rw [pools, List.getElem?_set_ne hij, hnone], rfl⟩
      | batch here steps pools batches =>
        rw [trailAt_pool_batch]
        exact .inl ⟨by rw [pools, hnone], rfl⟩
      | @newPool _ n hn child cancelled pools batches =>
        by_cases hij : t.pools.length = i
        · subst hij
          rw [trailAt_ofTrail_self]
          refine .inr ⟨n, hn, child, cancelled, _, [], ?_, (List.append_nil _).symm, .refl _⟩
          rw [pools, List.getElem?_concat_length]
        · rw [trailAt_pool_of_ne hij]
          refine .inl ⟨?_, rfl⟩
          rw [pools, List.getElem?_eq_none_iff, List.length_append, List.length_singleton]
          have := List.getElem?_eq_none_iff.1 hnone
          omega
      | newBatch starts pools batches =>
        rw [trailAt_pool_batch]
        exact .inl ⟨by rw [pools, hnone], rfl⟩
      | noBatch pools batches discards quiet =>
        rw [trailAt_pool_batch]
        exact .inl ⟨by rw [pools, hnone], rfl⟩
    · obtain ⟨r, hr, hlast⟩ := last.at_pool hq
      rw [htrail, List.append_assoc]
      exact .inr ⟨n, hn, child, cancelled, r, _, hr, rfl, hsteps.trans hlast⟩

/-- Nothing essential occurs at the place of a batch before it is begun; from then on the batch runs
along the trail there. -/
theorem Changes.batch_of_none (h : Changes s k t) {i : Nat} (hi : s.batches[i]? = none) :
    (t.batches[i]? = none ∧ essence (trailAt (.batch i) k) = []) ∨
      ∃ b call tasks before es c, Starts b call tasks ∧ t.batches[i]? = some c ∧
        trailAt (.batch i) k =
          before ++ batched call tasks :: (b.pool.opening ++ es).map event ∧
        essence before = [] ∧ Batch.Steps b es c := by
  induction h with
  | refl => exact .inl ⟨hi, rfl⟩
  | @tail t u _ _ chain last ih =>
    rw [trailAt_append]
    rcases ih with ⟨hnone, htrail⟩ | ⟨b, call, tasks, before, es, c, hb, hc, htrail, hpre, hsteps⟩
    · rw [essence_append, htrail, List.nil_append]
      have hlen := List.getElem?_eq_none_iff.1 hnone
      cases last with
      | still pools batches => exact .inl ⟨by rw [batches, hnone], rfl⟩
      | pool here steps pools batches =>
        rw [trailAt_batch_pool]
        exact .inl ⟨by rw [batches, hnone], rfl⟩
      | @batch _ j b c es here steps pools batches =>
        have hij : j ≠ i := by
          rintro rfl
          rw [hnone] at here
          cases here
        rw [trailAt_batch_of_ne hij]
        exact .inl ⟨by rw [batches, List.getElem?_set_ne hij, hnone], rfl⟩
      | newPool hn child cancelled pools batches =>
        rw [trailAt_batch_pool]
        exact .inl ⟨by rw [batches, hnone], rfl⟩
      | @newBatch _ b call tasks starts pools batches =>
        by_cases hij : t.batches.length = i
        · subst hij
          rw [trailAt_ofTrail_self]
          refine .inr ⟨b, call, tasks, _, [], b, starts, ?_, ?_, htrail, .refl b⟩
          · rw [batches, List.getElem?_concat_length]
          · rw [List.append_nil]
        · rw [trailAt_batch_of_ne hij]
          refine .inl ⟨?_, rfl⟩
          rw [batches, List.getElem?_eq_none_iff, List.length_append, List.length_singleton]
          omega
      | @noBatch _ call tasks es pools batches discards quiet =>
        refine .inl ⟨by rw [batches, hnone], ?_⟩
        by_cases hij : t.batches.length = i
        · subst hij
          rw [trailAt_ofTrail_self]
          exact Batch.essence_map_event quiet
        · rw [trailAt_batch_of_ne hij]
          rfl
    · obtain ⟨d, fs, hd, htrail', hlast⟩ := last.at_batch hc
      refine .inr ⟨b, call, tasks, before, es ++ fs, d, hb, hd, ?_, hpre, hsteps.trans hlast⟩
      rw [htrail, htrail']
      simp

/-! ## The pool at a place -/

/-- The pool at a place: a pool, or the pool of a batch. -/
def poolAt (s : Scene α) : Place → Option (Pool α)
  | .pool i => s.pools[i]?
  | .batch i => s.batches[i]?.map (·.pool)

/-- The pool at a place makes a run, which agrees with the trail there on what is essential. -/
theorem Changes.at_place (h : Changes s k t) {place : Place} {p : Pool α}
    (hp : s.poolAt place = some p) :
    ∃ q os, t.poolAt place = some q ∧ Pool.Steps p os q ∧
      essence os = essence (trailAt place k) := by
  cases place with
  | pool i =>
    obtain ⟨q, hq, hsteps⟩ := h.pool hp
    exact ⟨q, _, hq, hsteps, rfl⟩
  | batch i =>
    obtain ⟨b, hb, rfl⟩ := Option.map_eq_some_iff.1 hp
    obtain ⟨c, es, hc, htrail, hsteps⟩ := h.batch hb
    obtain ⟨os, hpool, hos, -⟩ := hsteps.pool
    refine ⟨c.pool, os, ?_, hpool, ?_⟩
    · show Option.map _ _ = _
      rw [hc]
      rfl
    · rw [htrail, hos]

/-- Nothing essential happens when a pool is made. -/
lemma essence_opening (p : Pool α) : essence (p.opening.map event) = [] := by
  refine Batch.essence_map_event fun e he => ?_
  rcases List.mem_cons.1 he with rfl | he
  · rfl
  · obtain ⟨-, rfl⟩ := List.mem_replicate.1 he
    rfl

/-- Nothing happens to tasks when a pool is made. -/
lemma collect_opening {β : Type} (kind : Occurrence α → Option β) (p : Pool α)
    (h1 : kind (event (.poolStarted p.size)) = none) (h2 : kind (event .workerStarted) = none) :
    collect kind (p.opening.map event) = [] := by
  rw [Pool.opening, List.map_cons, List.map_replicate, collect_cons, h1, collect,
    List.filterMap_replicate, h2]
  rfl

/-- What happens to tasks afterwards is all that happens to them. -/
lemma collect_opening_append {β : Type} (kind : Occurrence α → Option β) (p : Pool α)
    (h1 : kind (event (.poolStarted p.size)) = none) (h2 : kind (event .workerStarted) = none)
    (es : List (Event α)) :
    collect kind ((p.opening ++ es).map event) = collect kind (es.map event) := by
  rw [List.map_append, collect_append, collect_opening kind p h1 h2, List.nil_append]

/-- In a scene that was empty at first a pool has come from one in which nothing had happened, by a
run that is the trail there but for what is noted when the pool is made. -/
theorem Changes.pool_life (h : Changes {} k t) {i : Nat} {q : Pool α}
    (hq : t.pools[i]? = some q) :
    ∃ p os, p.Blank ∧ p.receiving = [] ∧ Pool.Steps p os q ∧
      trailAt (.pool i) k = p.opening.map event ++ os := by
  rcases h.pool_of_none (i := i) rfl with ⟨hnone, -⟩ |
    ⟨n, hn, child, cancelled, q', os, hq', htrail, hsteps⟩
  · rw [hnone] at hq
    cases hq
  · rw [hq'] at hq
    cases hq
    exact ⟨_, os, Pool.blank_fresh n hn child cancelled, rfl, hsteps, htrail⟩

/-- By this run whatever occurs there can be read off, but for what is noted when the pool is
made. -/
theorem Changes.pool_course (h : Changes {} k t) {i : Nat} {q : Pool α}
    (hq : t.pools[i]? = some q) :
    ∃ p os, p.Blank ∧ p.receiving = [] ∧ Pool.Steps p os q ∧
      ∀ {β : Type} (kind : Occurrence α → Option β), (∀ n, kind (event (.poolStarted n)) = none) →
        kind (event .workerStarted) = none →
        collect kind (trailAt (.pool i) k) = collect kind os := by
  obtain ⟨p, os, blank, hempty, hsteps, htrail⟩ := h.pool_life hq
  refine ⟨p, os, blank, hempty, hsteps, fun kind h1 h2 => ?_⟩
  rw [htrail, collect_append, collect_opening kind p (h1 _) h2, List.nil_append]

/-- In a scene that was empty at first a batch has been begun by its call, and has made a run since
that is the trail there but for what occurred before the call. -/
theorem Changes.batch_life (h : Changes {} k t) {i : Nat} {c : Batch α}
    (hc : t.batches[i]? = some c) :
    ∃ b tasks before es, Starts b c.call tasks ∧ Batch.Steps b es c ∧ essence before = [] ∧
      trailAt (.batch i) k =
        before ++ batched c.call tasks :: (b.pool.opening ++ es).map event := by
  rcases h.batch_of_none (i := i) rfl with ⟨hnone, -⟩ |
    ⟨b, call, tasks, before, es, d, starts, hd, htrail, hbefore, hsteps⟩
  · rw [hnone] at hc
    cases hc
  · obtain rfl := Option.some.inj (hd.symm.trans hc)
    obtain rfl : d.call = call := hsteps.call_eq.trans starts.call
    exact ⟨b, tasks, before, es, starts, hsteps, hbefore, htrail⟩

/-- **The life of a pool.** In a scene that was empty at first, the pool at a place has come from
one in which nothing had happened, by a run that agrees with the trail there on what is
essential. Whatever the pool has discarded was discarded there. -/
theorem Changes.life (h : Changes {} k t) {place : Place} {q : Pool α}
    (hq : t.poolAt place = some q) :
    ∃ p os, p.Blank ∧ Pool.Steps p os q ∧ essence os = essence (trailAt place k) ∧
      collect discarded? os ⊆ collect discarded? (trailAt place k) := by
  cases place with
  | pool i =>
    obtain ⟨p, os, blank, -, hsteps, htrail⟩ := h.pool_life hq
    refine ⟨p, os, blank, hsteps, ?_, ?_⟩
    · rw [htrail, essence_append, essence_opening, List.nil_append]
    · rw [htrail, collect_append]
      exact List.subset_append_right _ _
  | batch i =>
    obtain ⟨c, hc, rfl⟩ := Option.map_eq_some_iff.1 hq
    obtain ⟨b, tasks, before, es, hb, hsteps, hbefore, htrail⟩ := h.batch_life hc
    obtain ⟨n, hn, child, cancelled, hpool⟩ := hb.pool
    obtain ⟨os, hrun, hos, hdiscards⟩ := hsteps.pool
    refine ⟨b.pool, os, ?_, hrun, ?_, ?_⟩
    · rw [hpool]
      exact (Pool.blank_fresh n hn child cancelled).receive _
    · rw [htrail, hos, essence_append, hbefore, List.nil_append, List.map_append]
      show _ = essence ([batched c.call tasks] ++ (b.pool.opening.map event ++ es.map event))
      rw [essence_append, essence_append, essence_opening]
      rfl
    · rw [htrail, List.map_append, collect_append, collect_cons, collect_append]
      exact fun x hx => List.mem_append_right _ (List.mem_append_right _
        (List.mem_append_right _ (hdiscards hx)))

/-- What holds of every pool holds of the pool at a place. -/
lemma Changes.pool_sound (h : Changes {} k t) {place : Place} {q : Pool α}
    (hq : t.poolAt place = some q) : q.Sound := by
  obtain ⟨p, os, hblank, hsteps, -, -⟩ := h.life hq
  exact hsteps.sound hblank.sound

/-- What holds of every batch is kept. -/
lemma Change.sound (h : Change s k t) (hs : ∀ b ∈ s.batches, b.Sound) :
    ∀ b ∈ t.batches, b.Sound := by
  intro c hc
  cases h with
  | still pools batches => exact hs c (batches ▸ hc)
  | pool here steps pools batches => exact hs c (batches ▸ hc)
  | newPool hn child cancelled pools batches => exact hs c (batches ▸ hc)
  | noBatch pools batches discards quiet => exact hs c (batches ▸ hc)
  | batch here steps pools batches =>
    rw [batches] at hc
    rcases List.mem_or_eq_of_mem_set hc with hc | rfl
    · exact hs c hc
    · exact steps.sound (hs _ (List.mem_of_getElem? here))
  | newBatch starts pools batches =>
    rw [batches] at hc
    rcases List.mem_append.1 hc with hc | hc
    · exact hs c hc
    · obtain ⟨n, hn, child, cancelled, hpool⟩ := starts.pool
      rw [List.mem_singleton.1 hc]
      exact Batch.sound_start starts.submitter hpool

/-- The same along changes. -/
lemma Changes.sound (h : Changes s k t) (hs : ∀ b ∈ s.batches, b.Sound) :
    ∀ b ∈ t.batches, b.Sound :=
  h.keeps (P := fun s : Scene α => ∀ b ∈ s.batches, b.Sound) (fun _ _ _ hc => hc.sound) hs

/-! ## Tasks -/

/-- The tasks in a scene. -/
def stock (s : Scene α) : List (Task α) :=
  s.pools.flatMap Pool.stock ++ s.batches.flatMap Batch.stock

/-- The tasks on workers. -/
def underway (s : Scene α) : List (Task α) := s.runs.map (·.task)

/-- What a list contributes with one of its elements and with another one in its place. -/
lemma flatMap_set_perm {σ γ : Type} (f : σ → List γ) {xs : List σ} {i : Nat} {x : σ}
    (hx : xs[i]? = some x) (y : σ) :
    ∃ rest, (xs.flatMap f).Perm (f x ++ rest) ∧ ((xs.set i y).flatMap f).Perm (f y ++ rest) := by
  obtain ⟨hi, rfl⟩ := List.getElem?_eq_some_iff.1 hx
  refine ⟨(xs.take i).flatMap f ++ (xs.drop (i + 1)).flatMap f, ?_, ?_⟩
  · have hsplit : xs = xs.take i ++ xs[i] :: xs.drop (i + 1) := by simp
    conv_lhs => rw [hsplit]
    rw [List.flatMap_append, List.flatMap_cons]
    exact List.perm_append_comm_assoc _ _ _
  · rw [List.set_eq_take_append_cons_drop, if_pos hi, List.flatMap_append, List.flatMap_cons]
    exact List.perm_append_comm_assoc _ _ _

/-- A change loses no task and duplicates none. -/
lemma Change.balance (h : Change s k t) :
    (t.stock ++ collect ended? (trail k) ++ collect discarded? (trail k)).Perm
      (s.stock ++ Trail.given (trail k)) := by
  classical
  cases h with
  | still pools batches =>
    rw [stock, stock, pools, batches]
    simp [trail, Trail.given]
  | @pool _ i p q os here steps pools batches =>
    rw [stock, stock, pools, batches, trail_ofTrail, List.perm_iff_count]
    intro x
    obtain ⟨rest, hbefore, hafter⟩ := flatMap_set_perm Pool.stock here q
    have h1 := hbefore.count_eq x
    have h2 := hafter.count_eq x
    have h3 := steps.balance.count_eq x
    rw [← steps.given_eq] at h3
    simp only [List.count_append] at h1 h2 h3 ⊢
    omega
  | @batch _ i b c es here steps pools batches =>
    rw [stock, stock, pools, batches, trail_ofTrail, given_map_event, List.perm_iff_count]
    intro x
    obtain ⟨rest, hbefore, hafter⟩ := flatMap_set_perm Batch.stock here c
    have h1 := hbefore.count_eq x
    have h2 := hafter.count_eq x
    have h3 := steps.balance.count_eq x
    simp only [List.count_append, List.count_nil] at h1 h2 h3 ⊢
    omega
  | newPool hn child cancelled pools batches =>
    rw [stock, stock, pools, batches, trail_ofTrail, given_map_event,
      collect_opening ended? _ rfl rfl, collect_opening discarded? _ rfl rfl]
    simp [Pool.stock, Pool.inHand, Pool.underway, Pool.fresh]
  | newBatch starts pools batches =>
    rw [stock, stock, pools, batches, trail_ofTrail, collect_cons, collect_cons,
      collect_opening ended? _ rfl rfl, collect_opening discarded? _ rfl rfl]
    have hgiven : ∀ (call : Nat) (tasks : List (Task α)) (es : List (Event α)),
        Trail.given (batched call tasks :: es.map event) = tasks := by
      intro call tasks es
      show tasks ++ Trail.given (es.map event) = tasks
      rw [given_map_event, List.append_nil]
    rw [hgiven]
    simp [starts.stock_eq, ended?, discarded?]
  | @noBatch _ call tasks es pools batches discards quiet =>
    have hgiven : Trail.given (batched call tasks :: es.map event) = tasks := by
      show tasks ++ Trail.given (es.map event) = tasks
      rw [given_map_event, List.append_nil]
    rw [stock, stock, pools, batches, trail_ofTrail, hgiven, collect_cons, collect_cons, discards,
      Batch.collect_ended_of_quiet quiet]
    simp [ended?, discarded?]

/-- The tasks on workers, by place. -/
lemma underway_eq (s : Scene α) : s.underway =
    s.pools.flatMap Pool.underway ++ s.batches.flatMap fun b => b.pool.underway := by
  simp only [underway, runs, List.map_append, List.map_flatMap]
  rfl

/-- A change starts the tasks that it puts on workers, and takes off those that end. -/
lemma Change.work (h : Change s k t) :
    (t.underway ++ collect ended? (trail k)).Perm (s.underway ++ collect started? (trail k)) := by
  classical
  cases h with
  | still pools batches =>
    rw [underway_eq, underway_eq, pools, batches]
    simp [trail]
  | @pool _ i p q os here steps pools batches =>
    rw [underway_eq, underway_eq, pools, batches, trail_ofTrail, List.perm_iff_count]
    intro x
    obtain ⟨turned, dropped, hledger⟩ := steps.ledger
    obtain ⟨rest, hbefore, hafter⟩ := flatMap_set_perm Pool.underway here q
    have h1 := hbefore.count_eq x
    have h2 := hafter.count_eq x
    have h3 := hledger.work.count_eq x
    simp only [List.count_append] at h1 h2 h3 ⊢
    omega
  | @batch _ i b c es here steps pools batches =>
    rw [underway_eq, underway_eq, pools, batches, trail_ofTrail, List.perm_iff_count]
    intro x
    obtain ⟨os, hpool, hos, -⟩ := steps.pool
    obtain ⟨-, hstarted, hended, -⟩ := collect_congr hos
    obtain ⟨turned, dropped, hledger⟩ := hpool.ledger
    obtain ⟨rest, hbefore, hafter⟩ := flatMap_set_perm (fun b : Batch α => b.pool.underway) here c
    have h1 := hbefore.count_eq x
    have h2 := hafter.count_eq x
    have h3 := hledger.work.count_eq x
    rw [hstarted, hended] at h3
    simp only [List.count_append] at h1 h2 h3 ⊢
    omega
  | newPool hn child cancelled pools batches =>
    rw [underway_eq, underway_eq, pools, batches, trail_ofTrail,
      collect_opening ended? _ rfl rfl, collect_opening started? _ rfl rfl]
    simp [Pool.underway, Pool.fresh]
  | newBatch starts pools batches =>
    obtain ⟨n, hn, child, cancelled, hpool⟩ := starts.pool
    rw [underway_eq, underway_eq, pools, batches, trail_ofTrail, collect_cons, collect_cons,
      collect_opening ended? _ rfl rfl, collect_opening started? _ rfl rfl]
    simp [hpool, Pool.underway, Pool.receive, Pool.fresh, ended?, started?]
  | noBatch pools batches discards quiet =>
    have hstarted : ∀ {es : List (Event α)}, (∀ e ∈ es, essential (event e) = false) →
        collect started? (es.map event) = [] := by
      intro es hquiet
      rw [collect, List.filterMap_eq_nil_iff]
      intro o ho
      obtain ⟨e, he, rfl⟩ := List.mem_map.1 ho
      exact (kinds_of_not_essential (hquiet e he)).2.1
    rw [underway_eq, underway_eq, pools, batches, trail_ofTrail, collect_cons, collect_cons,
      Batch.collect_ended_of_quiet quiet, hstarted quiet]
    simp [ended?, started?]

/-- **No task of a scene is lost and none is duplicated.** -/
theorem Changes.balance (h : Changes s k t) :
    (t.stock ++ collect ended? (trail k) ++ collect discarded? (trail k)).Perm
      (s.stock ++ Trail.given (trail k)) := by
  classical
  induction h with
  | refl => simp [trail, Trail.given]
  | tail _ last ih =>
    rw [List.perm_iff_count]
    intro x
    have hrun := ih.count_eq x
    have hlast := last.balance.count_eq x
    simp only [trail_append, collect_append, given_append, List.count_append] at hrun hlast ⊢
    omega

/-- **Whatever was started runs or has ended.** -/
theorem Changes.work (h : Changes s k t) :
    (t.underway ++ collect ended? (trail k)).Perm (s.underway ++ collect started? (trail k)) := by
  classical
  induction h with
  | refl => simp [trail]
  | tail _ last ih =>
    rw [List.perm_iff_count]
    intro x
    have hrun := ih.count_eq x
    have hlast := last.work.count_eq x
    simp only [trail_append, collect_append, List.count_append] at hrun hlast ⊢
    omega

end Workforce.Scene
