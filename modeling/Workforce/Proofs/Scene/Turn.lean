import Workforce.Proofs.Scene.Action
/-!
# Turns of a pool

To a pool, whatever is done in a scene is one of a few things: it is called, closed, cancelled or
given up, a call that waits on it is given up, one of its tasks ends, or something happens
elsewhere. A step of a scene is one of these for every pool, or a move of the pool; and it is the
same for every batch.

## Main definitions

* `Workforce.Pool.Turn` — what may happen to a pool from outside.
* `Workforce.Command.turn` — what a command is for a pool.

## Main results

* `Workforce.Scene.order_pool`, `Scene.order_batch` — what a command does at one place.
* `Workforce.Stage.Step.at_pool`, `Step.at_batch` — what a step does at one place.
* `Workforce.Stage.Step.new_pool`, `Step.new_batch` — where new pools and batches come from.
-/

namespace Workforce

open Occurrence Trail History

variable {α : Type}

/-! ## Turns -/

namespace Pool

/-- What may happen to a pool from outside. Calls have numbers. -/
inductive Turn (α : Type) where
  /-- Something happens elsewhere. -/
  | elsewhere
  /-- A task is handed in. -/
  | submit (call : Nat) (task : Task α)
  /-- The next output is asked for. -/
  | next (call : Nat)
  /-- The pool is closed and its outputs are to be read to the end. -/
  | shutdown (call : Nat)
  | close
  | cancel
  /-- The parent is cancelled. -/
  | follow
  /-- The handle is given up. -/
  | drop
  /-- The call is given up. -/
  | abandon (call : Nat)
  /-- The running task of that name ends. -/
  | finish (name : TaskId)

namespace Turn

/-- What it does to the pool at once, with what occurs. -/
def apply (m : Moment) (p : Pool α) : Turn α → Pool α × Trail α
  | elsewhere => (p, [])
  | submit call task => ((p.submit m ⟨some call, task⟩).1,
      asked ⟨some call, task⟩ :: (p.submit m ⟨some call, task⟩).2.map event)
  | next call => (p.receive ⟨some call, false⟩, [joined ⟨some call, false⟩])
  | shutdown call => (p.close.1.receive ⟨some call, true⟩,
      p.close.2.map event ++ [joined ⟨some call, true⟩])
  | close => (p.close.1, p.close.2.map event)
  | cancel => (p.cancel.1, p.cancel.2.map event)
  | follow => (p.parentCancelled, [])
  | drop => (p.release, [])
  | abandon call => ((p.withdraw call).1,
      (p.submitting.filter (·.caller == some call)).map retracted ++
        (p.receiving.filter (·.caller == some call)).map departed ++
          (p.withdraw call).2.map event)
  | finish name => ((p.finish name).1, (p.finish name).2.map event)

/-- The parent is cancelled in this turn. -/
def follows : Turn α → Bool
  | follow => true
  | _ => false

/-- What is done to the pool at one index is for the pool at another one something that happens
elsewhere, and nothing is done to a pool whose handle has been given up. -/
def aimed (i j : Nat) (p : Pool α) (x : Turn α) : Turn α :=
  if j = i ∧ p.held = true then x else elsewhere

/-- Only the cancellation of the parent reaches all pools. -/
lemma follows_aimed (i j : Nat) (p : Pool α) {x : Turn α} (h : x.follows = false) :
    (aimed i j p x).follows = false := by
  unfold aimed
  split
  · exact h
  · rfl

end Turn

end Pool

/-- The command cancels the parent. -/
def Command.cancelsParent : Command α → Bool
  | cancelParent => true
  | _ => false

/-- What a command is for the pool at an index. -/
def Command.turn (call : Nat) (s : Scene α) (i : Nat) (p : Pool α) : Command α → Pool.Turn α
  | submit j task => .aimed i j p (.submit call task)
  | next j => .aimed i j p (.next call)
  | shutdown j => .aimed i j p (.shutdown call)
  | close j => .aimed i j p .close
  | cancel j => .aimed i j p .cancel
  | drop j => .aimed i j p .drop
  | cancelParent => .follow
  | abandon c => if s.pendingCalls.contains c then .abandon c else .elsewhere
  | release name =>
    match s.runs.find? (·.task.id.text == name) with
    | none => .elsewhere
    | some r => .finish r.task.id
  | newPool _ _ | batch _ _ _ | askParent | describe _ | advance _ | run => .elsewhere

/-- Only the cancellation of the parent is a turn in which the parent is cancelled. -/
lemma Command.follows_turn (call : Nat) (s : Scene α) (i : Nat) (p : Pool α) (c : Command α) :
    (c.turn call s i p).follows = c.cancelsParent := by
  cases c with
  | abandon c =>
    simp only [turn]
    split <;> rfl
  | release name =>
    simp only [turn]
    split <;> rfl
  | submit | next | shutdown | close | cancel | drop => exact Pool.Turn.follows_aimed _ _ _ rfl
  | _ => rfl

/-! ## What a command does at one place -/

namespace Scene

variable {s : Scene α} {i : Nat} {p : Pool α} {b : Batch α}

/-- What occurs at several components occurs at the places of the components. -/
lemma trailAt_components {σ : Type} (place : Nat → Place) (inj : Function.Injective place)
    (record : σ → Trail α) {xs : List σ} {i : Nat} {x : σ} (hx : xs[i]? = some x) :
    trailAt (place i) (xs.zipIdx.flatMap fun x => ofTrail (place x.2) (record x.1)) = record x := by
  have hoffset : ∀ n, trailAt (place (n + i))
      ((xs.zipIdx n).flatMap fun x => ofTrail (place x.2) (record x.1)) = record x := by
    induction xs generalizing i with
    | nil => cases hx
    | cons y ys ih =>
      intro n
      rw [List.zipIdx_cons, List.flatMap_cons, trailAt_append, trailAt_ofTrail]
      cases i with
      | zero =>
        cases hx
        refine (congrArg₂ _ (if_pos rfl) ?_).trans (List.append_nil _)
        refine List.eq_nil_iff_forall_not_mem.2 fun o ho => ?_
        obtain ⟨z, hz, hmem⟩ := List.mem_flatMap.1 (mem_trailAt.1 ho)
        obtain ⟨o', -, heq⟩ := List.mem_map.1 hmem
        have hle := List.le_snd_of_mem_zipIdx hz
        have hidx := inj (congrArg Prod.fst heq)
        omega
      | succ i =>
        have hne : place n ≠ place (n + (i + 1)) := fun h => by have := inj h; omega
        rw [if_neg hne, List.nil_append, Nat.add_comm i 1, ← Nat.add_assoc]
        exact ih (by simpa using hx) (n + 1)
  simpa using hoffset 0

/-- What occurs at batches does not occur at a pool. -/
lemma trailAt_pool_batches {σ : Type} (record : σ → Trail α) (xs : List σ) (i : Nat) :
    trailAt (.pool i) (xs.zipIdx.flatMap fun x => ofTrail (.batch x.2) (record x.1)) = [] := by
  refine List.eq_nil_iff_forall_not_mem.2 fun o ho => ?_
  obtain ⟨z, -, hmem⟩ := List.mem_flatMap.1 (mem_trailAt.1 ho)
  obtain ⟨o', -, heq⟩ := List.mem_map.1 hmem
  cases heq

/-- What an action on a pool does to the pool at an index. -/
lemma visit_pool (hp : s.pools[i]? = some p) (j : Nat) (before after : Trail α)
    (f : Moment → Pool α → Pool α × List (Event α)) :
    (s.visit j before after f).1.pools[i]? =
        some (if j = i ∧ p.held = true then (f s.moment p).1 else p) ∧
      trailAt (.pool i) (s.visit j before after f).2 =
        (if j = i ∧ p.held = true then before ++ (f s.moment p).2.map event ++ after else []) := by
  have hlt : i < s.pools.length := (List.getElem?_eq_some_iff.1 hp).1
  by_cases hj : j = i
  · subst hj
    cases hheld : p.held with
    | false =>
      have hpool : s.pool? j = none := by rw [pool?, hp, Option.filter_some, hheld]; rfl
      simp only [visit, hpool, Bool.false_eq_true, and_false, if_false]
      exact ⟨hp, rfl⟩
    | true =>
      have hpool : s.pool? j = some p := by rw [pool?, hp, Option.filter_some, hheld]; rfl
      have hat : s.atPool j f =
          (s.putPool j (f s.moment p), (f s.moment p).2.map (Place.pool j, ·)) := by
        rw [atPool, hp]
        rfl
      simp only [visit, hpool, hat, and_self, if_true, trailAt_append, ofEntries_map,
        trailAt_ofTrail_self]
      exact ⟨List.getElem?_set_self hlt, trivial⟩
  · simp only [hj, false_and, if_false]
    obtain ⟨-, -, hplace⟩ := visit_frame j before after f s
    constructor
    · unfold visit
      split
      · exact hp
      · unfold atPool
        split
        · exact hp
        · exact (List.getElem?_set_ne hj).trans hp
    · refine List.eq_nil_iff_forall_not_mem.2 fun o ho => hj ?_
      have hpl := hplace _ (mem_trailAt.1 ho)
      exact (Place.pool.inj hpl).symm

/-- What is found behind the end of a list when something has been put there. -/
lemma eq_of_getElem?_concat {σ : Type} {xs : List σ} {x y : σ} {i : Nat} (hnone : xs[i]? = none)
    (h : (xs ++ [x])[i]? = some y) : i = xs.length ∧ x = y := by
  have hlt := (List.getElem?_eq_some_iff.1 h).1
  have hle := List.getElem?_eq_none_iff.1 hnone
  rw [List.length_append, List.length_singleton] at hlt
  obtain rfl : i = xs.length := by omega
  rw [List.getElem?_concat_length] at h
  exact ⟨rfl, Option.some.inj h⟩

/-- What the command does that makes a pool of some workers. -/
lemma newPool_of_pos {size : Nat} (hn : 0 < size) (child : Bool) (s : Scene α) :
    (s.newPool size child).2 =
      ({ s with pools := s.pools ++ [Pool.fresh size hn child (child && s.parentCancelled)] },
        (Pool.fresh size hn child (child && s.parentCancelled) : Pool α).opening.map
          (Place.pool s.pools.length, ·)) := by
  simp [Scene.newPool, Pool.make, Nat.ne_of_gt hn]

/-- What the command does that makes a pool. -/
lemma newPool_cases (size : Nat) (child : Bool) (s : Scene α) :
    (s.newPool size child).2 = (s, []) ∨ ∃ hn : 0 < size, (s.newPool size child).2 =
      ({ s with pools := s.pools ++ [Pool.fresh size hn child (child && s.parentCancelled)] },
        (Pool.fresh size hn child (child && s.parentCancelled) : Pool α).opening.map
          (Place.pool s.pools.length, ·)) := by
  rcases Nat.eq_zero_or_pos size with rfl | hn
  · exact .inl rfl
  · exact .inr ⟨hn, newPool_of_pos hn child s⟩

/-- What the command does that begins a batch. -/
lemma newBatch_cases (call size : Nat) (tasks : List (Task α)) (admission : Admission)
    (s : Scene α) :
    (s.newBatch call size tasks admission).1.batches = s.batches ∨
      ∃ n hn, s.newBatch call size tasks admission =
        ({ s with batches := s.batches ++
            [Batch.initial s.now call n hn tasks admission s.parentCancelled] },
          (Batch.initial s.now call n hn tasks admission s.parentCancelled).pool.opening.map
            (Place.batch s.batches.length, ·)) := by
  by_cases htasks : tasks = []
  · subst htasks
    exact .inl (congrArg (·.1.batches) (newBatch_nil s call size admission))
  · rcases Nat.eq_zero_or_pos size with rfl | hsize
    · exact .inl (congrArg (·.1.batches) (newBatch_zero s call admission htasks))
    · exact .inr ⟨_, Batch.min_pos hsize htasks, newBatch_of_pos s call admission hsize htasks⟩

/-- Beginning a batch changes no pool, and is reported at the place of the batch. -/
lemma newBatch_frame (call size : Nat) (tasks : List (Task α)) (admission : Admission)
    (s : Scene α) :
    (s.newBatch call size tasks admission).1.pools = s.pools ∧
      (s.newBatch call size tasks admission).1.parentCancelled = s.parentCancelled ∧
        ∀ x ∈ (s.newBatch call size tasks admission).2, x.1 = .batch s.batches.length := by
  have hplace : ∀ es : List (Event α), ∀ x ∈ es.map (Place.batch s.batches.length, ·),
      x.1 = .batch s.batches.length := by
    intro es x hx
    obtain ⟨e, -, rfl⟩ := List.mem_map.1 hx
    rfl
  unfold newBatch
  dsimp only
  split
  · exact ⟨rfl, rfl, by simp⟩
  · exact ⟨rfl, rfl, hplace _⟩
  · exact ⟨rfl, rfl, hplace _⟩

/-- What a change at every pool and every batch does to the pool at an index is what the sweep over
the pools does there. -/
lemma everywhere_of_sweep {f : Moment → Pool α → Pool α × List (Event α)}
    (g : Moment → Batch α → Batch α × List (Event α)) {r : Pool α × List (Event α)}
    (hr : (sweep (fun b => f ⟨s.now, b⟩) s.brittle s.pools)[i]? = some r) :
    (s.everywhere f g).1.pools[i]? = some r.1 ∧
      trailAt (.pool i) (ofEntries (s.everywhere f g).2) = r.2.map event := by
  refine ⟨by simp only [everywhere, Scene.after, List.getElem?_map, hr, Option.map_some], ?_⟩
  have hpools := ofEntries_entries Place.pool (fun r : Pool α × List (Event α) => r)
    (sweep (fun b => f ⟨s.now, b⟩) s.brittle s.pools)
  have hbatches : ∀ rs : List (Batch α × List (Event α)),
      trailAt (.pool i) (ofEntries (entries .batch rs)) = [] := by
    intro rs
    have hentries := ofEntries_entries Place.batch (fun r : Batch α × List (Event α) => r) rs
    rw [List.map_id'] at hentries
    rw [hentries]
    exact trailAt_pool_batches (fun r : Batch α × List (Event α) => r.2.map event) rs i
  rw [List.map_id'] at hpools
  simp only [everywhere, ofEntries_append, trailAt_append, hbatches, List.append_nil]
  rw [hpools]
  exact trailAt_components Place.pool (fun _ _ h => Place.pool.inj h)
    (fun r : Pool α × List (Event α) => r.2.map event) hr

/-- It is the change of this pool if the change does not depend on the moment. -/
lemma everywhere_pool (hp : s.pools[i]? = some p) (f : Pool α → Pool α × List (Event α))
    (g : Batch α → Batch α × List (Event α)) :
    (s.everywhere (fun _ => f) fun _ => g).1.pools[i]? = some (f p).1 ∧
      trailAt (.pool i) (ofEntries (s.everywhere (fun _ => f) fun _ => g).2) =
        (f p).2.map event :=
  everywhere_of_sweep (fun _ => g) (getElem?_sweep (fun _ => f) s.brittle hp)

/-- What a component reports comes after what the components before it report. -/
lemma entries_split {σ : Type} (place : Nat → Place) {rs : List (σ × List (Event α))} {i : Nat}
    {r : σ × List (Event α)} (hr : rs[i]? = some r) :
    ∃ before after, entries place rs = before ++ r.2.map (place i, ·) ++ after ∧
      (before.any (·.2.isFrailDiscard) =
        (rs.take i).any fun r => r.2.any Event.isFrailDiscard) ∧
      ∀ x ∈ before, ∃ j, j < i ∧ x.1 = place j := by
  obtain ⟨hlt, heq⟩ := List.getElem?_eq_some_iff.1 hr
  have hsplit : rs = rs.take i ++ r :: rs.drop (i + 1) := by
    rw [← heq, List.getElem_cons_drop, List.take_append_drop]
  have hlength : (rs.take i).length = i := List.length_take_of_le (Nat.le_of_lt hlt)
  refine ⟨entries place (rs.take i),
    ((rs.drop (i + 1)).zipIdx (i + 1)).flatMap fun x => x.1.2.map (place x.2, ·), ?_, ?_, ?_⟩
  · conv_lhs => rw [hsplit]
    rw [entries, List.zipIdx_append, List.flatMap_append, hlength, Nat.zero_add, List.zipIdx_cons,
      List.flatMap_cons, List.append_assoc]
    rfl
  · rw [entries, List.any_flatMap]
    have hany := List.any_map (f := Prod.fst) (p := fun r : σ × List (Event α) =>
      r.2.any Event.isFrailDiscard) (l := (rs.take i).zipIdx)
    rw [List.zipIdx_map_fst] at hany
    rw [hany]
    refine List.any_congr rfl fun x => ?_
    simp [Function.comp_def]
  · intro x hx
    obtain ⟨⟨q, j⟩, hq, hmem⟩ := List.mem_flatMap.1 hx
    obtain ⟨e, -, rfl⟩ := List.mem_map.1 hmem
    have hj := (List.getElem?_eq_some_iff.1 (List.mem_zipIdx_iff_getElem?.1 hq)).1
    exact ⟨j, by simpa [hlength] using hj, rfl⟩

/-- What letting a scene settle does to the pool at an index. Discards panic there unless they did
not before or a frail task is discarded at a pool before it (`stray`). -/
lemma settle_pool (hp : s.pools[i]? = some p) :
    ∃ stray : Bool, (s.settle.1.pools[i]? = some (p.settle ⟨s.now, s.brittle && !stray⟩).1 ∧
      trailAt (.pool i) (ofEntries s.settle.2) =
        (p.settle ⟨s.now, s.brittle && !stray⟩).2.map event) ∧
      ∃ before after, s.settle.2 = before ++
        (p.settle ⟨s.now, s.brittle && !stray⟩).2.map (Place.pool i, ·) ++ after ∧
          before.any (·.2.isFrailDiscard) = stray ∧ ∀ x ∈ before, x.1 ≠ .pool i := by
  have hsweep := getElem?_sweep (fun b => Pool.settle ⟨s.now, b⟩) s.brittle hp
  refine ⟨((sweep (fun b => Pool.settle ⟨s.now, b⟩) s.brittle s.pools).take i).any fun r =>
    r.2.any Event.isFrailDiscard, everywhere_of_sweep Batch.settle hsweep, ?_⟩
  obtain ⟨before, after, hentries, hstray, hplace⟩ := entries_split Place.pool hsweep
  obtain ⟨fs, hfs⟩ : ∃ fs, s.settle.2 = entries .pool
      (sweep (fun b => Pool.settle ⟨s.now, b⟩) s.brittle s.pools) ++ fs := ⟨_, rfl⟩
  refine ⟨before, after ++ fs, ?_, hstray, fun x hx heq => ?_⟩
  · rw [hfs, hentries, List.append_assoc]
  · obtain ⟨j, hj, hplace⟩ := hplace x hx
    cases hplace.symm.trans heq
    exact Nat.lt_irrefl _ hj

/-- A new pool changes no other one. -/
lemma newPool_pool (hp : s.pools[i]? = some p) (size : Nat) (child : Bool) :
    (s.newPool size child).2.1.pools[i]? = some p ∧
      trailAt (.pool i) (ofEntries (s.newPool size child).2.2) = [] := by
  have hlt : i < s.pools.length := (List.getElem?_eq_some_iff.1 hp).1
  rcases newPool_cases size child s with heq | ⟨hn, heq⟩
  · rw [heq]
    exact ⟨hp, rfl⟩
  · rw [heq, ofEntries_map, trailAt_pool_of_ne (Nat.ne_of_gt hlt)]
    exact ⟨(List.getElem?_append_left hlt).trans hp, rfl⟩

/-- The beginning of a batch shows at no pool. -/
lemma trailAt_newBatch_pool (call size : Nat) (tasks : List (Task α)) (admission : Admission)
    (s : Scene α) (i : Nat) :
    trailAt (.pool i) (ofEntries (s.newBatch call size tasks admission).2) = [] := by
  obtain ⟨-, -, hplace⟩ := newBatch_frame call size tasks admission s
  refine List.eq_nil_iff_forall_not_mem.2 fun o ho => ?_
  obtain ⟨x, hx, heq⟩ := List.mem_map.1 (mem_trailAt.1 ho)
  have hpl := (congrArg Prod.fst heq).symm.trans (hplace x hx)
  cases hpl

/-- **What a command does to a pool at once.** -/
theorem order_pool (hp : s.pools[i]? = some p) (call : Nat) (c : Command α) :
    (s.order call c).1.pools[i]? = some ((c.turn call s i p).apply s.moment p).1 ∧
      trailAt (.pool i) (s.order call c).2 = ((c.turn call s i p).apply s.moment p).2 := by
  -- an action on one pool
  have visit : ∀ (j : Nat) (before after : Trail α)
      (f : Moment → Pool α → Pool α × List (Event α)) (x : Pool.Turn α),
      x.apply s.moment p =
        ((f s.moment p).1, before ++ (f s.moment p).2.map event ++ after) →
      (s.visit j before after f).1.pools[i]? =
          some ((Pool.Turn.aimed i j p x).apply s.moment p).1 ∧
        trailAt (.pool i) (s.visit j before after f).2 =
          ((Pool.Turn.aimed i j p x).apply s.moment p).2 := by
    intro j before after f x hx
    obtain ⟨hpool, htrail⟩ := visit_pool hp j before after f
    rw [hpool, htrail, Pool.Turn.aimed]
    split
    · rw [hx]
      exact ⟨rfl, rfl⟩
    · exact ⟨rfl, rfl⟩
  cases c with
  | newPool size child => exact newPool_pool hp size child
  | submit j task => exact visit j _ _ _ _ (by simp [Pool.Turn.apply])
  | next j => exact visit j _ _ _ _ rfl
  | shutdown j => exact visit j _ _ _ _ rfl
  | close j => exact visit j _ _ _ _ (by simp [Pool.Turn.apply])
  | cancel j => exact visit j _ _ _ _ rfl
  | drop j => exact visit j _ _ _ _ rfl
  | batch size tasks admission =>
    obtain ⟨hpools, -, -⟩ := newBatch_frame call size tasks admission s
    exact ⟨(congrArg (·[i]?) hpools).trans hp, trailAt_newBatch_pool call size tasks admission s i⟩
  | cancelParent =>
    exact everywhere_pool (s := { s with parentCancelled := true }) hp
      (fun p => (p.parentCancelled, [])) fun b => (b.parentCancelled, [])
  | askParent => exact ⟨hp, rfl⟩
  | describe j => exact ⟨hp, rfl⟩
  | advance ms => exact ⟨hp, rfl⟩
  | run => exact ⟨hp, rfl⟩
  | abandon c =>
    simp only [order, Command.turn]
    split
    · obtain ⟨hpool, -⟩ := everywhere_pool hp (Pool.withdraw c)
        fun b => if b.pending && b.call == c then b.abandon else (b, [])
      refine ⟨hpool, ?_⟩
      rw [trailAt_append, trailAt_pool_batches fun b : Batch α => (if b.pending && b.call == c then
        b.abandon else (b, [])).2.map event, List.append_nil]
      exact trailAt_components Place.pool (fun _ _ h => Place.pool.inj h)
        (fun p : Pool α => (p.submitting.filter (·.caller == some c)).map retracted ++
          (p.receiving.filter (·.caller == some c)).map departed ++
            (p.withdraw c).2.map event) hp
    · exact ⟨hp, rfl⟩
  | release name =>
    cases hfind : s.runs.find? (·.task.id.text == name) with
    | none =>
      simp only [order, Command.turn, hfind]
      exact ⟨hp, rfl⟩
    | some r =>
      simp only [order, Command.turn, hfind]
      exact everywhere_pool hp (Pool.finish r.task.id) (Batch.finish r.task.id)

/-- The events of a history at one place. -/
lemma eventsAt_eq_collect (place : Place) (h : History α) :
    eventsAt place (events h) = collect event? (trailAt place h) := by
  rw [eventsAt, events, trailAt, collect, List.filterMap_filterMap, List.filterMap_filterMap]
  congr 1
  funext x
  obtain ⟨q, o⟩ := x
  by_cases hq : q = place <;> cases o <;> simp [hq, event?]

/-- The events of a history at a place where nothing else occurs. -/
lemma eventsAt_events (place : Place) (h : History α) {es : List (Event α)}
    (hes : trailAt place h = es.map event) : eventsAt place (events h) = es := by
  rw [eventsAt_eq_collect, hes, collect_event]

/-- **What a command does to a batch at once**: it gives up the batch, or is a turn of it. -/
theorem order_batch (hb : s.batches[i]? = some b) (call : Nat) (c : Command α) :
    (b.pending = true ∧ c = .abandon b.call ∧
      (s.order call c).1.batches[i]? = some b.abandon.1 ∧
        trailAt (.batch i) (s.order call c).2 = b.abandon.2.map event) ∨
    ((s.order call c).1.batches[i]? = some (((Action.order call c).turn s).apply b).1 ∧
      trailAt (.batch i) (s.order call c).2 =
        (((Action.order call c).turn s).apply b).2.map event) := by
  obtain ⟨d, es, hd, htrail, -⟩ := (Changes.order call s c).batch hb
  have hevents := eventsAt_events _ _ htrail
  by_cases hspared : c = .abandon b.call
  · subst hspared
    obtain ⟨-, habandon, heventsAt⟩ := everywhere_batch (fun _ => Pool.withdraw b.call)
      (fun _ d => if d.pending && d.call == b.call then d.abandon else (d, [])) hb
    by_cases hcalls : s.pendingCalls.contains b.call = true
    · have hnow := immediate_abandon call hcalls
      have hfst : (s.order call (.abandon b.call)).1 = (s.abandon b.call).1 :=
        congrArg Prod.fst hnow
      have hsnd : events (s.order call (.abandon b.call)).2 = (s.abandon b.call).2 :=
        congrArg Prod.snd hnow
      rw [htrail, ← hevents, hfst, hsnd]
      cases hpending : b.pending with
      | true =>
        simp only [hpending, Bool.true_and, beq_self_eq_true, if_true] at habandon heventsAt
        exact .inl ⟨rfl, rfl, habandon, congrArg (List.map event) heventsAt⟩
      | false =>
        simp only [hpending, Bool.false_and, Bool.false_eq_true, if_false] at habandon heventsAt
        exact .inr ⟨habandon, congrArg (List.map event) heventsAt⟩
    · refine .inr ?_
      simp only [order, if_neg hcalls]
      exact ⟨hb, rfl⟩
  · obtain ⟨hbatch, heventsAt, -⟩ := applies_immediate hb (.order call c) fun n hn =>
      hspared (by cases hn; rfl)
    refine .inr ⟨hbatch, ?_⟩
    rw [htrail, ← hevents]
    exact congrArg (List.map event) heventsAt

/-- A change everywhere makes no pool and no batch. -/
lemma length_everywhere (f : Pool α → Pool α × List (Event α))
    (g : Batch α → Batch α × List (Event α)) (s : Scene α) :
    (s.everywhere (fun _ => f) fun _ => g).1.pools.length = s.pools.length ∧
      (s.everywhere (fun _ => f) fun _ => g).1.batches.length = s.batches.length := by
  obtain ⟨hpools, hbatches, -⟩ := everywhere_const f g s
  rw [hpools, hbatches, List.length_map, List.length_map]
  exact ⟨rfl, rfl⟩

/-- One command makes a pool, and one a batch. -/
lemma length_order (call : Nat) (s : Scene α) (c : Command α) :
    ((∀ size child, c ≠ .newPool size child) →
      (s.order call c).1.pools.length = s.pools.length) ∧
    ((∀ size tasks admission, c ≠ .batch size tasks admission) →
      (s.order call c).1.batches.length = s.batches.length) := by
  have visit : ∀ (j : Nat) (before after : Trail α)
      (f : Moment → Pool α → Pool α × List (Event α)),
      (s.visit j before after f).1.pools.length = s.pools.length ∧
        (s.visit j before after f).1.batches.length = s.batches.length := by
    intro j before after f
    refine ⟨?_, congrArg List.length (visit_frame j before after f s).1⟩
    unfold Scene.visit
    split
    · rfl
    · unfold atPool
      split
      · rfl
      · exact List.length_set ..
  have both : ∀ {P Q : Prop} {k l m n : Nat}, k = l ∧ m = n → (P → k = l) ∧ (Q → m = n) :=
    fun h => ⟨fun _ => h.1, fun _ => h.2⟩
  cases c with
  | newPool size child =>
    refine ⟨fun h => absurd rfl (h size child), fun _ => ?_⟩
    show (s.newPool size child).2.1.batches.length = _
    rcases newPool_cases size child s with heq | ⟨hn, heq⟩ <;> rw [heq]
  | batch size tasks admission =>
    refine ⟨fun _ => ?_, fun h => absurd rfl (h size tasks admission)⟩
    exact congrArg List.length (newBatch_frame call size tasks admission s).1
  | submit j task => exact both (visit j _ _ _)
  | next j => exact both (visit j _ _ _)
  | shutdown j => exact both (visit j _ _ _)
  | close j => exact both (visit j _ _ _)
  | cancel j => exact both (visit j _ _ _)
  | drop j => exact both (visit j _ _ _)
  | cancelParent =>
    exact both (length_everywhere (fun p => (p.parentCancelled, []))
      (fun b => (b.parentCancelled, [])) { s with parentCancelled := true })
  | abandon c =>
    refine both ?_
    simp only [order]
    split
    · exact length_everywhere _ _ _
    · exact ⟨rfl, rfl⟩
  | release name =>
    refine both ?_
    simp only [order]
    split
    · exact ⟨rfl, rfl⟩
    · exact length_everywhere _ _ _
  | _ => exact both ⟨rfl, rfl⟩

/-- Only the cancellation of the parent cancels the parent. -/
lemma parentCancelled_order (call : Nat) (s : Scene α) (c : Command α) :
    (s.order call c).1.parentCancelled = (s.parentCancelled || c.cancelsParent) := by
  have visit : ∀ (j : Nat) (before after : Trail α)
      (f : Moment → Pool α → Pool α × List (Event α)),
      (s.visit j before after f).1.parentCancelled = (s.parentCancelled || false) := by
    intro j before after f
    rw [Bool.or_false]
    unfold Scene.visit
    split
    · rfl
    · unfold atPool
      split <;> rfl
  have same : s.parentCancelled = (s.parentCancelled || false) := (Bool.or_false _).symm
  cases c with
  | submit j task => exact visit j _ _ _
  | next j => exact visit j _ _ _
  | shutdown j => exact visit j _ _ _
  | close j => exact visit j _ _ _
  | cancel j => exact visit j _ _ _
  | drop j => exact visit j _ _ _
  | cancelParent => exact (Bool.or_true _).symm
  | batch size tasks admission => exact (newBatch_frame call size tasks admission s).2.1.trans same
  | newPool size child =>
    refine Eq.trans ?_ same
    show (s.newPool size child).2.1.parentCancelled = _
    rcases newPool_cases size child s with heq | ⟨hn, heq⟩ <;> rw [heq]
  | abandon c =>
    simp only [order]
    split <;> exact same
  | release name =>
    simp only [order]
    split <;> exact same
  | _ => exact same

/-- What a command does at once takes no time. -/
lemma now_order (call : Nat) (s : Scene α) (c : Command α) : (s.order call c).1.now = s.now := by
  cases c with
  | submit j task => exact (visit_frame ..).2.1
  | next j => exact (visit_frame ..).2.1
  | shutdown j => exact (visit_frame ..).2.1
  | close j => exact (visit_frame ..).2.1
  | cancel j => exact (visit_frame ..).2.1
  | drop j => exact (visit_frame ..).2.1
  | newPool size child =>
    show (s.newPool size child).2.1.now = _
    rcases newPool_cases size child s with heq | ⟨hn, heq⟩ <;> rw [heq]
  | batch size tasks admission =>
    show (s.newBatch call size tasks admission).1.now = _
    unfold newBatch
    dsimp only
    split <;> rfl
  | abandon c =>
    simp only [order]
    split <;> rfl
  | release name =>
    simp only [order]
    split <;> rfl
  | _ => rfl

/-- How many pools there are after a command depends on how many there were. -/
lemma length_order_congr {t : Scene α} (h : t.pools.length = s.pools.length) (call : Nat)
    (c : Command α) : (t.order call c).1.pools.length = (s.order call c).1.pools.length := by
  by_cases hc : ∃ size child, c = .newPool size child
  · obtain ⟨size, child, rfl⟩ := hc
    show (t.newPool size child).2.1.pools.length = (s.newPool size child).2.1.pools.length
    rcases Nat.eq_zero_or_pos size with rfl | hn
    · exact h
    · rw [newPool_of_pos hn, newPool_of_pos hn, List.length_append, List.length_append, h]
      rfl
  · have hne : ∀ size child, c ≠ .newPool size child := fun size child heq =>
      hc ⟨size, child, heq⟩
    rw [(length_order call t c).1 hne, (length_order call s c).1 hne, h]

end Scene

/-! ## Steps at one place -/

/-- The parent is cancelled in this turn. -/
def Batch.Turn.follows : Batch.Turn → Bool
  | follow => true
  | _ => false

/-- Only the cancellation of the parent is a turn in which the parent is cancelled. -/
lemma Action.follows_turn (s : Scene α) (call : Nat) (c : Command α) :
    ((Action.order call c).turn s).follows = c.cancelsParent := by
  cases c with
  | release name =>
    simp only [turn]
    split <;> rfl
  | _ => rfl

namespace Stage

open Scene

variable {g g' : Stage α} {h : History α} {i : Nat} {p : Pool α} {b : Batch α}

/-- **A step of a scene is a move or a turn of every pool.** -/
theorem Step.at_pool (step : Step g h g') (hp : g.scene.pools[i]? = some p) :
    (∃ k q es, p.perform? g.scene.moment k = some (q, es) ∧ g'.scene.pools[i]? = some q ∧
      trailAt (.pool i) h = es.map event ∧
        g'.scene.parentCancelled = g.scene.parentCancelled) ∨
    ∃ x : Pool.Turn α, g'.scene.pools[i]? = some (x.apply g.scene.moment p).1 ∧
      trailAt (.pool i) h = (x.apply g.scene.moment p).2 ∧
        g'.scene.parentCancelled = (g.scene.parentCancelled || x.follows) := by
  have still : ∀ {s : Scene α} {k : History α}, s.pools[i]? = some p → trailAt (.pool i) k = [] →
      s.parentCancelled = g.scene.parentCancelled →
      ∃ x : Pool.Turn α, s.pools[i]? = some (x.apply g.scene.moment p).1 ∧
        trailAt (.pool i) k = (x.apply g.scene.moment p).2 ∧
          s.parentCancelled = (g.scene.parentCancelled || x.follows) :=
    fun hs hk hparent => ⟨.elsewhere, hs, hk, by rw [hparent]; exact (Bool.or_false _).symm⟩
  cases step with
  | order c =>
    obtain ⟨hpool, htrail⟩ := order_pool hp g.calls c
    refine .inr ⟨c.turn g.calls g.scene i p, hpool, htrail, ?_⟩
    rw [Command.follows_turn]
    exact parentCancelled_order g.calls g.scene c
  | @pool j p' q es k here move =>
    rw [ofEntries_map]
    by_cases hj : j = i
    · subst hj
      rw [here] at hp
      cases hp
      refine .inl ⟨k, q, es, move, ?_, trailAt_ofTrail_self _ _, rfl⟩
      exact List.getElem?_set_self (List.getElem?_eq_some_iff.1 here).1
    · exact .inr (still ((List.getElem?_set_ne hj).trans hp) (trailAt_pool_of_ne hj _) rfl)
  | batch k here move =>
    rw [ofEntries_map]
    exact .inr (still hp (trailAt_pool_batch _ _ _) rfl)
  | finish id =>
    obtain ⟨hpool, htrail⟩ := everywhere_pool hp (Pool.finish id) (Batch.finish id)
    exact .inr ⟨.finish id, hpool, htrail, (Bool.or_false _).symm⟩
  | clock time later => exact .inr (still hp rfl rfl)

/-- **A step of a scene is a move or a turn of every batch, or gives up the batch.** -/
theorem Step.at_batch (step : Step g h g') (hb : g.scene.batches[i]? = some b) :
    (∃ k c es, b.perform? g.scene.moment k = some (c, es) ∧ g'.scene.batches[i]? = some c ∧
      trailAt (.batch i) h = es.map event ∧
        g'.scene.parentCancelled = g.scene.parentCancelled ∧
          h = ofEntries (es.map (Place.batch i, ·))) ∨
    (∃ x : Batch.Turn, g'.scene.batches[i]? = some (x.apply b).1 ∧
      trailAt (.batch i) h = (x.apply b).2.map event ∧
        g'.scene.parentCancelled = (g.scene.parentCancelled || x.follows)) ∨
    (b.pending = true ∧ g'.scene.batches[i]? = some b.abandon.1 ∧
      trailAt (.batch i) h = b.abandon.2.map event ∧
        g'.scene.parentCancelled = g.scene.parentCancelled) := by
  have still : ∀ {s : Scene α} {k : History α}, s.batches[i]? = some b →
      trailAt (.batch i) k = [] → s.parentCancelled = g.scene.parentCancelled →
      ∃ x : Batch.Turn, s.batches[i]? = some (x.apply b).1 ∧
        trailAt (.batch i) k = (x.apply b).2.map event ∧
          s.parentCancelled = (g.scene.parentCancelled || x.follows) :=
    fun hs hk hparent => ⟨.elsewhere, hs, hk, by rw [hparent]; exact (Bool.or_false _).symm⟩
  cases step with
  | order c =>
    have hparent := parentCancelled_order g.calls g.scene c
    rcases order_batch hb g.calls c with ⟨hpending, rfl, hbatch, htrail⟩ | ⟨hbatch, htrail⟩
    · exact .inr (.inr ⟨hpending, hbatch, htrail, hparent.trans (Bool.or_false _)⟩)
    · refine .inr (.inl ⟨_, hbatch, htrail, ?_⟩)
      rw [Action.follows_turn]
      exact hparent
  | pool k here move =>
    rw [ofEntries_map]
    exact .inr (.inl (still hb (trailAt_batch_pool _ _ _) rfl))
  | @batch j b' c es k here move =>
    rw [ofEntries_map]
    by_cases hj : j = i
    · subst hj
      rw [here] at hb
      cases hb
      refine .inl ⟨k, c, es, move, ?_, trailAt_ofTrail_self _ _, rfl, (ofEntries_map _ es).symm⟩
      exact List.getElem?_set_self (List.getElem?_eq_some_iff.1 here).1
    · exact .inr (.inl
        (still ((List.getElem?_set_ne hj).trans hb) (trailAt_batch_of_ne hj _) rfl))
  | finish id =>
    obtain ⟨d, es, hd, htrail, -⟩ := (Changes.finish id g.scene).batch hb
    obtain ⟨hbatch, heventsAt, -⟩ := Applies.finish hb id
    refine .inr (.inl ⟨.finish id, hbatch, ?_, (Bool.or_false _).symm⟩)
    have hevents := eventsAt_events _ _ htrail
    rw [events_ofEntries] at hevents
    rw [htrail, ← hevents, heventsAt]
  | clock time later => exact .inr (.inl (still hb rfl rfl))

/-! ## New pools and batches -/

/-- A pool that has not been there before has just been made, and is cancelled if it follows a
cancelled parent. -/
theorem Step.new_pool (step : Step g h g') (hnone : g.scene.pools[i]? = none)
    (hp : g'.scene.pools[i]? = some p) :
    ∃ n hn child, p = Pool.fresh n hn child (child && g.scene.parentCancelled) ∧
      trailAt (.pool i) h = p.opening.map event ∧
        g'.scene.parentCancelled = g.scene.parentCancelled ∧
          g' = ⟨g.calls + 1, (g.scene.order g.calls (.newPool n child)).1⟩ ∧
            h = (g.scene.order g.calls (.newPool n child)).2 := by
  have absent : g'.scene.pools.length ≠ g.scene.pools.length := by
    intro hlen
    have hlt := (List.getElem?_eq_some_iff.1 hp).1
    have hle := List.getElem?_eq_none_iff.1 hnone
    omega
  cases step with
  | order c =>
    by_cases hc : ∃ size child, c = .newPool size child
    · obtain ⟨size, child, rfl⟩ := hc
      change (g.scene.newPool size child).2.1.pools[i]? = some p at hp
      rcases newPool_cases size child g.scene with heq | ⟨hn, heq⟩
      · rw [heq, hnone] at hp
        cases hp
      · rw [heq] at hp
        obtain ⟨rfl, rfl⟩ := eq_of_getElem?_concat hnone hp
        refine ⟨size, hn, child, rfl, ?_, ?_, rfl, rfl⟩
        · show trailAt (.pool g.scene.pools.length) (ofEntries (g.scene.newPool size child).2.2) = _
          rw [heq, ofEntries_map, trailAt_ofTrail_self]
        · show (g.scene.newPool size child).2.1.parentCancelled = _
          rw [heq]
    · exact absurd ((length_order _ _ c).1 fun size child h => hc ⟨size, child, h⟩) absent
  | pool k here move => exact absurd (List.length_set ..) absent
  | batch k here move => exact absurd rfl absent
  | finish id => exact absurd (length_everywhere _ _ _).1 absent
  | clock time later => exact absurd rfl absent

/-- A batch that has not been there before has just been started. -/
theorem Step.new_batch (step : Step g h g') (hnone : g.scene.batches[i]? = none)
    (hb : g'.scene.batches[i]? = some b) :
    ∃ call n hn tasks admission,
      b = Batch.initial g.scene.now call n hn tasks admission g.scene.parentCancelled ∧
        trailAt (.batch i) h = batched call tasks :: b.pool.opening.map event ∧
          g'.scene.parentCancelled = g.scene.parentCancelled ∧ g'.scene.now = g.scene.now ∧
            ∃ size, g' = ⟨g.calls + 1, (g.scene.order g.calls (.batch size tasks admission)).1⟩ ∧
              h = (g.scene.order g.calls (.batch size tasks admission)).2 := by
  have absent : g'.scene.batches.length ≠ g.scene.batches.length := by
    intro hlen
    have hlt := (List.getElem?_eq_some_iff.1 hb).1
    have hle := List.getElem?_eq_none_iff.1 hnone
    omega
  cases step with
  | order c =>
    by_cases hc : ∃ size tasks admission, c = .batch size tasks admission
    · obtain ⟨size, tasks, admission, rfl⟩ := hc
      change (g.scene.newBatch g.calls size tasks admission).1.batches[i]? = some b at hb
      rcases newBatch_cases g.calls size tasks admission g.scene with heq | ⟨n, hn, heq⟩
      · rw [heq, hnone] at hb
        cases hb
      · rw [heq] at hb
        obtain ⟨rfl, rfl⟩ := eq_of_getElem?_concat hnone hb
        refine ⟨g.calls, n, hn, tasks, admission, rfl, ?_, ?_, now_order _ _ _, size, rfl, rfl⟩
        · show trailAt _ ((.batch g.scene.batches.length, batched g.calls tasks) ::
            ofEntries (g.scene.newBatch g.calls size tasks admission).2) = _
          rw [heq, ofEntries_map]
          exact trailAt_ofTrail_self _ (batched g.calls tasks :: _)
        · exact (newBatch_frame g.calls size tasks admission g.scene).2.1
    · exact absurd ((length_order _ _ c).2 fun size tasks admission h =>
        hc ⟨size, tasks, admission, h⟩) absent
  | pool k here move => exact absurd rfl absent
  | batch k here move => exact absurd (List.length_set ..) absent
  | finish id => exact absurd (length_everywhere _ _ _).2 absent
  | clock time later => exact absurd rfl absent

end Stage

end Workforce
