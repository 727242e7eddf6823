import Workforce.Proofs.Scene.Stage
import Workforce.Proofs.Commuting
/-!
# Internal moves of a scene

The internal moves of a scene are those of its pools and of its batches. They can be made in any
order; however they are made, every move lowers a bound. Letting a scene settle is one of these
orders: first the pools, one by one, then the batches.

## Main definitions

* `Workforce.Scene.Move`, `Scene.moveAt?`, `Scene.move?` — the internal moves of a scene.
* `Workforce.Scene.play?` — internal moves made in a given order.
* `Workforce.Scene.Plays` — some order leads from one scene to another.
* `Workforce.Scene.work` — a bound on the number of moves.

## Main results

* `Workforce.Scene.length_le_of_play?` — every order in which moves are made ends.
* `Workforce.Scene.plays_settle` — letting a scene settle is one of these orders.
* `Workforce.Scene.stuck_iff` — no move is enabled when nothing can move anywhere.
-/

namespace Workforce

open Occurrence Trail History

variable {α : Type}

namespace Scene

/-! ## Moves -/

/-- The internal moves of a scene: of the pool or of the batch of that index. -/
inductive Move where
  | pool (i : Nat) (k : Pool.Move)
  | batch (i : Nat) (k : Batch.Move)
deriving DecidableEq

/-- A move carried out at a given moment, if it is enabled. -/
def moveAt? (m : Moment) (s : Scene α) : Move → Option (Scene α × List (Entry α))
  | .pool i k => s.pools[i]?.bind fun p =>
      (p.perform? m k).map fun r => (s.putPool i r, r.2.map (Place.pool i, ·))
  | .batch i k => s.batches[i]?.bind fun b =>
      (b.perform? m k).map fun r => (s.putBatch i r, r.2.map (Place.batch i, ·))

/-- A move carried out, if it is enabled. -/
def move? (s : Scene α) : Move → Option (Scene α × List (Entry α)) := moveAt? s.moment s

/-- Moves carried out in the given order, each of which must be enabled in its turn. -/
def play? (s : Scene α) (ks : List Move) : Option (Scene α × List (Entry α)) :=
  Moves.play? move? s ks

/-- Some order of moves leads from one scene to another, with what happens. -/
def Plays (s : Scene α) (es : List (Entry α)) (t : Scene α) : Prop :=
  ∃ ks, s.play? ks = some (t, es)

variable {s t u : Scene α} {es fs : List (Entry α)} {i : Nat} {k : Move} {ks : List Move}
  {m : Moment}

/-- A pool moves. -/
lemma moveAt?_pool_iff {k : Pool.Move} : s.moveAt? m (.pool i k) = some (t, es) ↔
    ∃ p q fs, s.pools[i]? = some p ∧ p.perform? m k = some (q, fs) ∧
      t = s.putPool i (q, fs) ∧ es = fs.map (Place.pool i, ·) := by
  constructor
  · intro h
    obtain ⟨p, hp, h⟩ := Option.bind_eq_some_iff.1 h
    obtain ⟨⟨q, fs⟩, hq, heq⟩ := Option.map_eq_some_iff.1 h
    cases heq
    exact ⟨p, q, fs, hp, hq, rfl, rfl⟩
  · rintro ⟨p, q, fs, hp, hq, rfl, rfl⟩
    simp [moveAt?, hp, hq]

/-- A batch moves. -/
lemma moveAt?_batch_iff {k : Batch.Move} : s.moveAt? m (.batch i k) = some (t, es) ↔
    ∃ b c fs, s.batches[i]? = some b ∧ b.perform? m k = some (c, fs) ∧
      t = s.putBatch i (c, fs) ∧ es = fs.map (Place.batch i, ·) := by
  constructor
  · intro h
    obtain ⟨b, hb, h⟩ := Option.bind_eq_some_iff.1 h
    obtain ⟨⟨c, fs⟩, hc, heq⟩ := Option.map_eq_some_iff.1 h
    cases heq
    exact ⟨b, c, fs, hb, hc, rfl, rfl⟩
  · rintro ⟨b, c, fs, hb, hc, rfl, rfl⟩
    simp [moveAt?, hb, hc]

/-- A move changes neither the time nor, unless it discards a frail task, whether discards panic. -/
lemma moment_of_moveAt? {k : Move} (h : s.moveAt? m k = some (t, es)) : t.now = s.now ∧
    t.brittle = (s.brittle && !(es.map Prod.snd).any Event.isFrailDiscard) := by
  cases k with
  | pool i k =>
    obtain ⟨p, q, fs, -, -, rfl, rfl⟩ := moveAt?_pool_iff.1 h
    exact ⟨rfl, by simp [putPool, after, List.any_map, Function.comp_def]⟩
  | batch i k =>
    obtain ⟨b, c, fs, -, -, rfl, rfl⟩ := moveAt?_batch_iff.1 h
    exact ⟨rfl, by simp [putBatch, after, List.any_map, Function.comp_def]⟩

/-- No move is enabled when nothing can move anywhere. -/
theorem stuck_iff : Moves.Stuck move? s ↔ (∀ p ∈ s.pools, p.step? s.moment = none) ∧
    ∀ b ∈ s.batches, b.step? s.moment = none := by
  constructor
  · intro h
    refine ⟨fun p hp => Pool.step?_eq_none_iff.2 fun k => ?_,
      fun b hb => Batch.step?_eq_none_iff.2 fun k => ?_⟩
    · obtain ⟨i, hi⟩ := List.getElem?_of_mem hp
      simpa [move?, moveAt?, hi] using h (.pool i k)
    · obtain ⟨i, hi⟩ := List.getElem?_of_mem hb
      simpa [move?, moveAt?, hi] using h (.batch i k)
  · rintro ⟨hpools, hbatches⟩ k
    cases k with
    | pool i k =>
      cases hp : s.pools[i]? with
      | none => simp [move?, moveAt?, hp]
      | some p =>
        have hnone := hpools p (List.mem_of_getElem? hp)
        simp [move?, moveAt?, hp, Pool.step?_eq_none_iff.1 hnone k]
    | batch i k =>
      cases hb : s.batches[i]? with
      | none => simp [move?, moveAt?, hb]
      | some b =>
        have hnone := hbatches b (List.mem_of_getElem? hb)
        simp [move?, moveAt?, hb, Batch.step?_eq_none_iff.1 hnone k]

/-! ## Every order ends -/

/-- A sum changes by what one of the numbers changes by. -/
lemma total_set {σ : Type} (count : σ → Nat) {xs : List σ} {i : Nat} {x : σ}
    (hx : xs[i]? = some x) (y : σ) :
    total count (xs.set i y) + count x = total count xs + count y := by
  induction xs generalizing i with
  | nil => cases hx
  | cons z xs ih =>
    cases i with
    | zero =>
      cases hx
      simp only [List.set_cons_zero, total]
      omega
    | succ i =>
      have := ih (by simpa using hx)
      simp only [List.set_cons_succ, total]
      omega

/-- A bound on the number of moves that are still possible without an action from outside. -/
def work (s : Scene α) : Nat := total Pool.work s.pools + total Batch.work s.batches

/-- Every move lowers the bound. -/
lemma work_of_move? (h : s.move? k = some (t, es)) : t.work < s.work := by
  cases k with
  | pool i k =>
    obtain ⟨p, q, fs, hp, hq, rfl, -⟩ := moveAt?_pool_iff.1 h
    have hset := total_set Pool.work hp q
    have hlower := (Pool.lowers_of_perform? hq).work
    simp only [work, putPool, after]
    omega
  | batch i k =>
    obtain ⟨b, c, fs, hb, hc, rfl, -⟩ := moveAt?_batch_iff.1 h
    have hset := total_set Batch.work hb c
    have hlower := (Batch.lowers_of_perform? hc).work
    simp only [work, putBatch, after]
    omega

/-- **Every order in which moves are made ends**: it has no more moves than the bound says. -/
theorem length_le_of_play? (h : s.play? ks = some (t, es)) : ks.length ≤ s.work :=
  Nat.le_trans (Nat.le_add_right _ _)
    (Moves.length_le_of_play? (fun _ _ _ _ h => work_of_move? h) h)

/-! ## Letting a scene settle is one order of its moves -/

/-- Nothing moves. -/
lemma Plays.refl (s : Scene α) : Plays s [] s := ⟨[], rfl⟩

/-- Moves are made one after the other. -/
lemma Plays.trans (h : Plays s es t) (h' : Plays t fs u) : Plays s (es ++ fs) u := by
  obtain ⟨ks, hk⟩ := h
  obtain ⟨ls, hl⟩ := h'
  exact ⟨ks ++ ls, Moves.play?_append hk hl⟩

/-- One move. -/
lemma Plays.single (h : s.move? k = some (t, es)) : Plays s es t := by
  refine ⟨[k], Moves.play?_cons_eq_some_iff.2 ⟨t, es, [], h, rfl, ?_⟩⟩
  rw [List.append_nil]

/-- What a change of one of the pools does to the scene. -/
lemma putPool_append (s : Scene α) (brittle : Bool) (before after : List (Pool α)) (p : Pool α)
    (r : Pool α × List (Event α)) :
    ({ s with brittle := brittle, pools := before ++ p :: after } : Scene α).putPool
      before.length r =
        { s with
          brittle := brittle && !r.2.any Event.isFrailDiscard
          pools := before ++ r.1 :: after } := by
  simp [putPool, Scene.after, List.any_map, Function.comp_def]

/-- What a change of one of the batches does to the scene. -/
lemma putBatch_append (s : Scene α) (brittle : Bool) (before after : List (Batch α)) (b : Batch α)
    (r : Batch α × List (Event α)) :
    ({ s with brittle := brittle, batches := before ++ b :: after } : Scene α).putBatch
      before.length r =
        { s with
          brittle := brittle && !r.2.any Event.isFrailDiscard
          batches := before ++ r.1 :: after } := by
  simp [putBatch, Scene.after, List.any_map, Function.comp_def]

/-- Whether one of the events of several components is the discard of a frail task. -/
lemma any_entries {σ : Type} (place : Nat → Place) (rs : List (σ × List (Event α))) :
    (entries place rs).any (·.2.isFrailDiscard) =
      rs.any fun r => r.2.any Event.isFrailDiscard := by
  rw [entries]
  generalize 0 = n
  induction rs generalizing n with
  | nil => rfl
  | cons r rs ih =>
    rw [List.zipIdx_cons, List.flatMap_cons, List.any_append, ih, List.any_cons, List.any_map]
    rfl

/-- A pool settles in some order of its moves. -/
lemma Plays.settle_pool (s : Scene α) (brittle : Bool) (before after : List (Pool α))
    (p : Pool α) :
    Plays { s with brittle := brittle, pools := before ++ p :: after }
      ((p.settle ⟨s.now, brittle⟩).2.map (Place.pool before.length, ·))
      { s with
        brittle := brittle && !(p.settle ⟨s.now, brittle⟩).2.any Event.isFrailDiscard
        pools := before ++ (p.settle ⟨s.now, brittle⟩).1 :: after } := by
  generalize hm : (⟨s.now, brittle⟩ : Moment) = m
  fun_induction Pool.settle m p generalizing brittle with
  | case1 m p h =>
    rw [List.any_nil, Bool.not_false, Bool.and_true]
    exact .refl _
  | case2 m p q es h r fs hr ih =>
    subst hm
    obtain ⟨k, hk⟩ := Pool.exists_move_of_step? h
    have hfirst : Plays { s with brittle := brittle, pools := before ++ p :: after } _ _ :=
      .single (moveAt?_pool_iff (i := before.length) |>.2 ⟨p, q, es, by simp, hk, rfl, rfl⟩)
    rw [putPool_append] at hfirst
    have hrest := ih (brittle && !es.any Event.isFrailDiscard) rfl
    rw [hr] at hrest
    rw [List.map_append, List.any_append, Bool.not_or, ← Bool.and_assoc]
    exact hfirst.trans hrest

/-- A batch settles in some order of its moves. -/
lemma Plays.settle_batch (s : Scene α) (brittle : Bool) (before after : List (Batch α))
    (b : Batch α) :
    Plays { s with brittle := brittle, batches := before ++ b :: after }
      ((b.settle ⟨s.now, brittle⟩).2.map (Place.batch before.length, ·))
      { s with
        brittle := brittle && !(b.settle ⟨s.now, brittle⟩).2.any Event.isFrailDiscard
        batches := before ++ (b.settle ⟨s.now, brittle⟩).1 :: after } := by
  generalize hm : (⟨s.now, brittle⟩ : Moment) = m
  fun_induction Batch.settle m b generalizing brittle with
  | case1 m b h =>
    rw [List.any_nil, Bool.not_false, Bool.and_true]
    exact .refl _
  | case2 m b c es h r fs hr ih =>
    subst hm
    obtain ⟨k, hk⟩ := Batch.exists_move_of_step? h
    have hfirst : Plays { s with brittle := brittle, batches := before ++ b :: after } _ _ :=
      .single (moveAt?_batch_iff (i := before.length) |>.2 ⟨b, c, es, by simp, hk, rfl, rfl⟩)
    rw [putBatch_append] at hfirst
    have hrest := ih (brittle && !es.any Event.isFrailDiscard) rfl
    rw [hr] at hrest
    rw [List.map_append, List.any_append, Bool.not_or, ← Bool.and_assoc]
    exact hfirst.trans hrest

/-- Several components change by moves, one after the other, if each does. -/
lemma Plays.components {σ : Type} (state : Bool → List σ → Scene α) (place : Nat → Place)
    (f : Bool → σ → σ × List (Event α))
    (step : ∀ brittle before x after, Plays (state brittle (before ++ x :: after))
      ((f brittle x).2.map (place before.length, ·))
      (state (brittle && !(f brittle x).2.any Event.isFrailDiscard)
        (before ++ (f brittle x).1 :: after)))
    (brittle : Bool) (xs before : List σ) :
    Plays (state brittle (before ++ xs))
      (((sweep f brittle xs).zipIdx before.length).flatMap fun x => x.1.2.map (place x.2, ·))
      (state (brittle && !(sweep f brittle xs).any fun r => r.2.any Event.isFrailDiscard)
        (before ++ (sweep f brittle xs).map Prod.fst)) := by
  induction xs generalizing brittle before with
  | nil =>
    rw [sweep, List.any_nil, Bool.not_false, Bool.and_true]
    exact .refl _
  | cons x xs ih =>
    have hfirst := step brittle before x xs
    have hrest := ih (brittle && !(f brittle x).2.any Event.isFrailDiscard)
      (before ++ [(f brittle x).1])
    rw [List.length_append, List.length_singleton, List.append_assoc, List.append_assoc] at hrest
    rw [sweep, List.zipIdx_cons, List.flatMap_cons, List.any_cons, List.map_cons, Bool.not_or,
      ← Bool.and_assoc]
    exact hfirst.trans hrest

/-- **Letting a scene settle is one order of its moves.** -/
theorem plays_settle (s : Scene α) : Plays s s.settle.2 s.settle.1 := by
  have hpools := Plays.components (fun brittle ps => { s with brittle := brittle, pools := ps })
    Place.pool (fun b => Pool.settle ⟨s.now, b⟩)
    (fun brittle before p after => .settle_pool s brittle before after p) s.brittle s.pools []
  -- the scene in which all pools have settled
  let t : Scene α := { s with
    pools := (sweep (fun b => Pool.settle ⟨s.now, b⟩) s.brittle s.pools).map Prod.fst }
  have hbatches := Plays.components (fun brittle bs => { t with brittle := brittle, batches := bs })
    Place.batch (fun b => Batch.settle ⟨s.now, b⟩)
    (fun brittle before b after => .settle_batch t brittle before after b)
    (s.brittle && !(sweep (fun b => Pool.settle ⟨s.now, b⟩) s.brittle s.pools).any fun r =>
      r.2.any Event.isFrailDiscard) s.batches []
  have hall := hpools.trans hbatches
  simp only [Scene.settle, everywhere, Scene.after, any_entries]
  exact hall

end Scene

/-! ## Orders of moves are runs -/

/-- Moves made in some order are a run of the scene. -/
theorem Stage.Steps.of_plays {s t : Scene α} {es : List (Entry α)} (n : Nat)
    (h : Scene.Plays s es t) : Stage.Steps ⟨n, s⟩ (ofEntries es) ⟨n, t⟩ := by
  obtain ⟨ks, hk⟩ := h
  induction ks generalizing s es with
  | nil =>
    cases hk
    exact .refl _
  | cons k ks ih =>
    obtain ⟨u, fs, gs, hu, hrest, rfl⟩ := Moves.play?_cons_eq_some_iff.1 hk
    have hfirst : Stage.Step ⟨n, s⟩ (ofEntries fs) ⟨n, u⟩ := by
      cases k with
      | pool i k =>
        obtain ⟨p, q, es, hp, hq, rfl, rfl⟩ := Scene.moveAt?_pool_iff.1 hu
        exact .pool ⟨n, s⟩ k hp hq
      | batch i k =>
        obtain ⟨b, c, es, hb, hc, rfl, rfl⟩ := Scene.moveAt?_batch_iff.1 hu
        exact .batch ⟨n, s⟩ k hb hc
    rw [ofEntries_append]
    exact (Chain.single hfirst).trans (ih hrest)

end Workforce
