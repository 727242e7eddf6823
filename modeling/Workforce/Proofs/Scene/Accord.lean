import Workforce.Proofs.Scene.Mirror
/-!
# Two scenes in accord

Two scenes are looked at side by side while the same is done to both. They have the same number of
pools and of batches, and each pool and each batch of the first scene has its counterpart in the
second one. If whatever a pool or a batch does by itself has its counterpart too, then the two
scenes stay in accord while they settle, while tasks end and while the clock moves, and everything
happens in both at the same times.

## Main definitions

* `Workforce.Accord` — what it means that two scenes are in accord.
* `Workforce.Accord.Keeps` — what is done to a pool, or to a batch, keeps the accord.
* `Workforce.Accord.Lawful` — so does all that they do by themselves.
* `Workforce.Accord.Scenes` — two scenes in accord.
* `Workforce.Accord.Acts`, `Accord.Runs` — what happens to two scenes leaves them in accord.
* `Workforce.timeline` — what happened, with the times.

## Main results

* `Workforce.Accord.Scenes.everywhere` — the same is done to every pool and every batch.
* `Workforce.Accord.Acts.act` — both scenes settle, and the due tasks end.
* `Workforce.Accord.Scenes.advanceTo`, `Scenes.run` — the clock moves in both.
* `Workforce.Accord.Scenes.perform` — a command is given in both.

## Implementation notes

Whether discards still panic depends on all that has happened in the scene before, in whatever place
that was. So `past` goes along: what has happened so far in the first scene. It may be known that
some things do not happen there, which is said of the past that there will be in the end
(`Accord.good`).
-/

namespace Workforce

open History

variable {α σ τ : Type}

/-! ## Components side by side -/

/-- The elements of two lists are related in pairs, each pair according to its place. -/
inductive Side (R : Nat → σ → τ → Prop) : Nat → List σ → List τ → Prop
  | nil (k : Nat) : Side R k [] []
  | cons {k : Nat} {x : σ} {y : τ} {xs : List σ} {ys : List τ} (head : R k x y)
      (tail : Side R (k + 1) xs ys) : Side R k (x :: xs) (y :: ys)

namespace Side

variable {R : Nat → σ → τ → Prop} {k i : Nat} {xs : List σ} {ys : List τ} {x : σ} {y : τ}

/-- There are as many on both sides. -/
lemma length_eq (h : Side R k xs ys) : ys.length = xs.length := by
  induction h with
  | nil => rfl
  | cons _ _ ih => simp [ih]

/-- Each one has its counterpart. -/
lemma exists_of_getElem? (h : Side R k xs ys) (hx : xs[i]? = some x) :
    ∃ y, ys[i]? = some y ∧ R (k + i) x y := by
  induction h generalizing i with
  | nil => cases hx
  | @cons k x' y' xs ys head tail ih =>
    cases i with
    | zero =>
      cases hx
      exact ⟨y', rfl, head⟩
    | succ i =>
      obtain ⟨y, hy, hr⟩ := ih hx
      exact ⟨y, hy, (Nat.add_right_comm k 1 i ▸ hr : R (k + i + 1) x y)⟩

/-- A pair may be replaced. -/
lemma set (h : Side R k xs ys) (hr : R (k + i) x y) : Side R k (xs.set i x) (ys.set i y) := by
  induction h generalizing i with
  | nil => exact .nil _
  | @cons k x' y' xs ys head tail ih =>
    cases i with
    | zero => exact .cons hr tail
    | succ i => exact .cons head (ih (Nat.add_right_comm k 1 i ▸ hr : R (k + 1 + i) x y))

/-- A pair may be added at the end. -/
lemma concat (h : Side R k xs ys) (hr : R (k + xs.length) x y) :
    Side R k (xs ++ [x]) (ys ++ [y]) := by
  induction h with
  | nil => exact .cons hr (.nil _)
  | @cons k x' y' xs ys head tail ih =>
    refine .cons head (ih ?_)
    have hk : k + 1 + xs.length = k + (x' :: xs).length := by
      rw [List.length_cons]
      omega
    rwa [hk]

/-- What is the same in each pair is the same on both sides. -/
lemma map_eq {υ : Type} {f : σ → υ} {g : τ → υ} (h : Side R k xs ys)
    (same : ∀ i x y, R i x y → g y = f x) : ys.map g = xs.map f := by
  induction h with
  | nil => rfl
  | cons head tail ih => rw [List.map_cons, List.map_cons, same _ _ _ head, ih]

end Side

/-! ## Accord -/

/-- The event tells that a pool has been made, or that a batch without tasks is done. -/
def Event.Opens : Event α → Prop
  | poolStarted _ => True
  | workerStarted => True
  | batchAnswered _ answer => answer = .batch (.ok [])
  | _ => False

/-- What it means that two scenes are in accord, and that what happens in them is. -/
structure Accord (α : Type) where
  /-- A pool and its counterpart at that index. -/
  pool : Nat → Pool α → Pool α → Prop
  /-- A batch and its counterpart. -/
  batch : Nat → Batch α → Batch α → Prop
  /-- Whether discards still panic in the two scenes, after what has happened in the first one. -/
  flags : List (Entry α) → Bool → Bool → Prop
  /-- What can have happened in the first scene. -/
  good : List (Entry α) → Prop
  /-- What happens in the first scene, and what happens meanwhile in the second one. -/
  seen : List (Entry α) → List (Entry α) → Prop
  /-- What can be done to a pool in both scenes. -/
  minds : Pool.Turn α → Prop

namespace Accord

variable {A : Accord α}

/-- Something is done to a component and to its counterpart: they stay counterparts, what happens is
in accord, and it is still known whether discards panic. -/
structure Goes (A : Accord α) (R : σ → σ → Prop) (place : Place) (past : List (Entry α))
    (brittle brittle' : Bool) (x y : σ × List (Event α)) : Prop where
  rel : R x.1 y.1
  entries : A.seen (x.2.map (place, ·)) (y.2.map (place, ·))
  flags : A.flags (past ++ x.2.map (place, ·)) (brittle && !noisy x.2) (brittle' && !noisy y.2)

/-- What is done to components of a kind keeps them in accord. -/
def Keeps (A : Accord α) (R : Nat → σ → σ → Prop) (place : Nat → Place)
    (f g : Moment → σ → σ × List (Event α)) : Prop :=
  ∀ ⦃i : Nat⦄ ⦃past : List (Entry α)⦄ ⦃now : Nat⦄ ⦃brittle brittle' : Bool⦄ ⦃x y : σ⦄, R i x y →
    A.flags past brittle brittle' → A.good (past ++ (f ⟨now, brittle⟩ x).2.map (place i, ·)) →
      A.Goes (R i) (place i) past brittle brittle' (f ⟨now, brittle⟩ x) (g ⟨now, brittle'⟩ y)

/-- Gives up the call of a batch. -/
def giveUp (call : Nat) (b : Batch α) : Batch α × List (Event α) :=
  if b.pending && b.call == call then b.abandon else (b, [])

/-- What pools and batches do by themselves keeps the accord, and so do the ends of tasks, the
cancellation of the parent and what can be done to pools. -/
structure Lawful (A : Accord α) : Prop where
  /-- What cannot happen later cannot have happened before. -/
  good_of_append : ∀ {es fs}, A.good (es ++ fs) → A.good es
  /-- It makes no difference whether discards panic where no frail task is discarded. -/
  quiet : ∀ {past brittle brittle' es}, A.flags past brittle brittle' →
    noisy (es.map Prod.snd) = false → A.flags (past ++ es) brittle brittle'
  /-- Counterparts run the same tasks, and their handles are held or not. -/
  pool_view : ∀ {i p q}, A.pool i p q → q.running = p.running ∧ q.held = p.held
  /-- Batches moreover have the same calls and limits. -/
  batch_view : ∀ {i b c}, A.batch i b c → c.pool.running = b.pool.running ∧
    c.pending = b.pending ∧ c.call = b.call ∧ c.since = b.since ∧ c.deadline = b.deadline
  settle_pool : A.Keeps A.pool .pool Pool.settle Pool.settle
  settle_batch : A.Keeps A.batch .batch Batch.settle Batch.settle
  turn : ∀ {x : Pool.Turn α}, A.minds x →
    A.Keeps A.pool .pool (fun m p => x.act m p) fun m p => x.act m p
  finish : ∀ id, A.minds (.finish id)
  finish_batch : ∀ id, A.Keeps A.batch .batch (fun _ => Batch.finish id) fun _ => Batch.finish id
  follow : A.minds .follow
  follow_batch : A.Keeps A.batch .batch (fun _ b => (b.parentCancelled, []))
    fun _ b => (b.parentCancelled, [])
  /-- A call that can be given up waits on both pools or on none. -/
  awaits : ∀ {i p q call}, A.pool i p q → A.minds (.abandon call) →
    (call ∈ q.submitting.filterMap (·.caller) ++ q.receiving.filterMap (·.caller) ↔
      call ∈ p.submitting.filterMap (·.caller) ++ p.receiving.filterMap (·.caller))
  abandon_batch : ∀ {call}, A.minds (.abandon call) →
    A.Keeps A.batch .batch (fun _ => giveUp call) fun _ => giveUp call
  /-- A new pool is its own counterpart. -/
  fresh : ∀ i n hn child cancelled, A.pool i (.fresh n hn child cancelled)
    (.fresh n hn child cancelled)
  seen_append : ∀ {es fs es' fs'}, A.seen es fs → A.seen es' fs' → A.seen (es ++ es') (fs ++ fs')
  /-- What is told when something is made may happen in both scenes. -/
  seen_refl : ∀ {es}, (∀ x ∈ es, x.2.Opens) → A.seen es es

/-- Two scenes in accord, when `past` has happened in the first one. -/
structure Scenes (A : Accord α) (past : List (Entry α)) (s u : Scene α) : Prop where
  now : u.now = s.now
  parent : u.parentCancelled = s.parentCancelled
  pools : Side A.pool 0 s.pools u.pools
  batches : Side A.batch 0 s.batches u.batches
  flags : A.flags past s.brittle u.brittle

/-- What is done at once leaves two scenes in accord. -/
structure Acts (A : Accord α) (past : List (Entry α)) (r r' : Scene α × List (Entry α)) :
    Prop where
  scenes : A.Scenes (past ++ r.2) r.1 r'.1
  entries : A.seen r.2 r'.2

/-- So does what follows, phase by phase and at the same times. -/
structure Runs (A : Accord α) (past : List (Entry α)) (r r' : Scene α × List (Phase α)) :
    Prop where
  scenes : A.Scenes (past ++ allEntries r.2) r.1 r'.1
  phases : List.Forall₂ (fun p q => q.time = p.time ∧ A.seen p.entries q.entries) r.2 r'.2

section

variable {past : List (Entry α)} {s t u v : Scene α} {r r' : Scene α × List (Entry α)}
  {ps qs ps' qs' : List (Phase α)} {R : Nat → σ → σ → Prop} {place : Nat → Place}

/-! ### Changes everywhere -/

/-- What is reported of components, the first of which is at the given index. -/
def entriesFrom (place : Nat → Place) (k : Nat) (rs : List (σ × List (Event α))) :
    List (Entry α) :=
  (rs.zipIdx k).flatMap fun (r, i) => r.2.map (place i, ·)

lemma entriesFrom_cons (place : Nat → Place) (k : Nat) (r : σ × List (Event α))
    (rs : List (σ × List (Event α))) : entriesFrom place k (r :: rs) =
      r.2.map (place k, ·) ++ entriesFrom place (k + 1) rs :=
  List.flatMap_cons

/-- Whether a frail task is discarded does not depend on where. -/
lemma any_map_frail (place : Place) (es : List (Event α)) :
    (es.map (place, ·)).any (·.2.isFrailDiscard) = noisy es := by
  rw [List.any_map]
  rfl

/-- So it is, whether it is told of events or of entries. -/
lemma noisy_map_map (place : Place) (es : List (Event α)) :
    noisy ((es.map (place, ·)).map Prod.snd) = noisy es := by
  rw [List.map_map, Function.comp_def, List.map_id']

/-- **What is done to components one after the other** keeps them in accord. -/
theorem Keeps.sweep (hA : A.Lawful) {f g : Moment → σ → σ × List (Event α)}
    (hf : A.Keeps R place f g) {k : Nat} {xs ys : List σ} (h : Side R k xs ys) {now : Nat} :
    ∀ {past brittle brittle'}, A.flags past brittle brittle' →
      A.good (past ++ entriesFrom place k (sweep (fun b => f ⟨now, b⟩) brittle xs)) →
      Side R k ((sweep (fun b => f ⟨now, b⟩) brittle xs).map Prod.fst)
          ((sweep (fun b => g ⟨now, b⟩) brittle' ys).map Prod.fst) ∧
        A.seen (entriesFrom place k (sweep (fun b => f ⟨now, b⟩) brittle xs))
          (entriesFrom place k (sweep (fun b => g ⟨now, b⟩) brittle' ys)) ∧
        A.flags (past ++ entriesFrom place k (sweep (fun b => f ⟨now, b⟩) brittle xs))
          (brittle && !(entriesFrom place k (sweep (fun b => f ⟨now, b⟩) brittle xs)).any
            (·.2.isFrailDiscard))
          (brittle' && !(entriesFrom place k (sweep (fun b => g ⟨now, b⟩) brittle' ys)).any
            (·.2.isFrailDiscard)) := by
  induction h with
  | nil k =>
    intro past brittle brittle' flags _
    refine ⟨.nil k, hA.seen_refl (by simp [Workforce.sweep, entriesFrom]), ?_⟩
    simpa [Workforce.sweep, entriesFrom] using flags
  | @cons k x y xs ys head tail ih =>
    intro past brittle brittle' flags good
    simp only [Workforce.sweep, entriesFrom_cons, ← List.append_assoc] at good
    have hfirst := hf head flags (hA.good_of_append good)
    obtain ⟨hrest, hentries, hflags⟩ := ih hfirst.flags good
    refine ⟨.cons hfirst.rel hrest, ?_, ?_⟩
    · simp only [Workforce.sweep, entriesFrom_cons]
      exact hA.seen_append hfirst.entries hentries
    · simp only [Workforce.sweep, entriesFrom_cons, List.any_append, any_map_frail, Bool.not_or,
        ← Bool.and_assoc, ← List.append_assoc]
      exact hflags

/-- **The same is done to every pool and every batch** of both scenes. -/
theorem Scenes.everywhere (hA : A.Lawful) (h : A.Scenes past s u)
    {f f' : Moment → Pool α → Pool α × List (Event α)}
    {g g' : Moment → Batch α → Batch α × List (Event α)} (hf : A.Keeps A.pool .pool f f')
    (hg : A.Keeps A.batch .batch g g') (good : A.good (past ++ (s.everywhere f g).2)) :
    A.Acts past (s.everywhere f g) (u.everywhere f' g') := by
  have hentries : ∀ {σ : Type} (place : Nat → Place) (rs : List (σ × List (Event α))),
      entries place rs = entriesFrom place 0 rs := fun _ _ => rfl
  simp only [Scene.everywhere, Scene.after, hentries, ← List.append_assoc, h.now] at good ⊢
  obtain ⟨hpools, hseen, hflags⟩ := hf.sweep hA h.pools h.flags (hA.good_of_append good)
  obtain ⟨hbatches, hseen', hflags'⟩ := hg.sweep hA h.batches hflags good
  refine ⟨⟨rfl, h.parent, hpools, hbatches, ?_⟩, ?_⟩
  · rw [← List.append_assoc]
    exact hflags'
  · exact hA.seen_append hseen hseen'

/-! ### Scenes settle -/

/-- Nothing happens. -/
lemma Runs.refl (h : A.Scenes past s u) : A.Runs past (s, []) (u, []) where
  scenes := by simpa using h
  phases := .nil

/-- One thing happens after the other. -/
lemma Runs.trans (h : A.Runs past (s, ps) (u, qs))
    (k : A.Runs (past ++ allEntries ps) (t, ps') (v, qs')) :
    A.Runs past (t, ps ++ ps') (v, qs ++ qs') where
  scenes := by
    rw [allEntries_append, ← List.append_assoc]
    exact k.scenes
  phases := List.rel_append h.phases k.phases

/-- Nothing is done. -/
lemma Acts.refl (hA : A.Lawful) (h : A.Scenes past s u) : A.Acts past (s, []) (u, []) where
  scenes := by simpa using h
  entries := hA.seen_refl (by simp)

/-- **Both scenes settle.** -/
theorem Scenes.settle (hA : A.Lawful) (h : A.Scenes past s u)
    (good : A.good (past ++ s.settle.2)) : A.Acts past s.settle u.settle :=
  h.everywhere hA hA.settle_pool hA.settle_batch good

/-- So they do after something has been done in both. -/
lemma Acts.phase (hA : A.Lawful) (h : A.Acts past r r')
    (good : A.good (past ++ (Scene.phase r).2.entries)) :
    A.Runs past ((Scene.phase r).1, [(Scene.phase r).2])
      ((Scene.phase r').1, [(Scene.phase r').2]) := by
  have hentries : past ++ (Scene.phase r).2.entries = past ++ r.2 ++ r.1.settle.2 :=
    (List.append_assoc ..).symm
  have hsettle := h.scenes.settle hA (hentries ▸ good)
  refine ⟨?_, ?_⟩
  · rw [allEntries_singleton, hentries]
    exact hsettle.scenes
  · exact .cons ⟨h.scenes.now, hA.seen_append h.entries hsettle.entries⟩ .nil

/-! ### Tasks end -/

/-- The same tasks run in both scenes. -/
lemma Scenes.runs_eq (hA : A.Lawful) (h : A.Scenes past s u) : u.runs = s.runs := by
  have hpools := h.pools.map_eq fun _ _ _ hr => (hA.pool_view hr).1
  have hbatches := h.batches.map_eq (f := fun b => b.pool.running) (g := fun b => b.pool.running)
    fun _ _ _ hr => (hA.batch_view hr).1
  simp only [Scene.runs, List.flatMap_def, hpools, hbatches]

/-- The same task ends first. -/
lemma Scenes.firstDue? (hA : A.Lawful) (h : A.Scenes past s u) : u.firstDue? = s.firstDue? := by
  rw [Scene.firstDue?, Scene.firstDue?, h.runs_eq hA, h.now]

/-- What a turn of a pool does, if it is the end of a task. -/
lemma act_finish_eq (id : TaskId) : (fun m p => (Pool.Turn.finish id).act m p) =
    fun (_ : Moment) (p : Pool α) => p.finish id := by
  funext m p
  exact Pool.Turn.act_finish m p id

/-- **The task of that name ends** in both scenes. -/
theorem Scenes.finish (hA : A.Lawful) (h : A.Scenes past s u) (id : TaskId)
    (good : A.good (past ++ (s.finish id).2)) : A.Acts past (s.finish id) (u.finish id) := by
  have hpool := hA.turn (hA.finish id)
  rw [act_finish_eq] at hpool
  exact h.everywhere hA hpool (hA.finish_batch id) good

/-- **The due tasks end** in both scenes. -/
theorem Scenes.finishDue (hA : A.Lawful) : ∀ {past u}, A.Scenes past s u →
    A.good (past ++ allEntries s.finishDue.2) → A.Runs past s.finishDue u.finishDue := by
  fun_induction Scene.finishDue s with
  | case1 s hnone =>
    intro past u h _
    rw [Scene.finishDue_eq_self ((h.firstDue? hA).trans hnone)]
    exact .refl h
  | case2 s x hx first =>
    rename_i rest ih
    intro past u h good
    rw [allEntries_cons, ← List.append_assoc] at good
    have hgood := hA.good_of_append good
    have hentries : past ++ first.2.entries =
        past ++ (s.finish x.task.id).2 ++ (s.finish x.task.id).1.settle.2 :=
      (List.append_assoc ..).symm
    have hfinish := h.finish hA x.task.id (hA.good_of_append (hentries ▸ hgood))
    have hfirst := hfinish.phase hA hgood
    have hrest := ih hfirst.scenes (by rwa [allEntries_singleton])
    rw [Scene.finishDue_of_firstDue? ((h.firstDue? hA).trans hx)]
    exact hfirst.trans hrest

/-- **After something has been done both scenes settle, and the due tasks end.** -/
theorem Acts.act (hA : A.Lawful) (h : A.Acts past r r')
    (good : A.good (past ++ allEntries (Scene.act r).2)) :
    A.Runs past (Scene.act r) (Scene.act r') := by
  have hentries : allEntries (Scene.act r).2 =
      (Scene.phase r).2.entries ++ allEntries (Scene.phase r).1.finishDue.2 :=
    allEntries_cons ..
  rw [hentries, ← List.append_assoc] at good
  have hfirst := h.phase hA (hA.good_of_append good)
  have hrest := hfirst.scenes.finishDue hA (by rwa [allEntries_singleton])
  exact hfirst.trans hrest

/-! ### The clock moves -/

/-- The clock is set to the same time in both scenes. -/
lemma Scenes.pass (h : A.Scenes past s u) (time : Nat) :
    A.Scenes past { s with now := time } { u with now := time } :=
  ⟨rfl, h.parent, h.pools, h.batches, h.flags⟩

/-- It moves to one time. -/
lemma Scenes.moveTo (hA : A.Lawful) (h : A.Scenes past s u) {time : Nat}
    (good : A.good (past ++ allEntries (s.moveTo time).2)) :
    A.Runs past (s.moveTo time) (u.moveTo time) :=
  (Acts.refl hA (h.pass time)).act hA good

/-- The same ends lie ahead. -/
lemma Scenes.endsAhead (hA : A.Lawful) (h : A.Scenes past s u) :
    u.endsAhead = s.endsAhead := by
  rw [Scene.endsAhead, Scene.endsAhead, h.runs_eq hA, h.now]

/-- The same deadlines lie ahead, also if only near ones count. -/
lemma Scenes.deadlines (hA : A.Lawful) (h : A.Scenes past s u) :
    u.deadlinesAhead = s.deadlinesAhead ∧
      ∀ patience, u.nearDeadlines patience = s.nearDeadlines patience := by
  have hahead : ∀ i b c, A.batch i b c →
      c.deadlineAhead? s.now = b.deadlineAhead? s.now := fun i b c hbc => by
    obtain ⟨-, hpending, -, -, hdeadline⟩ := hA.batch_view hbc
    rw [Batch.deadlineAhead?, Batch.deadlineAhead?, hpending, hdeadline]
  have hnear : ∀ patience i b c, A.batch i b c →
      c.nearDeadline? patience s.now = b.nearDeadline? patience s.now :=
    fun patience i b c hbc => by
    obtain ⟨-, -, -, hsince, -⟩ := hA.batch_view hbc
    rw [Batch.nearDeadline?, Batch.nearDeadline?, hahead i b c hbc, hsince]
  -- what is the same of each batch is the same of all
  have all : ∀ f : Batch α → Option Nat, (∀ i b c, A.batch i b c → f c = f b) →
      u.batches.filterMap f = s.batches.filterMap f := fun f hf => by
    have hmap := congrArg (List.filterMap id) (h.batches.map_eq hf)
    rwa [List.filterMap_map, List.filterMap_map] at hmap
  refine ⟨?_, fun patience => ?_⟩
  · rw [Scene.deadlinesAhead, Scene.deadlinesAhead, h.now]
    exact all _ hahead
  · rw [Scene.nearDeadlines, Scene.nearDeadlines, h.now]
    exact all _ (hnear patience)

/-- **The clock moves on in both scenes**, from stop to stop. -/
theorem Scenes.advanceTo (hA : A.Lawful) {target : Nat} : ∀ {past u}, A.Scenes past s u →
    A.good (past ++ allEntries (s.advanceTo target).2) →
      A.Runs past (s.advanceTo target) (u.advanceTo target) := by
  fun_induction Scene.advanceTo target s with
  | case1 s hstops =>
    intro past u h good
    have hnil : u.endsAhead ++ u.deadlinesAhead = [] := by
      rw [h.endsAhead hA, (h.deadlines hA).1]
      exact List.min?_eq_none_iff.1 hstops
    rw [Scene.advanceTo_of_le (by simp [hnil])]
    exact h.moveTo hA good
  | case2 s time hstop hlt first =>
    rename_i rest ih
    intro past u h good
    have hstop' : (u.endsAhead ++ u.deadlinesAhead).min? = some time := by
      rw [h.endsAhead hA, (h.deadlines hA).1, hstop]
    rw [allEntries_append, ← List.append_assoc] at good
    have hfirst := h.moveTo hA (hA.good_of_append good)
    have hrest := ih hfirst.scenes good
    rw [Scene.advanceTo_of_lt hstop' hlt]
    exact hfirst.trans hrest
  | case3 s time hstop hlt =>
    intro past u h good
    have hle : ∀ stop ∈ u.endsAhead ++ u.deadlinesAhead, target ≤ stop := by
      rw [h.endsAhead hA, (h.deadlines hA).1]
      intro stop hmem
      have := Scene.le_of_min? hstop stop hmem
      omega
    rw [Scene.advanceTo_of_le hle]
    exact h.moveTo hA good

/-- **The clock is run to the last stop in both scenes.** -/
theorem Scenes.run (hA : A.Lawful) : ∀ {past u}, A.Scenes past s u →
    A.good (past ++ allEntries s.run.2) → A.Runs past s.run u.run := by
  have hstops : ∀ {past : List (Entry α)} {s u : Scene α}, A.Scenes past s u →
      u.nearStop? Scene.runPatience = s.nearStop? Scene.runPatience := fun h => by
    rw [Scene.nearStop?, Scene.nearStop?, h.endsAhead hA, (h.deadlines hA).2]
  fun_induction Scene.run s with
  | case1 s hnone =>
    intro past u h _
    rw [Scene.run_of_none ((hstops h).trans hnone)]
    exact .refl h
  | case2 s time hstop first =>
    rename_i rest ih
    intro past u h good
    rw [allEntries_append, ← List.append_assoc] at good
    have hfirst := h.moveTo hA (hA.good_of_append good)
    have hrest := ih hfirst.scenes good
    rw [Scene.run_of_some ((hstops h).trans hstop)]
    exact hfirst.trans hrest

/-! ### Commands -/

/-- Something is done to a pool that keeps it in accord with its counterpart. -/
def KeepsAt (A : Accord α) (i : Nat) (p : Pool α) (x : Pool.Turn α) : Prop :=
  ∀ ⦃past : List (Entry α)⦄ ⦃now : Nat⦄ ⦃brittle brittle' : Bool⦄ ⦃q : Pool α⦄, A.pool i p q →
    A.flags past brittle brittle' →
      A.good (past ++ (x.act ⟨now, brittle⟩ p).2.map (Place.pool i, ·)) →
        A.Goes (A.pool i) (.pool i) past brittle brittle' (x.act ⟨now, brittle⟩ p)
          (x.act ⟨now, brittle'⟩ q)

/-- What happens when a batch cannot be begun. -/
def unbegun (m : Moment) (call : Nat) (tasks : List (Task α)) : List (Event α) :=
  tasks.map .discarded ++ [.batchAnswered call
    (if tasks.any m.breaks then .panicked else .batch (.error (.invalidSize 0)))]

/-- A batch is its own counterpart when it has been begun, and the same is seen when it cannot
be. -/
structure Begins (A : Accord α) (call : Nat) (tasks : List (Task α)) : Prop where
  initial : ∀ i now n hn admission parent,
    A.batch i (.initial now call n hn tasks admission parent)
      (.initial now call n hn tasks admission parent)
  unbegun : ∀ ⦃i : Nat⦄ ⦃past : List (Entry α)⦄ ⦃now : Nat⦄ ⦃brittle brittle' : Bool⦄,
    A.flags past brittle brittle' →
      A.good (past ++ (Accord.unbegun ⟨now, brittle⟩ call tasks).map (Place.batch i, ·)) →
        A.Goes (fun _ _ => True) (.batch i) past brittle brittle'
          ((), Accord.unbegun ⟨now, brittle⟩ call tasks)
          ((), Accord.unbegun ⟨now, brittle'⟩ call tasks)

/-- Without room for them they are discarded. -/
lemma newBatch_unbegun {tasks : List (Task α)} (hne : tasks ≠ []) (call : Nat)
    (admission : Admission) (s : Scene α) :
    s.newBatch call 0 tasks admission =
      (s.after ((unbegun s.moment call tasks).map (Place.batch s.batches.length, ·)),
        (unbegun s.moment call tasks).map (Place.batch s.batches.length, ·)) :=
  Scene.newBatch_zero s call admission hne

end

end Accord

/-- What a command that is given to a pool does there. -/
def Command.visit? (call : Nat) : Command α → Option (Nat × Pool.Turn α)
  | submit i task => some (i, .submit call task)
  | next i => some (i, .next call)
  | shutdown i => some (i, .shutdown call)
  | close i => some (i, .close)
  | cancel i => some (i, .cancel)
  | drop i => some (i, .drop)
  | _ => none

/-- Such a command is carried out there. -/
lemma Scene.perform_of_visit {s : Scene α} {call i : Nat} {c : Command α} {x : Pool.Turn α}
    (h : c.visit? call = some (i, x)) : s.perform call c = s.onPool i fun m p => x.act m p := by
  cases c <;> cases h <;>
    simp only [Scene.perform, Pool.Turn.act_submit, Pool.Turn.act_shutdown, Pool.Turn.act_close,
      Pool.Turn.act_cancel] <;> rfl

namespace Accord

variable {A : Accord α} {past : List (Entry α)} {s u : Scene α}

/-- What happens when a pool is made is in accord. -/
lemma seen_opening (hA : A.Lawful) (place : Place) (p : Pool α) :
    A.seen (p.opening.map (place, ·)) (p.opening.map (place, ·)) := by
  refine hA.seen_refl fun x hx => ?_
  obtain ⟨e, he, rfl⟩ := List.mem_map.1 hx
  rcases List.mem_cons.1 he with rfl | he
  · trivial
  · rw [List.eq_of_mem_replicate he]
    trivial

/-- No frail task is discarded when a pool is made. -/
lemma noisy_opening (place : Place) (p : Pool α) :
    noisy ((p.opening.map (place, ·)).map Prod.snd) = false := by
  rw [noisy_map_map, noisy_eq_any, Scene.collect_opening Occurrence.discarded? p rfl rfl]
  rfl

/-- What is done at once is done first. -/
lemma Lawful.good_of_act (hA : A.Lawful) {r : Scene α × List (Entry α)}
    (good : A.good (past ++ allEntries (Scene.act r).2)) : A.good (past ++ r.2) := by
  have hsplit : allEntries (Scene.act r).2 =
      r.2 ++ (r.1.settle.2 ++ allEntries (Scene.phase r).1.finishDue.2) :=
    (allEntries_cons ..).trans (List.append_assoc ..)
  rw [hsplit, ← List.append_assoc] at good
  exact hA.good_of_append good

/-- **A command is given to a pool** in both scenes. -/
theorem Scenes.onPool (hA : A.Lawful) (h : A.Scenes past s u) {i : Nat} {x : Pool.Turn α}
    (hx : ∀ p, s.pools[i]? = some p → A.KeepsAt i p x)
    (good : A.good (past ++ allEntries (s.onPool i fun m p => x.act m p).2.2)) :
    A.Runs past (s.onPool i fun m p => x.act m p).2 (u.onPool i fun m p => x.act m p).2 := by
  cases hp : s.pools[i]? with
  | none =>
    have hq : u.pools[i]? = none := by
      rw [List.getElem?_eq_none_iff] at hp ⊢
      rwa [h.pools.length_eq]
    have hnone : s.pool? i = none := by rw [Scene.pool?, hp]; rfl
    have hnone' : u.pool? i = none := by rw [Scene.pool?, hq]; rfl
    simp only [Scene.onPool, hnone, hnone']
    exact .refl h
  | some p =>
    obtain ⟨q, hq, hpq⟩ := h.pools.exists_of_getElem? hp
    rw [Nat.zero_add] at hpq
    obtain ⟨-, hheld⟩ := hA.pool_view hpq
    cases held : p.held with
    | false =>
      have hnone : s.pool? i = none := by rw [Scene.pool?, hp]; simp [held]
      have hnone' : u.pool? i = none := by rw [Scene.pool?, hq]; simp [hheld, held]
      simp only [Scene.onPool, hnone, hnone']
      exact .refl h
    | true =>
      have hsome : s.pool? i = some p := by rw [Scene.pool?, hp]; simp [held]
      have hsome' : u.pool? i = some q := by rw [Scene.pool?, hq]; simp [hheld, held]
      simp only [Scene.onPool, hsome, hsome'] at good ⊢
      refine Acts.act hA ?_ good
      have hgood := hA.good_of_act good
      simp only [Scene.atPool, hp, hq, Scene.moment, h.now] at hgood ⊢
      have hgoes := hx p hp hpq h.flags hgood
      refine ⟨⟨rfl, h.parent, h.pools.set ((Nat.zero_add i).symm ▸ hgoes.rel), h.batches, ?_⟩,
        hgoes.entries⟩
      simp only [Scene.after, any_map_frail]
      exact hgoes.flags

/-- A pool is made in both scenes. -/
lemma Scenes.newPool (hA : A.Lawful) (h : A.Scenes past s u) (size : Nat) (child : Bool) :
    A.Acts past (s.newPool size child).2 (u.newPool size child).2 := by
  rcases Nat.eq_zero_or_pos size with rfl | hn
  · exact .refl hA h
  · rw [Scene.newPool_of_pos hn, Scene.newPool_of_pos hn, h.parent, h.pools.length_eq]
    have hpool := hA.fresh (0 + s.pools.length) size hn child (child && s.parentCancelled)
    exact ⟨⟨h.now, rfl, h.pools.concat hpool, h.batches, hA.quiet h.flags (noisy_opening _ _)⟩,
      seen_opening hA _ _⟩

/-- **A batch is begun in both scenes**, or cannot be. -/
lemma Scenes.newBatch (hA : A.Lawful) (h : A.Scenes past s u) (call size : Nat)
    {tasks : List (Task α)} (admission : Admission) (begins : A.Begins call tasks)
    (good : A.good (past ++ (s.newBatch call size tasks admission).2)) :
    A.Acts past (s.newBatch call size tasks admission) (u.newBatch call size tasks admission) := by
  have hlength := h.batches.length_eq
  by_cases hne : tasks = []
  · subst hne
    rw [Scene.newBatch_nil, Scene.newBatch_nil, hlength]
    refine ⟨⟨h.now, h.parent, h.pools, h.batches, hA.quiet h.flags rfl⟩, ?_⟩
    exact hA.seen_refl (by simp [Event.Opens])
  · rcases Nat.eq_zero_or_pos size with rfl | hsize
    · rw [newBatch_unbegun hne] at good
      rw [newBatch_unbegun hne, newBatch_unbegun hne, hlength]
      simp only [Scene.moment, h.now] at good ⊢
      have hgoes := begins.unbegun h.flags good
      refine ⟨⟨h.now, h.parent, h.pools, h.batches, ?_⟩, hgoes.entries⟩
      simp only [Scene.after, any_map_frail]
      exact hgoes.flags
    · rw [Scene.newBatch_of_pos s call admission hsize hne,
        Scene.newBatch_of_pos u call admission hsize hne, hlength, h.now, h.parent]
      have hbatch := begins.initial (0 + s.batches.length) s.now _ (Batch.min_pos hsize hne)
        admission s.parentCancelled
      exact ⟨⟨rfl, rfl, h.pools, h.batches.concat hbatch, hA.quiet h.flags (noisy_opening _ _)⟩,
        seen_opening hA _ _⟩

/-- **The parent is cancelled in both scenes.** -/
lemma Scenes.cancelParent (hA : A.Lawful) (h : A.Scenes past s u)
    (good : A.good (past ++ s.cancelParent.2)) : A.Acts past s.cancelParent u.cancelParent := by
  have hcancelled : A.Scenes past { s with parentCancelled := true }
      { u with parentCancelled := true } := ⟨h.now, rfl, h.pools, h.batches, h.flags⟩
  exact hcancelled.everywhere hA (hA.turn hA.follow) hA.follow_batch good

/-- The same calls are pending, of those that can be given up. -/
lemma Scenes.pendingCalls (hA : A.Lawful) (h : A.Scenes past s u) {call : Nat}
    (minds : A.minds (.abandon call)) : call ∈ u.pendingCalls ↔ call ∈ s.pendingCalls := by
  have hbatches : (u.batches.filter (·.pending)).map (·.call) =
      (s.batches.filter (·.pending)).map (·.call) := by
    have hmap := congrArg (List.filterMap id) (h.batches.map_eq
      (f := fun b => if b.pending then some b.call else none)
      (g := fun b => if b.pending then some b.call else none) fun i b c hbc => by
        obtain ⟨-, hpending, hcall, -, -⟩ := hA.batch_view hbc
        rw [hpending, hcall])
    have hcalls : ∀ bs : List (Batch α), (bs.filter (·.pending)).map (·.call) =
        (bs.map fun b => if b.pending then some b.call else none).filterMap id := fun bs => by
      induction bs with
      | nil => rfl
      | cons b bs ih => cases hpending : b.pending <;> simp [hpending, ih]
    rw [hcalls, hcalls, hmap]
  have hpools : (∃ q ∈ u.pools,
      call ∈ q.submitting.filterMap (·.caller) ++ q.receiving.filterMap (·.caller)) ↔
        ∃ p ∈ s.pools,
          call ∈ p.submitting.filterMap (·.caller) ++ p.receiving.filterMap (·.caller) := by
    constructor
    · rintro ⟨q, hq, hwaits⟩
      obtain ⟨i, hi⟩ := List.mem_iff_getElem?.1 hq
      have hlt : i < s.pools.length := h.pools.length_eq ▸ (List.getElem?_eq_some_iff.1 hi).1
      obtain ⟨q', hq', hpq⟩ := h.pools.exists_of_getElem? (List.getElem?_eq_getElem hlt)
      cases hi.symm.trans hq'
      exact ⟨_, List.getElem_mem hlt, (hA.awaits hpq minds).1 hwaits⟩
    · rintro ⟨p, hp, hwaits⟩
      obtain ⟨i, hi⟩ := List.mem_iff_getElem?.1 hp
      obtain ⟨q, hq, hpq⟩ := h.pools.exists_of_getElem? hi
      exact ⟨q, List.mem_of_getElem? hq, (hA.awaits hpq minds).2 hwaits⟩
  rw [Scene.pendingCalls, Scene.pendingCalls, List.mem_append, List.mem_append, hbatches,
    List.mem_flatMap, List.mem_flatMap, hpools]

/-- What a turn of a pool does, if a call is given up. -/
lemma act_abandon_eq (call : Nat) : (fun m p => (Pool.Turn.abandon call).act m p) =
    fun (_ : Moment) (p : Pool α) => p.withdraw call := by
  funext m p
  exact Pool.Turn.act_abandon m p call

/-- **A pending call is given up in both scenes.** -/
lemma Scenes.abandon (hA : A.Lawful) (h : A.Scenes past s u) {call : Nat}
    (minds : A.minds (.abandon call)) (good : A.good (past ++ (s.abandon call).2)) :
    A.Acts past (s.abandon call) (u.abandon call) := by
  have hpool := hA.turn minds
  rw [act_abandon_eq] at hpool
  exact h.everywhere hA hpool (hA.abandon_batch minds) good

/-- **A command is given in both scenes.**

**Proof sketch.** A command does something to one pool, to all pools and batches, or makes one; or
it moves the clock. What is done at once keeps the scenes in accord, and so does what follows. -/
theorem Scenes.perform (hA : A.Lawful) (h : A.Scenes past s u) (n : Nat) (c : Command α)
    (visit : ∀ i x, c.visit? n = some (i, x) → ∀ p, s.pools[i]? = some p → A.KeepsAt i p x)
    (begins : ∀ size tasks admission, c = .batch size tasks admission → A.Begins n tasks)
    (spared : ∀ call, c = .abandon call → A.minds (.abandon call))
    (good : A.good (past ++ allEntries (s.perform n c).2.2)) :
    A.Runs past (s.perform n c).2 (u.perform n c).2 := by
  cases hvisit : c.visit? n with
  | some y =>
    obtain ⟨i, x⟩ := y
    rw [Scene.perform_of_visit hvisit] at good ⊢
    rw [Scene.perform_of_visit hvisit]
    exact h.onPool hA (visit i x hvisit) good
  | none =>
    cases c with
    | newPool size child => exact (h.newPool hA size child).act hA good
    | batch size tasks admission =>
      exact (h.newBatch hA n size admission (begins size tasks admission rfl)
        (hA.good_of_act good)).act hA good
    | cancelParent => exact (h.cancelParent hA (hA.good_of_act good)).act hA good
    | askParent => exact .refl h
    | describe i =>
      simp only [Scene.perform]
      split <;> split <;> exact .refl h
    | abandon call =>
      have hpending := h.pendingCalls hA (spared call rfl)
      by_cases hcall : call ∈ s.pendingCalls
      · simp only [Scene.perform, List.contains_eq_mem, hcall, hpending.2 hcall, decide_true,
          if_true] at good ⊢
        exact (h.abandon hA (spared call rfl) (hA.good_of_act good)).act hA good
      · have hcall' : call ∉ u.pendingCalls := fun hmem => hcall (hpending.1 hmem)
        simp only [Scene.perform, List.contains_eq_mem, hcall, hcall', decide_false,
          Bool.false_eq_true, if_false]
        exact .refl h
    | release name =>
      have hruns := h.runs_eq hA
      cases hfind : s.runs.find? (·.task.id.text == name) with
      | none =>
        simp only [Scene.perform, hruns, hfind]
        exact .refl h
      | some r =>
        simp only [Scene.perform, hruns, hfind] at good ⊢
        exact (h.finish hA r.task.id (hA.good_of_act good)).act hA good
    | advance ms =>
      simp only [Scene.perform, h.now] at good ⊢
      exact h.advanceTo hA good
    | run => exact h.run hA good
    | _ => cases hvisit

end Accord

/-! ## Times -/

/-- What happened in some phases, with the times. -/
def timeline (ps : List (Phase α)) : List (Nat × Entry α) :=
  ps.flatMap fun p => p.entries.map (p.time, ·)

@[simp] lemma timeline_cons (p : Phase α) (ps : List (Phase α)) :
    timeline (p :: ps) = p.entries.map (p.time, ·) ++ timeline ps :=
  List.flatMap_cons

/-- Without the times it is all entries. -/
lemma map_snd_timeline (ps : List (Phase α)) : (timeline ps).map Prod.snd = allEntries ps := by
  induction ps with
  | nil => rfl
  | cons p ps ih => simp [ih, Function.comp_def, allEntries_cons]

/-- **What corresponds to each other in phases of the same times** does so at all times. -/
lemma timeline_rel {R : Entry α → Entry α → Prop} {f g : Entry α → Bool} {ps qs : List (Phase α)}
    (h : List.Forall₂ (fun p q : Phase α => q.time = p.time ∧
      List.Forall₂ R (p.entries.filter f) (q.entries.filter g)) ps qs) :
    List.Forall₂ (fun x y => y.1 = x.1 ∧ R x.2 y.2) ((timeline ps).filter (f ·.2))
      ((timeline qs).filter (g ·.2)) := by
  induction h with
  | nil => exact .nil
  | @cons p q ps qs head tail ih =>
    obtain ⟨htime, hentries⟩ := head
    rw [timeline_cons, timeline_cons, List.filter_append, List.filter_append, List.filter_map,
      List.filter_map, htime]
    refine List.rel_append ?_ ih
    rw [List.forall₂_map_left_iff, List.forall₂_map_right_iff]
    exact hentries.imp fun _ _ hr => ⟨rfl, hr⟩

end Workforce
