import Workforce.Proofs.Scene.Aside
/-!
# A pool in two scenes

A pool is put beside others in one scene and is alone in another one, and the same is done to it in
both. The two scenes are looked at side by side, while tasks end and the clock moves: the pool that
is alone does the same as the other one at the same times, and does nothing while things happen at
other places of the first scene.

## Main definitions

* `Workforce.heard` — what happened at a pool, with the times.
* `Workforce.Scene.clash` — the first frail task is discarded elsewhere, and one at the pool.
* `Workforce.Scene.Mirror` — two scenes in which a pool is the same.
* `Workforce.Scene.Mirrored` — what follows from two such scenes.

## Main results

* `Workforce.Scene.Mirrored.of_does`, `Mirrored.of_still` — the same is done to the pool in both
  scenes, or something at other places of the first one.
* `Workforce.Scene.Mirrored.act`, `Mirrored.act_still` — after that the scenes settle and the due
  tasks end.
* `Workforce.Scene.mirrored_finishDue`, `mirrored_advanceTo` — due tasks end, and the clock moves.

## Implementation notes

Discards panic at the pool in both scenes or in none, as long as no frail task has been discarded
elsewhere before one at the pool. Till then the pools are really the same (`Mirror.same`); after
that they are the same but for who was told of a panic (`Mirror.gentle`), which affects nothing
else.
-/

namespace Workforce

open History

variable {α : Type}

/-! ## What is heard of a pool -/

/-- What happened at the pool of that index, with the times. -/
def heard (i : Nat) (ps : List (Phase α)) : List (Nat × Event α) :=
  ps.flatMap fun p => (eventsAt (.pool i) p.entries).map (p.time, ·)

@[simp] lemma heard_nil (i : Nat) : heard i ([] : List (Phase α)) = [] := rfl

@[simp] lemma heard_append (i : Nat) (ps qs : List (Phase α)) :
    heard i (ps ++ qs) = heard i ps ++ heard i qs :=
  List.flatMap_append

@[simp] lemma heard_cons (i : Nat) (p : Phase α) (ps : List (Phase α)) : heard i (p :: ps) =
    (eventsAt (.pool i) p.entries).map (p.time, ·) ++ heard i ps :=
  List.flatMap_cons

lemma heard_singleton (i : Nat) (p : Phase α) :
    heard i [p] = (eventsAt (.pool i) p.entries).map (p.time, ·) :=
  List.flatMap_singleton ..

/-- All entries of some phases. -/
def allEntries (ps : List (Phase α)) : List (Entry α) := ps.flatMap (·.entries)

@[simp] lemma allEntries_nil : allEntries ([] : List (Phase α)) = [] := rfl

@[simp] lemma allEntries_append (ps qs : List (Phase α)) :
    allEntries (ps ++ qs) = allEntries ps ++ allEntries qs :=
  List.flatMap_append

@[simp] lemma allEntries_cons (p : Phase α) (ps : List (Phase α)) :
    allEntries (p :: ps) = p.entries ++ allEntries ps :=
  List.flatMap_cons

lemma allEntries_singleton (p : Phase α) : allEntries [p] = p.entries :=
  List.flatMap_singleton ..

/-- What was heard when it is forgotten that discards panicked. -/
def soften (xs : List (Nat × Event α)) : List (Nat × Event α) := xs.map (Prod.map id Event.gentle)

@[simp] lemma soften_append (xs ys : List (Nat × Event α)) :
    soften (xs ++ ys) = soften xs ++ soften ys :=
  List.map_append

/-- What was heard at one time. -/
lemma soften_map (time : Nat) (es : List (Event α)) :
    soften (es.map (time, ·)) = (es.map Event.gentle).map (time, ·) := by
  simp [soften, Function.comp_def]

namespace Scene

variable {i : Nat} {past : List (Entry α)} {s t u v w : Scene α} {ps qs ps' qs' : List (Phase α)}
  {p : Pool α} {d : Deed α} {r r' : Scene α × List (Entry α)} {time target : Nat}

/-! ## Two scenes side by side -/

/-- The first frail task that is discarded is discarded elsewhere, and one is at the pool of that
index. -/
def clash (i : Nat) (es : List (Entry α)) : Bool :=
  strayFirst i es && noisy (eventsAt (.pool i) es)

/-- If that is not so in the end, it was not before. -/
lemma clash_of_append {es fs : List (Entry α)} (h : clash i (es ++ fs) = false) :
    clash i es = false := by
  rw [clash, Bool.and_eq_false_iff] at h ⊢
  rw [strayFirst_append, eventsAt_append, noisy_append, Bool.or_eq_false_iff,
    Bool.or_eq_false_iff] at h
  exact h.imp And.left And.left

/-- The pool at an index is the same in two scenes, and alone in the second one. So far `past` has
happened in the first one. -/
structure Mirror (i : Nat) (past : List (Entry α)) (s u : Scene α) : Prop where
  now : u.now = s.now
  parent : u.parentCancelled = s.parentCancelled
  length : u.pools.length = s.pools.length
  alone : u.Alone i
  /-- Discards panic in the first scene until a frail task is discarded. -/
  brittle : s.brittle = !noisy (past.map Prod.snd)
  /-- In the second one they do until one is discarded at the pool. -/
  brittle' : u.brittle = !noisy (eventsAt (.pool i) past)
  gentle : u.pools[i]?.map Pool.gentle = s.pools[i]?.map Pool.gentle
  same : clash i past = false → u.pools[i]? = s.pools[i]?

/-- What follows from two such scenes: the same has been heard of the pool, and they are such scenes
again. -/
structure Mirrored (i : Nat) (past : List (Entry α)) (r r' : Scene α × List (Phase α)) :
    Prop where
  mirror : Mirror i (past ++ allEntries r.2) r.1 r'.1
  gentle : soften (heard i r'.2) = soften (heard i r.2)
  same : clash i (past ++ allEntries r.2) = false → heard i r'.2 = heard i r.2

namespace Mirrored

/-- Nothing happens. -/
lemma refl (h : Mirror i past s u) : Mirrored i past (s, []) (u, []) where
  mirror := by simpa using h
  gentle := rfl
  same _ := rfl

/-- One thing happens after the other. -/
lemma trans (h : Mirrored i past (s, ps) (v, qs))
    (k : Mirrored i (past ++ allEntries ps) (t, ps') (w, qs')) :
    Mirrored i past (t, ps ++ ps') (w, qs ++ qs') := by
  have hentries : past ++ allEntries (ps ++ ps') = past ++ allEntries ps ++ allEntries ps' := by
    rw [allEntries_append, List.append_assoc]
  refine ⟨hentries ▸ k.mirror, ?_, fun hsame => ?_⟩
  · simp only [heard_append, soften_append, h.gentle, k.gentle]
  · rw [hentries] at hsame
    rw [heard_append, heard_append, k.same hsame, h.same (clash_of_append hsame)]

/-- The phases matter only for what is heard of them and for their entries. -/
lemma congr (h : Mirrored i past (s, ps) (v, qs)) (heard_eq : heard i ps' = heard i ps)
    (entries_eq : allEntries ps' = allEntries ps) (heard_eq' : heard i qs' = heard i qs) :
    Mirrored i past (s, ps') (v, qs') := by
  obtain ⟨mirror, gentle, same⟩ := h
  simp only [← heard_eq, ← entries_eq, ← heard_eq'] at mirror gentle same
  exact ⟨mirror, gentle, same⟩

/-- **The same is done to a pool in both scenes.**

**Proof sketch.** What is done is mild. Discards panic at the pool in the first scene if they do in
the second one, unless the first frail task was discarded elsewhere. -/
theorem of_does (h : Mirror i past s u) (hd : d.Mild) (hs : s.Does i d r) (hu : u.Does i d r')
    (now : r'.1.now = r.1.now) (parent : r'.1.parentCancelled = r.1.parentCancelled)
    (length : r'.1.pools.length = r.1.pools.length)
    (alone : r'.1.Alone i ∧ strays i r'.2 = false) :
    Mirrored i past (r.1, [⟨r.1.now, r.2⟩]) (r'.1, [⟨r'.1.now, r'.2⟩]) := by
  have hplace' := hu.place
  rw [strayFirst_eq_false alone.2, Bool.not_false, Bool.and_true, h.now] at hplace'
  have hmoment : (s.brittle && !strayFirst i r.2) =
      (u.brittle && !strayFirst i (past ++ r.2)) := by
    rw [h.brittle, h.brittle', strayFirst_append]
    cases hloud : noisy (eventsAt (.pool i) past) with
    | true => simp [noisy_map_snd i, hloud]
    | false =>
      rw [strayFirst_eq_noisy hloud]
      cases noisy (past.map Prod.snd) <;> simp
  have hplace := hs.place
  rw [hmoment] at hplace
  have hbefore : u.brittle = true ∨ strayFirst i (past ++ r.2) = false →
      u.pools[i]? = s.pools[i]? := by
    rw [h.brittle', strayFirst_append, Bool.not_eq_true', Bool.or_eq_false_iff]
    refine fun hor => h.same (Bool.and_eq_false_iff.2 ?_)
    exact hor.symm.imp_left And.left
  obtain ⟨⟨hpool, hevents⟩, hsame⟩ := hd.agree s.now h.gentle hbefore
  rw [← hplace, ← hplace'] at hpool hevents hsame
  have hnoisy : noisy (eventsAt (.pool i) r'.2) = noisy (eventsAt (.pool i) r.2) := by
    rw [← noisy_map_gentle, hevents, noisy_map_gentle]
  have hafter : clash i (past ++ r.2) = false →
      (r'.1.pools[i]?, eventsAt (.pool i) r'.2) = (r.1.pools[i]?, eventsAt (.pool i) r.2) := by
    intro hclash
    refine hsame ((Bool.and_eq_false_iff.1 hclash).symm.imp_left fun hquiet => ?_)
    rwa [h.brittle', hnoisy, ← Bool.not_or, ← noisy_append, ← eventsAt_append, Bool.not_eq_true']
  refine ⟨⟨now, parent, length, alone.1, ?_, ?_, hpool, fun hclash => ?_⟩, ?_, fun hclash => ?_⟩
  · rw [hs.brittle, h.brittle, allEntries_singleton, List.map_append, noisy_append, Bool.not_or]
  · rw [hu.brittle, h.brittle', allEntries_singleton, eventsAt_append, noisy_append, Bool.not_or,
      noisy_map_snd i, alone.2, Bool.or_false, hnoisy]
  · rw [allEntries_singleton] at hclash
    exact congrArg Prod.fst (hafter hclash)
  · rw [heard_singleton, heard_singleton, soften_map, soften_map, hevents, now]
  · rw [allEntries_singleton] at hclash
    have heq : eventsAt (.pool i) r'.2 = eventsAt (.pool i) r.2 :=
      congrArg Prod.snd (hafter hclash)
    rw [heard_singleton, heard_singleton, heq, now]

/-- **Something is done at other places of the first scene.** -/
theorem of_still (h : Mirror i past s u) (hs : s.Does i .still r) (now : r.1.now = s.now)
    (parent : r.1.parentCancelled = s.parentCancelled)
    (length : r.1.pools.length = s.pools.length) :
    Mirrored i past (r.1, [⟨r.1.now, r.2⟩]) (u, []) := by
  have hu : u.Does i .still (u, []) :=
    ⟨rfl, by simp [noisy]⟩
  have hboth := of_does h Deed.mild_still hs hu (h.now.trans now.symm)
    (h.parent.trans parent.symm) (h.length.trans length.symm) ⟨h.alone, rfl⟩
  exact hboth.congr rfl rfl (by simp [eventsAt])

end Mirrored

/-! ## Scenes settle -/

@[simp] lemma length_pools_everywhere (f : Moment → Pool α → Pool α × List (Event α))
    (g : Moment → Batch α → Batch α × List (Event α)) (s : Scene α) :
    (s.everywhere f g).1.pools.length = s.pools.length := by
  simp only [everywhere, after, List.length_map, length_sweep]

/-- A phase consists of what is done at once and of what settles then. -/
lemma heard_phase (i : Nat) (r : Scene α × List (Entry α)) : heard i [(phase r).2] =
    heard i ([⟨r.1.now, r.2⟩] ++ [⟨r.1.now, r.1.settle.2⟩]) := by
  simp [phase]

/-- Its entries are those of both parts. -/
lemma allEntries_phase (r : Scene α × List (Entry α)) : allEntries [(phase r).2] =
    allEntries ([⟨r.1.now, r.2⟩] ++ [⟨r.1.now, r.1.settle.2⟩]) := by
  simp [phase]

/-- **Both scenes settle** after something has been done. -/
theorem Mirrored.phase
    (h : Mirrored i past (r.1, [⟨r.1.now, r.2⟩]) (r'.1, [⟨r'.1.now, r'.2⟩])) :
    Mirrored i past ((phase r).1, [(phase r).2]) ((phase r').1, [(phase r').2]) := by
  have hsettle := Mirrored.of_does h.mirror Deed.mild_settle (.settle i r.1) (.settle i r'.1)
    h.mirror.now h.mirror.parent
    ((length_pools_everywhere ..).trans (h.mirror.length.trans (length_pools_everywhere ..).symm))
    h.mirror.alone.settle
  exact (h.trans hsettle).congr (heard_phase i r) (allEntries_phase r) (heard_phase i r')

/-- **The first scene settles** after something has been done at other places. -/
theorem Mirrored.phase_still (h : Mirrored i past (r.1, [⟨r.1.now, r.2⟩]) (v, qs))
    (rest : ∀ p, r.1.pools[i]? = some p → p.Resting) :
    Mirrored i past ((Scene.phase r).1, [(Scene.phase r).2]) (v, qs) := by
  have hstill : r.1.Does i .still r.1.settle := (Does.settle i r.1).to_still fun p hp m =>
    Pool.settle_eq_self (Pool.step?_eq_none_iff_resting.2 (rest p hp))
  have hsettle := Mirrored.of_still h.mirror hstill rfl rfl (length_pools_everywhere ..)
  exact (h.trans hsettle).congr (heard_phase i r) (allEntries_phase r) (by simp)

/-! ## Runs of both scenes -/

/-- The runs of a scene in which a pool is alone are those of the pool. -/
lemma Alone.mem_runs (hu : u.Alone i) {x : Run α} :
    x ∈ u.runs ↔ ∃ p, u.pools[i]? = some p ∧ x ∈ p.running := by
  rw [runs, hu.batches, List.flatMap_nil, List.append_nil, List.mem_flatMap]
  constructor
  · rintro ⟨p, hp, hx⟩
    obtain ⟨j, hj⟩ := List.getElem?_of_mem hp
    by_cases hji : j = i
    · exact ⟨p, hji ▸ hj, hx⟩
    · have hnone := (Pool.load_eq_zero_iff.1 (hu.pools j p hj hji)).2.2
      rw [hnone] at hx
      cases hx
  · rintro ⟨p, hp, hx⟩
    exact ⟨p, List.mem_of_getElem? hp, hx⟩

namespace Mirror

/-- The pool has the same runs in both scenes. -/
lemma mem_runs (h : Mirror i past s u) {x : Run α} :
    x ∈ u.runs ↔ ∃ p, s.pools[i]? = some p ∧ x ∈ p.running := by
  rw [h.alone.mem_runs]
  have hrunning := congrArg (Option.map Pool.running) h.gentle
  rw [Option.map_map, Option.map_map] at hrunning
  have hrunning : u.pools[i]?.map Pool.running = s.pools[i]?.map Pool.running := hrunning
  constructor
  · rintro ⟨p, hp, hx⟩
    rw [hp] at hrunning
    obtain ⟨q, hq, heq⟩ := Option.map_eq_some_iff.1 hrunning.symm
    exact ⟨q, hq, heq ▸ hx⟩
  · rintro ⟨p, hp, hx⟩
    rw [hp] at hrunning
    obtain ⟨q, hq, heq⟩ := Option.map_eq_some_iff.1 hrunning
    exact ⟨q, hq, heq ▸ hx⟩

/-- They are runs of the first one. -/
lemma runs_subset (h : Mirror i past s u) {x : Run α} (hx : x ∈ u.runs) : x ∈ s.runs := by
  obtain ⟨p, hp, hmem⟩ := h.mem_runs.1 hx
  exact mem_runs_of_pool hp hmem

/-- If no task is due in the first scene, none is in the second one. -/
lemma firstDue?_eq_none (h : Mirror i past s u) (hnone : s.firstDue? = none) :
    u.firstDue? = none := by
  by_contra hne
  obtain ⟨x, hx⟩ := Option.ne_none_iff_exists'.1 hne
  have hdue := (List.mem_filter.1 (Run.mem_of_earliest hx)).2
  have hlate := not_due_of_firstDue? hnone (h.runs_subset (mem_runs_of_firstDue? hx))
  rw [h.now, hlate] at hdue
  cases hdue

/-- If the pool's task is due first among all tasks, it is due first among those of the pool. -/
lemma firstDue?_eq_some (h : Mirror i past s u) (proper : s.Proper) {x : Run α}
    (hx : s.firstDue? = some x) (own : x ∈ u.runs) : u.firstDue? = some x := by
  have hdue := (List.mem_filter.1 (Run.mem_of_earliest hx)).2
  have hmem : x ∈ u.runs.filter (·.isDue u.now) := List.mem_filter.2 ⟨own, h.now ▸ hdue⟩
  obtain ⟨y, hy⟩ := Option.isSome_iff_exists.1 (Run.isSome_earliest (List.ne_nil_of_mem hmem))
  have hydue := (List.mem_filter.1 (Run.mem_of_earliest hy)).2
  have hruns := h.runs_subset (mem_runs_of_firstDue? hy)
  have hyx := Run.endsBefore_of_earliest hy x hmem
  have hxy := Run.endsBefore_of_earliest hx y (List.mem_filter.2 ⟨hruns, h.now ▸ hydue⟩)
  have hid := Run.endsBefore_antisymm hxy hyx
  rwa [List.inj_on_of_nodup_map proper.runs_nodup (mem_runs_of_firstDue? hx) hruns hid]

/-- The clock is set to the same time in both scenes. -/
lemma pass (h : Mirror i past s u) (time : Nat) :
    Mirror i past { s with now := time } { u with now := time } where
  now := rfl
  parent := h.parent
  length := h.length
  alone := ⟨h.alone.batches, h.alone.pools⟩
  brittle := h.brittle
  brittle' := h.brittle'
  gentle := h.gentle
  same := h.same

end Mirror

/-- Nothing can move at the pool of that index. -/
def RestsAt (i : Nat) (s : Scene α) : Prop := ∀ p, s.pools[i]? = some p → p.Resting

/-- Nothing can when the scene has settled. -/
lemma restsAt_phase (i : Nat) (r : Scene α × List (Entry α)) : (phase r).1.RestsAt i := fun _ hp =>
  (Stage.settled_settle 0 r.1).resting_pool hp

/-- What is done at other places does not set it in motion. -/
lemma RestsAt.of_still (h : s.RestsAt i) (hs : s.Does i .still r) : r.1.RestsAt i :=
  fun p hp => h p ((congrArg Prod.fst hs.place).symm.trans hp)

/-! ## Due tasks -/

/-- If no task is due, none ends. -/
lemma finishDue_eq_self (hnone : s.firstDue? = none) : s.finishDue = (s, []) := by
  rw [finishDue]
  split
  · rfl
  · next x hx => cases hnone.symm.trans hx

/-- A due task ends before the others. -/
lemma finishDue_of_firstDue? {x : Run α} (hx : s.firstDue? = some x) :
    s.finishDue = ((phase (s.finish x.task.id)).1.finishDue.1,
      (phase (s.finish x.task.id)).2 :: (phase (s.finish x.task.id)).1.finishDue.2) := by
  rw [finishDue]
  split
  · next hnone => cases hnone.symm.trans hx
  · next y hy =>
    cases hy.symm.trans hx
    rfl

/-- **The due tasks end in both scenes.** -/
theorem mirrored_finishDue (proper : s.Proper) (atRest : s.RestsAt i) :
    ∀ {past u}, Mirror i past s u → Mirrored i past s.finishDue u.finishDue := by
  fun_induction Scene.finishDue s with
  | case1 s hnone =>
    intro past u h
    rw [finishDue_eq_self (h.firstDue?_eq_none hnone)]
    exact .refl h
  | case2 s x hx first rest ih =>
    intro past u h
    by_cases own : x ∈ u.runs
    · -- a task of the pool ends in both scenes
      have hmild : (Deed.toPool fun _ => Pool.finish (α := α) x.task.id).Mild := by
        simpa using Deed.mild_turn (α := α) (x := fun _ => .finish x.task.id) fun _ => rfl
      have hfinish := Mirrored.of_does h hmild (.finish i s x.task.id) (.finish i u x.task.id)
        h.now h.parent
        ((length_pools_everywhere ..).trans (h.length.trans (length_pools_everywhere ..).symm))
        (h.alone.finish x.task.id)
      have hfirst := hfinish.phase
      rw [finishDue_of_firstDue? (h.firstDue?_eq_some proper hx own)]
      exact hfirst.trans (ih (proper.of_leads (leads_finish s _)) (restsAt_phase i _) hfirst.mirror)
    · -- a task ends elsewhere in the first scene
      have hother : ∀ p, s.pools[i]? = some p → ∀ y ∈ p.running, y.task.id ≠ x.task.id := by
        intro p hp y hy hid
        have hyx := List.inj_on_of_nodup_map proper.runs_nodup (mem_runs_of_pool hp hy)
          (mem_runs_of_firstDue? hx) hid
        exact own (h.mem_runs.2 ⟨p, hp, hyx ▸ hy⟩)
      have hstill : s.Does i .still (s.finish x.task.id) :=
        (Does.finish i s x.task.id).to_still fun p hp _ => finish_eq_self (hother p hp)
      have hfirst := (Mirrored.of_still h hstill rfl rfl (length_pools_everywhere ..)).phase_still
        (atRest.of_still hstill)
      exact hfirst.trans (ih (proper.of_leads (leads_finish s _)) (restsAt_phase i _) hfirst.mirror)

/-- After something has been done to the pool both scenes settle, and the due tasks end. -/
theorem Mirrored.act
    (h : Mirrored i past (r.1, [⟨r.1.now, r.2⟩]) (r'.1, [⟨r'.1.now, r'.2⟩]))
    (proper : (Scene.phase r).1.Proper) :
    Mirrored i past (Scene.act r) (Scene.act r') := by
  have hfirst := h.phase
  have hrest := mirrored_finishDue proper (restsAt_phase i r) hfirst.mirror
  exact hfirst.trans hrest

/-- After something has been done at other places the first scene settles, and the due tasks end. -/
theorem Mirrored.act_still (h : Mirrored i past (r.1, [⟨r.1.now, r.2⟩]) (v, []))
    (atRest : r.1.RestsAt i) (proper : (Scene.phase r).1.Proper) (idle : v.firstDue? = none) :
    Mirrored i past (Scene.act r) (v, []) := by
  have hfirst := h.phase_still atRest
  have hrest := mirrored_finishDue proper (restsAt_phase i r) hfirst.mirror
  rw [finishDue_eq_self idle] at hrest
  exact hfirst.trans hrest

/-! ## The clock -/

/-- Nothing is done when the clock is set. -/
lemma does_still_pass (i time : Nat) (s : Scene α) :
    ({ s with now := time } : Scene α).Does i .still ({ s with now := time }, []) :=
  ⟨rfl, by simp [noisy]⟩

/-- The clock moves to the same time in both scenes. -/
lemma Mirror.moveTo (h : Mirror i past s u) (proper : s.Proper) (later : s.now ≤ time) :
    Mirrored i past (s.moveTo time) (u.moveTo time) := by
  have hpass := h.pass time
  have hstill := Mirrored.of_does hpass Deed.mild_still (does_still_pass i time s)
    (does_still_pass i time u) rfl h.parent h.length ⟨hpass.alone, rfl⟩
  exact hstill.act (proper.of_leads (leads_pass later))

/-- The clock moves to a time at which things happen at other places only. -/
lemma Mirror.moveTo_aside (h : Mirror i past s u) (proper : s.Proper) (later : s.now ≤ time)
    (atRest : s.RestsAt i) (early : ∀ x ∈ u.runs, x.isDue time = false) :
    Mirrored i past (s.moveTo time) ({ u with now := time }, []) := by
  have hidle : ({ u with now := time } : Scene α).firstDue? = none := by
    by_contra hne
    obtain ⟨x, hx⟩ := Option.ne_none_iff_exists'.1 hne
    obtain ⟨hruns, hdue⟩ := List.mem_filter.1 (Run.mem_of_earliest hx)
    exact absurd hdue (by simp [early x hruns])
  have hstill := Mirrored.of_still (h.pass time) (does_still_pass i time s) rfl rfl rfl
  exact hstill.act_still atRest (proper.of_leads (leads_pass later)) hidle

/-- Where no batch waits the clock stops at ends of tasks only. -/
lemma Alone.deadlinesAhead (hu : u.Alone i) : u.deadlinesAhead = [] := by
  rw [Scene.deadlinesAhead, hu.batches, List.filterMap_nil]

/-- The clock of the second scene stops at no other times than that of the first one. -/
lemma Mirror.stops_subset (h : Mirror i past s u) :
    ∀ stop ∈ u.endsAhead ++ u.deadlinesAhead, stop ∈ s.endsAhead ++ s.deadlinesAhead := by
  intro stop hstop
  rw [h.alone.deadlinesAhead, List.append_nil] at hstop
  obtain ⟨hmem, hlt⟩ := List.mem_filter.1 hstop
  obtain ⟨x, hx, hdue⟩ := List.mem_filterMap.1 hmem
  rw [h.now] at hlt
  exact List.mem_append_left _ (List.mem_filter.2
    ⟨List.mem_filterMap.2 ⟨x, h.runs_subset hx, hdue⟩, hlt⟩)

/-- Without a stop before it the clock moves to the time at once. -/
lemma advanceTo_of_le (h : ∀ stop ∈ s.endsAhead ++ s.deadlinesAhead, target ≤ stop) :
    s.advanceTo target = s.moveTo target := by
  rw [advanceTo]
  split
  · rfl
  · next time htime =>
    have hle := h time (List.min?_mem htime)
    rw [dif_neg (by omega)]

/-- It moves to the first stop before the time. -/
lemma advanceTo_of_lt (h : (s.endsAhead ++ s.deadlinesAhead).min? = some time)
    (hlt : time < target) : s.advanceTo target =
      (((s.moveTo time).1.advanceTo target).1,
        (s.moveTo time).2 ++ ((s.moveTo time).1.advanceTo target).2) := by
  rw [advanceTo]
  split
  · next hnone => cases hnone.symm.trans h
  · next stop hstop =>
    cases hstop.symm.trans h
    rw [dif_pos hlt]

/-- Without a near stop the clock does not run on. -/
lemma run_of_none (h : s.nearStop? runPatience = none) : s.run = (s, []) := by
  rw [run]
  split
  · rfl
  · next time htime => cases h.symm.trans htime

/-- It runs on to the first near stop. -/
lemma run_of_some (h : s.nearStop? runPatience = some time) :
    s.run = ((s.moveTo time).1.run.1, (s.moveTo time).2 ++ (s.moveTo time).1.run.2) := by
  rw [run]
  split
  · next hnone => cases hnone.symm.trans h
  · next stop hstop =>
    cases hstop.symm.trans h
    rfl

/-- Where the clock is does not matter if all stops lie ahead. -/
lemma advanceTo_pass (hu : u.Alone i) (later : u.now ≤ time)
    (ahead : ∀ stop ∈ u.endsAhead, time < stop) :
    ({ u with now := time } : Scene α).advanceTo target = u.advanceTo target := by
  have hends : ({ u with now := time } : Scene α).endsAhead = u.endsAhead := by
    refine List.filter_congr fun stop hstop => ?_
    have hiff : time < stop ↔ u.now < stop :=
      ⟨Nat.lt_of_le_of_lt later,
        fun hlt => ahead stop (List.mem_filter.2 ⟨hstop, by simpa using hlt⟩)⟩
    exact decide_eq_decide.2 hiff
  have hpassed : ({ u with now := time } : Scene α).Alone i := ⟨hu.batches, hu.pools⟩
  have hstops : ({ u with now := time } : Scene α).endsAhead ++
      ({ u with now := time } : Scene α).deadlinesAhead = u.endsAhead ++ u.deadlinesAhead := by
    rw [hends, hu.deadlinesAhead, hpassed.deadlinesAhead]
  cases hmin : (u.endsAhead ++ u.deadlinesAhead).min? with
  | none =>
    have hnil := List.min?_eq_none_iff.1 hmin
    rw [advanceTo_of_le (by simp [hstops, hnil]), advanceTo_of_le (by simp [hnil])]
    rfl
  | some stop =>
    by_cases hlt : stop < target
    · rw [advanceTo_of_lt (hstops ▸ hmin) hlt, advanceTo_of_lt hmin hlt]
      rfl
    · have hle : ∀ x ∈ u.endsAhead ++ u.deadlinesAhead, target ≤ x := fun x hx =>
        Nat.le_trans (Nat.le_of_not_lt hlt) (le_of_min? hmin x hx)
      rw [advanceTo_of_le (hstops ▸ hle), advanceTo_of_le hle]
      rfl

/-- What comes by itself leaves the pool at rest. -/
lemma Ticks.restsAt {deadlines : Scene α → List Nat} (h : Ticks deadlines s ps t)
    (atRest : s.RestsAt i) : t.RestsAt i :=
  h.keeps (P := RestsAt i) (fun _ _ _ ⟨_, _, _, heq⟩ _ => heq ▸ restsAt_phase i _) atRest

/-- **The clock moves on in both scenes.** -/
theorem mirrored_advanceTo (proper : s.Proper) (atRest : s.RestsAt i) (hnone : s.firstDue? = none)
    (later : s.now ≤ target) : ∀ {past u}, Mirror i past s u →
      Mirrored i past (s.advanceTo target) (u.advanceTo target) := by
  fun_induction Scene.advanceTo target s with
  | case1 s hstops =>
    intro past u h
    have hnil : s.endsAhead ++ s.deadlinesAhead = [] := List.min?_eq_none_iff.1 hstops
    rw [advanceTo_of_le fun stop hstop => by simpa [hnil] using h.stops_subset stop hstop]
    exact h.moveTo proper later
  | case2 s time hstop hlt first rest ih =>
    intro past u h
    have hnow : s.now ≤ time := Nat.le_of_lt (lt_of_stop hstop)
    have hle := le_of_min? hstop
    have hticks : Ticks deadlinesAhead s first.2 first.1 := ticks_moveTo hnone hnow hle
    have hproper : first.1.Proper := proper.of_leads hticks.leads
    have hrest : first.1.RestsAt i := hticks.restsAt atRest
    have hreached : first.1.now = time := now_moveTo time s
    have hlater : first.1.now ≤ target := by omega
    by_cases own : time ∈ u.endsAhead
    · -- the clock stops in both scenes
      have hmin : (u.endsAhead ++ u.deadlinesAhead).min? = some time :=
        List.min?_eq_some_iff.2 ⟨List.mem_append_left _ own, fun stop hmem =>
          hle stop (h.stops_subset stop hmem)⟩
      have hfirst : Mirrored i past first (u.moveTo time) := h.moveTo proper hnow
      rw [advanceTo_of_lt hmin hlt]
      exact hfirst.trans (ih hproper hrest (firstDue?_finishDue _) hlater hfirst.mirror)
    · -- it stops for things that happen at other places
      have ahead : ∀ stop ∈ u.endsAhead, time < stop := fun stop hmem =>
        Nat.lt_of_le_of_ne (hle stop (h.stops_subset stop (List.mem_append_left _ hmem)))
          fun heq => own (heq ▸ hmem)
      have early : ∀ x ∈ u.runs, x.isDue time = false := fun x hx => by
        cases hdue : x.due with
        | none => simp [Run.isDue, hdue]
        | some stop =>
          have := ahead stop (mem_endsAhead (h.firstDue?_eq_none hnone) hx hdue)
          simpa [Run.isDue, hdue] using this
      have hfirst : Mirrored i past first ({ u with now := time }, []) :=
        h.moveTo_aside proper hnow atRest early
      have hrest := ih hproper hrest (firstDue?_finishDue _) hlater hfirst.mirror
      rw [advanceTo_pass h.alone (h.now ▸ hnow) ahead] at hrest
      exact hfirst.trans hrest
  | case3 s time hstop hlt =>
    intro past u h
    have hle := le_of_min? hstop
    rw [advanceTo_of_le fun stop hstop => by
      have := hle stop (h.stops_subset stop hstop)
      omega]
    exact h.moveTo proper later

end Scene

end Workforce
