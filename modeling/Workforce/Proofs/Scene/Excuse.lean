import Workforce.Proofs.Scene.Breakdown
import Workforce.Proofs.Batch.Marker
/-!
# Scenes in which panics are excused

The same commands are given in two scenes. In the second one some of the tasks of batches that would
panic return the absent marker instead.

## Main definitions

* `Workforce.Excuses` — what happens at one time in the first scene, and what in the second.
* `Workforce.Scene.Reached` — the first scene has been reached by a run, and nothing can move in it.
* `Workforce.Scene.Excused` — what happens in phases of the same times.
* `Workforce.Scene.Tracks` — both scenes go on in the same way.

## Main results

* `Workforce.Scene.Tracks.finish` — so they do when a task ends.
* `Workforce.Scene.Tracks.perform`, `Workforce.Scene.Tracks.reach` — so they do when commands are
  given.

## Implementation notes

The absent marker leaves a batch as a panic does only if nothing could move in it before, and if
either its collector waits or it has been given up. So the first scene comes with the run that has
led to it.
-/

namespace Workforce

open Occurrence Trail History

variable {α : Type} (chosen : Task α → Bool)

/-! ## What happens -/

/-- What happens in a batch, with its task excused. -/
def Entry.excuse : Entry α → Entry α
  | (.batch i, e) => (.batch i, e.excuse chosen)
  | x => x

/-- It is the end of a chosen task of a batch that panics. -/
def Entry.Pardoned : Entry α → Prop
  | (.batch _, e) => e.Pardoned chosen
  | _ => False

/-- The command, with the tasks of a batch excused. -/
def Command.excuse : Command α → Command α
  | .batch size tasks admission => .batch size (tasks.map (Task.excuse chosen)) admission
  | c => c

/-- What happens in a phase, and what happens meanwhile if chosen tasks of batches are excused. The
panic of such a task goes unnoted, and an absent marker may pass through the results queue. Only in
batches that are gone may a worker report its exit in other words. -/
inductive Excuses (gone : Nat → Prop) : List (Entry α) → List (Entry α) → Prop
  | nil : Excuses gone [] []
  /-- The same happens. -/
  | same {xs ys : List (Entry α)} {x : Entry α} (other : ¬x.Pardoned chosen)
      (rest : Excuses gone xs ys) : Excuses gone (x :: xs) (x.excuse chosen :: ys)
  /-- A chosen task panics, which is noted. -/
  | failed {xs ys : List (Entry α)} (i : Nat) {t : Task α} (panics : t.outcome = .panic)
      (isChosen : chosen t = true) (rest : Excuses gone xs ys) :
      Excuses gone ((.batch i, .ended t) :: (.batch i, .taskFailed) :: xs)
        ((.batch i, .ended (t.excuse chosen)) :: ys)
  /-- The absent marker is published. -/
  | published {xs ys : List (Entry α)} (i : Nat) (rest : Excuses gone xs ys) :
      Excuses gone xs ((.batch i, .published none) :: ys)
  /-- The collector takes it. -/
  | received {xs ys : List (Entry α)} (i : Nat) (rest : Excuses gone xs ys) :
      Excuses gone xs ((.batch i, .received none true none) :: ys)
  /-- A worker exits because it finds the batch cancelled; the one that has the absent marker exits
  because it finds nobody to receive it. -/
  | worded {xs ys : List (Entry α)} {i : Nat} (lost : gone i) (rest : Excuses gone xs ys) :
      Excuses gone ((.batch i, .sawCancellation) :: xs) ((.batch i, .receiverGone) :: ys)

namespace Excuses

variable {chosen} {gone : Nat → Prop} {xs ys xs' ys' : List (Entry α)}

/-- One thing happens after the other. -/
lemma append (h : Excuses chosen gone xs ys) (h' : Excuses chosen gone xs' ys') :
    Excuses chosen gone (xs ++ xs') (ys ++ ys') := by
  induction h with
  | nil => exact h'
  | same other _ ih => exact .same other ih
  | failed i panics isChosen _ ih => exact .failed i panics isChosen ih
  | published i _ ih => exact .published i ih
  | received i _ ih => exact .received i ih
  | worded lost _ ih => exact .worded lost ih

/-- What is read off the entries is the same if it does not depend on what differs. -/
lemma filterMap_eq {β : Type} {f g : Entry α → Option β} (h : Excuses chosen gone xs ys)
    (same : ∀ x, g (x.excuse chosen) = f x) (failed : ∀ i, f (.batch i, .taskFailed) = none)
    (published : ∀ i, g (.batch i, .published none) = none)
    (received : ∀ i, g (.batch i, .received none true none) = none)
    (worded : ∀ i, gone i → g (.batch i, .receiverGone) = f (.batch i, .sawCancellation)) :
    ys.filterMap g = xs.filterMap f := by
  induction h with
  | nil => rfl
  | same _ _ ih => rw [List.filterMap_cons, List.filterMap_cons, same, ih]
  | @failed xs ys i t _ _ _ ih =>
    have hend : g (.batch i, .ended (t.excuse chosen)) = f (.batch i, .ended t) :=
      same (.batch i, .ended t)
    rw [List.filterMap_cons, List.filterMap_cons, hend, List.filterMap_cons, failed, ih]
  | published i _ ih => rw [List.filterMap_cons, published, ih]
  | received i _ ih => rw [List.filterMap_cons, received, ih]
  | worded lost _ ih => rw [List.filterMap_cons, List.filterMap_cons, worded _ lost, ih]

/-- Frail tasks are discarded in both. -/
lemma any_frail (h : Excuses chosen gone xs ys) :
    ys.any (·.2.isFrailDiscard) = xs.any (·.2.isFrailDiscard) := by
  induction h with
  | nil => rfl
  | @same xs ys x _ _ ih =>
    have hx : (x.excuse chosen).2.isFrailDiscard = x.2.isFrailDiscard := by
      obtain ⟨place, e⟩ := x
      cases place with
      | pool i => rfl
      | batch i => exact e.isFrailDiscard_excuse chosen
    rw [List.any_cons, List.any_cons, hx, ih]
  | failed i _ _ _ ih | worded _ _ ih => simpa [Event.isFrailDiscard] using ih
  | published i _ ih | received i _ ih => simpa [Event.isFrailDiscard] using ih

end Excuses

/-- The same happens in a batch, in which no chosen task panics. -/
lemma Excuses.map_batch (gone : Nat → Prop) (i : Nat) {es : List (Event α)}
    (h : ∀ e ∈ es, ¬e.Pardoned chosen) : Excuses chosen gone (es.map (Place.batch i, ·))
      ((es.map (Event.excuse chosen)).map (Place.batch i, ·)) := by
  induction es with
  | nil => exact .nil
  | cons e es ih =>
    obtain ⟨hfirst, hrest⟩ := List.forall_mem_cons.1 h
    exact .same (x := (.batch i, e)) hfirst (ih hrest)

/-- The same happens in pools. -/
lemma Excuses.map_pool (gone : Nat → Prop) (i : Nat) (es : List (Event α)) :
    Excuses chosen gone (es.map (Place.pool i, ·)) (es.map (Place.pool i, ·)) := by
  induction es with
  | nil => exact .nil
  | cons e es ih => exact .same (x := (.pool i, e)) id ih

/-- The same happens in all pools. -/
lemma Excuses.entries_pool (gone : Nat → Prop) (rs : List (Pool α × List (Event α))) :
    Excuses chosen gone (entries .pool rs) (entries .pool rs) := by
  have key : ∀ k, Excuses chosen gone (Accord.entriesFrom .pool k rs)
      (Accord.entriesFrom .pool k rs) := by
    induction rs with
    | nil => exact fun _ => .nil
    | cons r rs ih =>
      intro k
      rw [Accord.entriesFrom_cons]
      exact (Excuses.map_pool chosen gone k r.2).append (ih (k + 1))
  exact key 0

/-! ## Changes everywhere -/

namespace Scene

/-- The scene, with the tasks of batches excused. -/
def excuse (s : Scene α) : Scene α := { s with batches := s.batches.map (Batch.excuse chosen) }

/-- Two scenes that have the same pools; their batches are related. -/
structure Beside (R : Nat → Batch α → Batch α → Prop) (s u : Scene α) : Prop where
  now : u.now = s.now
  parent : u.parentCancelled = s.parentCancelled
  brittle : u.brittle = s.brittle
  pools : u.pools = s.pools
  batches : Side R 0 s.batches u.batches

variable {chosen} {s t u v : Scene α} {gone : Nat → Prop} {n : Nat} {past : List (Entry α)}

/-- Batches and what they are turned into. -/
lemma side_map {R : Nat → Batch α → Batch α → Prop} {f : Batch α → Batch α} {k : Nat}
    {xs : List (Batch α)} (h : ∀ i b, xs[i]? = some b → R (k + i) b (f b)) :
    Side R k xs (xs.map f) := by
  induction xs generalizing k with
  | nil => exact .nil k
  | cons b xs ih =>
    refine .cons (h 0 b rfl) (ih fun i c hc => ?_)
    rw [Nat.add_assoc, Nat.add_comm 1]
    exact h (i + 1) c hc

/-- The batches are related to themselves with their tasks excused. -/
lemma beside_self {R : Nat → Batch α → Batch α → Prop}
    (h : ∀ i b, s.batches[i]? = some b → R i b (b.excuse chosen)) : Beside R s (s.excuse chosen) :=
  ⟨rfl, rfl, rfl, rfl, side_map fun i b hb => (Nat.zero_add i).symm ▸ h i b hb⟩

/-- The batches are the same but for their tasks. -/
lemma Beside.eq_excuse (h : Beside (fun _ b c => c = b.excuse chosen) s u) :
    u = s.excuse chosen := by
  have hbatches : u.batches = s.batches.map (Batch.excuse chosen) := by
    simpa using h.batches.map_eq (f := Batch.excuse chosen) (g := id) fun _ _ _ hr => hr
  obtain ⟨hnow, hparent, hbrittle, hpools, -⟩ := h
  cases u
  simp_all [excuse]

/-- Batches and their counterparts are changed one after the other. -/
lemma sweep_beside {R S : Nat → Batch α → Batch α → Prop}
    {f g : Bool → Batch α → Batch α × List (Event α)} (hfg : ∀ i b c brittle, R i b c →
      S i (f brittle b).1 (g brittle c).1 ∧ Excuses chosen gone
        ((f brittle b).2.map (Place.batch i, ·)) ((g brittle c).2.map (Place.batch i, ·)))
    {k : Nat} {xs ys : List (Batch α)} (h : Side R k xs ys) (brittle : Bool) :
    Side S k ((sweep f brittle xs).map Prod.fst) ((sweep g brittle ys).map Prod.fst) ∧
      Excuses chosen gone (Accord.entriesFrom .batch k (sweep f brittle xs))
        (Accord.entriesFrom .batch k (sweep g brittle ys)) := by
  induction h generalizing brittle with
  | nil k => exact ⟨.nil k, .nil⟩
  | @cons k b c xs ys head tail ih =>
    obtain ⟨hrel, hevents⟩ := hfg k b c brittle head
    have hfrail : (g brittle c).2.any Event.isFrailDiscard =
        (f brittle b).2.any Event.isFrailDiscard := by
      have hany := hevents.any_frail
      rwa [Accord.any_map_frail, Accord.any_map_frail] at hany
    obtain ⟨hrest, hentries⟩ := ih (brittle && !(f brittle b).2.any Event.isFrailDiscard)
    simp only [sweep, Accord.entriesFrom_cons, hfrail]
    exact ⟨.cons hrel hrest, hevents.append hentries⟩

/-- **The same is done to every pool and every batch** in both scenes. -/
lemma Beside.everywhere {R S : Nat → Batch α → Batch α → Prop} (h : Beside R s u)
    (f : Moment → Pool α → Pool α × List (Event α))
    {g k : Moment → Batch α → Batch α × List (Event α)} (hg : ∀ i b c m, R i b c →
      S i (g m b).1 (k m c).1 ∧ Excuses chosen gone ((g m b).2.map (Place.batch i, ·))
        ((k m c).2.map (Place.batch i, ·))) :
    Beside S (s.everywhere f g).1 (u.everywhere f k).1 ∧
      Excuses chosen gone (s.everywhere f g).2 (u.everywhere f k).2 := by
  have hentries : ∀ rs : List (Batch α × List (Event α)),
      entries .batch rs = Accord.entriesFrom .batch 0 rs := fun _ => rfl
  simp only [Scene.everywhere, after, hentries, h.now, h.brittle, h.pools]
  obtain ⟨hbatches, hrest⟩ := sweep_beside
    (fun i b c brittle hr => hg i b c ⟨s.now, brittle⟩ hr) h.batches _
  refine ⟨⟨rfl, h.parent, ?_, rfl, hbatches⟩, (Excuses.entries_pool chosen gone _).append hrest⟩
  simp only [hrest.any_frail]

variable (chosen) in
/-- So is what does not depend on how tasks will end. -/
lemma everywhere_excuse (gone : Nat → Prop) (f : Moment → Pool α → Pool α × List (Event α))
    {g : Moment → Batch α → Batch α × List (Event α)}
    (hg : ∀ m b, g m (b.excuse chosen) = Batch.excused chosen (g m b) ∧
      ∀ e ∈ (g m b).2, ¬e.Pardoned chosen) (s : Scene α) :
    ((s.excuse chosen).everywhere f g).1 = (s.everywhere f g).1.excuse chosen ∧
      Excuses chosen gone (s.everywhere f g).2 ((s.excuse chosen).everywhere f g).2 := by
  have hself : Beside (fun _ b c => c = b.excuse chosen) s (s.excuse chosen) :=
    beside_self fun _ _ _ => rfl
  obtain ⟨hall, hentries⟩ := hself.everywhere (S := fun _ b c => c = b.excuse chosen) f (g := g)
    (k := g) fun i b c m hr => by
      rw [hr, (hg m b).1]
      exact ⟨rfl, Excuses.map_batch chosen gone i (hg m b).2⟩
  exact ⟨hall.eq_excuse, hentries⟩

variable (chosen) in
/-- Scenes settle in the same way. -/
lemma settle_excuse (gone : Nat → Prop) (s : Scene α) :
    (s.excuse chosen).settle.1 = s.settle.1.excuse chosen ∧
      Excuses chosen gone s.settle.2 (s.excuse chosen).settle.2 :=
  everywhere_excuse chosen gone _
    (fun m b => ⟨Batch.settle_excuse chosen m b, Batch.not_pardoned_settle⟩) s

/-! ## What is reached -/

/-- The scene has been reached by a run in which this has happened, and nothing can move in it. -/
def Reached (n : Nat) (past : List (Entry α)) (s : Scene α) : Prop :=
  ∃ h, Stage.Steps {} h ⟨n, s⟩ ∧ events h = past ∧ Stage.Settled ⟨n, s⟩

/-- So is what follows. -/
lemma Reached.of_reaches {n' : Nat} {ps : List (Phase α)} (h : Reached n past s)
    (k : Stage.Reaches ⟨n, s⟩ ps ⟨n', t⟩) : Reached n' (past ++ allEntries ps) t := by
  obtain ⟨xs, hsteps, rfl, hsettled⟩ := h
  obtain ⟨ys, ksteps, kevents, ksettled⟩ := k
  refine ⟨xs ++ ys, hsteps.trans ksteps, ?_, ksettled hsettled⟩
  rw [events_append, kevents]
  rfl

/-- The batches that have been given up. -/
def dropped (past : List (Entry α)) (i : Nat) : Prop := (Place.batch i, Event.batchDropped) ∈ past

/-- What is known of a batch there. -/
lemma Reached.ready {i : Nat} {b : Batch α} (h : Reached n past s) (hb : s.batches[i]? = some b) :
    b.Ready (dropped past i) := by
  obtain ⟨xs, run, rfl, settled⟩ := h
  have hmem : b ∈ s.batches := List.mem_of_getElem? hb
  refine ⟨Batch.resting_of_step? (settled.2 b hmem), run.batches_sound b hmem, ?_⟩
  by_cases hheld : b.pool.held = true
  · exact .inl fun h => by simp [hheld] at h
  · rcases run.workers_or_dropped hb (by simpa using hheld) with hw | ⟨hgiven, hc, hnoted⟩
    · exact .inl fun _ => hw
    · exact .inr ⟨Stage.mem_events.2 (mem_trailAt.1 hnoted), hgiven.deserted, hc⟩

/-! ## Phases -/

/-- What happens in phases of the same times; this has happened before. -/
inductive Excused (chosen : Task α → Bool) :
    List (Entry α) → List (Phase α) → List (Phase α) → Prop
  | nil (past : List (Entry α)) : Excused chosen past [] []
  | cons {past : List (Entry α)} {p q : Phase α} {ps qs : List (Phase α)} (time : q.time = p.time)
      (entries : Excuses chosen (dropped past) p.entries q.entries)
      (rest : Excused chosen (past ++ p.entries) ps qs) : Excused chosen past (p :: ps) (q :: qs)

/-- One thing happens after the other. -/
lemma Excused.append {ps qs ps' qs' : List (Phase α)} (h : Excused chosen past ps qs)
    (h' : Excused chosen (past ++ allEntries ps) ps' qs') :
    Excused chosen past (ps ++ ps') (qs ++ qs') := by
  induction h with
  | nil => simpa using h'
  | cons time entries _ ih =>
    refine .cons time entries (ih ?_)
    rwa [allEntries_cons, ← List.append_assoc] at h'

/-- What is read off the timelines is the same if it does not depend on what differs. -/
lemma Excused.filterMap_timeline {β : Type} {f g : Nat × Entry α → Option β}
    {ps qs : List (Phase α)} (h : Excused chosen past ps qs)
    (same : ∀ time x, g (time, x.excuse chosen) = f (time, x))
    (failed : ∀ time i, f (time, .batch i, .taskFailed) = none)
    (published : ∀ time i, g (time, .batch i, .published none) = none)
    (received : ∀ time i, g (time, .batch i, .received none true none) = none)
    (worded : ∀ time i, dropped (past ++ allEntries ps) i →
      g (time, .batch i, .receiverGone) = f (time, .batch i, .sawCancellation)) :
    (timeline qs).filterMap g = (timeline ps).filterMap f := by
  induction h with
  | nil => rfl
  | @cons past p q ps qs time entries _ ih =>
    rw [allEntries_cons, ← List.append_assoc] at worded
    have hworded : ∀ i, dropped past i →
        g (p.time, .batch i, .receiverGone) = f (p.time, .batch i, .sawCancellation) :=
      fun i lost => worded p.time i (List.mem_append_left _ (List.mem_append_left _ lost))
    rw [timeline_cons, timeline_cons, List.filterMap_append, List.filterMap_append, ih worded, time,
      List.filterMap_map, List.filterMap_map]
    exact congrArg (· ++ _) (entries.filterMap_eq (same p.time) (failed p.time) (published p.time)
      (received p.time) hworded)

/-- What is read off each phase is the same if that is so for phases in which the same happens. -/
lemma Excused.flatMap_eq {β : Type} {f : Phase α → List β} {ps qs : List (Phase α)}
    (h : Excused chosen past ps qs) (same : ∀ gone p q, q.time = p.time →
      Excuses chosen gone p.entries q.entries → f q = f p) : qs.flatMap f = ps.flatMap f := by
  induction h with
  | nil => rfl
  | cons time entries _ ih =>
    rw [List.flatMap_cons, List.flatMap_cons, ih, same _ _ _ time entries]

/-- The scene and the phases of two runs; the first one has been reached. -/
structure Tracks (chosen : Task α → Bool) (n : Nat) (past : List (Entry α))
    (r r' : Scene α × List (Phase α)) : Prop where
  reached : Reached n (past ++ allEntries r.2) r.1
  scene : r'.1 = r.1.excuse chosen
  phases : Excused chosen past r.2 r'.2

/-- Nothing happens. -/
lemma Tracks.refl (h : Reached n past s) : Tracks chosen n past (s, []) (s.excuse chosen, []) where
  reached := by simpa using h
  scene := rfl
  phases := .nil past

/-- One thing happens after the other. -/
lemma Tracks.trans {n' : Nat} {ps ps' qs qs' : List (Phase α)}
    (h : Tracks chosen n past (s, ps) (u, qs))
    (k : Tracks chosen n' (past ++ allEntries ps) (t, ps') (v, qs')) :
    Tracks chosen n' past (t, ps ++ ps') (v, qs ++ qs') where
  reached := by
    rw [allEntries_append, ← List.append_assoc]
    exact k.reached
  scene := k.scene
  phases := h.phases.append k.phases

/-- **What is done in both scenes becomes a phase** when they settle. -/
lemma Tracks.phase {r r' : Scene α × List (Entry α)}
    (reached : Reached n (past ++ allEntries [(Scene.phase r).2]) (Scene.phase r).1)
    (scene : r'.1 = r.1.excuse chosen) (entries : Excuses chosen (dropped past) r.2 r'.2) :
    Tracks chosen n past ((Scene.phase r).1, [(Scene.phase r).2])
      ((Scene.phase r').1, [(Scene.phase r').2]) := by
  obtain ⟨hsettle, hentries⟩ := settle_excuse chosen (dropped past) r.1
  refine ⟨reached, ?_, .cons ?_ ?_ (.nil _)⟩
  · rw [Scene.phase, scene]
    exact hsettle
  · simp only [Scene.phase, scene]
    rfl
  · simp only [Scene.phase, scene]
    exact entries.append hentries

/-- What follows in a batch and in its counterpart is the same but for the tasks. -/
def Agree (chosen : Task α → Bool) (gone : Nat → Prop) (i : Nat) (b c : Batch α) : Prop :=
  ∀ m, (c.settle m).1 = (b.settle m).1.excuse chosen ∧
    Excuses chosen gone ((b.settle m).2.map (Place.batch i, ·))
      ((c.settle m).2.map (Place.batch i, ·))

/-- So it is when a task ends in a batch in which nothing moves. -/
lemma agree_finish {i : Nat} {b : Batch α} (hb : b.Ready (gone i)) (name : TaskId) :
    Agree chosen gone i (b.finish name).1 ((b.excuse chosen).finish name).1 ∧
      Excuses chosen gone ((b.finish name).2.map (Place.batch i, ·))
        (((b.excuse chosen).finish name).2.map (Place.batch i, ·)) := by
  rcases hb.finish_excuse chosen name with ⟨hsame, hother⟩ |
    ⟨t, c, d, hpanic, hchosen, hc, hd, hsettle⟩
  · rw [hsame]
    refine ⟨fun m => ?_, Excuses.map_batch chosen gone i hother⟩
    have hrest := Batch.settle_excuse chosen m (b.finish name).1
    rw [Prod.map_fst, hrest]
    exact ⟨rfl, Excuses.map_batch chosen gone i Batch.not_pardoned_settle⟩
  · rw [hc, hd]
    refine ⟨fun m => ⟨(hsettle m).1, ?_⟩, .failed i hpanic hchosen .nil⟩
    have hother : ∀ e ∈ (c.settle m).2, ¬e.Pardoned chosen := Batch.not_pardoned_settle
    rcases (hsettle m).2 with ⟨xs, ys, hxs, hys⟩ | ⟨hgone, es, hes, hes'⟩
    · rw [hxs, List.forall_mem_append] at hother
      rw [hxs, hys, List.map_append, List.map_cons, List.map_append, List.map_cons]
      exact .published i ((Excuses.map_batch chosen gone i hother.1).append
        (.received i (Excuses.map_batch chosen gone i hother.2)))
    · rw [hes, List.forall_mem_cons] at hother
      rw [hes, hes', List.map_cons, List.map_cons]
      exact .worded hgone (Excuses.map_batch chosen gone i hother.2)

variable (chosen) in
/-- **The end of a task becomes a phase** in both scenes. -/
lemma Tracks.finish {n' : Nat} (h : Reached n past s) (name : TaskId)
    (reached : Reached n' (past ++ allEntries [(Scene.phase (s.finish name)).2])
      (Scene.phase (s.finish name)).1) :
    Tracks chosen n' past
      ((Scene.phase (s.finish name)).1, [(Scene.phase (s.finish name)).2])
      ((Scene.phase ((s.excuse chosen).finish name)).1,
        [(Scene.phase ((s.excuse chosen).finish name)).2]) := by
  have hready : Beside (fun i b c => c = b.excuse chosen ∧ b.Ready (dropped past i)) s
      (s.excuse chosen) := beside_self fun _ _ hb => ⟨rfl, h.ready hb⟩
  obtain ⟨hfinish, hends⟩ := hready.everywhere (S := Agree chosen (dropped past))
    (fun _ => Pool.finish name) (g := fun _ => Batch.finish name) (k := fun _ => Batch.finish name)
    fun i b c _ ⟨hr, hb⟩ => hr ▸ agree_finish hb name
  obtain ⟨hsettle, hrest⟩ := hfinish.everywhere (S := fun _ b c => c = b.excuse chosen)
    Pool.settle (g := Batch.settle) (k := Batch.settle) fun i b c m hr => hr m
  exact ⟨reached, hsettle.eq_excuse, .cons rfl (hends.append hrest) (.nil _)⟩

end Scene

/-! ## Due tasks -/

namespace Run

/-- What of a run matters for the clock. -/
def key (r : Run α) : TaskId × Option Nat := (r.task.id, r.due)

/-- Which of two runs ends first depends on that only. -/
lemma endsBefore_congr {r r' s s' : Run α} (hr : r'.key = r.key) (hs : s'.key = s.key) :
    r'.endsBefore s' = r.endsBefore s := by
  obtain ⟨hid, hdue⟩ := Prod.ext_iff.1 hr
  obtain ⟨hid', hdue'⟩ := Prod.ext_iff.1 hs
  simp only [key] at hid hdue hid' hdue'
  simp only [endsBefore, hid, hdue, hid', hdue']

/-- So does which of all ends first. -/
lemma earliest_congr {rs rs' : List (Run α)} (h : rs'.map key = rs.map key) :
    (earliest rs').map key = (earliest rs).map key := by
  induction rs generalizing rs' with
  | nil => rw [List.map_eq_nil_iff.1 h]
  | cons r rs ih =>
    cases rs' with
    | nil => cases h
    | cons r' rs' =>
      obtain ⟨hr, hrest⟩ := List.cons.inj h
      have hfirst := ih hrest
      simp only [earliest]
      cases hs : earliest rs with
      | none =>
        rw [hs] at hfirst
        rw [Option.map_eq_none_iff.1 hfirst]
        exact congrArg some hr
      | some x =>
        rw [hs] at hfirst
        obtain ⟨x', hx', hkey⟩ := Option.map_eq_some_iff.1 hfirst
        rw [hx']
        dsimp only
        rw [endsBefore_congr hr hkey]
        split
        · exact congrArg some hr
        · exact congrArg some hkey

end Run

namespace Scene

variable {s : Scene α} {n : Nat} {past : List (Entry α)}

/-- Tasks of the same names run, with the same ends. -/
lemma runs_excuse (s : Scene α) :
    (s.excuse chosen).runs.map Run.key = s.runs.map Run.key := by
  have hbatch : ∀ b : Batch α, (b.excuse chosen).pool.running.map Run.key =
      b.pool.running.map Run.key := fun b => by
    simp [Batch.excuse, Pool.excuse, Run.excuse, Run.key]
  simp only [runs, excuse, List.map_append, List.map_flatMap, List.flatMap_map, hbatch]

/-- The task of the same name is due first. -/
lemma firstDue?_excuse (s : Scene α) :
    (s.excuse chosen).firstDue?.map Run.key = s.firstDue?.map Run.key := by
  have hdue : ∀ rs : List (Run α), (rs.filter (·.isDue s.now)).map Run.key =
      (rs.map Run.key).filter fun x => x.2.any (· ≤ s.now) := fun rs => by
    rw [List.filter_map]
    rfl
  have hnow : (s.excuse chosen).now = s.now := rfl
  rw [firstDue?, firstDue?, hnow]
  refine Run.earliest_congr ?_
  rw [hdue, hdue, runs_excuse]

/-- **The due tasks end in both scenes.** -/
theorem Tracks.finishDue : ∀ {past}, Reached n past s →
    Tracks chosen n past s.finishDue (s.excuse chosen).finishDue := by
  fun_induction Scene.finishDue s with
  | case1 s hnone =>
    intro past h
    have hnone' : (s.excuse chosen).firstDue? = none := by
      have hkey := firstDue?_excuse chosen s
      rw [hnone] at hkey
      exact Option.map_eq_none_iff.1 hkey
    rw [finishDue_eq_self hnone']
    exact .refl h
  | case2 s x hx first =>
    rename_i rest ih
    intro past h
    obtain ⟨x', hx', hkey⟩ : ∃ x', (s.excuse chosen).firstDue? = some x' ∧ x'.key = x.key := by
      have hkey := firstDue?_excuse chosen s
      rw [hx] at hkey
      exact Option.map_eq_some_iff.1 hkey
    have hname : x'.task.id = x.task.id := congrArg Prod.fst hkey
    have hfirst := Tracks.finish chosen h x.task.id
      (h.of_reaches (.phase (.finish ⟨n, s⟩ x.task.id) (events_ofEntries _)))
    have hrest := ih hfirst.reached
    rw [← hfirst.scene] at hrest
    rw [finishDue_of_firstDue? hx', hname]
    exact hfirst.trans hrest

variable {chosen} in
/-- **What is done in both scenes has the same consequences**: they settle, and the due tasks
end. -/
theorem Tracks.act {r r' : Scene α × List (Entry α)}
    (first : Tracks chosen n past ((Scene.phase r).1, [(Scene.phase r).2])
      ((Scene.phase r').1, [(Scene.phase r').2])) :
    Tracks chosen n past (Scene.act r) (Scene.act r') := by
  have hrest := Tracks.finishDue chosen first.reached
  rw [← first.scene] at hrest
  exact first.trans hrest

/-! ## The clock -/

/-- **The clock moves to a later time in both scenes.** -/
lemma Tracks.moveTo (h : Reached n past s) {time : Nat} (later : s.now ≤ time) :
    Tracks chosen n past (s.moveTo time) ((s.excuse chosen).moveTo time) :=
  show Tracks chosen n past (Scene.act ({ s with now := time }, []))
      (Scene.act ({ s.excuse chosen with now := time }, [])) from
    .act (.phase (h.of_reaches (.phase (.clock ⟨n, s⟩ time later) rfl)) rfl .nil)

/-- The same ends lie ahead. -/
lemma endsAhead_excuse (s : Scene α) :
    (s.excuse chosen).endsAhead = s.endsAhead := by
  have hends : ∀ rs : List (Run α), rs.filterMap (·.due) = (rs.map Run.key).filterMap Prod.snd :=
    fun rs => by rw [List.filterMap_map]; rfl
  have hnow : (s.excuse chosen).now = s.now := rfl
  rw [endsAhead, endsAhead, hnow, hends, hends, runs_excuse]

/-- So do the same deadlines. -/
lemma deadlinesAhead_excuse (s : Scene α) :
    (s.excuse chosen).deadlinesAhead = s.deadlinesAhead := by
  rw [deadlinesAhead, deadlinesAhead, excuse, List.filterMap_map]
  rfl

/-- Also if only near ones count. -/
lemma nearStop?_excuse (patience : Nat) (s : Scene α) :
    (s.excuse chosen).nearStop? patience = s.nearStop? patience := by
  have hnear : (s.excuse chosen).nearDeadlines patience = s.nearDeadlines patience := by
    rw [nearDeadlines, nearDeadlines, excuse, List.filterMap_map]
    rfl
  rw [nearStop?, nearStop?, endsAhead_excuse, hnear]

/-- **The clock moves on in both scenes**, from stop to stop. -/
theorem Tracks.advanceTo {target : Nat} : ∀ {past}, Reached n past s → s.now ≤ target →
    Tracks chosen n past (s.advanceTo target) ((s.excuse chosen).advanceTo target) := by
  have hstops : ∀ s : Scene α, (s.excuse chosen).endsAhead ++ (s.excuse chosen).deadlinesAhead =
      s.endsAhead ++ s.deadlinesAhead := fun s => by
    rw [endsAhead_excuse, deadlinesAhead_excuse]
  fun_induction Scene.advanceTo target s with
  | case1 s hnone =>
    intro past h later
    rw [advanceTo_of_le fun stop hmem => by
      rw [hstops, List.min?_eq_none_iff.1 hnone] at hmem
      cases hmem]
    exact .moveTo chosen h later
  | case2 s time hstop hlt first =>
    rename_i rest ih
    intro past h later
    have hfirst := Tracks.moveTo chosen h (Nat.le_of_lt (lt_of_stop hstop))
    have hrest := ih hfirst.reached (by
      rw [now_moveTo]
      exact Nat.le_of_lt hlt)
    rw [← hfirst.scene] at hrest
    rw [advanceTo_of_lt (hstops s ▸ hstop) hlt]
    exact hfirst.trans hrest
  | case3 s time hstop hlt =>
    intro past h later
    rw [advanceTo_of_le fun stop hmem => by
      have := le_of_min? hstop stop (hstops s ▸ hmem)
      omega]
    exact .moveTo chosen h later

/-- **The clock is run to the last stop in both scenes.** -/
theorem Tracks.run : ∀ {past}, Reached n past s →
    Tracks chosen n past s.run (s.excuse chosen).run := by
  fun_induction Scene.run s with
  | case1 s hnone =>
    intro past h
    rw [run_of_none ((nearStop?_excuse chosen _ s).trans hnone)]
    exact .refl h
  | case2 s time hstop first =>
    rename_i rest ih
    intro past h
    have hfirst := Tracks.moveTo chosen h (Nat.le_of_lt (mem_of_nearStop hstop).1)
    have hrest := ih hfirst.reached
    rw [← hfirst.scene] at hrest
    rw [run_of_some ((nearStop?_excuse chosen _ s).trans hstop)]
    exact hfirst.trans hrest

/-! ## Commands -/

/-- What a command does at once has been reached when the scene has settled. -/
lemma Reached.order (h : Reached n past s) (c : Command α) {r : Scene α × List (Entry α)}
    (hr : s.immediate (.order n c) = r) :
    Reached (n + 1) (past ++ allEntries [(phase r).2]) (phase r).1 := by
  subst hr
  exact h.of_reaches (.phase (.order ⟨n, s⟩ c) rfl)

/-- A command may do nothing. -/
lemma Reached.still (h : Reached n past s) {c : Command α} (hc : s.order n c = (s, [])) :
    Reached (n + 1) past s := by
  have step : Stage.Step ⟨n, s⟩ (s.order n c).2 ⟨n + 1, (s.order n c).1⟩ := .order ⟨n, s⟩ c
  rw [hc] at step
  simpa using h.of_reaches (.still step)

/-- What a command does at once that is given to a pool. -/
lemma immediate_of_visit {c : Command α} {i : Nat} {x : Pool.Turn α} {p : Pool α}
    (hc : c.visit? n = some (i, x)) (hp : s.pool? i = some p) :
    s.immediate (.order n c) = s.atPool i fun m p => x.act m p := by
  have key : ∀ (before after : Trail α) (f : Moment → Pool α → Pool α × List (Event α)),
      events (ofTrail (.pool i) before) = [] → events (ofTrail (.pool i) after) = [] →
      ((s.visit i before after f).1, events (s.visit i before after f).2) = s.atPool i f := by
    intro before after f hbefore hafter
    obtain ⟨hvisit, hevents⟩ := Stage.events_visit (f := f) hbefore hafter hp
    rw [hevents, hvisit]
  cases c <;> cases hc <;>
    simp only [immediate, Scene.order, Pool.Turn.act_submit, Pool.Turn.act_shutdown,
      Pool.Turn.act_close, Pool.Turn.act_cancel] <;>
    exact key _ _ _ rfl rfl

/-- A command that is given to a pool that is not there does nothing. -/
lemma order_of_visit {c : Command α} {i : Nat} {x : Pool.Turn α} (hc : c.visit? n = some (i, x))
    (hp : s.pool? i = none) : s.order n c = (s, []) := by
  cases c <;> cases hc <;> simp only [Scene.order, visit, hp]

/-- **A command is given to a pool** in both scenes. -/
lemma Tracks.visit (h : Reached n past s) {c : Command α} {i : Nat} {x : Pool.Turn α}
    (hc : c.visit? n = some (i, x)) :
    Tracks chosen (n + 1) past (s.perform n c).2 ((s.excuse chosen).perform n c).2 := by
  have hpool : (s.excuse chosen).pool? i = s.pool? i := rfl
  rw [perform_of_visit hc, perform_of_visit hc, onPool, onPool, hpool]
  cases hp : s.pool? i with
  | none => exact .refl (h.still (order_of_visit hc hp))
  | some p =>
    have hpools : (s.excuse chosen).pools = s.pools := rfl
    refine .act (.phase (h.order c (immediate_of_visit hc hp)) ?_ ?_) <;>
      simp only [atPool, hpools] <;> split
    · rfl
    · rfl
    · exact .nil
    · exact Excuses.map_pool chosen _ i _

/-- A pool is made in both scenes. -/
lemma Tracks.newPool (h : Reached n past s) (size : Nat) (child : Bool) :
    Tracks chosen (n + 1) past (s.perform n (.newPool size child)).2
      ((s.excuse chosen).perform n (.newPool size child)).2 := by
  have hnow : s.immediate (.order n (.newPool size child)) = (s.newPool size child).2 := by
    simp only [immediate, Scene.order, events_ofEntries]
  refine .act (.phase (h.order _ hnow) ?_ ?_) <;> simp only [excuse] <;> split
  · rfl
  · rfl
  · exact .nil
  · exact Excuses.map_pool chosen _ _ _

/-- A batch whose tasks are excused is begun, or cannot be. -/
lemma newBatch_excuse (gone : Nat → Prop) (call size : Nat) (tasks : List (Task α))
    (admission : Admission) (s : Scene α) :
    ((s.excuse chosen).newBatch call size (tasks.map (Task.excuse chosen)) admission).1 =
        (s.newBatch call size tasks admission).1.excuse chosen ∧
      Excuses chosen gone (s.newBatch call size tasks admission).2
        ((s.excuse chosen).newBatch call size (tasks.map (Task.excuse chosen)) admission).2 := by
  have hlength : (s.excuse chosen).batches.length = s.batches.length := List.length_map ..
  have hstart : Batch.start true (s.excuse chosen).now call size (tasks.map (Task.excuse chosen))
      admission (s.excuse chosen).parentCancelled = _ :=
    Batch.excuse_start chosen true s.now call size tasks admission s.parentCancelled
  simp only [Scene.newBatch, hlength, hstart]
  cases Batch.start true s.now call size tasks admission s.parentCancelled with
  | error e =>
    have hevents : ∀ answer : Answer α, (tasks.map (Task.excuse chosen)).map Event.discarded ++
        [Event.batchAnswered call answer] =
          (tasks.map Event.discarded ++ [Event.batchAnswered call answer]).map
            (Event.excuse chosen) := fun answer => by
      rw [map_discarded_excuse, List.map_append]
      rfl
    have hmoment : (s.excuse chosen).moment = s.moment := rfl
    have hother : ∀ answer : Answer α, ∀ e ∈ tasks.map Event.discarded ++
        [Event.batchAnswered call answer], ¬e.Pardoned chosen := fun _ =>
      List.forall_mem_append.2 ⟨Batch.not_pardoned_discards tasks, by simp [Event.Pardoned]⟩
    have hall := fun answer => Excuses.map_batch chosen gone s.batches.length (hother answer)
    simp only [Except.map, hmoment, Moment.any_breaks_excuse, hevents]
    refine ⟨?_, hall _⟩
    simp only [after, (hall _).any_frail]
    rfl
  | ok begun =>
    cases begun with
    | none => exact ⟨rfl, .same (x := (.batch s.batches.length, _)) id .nil⟩
    | some b =>
      have hopening : b.pool.opening.map (Event.excuse chosen) = b.pool.opening := by
        simp [Pool.opening, Event.excuse]
      have hother : ∀ e ∈ b.pool.opening, ¬e.Pardoned chosen := by
        simp [Pool.opening, Event.Pardoned]
      have hentries := Excuses.map_batch chosen gone s.batches.length hother
      rw [hopening] at hentries
      refine ⟨?_, hentries⟩
      simp [Except.map, excuse]

/-- **A batch is begun in both scenes**, or cannot be. -/
lemma Tracks.newBatch (h : Reached n past s) (size : Nat) (tasks : List (Task α))
    (admission : Admission) :
    Tracks chosen (n + 1) past (s.perform n (.batch size tasks admission)).2
      ((s.excuse chosen).perform n (.batch size (tasks.map (Task.excuse chosen)) admission)).2 := by
  obtain ⟨hscene, hentries⟩ :=
    newBatch_excuse chosen (dropped past) n size tasks admission s
  exact .act (.phase (h.order _ (immediate_batch s n size tasks admission)) hscene hentries)

/-- The same calls are pending. -/
lemma pendingCalls_excuse (s : Scene α) :
    (s.excuse chosen).pendingCalls = s.pendingCalls := by
  simp only [pendingCalls, excuse, List.filter_map, List.map_map]
  rfl

/-- **A pending call is given up in both scenes.** -/
lemma Tracks.abandon (h : Reached n past s) (call : Nat) :
    Tracks chosen (n + 1) past (s.perform n (.abandon call)).2
      ((s.excuse chosen).perform n (.abandon call)).2 := by
  simp only [Scene.perform, pendingCalls_excuse]
  by_cases hc : s.pendingCalls.contains call = true
  · rw [if_pos hc, if_pos hc]
    obtain ⟨hscene, hentries⟩ := everywhere_excuse chosen (dropped past)
      (fun _ => Pool.withdraw call)
      (g := fun _ b => if b.pending && b.call == call then b.abandon else (b, [])) (fun m b => by
        refine ⟨?_, ?_⟩
        · rw [apply_ite (Batch.excused chosen), ← Batch.abandon_excuse]
          rfl
        · split
          · exact Batch.not_pardoned_abandon
          · simp) s
    exact .act (.phase (h.order _ (immediate_abandon n hc)) hscene hentries)
  · rw [if_neg hc, if_neg hc]
    exact .refl (h.still (c := .abandon call) (if_neg hc))

/-- **The parent is cancelled in both scenes.** -/
lemma Tracks.cancelParent (h : Reached n past s) :
    Tracks chosen (n + 1) past (s.perform n .cancelParent).2
      ((s.excuse chosen).perform n .cancelParent).2 := by
  have hnow : s.immediate (.order n .cancelParent) = s.cancelParent := by
    simp only [immediate, Scene.order, events_ofEntries]
  obtain ⟨hscene, hentries⟩ := everywhere_excuse chosen (dropped past)
    (fun _ p => (p.parentCancelled, [])) (g := fun _ b => (b.parentCancelled, []))
    (fun _ _ => ⟨rfl, by simp⟩) { s with parentCancelled := true }
  exact .act (.phase (h.order _ hnow) hscene hentries)

/-- A task of that name runs in both scenes, or in none, with the same end. -/
lemma find_run_excuse (s : Scene α) (name : String) :
    ((s.excuse chosen).runs.find? (·.task.id.text == name)).map Run.key =
      (s.runs.find? (·.task.id.text == name)).map Run.key := by
  have hkey : ∀ rs : List (Run α), (rs.find? (·.task.id.text == name)).map Run.key =
      (rs.map Run.key).find? (·.1.text == name) := fun rs => by
    rw [List.find?_map]
    rfl
  rw [hkey, hkey, runs_excuse]

/-- **A task is released in both scenes.** -/
lemma Tracks.release (h : Reached n past s) (name : String) :
    Tracks chosen (n + 1) past (s.perform n (.release name)).2
      ((s.excuse chosen).perform n (.release name)).2 := by
  have hfind := find_run_excuse chosen s name
  cases hr : s.runs.find? (·.task.id.text == name) with
  | none =>
    rw [hr] at hfind
    simp only [Scene.perform, hr, Option.map_eq_none_iff.1 hfind]
    exact .refl (h.still (c := .release name) (by simp only [Scene.order, hr]))
  | some r =>
    rw [hr] at hfind
    obtain ⟨r', hr', hkey⟩ := Option.map_eq_some_iff.1 hfind
    have hname : r'.task.id = r.task.id := congrArg Prod.fst hkey
    have hnow : s.immediate (.order n (.release name)) = s.finish r.task.id := by
      simp only [immediate, Scene.order, hr, events_ofEntries]
    simp only [Scene.perform, hr, hr', hname]
    exact .act (.finish chosen h r.task.id (h.order _ hnow))

/-- What is asked of a pool is the same. -/
lemma excuse_of_visit {c : Command α} {y : Nat × Pool.Turn α} (h : c.visit? n = some y) :
    c.excuse chosen = c := by
  cases c with
  | batch size tasks admission => cases h
  | _ => rfl

/-- **A command is given in both scenes.** -/
theorem Tracks.perform (h : Reached n past s) (c : Command α) :
    Tracks chosen (n + 1) past (s.perform n c).2
      ((s.excuse chosen).perform n (c.excuse chosen)).2 := by
  cases hvisit : c.visit? n with
  | some y =>
    rw [excuse_of_visit chosen hvisit]
    exact .visit chosen h hvisit
  | none =>
    cases c with
    | newPool size child => exact .newPool chosen h size child
    | batch size tasks admission => exact .newBatch chosen h size tasks admission
    | cancelParent => exact .cancelParent chosen h
    | askParent => exact .refl (h.still (c := .askParent) rfl)
    | describe i =>
      have hnothing : ∀ s : Scene α, (s.perform n (.describe i)).2 = (s, []) := fun s => by
        rw [Scene.perform]
        split <;> rfl
      have hc : (Command.describe i).excuse chosen = .describe i := rfl
      rw [hc, hnothing, hnothing]
      exact .refl (h.still (c := .describe i) rfl)
    | abandon call => exact .abandon chosen h call
    | release name => exact .release chosen h name
    | advance ms =>
      exact .advanceTo chosen (h.still (c := .advance ms) rfl) (Nat.le_add_right _ _)
    | run => exact .run chosen (h.still (c := .run) rfl)
    | _ => cases hvisit

/-- **A list of commands is given in both scenes.** -/
theorem Tracks.reach (h : Reached n past s) (cs : List (Command α)) :
    Tracks chosen (n + cs.length) past (s.reach n cs)
      ((s.excuse chosen).reach n (cs.map (Command.excuse chosen))) := by
  induction cs generalizing n past s with
  | nil => exact .refl h
  | cons c cs ih =>
    have hfirst := Tracks.perform chosen h c
    have hrest := ih hfirst.reached
    rw [← hfirst.scene, Nat.add_assoc, Nat.add_comm 1] at hrest
    exact hfirst.trans hrest

end Scene

end Workforce
