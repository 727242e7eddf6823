import Workforce.Proofs.Batch.Turn
/-!
# Actions

Whatever happens in a scene from outside happens action by action: a command is given, a running
task ends, or the clock moves on. After each action the scene settles. For a batch that it does not
give up, an action is a turn.

## Main definitions

* `Workforce.Action` — an action on a scene.
* `Workforce.Action.Spare`, `Action.Quiet` — actions that do not give up a call, or do not cancel
  the parent.
* `Workforce.Scene.immediate` — what it does at once.
* `Workforce.Scene.enact`, `Scene.enactAll` — actions, after each of which the scene settles.
* `Workforce.Action.turn` — what an action is for a batch.

## Main results

* `Workforce.Scene.enact_batch` — an action is a turn for every batch that it does not give up.
* `Workforce.Scene.enact_newBatch` — the command that begins a batch.
* `Workforce.Scene.Holds.enactAll` — what turns keep is kept by actions.

## Implementation notes

A command that moves the clock is not an action but many: the clock moves to a stop, tasks end
there, and so on.
-/

namespace Workforce

open Occurrence Trail History

variable {α : Type}

/-! ## Events at one place -/

/-- Nothing happens at a place if everything happens elsewhere. -/
lemma eventsAt_eq_nil {place : Place} {es : List (Entry α)} (h : ∀ x ∈ es, x.1 ≠ place) :
    eventsAt place es = [] := by
  rw [eventsAt, List.filterMap_eq_nil_iff]
  intro x hx
  rw [if_neg (h x hx)]

/-- Everything happens at one place. -/
lemma eventsAt_map (place : Place) (es : List (Event α)) :
    eventsAt place (es.map (place, ·)) = es := by
  rw [eventsAt, List.filterMap_map]
  simp

/-- What the components report is reported at their places. -/
lemma eventsAt_entries {σ : Type} {rs : List (σ × List (Event α))} {i : Nat}
    {r : σ × List (Event α)} (hr : rs[i]? = some r) :
    eventsAt (.batch i) (entries .batch rs) = r.2 := by
  have hoffset : ∀ n, eventsAt (.batch (n + i))
      ((rs.zipIdx n).flatMap fun x => x.1.2.map (Place.batch x.2, ·)) = r.2 := by
    induction rs generalizing i with
    | nil => cases hr
    | cons q rs ih =>
      intro n
      rw [List.zipIdx_cons, List.flatMap_cons, eventsAt_append]
      cases i with
      | zero =>
        cases hr
        have hhead := eventsAt_map (.batch (n + 0)) r.2
        have htail : eventsAt (.batch (n + 0))
            ((rs.zipIdx (n + 1)).flatMap fun x => x.1.2.map (Place.batch x.2, ·)) = [] := by
          refine eventsAt_eq_nil fun x hx => ?_
          obtain ⟨y, hy, hx⟩ := List.mem_flatMap.1 hx
          obtain ⟨e, -, rfl⟩ := List.mem_map.1 hx
          have := List.le_snd_of_mem_zipIdx hy
          simp only [ne_eq, Place.batch.injEq]
          omega
        exact (congrArg₂ _ hhead htail).trans (List.append_nil _)
      | succ i =>
        have hhead : eventsAt (.batch (n + (i + 1))) (q.2.map (Place.batch n, ·)) = [] := by
          refine eventsAt_eq_nil fun x hx => ?_
          obtain ⟨e, -, rfl⟩ := List.mem_map.1 hx
          simp only [ne_eq, Place.batch.injEq]
          omega
        have htail := ih hr (n + 1)
        rw [Nat.add_right_comm, Nat.add_assoc] at htail
        rw [hhead, List.nil_append, htail]
  simpa [entries] using hoffset 0

/-- What pools report is not reported at the place of a batch. -/
lemma eventsAt_entries_pool {σ : Type} (rs : List (σ × List (Event α))) (i : Nat) :
    eventsAt (.batch i) (entries .pool rs) = [] := by
  refine eventsAt_eq_nil fun x hx => ?_
  obtain ⟨y, -, hx⟩ := List.mem_flatMap.1 hx
  obtain ⟨e, -, rfl⟩ := List.mem_map.1 hx
  simp

/-- A sweep changes the component at an index. Discards panic there unless they did not before the
sweep or a frail task has been discarded at a component before it. -/
lemma getElem?_sweep {σ : Type} (f : Bool → σ → σ × List (Event α)) (brittle : Bool) {xs : List σ}
    {i : Nat} {x : σ} (hx : xs[i]? = some x) :
    (sweep f brittle xs)[i]? = some (f (brittle &&
      !((sweep f brittle xs).take i).any fun r => r.2.any Event.isFrailDiscard) x) := by
  induction xs generalizing i brittle with
  | nil => cases hx
  | cons y ys ih =>
    cases i with
    | zero =>
      cases hx
      simp [sweep]
    | succ i =>
      have hrest := ih (brittle && !(f brittle y).2.any Event.isFrailDiscard) hx
      rw [Bool.and_assoc, ← Bool.not_or] at hrest
      exact hrest

/-- The events of a history happen where it says. -/
lemma exists_mem_of_mem_events {h : History α} {x : Entry α} (hx : x ∈ events h) :
    ∃ o, (x.1, o) ∈ h := by
  obtain ⟨⟨place, o⟩, hmem, ho⟩ := List.mem_filterMap.1 hx
  dsimp only at ho
  split at ho
  · cases ho
    exact ⟨_, hmem⟩
  · cases ho

namespace Scene

variable {s : Scene α} {i : Nat} {b : Batch α}

/-- A change everywhere changes the batch at an index. -/
lemma everywhere_batch (f : Moment → Pool α → Pool α × List (Event α))
    (g : Moment → Batch α → Batch α × List (Event α)) (hb : s.batches[i]? = some b) :
    ∃ brittle, (s.everywhere f g).1.batches[i]? = some (g ⟨s.now, brittle⟩ b).1 ∧
      eventsAt (.batch i) (s.everywhere f g).2 = (g ⟨s.now, brittle⟩ b).2 := by
  obtain ⟨brittle, hsweep⟩ : ∃ brittle, (sweep (fun b => g ⟨s.now, b⟩)
      (s.brittle && !(entries .pool (sweep (fun b => f ⟨s.now, b⟩) s.brittle s.pools)).any
        (·.2.isFrailDiscard)) s.batches)[i]? = some (g ⟨s.now, brittle⟩ b) :=
    ⟨_, getElem?_sweep (fun b => g ⟨s.now, b⟩) _ hb⟩
  refine ⟨brittle, ?_, ?_⟩
  · simp only [everywhere, after, List.getElem?_map]
    rw [hsweep]
    rfl
  · simp only [everywhere, after, eventsAt_append, eventsAt_entries_pool, List.nil_append]
    rw [eventsAt_entries hsweep]

/-- An action on a pool changes no batch, and is reported at the pool. -/
lemma visit_frame (j : Nat) (before after : Trail α)
    (f : Moment → Pool α → Pool α × List (Event α)) (s : Scene α) :
    (s.visit j before after f).1.batches = s.batches ∧ (s.visit j before after f).1.now = s.now ∧
      ∀ x ∈ (s.visit j before after f).2, x.1 = .pool j := by
  unfold visit
  split
  · simp
  · have hat : (s.atPool j f).1.batches = s.batches ∧ (s.atPool j f).1.now = s.now ∧
        ∀ x ∈ (s.atPool j f).2, x.1 = .pool j := by
      unfold atPool
      split <;> simp [Scene.after]
    refine ⟨hat.1, hat.2.1, fun x hx => ?_⟩
    rcases List.mem_append.1 hx with hx | hx
    · rcases List.mem_append.1 hx with hx | hx
      · obtain ⟨o, -, rfl⟩ := List.mem_map.1 hx
        rfl
      · obtain ⟨e, he, rfl⟩ := List.mem_map.1 hx
        exact hat.2.2 e he
    · obtain ⟨o, -, rfl⟩ := List.mem_map.1 hx
      rfl

end Scene

/-! ## Actions -/

/-- An action on a scene. -/
inductive Action (α : Type) where
  /-- The command of that number is given. -/
  | order (call : Nat) (c : Command α)
  /-- The running task of that name ends. -/
  | finish (name : TaskId)
  /-- The clock moves on by so many milliseconds. -/
  | pass (ms : Nat)

namespace Action

/-- The call is not given up by the actions. -/
def Spare (call : Nat) (xs : List (Action α)) : Prop := ∀ n, .order n (.abandon call) ∉ xs

/-- The parent is not cancelled by them. -/
def Quiet (xs : List (Action α)) : Prop := ∀ n, .order n .cancelParent ∉ xs

variable {call : Nat} {x : Action α} {xs : List (Action α)}

/-- Nor by the first one. -/
lemma Spare.head (h : Spare call (x :: xs)) (n : Nat) : x ≠ .order n (.abandon call) :=
  fun hx => h n (hx ▸ List.mem_cons_self)

lemma Spare.tail (h : Spare call (x :: xs)) : Spare call xs :=
  fun n hn => h n (List.mem_cons_of_mem _ hn)

lemma Quiet.head (h : Quiet (x :: xs)) (n : Nat) : x ≠ .order n .cancelParent :=
  fun hx => h n (hx ▸ List.mem_cons_self)

lemma Quiet.tail (h : Quiet (x :: xs)) : Quiet xs :=
  fun n hn => h n (List.mem_cons_of_mem _ hn)

end Action

namespace Scene

/-- What an action does at once. -/
def immediate (s : Scene α) : Action α → Scene α × List (Entry α)
  | .order call c => ((s.order call c).1, events (s.order call c).2)
  | .finish name => s.finish name
  | .pass ms => ({ s with now := s.now + ms }, [])

/-- An action, after which the scene settles. -/
def enact (s : Scene α) (x : Action α) : Scene α × Phase α := phase (s.immediate x)

/-- Actions one after the other. -/
def enactAll (s : Scene α) : List (Action α) → Scene α × List (Phase α)
  | [] => (s, [])
  | x :: xs =>
    let first := s.enact x
    let rest := first.1.enactAll xs
    (rest.1, first.2 :: rest.2)

end Scene

/-- What an action is for a batch that it does not give up. -/
def Action.turn (s : Scene α) : Action α → Batch.Turn
  | .order _ .cancelParent => .follow
  | .order _ (.release name) =>
    match s.runs.find? (·.task.id.text == name) with
    | none => .elsewhere
    | some r => .finish r.task.id
  | .order _ _ => .elsewhere
  | .finish name => .finish name
  | .pass ms => .wait (s.now + ms)

/-- Only the cancellation of the parent stops a batch. -/
lemma Action.exists_of_turn_eq_follow {s : Scene α} {x : Action α} (h : x.turn s = .follow) :
    ∃ n, x = .order n .cancelParent := by
  cases x with
  | finish name => cases h
  | pass ms => cases h
  | order n c =>
    cases c with
    | cancelParent => exact ⟨n, rfl⟩
    | release name =>
      simp only [Action.turn] at h
      split at h <;> cases h
    | _ => cases h

/-- The clock does not go back. -/
lemma Action.le_time_turn (s : Scene α) (x : Action α) : s.now ≤ (x.turn s).time s.now := by
  cases x with
  | finish name => exact Nat.le_refl _
  | pass ms => exact Nat.le_add_right _ _
  | order n c =>
    cases c with
    | release name =>
      simp only [Action.turn]
      split <;> exact Nat.le_refl _
    | _ => exact Nat.le_refl _

namespace Scene

variable {s : Scene α} {i : Nat} {b : Batch α}

/-- What the command that begins a batch does at once. -/
lemma immediate_batch (s : Scene α) (call size : Nat) (tasks : List (Task α))
    (admission : Admission) :
    s.immediate (.order call (.batch size tasks admission)) =
      s.newBatch call size tasks admission := by
  have hevents : events ((Place.batch s.batches.length, batched call tasks) ::
      ofEntries (s.newBatch call size tasks admission).2) =
        (s.newBatch call size tasks admission).2 := events_ofEntries _
  simp only [immediate, order, hevents]

/-- What the command does at once that gives up a pending call. -/
lemma immediate_abandon (call : Nat) {c : Nat} (pending : s.pendingCalls.contains c = true) :
    s.immediate (.order call (.abandon c)) = s.abandon c := by
  rw [immediate, Stage.events_abandon call c s pending, order, if_pos pending]

/-- What an action does at once to a batch that it does not give up. -/
def Applies (s : Scene α) (i : Nat) (b : Batch α) (y : Batch.Turn)
    (r : Scene α × List (Entry α)) : Prop :=
  r.1.batches[i]? = some (y.apply b).1 ∧ eventsAt (.batch i) r.2 = (y.apply b).2 ∧
    r.1.now = y.time s.now

/-- A change that leaves the batches alone and is reported elsewhere. -/
lemma Applies.elsewhere {r : Scene α × List (Entry α)} (hb : r.1.batches[i]? = some b)
    (place : ∀ x ∈ r.2, x.1 ≠ .batch i) (now : r.1.now = s.now) : s.Applies i b .elsewhere r :=
  ⟨hb, eventsAt_eq_nil place, now⟩

/-- An action on a pool leaves the batches alone. -/
lemma Applies.visit (hb : s.batches[i]? = some b) (j : Nat) (before after : Trail α)
    (f : Moment → Pool α → Pool α × List (Event α)) :
    s.Applies i b .elsewhere
      ((s.visit j before after f).1, events (s.visit j before after f).2) := by
  obtain ⟨hbatches, hnow, hplace⟩ := visit_frame j before after f s
  refine .elsewhere (by rw [hbatches, hb]) (fun x hx => ?_) hnow
  obtain ⟨o, ho⟩ := exists_mem_of_mem_events hx
  rw [hplace _ ho]
  simp

/-- The end of a task. -/
lemma Applies.finish (hb : s.batches[i]? = some b) (name : TaskId) :
    s.Applies i b (.finish name) (s.finish name) := by
  obtain ⟨-, hbatch, hevents⟩ := everywhere_batch (fun _ => Pool.finish name)
    (fun _ => Batch.finish name) hb
  exact ⟨hbatch, hevents, rfl⟩

/-- Making a pool leaves the batches alone. -/
lemma Applies.newPool (hb : s.batches[i]? = some b) (size : Nat) (child : Bool) :
    s.Applies i b .elsewhere (s.newPool size child).2 := by
  unfold Scene.newPool
  split
  · exact .elsewhere hb (by simp) rfl
  · exact .elsewhere hb (by simp) rfl

/-- Beginning a batch leaves the other batches alone. -/
lemma Applies.newBatch (hb : s.batches[i]? = some b) (call size : Nat) (tasks : List (Task α))
    (admission : Admission) :
    s.Applies i b .elsewhere (s.newBatch call size tasks admission) := by
  have hlt : i < s.batches.length := (List.getElem?_eq_some_iff.1 hb).1
  have hne : Place.batch s.batches.length ≠ .batch i := by
    simp only [ne_eq, Place.batch.injEq]
    omega
  have hplace : ∀ es : List (Event α), ∀ x ∈ es.map (Place.batch s.batches.length, ·),
      x.1 ≠ .batch i := by
    intro es x hx
    obtain ⟨e, -, rfl⟩ := List.mem_map.1 hx
    exact hne
  unfold Scene.newBatch
  dsimp only
  split
  · refine .elsewhere hb (fun x hx => ?_) rfl
    rw [List.mem_singleton.1 hx]
    exact hne
  · exact .elsewhere (by rw [List.getElem?_append_left hlt, hb]) (hplace _) rfl
  · exact .elsewhere hb (hplace _) rfl

/-- What an action does at once to a batch that it does not give up. -/
lemma applies_immediate (hb : s.batches[i]? = some b) (x : Action α)
    (spared : ∀ call, x ≠ .order call (.abandon b.call)) :
    s.Applies i b (x.turn s) (s.immediate x) := by
  cases x with
  | finish name => exact .finish hb name
  | pass ms => exact ⟨hb, rfl, rfl⟩
  | order call c =>
    cases c with
    | newPool size child =>
      have hevents := events_ofEntries (s.newPool size child).2.2
      simp only [immediate, order, hevents]
      exact .newPool hb size child
    | submit j task => exact .visit hb j _ _ _
    | next j => exact .visit hb j _ _ _
    | shutdown j => exact .visit hb j _ _ _
    | close j => exact .visit hb j _ _ _
    | cancel j => exact .visit hb j _ _ _
    | drop j => exact .visit hb j _ _ _
    | batch size tasks admission =>
      rw [immediate_batch]
      exact .newBatch hb call size tasks admission
    | cancelParent =>
      obtain ⟨-, hbatch, hevents⟩ := everywhere_batch (s := { s with parentCancelled := true })
        (fun _ p => (p.parentCancelled, [])) (fun _ b => (b.parentCancelled, [])) hb
      simp only [immediate, order, events_ofEntries]
      exact ⟨hbatch, hevents, rfl⟩
    | askParent => exact .elsewhere hb (by simp [immediate, order, events]) rfl
    | describe j => exact .elsewhere hb (by simp [immediate, order, events]) rfl
    | advance ms => exact .elsewhere hb (by simp [immediate, order, events]) rfl
    | run => exact .elsewhere hb (by simp [immediate, order, events]) rfl
    | abandon c =>
      by_cases hc : s.pendingCalls.contains c = true
      · have hne : c ≠ b.call := fun h => spared call (by rw [h])
        obtain ⟨-, hbatch, hevents⟩ := everywhere_batch (fun _ => Pool.withdraw c)
          (fun _ b => if b.pending && b.call == c then b.abandon else (b, [])) hb
        have hkeep : (b.pending && b.call == c) = false := by simp [Ne.symm hne]
        rw [hkeep] at hbatch hevents
        rw [immediate_abandon call hc]
        exact ⟨hbatch, hevents, rfl⟩
      · simp only [immediate, order, if_neg hc]
        exact .elsewhere hb (by simp [events]) rfl
    | release name =>
      cases hfind : s.runs.find? (·.task.id.text == name) with
      | none =>
        simp only [immediate, order, Action.turn, hfind]
        exact .elsewhere hb (by simp [events]) rfl
      | some r =>
        simp only [immediate, order, Action.turn, hfind, events_ofEntries]
        exact .finish hb r.task.id

/-- **An action is a turn for every batch that it does not give up.** -/
theorem enact_batch (hb : s.batches[i]? = some b) (x : Action α)
    (spared : ∀ call, x ≠ .order call (.abandon b.call)) :
    ∃ brittle, (s.enact x).1.batches[i]? = some (b.turn s.now brittle (x.turn s)).1 ∧
      (s.enact x).2.diaryAt (.batch i) = .note ((x.turn s).time s.now)
        (gist (b.turn s.now brittle (x.turn s)).2) ∧
      (s.enact x).1.now = (x.turn s).time s.now := by
  obtain ⟨hbatch, hevents, hnow⟩ := applies_immediate hb x spared
  obtain ⟨brittle, hsettled, hmoves⟩ := everywhere_batch Pool.settle Batch.settle hbatch
  rw [hnow] at hsettled hmoves
  refine ⟨brittle, hsettled, ?_, hnow⟩
  rw [Phase.diaryAt]
  show Diary.note (s.immediate x).1.now (gist (eventsAt (.batch i) ((s.immediate x).2 ++ _))) = _
  rw [hnow, eventsAt_append, hevents]
  exact congrArg (fun es => Diary.note _ (gist ((Batch.Turn.apply b (x.turn s)).2 ++ es))) hmoves

/-- Nothing has become of tasks when a pool is made. -/
lemma gist_opening (p : Pool α) : gist p.opening = {} := by
  refine gist_quiet fun e he => ?_
  rcases List.mem_cons.1 he with rfl | he
  · rfl
  · rw [List.eq_of_mem_replicate he]
    rfl

/-- A batch without tasks is answered at once. -/
lemma newBatch_nil (s : Scene α) (call size : Nat) (admission : Admission) :
    s.newBatch call size [] admission =
      (s, [(.batch s.batches.length, .batchAnswered call (.batch (.ok [])))]) := by
  simp [newBatch, Batch.start]

/-- A batch that has tasks and room for them is begun. -/
lemma newBatch_of_pos (s : Scene α) (call : Nat) {size : Nat} {tasks : List (Task α)}
    (admission : Admission) (hsize : 0 < size) (hne : tasks ≠ []) :
    s.newBatch call size tasks admission =
      ({ s with batches := s.batches ++ [Batch.initial s.now call _ (Batch.min_pos hsize hne) tasks
          admission s.parentCancelled] },
        (Batch.initial s.now call _ (Batch.min_pos hsize hne) tasks admission
          s.parentCancelled).pool.opening.map (Place.batch s.batches.length, ·)) := by
  rw [newBatch, Batch.start_eq_initial hsize hne]

/-- Without room for them they are discarded. -/
lemma newBatch_zero (s : Scene α) (call : Nat) {tasks : List (Task α)} (admission : Admission)
    (hne : tasks ≠ []) :
    let answer := if tasks.any s.moment.breaks then .panicked
      else .batch (.error (.invalidSize 0))
    let es := (tasks.map Event.discarded ++ [Event.batchAnswered call answer]).map
      (Place.batch s.batches.length, ·)
    s.newBatch call 0 tasks admission = (s.after es, es) := by
  simp [newBatch, Batch.start, Pool.make, Except.map, hne]

/-- A batch that has tasks and room for them is begun by a command and settles. -/
lemma enact_newBatch (s : Scene α) (call : Nat) {size : Nat} {tasks : List (Task α)}
    (admission : Admission) (hsize : 0 < size) (hne : tasks ≠ []) :
    ∃ brittle, (s.enact (.order call (.batch size tasks admission))).1.batches[s.batches.length]? =
        some ((Batch.initial s.now call _ (Batch.min_pos hsize hne) tasks admission
          s.parentCancelled).settle ⟨s.now, brittle⟩).1 ∧
      (s.enact (.order call (.batch size tasks admission))).2.diaryAt (.batch s.batches.length) =
        .note s.now (gist ((Batch.initial s.now call _ (Batch.min_pos hsize hne) tasks admission
          s.parentCancelled).settle ⟨s.now, brittle⟩).2) ∧
      (s.enact (.order call (.batch size tasks admission))).1.now = s.now := by
  generalize hb : Batch.initial s.now call _ (Batch.min_pos hsize hne) tasks admission
    s.parentCancelled = b
  have hnew : s.newBatch call size tasks admission = ({ s with batches := s.batches ++ [b] },
      b.pool.opening.map (Place.batch s.batches.length, ·)) := by
    rw [newBatch_of_pos s call admission hsize hne, hb]
  have hlast : ({ s with batches := s.batches ++ [b] } : Scene α).batches[s.batches.length]? =
      some b := List.getElem?_concat_length
  obtain ⟨brittle, hsettled, hmoves⟩ := everywhere_batch Pool.settle Batch.settle hlast
  rw [enact, immediate_batch, hnew]
  refine ⟨brittle, hsettled, ?_, rfl⟩
  show Diary.note s.now (gist (eventsAt _ (_ ++ _))) = _
  rw [eventsAt_append, eventsAt_map, gist_append, gist_opening, Gist.empty_append]
  exact congrArg (fun es => Diary.note s.now (gist es)) hmoves

/-! ## Actions one after the other -/

/-- Actions in two parts. -/
lemma enactAll_append (s : Scene α) (xs ys : List (Action α)) :
    s.enactAll (xs ++ ys) = (((s.enactAll xs).1.enactAll ys).1,
      (s.enactAll xs).2 ++ ((s.enactAll xs).1.enactAll ys).2) := by
  induction xs generalizing s with
  | nil => rfl
  | cons x xs ih =>
    simp only [List.cons_append, enactAll]
    rw [ih]

/-- Something holds of the batch at an index, which is at rest, and of its diary. -/
def Holds (P : Nat → Batch α → Diary α → Prop) (i : Nat) (s : Scene α) (d : Diary α) : Prop :=
  ∃ b, s.batches[i]? = some b ∧ Batch.Calm s.now b ∧ P s.now b d

/-- It holds of a batch that has just been begun, if it holds at the start and is kept by moves. -/
lemma Holds.of_newBatch {P : Nat → Batch α → Diary α → Prop} {call size : Nat}
    {tasks : List (Task α)} {admission : Admission} (hsize : 0 < size) (hne : tasks ≠ [])
    (initial : P s.now (Batch.initial s.now call _ (Batch.min_pos hsize hne) tasks admission
      s.parentCancelled) {})
    (step : ∀ b d x left dropped c, Batch.Kept s.now b → P s.now b d →
      Batch.Advance s.now b x left dropped c → P s.now c (d ++ .note s.now x)) :
    (s.enact (.order call (.batch size tasks admission))).1.Holds P s.batches.length
      ((s.enact (.order call (.batch size tasks admission))).2.diaryAt
        (.batch s.batches.length)) := by
  obtain ⟨brittle, hb, hdiary, hnow⟩ := enact_newBatch s call admission hsize hne
  obtain ⟨hkept, hP⟩ := Batch.Kept.initial.settle_induction (m := ⟨s.now, brittle⟩) initial step
  refine ⟨_, hb, ?_⟩
  rw [hdiary, hnow]
  exact ⟨.of_kept hkept, hP⟩

/-- **What turns keep is kept by actions** that do not give up the batch. -/
theorem Holds.enactAll {P : Nat → Batch α → Diary α → Prop} (allowed : Batch.Turn → Prop)
    {call : Nat} (caller : ∀ {now b d}, P now b d → b.call = call)
    (turn : ∀ {now b d} brittle {x : Batch.Turn}, allowed x → now ≤ x.time now →
      Batch.Calm now b → P now b d →
        Batch.Calm (x.time now) (b.turn now brittle x).1 ∧ P (x.time now) (b.turn now brittle x).1
          (d ++ .note (x.time now) (gist (b.turn now brittle x).2)))
    {d : Diary α} (h : s.Holds P i d) {xs : List (Action α)}
    (spared : Action.Spare call xs) (allows : ∀ x ∈ xs, ∀ s, allowed (x.turn s)) :
    (s.enactAll xs).1.Holds P i (d ++ diaryAt (.batch i) (s.enactAll xs).2) := by
  induction xs generalizing s d with
  | nil => exact (Diary.append_empty d).symm ▸ h
  | cons x xs ih =>
    obtain ⟨b, hb, hcalm, hP⟩ := h
    have hspared : ∀ n, x ≠ .order n (.abandon b.call) := caller hP ▸ spared.head
    obtain ⟨brittle, hb', hdiary, hnow⟩ := enact_batch hb x hspared
    have hturn := turn brittle (allows x List.mem_cons_self s) (x.le_time_turn s) hcalm hP
    have hfirst : (s.enact x).1.Holds P i (d ++ (s.enact x).2.diaryAt (.batch i)) := by
      refine ⟨_, hb', ?_⟩
      rw [hdiary, hnow]
      exact hturn
    have hrest := ih hfirst spared.tail fun y hy => allows y (List.mem_cons_of_mem _ hy)
    rw [Diary.append_assoc] at hrest
    exact hrest

end Scene

end Workforce
