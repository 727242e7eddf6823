import Workforce.Proofs.Batch.Serial
import Workforce.Proofs.Job.Tasks
import Workforce.Proofs.Scene.Solo
/-!
# The scenes of a job

A job runs its batch in a scene of its own. What happens until the batch is complete comes by
itself, and if the request to shut down comes before that it comes in a scene that the job passes
through.

## Main definitions

* `Workforce.JobConfig.scenes` — the scenes that an undisturbed job passes through before its batch
  is complete.
* `Workforce.JobConfig.Interrupted` — the request to shut down comes before that.
* `Workforce.JobConfig.stoppedAt` — a job that is told to shut down in some scene.
* `Workforce.JobConfig.carriedOut` — a job that has its tasks.
* `Workforce.Scene.Hosts` — what is known of a scene of a job.

## Main results

* `Workforce.Scene.Hosts.ticks` — it is kept by what comes by itself.
* `Workforce.JobConfig.runBatch_undisturbed`, `JobConfig.runBatch_disturbed` — a job that is told to
  shut down while its batch runs, or is not.
* `Workforce.JobConfig.hosts_begun` — the scene in which the batch has just begun.
* `Workforce.JobConfig.run_of_fits`, `JobConfig.run_of_not_fits` — a job is carried out if its tasks
  fit into a list, and panics if they do not.
* `Workforce.JobConfig.exists_undisturbed`, `JobConfig.exists_disturbed` — jobs that are carried
  out, from their beginning to their return.
-/

namespace Workforce

open Scene Batch

/-! ## Scenes that host one batch -/

namespace Scene

/-- The scene holds one batch and nothing else, which is at rest and whose tasks end by themselves,
and on one worker in their order. -/
structure Hosts (m : Nat) (s : Scene Nat) (b : Batch Nat) (d : Diary Nat) : Prop where
  solo : s.Solo b
  anonymous : b.pool.Anonymous
  calm : Calm s.now b
  serial : b.Serial JobConfig.call m d
  clocked : b.Clocked

namespace Hosts

variable {m : Nat} {s t : Scene Nat} {b c : Batch Nat} {d : Diary Nat} {ps : List (Phase Nat)}
  {deadlines : Scene Nat → List Nat}

/-- The batch is the first one. -/
lemma first (h : s.Hosts m b d) : s.batches[0]? = some b := by
  rw [h.solo.batches]
  rfl

/-- It is kept by actions that do not give up the call, as far as they keep the scene. -/
lemma of_enactAll (h : s.Hosts m b d) {xs : List (Action Nat)}
    (spared : Action.Spare JobConfig.call xs) (solo : (s.enactAll xs).1.Solo c)
    (anonymous : c.pool.Anonymous) :
    (s.enactAll xs).1.Hosts m c (d ++ Workforce.diaryAt (.batch 0) (s.enactAll xs).2) := by
  have hholds : s.Holds (fun _ b d => b.Serial JobConfig.call m d ∧ b.Clocked) 0 d :=
    ⟨b, h.first, h.calm, h.serial, h.clocked⟩
  obtain ⟨b', hb', hcalm, hserial, hclocked⟩ := hholds.enactAll (fun _ => True)
    (fun hP => hP.1.caller)
    (fun brittle y _ _ hcalm hP => by
      obtain ⟨hcalm', hserial⟩ := hP.1.turn hcalm brittle y
      exact ⟨hcalm', hserial, hP.2.turn hcalm brittle y⟩)
    spared (fun _ _ _ => trivial)
  rw [solo.batches] at hb'
  cases hb'
  exact ⟨solo, anonymous, hcalm, hserial, hclocked⟩

/-- The same for one action. -/
lemma of_enact (h : s.Hosts m b d) {x : Action Nat}
    (spared : ∀ n, x ≠ .order n (.abandon JobConfig.call)) (solo : (s.enact x).1.Solo c)
    (anonymous : c.pool.Anonymous) :
    (s.enact x).1.Hosts m c (d ++ (s.enact x).2.diaryAt (.batch 0)) := by
  have hone : Workforce.diaryAt (.batch 0) (s.enactAll [x]).2 = (s.enact x).2.diaryAt (.batch 0) :=
    Diary.append_empty _
  rw [← hone]
  exact h.of_enactAll (fun n hn => spared n (List.mem_singleton.1 hn).symm) solo anonymous

/-- **It is kept by what comes by itself.** -/
theorem ticks (h : s.Hosts m b d) (ticks : Ticks deadlines s ps t) :
    (∃ c, t.Hosts m c (d ++ Workforce.diaryAt (.batch 0) ps)) ∧ ∀ p ∈ ps, p.Inner := by
  obtain ⟨⟨c, hsolo, hanonymous⟩, hinner⟩ := h.solo.ticks h.anonymous ticks
  obtain ⟨xs, hxs, hquiet⟩ := ticks.exists_actions
  have hspared : Action.Spare JobConfig.call xs := fun n hn => hquiet _ hn n _ rfl
  have hhosts := h.of_enactAll hspared (hxs ▸ hsolo) hanonymous
  rw [hxs] at hhosts
  exact ⟨⟨c, hhosts⟩, hinner⟩

/-- **When the scene is as asked for or nothing is left to happen the call has returned**, and no
task runs any more. -/
theorem finished (h : s.Hosts m b d) {patience : Nat}
    (hfinished : s.pendingCalls.isEmpty = true ∨ s.tick? patience = none) :
    b.pool.held = false ∧ b.pool.running = [] := by
  have hpending : b.pending = false := by
    rcases hfinished with hfinished | hnone
    · rw [h.solo.isEmpty_pendingCalls] at hfinished
      simpa using hfinished
    · exact h.solo.pending_of_still h.calm h.clocked hnone
  exact ⟨hpending, (Pool.workers_eq_zero_iff.1 (h.calm.kept.gone hpending)).2.1⟩

/-- On one worker the tasks have ended in the order in which they were started. -/
lemma ended_eq_started (h : s.Hosts m b d) (idle : b.pool.running = []) (one : m = 1) :
    d.ended = d.started := by
  have horder := h.serial.order (h.serial.size.trans one)
  rwa [Pool.underway, idle, List.map_nil, List.append_nil, eq_comm] at horder

end Hosts

end Scene

/-! ## What a job passes through -/

namespace JobConfig

variable {c : JobConfig} {root : TraceContext} {seed : UInt64} {interrupt : Scene Nat → Bool}
  {told : Bool}

/-- No call is pending. -/
def complete (s : Scene Nat) : Bool := s.pendingCalls.isEmpty

/-- The scene in which the batch has just begun, with what happened. The job has been told to shut
down before or not. -/
def begun (root : TraceContext) (told : Bool) (c : JobConfig) : Scene Nat × Phase Nat :=
  Scene.phase (({ parentCancelled := told } : Scene Nat).newBatch call c.numWorkers (c.tasks root)
    c.admission)

/-- The scenes that an undisturbed job passes through before its batch is complete. -/
def scenes (seed : UInt64) (c : JobConfig) : List (Scene Nat) :=
  (c.begun (c.root seed) false).1.passes patience complete

/-- The request to shut down comes before the batch is complete: before the job begins or in a scene
that the job passes through. -/
def Interrupted (seed : UInt64) (interrupt : Scene Nat → Bool) (c : JobConfig) : Prop :=
  interrupt {} = true ∨ ∃ s ∈ c.scenes seed, interrupt s = true

/-- A job that is told to shut down in a scene, after what happened in the batch until then. -/
def stoppedAt (seed : UInt64) (ps : List (Phase Nat)) (s : Scene Nat) (c : JobConfig) : JobRun :=
  let root := c.root seed
  let before := (c.begun root false).2 :: ps
  let cut := c.shutDown s
  let rest := cut.1.runUntil patience complete
  let onward := cut.2 :: rest.2
  ⟨root.id, before, some onward, resultOf root.id (before ++ onward), rest.1.now⟩

/-- The request to shut down is heeded where it comes first. -/
def heeds (interrupt : Scene Nat → Bool) (s : Scene Nat) : Bool := !s.parentCancelled && interrupt s

/-- Beginning a batch does not cancel the parent. -/
lemma parentCancelled_begun (c : JobConfig) (root : TraceContext) (told : Bool) :
    (c.begun root told).1.parentCancelled = told := by
  show (Scene.newBatch _ _ _ _ _).1.settle.1.parentCancelled = _
  unfold Scene.newBatch
  dsimp only
  split <;> rfl

/-- Nothing is heeded after a request that came before the job. -/
lemma heeds_of_told : ∀ s ∈ (c.begun root true).1.passes patience complete,
    heeds interrupt s = false := by
  intro s hs
  rw [heeds, parentCancelled_of_mem_passes hs, parentCancelled_begun]
  rfl

/-- Otherwise the request is heeded where it comes. -/
lemma heeds_of_not_told {s : Scene Nat}
    (hs : s ∈ (c.begun root false).1.passes patience complete) :
    heeds interrupt s = interrupt s := by
  rw [heeds, parentCancelled_of_mem_passes hs, parentCancelled_begun]
  rfl

/-- **A job that is not told to shut down while its batch runs** goes on until the batch is
complete. -/
theorem runBatch_undisturbed
    (h : ∀ s ∈ (c.begun root told).1.passes patience complete, heeds interrupt s = false) :
    c.runBatch root interrupt (c.tasks root) { parentCancelled := told } =
      let begun := c.begun root told
      let rest := begun.1.runUntil patience complete
      ⟨root.id, begun.2 :: rest.2, none, resultOf root.id (begun.2 :: rest.2), rest.1.now⟩ := by
  obtain ⟨hrun, hlast⟩ := runUntil_of_undisturbed h
  have hfirst : (c.begun root told).1.runUntil patience
      (fun s => s.pendingCalls.isEmpty || (!s.parentCancelled && interrupt s)) =
        (c.begun root told).1.runUntil patience complete := hrun
  have hgo : ¬ (!complete ((c.begun root told).1.runUntil patience complete).1 &&
      heeds interrupt ((c.begun root told).1.runUntil patience complete).1) = true := by
    intro hboth
    simp only [Bool.and_eq_true, Bool.not_eq_true'] at hboth
    simp [hlast hboth.1] at hboth
  unfold runBatch
  dsimp only
  rw [show Scene.phase _ = c.begun root told from rfl, hfirst]
  exact if_neg hgo

/-- **A job that is told to shut down while its batch runs** goes on until then. -/
theorem runBatch_disturbed (h : ∃ s ∈ c.scenes seed, heeds interrupt s = true) :
    ∃ ps s, Ticks (nearDeadlines patience) (c.begun (c.root seed) false).1 ps s ∧
      complete s = false ∧
      c.runBatch (c.root seed) interrupt (c.tasks (c.root seed)) { parentCancelled := false } =
        c.stoppedAt seed ps s := by
  obtain ⟨hmem, hstop⟩ := runUntil_of_disturbed h
  have hpending := not_finished_of_mem_passes hmem
  refine ⟨_, _, (ticks_runUntil patience (fun s => complete s || heeds interrupt s) _).1, hpending,
    ?_⟩
  have hcut : (!complete ((c.begun (c.root seed) false).1.runUntil patience
      (fun s => complete s || heeds interrupt s)).1 &&
        heeds interrupt ((c.begun (c.root seed) false).1.runUntil patience
          (fun s => complete s || heeds interrupt s)).1) = true := by
    rw [hpending, hstop]
    rfl
  unfold runBatch
  dsimp only
  rw [show Scene.phase _ = c.begun (c.root seed) false from rfl]
  exact if_pos hcut

/-! ## The beginning -/

/-- The batch is begun by a command. -/
lemma begun_eq_enact (root : TraceContext) (told : Bool) (c : JobConfig) :
    c.begun root told = ({ parentCancelled := told } : Scene Nat).enact
      (.order call (.batch c.numWorkers (c.tasks root) c.admission)) := by
  rw [enact, immediate_batch]
  rfl

/-- A job without items is complete at once. -/
lemma begun_of_empty (hempty : c.tasks root = []) (told : Bool) :
    c.begun root told = ({ parentCancelled := told },
      ⟨0, [(.batch 0, .batchAnswered call (.batch (.ok [])))]⟩) := by
  unfold begun Scene.newBatch
  rw [hempty]
  rfl

/-- **The batch of a job that has items has begun.** -/
theorem hosts_begun (hworkers : 1 ≤ c.numWorkers) (hne : c.tasks root ≠ [])
    (fresh : root.born = 0) (told : Bool) :
    (∃ b, (c.begun root told).1.Hosts (min c.numWorkers (c.tasks root).length) b
        ((c.begun root told).2.diaryAt (.batch 0))) ∧
      (c.begun root told).2.Inner := by
  let s : Scene Nat := { parentCancelled := told }
  let b := Batch.initial 0 call _ (min_pos hworkers hne) (c.tasks root) c.admission told
  have hnew : s.newBatch call c.numWorkers (c.tasks root) c.admission =
      ({ s with batches := [b] }, b.pool.opening.map (Place.batch 0, ·)) :=
    Scene.newBatch_of_pos s 0 c.admission hworkers hne
  have hbegun : c.begun root told = Scene.phase _ := congrArg Scene.phase hnew
  have hb : b.pool.Anonymous := by
    constructor <;> simp [b, Batch.initial, Pool.fresh, Pool.receive]
  have hopening : ∀ e ∈ b.pool.opening, e.Internal := by
    intro e he
    rcases List.mem_cons.1 he with rfl | he
    · rfl
    · rw [List.eq_of_mem_replicate he]
      rfl
  obtain ⟨d, hsolo, hanonymous, hinner⟩ := Solo.phase_inner
    (r := ({ s with batches := [b] }, b.pool.opening.map (Place.batch 0, ·))) ⟨rfl, rfl⟩ rfl hb
    hopening
  obtain ⟨d', hd', hcalm, hserial, hclocked⟩ := Holds.of_newBatch (s := s)
    (P := fun _ b d => b.Serial call (min c.numWorkers (c.tasks root).length) d ∧ b.Clocked)
    hworkers hne
    ⟨.initial _ _ _ _, .initial _ (fun t ht => (c.plain_tasks fresh t ht).1) _ _⟩
    fun _ _ _ _ _ _ hkept hP move => ⟨hP.1.advance hkept move, hP.2.advance move⟩
  rw [← begun_eq_enact] at hd' hcalm hserial
  rw [hbegun] at hd'
  rw [hbegun]
  have hsame := hsolo.batches ▸ hd'
  cases hsame
  exact ⟨⟨d, hsolo, hanonymous, hbegun ▸ hcalm, hbegun ▸ hserial, hclocked⟩, hinner⟩

/-! ## A job from its beginning to its return -/

/-- A job that has its tasks, as many as there are. -/
def carriedOut (seed : UInt64) (interrupt : Scene Nat → Bool) (c : JobConfig) : JobRun :=
  c.carryOut (c.root seed) interrupt (c.tasks (c.root seed))

/-- A job whose tasks fit into a list is carried out. -/
theorem run_of_fits (fits : c.Fits) (seed : UInt64) (interrupt : Scene Nat → Bool) :
    c.run seed interrupt = .ok (c.carriedOut seed interrupt) := by
  rw [run, buildTasks, if_pos fits]
  rfl

/-- Any other job panics, whether and whenever it is told to shut down. -/
theorem run_of_not_fits (crowded : ¬ c.Fits) (seed : UInt64) (interrupt : Scene Nat → Bool) :
    c.run seed interrupt = .error .capacityOverflow := by
  rw [run, buildTasks, if_neg crowded]
  rfl

/-- A job begins its batch unless it has a submit timeout and was told to shut down before. -/
lemma carriedOut_eq_runBatch (h : ¬(interrupt {} = true ∧ c.submitTimeout.isSome = true)) :
    c.carriedOut seed interrupt = c.runBatch (c.root seed) interrupt (c.tasks (c.root seed))
      { parentCancelled := interrupt {} } := by
  unfold carriedOut carryOut
  dsimp only
  rw [if_neg (by simpa using h)]

variable (hworkers : 1 ≤ c.numWorkers) (hne : c.tasks (c.root seed) ≠ [])

include hworkers hne

/-- What the batch of a job has come to when what comes by itself has happened. -/
lemma hosts_ticks {ps : List (Phase Nat)} {t : Scene Nat}
    (hticks : Ticks (nearDeadlines patience) (c.begun (c.root seed) told).1 ps t) :
    (∃ b, t.Hosts (min c.numWorkers c.batchItems) b
      (diaryAt (.batch 0) ((c.begun (c.root seed) told).2 :: ps))) ∧
    ∀ p ∈ (c.begun (c.root seed) told).2 :: ps, p.Inner := by
  obtain ⟨⟨b₀, hhosts⟩, hfirst⟩ := hosts_begun hworkers hne (c.born_root seed) told
  obtain ⟨⟨b, hlast⟩, hinner⟩ := hhosts.ticks hticks
  rw [c.length_tasks (c.born_root seed)] at hlast
  exact ⟨⟨b, hlast⟩, List.forall_mem_cons.2 ⟨hfirst, hinner⟩⟩

/-- **A job that is not told to shut down while its batch runs**, from its beginning to its
return. -/
theorem exists_undisturbed (begins : ¬(interrupt {} = true ∧ c.submitTimeout.isSome = true))
    (htold : interrupt {} = told)
    (quiet : ∀ s ∈ (c.begun (c.root seed) told).1.passes patience complete,
      heeds interrupt s = false) :
    ∃ ps t b, Ticks (nearDeadlines patience) (c.begun (c.root seed) told).1 ps t ∧
      t.Hosts (min c.numWorkers c.batchItems) b
        (diaryAt (.batch 0) ((c.begun (c.root seed) told).2 :: ps)) ∧
      b.pool.held = false ∧ b.pool.running = [] ∧
      (∀ p ∈ (c.begun (c.root seed) told).2 :: ps, p.Inner) ∧
      c.carriedOut seed interrupt = ⟨(c.root seed).id, (c.begun (c.root seed) told).2 :: ps, none,
        resultOf (c.root seed).id ((c.begun (c.root seed) told).2 :: ps), t.now⟩ := by
  obtain ⟨hticks, hfinished⟩ := ticks_runUntil patience complete (c.begun (c.root seed) told).1
  obtain ⟨⟨b, hlast⟩, hinner⟩ := hosts_ticks hworkers hne hticks
  obtain ⟨hheld, hidle⟩ := hlast.finished hfinished
  refine ⟨_, _, b, hticks, hlast, hheld, hidle, hinner, ?_⟩
  rw [carriedOut_eq_runBatch begins, htold]
  exact runBatch_undisturbed quiet

omit hworkers hne in
/-- **A job that is told to shut down while its batch runs**, from its beginning to its return. -/
theorem exists_disturbed (htold : interrupt {} = false)
    (disturbed : ∃ s ∈ c.scenes seed, interrupt s = true) :
    ∃ ps s, Ticks (nearDeadlines patience) (c.begun (c.root seed) false).1 ps s ∧
      complete s = false ∧ c.carriedOut seed interrupt = c.stoppedAt seed ps s := by
  obtain ⟨s, hs, hstop⟩ := disturbed
  rw [carriedOut_eq_runBatch (by simp [htold]), htold]
  exact runBatch_disturbed ⟨s, hs, (heeds_of_not_told hs).trans hstop⟩

end JobConfig

end Workforce
