import Workforce.Proofs.Batch.Account
/-!
# Turns of a batch

A batch that nobody gives up takes turns with what is outside it: a task ends, the parent is
cancelled, the clock moves, or something happens elsewhere. After each of these the batch moves
until nothing moves.

## Main definitions

* `Workforce.Batch.initial` — a batch that has just been started.
* `Workforce.Batch.Turn`, `Batch.turn` — what happens from outside, and the batch after it.
* `Workforce.Batch.Calm` — what holds of a batch between two turns.

## Main results

* `Workforce.Batch.start_eq_initial` — a batch that has tasks and room for them is started.
* `Workforce.Batch.Kept.initial`, `Batch.Account.initial` — what holds of it.
* `Workforce.Batch.Calm.turn` — what moves keep is kept by turns.
* `Workforce.Batch.Account.apply` — the accounts are carried on by what happens from outside.
-/

namespace Workforce

/-- A deadline is not before the start. -/
lemma Admission.le_of_deadline? {admission : Admission} {now time : Nat}
    (h : admission.deadline? now = some time) : now ≤ time := by
  unfold Admission.deadline? at h
  dsimp only at h
  split at h
  · split at h
    · cases h
      omega
    · cases h
  · cases h

namespace Batch

open Schedule

variable {α : Type} {b : Batch α} {now call size n : Nat} {tasks : List (Task α)}
  {admission : Admission} {parentCancelled : Bool}

/-! ## The start -/

/-- A batch that has just been started on `n` workers. -/
def initial (now call n : Nat) (hn : 0 < n) (tasks : List (Task α)) (admission : Admission)
    (parentCancelled : Bool) : Batch α where
  call := call
  pool := (Pool.fresh n hn admission.followsParent
    (admission.followsParent && parentCancelled)).receive ⟨none, true⟩
  total := tasks.length
  remaining := tasks
  submitter := .active
  admitted := 0
  values := []
  since := now
  deadline := admission.deadline? now

/-- There are workers for a batch that has tasks. -/
lemma min_pos (hsize : 0 < size) (hne : tasks ≠ []) : 0 < min size tasks.length :=
  Nat.lt_min.2 ⟨hsize, List.length_pos_iff.2 hne⟩

/-- A batch that has tasks is started. -/
lemma start_eq_initial (hsize : 0 < size) (hne : tasks ≠ []) :
    start true now call size tasks admission parentCancelled =
      .ok (some (initial now call _ (min_pos hsize hne) tasks admission parentCancelled)) := by
  have hpos : min size tasks.length ≠ 0 := Nat.ne_of_gt (min_pos hsize hne)
  simp only [start, List.isEmpty_eq_false_iff.2 hne, Pool.make, dif_neg hpos]
  rfl

/-- What holds of every batch that nobody gives up holds at its start. -/
lemma Kept.initial {hn : 0 < n} :
    Kept now (initial now call n hn tasks admission parentCancelled) := by
  refine ⟨sound_start rfl rfl, fun hc => (Bool.and_eq_true_iff.1 hc).1, .inl rfl, ?_, ?_⟩
  · intro hheld
    cases hheld
  · exact fun _ _ => .inl ⟨rfl, rfl, rfl, rfl⟩

/-- The accounts at the start. -/
lemma Account.initial {hn : 0 < n} {stop : Nat}
    (cancelled : admission.followsParent = true → parentCancelled = true → now = stop)
    (due : ∀ time, admission.deadline? now = some time → time ≤ now → now = stop) :
    Account call now stop tasks now (initial now call n hn tasks admission parentCancelled)
      {} [] [] where
  caller := rfl
  since := Nat.le_refl _
  past := by simp
  given := List.append_nil _
  admitted := rfl
  started := .refl _
  active _ := ⟨rfl, rfl⟩
  drops := .inl rfl
  discards := rfl
  stopped _ := by
    rintro (hc | ⟨time, hd, hle⟩)
    · exact cancelled (Bool.and_eq_true_iff.1 hc).1 (Bool.and_eq_true_iff.1 hc).2
    · exact due time hd hle
  why h := absurd rfl h
  values := rfl
  told h := by cases h
  lively _ := .inr rfl
  pending _ := rfl
  answered h := by cases h
  frail h := by cases h

/-! ## Turns -/

/-- What may happen from outside to a batch that nobody gives up. -/
inductive Turn where
  /-- Something happens elsewhere. -/
  | elsewhere
  /-- The running task of that name ends. -/
  | finish (name : TaskId)
  /-- The parent is cancelled. -/
  | follow
  /-- The clock moves to that time. -/
  | wait (time : Nat)

namespace Turn

/-- The time after it. -/
def time (now : Nat) : Turn → Nat
  | wait time => time
  | _ => now

/-- What it does to the batch at once. -/
def apply (b : Batch α) : Turn → Batch α × List (Event α)
  | elsewhere => (b, [])
  | finish name => b.finish name
  | follow => (b.parentCancelled, [])
  | wait _ => (b, [])

/-- It does not change the limits of the batch, unless the parent is cancelled. -/
lemma limits (b : Batch α) {x : Turn} (h : x ≠ follow) :
    (x.apply b).1.deadline = b.deadline ∧ (x.apply b).1.pool.child = b.pool.child ∧
      (x.apply b).1.pool.cancelled = b.pool.cancelled := by
  cases x with
  | elsewhere => exact ⟨rfl, rfl, rfl⟩
  | wait time => exact ⟨rfl, rfl, rfl⟩
  | follow => exact absurd rfl h
  | finish name =>
    obtain ⟨-, -, -, hcancelled, hchild⟩ := Pool.finish_frame name b.pool
    exact ⟨rfl, hchild, hcancelled⟩

/-- It neither admits nor starts a task. -/
lemma gist_apply (b : Batch α) (x : Turn) :
    (gist (x.apply b).2).admitted = [] ∧ (gist (x.apply b).2).started = [] := by
  cases x with
  | elsewhere => exact ⟨rfl, rfl⟩
  | wait time => exact ⟨rfl, rfl⟩
  | follow => exact ⟨rfl, rfl⟩
  | finish name =>
    have hfinish : (b.finish name).2 = (b.pool.finish name).2 := rfl
    rw [Turn.apply, hfinish]
    rcases Pool.finish_cases name b.pool with ⟨heq, -⟩ | ⟨_, r, _, -, -, hgist, -⟩
    · rw [heq]
      exact ⟨rfl, rfl⟩
    · rw [hgist]
      exact ⟨rfl, rfl⟩

end Turn

/-- The batch after a turn, when nothing moves any more. -/
def turn (now : Nat) (brittle : Bool) (x : Turn) (b : Batch α) : Batch α × List (Event α) :=
  (((x.apply b).1.settle ⟨x.time now, brittle⟩).1,
    (x.apply b).2 ++ ((x.apply b).1.settle ⟨x.time now, brittle⟩).2)

/-- What holds at a time of a batch that nobody gives up when nothing can move in it. -/
structure Calm (now : Nat) (b : Batch α) : Prop where
  kept : Kept now b
  rest : b.step? ⟨now, true⟩ = none

namespace Calm

/-- It holds of a batch that has settled. -/
lemma of_kept {m : Moment} (hb : Kept m.now (b.settle m).1) : Calm m.now (b.settle m).1 := by
  have now : m.now = (⟨m.now, true⟩ : Moment).now := rfl
  exact ⟨hb, (step?_eq_none_congr now).1 (step?_settle m b)⟩

/-- What happens from outside keeps what holds of every batch that nobody gives up. -/
lemma apply (hb : Calm now b) (x : Turn) : Kept (x.time now) (x.apply b).1 := by
  cases x with
  | elsewhere => exact hb.kept
  | finish name => exact hb.kept.finish (m := ⟨now, true⟩) hb.rest name
  | follow => exact hb.kept.follow (m := ⟨now, true⟩) hb.rest
  | wait time => exact hb.kept.wait (m := ⟨now, true⟩) hb.rest time

/-- **What moves keep is kept by turns**, together with what has happened. -/
theorem turn {P : Batch α → Diary α → Prop} {d : Diary α} (hb : Calm now b) (brittle : Bool)
    (x : Turn) (hx : P (x.apply b).1 (d ++ .note (x.time now) (gist (x.apply b).2)))
    (hstep : ∀ b d y left dropped c, Kept (x.time now) b → P b d →
      Advance (x.time now) b y left dropped c → P c (d ++ .note (x.time now) y)) :
    Calm (x.time now) (b.turn now brittle x).1 ∧
      P (b.turn now brittle x).1 (d ++ .note (x.time now) (gist (b.turn now brittle x).2)) := by
  obtain ⟨hkept, hP⟩ := (hb.apply x).settle_induction (m := ⟨x.time now, brittle⟩) hx hstep
  refine ⟨of_kept hkept, ?_⟩
  rw [Batch.turn, gist_append, Diary.note_append, ← Diary.append_assoc]
  exact hP

end Calm

/-- **The accounts are carried on by what happens from outside.** The batch may be stopped only at
the given time. -/
theorem Account.apply {call t₀ stop : Nat} {left dropped : List (Task α)} {d : Diary α}
    (acc : Account call t₀ stop tasks now b d left dropped) (hb : Calm now b) (x : Turn)
    (later : now ≤ x.time now)
    (follow : x = .follow → b.pool.child = true → b.pool.cancelled = false → now = stop)
    (deadline : b.pool.held = true → ∀ D, b.deadline = some D → now < D → D ≤ x.time now →
      x.time now = stop) :
    Account call t₀ stop tasks (x.time now) (x.apply b).1
      (d ++ .note (x.time now) (gist (x.apply b).2)) left dropped := by
  have hquiet : ∀ time : Nat, d ++ .note time (gist ([] : List (Event α))) = d := by simp
  cases x with
  | elsewhere =>
    rw [Turn.apply, hquiet]
    exact acc
  | finish name => exact acc.finish (m := ⟨now, true⟩) hb.kept name
  | follow =>
    rw [Turn.apply, hquiet]
    exact acc.follow (m := ⟨now, true⟩) hb.kept hb.rest (follow rfl)
  | wait time =>
    rw [Turn.apply, hquiet]
    exact acc.wait (m := ⟨now, true⟩) hb.kept hb.rest later deadline

end Batch

end Workforce
