import Workforce.Proofs.History
/-!
# Diaries

A diary says at what times the tasks at one place were admitted, started, ended or discarded, and
when calls of batches were answered. It is read off the phases that commands report.

## Main definitions

* `Workforce.Gist` — the tasks and the answers that some events are about.
* `Workforce.Diary` — tasks and answers with their times.
* `Workforce.diaryAt` — the diary of a place in some phases.

## Main results

* `Workforce.gist_append`, `Workforce.diaryAt_append` — parts are put together.
-/

namespace Workforce

open Occurrence Trail

variable {α : Type}

/-! ## Gists -/

/-- The tasks and the answers that some events are about, in order. -/
@[ext]
structure Gist (α : Type) where
  admitted : List (Task α) := []
  started : List (Task α) := []
  ended : List (Task α) := []
  discarded : List (Task α) := []
  /-- The calls of batches that were answered, with the answers. -/
  answered : List (Nat × Answer α) := []

namespace Gist

instance : Append (Gist α) where
  append x y := {
    admitted := x.admitted ++ y.admitted
    started := x.started ++ y.started
    ended := x.ended ++ y.ended
    discarded := x.discarded ++ y.discarded
    answered := x.answered ++ y.answered }

variable (x y : Gist α)

@[simp] lemma admitted_append : (x ++ y).admitted = x.admitted ++ y.admitted := rfl
@[simp] lemma started_append : (x ++ y).started = x.started ++ y.started := rfl
@[simp] lemma ended_append : (x ++ y).ended = x.ended ++ y.ended := rfl
@[simp] lemma discarded_append : (x ++ y).discarded = x.discarded ++ y.discarded := rfl
@[simp] lemma answered_append : (x ++ y).answered = x.answered ++ y.answered := rfl

@[simp] lemma empty_append : ({} : Gist α) ++ x = x := rfl

@[simp] lemma append_empty : x ++ ({} : Gist α) = x := by
  ext1 <;> exact List.append_nil _

end Gist

/-- The call of a batch that is answered, with the answer. -/
def Occurrence.answered? : Occurrence α → Option (Nat × Answer α)
  | event (.batchAnswered call answer) => some (call, answer)
  | _ => none

/-- What some events are about. -/
def gist (es : List (Event α)) : Gist α where
  admitted := Trail.admitted (es.map event)
  started := collect started? (es.map event)
  ended := collect ended? (es.map event)
  discarded := collect discarded? (es.map event)
  answered := collect answered? (es.map event)

@[simp] lemma gist_nil : gist ([] : List (Event α)) = {} := rfl

/-- What two parts are about. -/
lemma gist_append (es fs : List (Event α)) : gist (es ++ fs) = gist es ++ gist fs := by
  simp only [gist, List.map_append, Trail.admitted_append, collect_append]
  rfl

/-- Discards are about the tasks that they discard. -/
lemma gist_discards (ts : List (Task α)) : gist (ts.map Event.discarded) = { discarded := ts } := by
  have hnone : ∀ {β : Type} (kind : Occurrence α → Option β),
      (∀ t, kind (event (.discarded t)) = none) →
      collect kind ((ts.map Event.discarded).map event) = [] := by
    intro β kind h
    rw [List.map_map]
    exact collect_map_none kind _ h ts
  simp only [gist, Trail.admitted, collect_discards, hnone admitted? fun _ => rfl,
    hnone started? fun _ => rfl, hnone ended? fun _ => rfl, hnone answered? fun _ => rfl,
    List.map_nil]

/-- Events each of which is about nothing. -/
lemma gist_quiet {es : List (Event α)} (h : ∀ e ∈ es, gist [e] = {}) : gist es = {} := by
  induction es with
  | nil => rfl
  | cons e es ih =>
    have hsplit : gist (e :: es) = gist [e] ++ gist es := gist_append [e] es
    rw [hsplit, h e List.mem_cons_self, ih fun f hf => h f (List.mem_cons_of_mem _ hf)]
    rfl

/-! ## Diaries -/

/-- What became of the tasks at one place, and when. -/
@[ext]
structure Diary (α : Type) where
  admissions : List (Nat × Task α) := []
  starts : List (Nat × Task α) := []
  ends : List (Nat × Task α) := []
  discards : List (Nat × Task α) := []
  /-- The times at which calls of batches were answered, with the calls and the answers. -/
  answers : List (Nat × Nat × Answer α) := []

namespace Diary

/-- What happens at one time. -/
def note (now : Nat) (x : Gist α) : Diary α where
  admissions := x.admitted.map (now, ·)
  starts := x.started.map (now, ·)
  ends := x.ended.map (now, ·)
  discards := x.discarded.map (now, ·)
  answers := x.answered.map (now, ·)

instance : Append (Diary α) where
  append d e := {
    admissions := d.admissions ++ e.admissions
    starts := d.starts ++ e.starts
    ends := d.ends ++ e.ends
    discards := d.discards ++ e.discards
    answers := d.answers ++ e.answers }

variable (d e f : Diary α)

@[simp] lemma admissions_append : (d ++ e).admissions = d.admissions ++ e.admissions := rfl
@[simp] lemma starts_append : (d ++ e).starts = d.starts ++ e.starts := rfl
@[simp] lemma ends_append : (d ++ e).ends = d.ends ++ e.ends := rfl
@[simp] lemma discards_append : (d ++ e).discards = d.discards ++ e.discards := rfl
@[simp] lemma answers_append : (d ++ e).answers = d.answers ++ e.answers := rfl

@[simp] lemma empty_append : ({} : Diary α) ++ d = d := rfl

@[simp] lemma append_empty : d ++ ({} : Diary α) = d := by
  ext1 <;> exact List.append_nil _

lemma append_assoc : d ++ e ++ f = d ++ (e ++ f) := by
  ext1 <;> exact List.append_assoc _ _ _

@[simp] lemma note_empty (now : Nat) : note now ({} : Gist α) = {} := rfl

lemma note_append (now : Nat) (x y : Gist α) : note now (x ++ y) = note now x ++ note now y := by
  simp only [note, Gist.admitted_append, Gist.started_append, Gist.ended_append,
    Gist.discarded_append, Gist.answered_append, List.map_append]
  rfl

/-- The tasks that were admitted. -/
def admitted : List (Task α) := d.admissions.map Prod.snd

/-- The tasks that were started. -/
def started : List (Task α) := d.starts.map Prod.snd

/-- The tasks that have ended. -/
def ended : List (Task α) := d.ends.map Prod.snd

end Diary

/-! ## Phases -/

/-- The events at one place. -/
def eventsAt (place : Place) (es : List (Entry α)) : List (Event α) :=
  es.filterMap fun x => if x.1 = place then some x.2 else none

@[simp] lemma eventsAt_append (place : Place) (es fs : List (Entry α)) :
    eventsAt place (es ++ fs) = eventsAt place es ++ eventsAt place fs :=
  List.filterMap_append

/-- What became of the tasks at one place in a phase. -/
def Phase.diaryAt (place : Place) (p : Phase α) : Diary α :=
  .note p.time (gist (eventsAt place p.entries))

/-- What became of the tasks at one place in some phases. -/
def diaryAt (place : Place) : List (Phase α) → Diary α
  | [] => {}
  | p :: ps => p.diaryAt place ++ diaryAt place ps

/-- What became of them in two parts. -/
lemma diaryAt_append (place : Place) (ps qs : List (Phase α)) :
    diaryAt place (ps ++ qs) = diaryAt place ps ++ diaryAt place qs := by
  induction ps with
  | nil => rfl
  | cons p ps ih => rw [List.cons_append, diaryAt, diaryAt, ih, Diary.append_assoc]

end Workforce
