import Workforce.Log.Note
import Workforce.Proofs.Headcount
/-!
# What is noted

The notes on workers, tasks and pools that carry no numbers are told apart by their texts: a text is
that of one kind of event, so that to count the text is to count the events. Notes that carry
numbers are known by how they begin.

## Main definitions

* `Workforce.Trail.texts` — the texts of what was noted, in order.
* `Workforce.Occurrence.begun?`, `Occurrence.stopped?`, `Occurrence.failed?` — a worker begins, a
  worker stops, a task has panicked.
* `Workforce.Trail.endings` — the texts on the ends of batches.

## Main results

* `Workforce.Trail.count_texts` — to count a text is to count the events of its kind.
* `Workforce.Trail.endings_eq` — how the ends of batches are noted.

## Implementation notes

As in reports, workers go unnamed: they are noted as worker `#`.
-/

namespace Workforce

open Occurrence Trail

variable {α : Type}

/-! ## Texts -/

/-- The text of what is noted, if anything is. -/
def Occurrence.text? : Occurrence α → Option String
  | event e => (e.note? "#").map Note.text
  | _ => none

/-- The texts of what was noted, in order. -/
def Trail.texts (os : Trail α) : List String := os.collect Occurrence.text?

/-- How the notes begin that carry numbers. -/
def Note.openings : List String :=
  ["Started worker pool with ", "Admission deadline reached after ", "Admission cancelled after ",
    "Batch finished: "]

/-- The text does not begin like one that carries a number. -/
def Note.Plain (text : String) : Prop :=
  ∀ opening ∈ openings, ¬ opening.toList <+: text.toList

instance (text : String) : Decidable (Note.Plain text) :=
  inferInstanceAs (Decidable (∀ opening ∈ Note.openings, ¬ opening.toList <+: text.toList))

/-- How the note of the event begins, if it carries numbers. -/
def Event.opening? : Event α → Option String
  | poolStarted _ => some "Started worker pool with "
  | deadlineReached _ => some "Admission deadline reached after "
  | admissionCancelled _ => some "Admission cancelled after "
  | batchFinished _ _ _ => some "Batch finished: "
  | _ => none

/-- Notes that carry numbers begin as they should. -/
lemma Event.text?_of_opening? {e : Event α} {a : String} (h : e.opening? = some a) :
    a ∈ Note.openings ∧ ∃ rest, (Occurrence.event e).text? = some (a ++ rest) := by
  cases e <;> cases h
  all_goals
    refine ⟨by decide, ?_⟩
    simp only [Occurrence.text?, note?, Option.map_some, String.append_assoc]
    exact ⟨_, rfl⟩

/-- A text begins with its first part. -/
lemma toList_prefix_append (a b : String) : a.toList <+: (a ++ b).toList := by
  rw [String.toList_append]
  exact List.prefix_append _ _

/-- A plain text belongs to a note without numbers. -/
lemma Event.opening?_of_plain {e : Event α} {text : String} (plain : Note.Plain text)
    (h : (Occurrence.event e).text? = some text) : e.opening? = none := by
  cases ha : e.opening? with
  | none => rfl
  | some a =>
    obtain ⟨hmem, rest, htext⟩ := text?_of_opening? ha
    obtain rfl := Option.some.inj (htext.symm.trans h)
    exact absurd (toList_prefix_append a rest) (plain a hmem)

/-! ## Kinds of events -/

namespace Occurrence

/-- A worker begins. -/
@[simp] def begun? : Occurrence α → Option Unit
  | event .workerStarted => some ()
  | _ => none

/-- A worker stops, and does not panic. -/
@[simp] def stopped? : Occurrence α → Option Unit
  | event .workerStopped => some ()
  | _ => none

/-- It is noticed that a task has panicked. -/
@[simp] def failed? : Occurrence α → Option Unit
  | event .taskFailed => some ()
  | _ => none

/-- A batch is complete: how many tasks were admitted, how many there were, and how many values have
been collected. -/
@[simp] def final? : Occurrence α → Option (Nat × Nat × Nat)
  | event (.batchFinished admitted total collected) => some (admitted, total, collected)
  | _ => none

end Occurrence

/-! ## Texts that are counted -/

/-- The notes that are counted. -/
inductive Mark where
  | workerStarted
  | workerStopped
  | workerAborted
  | resultsClosed
  | taskFailed
  | poolClosed

namespace Mark

/-- The text of the note. -/
def text : Mark → String
  | workerStarted => "Worker # started"
  | workerStopped => "Worker # stopped"
  | workerAborted => "Worker terminated abnormally"
  | resultsClosed => "All workers exited, results closed"
  | taskFailed => "Worker # task failed"
  | poolClosed => "Worker pool closed to new submissions"

/-- The event that is noted. -/
def kind : Mark → Occurrence α → Option Unit
  | workerStarted => begun?
  | workerStopped => stopped?
  | workerAborted => aborted?
  | resultsClosed => finale?
  | taskFailed => failed?
  | poolClosed => close?

/-- No such text begins like one that carries a number. -/
lemma plain (m : Mark) : Note.Plain m.text := by
  cases m <;> decide

/-- The text is that of one kind of event. -/
lemma text?_eq_iff (m : Mark) (o : Occurrence α) : o.text? = some m.text ↔ m.kind o = some () := by
  cases o with
  | event e =>
    cases he : e.opening? with
    | none =>
      cases e <;> cases he
      all_goals cases m <;> simp [text?, Event.note?, text, kind]
    | some a =>
      refine iff_of_false (fun h => ?_) ?_
      · cases he.symm.trans (Event.opening?_of_plain m.plain h)
      · cases e <;> cases he
        all_goals cases m <;> simp [kind]
  | _ => cases m <;> simp [text?, kind]

end Mark

namespace Trail

/-- **To count a text is to count the events of its kind.** -/
theorem count_texts (m : Mark) (os : Trail α) :
    (texts os).count m.text = (os.collect m.kind).length := by
  induction os with
  | nil => rfl
  | cons o os ih =>
    rw [texts] at ih ⊢
    rw [collect_cons, collect_cons, List.count_append, List.length_append, ih]
    congr 1
    have hiff := m.text?_eq_iff o
    cases hkind : m.kind o with
    | none =>
      have hne : m.text ∉ o.text?.toList := fun hmem => by
        simpa [hkind] using hiff.1 (Option.mem_toList.1 hmem)
      rw [List.count_eq_zero_of_not_mem hne]
      rfl
    | some u =>
      rw [hiff.2 hkind]
      simp

/-- Every exit of a worker is noted in one of two ways. -/
lemma length_exits (os : Trail α) :
    (os.collect exit?).length = (os.collect stopped?).length + (os.collect aborted?).length := by
  induction os with
  | nil => rfl
  | cons o os ih =>
    simp only [collect_cons, List.length_append, ih]
    cases o with
    | event e => cases e <;> simp [exit?, stopped?, aborted?] <;> omega
    | _ => simp [exit?, stopped?, aborted?]

/-! ## The ends of batches -/

/-- How the note on the end of a batch reads. -/
def ending (admitted total collected : Nat) : String :=
  "Batch finished: " ++ toString admitted ++ "/" ++ toString total ++ " tasks admitted, " ++
    toString collected ++ " values collected"

/-- The text is on the end of a batch. -/
def isEnding (text : String) : Bool := "Batch finished: ".toList.isPrefixOf text.toList

/-- The texts on the ends of batches. -/
def endings (os : Trail α) : List String := os.texts.filter isEnding

/-- A text that begins differently is not on the end of a batch. -/
lemma isEnding_append {a : String} (h : ¬ a.toList <+: "Batch finished: ".toList)
    (k : ¬ "Batch finished: ".toList <+: a.toList) (rest : String) :
    isEnding (a ++ rest) = false := by
  rw [isEnding, Bool.eq_false_iff, ne_eq, List.isPrefixOf_iff_prefix]
  intro hprefix
  exact (List.prefix_or_prefix_of_prefix hprefix (toList_prefix_append a rest)).elim k h

/-- What is noted of one occurrence is on the end of a batch if the occurrence is such an end. -/
lemma filter_text? (o : Occurrence α) : o.text?.toList.filter isEnding =
    (final? o).toList.map fun x => ending x.1 x.2.1 x.2.2 := by
  cases o with
  | event e =>
    cases he : e.opening? with
    | none =>
      cases e <;> cases he
      all_goals simp [text?, Event.note?, isEnding]
    | some a =>
      obtain ⟨-, rest, htext⟩ := Event.text?_of_opening? he
      cases e with
      | batchFinished admitted total collected =>
        obtain rfl := Option.some.inj he
        have hprefix := List.isPrefixOf_iff_prefix.2 (toList_prefix_append "Batch finished: " rest)
        rw [← Option.some.inj htext] at hprefix
        exact List.filter_cons_of_pos hprefix
      | poolStarted | deadlineReached | admissionCancelled =>
        obtain rfl := Option.some.inj he
        rw [htext]
        simp only [Option.toList_some, final?, Option.toList_none, List.map_nil,
          List.filter_eq_nil_iff, List.mem_singleton, forall_eq, Bool.not_eq_true]
        exact isEnding_append (by decide) (by decide) rest
      | _ => cases he
  | _ => rfl

/-- **How the ends of batches are noted.** -/
theorem endings_eq (os : Trail α) :
    endings os = (os.collect final?).map fun x => ending x.1 x.2.1 x.2.2 := by
  induction os with
  | nil => rfl
  | cons o os ih =>
    rw [endings, texts] at ih ⊢
    rw [collect_cons, collect_cons, List.filter_append, List.map_append, ih, filter_text?]

end Trail

end Workforce
