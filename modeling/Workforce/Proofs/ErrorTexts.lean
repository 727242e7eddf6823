import Mathlib.Logic.Function.Basic
import Mathlib.Tactic.Lemma
import Workforce.Error
import Workforce.Proofs.Text.Quoted
/-!
# The texts of errors

An error is shown to a user as a sentence and to a developer as a description. Neither loses
anything: different errors have different sentences and different descriptions, whatever number or
context they tell, also where a context imitates the text of another error.

## Main results

* `Workforce.PoolError.message_injective` — different errors have different sentences.
* `Workforce.PoolError.inspect_injective` — different errors have different descriptions.
* `Workforce.PoolError.texts_faithful` — both texts agree exactly for equal errors, and copies are
  equal.

## Implementation notes

Both forms are told apart in one way. The first letter tells the cause, since each form begins with
fixed words that differ at once. What is told about the cause stands between fixed texts, so that it
remains to compare numbers in base ten, contexts, and quoted contexts.
-/

namespace Workforce

/-! ## Texts between fixed texts -/

namespace Text

/-- What tells values apart still does so between two fixed texts. -/
lemma between_injective {α : Type} {write : α → String} (hwrite : Function.Injective write)
    (front back : String) : Function.Injective fun a => front ++ write a ++ back := fun _ _ h =>
  hwrite ((String.append_right_inj front).1 ((String.append_left_inj back).1 h))

/-- The first letter of a text stays first when more is written after it. -/
lemma head?_append {s : String} {c : Char} (h : s.toList.head? = some c) (t : String) :
    (s ++ t).toList.head? = some c := by
  rw [String.toList_append, List.head?_append, h, Option.some_or]

namespace Description

/-- A description begins with the name of what it describes. -/
lemma head?_inline {d : Description} {c : Char} (h : d.name.toList.head? = some c) :
    d.inline.toList.head? = some c := by
  unfold inline
  extract_lets shown parts
  split
  · exact h
  · exact head?_append (head?_append (head?_append h _) _) _

/-- A description with one field shows its text between fixed texts. -/
lemma inline_field (name field text : String) :
    inline { name, fields := [(field, .plain text)] } =
      name ++ " \x7b " ++ field ++ ": " ++ text ++ " \x7d" := by
  simp [inline, inlineDetail, String.append_assoc]

/-- What tells values apart still does so as the only field of a description. -/
lemma inline_field_injective {α : Type} {write : α → String} (hwrite : Function.Injective write)
    (name field : String) :
    Function.Injective fun a => inline { name, fields := [(field, .plain (write a))] } := by
  simp only [inline_field]
  exact between_injective hwrite _ _

end Description

end Text

namespace PoolError

open Text

/-! ## Forms of an error -/

/-- A form tells errors apart if it tells apart the sizes and the contexts, and if it begins with a
letter of its own for each cause. -/
lemma injective_of_initials {form : PoolError → String} {i n s : Char}
    (sizes : Function.Injective fun size => form (invalidSize size))
    (contexts : Function.Injective fun context => form (submitter context))
    (hi : ∀ size, (form (invalidSize size)).toList.head? = some i)
    (hn : (form noExecutor).toList.head? = some n)
    (hs : ∀ context, (form (submitter context)).toList.head? = some s)
    (distinct : [i, n, s].Nodup) : Function.Injective form := by
  intro a b h
  cases a <;> cases b
  case invalidSize.invalidSize l m => exact congrArg invalidSize (sizes h)
  case noExecutor.noExecutor => rfl
  case submitter.submitter c d => exact congrArg submitter (contexts h)
  -- The causes differ, and with them the first letters.
  all_goals
    have := congrArg (fun text : String => text.toList.head?) h
    simp only [hi, hn, hs, Option.some.injEq] at this
    exact absurd distinct (by simp [this])

/-- **Different errors have different sentences.** -/
theorem message_injective : Function.Injective message := by
  refine injective_of_initials (i := 'I') (n := 'N') (s := 'S') ?_ ?_ (fun size => ?_) ?_
    (fun context => ?_) (by decide)
  · exact between_injective toString_injective _ _
  · exact fun _ _ h => (String.append_right_inj _).1 h
  · exact head?_append (head?_append (by decide) _) _
  · decide
  · exact head?_append (by decide) _

/-- **Different errors have different descriptions.** -/
theorem inspect_injective : Function.Injective inspect := by
  refine injective_of_initials (i := 'I') (n := 'R') (s := 'S') ?_ ?_ (fun size => ?_) ?_
    (fun context => ?_) (by decide)
  · exact Description.inline_field_injective toString_injective _ _
  · exact Description.inline_field_injective quote_injective _ _
  · exact Description.head?_inline (show "InvalidPoolSize".toList.head? = some 'I' by decide)
  · exact Description.head?_inline (by decide)
  · exact Description.head?_inline (show "Submitter".toList.head? = some 'S' by decide)

/-! ## Copies -/

/-- An error made anew is the same error. -/
@[simp] lemma copy_eq (e : PoolError) : e.copy = e := by
  cases e with
  | invalidSize size => rfl
  | noExecutor => rfl
  | submitter context => rw [copy, String.ofList_toList]

/-! ## Faithful texts -/

/-- **The texts of an error are faithful.** Any two errors, with whatever numbers and contexts, are
equal exactly if they are reported to a user by the same sentence, and exactly if they are described
to a developer in the same way. Equality of errors is an equivalence relation, and a copy equals the
error that it was made from.

**Proof sketch.** Both forms begin with a letter that tells the cause
(`Workforce.PoolError.injective_of_initials`). Numbers can be read back from their decimal digits,
and contexts from their quoted forms (`Workforce.Text.unquote?_quote`). -/
theorem texts_faithful :
    (∀ a b : PoolError, (a == b) = true ↔ a.message = b.message) ∧
      (∀ a b : PoolError, (a == b) = true ↔ a.inspect = b.inspect) ∧
      (Equivalence fun a b : PoolError => (a == b) = true) ∧
      ∀ e : PoolError, (e.copy == e) = true := by
  refine ⟨fun a b => ?_, fun a b => ?_, ?_, fun e => ?_⟩
  · rw [beq_iff_eq, message_injective.eq_iff]
  · rw [beq_iff_eq, inspect_injective.eq_iff]
  · simp only [beq_iff_eq]
    exact eq_equivalence
  · rw [copy_eq, beq_self_eq_true]

/-- A context that imitates the end of its own description. -/
example : (submitter "\" \x7d").inspect = "Submitter \x7b context: \"\\\" \x7d\" \x7d" := by decide

end PoolError

end Workforce
