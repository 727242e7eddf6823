import Mathlib.Data.Option.Basic
import Mathlib.Tactic.SplitIfs
import Workforce.Text.Quoted
/-!
# Reading numbers and quoted text

A number can be read back from its digits. Whatever a text holds, it can be read back from its
quoted form, so that different texts have different quoted forms. The reader goes through the quoted
form once. A quote ends the text only where no backslash stands before it, and the digits of a code
point need no fixed number since a brace ends them.

## Main definitions

* `Workforce.Text.ofHexDigits` — the number that hexadecimal digits stand for.
* `Workforce.Text.Quotation` — what the reader is in the middle of.
* `Workforce.Text.unquote?` — the text that a quoted form stands for.

## Main results

* `Workforce.Text.toString_injective` — different numbers are written in different ways.
* `Workforce.Text.ofHexDigits_hexDigits` — a number is read back from its hexadecimal digits.
* `Workforce.Text.unquote?_quote` — a text is read back from its quoted form.
* `Workforce.Text.quote_injective` — different texts have different quoted forms.

## Implementation notes

Nothing here depends on which characters are shown. A quote and a backslash are escaped before that
is asked, and the reader takes every other character for itself, shown or not.
-/

namespace Workforce.Text

/-! ## Decimal digits -/

/-- A number is written with its digits. -/
lemma toList_toString (n : Nat) : (toString n).toList = Nat.toDigits 10 n := by
  rw [Nat.toString_eq_repr, Nat.toList_repr]

/-- They tell the number. -/
lemma toDigits_injective {m n : Nat} (h : Nat.toDigits 10 m = Nat.toDigits 10 n) : m = n := by
  rw [← Nat.ofDigitChars_ten_toDigits (n := m), h, Nat.ofDigitChars_ten_toDigits]

/-- **Different numbers are written in different ways.** -/
theorem toString_injective : Function.Injective fun n : Nat => toString n := fun m n h => by
  have hchars := congrArg String.toList h
  dsimp only at hchars
  rw [toList_toString, toList_toString] at hchars
  exact toDigits_injective hchars

/-! ## Hexadecimal digits -/

/-- What a lower-case hexadecimal digit is worth. -/
def hexValue (c : Char) : Nat :=
  if c.isDigit then c.toNat - '0'.toNat else c.toNat - 'a'.toNat + 10

/-- The number that hexadecimal digits stand for after others that stand for `value`. -/
def ofHexDigits (cs : List Char) (value : Nat) : Nat :=
  cs.foldl (fun n c => 16 * n + hexValue c) value

/-- A digit is worth the number it was written for. -/
lemma hexValue_digitChar : ∀ d < 16, hexValue d.digitChar = d := by decide

/-- Hexadecimal digits are written one by one: what holds of a single digit, and still holds when
one more digit is written, holds of the digits of every number. -/
lemma hexDigits_induction {P : Nat → List Char → Prop} (digit : ∀ d < 16, P d [d.digitChar])
    (more : ∀ n, ∀ d < 16, P n (hexDigits n) → P (16 * n + d) (hexDigits n ++ [d.digitChar]))
    (n : Nat) : P n (hexDigits n) := by
  induction n using Nat.strongRecOn with
  | _ n ih =>
    by_cases hlt : n < 16
    · rw [hexDigits, Nat.toDigits_of_lt_base hlt]
      exact digit n hlt
    · have hn := more (n / 16) (n % 16) (by omega) (ih (n / 16) (by omega))
      rw [Nat.div_add_mod] at hn
      rw [hexDigits, Nat.toDigits_of_base_le (by decide) (by omega)]
      exact hn

/-- **A number is read back from its hexadecimal digits.** -/
theorem ofHexDigits_hexDigits (n : Nat) : ofHexDigits (hexDigits n) 0 = n := by
  refine hexDigits_induction (P := fun n cs => ofHexDigits cs 0 = n) (fun d hd => ?_)
    (fun n d hd ih => ?_) n
  · simpa [ofHexDigits] using hexValue_digitChar d hd
  · rw [ofHexDigits, List.foldl_append]
    exact congrArg₂ (16 * · + ·) ih (hexValue_digitChar d hd)

/-- The brace that ends a code point is not among its digits. -/
lemma brace_notMem_hexDigits (n : Nat) : '\x7d' ∉ hexDigits n := by
  have hdigit (d : Nat) : '\x7d' ≠ d.digitChar := (Nat.digitChar_ne _ (by decide)).symm
  refine hexDigits_induction (P := fun _ cs => '\x7d' ∉ cs) (fun d _ => ?_)
    (fun n d _ ih => ?_) n
  · exact mt List.mem_singleton.1 (hdigit d)
  · exact List.not_mem_append ih (mt List.mem_singleton.1 (hdigit d))

/-! ## The reader -/

/-- What a reader of quoted text is in the middle of. -/
inductive Quotation where
  /-- Plain text. -/
  | plain
  /-- What follows a backslash. -/
  | escape
  /-- A code point, before the brace that opens it. -/
  | mark
  /-- A code point whose digits so far stand for this number. -/
  | code (value : Nat)

/-- The character that is written as a backslash and a name. -/
def named? : Char → Option Char
  | '0' => some '\x00'
  | 't' => some '\t'
  | 'r' => some '\r'
  | 'n' => some '\n'
  | '\\' => some '\\'
  | '"' => some '"'
  | _ => none

/-- Reads quoted text up to the quote that ends it, after which nothing may stand. -/
def Quotation.read : Quotation → List Char → Option (List Char)
  | _, [] => none
  | .plain, c :: cs =>
    if c = '"' then if cs = [] then some [] else none
    else if c = '\\' then Quotation.escape.read cs
    else (Quotation.plain.read cs).map (c :: ·)
  | .escape, c :: cs =>
    if c = 'u' then Quotation.mark.read cs
    else (named? c).bind fun d => (Quotation.plain.read cs).map (d :: ·)
  | .mark, c :: cs => if c = '\x7b' then (Quotation.code 0).read cs else none
  | .code value, c :: cs =>
    if c = '\x7d' then (Quotation.plain.read cs).map (Char.ofNat value :: ·)
    else (Quotation.code (16 * value + hexValue c)).read cs

/-- The text that a quoted form stands for. -/
def unquote? (quoted : String) : Option String :=
  match quoted.toList with
  | '"' :: cs => (Quotation.plain.read cs).map String.ofList
  | _ => none

namespace Quotation

/-- A backslash and a name. -/
lemma read_named {c d : Char} (hd : named? c = some d) (hu : c ≠ 'u') (rest : List Char) :
    plain.read ('\\' :: c :: rest) = (plain.read rest).map (d :: ·) := by
  simp [read, hd, hu]

/-- The digits of a code point, after others that stand for `value`, and the brace that ends
them. -/
lemma read_code {cs : List Char} (hcs : '\x7d' ∉ cs) (value : Nat) (rest : List Char) :
    (code value).read (cs ++ '\x7d' :: rest) =
      (plain.read rest).map (Char.ofNat (ofHexDigits cs value) :: ·) := by
  induction cs generalizing value with
  | nil => simp [read, ofHexDigits]
  | cons c cs ih =>
    obtain ⟨hc, hcs⟩ := not_or.1 (mt List.mem_cons.2 hcs)
    rw [List.cons_append, read, if_neg (Ne.symm hc), ih hcs]
    rfl

/-- **A character is read back from its written form**, whatever follows. -/
lemma read_escape (c : Char) (rest : List Char) :
    plain.read (Text.escape c ++ rest) = (plain.read rest).map (c :: ·) := by
  unfold Text.escape
  split_ifs with hnull htab hreturn hfeed hbackslash hquote
  · subst hnull
    exact read_named rfl (by decide) rest
  · subst htab
    exact read_named rfl (by decide) rest
  · subst hreturn
    exact read_named rfl (by decide) rest
  · subst hfeed
    exact read_named rfl (by decide) rest
  · subst hbackslash
    exact read_named rfl (by decide) rest
  · subst hquote
    exact read_named rfl (by decide) rest
  · -- A character that is shown is neither of the two that the reader looks out for.
    simp [read, hbackslash, hquote]
  · have hcode := read_code (brace_notMem_hexDigits c.toNat) 0 rest
    rw [ofHexDigits_hexDigits, Char.ofNat_toNat] at hcode
    simpa [read] using hcode

/-- All characters are read back, up to the quote that ends the text. -/
lemma read_flatMap (cs : List Char) : plain.read (cs.flatMap Text.escape ++ ['"']) = some cs := by
  induction cs with
  | nil => simp [read]
  | cons c cs ih => rw [List.flatMap_cons, List.append_assoc, read_escape, ih, Option.map_some]

end Quotation

/-- **A text is read back from its quoted form.**

**Proof sketch.** The reader is in plain text before and after the written form of each character
(`Workforce.Text.Quotation.read_escape`), so that it meets a quote without a backslash only at the
end. -/
theorem unquote?_quote (s : String) : unquote? (quote s) = some s := by
  simp only [unquote?, quote, String.toList_ofList]
  rw [Quotation.read_flatMap, Option.map_some, String.ofList_toList]

/-- Different texts have different quoted forms. -/
theorem quote_injective : Function.Injective quote := fun s t h =>
  Option.some_injective _ (by rw [← unquote?_quote s, ← unquote?_quote t, h])

end Workforce.Text
