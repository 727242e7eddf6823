import Mathlib.Data.Nat.Digits.Lemmas
import Mathlib.Tactic.Lemma
import Workforce.Text.Numeral
import Workforce.Text.RawText
/-!
# What numerals stand for

The reader of numerals goes through a text once and stops at the first thing that is wrong. Here it
is compared with what a numeral is: an optional plus sign, then one or more digits, which stand for
a number in base ten that fits into 64 bits.

## Main definitions

* `Workforce.Text.digitsValue` — the number that digits stand for.
* `Workforce.Text.Numeral` — the text is a numeral of this value.
* `Workforce.RawText.Denotes` — the raw text can be read and is a numeral of this value.

## Main results

* `Workforce.Text.readNumeral_ok_iff` — the reader finds the value of every numeral, and of nothing
  else.
-/

namespace Workforce

namespace Text

/-- The number that digits stand for, the most significant one first. -/
def digitsValue (cs : List Char) : Nat :=
  Nat.ofDigits 10 (cs.reverse.map fun c => c.toNat - '0'.toNat)

/-- The text is an optional plus sign and one or more digits that stand for a number of 64 bits. -/
def Numeral (text : String) (n : Nat) : Prop :=
  ∃ sign digits : List Char, text.toList = sign ++ digits ∧ (sign = [] ∨ sign = ['+']) ∧
    digits ≠ [] ∧ (∀ c ∈ digits, '0' ≤ c ∧ c ≤ '9') ∧ n = digitsValue digits ∧ n ≤ 2 ^ 64 - 1

variable {c : Char} {cs : List Char} {value n : Nat}

/-- A digit before others counts as many powers of ten as there are others. -/
lemma digitsValue_cons :
    digitsValue (c :: cs) = (c.toNat - '0'.toNat) * 10 ^ cs.length + digitsValue cs := by
  simp only [digitsValue, List.reverse_cons, List.map_append, List.map_cons, List.map_nil,
    Nat.ofDigits_append, Nat.ofDigits_singleton, List.length_map, List.length_reverse]
  ring

/-- Digits are the characters from zero to nine. -/
lemma isDigit_iff : c.isDigit = true ↔ '0' ≤ c ∧ c ≤ '9' := by
  simp [Char.isDigit, Char.le_def]

/-- **What the reader of digits finds.** After digits that make up `value` it reads what is left if
this consists of digits and the whole number fits. -/
lemma readDigits_ok_iff (hvalue : value < numeralLimit) :
    readDigits value cs = .ok n ↔ (∀ c ∈ cs, '0' ≤ c ∧ c ≤ '9') ∧
      n = value * 10 ^ cs.length + digitsValue cs ∧ n < numeralLimit := by
  induction cs generalizing value with
  | nil =>
    simp only [readDigits, Except.ok.injEq, List.not_mem_nil, IsEmpty.forall_iff, implies_true,
      List.length_nil, pow_zero, mul_one, true_and]
    constructor
    · rintro rfl
      exact ⟨by simp [digitsValue], hvalue⟩
    · rintro ⟨rfl, -⟩
      rfl
  | cons c cs ih =>
    rw [List.forall_mem_cons, digitsValue_cons, List.length_cons]
    by_cases hc : '0' ≤ c ∧ c ≤ '9'
    · have hdigit : digit? c = some (c.toNat - '0'.toNat) := if_pos (isDigit_iff.2 hc)
      generalize c.toNat - '0'.toNat = d at hdigit ⊢
      have hsum : value * 10 ^ (cs.length + 1) + (d * 10 ^ cs.length + digitsValue cs) =
          (value * 10 + d) * 10 ^ cs.length + digitsValue cs := by ring
      rw [readDigits, hdigit, hsum]
      dsimp only
      by_cases hfits : value * 10 + d < numeralLimit
      · rw [if_pos hfits, ih hfits]
        simp [hc]
      · -- A part that does not fit makes the whole number too large.
        have hpart : value * 10 + d ≤ (value * 10 + d) * 10 ^ cs.length :=
          Nat.le_mul_of_pos_right _ (by positivity)
        rw [if_neg hfits]
        refine iff_of_false (by simp) ?_
        rintro ⟨-, rfl, hlimit⟩
        omega
    · have hdigit : digit? c = none := if_neg (mt isDigit_iff.1 hc)
      rw [readDigits, hdigit]
      exact iff_of_false (by simp) fun h => hc h.1.1

/-- **What a numeral is.** The reader finds the value of every numeral, and of nothing else. -/
theorem readNumeral_ok_iff {text : String} : readNumeral text = .ok n ↔ Numeral text n := by
  have hlimit : n < numeralLimit ↔ n ≤ 2 ^ 64 - 1 := by
    have : numeralLimit = 2 ^ 64 := rfl
    omega
  have hread (cs : List Char) : readDigits 0 cs = .ok n ↔
      (∀ c ∈ cs, '0' ≤ c ∧ c ≤ '9') ∧ n = digitsValue cs ∧ n ≤ 2 ^ 64 - 1 := by
    rw [readDigits_ok_iff (by decide), Nat.zero_mul, Nat.zero_add, hlimit]
  -- A plus sign is no digit, so that a text can be taken apart in one way only.
  have hplus : ¬('0' ≤ '+' ∧ '+' ≤ '9') := by decide
  unfold readNumeral Numeral
  split
  · rename_i heq
    refine iff_of_false (by simp) ?_
    rintro ⟨sign, digits, h, -, hne, -⟩
    simp_all
  · rename_i heq
    refine iff_of_false (by simp) ?_
    rintro ⟨sign, digits, h, rfl | rfl, hne, hdigits, -⟩
    · exact hplus (hdigits '+' (by simp_all))
    · simp_all
  · rename_i cs hne heq
    rw [hread]
    constructor
    · rintro ⟨hdigits, hn, hle⟩
      refine ⟨['+'], cs, heq, .inr rfl, ?_, hdigits, hn, hle⟩
      rintro rfl
      exact hne rfl
    · rintro ⟨sign, digits, h, rfl | rfl, -, hdigits, hn, hle⟩
      · exact absurd (hdigits '+' (by simp_all)) hplus
      · have : cs = digits := by simp_all
        exact this ▸ ⟨hdigits, hn, hle⟩
  · rename_i hempty _ hsign
    rw [hread]
    constructor
    · rintro ⟨hdigits, hn, hle⟩
      exact ⟨[], text.toList, rfl, .inl rfl, hempty, hdigits, hn, hle⟩
    · rintro ⟨sign, digits, h, rfl | rfl, -, hdigits, hn, hle⟩
      · exact (show text.toList = digits from h) ▸ ⟨hdigits, hn, hle⟩
      · exact absurd h (hsign _)

end Text

namespace RawText

/-- The raw text can be read and is a numeral of this value. -/
def Denotes (raw : RawText) (n : Nat) : Prop := ∃ text, raw.text? = some text ∧ Text.Numeral text n

variable {raw : RawText} {m n : Nat}

/-- A raw text stands for one number. -/
lemma Denotes.unique (hm : raw.Denotes m) (hn : raw.Denotes n) : m = n := by
  obtain ⟨t, ht, hm⟩ := hm
  obtain ⟨u, hu, hn⟩ := hn
  obtain rfl : t = u := Option.some_injective _ (ht.symm.trans hu)
  exact Except.ok.inj ((Text.readNumeral_ok_iff.2 hm).symm.trans (Text.readNumeral_ok_iff.2 hn))

end RawText

end Workforce
