/-!
# Numerals

A numeral is an optional plus sign and one or more digits of ASCII, whose value is below `2 ^ 64`.

## Main definitions

* `Workforce.Text.NumeralError` — what is wrong with a text that is no numeral.
* `Workforce.Text.readNumeral` — the value of a numeral.

## Implementation notes

A text is read from left to right and the first thing found wrong is reported, so that a value that
grows too large hides a wrong digit after it.
-/

namespace Workforce.Text

/-- What is wrong with a text that is no numeral. -/
inductive NumeralError where
  | empty
  | invalidDigit
  | tooLarge
deriving DecidableEq

/-- The sentence that reports the error. -/
def NumeralError.message : NumeralError → String
  | empty => "cannot parse integer from empty string"
  | invalidDigit => "invalid digit found in string"
  | tooLarge => "number too large to fit in target type"

/-- Numerals have values below this number. -/
def numeralLimit : Nat := Nat.pow 2 64

/-- The value of a digit of ASCII. -/
def digit? (c : Char) : Option Nat := if c.isDigit then some (c.toNat - '0'.toNat) else none

/-- Reads digits after those that make up `value`. -/
def readDigits (value : Nat) : List Char → Except NumeralError Nat
  | [] => .ok value
  | c :: cs =>
    match digit? c with
    | none => .error .invalidDigit
    | some d =>
      if value * 10 + d < numeralLimit then readDigits (value * 10 + d) cs else .error .tooLarge

/-- The value of a numeral. -/
def readNumeral (s : String) : Except NumeralError Nat :=
  match s.toList with
  | [] => .error .empty
  | ['+'] => .error .invalidDigit
  | '+' :: cs => readDigits 0 cs
  | cs => readDigits 0 cs

end Workforce.Text
