import Workforce.Text.Shown
/-!
# Quoted text

Text between double quotes, in which a quote and a backslash are escaped, four control characters
have short names, and every other character that is not shown is written by its code point.

## Main definitions

* `Workforce.Text.hexDigits` — a number in lower-case hexadecimal.
* `Workforce.Text.escape` — the written form of a character.
* `Workforce.Text.quote` — the quoted form of a text.
-/

namespace Workforce.Text

/-- The number in lower-case hexadecimal, without leading zeros. -/
def hexDigits (n : Nat) : List Char := Nat.toDigits 16 n

/-- The written form of a character in quoted text. -/
def escape (c : Char) : List Char :=
  if c = '\x00' then ['\\', '0']
  else if c = '\t' then ['\\', 't']
  else if c = '\r' then ['\\', 'r']
  else if c = '\n' then ['\\', 'n']
  else if c = '\\' then ['\\', '\\']
  else if c = '"' then ['\\', '"']
  else if isShown c then [c]
  else ['\\', 'u', '\x7b'] ++ hexDigits c.toNat ++ ['\x7d']

/-- The quoted form of a text. -/
def quote (s : String) : String :=
  String.ofList ('"' :: (s.toList.flatMap escape ++ ['"']))

end Workforce.Text
