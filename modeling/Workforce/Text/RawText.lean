/-!
# Raw text

Text that comes from outside as bytes and need not be UTF-8: a sequence of characters in which every
stretch of bytes that cannot be read as a character leaves a gap.

## Main definitions

* `Workforce.RawText` — characters and gaps.
* `Workforce.RawText.ofString`, `Workforce.RawText.ofBytes` — raw text from a text and from bytes.
* `Workforce.RawText.text?` — the text, if there are no gaps.
* `Workforce.RawText.lossy` — the text with a replacement character in each gap.

## Implementation notes

Bytes are read by a machine that knows how many more bytes the current character needs and between
which bounds the next one must lie. A byte out of bounds closes the stretch before it and is then
read afresh, so that a gap stands for the longest start of a character that was cut off, or for one
byte that starts none.
-/

namespace Workforce

/-- Characters and gaps: `none` stands for a stretch of bytes that is no character. -/
abbrev RawText := List (Option Char)

namespace RawText

/-- A character under way: the bits read so far, how many bytes it still needs, and the bounds for
the next. -/
structure Partial where
  bits : Nat
  missing : Nat
  low : Nat
  high : Nat

/-- Reads a byte that must start a character: a whole character, a start, or nothing. -/
def firstByte (b : UInt8) : Option (Char ⊕ Partial) :=
  let n := b.toNat
  if n < 0x80 then some (.inl (Char.ofNat n))
  else if 0xc2 ≤ n ∧ n ≤ 0xdf then some (.inr ⟨n % 0x20, 0, 0x80, 0xbf⟩)
  else if n = 0xe0 then some (.inr ⟨0, 1, 0xa0, 0xbf⟩)
  else if n = 0xed then some (.inr ⟨0xd, 1, 0x80, 0x9f⟩)
  else if 0xe1 ≤ n ∧ n ≤ 0xef then some (.inr ⟨n % 0x10, 1, 0x80, 0xbf⟩)
  else if n = 0xf0 then some (.inr ⟨0, 2, 0x90, 0xbf⟩)
  else if 0xf1 ≤ n ∧ n ≤ 0xf3 then some (.inr ⟨n % 0x8, 2, 0x80, 0xbf⟩)
  else if n = 0xf4 then some (.inr ⟨4, 2, 0x80, 0x8f⟩)
  else none

/-- Reads bytes, with a character under way or not. A character under way that needs `missing` more
bytes after the next one is complete when `missing` is zero. -/
def readBytes : Option Partial → List UInt8 → RawText
  | none, [] => []
  | some _, [] => [none]
  | none, b :: rest =>
    match firstByte b with
    | none => none :: readBytes none rest
    | some (.inl c) => some c :: readBytes none rest
    | some (.inr p) => readBytes (some p) rest
  | some p, b :: rest =>
    if p.low ≤ b.toNat ∧ b.toNat ≤ p.high then
      let bits := p.bits * 0x40 + b.toNat % 0x40
      match p.missing with
      | 0 => some (Char.ofNat bits) :: readBytes none rest
      | k + 1 => readBytes (some ⟨bits, k, 0x80, 0xbf⟩) rest
    else
      none :: match firstByte b with
        | none => none :: readBytes none rest
        | some (.inl c) => some c :: readBytes none rest
        | some (.inr p) => readBytes (some p) rest

/-- Raw text from bytes. -/
def ofBytes (bytes : List UInt8) : RawText := readBytes none bytes

/-- Raw text from a text. -/
def ofString (s : String) : RawText := s.toList.map some

/-- The text, if there are no gaps. -/
def text? (r : RawText) : Option String := (r.mapM id).map String.ofList

/-- The text with a replacement character in each gap. -/
def lossy (r : RawText) : String := String.ofList (r.map (·.getD '\uFFFD'))

end RawText

end Workforce
