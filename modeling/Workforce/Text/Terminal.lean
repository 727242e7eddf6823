/-!
# Text without terminal codes

Messages are shown without control characters and without the sequences that a terminal would take
for commands. What remains are visible characters and the blanks of ASCII.

## Main definitions

* `Workforce.Text.Terminal` — what a terminal is in the middle of reading.
* `Workforce.Text.strip` — a text without terminal codes.

## Implementation notes

A blank inside a sequence is shown and breaks the sequence off.
-/

namespace Workforce.Text

/-- What a terminal is in the middle of reading. -/
inductive Terminal where
  /-- Plain text. -/
  | ground
  /-- What follows an escape. -/
  | escape
  /-- An escape with intermediate characters. -/
  | intermediate
  /-- A control sequence, before and among its parameters. -/
  | control
  /-- A control sequence of which only the end matters. -/
  | controlEnd
  /-- A command to the operating system, which a bell ends. -/
  | system
  /-- The head of a device control string. -/
  | device
  /-- A string that only an escape or a cancel ends. -/
  | string
deriving DecidableEq

/-- The blanks of ASCII. -/
def isBlank (c : Char) : Bool :=
  c == ' ' || c == '\t' || c == '\n' || c == '\x0c' || c == '\r'

/-- What follows an escape is told by the next character. -/
def Terminal.afterEscape (c : Char) : Terminal :=
  if ' ' ≤ c ∧ c ≤ '/' then .intermediate
  else if c = '[' then .control
  else if c = ']' then .system
  else if c = 'P' then .device
  else if c = 'X' ∨ c = '^' ∨ c = '_' then .string
  else .ground

/-- Reads one character: what the terminal is then in the middle of, and whether the character is
shown. -/
def Terminal.next (t : Terminal) (c : Char) : Terminal × Bool :=
  if c = '\x1b' then (.escape, false)
  else if c = '\x18' ∨ c = '\x1a' then (.ground, false)
  else if 0x80 ≤ c.toNat then (.ground, t == .ground)
  else
    match t with
    | .ground => (.ground, isBlank c || ('!' ≤ c && c ≤ '~'))
    | .system => (if c = '\x07' then .ground else .system, false)
    | .string => (.string, false)
    | t =>
      if c < ' ' then if isBlank c then (.ground, true) else (t, false)
      else if c = '\x7f' then (t, false)
      else
        match t with
        | .escape => (Terminal.afterEscape c, false)
        | .intermediate => (if c ≤ '/' then .intermediate else .ground, false)
        | .device => (if c < '@' then .device else .string, false)
        | _ => (if c < '@' then t else .ground, false)

/-- The shown characters of a text that is read from the middle of something. -/
def Terminal.shown (t : Terminal) : List Char → List Char
  | [] => []
  | c :: cs =>
    let r := t.next c
    if r.2 then c :: r.1.shown cs else r.1.shown cs

/-- The text without terminal codes. -/
def strip (s : String) : String := String.ofList (Terminal.ground.shown s.toList)

/-- The first line of a text; a line ends at a line feed, and a carriage return just before that
belongs to the ending. -/
def firstLine (s : String) : String :=
  let line := s.toList.takeWhile (· != '\n')
  let ended := line.length < s.toList.length
  String.ofList (if ended && line.getLast? == some '\r' then line.dropLast else line)

end Workforce.Text
