import Workforce.Settings.Environment
import Workforce.Text.Alphanumeric
/-!
# Environment files

An environment file sets variables that the environment does not set, one on each line, as
`NAME=value`. The word `export` may stand before the name and a comment, which `#` begins, after the
value.

In a value a backslash escapes a quote, a backslash, a dollar sign or a blank, and makes a line feed
of an `n`. Text between single quotes stands for itself. Between double quotes blanks are kept, but
escapes and substitutions are carried out: `$NAME`, for a name of letters and digits, and `$` with a
name in braces stand for the value of a variable. Quotes may hold line feeds.

## Main definitions

* `Workforce.EnvFile.logicalLines` — the lines of a file, joined where a quote or an escape runs on.
* `Workforce.EnvFile.readValue` — the value written in some characters.
* `Workforce.EnvFile.readLine` — the name and the value on a line.
* `Workforce.EnvFile.mentioned` — the names that a file may ask for.
* `Workforce.Environment.load` — the environment after the file has been read.

## Implementation notes

Reading stops at the first line that cannot be read; what has been set before stays. A file that
ends in a blank, without a line feed, has a last line that cannot be read.
-/

namespace Workforce.EnvFile

/-! ## Lines -/

/-- Where in a line the reader is. -/
inductive Mode where
  | plain
  /-- Just after a blank: here a comment may begin. -/
  | blank
  | escape
  /-- Between single quotes. -/
  | strong
  | strongEscape
  /-- Between double quotes. -/
  | weak
  | weakEscape
deriving DecidableEq

namespace Mode

/-- What a character outside quotes leads to. -/
def outside (c : Char) : Mode :=
  if c = '\\' then .escape
  else if c = '"' then .weak
  else if c = '\'' then .strong
  else .plain

/-- Where the reader is after a character; nowhere if a comment begins. -/
def next (c : Char) : Mode → Option Mode
  | plain =>
    if Text.isSpace c && c != '\n' && c != '\r' then some .blank else some (outside c)
  | blank => if c = '#' then none else some (outside c)
  | escape => some .plain
  | strong =>
    some (if c = '\\' then .strongEscape else if c = '\'' then .plain else .strong)
  | strongEscape => some .strong
  | weak => some (if c = '\\' then .weakEscape else if c = '"' then .plain else .weak)
  | weakEscape => some .weak

/-- Where the reader is after some characters, the first of which has that place in bytes; or the
place of the character that begins a comment. -/
def scan (place : Nat) (m : Mode) : List Char → Except Nat Mode
  | [] => .ok m
  | c :: cs =>
    match m.next c with
    | none => .error place
    | some m => m.scan (place + c.utf8Size) cs

end Mode

/-- The characters that lie before a place, given in bytes. -/
def takeBytes : Nat → List Char → List Char
  | _, [] => []
  | n, c :: cs => if c.utf8Size ≤ n then c :: takeBytes (n - c.utf8Size) cs else []

/-- The characters without the line ending after them. -/
def dropEnding (cs : List Char) : List Char :=
  match cs.getLast? with
  | some '\n' =>
    let line := cs.dropLast
    if line.getLast? = some '\r' then line.dropLast else line
  | _ => cs

/-- The parts of a text that end in a line feed or with the text. -/
def pieces : RawText → List RawText
  | [] => []
  | c :: rest =>
    if c = some '\n' then [c] :: pieces rest
    else
      match pieces rest with
      | [] => [[c]]
      | p :: ps => (c :: p) :: ps

/-- The lines of a file of which `held` is the beginning of the first; `none` for one that cannot be
read. A comment cuts off what lies behind it. -/
def logicalLines (m : Mode) (held : List Char) : List RawText → List (Option (List Char))
  | [] => if m = .plain then [] else [none]
  | p :: rest =>
    match p.mapM id with
    | none => [none]
    | some cs =>
      let line := held ++ cs
      if (line.dropWhile Text.isSpace).head? = some '#' then
        some [] :: logicalLines .plain [] rest
      else
        match m.scan 0 cs with
        | .error place => some (takeBytes place line) :: logicalLines .plain [] rest
        | .ok .plain => some (dropEnding line) :: logicalLines .plain [] rest
        | .ok m => logicalLines m line rest

/-! ## Values -/

/-- Where in a value the reader is; `weak` tells whether it is between double quotes. -/
inductive Reader where
  | text (weak : Bool)
  | escape (weak : Bool)
  /-- Between single quotes. -/
  | strong
  /-- In the name of a variable, of which this much has been read. -/
  | name (weak braced : Bool) (read : List Char)
  /-- After the value: blanks and a comment may follow. -/
  | ending

/-- The characters that stand for themselves when they are escaped. -/
def escapable : List Char := ['\\', '\'', '"', '$', ' ']

/-- The value written in some characters, of which `out` has been read, or nothing if they cannot be
read; `get` gives the values of variables. -/
def readValue (get : List Char → List Char) (out : List Char) :
    Reader → List Char → Option (List Char)
  | .ending, [] => some out
  | .ending, c :: cs =>
    if c = ' ' ∨ c = '\t' then readValue get out .ending cs
    else if c = '#' then some out
    else none
  | .escape weak, [] => if weak then none else some out
  | .escape weak, c :: cs =>
    if escapable.contains c then readValue get (out ++ [c]) (.text weak) cs
    else if c = 'n' then readValue get (out ++ ['\n']) (.text weak) cs
    else none
  | .strong, [] => none
  | .strong, c :: cs =>
    if c = '\'' then readValue get out (.text false) cs
    else readValue get (out ++ [c]) .strong cs
  | .name weak braced read, [] => if braced || weak then none else some (out ++ get read)
  | .name weak braced read, c :: cs =>
    if Text.isAlphanumeric c then readValue get out (.name weak braced (read ++ [c])) cs
    else if braced then
      if c = '\x7d' then readValue get (out ++ get read) (.text weak) cs
      else readValue get out (.name weak true (read ++ [c])) cs
    else if c = '\x7b' ∧ read = [] then readValue get out (.name weak true []) cs
    else if c = '$' then readValue get (out ++ get read) (.name weak false []) cs
    else readValue get (out ++ get read ++ [c]) (.text weak) cs
  | .text weak, [] => if weak then none else some out
  | .text weak, c :: cs =>
    if c = '$' then readValue get out (.name weak false []) cs
    else if c = '\\' then readValue get out (.escape weak) cs
    else if c = '"' then readValue get out (.text !weak) cs
    else if weak then readValue get (out ++ [c]) (.text true) cs
    else if c = '\'' then readValue get out .strong cs
    else if c = ' ' ∨ c = '\t' then readValue get out .ending cs
    else readValue get (out ++ [c]) (.text false) cs

/-! ## Entries -/

/-- The character may begin a name. -/
def startsName (c : Char) : Bool := c.isAlpha || c == '_'

/-- The character may stand in a name. -/
def inName (c : Char) : Bool := c.isAlphanum || c == '_' || c == '.'

/-- A name, and what follows it and the blanks after it. -/
def readName (cs : List Char) : Option (String × List Char) :=
  if cs.head?.any startsName then
    some (String.ofList (cs.takeWhile inName), (cs.dropWhile inName).dropWhile Text.isSpace)
  else none

/-- What follows an equals sign. -/
def readEquals : List Char → Option (List Char)
  | '=' :: cs => some cs
  | _ => none

/-- What a line sets. -/
inductive Entry where
  | nothing
  | setting (name : String) (value : List Char)

/-- The name of a variable that a line sets, and what follows the equals sign. The word `export` is
a name where an equals sign follows it. -/
def readTarget (cs : List Char) : Option (String × List Char) := do
  let (name, rest) ← readName cs
  match readEquals rest with
  | some rest => some (name, rest)
  | none =>
    if name = "export" then
      let (name, rest) ← readName rest
      let rest ← readEquals rest
      some (name, rest)
    else none

/-- What a line sets, or nothing if it cannot be read. -/
def readLine (get : List Char → List Char) (line : List Char) : Option Entry :=
  let cs := Text.trim line
  if cs.head?.all (· == '#') then some .nothing
  else do
    let (name, rest) ← readTarget cs
    let rest := rest.dropWhile Text.isSpace
    if rest.head?.all (· == '#') then some (.setting name [])
    else (readValue get [] (.text false) rest).map (.setting name)

/-! ## Names -/

/-- The longest stretches of characters of one kind. -/
def words (kind : Char → Bool) (cs : List Char) : List String :=
  ((cs.splitOnP fun c => !kind c).filter (!·.isEmpty)).map String.ofList

/-- The names that a file may ask for: whatever in it looks like one. -/
def mentioned (file : RawText) : List String :=
  let cs := file.filterMap id
  words inName cs ++ words Text.isAlphanumeric cs

end EnvFile

/-! ## Loading -/

namespace Environment

/-- The value of a variable as far as it is text. -/
def text? (name : String) (env : Environment) : Option String := (env.get? name).bind RawText.text?

/-- Reads lines one after the other. A variable that has a text keeps it; in later lines a name
stands for that text, or else for what the file said last. -/
def loadLines (said : List (String × List Char)) (env : Environment) :
    List (Option (List Char)) → Environment
  | [] => env
  | none :: _ => env
  | some line :: rest =>
    let get (name : List Char) : List Char :=
      match env.text? (String.ofList name) with
      | some value => value.toList
      | none => (said.lookup (String.ofList name)).getD []
    match EnvFile.readLine get line with
    | none => env
    | some .nothing => loadLines said env rest
    | some (.setting name value) =>
      let next := if (env.text? name).isSome then env else (name, value.map some) :: env
      loadLines ((name, value) :: said) next rest

/-- The environment after a file has been read. A byte order mark before the first line is
skipped. -/
def load (file : RawText) (env : Environment) : Environment :=
  let file := match file with
    | some '\uFEFF' :: rest => rest
    | file => file
  env.loadLines [] (EnvFile.logicalLines .plain [] (EnvFile.pieces file))

end Environment

end Workforce
