import Workforce.Settings.Basic
import Workforce.Text.RawText
import Workforce.Text.Numeral
import Workforce.Text.Terminal
/-!
# The command line

Each setting can be given once on the command line, as `--flag value` or `--flag=value`. A value
does not begin with a dash in the first form, single dashes apart. `-h`, `--help`, `-V` and
`--version` ask for a text instead; nothing else may be given.

## Main definitions

* `Workforce.UsageError` — what is wrong with a command line.
* `Workforce.Stop` — why reading ends early: a text was asked for, or something is wrong.
* `Workforce.SettingValue` — the value of a setting.
* `Workforce.readCommandLine` — the settings given on a command line.

## Implementation notes

Arguments are read from left to right. A flag stays *open* until the next flag or the end of the
command line settles it: only then is it known whether it has a value, whether it was given before,
and whether its value can be read. An argument that fits nowhere is reported before that.
-/

namespace Workforce

/-- What is wrong with a command line, or with the value of a variable. -/
inductive UsageError where
  /-- The argument fits nowhere. -/
  | unexpected (argument : String)
  /-- A flag has no value. -/
  | missingValue (s : Setting)
  /-- A flag is given twice. -/
  | repeated (s : Setting)
  /-- A value is not UTF-8. -/
  | unreadable
  /-- A value is no numeral. -/
  | badValue (value : String) (s : Setting) (e : Text.NumeralError)
  /-- A flag that takes no value has one. -/
  | surplusValue (value flag : String)
deriving DecidableEq

namespace UsageError

/-- The sentence that reports the error. -/
def message : UsageError → String
  | unexpected argument => "error: unexpected argument '" ++ argument ++ "' found"
  | missingValue s => "error: a value is required for '" ++ s.usage ++ "' but none was supplied"
  | repeated s => "error: the argument '" ++ s.usage ++ "' cannot be used multiple times"
  | unreadable => "error: invalid UTF-8 was detected in one or more arguments"
  | badValue value s e =>
    "error: invalid value '" ++ value ++ "' for '" ++ s.usage ++ "': " ++ e.message
  | surplusValue value flag =>
    "error: unexpected value '" ++ value ++ "' for '" ++ flag ++ "' found; no more were expected"

/-- The first line of the sentence as it is shown. -/
def headline (e : UsageError) : String := Text.firstLine (Text.strip e.message)

end UsageError

/-- Why reading ends early. -/
inductive Stop where
  /-- The help is asked for, in full or in short. -/
  | help (full : Bool)
  /-- The version is asked for. -/
  | version
  | error (e : UsageError)
deriving DecidableEq

/-- The value of a setting: a text for the trace id, a number for the others. -/
inductive SettingValue where
  | number (n : Nat)
  | text (s : String)
deriving DecidableEq

/-- Reads the value of a setting. -/
def Setting.readValue (s : Setting) (raw : RawText) : Except UsageError SettingValue :=
  match raw.text? with
  | none => .error .unreadable
  | some text =>
    match s with
    | .traceId => .ok (.text text)
    | s =>
      match Text.readNumeral text with
      | .ok n => .ok (.number n)
      | .error e => .error (.badValue text s e)

/-- Settings with their values, in the order in which they were given. -/
abbrev Given := List (Setting × SettingValue)

/-- A setting gets its value, unless it has one. -/
def Given.add (s : Setting) (raw : RawText) (given : Given) : Except UsageError Given :=
  if given.any (·.1 == s) then .error (.repeated s)
  else (s.readValue raw).map fun value => given ++ [(s, value)]

/-! ## Reading arguments -/

/-- The flag that has not been settled. -/
inductive OpenFlag where
  | none
  /-- The flag waits for its value. -/
  | waiting (s : Setting)
  /-- The flag has a value that has not been looked at. -/
  | holding (s : Setting) (value : RawText)

/-- What has been read so far. -/
structure Reading where
  given : Given
  openFlag : OpenFlag

/-- Settles the open flag. -/
def Reading.settle (r : Reading) : Except UsageError Given :=
  match r.openFlag with
  | .none => .ok r.given
  | .waiting s => .error (.missingValue s)
  | .holding s value => r.given.add s value

/-- One kind of argument. -/
inductive Argument where
  /-- Two dashes: whatever follows is no flag. -/
  | separator
  /-- Two dashes, a name and, after an equals sign, a value. -/
  | long (name : RawText) (value : Option RawText)
  /-- One dash and some letters. -/
  | short (letters : RawText)
  /-- Anything else. -/
  | plain

/-- Tells the kind of an argument. -/
def Argument.of : RawText → Argument
  | [some '-', some '-'] => .separator
  | some '-' :: some '-' :: rest =>
    let name := rest.takeWhile (· != some '=')
    match rest.dropWhile (· != some '=') with
    | [] => .long name none
    | _ :: value => .long name (some value)
  | [some '-'] => .plain
  | some '-' :: letters => .short letters
  | _ => .plain

/-- A stop that comes only after the open flag has been settled. -/
def Reading.stop (stop : Stop) (r : Reading) : Stop :=
  match r.settle with
  | .ok _ => stop
  | .error e => .error e

/-- Reads a long flag. -/
def Reading.long (name : RawText) (value : Option RawText) (r : Reading) : Except Stop Reading :=
  let find? := Setting.all.find? fun s => RawText.ofString s.flag == name
  match find?, value with
  | some s, none => (r.settle.mapError .error).map (⟨·, .waiting s⟩)
  | some s, some v =>
    ((r.settle.bind (Given.add s v)).mapError .error).map (⟨·, .none⟩)
  | none, value =>
    let asked? :=
      if name = RawText.ofString "help" then some (Stop.help true)
      else if name = RawText.ofString "version" then some Stop.version
      else none
    match asked?, value with
    | some stop, none => .error (r.stop stop)
    | some _, some v => .error (.error (.surplusValue v.lossy ("--" ++ name.lossy)))
    | none, _ => .error (.error (.unexpected ("--" ++ name.lossy)))

/-- Reads letters after a single dash: the first one decides. -/
def Reading.short (letters : RawText) (r : Reading) : Except Stop Reading :=
  match letters with
  | some 'h' :: _ => .error (r.stop (.help false))
  | some 'V' :: _ => .error (r.stop .version)
  | some c :: _ => .error (.error (.unexpected ("-" ++ String.singleton c)))
  | rest => .error (.error (.unexpected ("-" ++ RawText.lossy rest)))

/-- Reads an argument that is no flag: the value of the open flag, if that waits for one. -/
def Reading.plain (argument : RawText) (r : Reading) : Except Stop Reading :=
  match r.openFlag with
  | .waiting s => .ok { r with openFlag := .holding s argument }
  | _ => .error (.error (.unexpected argument.lossy))

/-- Reads arguments one by one. After a separator nothing may follow. -/
def Reading.read (r : Reading) : List RawText → Except Stop Given
  | [] => r.settle.mapError .error
  | a :: rest =>
    match Argument.of a with
    | .separator =>
      match rest with
      | [] => r.settle.mapError .error
      | b :: _ => .error (.error (.unexpected b.lossy))
    | .long name value => (r.long name value).bind (·.read rest)
    | .short letters => (r.short letters).bind (·.read rest)
    | .plain => (r.plain a).bind (·.read rest)

/-- The settings given on a command line. -/
def readCommandLine (arguments : List RawText) : Except Stop Given :=
  Reading.read ⟨[], .none⟩ arguments

end Workforce
