import Workforce.Log.Record
import Workforce.Text.Alphanumeric
import Workforce.Text.Numeral
/-!
# Log filters

A filter says which notes and spans come into the log. It is a list of *directives* with commas
between them. A directive names a level, or a target with a level, as in `debug` or `target=debug`;
a target without a level means everything from that target. In brackets it may name a span, or a
field of a span, and then applies inside such spans.

## Main definitions

* `Workforce.Directive` — what a filter says about some notes.
* `Workforce.Directive.read` — reads a directive.
* `Workforce.LogFilter.read` — reads a filter.
* `Workforce.LogFilter.spans` — spans come into the log.
* `Workforce.LogFilter.record?` — a record as the filter lets it through.

## Implementation notes

Of the directives without a span that match, only the one with the longest target counts. A
directive with a span adds to that what it says about the inside of the span.

A directive is read without the blanks around it, but its parts are cut out of the text with the
blanks, at the places where they were found.
-/

namespace Workforce

/-! ## Directives -/

/-- The level up to which notes are let through; `none` lets nothing through. -/
abbrev Threshold := Option Level

/-- The threshold lets a level through. -/
def Level.within (threshold : Threshold) (level : Level) : Bool :=
  threshold.any fun t => level.verbosity ≤ t.verbosity

/-- The words for thresholds. -/
def Threshold.words : List (String × Threshold) := [
  ("off", none), ("error", some .error), ("warn", some .warn), ("info", some .info),
  ("debug", some .debug), ("trace", some .trace)]

/-- The threshold that a word, in small or capital letters, or a number stands for. -/
def Threshold.read (word : List Char) : Option Threshold :=
  match Text.readNumeral (String.ofList word) with
  | .ok n => Threshold.words[n]?.map Prod.snd
  | .error _ => Threshold.words.lookup (String.ofList (word.map Char.toLower))

/-- What a filter says about some notes. -/
structure Directive where
  /-- The beginning of the targets that are meant. -/
  target : Option (List Char) := none
  /-- The name of the span that is meant. -/
  span : Option (List Char) := none
  /-- A field that must be there, and its value if that matters. -/
  field : Option (List Char × Option (List Char)) := none
  threshold : Threshold := some .trace
deriving DecidableEq

namespace Directive

/-- The part of a text between two places. -/
def cut (text : List Char) (first last : Nat) : List Char := (text.drop first).take (last - first)

/-- The character may begin a target. -/
def startsTarget (c : Char) : Bool := Text.isAlphanumeric c || ['-', ':', '_'].contains c

/-- How far it is from a place to the next of some characters. -/
def distance (stops : List Char) (cs : List Char) (place : Nat) : Nat :=
  ((cs.drop place).takeWhile fun c => !stops.contains c).length

/-- Reads the level at the end of a directive; no level means all. -/
def readThreshold (d : Directive) (word : List Char) : Option Directive :=
  if word = [] then some { d with threshold := some .trace }
  else (Threshold.read word).map fun t => { d with threshold := t }

/-- Reads what follows the brackets. -/
def readAfterSpan (d : Directive) (text cs : List Char) (place : Nat) : Option Directive :=
  match cs.drop place with
  | [] => some d
  | '=' :: _ => d.readThreshold (text.drop (place + 1))
  | _ => none

/-- A field, which may have a value after an equals sign. -/
def splitField (cs : List Char) : List Char × Option (List Char) :=
  let name := cs.takeWhile (· != '=')
  match cs.dropWhile (· != '=') with
  | [] => (name, none)
  | _ :: value => (name, some (value.takeWhile (· != '=')))

/-- Reads the inside of brackets, which begins at a place. -/
def readSpan (d : Directive) (text cs : List Char) (place : Nat) : Option Directive :=
  let stop := place + distance [']', '\x7b'] cs place
  let name := cut text place stop
  match cs.drop stop with
  | ']' :: _ => { d with span := some name }.readAfterSpan text cs (stop + 1)
  | '\x7b' :: _ =>
    let last := stop + 1 + distance ['\x7d'] cs (stop + 1)
    let field := cut text (stop + 1) last
    match cs.drop last with
    | '\x7d' :: ']' :: _ =>
      if field = [] then none
      else
        { d with
          span := if name = [] then none else some name
          field := some (splitField field) }.readAfterSpan text cs (last + 2)
    | _ => none
  | _ => none

/-- Reads a directive. -/
def read (text : List Char) : Option Directive :=
  let cs := Text.trim text
  match cs with
  | [] => none
  | c :: _ =>
    if c = '[' then ({} : Directive).readSpan text cs 1
    else if startsTarget c then
      let stop := distance ['=', '['] cs 0
      let target := cut text 0 stop
      match cs.drop stop with
      | [] =>
        match Threshold.read text with
        | some t => some { threshold := t }
        | none => some { target := some text }
      | '=' :: _ => { target := some target : Directive }.readThreshold (text.drop (stop + 1))
      | _ => { target := some target : Directive }.readSpan text cs (stop + 1)
    else none

/-- The directive speaks of the inside of spans. -/
def isDynamic (d : Directive) : Bool := d.span.isSome || d.field.isSome

/-- The directive speaks of notes wherever they are written. -/
def isStatic (d : Directive) : Bool := d.span.isNone && d.field.all (·.2.isNone)

/-- The directive speaks of an origin. -/
def meansOrigin (d : Directive) (o : Origin) : Bool :=
  d.target.all (·.isPrefixOf o.target.toList)

/-- How particular a static directive is: directives with longer targets come first, then those with
a field, by its name. -/
def rank (d : Directive) : Nat × Nat × String :=
  match d.field with
  | none => ((d.target.map (·.length + 1)).getD 0, 0, "")
  | some f => ((d.target.map (·.length + 1)).getD 0, 1, String.ofList f.1)

/-- The rank is not higher. -/
def rankLe (a b : Nat × Nat × String) : Bool :=
  a.1 < b.1 || (a.1 == b.1 && (a.2.1 < b.2.1 || (a.2.1 == b.2.1 && a.2.2 ≤ b.2.2)))

/-- The most particular of some directives; the last one, if there are several. -/
def mostParticular (ds : List Directive) : Option Directive :=
  ds.foldl (fun best d =>
    match best with
    | some b => if rankLe b.rank d.rank then some d else some b
    | none => some d) none

end Directive

/-! ## Filters -/

/-- A filter is a list of directives. -/
abbrev LogFilter := List Directive

namespace LogFilter

/-- The parts of a text between commas, the empty ones left out. -/
def parts (cs : List Char) : List (List Char) :=
  (cs.splitOnP (· == ',')).filter (!·.isEmpty)

/-- Reads a filter. It cannot be read if one of its directives cannot. -/
def read (text : String) : Option LogFilter := (parts text.toList).mapM Directive.read

/-- The name of the variable that holds the filter. -/
def variableName : String := "RUST_LOG"

/-- The filter when none is given: notes from `INFO` up. -/
def standard : LogFilter := [{ threshold := some .info }]

/-- The static directives let something from an origin through: a note with some fields, or, if no
fields are given, a span. -/
def passes (f : LogFilter) (origin : Origin) (level : Level) (fields : Option (List String)) :
    Bool :=
  let meant (d : Directive) : Bool :=
    d.isStatic && d.meansOrigin origin &&
      d.field.all fun g => fields.all (·.contains (String.ofList g.1))
  (Directive.mostParticular (f.filter meant)).any fun d => level.within d.threshold

/-- The dynamic directives that speak of the spans of tasks. -/
def onSpans (f : LogFilter) : List Directive :=
  f.filter fun d =>
    d.isDynamic && d.meansOrigin .span && d.span.all (· == "task".toList) &&
      d.field.all (·.1 == "trace_id".toList)

/-- The spans of tasks come into the log. A dynamic directive wants them even if it lets nothing
through inside. -/
def spans (f : LogFilter) : Bool :=
  f.passes .span .info none ||
    (!f.onSpans.isEmpty && f.any fun d => Level.info.within d.threshold)

/-- Something is let through inside a span with that trace id, wherever it comes from. -/
def passesInside (f : LogFilter) (level : Level) (id : String) : Bool :=
  f.spans && f.onSpans.any fun d =>
    level.within d.threshold && d.field.all fun g => g.2.all (· == id.toList)

/-- A record as the filter lets it through: not at all, or with its span if spans come into the
log. -/
def record? (f : LogFilter) (r : Record) : Option Record :=
  let fields := "message" :: (if r.trace.isSome then ["trace_id"] else [])
  if f.passes r.note.origin r.note.level (some fields) ||
      r.span.any (f.passesInside r.note.level) then
    some { r with span := if f.spans then r.span else none }
  else none

end LogFilter

end Workforce
