/-!
# Descriptions

A description shows a record by its name and its fields, either on one line or with a line for each
field. It may say that there is more to the record than it shows.

## Main definitions

* `Workforce.Text.Detail` — the shown value of a field.
* `Workforce.Text.Description` — a record's name and fields.
* `Workforce.Text.Description.inline` — a description on one line.
* `Workforce.Text.Description.block` — a description over several lines.
-/

namespace Workforce.Text

/-- The shown value of a field: a text, or a text inside a tag. -/
inductive Detail where
  | plain (text : String)
  | tagged (tag text : String)

/-- A value that may be missing. -/
def Detail.ofOption : Option String → Detail
  | none => .plain "None"
  | some text => .tagged "Some" text

/-- A record as it is shown. -/
structure Description where
  name : String
  fields : List (String × Detail)
  /-- There is more to the record. -/
  more : Bool := false

namespace Description

/-- The value on one line. -/
def inlineDetail : Detail → String
  | .plain text => text
  | .tagged tag text => tag ++ "(" ++ text ++ ")"

/-- The value over several lines, as part of a record that is not itself part of another. -/
def blockDetail : Detail → String
  | .plain text => text
  | .tagged tag text => tag ++ "(\n        " ++ text ++ ",\n    )"

/-- The record on one line: the name alone, or the name and the fields between braces. -/
def inline (d : Description) : String :=
  let shown := d.fields.map fun (name, value) => name ++ ": " ++ inlineDetail value
  let parts := shown ++ (if d.more then [".."] else [])
  if parts.isEmpty then d.name
  else d.name ++ " \x7b " ++ ", ".intercalate parts ++ " \x7d"

/-- The record with a line for each field. -/
def block (d : Description) : String :=
  let shown := d.fields.map fun (name, value) =>
    "    " ++ name ++ ": " ++ blockDetail value ++ ",\n"
  if shown.isEmpty then d.name
  else d.name ++ " \x7b\n" ++ String.join shown ++ "\x7d"

end Description

end Workforce.Text
