import Workforce.Settings.Basic
import Workforce.Settings.Environment
import Workforce.Text.Terminal
/-!
# Help

The help lists the settings with what they are about, the values that their variables have in the
environment, and the values that they have when they are not given.

## Main definitions

* `Workforce.Help.short` — the help with one sentence for each setting.
* `Workforce.Help.full` — the help with all there is to say.
* `Workforce.Help.version` — the name and the version of the program.
-/

namespace Workforce

namespace Help

/-- The blanks before a line of text below a flag. -/
def margin : List Char := List.replicate 10 ' '

/-- The text below the flag of an entry: its lines are indented, the empty ones too. -/
def indented (text : String) : String :=
  String.ofList (margin ++ text.toList.flatMap fun c => if c = '\n' then '\n' :: margin else [c])

/-- What the environment says about a setting, and what holds if nothing is said. -/
def sources (env : Environment) (s : Setting) : List String :=
  let value := ((env.get? s.variableName).map RawText.lossy).getD ""
  ("[env: " ++ s.variableName ++ "=" ++ value ++ "]") ::
    (s.fallback?.map fun n => "[default: " ++ toString n ++ "]").toList

/-- The short entry of a setting. -/
def shortEntry (env : Environment) (s : Setting) : String :=
  "      " ++ s.usage ++ "\n" ++ indented (" ".intercalate (s.summary :: sources env s)) ++ "\n"

/-- The full entry of a setting: paragraphs with empty lines between them. -/
def fullEntry (env : Environment) (s : Setting) : String :=
  let paragraphs := [s.summary ++ "."] ++ s.details ++
    ["Environment variable: `" ++ s.variableName ++ "`", "\n".intercalate (sources env s)]
  "      " ++ s.usage ++ "\n" ++ indented ("\n\n".intercalate paragraphs) ++ "\n"

/-- What stands between the introduction and the first entry. -/
def heading : String := "\n\nUsage: taskfan-runner [OPTIONS]\n\nOptions:\n"

/-- The help with one sentence for each setting. -/
def short (env : Environment) : String :=
  Text.strip <|
    "Runs a batch job through a bounded worker pool" ++ heading ++
    String.join (Setting.all.map (shortEntry env)) ++
    "  -h, --help\n" ++ indented "Print help (see more with '--help')" ++ "\n" ++
    "  -V, --version\n" ++ indented "Print version" ++ "\n"

/-- The help with all there is to say. -/
def full (env : Environment) : String :=
  Text.strip <|
    "Runtime configuration for the `taskfan-runner` binary.\n\n" ++
    "These settings control how the demo job fans its items out over the worker pool. All " ++
    "values are parsed from CLI arguments or environment variables (a `.env` file is loaded " ++
    "first, if present)." ++ heading ++
    String.join (Setting.all.map fun s => fullEntry env s ++ "\n") ++
    "  -h, --help\n" ++ indented "Print help (see a summary with '-h')" ++ "\n\n" ++
    "  -V, --version\n" ++ indented "Print version" ++ "\n"

/-- The name and the version of the program. -/
def version : String := "taskfan-runner 0.1.0\n"

end Help

end Workforce
