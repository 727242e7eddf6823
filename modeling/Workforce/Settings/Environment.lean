import Workforce.Text.RawText
/-!
# The environment

## Main definitions

* `Workforce.Environment` — variables with their values.
* `Workforce.Environment.get?` — the value of a variable.
-/

namespace Workforce

/-- The variables of the environment, each with its value, which need not be UTF-8. Of several
entries for a variable the first counts. -/
abbrev Environment := List (String × RawText)

/-- The value of a variable, if it is set. An empty value is a value. -/
def Environment.get? (name : String) (env : Environment) : Option RawText := env.lookup name

end Workforce
