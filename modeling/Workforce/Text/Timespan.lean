/-!
# Written spans of time

A span of whole milliseconds is written in milliseconds below one second, and from there on in
seconds with as many decimals as it needs. The empty span is written in nanoseconds.

## Main definitions

* `Workforce.Text.timespan` — the written span.
-/

namespace Workforce.Text

/-- The thousandths that follow the point, without trailing zeros; nothing if there are none. -/
def thousandths (n : Nat) : String :=
  if n % 1000 = 0 then ""
  else
    let digits := [n / 100 % 10, n / 10 % 10, n % 10]
    let kept := (digits.reverse.dropWhile (· == 0)).reverse
    "." ++ String.join (kept.map toString)

/-- The written form of a span of so many milliseconds. -/
def timespan (ms : Nat) : String :=
  if ms = 0 then "0ns"
  else if ms < 1000 then toString ms ++ "ms"
  else toString (ms / 1000) ++ thousandths (ms % 1000) ++ "s"

end Workforce.Text
