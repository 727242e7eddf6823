import Workforce.Text.Quoted
import Workforce.Text.Description
/-!
# Trace contexts

A trace context ties the log lines of a run together by an id. From each context child contexts are
derived; the id of the `n`-th child, counted from one, is the id of its parent followed by `_n`.

## Main definitions

* `Workforce.TraceContext` — an id and the number of children derived so far.
* `Workforce.TraceContext.root` — a context with an id made from a number of 64 bits.
* `Workforce.TraceContext.child` — the next child.
* `Workforce.TraceContext.children` — the next few children.
* `Workforce.Span` — what an event inside a span can see of it.
-/

namespace Workforce

/-- A context: its id, and how many children it has had. -/
structure TraceContext where
  id : String
  born : Nat
deriving DecidableEq

/-- What an event inside a span can see of it. -/
structure Span where
  name : String
  level : String
  fields : List String
  traceId : String
deriving DecidableEq

namespace TraceContext

/-- A context with the given id, without children yet. -/
def withId (id : String) : TraceContext := ⟨id, 0⟩

/-- The id made from a number of 64 bits: its sixteen lower-case hexadecimal digits. -/
def rootId (seed : UInt64) : String :=
  let digits := Text.hexDigits seed.toNat
  String.ofList (List.replicate (16 - digits.length) '0' ++ digits)

/-- A context of a new run, whose id is made from a number drawn at random. -/
def root (seed : UInt64) : TraceContext := withId (rootId seed)

/-- The id of the `n`-th child of a context with the given id. -/
def childId (id : String) (n : Nat) : String := id ++ "_" ++ toString n

/-- The next child, and the context after it. -/
def child (c : TraceContext) : TraceContext × TraceContext :=
  (withId (childId c.id (c.born + 1)), { c with born := c.born + 1 })

/-- The next `k` children, and the context after them. -/
def children (c : TraceContext) : Nat → List TraceContext × TraceContext
  | 0 => ([], c)
  | k + 1 =>
    let r := c.child
    let rest := r.2.children k
    (r.1 :: rest.1, rest.2)

/-- The context as it is described to a developer. -/
def inspect (c : TraceContext) : String :=
  Text.Description.inline {
    name := "TraceContext"
    fields := [("trace_id", .plain (Text.quote c.id)), ("children", .plain (toString c.born))] }

/-- The span that carries the context's id. -/
def span (c : TraceContext) : Span := ⟨"task", "INFO", ["trace_id"], c.id⟩

/-- The id consists of lower-case hexadecimal digits. -/
def isLowerHex (c : TraceContext) : Bool :=
  c.id.toList.all fun d => d.isDigit || ('a' ≤ d && d ≤ 'f')

end TraceContext

end Workforce
