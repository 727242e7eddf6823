import Workforce.Trace.Context
/-!
# Families of trace contexts

The contexts grown from one root, in the order in which they were kept, and what can be asked of
them. Children may be derived by many threads at once: each derivation takes the next number,
whichever thread it belongs to.

## Main definitions

* `Workforce.Family` — the contexts of a family.
* `Workforce.Family.Request` — what can be asked of a context.
* `Workforce.Family.answer` — the answer, and the family after it.
* `Workforce.TraceContext.derive` — the derivations of several threads in a given order.

## Implementation notes

The order in which threads derive children decides which thread gets which number, but not which
numbers are given out. A request for parallel derivations lets the threads take turns.
-/

namespace Workforce

namespace TraceContext

/-- Children derived by threads in the given order: each derivation with its thread and its id,
and the context after them. -/
def derive (c : TraceContext) : List Nat → List (Nat × String) × TraceContext
  | [] => ([], c)
  | thread :: order =>
    let r := c.child
    let rest := r.2.derive order
    ((thread, r.1.id) :: rest.1, rest.2)

end TraceContext

/-- The threads take turns, `rounds` times. -/
def turns (threads rounds : Nat) : List Nat :=
  (List.replicate rounds (List.range threads)).flatten

/-- The texts without repetition, by their characters. -/
def sortedTexts (texts : List String) : List String :=
  (texts.mergeSort fun a b => decide (a ≤ b)).eraseReps

/-- The contexts of a family, in the order in which they were kept. -/
abbrev Family := List TraceContext

namespace Family

/-- What can be asked of a context. -/
inductive Request where
  /-- Derive so many children and keep the last. -/
  | child (times : Nat)
  /-- Tell the id. -/
  | id
  /-- Describe the context. -/
  | inspect
  /-- Tell what the id looks like. -/
  | form
  /-- Show the span. -/
  | span
  /-- Derive children in parallel and tell their ids. -/
  | parallel (threads each : Nat)

/-- What is answered. -/
inductive Answer where
  | text (s : String)
  | form (bytes : Nat) (lowerHex differs : Bool)
  | span (s : Span)
  | ids (ids : List String)
  | nothing

/-- The answer to a request to the context of that index, and the family after it. A new root is
compared with one whose id is made from `seed`. -/
def answer (seed : UInt64) (index : Nat) (request : Request) (family : Family) : Answer × Family :=
  match family[index]? with
  | none => (.nothing, family)
  | some c =>
    match request with
    | .child times =>
      let r := c.children times
      match r.1.getLast? with
      | none => (.nothing, family)
      | some kept => (.text kept.id, family.set index r.2 ++ [kept])
    | .id => (.text c.id, family)
    | .inspect => (.text c.inspect, family)
    | .form =>
      (.form c.id.utf8ByteSize c.isLowerHex (c.id != TraceContext.rootId seed), family)
    | .span => (.span c.span, family)
    | .parallel threads each =>
      let r := c.derive (turns threads each)
      (.ids (sortedTexts (r.1.map Prod.snd)), family.set index r.2)

/-- The answers to a list of requests. -/
def answers (seed : UInt64) (family : Family) : List (Nat × Request) → List Answer
  | [] => []
  | (index, request) :: rest =>
    let r := family.answer seed index request
    r.1 :: answers seed r.2 rest

end Family

end Workforce
