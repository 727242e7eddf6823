import Mathlib.Tactic.Lemma
import Workforce.Scene.Command
/-!
# Histories

A history says what was asked of the pools and batches of a scene and what happened in them, in
order and with the place of each occurrence. Statements about whole runs compare a state with the
history that led to it.

## Main definitions

* `Workforce.Occurrence` — something that was asked, or an event.
* `Workforce.Trail` — what occurred at one place, in order.
* `Workforce.Trail.collect` — what the occurrences of one kind were about, in order.
* `Workforce.Trail.essence` — what is left of a trail without discards and what batches note.
* `Workforce.History` — what occurred in a scene.
* `Workforce.Chain` — steps one after the other, with what occurred in them.

## Implementation notes

The events of a batch are those of its pool and some of its own, in particular the discards of
tasks that never came to the pool. `Trail.essence` leaves them out, so that the trail of a batch
can be compared with the trail of its pool.
-/

namespace Workforce

/-- Something that was asked of a pool or for a batch, or an event. -/
inductive Occurrence (α : Type) where
  /-- A task was handed in to a pool. -/
  | asked (s : Submission α)
  /-- A call asked for outputs. -/
  | joined (r : Receiver)
  /-- A call asked for these tasks to be run as a batch. -/
  | batched (call : Nat) (tasks : List (Task α))
  /-- A waiting submission was given up. -/
  | retracted (s : Submission α)
  /-- A waiting receiver was given up. -/
  | departed (r : Receiver)
  /-- Something happened. -/
  | event (e : Event α)

/-- What occurred at one place, in order. -/
abbrev Trail (α : Type) := List (Occurrence α)

/-- What occurred in a scene, in order. -/
abbrev History (α : Type) := List (Place × Occurrence α)

variable {α β : Type}

/-! ## Kinds of occurrences -/

namespace Occurrence

/-- The tasks that a call hands over. -/
def given : Occurrence α → List (Task α)
  | asked s => [s.task]
  | batched _ tasks => tasks
  | _ => []

/-- The submission that is asked for. -/
def asked? : Occurrence α → Option (Submission α)
  | asked s => some s
  | _ => none

/-- The receiver that joins the line. -/
def joined? : Occurrence α → Option Receiver
  | joined r => some r
  | _ => none

/-- The submission that is given up. -/
def retracted? : Occurrence α → Option (Submission α)
  | retracted s => some s
  | _ => none

/-- The receiver that is given up. -/
def departed? : Occurrence α → Option Receiver
  | departed r => some r
  | _ => none

/-- The event of a component. -/
def event? : Occurrence α → Option (Event α)
  | event e => some e
  | _ => none

/-- The submission that is admitted. -/
def admitted? : Occurrence α → Option (Submission α)
  | event (.admitted caller task) => some ⟨caller, task⟩
  | _ => none

/-- The caller that is refused. -/
def refused? : Occurrence α → Option (Option Nat)
  | event (.refused caller _) => some caller
  | _ => none

/-- The task that is started. -/
def started? : Occurrence α → Option (Task α)
  | event (.started task) => some task
  | _ => none

/-- The task that ends. -/
def ended? : Occurrence α → Option (Task α)
  | event (.ended task) => some task
  | _ => none

/-- The task that is discarded. -/
def discarded? : Occurrence α → Option (Task α)
  | event (.discarded task) => some task
  | _ => none

/-- The receiver that gets an output, with the output. -/
def receipt? : Occurrence α → Option (Receiver × Option α)
  | event (.received caller drains output) => some (⟨caller, drains⟩, output)
  | _ => none

/-- The receiver that is told that the results are closed. -/
def told? : Occurrence α → Option Receiver
  | event (.toldClosed caller drains) => some ⟨caller, drains⟩
  | _ => none

/-- A worker exits. -/
@[simp] def exit? : Occurrence α → Option Unit
  | event .workerStopped => some ()
  | event .workerAborted => some ()
  | _ => none

/-- The results are closed. -/
@[simp] def finale? : Occurrence α → Option Unit
  | event .resultsClosed => some ()
  | _ => none

/-- The pool is told to cancel. -/
@[simp] def cancel? : Occurrence α → Option Unit
  | event .poolCancelled => some ()
  | _ => none

/-- The pool is closed. -/
@[simp] def close? : Occurrence α → Option Unit
  | event .poolClosed => some ()
  | _ => none

/-- The call that is made. -/
def call? : Occurrence α → Option Nat
  | asked s => s.caller
  | joined r => r.caller
  | batched call _ => some call
  | _ => none

/-- Who asks for something has a number. -/
def Signed : Occurrence α → Prop
  | asked s => s.caller.isSome
  | joined r => r.caller.isSome
  | _ => True

/-- The occurrence is an admission, a start, an end, a receipt, the word that the results are
closed, the exit of a worker, the close of the results or a cancellation. -/
def essential (o : Occurrence α) : Bool :=
  o.admitted?.isSome || o.started?.isSome || o.ended?.isSome || o.receipt?.isSome ||
    o.told?.isSome || o.exit?.isSome || o.finale?.isSome || o.cancel?.isSome

/-- What is not essential concerns no task, output or receiver. -/
lemma kinds_of_not_essential {o : Occurrence α} (h : o.essential = false) :
    o.admitted? = none ∧ o.started? = none ∧ o.ended? = none ∧ o.receipt? = none ∧
      o.told? = none := by
  simp only [essential, Bool.or_eq_false_iff, Option.isSome_eq_false_iff, Option.isNone_iff_eq_none,
    and_assoc] at h
  exact ⟨h.1, h.2.1, h.2.2.1, h.2.2.2.1, h.2.2.2.2.1⟩

/-- Nor does it concern a worker or a cancellation. -/
lemma exits_of_not_essential {o : Occurrence α} (h : o.essential = false) :
    o.exit? = none ∧ o.finale? = none ∧ o.cancel? = none := by
  simp only [essential, Bool.or_eq_false_iff, Option.isSome_eq_false_iff, Option.isNone_iff_eq_none,
    and_assoc] at h
  exact h.2.2.2.2.2

end Occurrence

/-! ## Trails -/

namespace Trail

open Occurrence

/-- What the occurrences of one kind were about, in order. -/
def collect (kind : Occurrence α → Option β) (os : Trail α) : List β := os.filterMap kind

@[simp] lemma collect_nil (kind : Occurrence α → Option β) : collect kind [] = [] := rfl

@[simp] lemma collect_cons (kind : Occurrence α → Option β) (o : Occurrence α) (os : Trail α) :
    collect kind (o :: os) = (kind o).toList ++ collect kind os := by
  cases h : kind o <;> simp [collect, h]

@[simp] lemma collect_append (kind : Occurrence α → Option β) (os ps : Trail α) :
    collect kind (os ++ ps) = collect kind os ++ collect kind ps :=
  List.filterMap_append

/-- What is collected comes from an occurrence. -/
lemma mem_collect {kind : Occurrence α → Option β} {os : Trail α} {x : β} :
    x ∈ collect kind os ↔ ∃ o ∈ os, kind o = some x :=
  List.mem_filterMap

/-- Occurrences that are all alike in what they are about. -/
lemma collect_map {γ : Type} (kind : Occurrence α → Option β) (f : γ → Occurrence α) (g : γ → β)
    (h : ∀ x, kind (f x) = some (g x)) (xs : List γ) : collect kind (xs.map f) = xs.map g := by
  induction xs with
  | nil => rfl
  | cons x xs ih => simp [h, ih]

/-- Occurrences none of which is of the kind. -/
lemma collect_map_none {γ : Type} (kind : Occurrence α → Option β) (f : γ → Occurrence α)
    (h : ∀ x, kind (f x) = none) (xs : List γ) : collect kind (xs.map f) = [] := by
  induction xs with
  | nil => rfl
  | cons x xs ih => simp [h, ih]

/-- The tasks that calls handed over, in order. -/
def given (os : Trail α) : List (Task α) := os.flatMap Occurrence.given

@[simp] lemma given_append (os ps : Trail α) : given (os ++ ps) = given os ++ given ps :=
  List.flatMap_append

/-- Occurrences in which nothing is handed over. -/
lemma given_map_none {γ : Type} (f : γ → Occurrence α) (h : ∀ x, (f x).given = [])
    (xs : List γ) : given (xs.map f) = [] := by
  induction xs with
  | nil => rfl
  | cons x xs ih =>
    rw [given] at ih
    rw [given, List.map_cons, List.flatMap_cons, h, ih]
    rfl

/-- Events hand nothing over. -/
@[simp] lemma given_map_event (es : List (Event α)) : given (es.map event) = [] :=
  given_map_none event (fun _ => rfl) es

/-- Of a kind that holds no events, events have nothing. -/
lemma collect_map_event (kind : Occurrence α → Option β) (h : ∀ e, kind (event e) = none)
    (es : List (Event α)) : collect kind (es.map event) = [] :=
  collect_map_none kind event h es

/-- Events are collected as they are. -/
lemma collect_event (es : List (Event α)) : collect event? (es.map event) = es := by
  rw [collect_map event? event id fun _ => rfl, List.map_id]

/-- Discards are collected as the tasks they discard. -/
@[simp] lemma collect_discards (ts : List (Task α)) :
    collect discarded? ((ts.map Event.discarded).map event) = ts := by
  rw [List.map_map, collect_map discarded? _ id fun _ => rfl, List.map_id]

/-- The tasks that were admitted, in order. -/
def admitted (os : Trail α) : List (Task α) := (os.collect admitted?).map (·.task)

@[simp] lemma admitted_append (os ps : Trail α) :
    admitted (os ++ ps) = admitted os ++ admitted ps := by simp [admitted]

/-- The outputs of the tasks that ended without a panic, in the order of their ends. -/
def outputs (os : Trail α) : List (Option α) :=
  (os.collect ended?).filterMap (·.outcome.output?)

@[simp] lemma outputs_append (os ps : Trail α) :
    outputs (os ++ ps) = outputs os ++ outputs ps := by simp [outputs]

/-- The outputs that were received, in the order of receipt. -/
def received (os : Trail α) : List (Option α) := (os.collect receipt?).map Prod.snd

@[simp] lemma received_append (os ps : Trail α) :
    received (os ++ ps) = received os ++ received ps := by simp [received]

/-! ### Receivers -/

/-- The receivers that ask for the next output only. -/
def nexts (rs : List Receiver) : List Receiver := rs.filter (!·.drains)

@[simp] lemma nexts_append (rs ss : List Receiver) : nexts (rs ++ ss) = nexts rs ++ nexts ss :=
  List.filter_append ..

/-- The calls for the next output that were not given up while they waited, in the order of the
calls. -/
def kept (os : Trail α) : List Receiver :=
  (nexts (os.collect joined?)).filter (· ∉ os.collect departed?)

section Kept

variable {os ps : Trail α}

/-- Where nobody joins and nobody gives up, the same calls are kept. -/
lemma kept_append (joined : collect joined? ps = []) (departed : collect departed? ps = []) :
    kept (os ++ ps) = kept os := by
  simp [kept, joined, departed]

/-- A call that joins is kept if it has not been given up before. -/
lemma kept_append_joined {r : Receiver} (fresh : r ∉ collect departed? os)
    (joined : collect joined? ps = [r]) (departed : collect departed? ps = []) :
    kept (os ++ ps) = kept os ++ nexts [r] := by
  have hr : (nexts [r]).filter (· ∉ collect departed? os) = nexts [r] := by
    rw [List.filter_eq_self]
    intro y hy
    have : y = r := by simpa using (List.mem_filter.1 hy).1
    simpa [this] using fresh
  rw [kept, collect_append, collect_append, joined, departed, List.append_nil, nexts_append,
    List.filter_append, hr, kept]

/-- Calls that are given up are kept no longer. -/
lemma kept_append_departed {rs : List Receiver} (joined : collect joined? ps = [])
    (departed : collect departed? ps = rs) : kept (os ++ ps) = (kept os).filter (· ∉ rs) := by
  rw [kept, kept, List.filter_filter, collect_append, collect_append, joined, departed,
    List.append_nil]
  refine List.filter_congr fun y _ => ?_
  simp [Bool.and_comm]

end Kept

/-! ### What is essential -/

/-- What is essential in a trail. -/
def essence (os : Trail α) : Trail α := os.filter essential

@[simp] lemma essence_append (os ps : Trail α) : essence (os ++ ps) = essence os ++ essence ps :=
  List.filter_append ..

/-- Nothing in the trail is essential. -/
lemma essence_eq_nil {os : Trail α} (h : ∀ o ∈ os, essential o = false) : essence os = [] :=
  List.filter_eq_nil_iff.2 fun o ho => by simp [h o ho]

/-- Occurrences that are all alike and not essential. -/
lemma essence_map {γ : Type} (f : γ → Occurrence α) (h : ∀ x, essential (f x) = false)
    (xs : List γ) : essence (xs.map f) = [] := by
  refine essence_eq_nil fun o ho => ?_
  obtain ⟨x, -, rfl⟩ := List.mem_map.1 ho
  exact h x

/-- To leave occurrences out does not affect a kind that they are not of. -/
lemma collect_filter {keep : Occurrence α → Bool} {kind : Occurrence α → Option β}
    (h : ∀ o, keep o = false → kind o = none) (os : Trail α) :
    collect kind (os.filter keep) = collect kind os := by
  induction os with
  | nil => rfl
  | cons o os ih =>
    cases ho : keep o with
    | true => rw [List.filter_cons_of_pos ho, collect_cons, collect_cons, ih]
    | false =>
      rw [List.filter_cons_of_neg (by simp [ho]), collect_cons, h o ho, ih]
      rfl

/-- What is left out does not affect a kind of essential occurrences. -/
lemma collect_essence {kind : Occurrence α → Option β}
    (h : ∀ o, essential o = false → kind o = none) (os : Trail α) :
    collect kind (essence os) = collect kind os :=
  collect_filter h os

/-- Trails with the same essence agree on a kind of essential occurrences. -/
lemma collect_eq_of_essence {os ps : Trail α} (h : essence os = essence ps)
    {kind : Occurrence α → Option β} (hkind : ∀ o, essential o = false → kind o = none) :
    collect kind os = collect kind ps := by
  rw [← collect_essence hkind, h, collect_essence hkind]

/-- Trails with the same essence agree on tasks, outputs and receivers. -/
lemma collect_congr {os ps : Trail α} (h : essence os = essence ps) :
    collect admitted? os = collect admitted? ps ∧ collect started? os = collect started? ps ∧
      collect ended? os = collect ended? ps ∧ collect receipt? os = collect receipt? ps ∧
      collect told? os = collect told? ps :=
  ⟨collect_eq_of_essence h fun _ ho => (kinds_of_not_essential ho).1,
    collect_eq_of_essence h fun _ ho => (kinds_of_not_essential ho).2.1,
    collect_eq_of_essence h fun _ ho => (kinds_of_not_essential ho).2.2.1,
    collect_eq_of_essence h fun _ ho => (kinds_of_not_essential ho).2.2.2.1,
    collect_eq_of_essence h fun _ ho => (kinds_of_not_essential ho).2.2.2.2⟩

/-- They agree on workers. -/
lemma collect_exits_congr {os ps : Trail α} (h : essence os = essence ps) :
    collect exit? os = collect exit? ps ∧ collect finale? os = collect finale? ps :=
  ⟨collect_eq_of_essence h fun _ ho => (exits_of_not_essential ho).1,
    collect_eq_of_essence h fun _ ho => (exits_of_not_essential ho).2.1⟩

/-- They agree on cancellations. -/
lemma collect_cancel_congr {os ps : Trail α} (h : essence os = essence ps) :
    collect cancel? os = collect cancel? ps :=
  collect_eq_of_essence h fun _ ho => (exits_of_not_essential ho).2.2

end Trail

/-! ## Histories -/

namespace History

/-- What occurred at one place. -/
def trailAt (place : Place) (h : History α) : Trail α :=
  h.filterMap fun x => if x.1 = place then some x.2 else none

/-- What occurred anywhere. -/
def trail (h : History α) : Trail α := h.map Prod.snd

/-- Entries as a history. -/
def ofEntries (es : List (Entry α)) : History α := es.map fun x => (x.1, .event x.2)

/-- Occurrences at one place as a history. -/
def ofTrail (place : Place) (os : Trail α) : History α := os.map (place, ·)

@[simp] lemma trailAt_append (place : Place) (h k : History α) :
    trailAt place (h ++ k) = trailAt place h ++ trailAt place k :=
  List.filterMap_append

@[simp] lemma trail_append (h k : History α) : trail (h ++ k) = trail h ++ trail k :=
  List.map_append

@[simp] lemma trail_ofTrail (place : Place) (os : Trail α) : trail (ofTrail place os) = os := by
  simp [trail, ofTrail, Function.comp_def]

@[simp] lemma ofEntries_append (es fs : List (Entry α)) :
    ofEntries (es ++ fs) = ofEntries es ++ ofEntries fs :=
  List.map_append

lemma trailAt_ofTrail (place q : Place) (os : Trail α) :
    trailAt q (ofTrail place os) = if place = q then os else [] := by
  rw [trailAt, ofTrail, List.filterMap_map]
  split
  · next h =>
    have hall : (fun x : Place × Occurrence α => if x.1 = q then some x.2 else none) ∘
        (place, ·) = some := funext fun o => if_pos h
    rw [hall, List.filterMap_some]
  · next h => exact List.filterMap_eq_nil_iff.2 fun o _ => if_neg h

/-- What occurred at a place occurred somewhere. -/
lemma mem_trailAt {place : Place} {h : History α} {o : Occurrence α} :
    o ∈ trailAt place h ↔ (place, o) ∈ h := by
  simp only [trailAt, List.mem_filterMap, Prod.exists]
  constructor
  · rintro ⟨q, o', hmem, hq⟩
    split at hq <;> simp_all
  · intro hmem
    exact ⟨place, o, hmem, by simp⟩

/-- Tasks carry the names of the calls that hand them over. -/
structure Named (h : History α) : Prop where
  /-- A task that is handed in alone has the number of the call. -/
  asked : ∀ place s c, (place, Occurrence.asked s) ∈ h → s.caller = some c →
    s.task.id = ⟨c, none⟩
  /-- A task of a batch has the number of the call and its index. -/
  batched : ∀ place c tasks i (t : Task α), (place, Occurrence.batched c tasks) ∈ h →
    tasks[i]? = some t → t.id = ⟨c, some i⟩

end History

/-! ## Chains of steps -/

/-- Steps one after the other; what occurred in them is put together. -/
inductive Chain {σ γ : Type} (step : σ → List γ → σ → Prop) : σ → List γ → σ → Prop
  | refl (a : σ) : Chain step a [] a
  | tail {a b c : σ} {xs ys : List γ} (chain : Chain step a xs b) (last : step b ys c) :
      Chain step a (xs ++ ys) c

namespace Chain

variable {σ γ : Type} {step : σ → List γ → σ → Prop}

/-- One step is a chain. -/
lemma single {a b : σ} {xs : List γ} (h : step a xs b) : Chain step a xs b := by
  simpa using Chain.tail (Chain.refl a) h

/-- Chains can be put together. -/
lemma trans {a b c : σ} {xs ys : List γ} (h : Chain step a xs b) (k : Chain step b ys c) :
    Chain step a (xs ++ ys) c := by
  induction k with
  | refl => simpa using h
  | tail _ last ih => simpa only [List.append_assoc] using ih.tail last

/-- What every step keeps is kept by a chain. -/
lemma keeps {P : σ → Prop} (hstep : ∀ a b xs, step a xs b → P a → P b) {a b : σ} {xs : List γ}
    (h : Chain step a xs b) (ha : P a) : P b := by
  induction h with
  | refl => exact ha
  | tail _ last ih => exact hstep _ _ _ last ih

end Chain

end Workforce
