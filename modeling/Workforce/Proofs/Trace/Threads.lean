import Workforce.Proofs.Trace.Names
/-!
# Children of many threads

Threads derive children of one context at the same time. Each call takes the next number, so that
the calls in the order in which they were made have the numbers that follow, whichever threads they
belong to. The order decides which of them a thread gets; together the threads always get the same.

## Main definitions

* `Workforce.TraceContext.Interleaves` — the order takes so many calls of every thread.
* `Workforce.TraceContext.idsOf` — the ids that a thread obtained.

## Main results

* `Workforce.TraceContext.derive_eq` — the number of every call.
* `Workforce.sortedTexts_of_nodup` — different texts are only sorted.
* `Workforce.TraceContext.derive_gapless` — the children of many threads are numbered without gaps
  or repeats.

## Implementation notes

The calls of one thread are all alike, so that an interleaving of the calls is given by the threads
whose turn it is, one after the other. Any such list is an order in which the threads can be
scheduled if every thread occurs in it as often as it calls.
-/

namespace Workforce

/-! ## Sorted texts -/

/-- Where no two neighbours are alike nothing is left out. -/
lemma eraseReps_of_nodup {l : List String} (nodup : l.Nodup) : l.eraseReps = l := by
  have hloop : ∀ (as : List String) (a : String) (done : List String), (a :: as).Nodup →
      List.eraseRepsBy.loop (· == ·) a as done = done.reverse ++ a :: as := by
    intro as
    induction as with
    | nil => intro a done _; simp [List.eraseRepsBy.loop]
    | cons b as ih =>
      intro a done h
      have hab : (a == b) = false := by
        rw [beq_eq_false_iff_ne]
        rintro rfl
        exact (List.nodup_cons.1 h).1 List.mem_cons_self
      rw [List.eraseRepsBy.loop, hab, ih b (a :: done) (List.nodup_cons.1 h).2]
      simp
  cases l with
  | nil => rfl
  | cons a as => exact hloop as a [] nodup

/-- **Different texts are only sorted**: none is left out, and they come in strictly increasing
order. -/
theorem sortedTexts_of_nodup {texts : List String} (nodup : texts.Nodup) :
    (sortedTexts texts).Perm texts ∧ (sortedTexts texts).Pairwise (· < ·) := by
  have hperm := List.mergeSort_perm texts fun a b => decide (a ≤ b)
  have hnodup := hperm.nodup_iff.2 nodup
  rw [sortedTexts, eraseReps_of_nodup hnodup]
  refine ⟨hperm, ?_⟩
  have hsorted : (texts.mergeSort fun a b => decide (a ≤ b)).Pairwise fun a b => decide (a ≤ b) :=
    List.pairwise_mergeSort
      (fun a b c hab hbc => by
        simpa using String.le_trans (by simpa using hab) (by simpa using hbc))
      (fun a b => by simpa using String.le_total a b) texts
  refine (hsorted.and hnodup).imp fun {a b} h => String.not_le.1 fun hba => h.2 ?_
  exact String.le_antisymm (by simpa using h.1) hba

namespace TraceContext

/-! ## Orders of calls -/

/-- The calls of the threads, one thread after the other. -/
def oneByOne (calls : List Nat) : List Nat :=
  calls.zipIdx.flatMap fun x => List.replicate x.1 x.2

/-- The order takes as many calls of every thread as it makes. -/
def Interleaves (order calls : List Nat) : Prop := order.Perm (oneByOne calls)

instance (order calls : List Nat) : Decidable (Interleaves order calls) :=
  inferInstanceAs (Decidable (order.Perm (oneByOne calls)))

/-- One more thread calls after the others. -/
lemma oneByOne_concat (calls : List Nat) (k : Nat) :
    oneByOne (calls ++ [k]) = oneByOne calls ++ List.replicate k calls.length := by
  simp [oneByOne, List.zipIdx_append]

/-- These are all the calls. -/
lemma length_oneByOne (calls : List Nat) : (oneByOne calls).length = calls.sum := by
  induction calls using List.reverseRecOn with
  | nil => rfl
  | append_singleton calls k ih => simp [oneByOne_concat, ih]

/-- A thread calls as often as it does. -/
lemma count_oneByOne (calls : List Nat) (thread : Nat) :
    (oneByOne calls).count thread = calls[thread]?.getD 0 := by
  induction calls using List.reverseRecOn with
  | nil => rfl
  | append_singleton calls k ih =>
    rw [oneByOne_concat, List.count_append, List.count_replicate, ih]
    rcases Nat.lt_trichotomy thread calls.length with h | rfl | h
    · have : ¬calls.length = thread := by omega
      simp [List.getElem?_append_left h, this]
    · simp
    · have : ¬calls.length = thread := by omega
      simp [List.getElem?_eq_none (show calls.length ≤ thread by omega), this,
        List.getElem?_eq_none (show (calls ++ [k]).length ≤ thread by simp; omega)]

/-! ## Numbers -/

/-- **The number of every call.** The calls have the numbers that follow, in their order. -/
theorem derive_eq (c : TraceContext) (order : List Nat) :
    c.derive order = ((order.zipIdx (c.born + 1)).map fun x => (x.1, childId c.id x.2),
      { c with born := c.born + order.length }) := by
  induction order generalizing c with
  | nil => rfl
  | cons thread order ih =>
    rw [derive, ih]
    simp [child, withId, Nat.add_assoc, Nat.add_comm 1]

/-- The ids that a thread obtained, in its order. -/
def idsOf (thread : Nat) (derived : List (Nat × String)) : List String :=
  (derived.filter (·.1 = thread)).map Prod.snd

/-- The numbers of the children that a thread derives. -/
def numbersOf (thread : Nat) (c : TraceContext) (order : List Nat) : List Nat :=
  ((order.zipIdx (c.born + 1)).filter (·.1 = thread)).map Prod.snd

variable (c : TraceContext) (order : List Nat) (thread : Nat)

/-- All ids. -/
lemma derive_ids : (c.derive order).1.map Prod.snd =
    (List.range' (c.born + 1) order.length).map (childId c.id) := by
  rw [derive_eq, List.map_map, ← List.zipIdx_map_snd (c.born + 1) order, List.map_map]
  rfl

/-- The ids of a thread. -/
lemma idsOf_derive : idsOf thread (c.derive order).1 =
    (numbersOf thread c order).map (childId c.id) := by
  simp [idsOf, numbersOf, derive_eq, List.filter_map, Function.comp_def]

/-- A thread sees its numbers increase. -/
lemma numbersOf_increasing : (numbersOf thread c order).Pairwise (· < ·) := by
  have hall : ((order.zipIdx (c.born + 1)).map Prod.snd).Pairwise (· < ·) := by
    rw [List.zipIdx_map_snd]
    exact List.pairwise_lt_range'
  exact hall.sublist (List.filter_sublist.map Prod.snd)

/-- It gets one for each of its calls. -/
lemma length_numbersOf : (numbersOf thread c order).length = order.count thread := by
  have hthreads : (order.zipIdx (c.born + 1)).map Prod.fst = order := List.zipIdx_map_fst _ _
  calc (numbersOf thread c order).length
      = ((order.zipIdx (c.born + 1)).map Prod.fst).count thread := by
        rw [numbersOf, List.length_map, ← List.countP_eq_length_filter, List.count, List.countP_map]
        exact List.countP_congr fun x _ => by simp
    _ = order.count thread := by rw [hthreads]

/-- Different numbers make different ids. -/
lemma childId_injective (id : String) : Function.Injective (childId id) := by
  intro m n h
  have hroot : address id [] = id := by simp [address]
  have hpath (k : Nat) : childId id k = address id [k] := by
    conv_lhs => rw [← hroot, ← address_append, List.nil_append]
  rw [hpath, hpath] at h
  exact List.singleton_injective (address_injective id h)

/-- The ids are distinct. -/
lemma derive_ids_nodup : ((c.derive order).1.map Prod.snd).Nodup := by
  rw [derive_ids]
  exact (List.nodup_range' ..).map (childId_injective c.id)

/-- **The children of many threads are numbered without gaps or repeats.** Whatever number of
threads call, however often each of them, and in whatever order the calls are made: the ids are
those of the next children, as many as there are calls, each once; every thread gets one for each of
its calls and sees its own numbers strictly increase; sorted and without repetition the ids are as
many as the calls; and the next child has the number after these.

**Proof sketch.** The calls have the numbers that follow, in the order in which they are made
(`Workforce.TraceContext.derive_eq`), and different numbers make different ids. A thread gets some
of the numbers, in the same order. -/
theorem derive_gapless (c : TraceContext) (calls order : List Nat)
    (interleaved : Interleaves order calls) :
    let ids := (c.derive order).1.map Prod.snd
    ids = (List.range' (c.born + 1) calls.sum).map (childId c.id) ∧ ids.Nodup ∧
      (∀ thread, ∃ numbers : List Nat, numbers.Pairwise (· < ·) ∧
        numbers.length = calls[thread]?.getD 0 ∧
        idsOf thread (c.derive order).1 = numbers.map (childId c.id)) ∧
      (sortedTexts ids).length = calls.sum ∧ (sortedTexts ids).Pairwise (· < ·) ∧
      (c.derive order).2.child.1.id = childId c.id (c.born + calls.sum + 1) := by
  have hlength : order.length = calls.sum := by
    rw [interleaved.length_eq, length_oneByOne]
  have hids := derive_ids c order
  have hnodup := derive_ids_nodup c order
  obtain ⟨hperm, hsorted⟩ := sortedTexts_of_nodup hnodup
  refine ⟨by rw [hids, hlength], hnodup, fun thread => ?_, ?_, hsorted, ?_⟩
  · refine ⟨numbersOf thread c order, numbersOf_increasing c order thread, ?_,
      idsOf_derive c order thread⟩
    rw [length_numbersOf, interleaved.count_eq, count_oneByOne]
  · rw [hperm.length_eq, hids, List.length_map, List.length_range', hlength]
  · rw [derive_eq, ← hlength]
    rfl

/-- A thread calls twice, and another one in between, on a context that has had three children. -/
theorem derive_gapless_between : Interleaves [0, 1, 0] [2, 1] ∧
    ((⟨"r", 3⟩ : TraceContext).derive [0, 1, 0]).2.child.1.id = childId "r" 7 :=
  ⟨by decide, (derive_gapless ⟨"r", 3⟩ [2, 1] [0, 1, 0] (by decide)).2.2.2.2.2⟩

/-- When the threads take turns, each calls as often as there are turns. -/
lemma turns_interleaves (threads rounds : Nat) :
    Interleaves (turns threads rounds) (List.replicate threads rounds) := by
  refine List.perm_iff_count.2 fun thread => ?_
  rw [count_oneByOne, turns, List.count_flatten, List.map_replicate, List.sum_replicate_nat,
    List.getElem?_replicate, List.count_range]
  split <;> simp

end TraceContext

/-- **What a request for children in parallel is answered**: the ids of the next children, each
once and in order, as many as all threads together call for. -/
theorem Family.parallel_ids {family : Family} {index : Nat} {c : TraceContext}
    (here : family[index]? = some c) (seed : UInt64) (threads each : Nat) :
    ∃ ids, family.answer seed index (.parallel threads each) =
        (.ids ids, family.set index { c with born := c.born + threads * each }) ∧
      ids.Perm ((List.range' (c.born + 1) (threads * each)).map (TraceContext.childId c.id)) ∧
      ids.Pairwise (· < ·) := by
  have hlength : (turns threads each).length = threads * each := by
    rw [(TraceContext.turns_interleaves threads each).length_eq, TraceContext.length_oneByOne,
      List.sum_replicate_nat]
  have hafter : (c.derive (turns threads each)).2 =
      { c with born := c.born + threads * each } := by
    rw [TraceContext.derive_eq, hlength]
  obtain ⟨hperm, hsorted⟩ := sortedTexts_of_nodup (c.derive_ids_nodup (turns threads each))
  refine ⟨_, ?_, ?_, hsorted⟩
  · rw [answer, here, ← hafter]
  · rwa [c.derive_ids, hlength] at hperm ⊢

end Workforce
