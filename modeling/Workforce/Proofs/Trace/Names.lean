import Workforce.Trace.Family
import Workforce.Proofs.Settings.Numeral
/-!
# The ids of a family

Every context of a family is reached from the root by the numbers of the children on the way, and
its id spells these numbers out after the id of the root. The numbers can be read off again: what
follows the id of the root consists of digits and underscores, and no number is written with an
underscore. The root may have any id, since the reader passes over as many characters as it has
before it looks for underscores.

## Main definitions

* `Workforce.Text.Decimal` — a text is a number in base ten without leading zeros.
* `Workforce.Pedigree` — the calls made on the contexts of a family and the numbers that lead to
  each of them.
* `Workforce.TraceContext.address` — the id that spells out a path.
* `Workforce.TraceContext.numbers` — the path that an id spells out.
* `Workforce.Family.grow` — the family after a sequence of calls.

## Main results

* `Workforce.Text.decimal_toString` — numbers are written in base ten without leading zeros.
* `Workforce.TraceContext.numbers_address` — the path can be read off the id.
* `Workforce.Pedigree.after_sound` — no two contexts are reached by the same numbers.
* `Workforce.Family.ids_distinct` — the ids of a family spell out the paths and are distinct.

## Implementation notes

A pedigree keeps no ids and no counters. It counts how often each context was called, so that a
family can be compared with what its paths should be.
-/

namespace Workforce

/-! ## Numbers in base ten -/

namespace Text

/-- The text is the number in base ten, without leading zeros. -/
structure Decimal (text : String) (n : Nat) : Prop where
  digits : ∀ c ∈ text.toList, '0' ≤ c ∧ c ≤ '9'
  value : digitsValue text.toList = n
  leading : n ≠ 0 → text.toList.head? ≠ some '0'

/-- The digits are worth what they are worth when they are read from the left. -/
lemma digitsValue_eq_ofDigitChars (cs : List Char) :
    digitsValue cs = Nat.ofDigitChars 10 cs 0 := by
  induction cs using List.reverseRecOn with
  | nil => rfl
  | append_singleton cs c ih =>
    rw [Nat.ofDigitChars_append, ← ih, Nat.ofDigitChars_cons, Nat.ofDigitChars_nil]
    simp only [digitsValue, List.reverse_append, List.reverse_cons, List.reverse_nil,
      List.nil_append, List.cons_append, List.map_cons, Nat.ofDigits_cons]
    omega

/-- A number other than zero is not written with a zero in front. -/
lemma head?_toDigits_ne {n : Nat} (hn : n ≠ 0) : (Nat.toDigits 10 n).head? ≠ some '0' := by
  induction n using Nat.strong_induction_on with
  | _ n ih =>
    by_cases hlt : n < 10
    · rw [Nat.toDigits_of_lt_base hlt]
      interval_cases n <;> first | exact absurd rfl hn | decide
    · rw [Nat.toDigits_of_base_le (by decide) (by omega),
        List.head?_append_of_ne_nil _ Nat.toDigits_ne_nil]
      exact ih (n / 10) (by omega) (by omega)

/-- **Numbers are written in base ten without leading zeros.** -/
theorem decimal_toString (n : Nat) : Decimal (toString n) n where
  digits c hc := by
    rw [Nat.toString_eq_repr, Nat.toList_repr] at hc
    exact isDigit_iff.1 (Nat.isDigit_of_mem_toDigits (by decide) (by decide) hc)
  value := by
    rw [Nat.toString_eq_repr, Nat.toList_repr, digitsValue_eq_ofDigitChars,
      Nat.ofDigitChars_ten_toDigits]
  leading hn := by
    rw [Nat.toString_eq_repr, Nat.toList_repr]
    exact head?_toDigits_ne hn

/-- No underscore is among the digits of a number. -/
lemma underscore_notMem_toString (n : Nat) : '_' ∉ (toString n).toList := fun h =>
  absurd ((decimal_toString n).digits _ h) (by decide)

end Text

/-! ## Paths and ids -/

namespace TraceContext

/-- The id that spells out a path: the id of the root, then an underscore and a number for each
child on the way. -/
def address (root : String) (path : List Nat) : String :=
  root ++ String.join (path.map fun n => "_" ++ toString n)

/-- The path that an id spells out: what stands between the underscores after the id of the
root. -/
def numbers (root id : String) : List Nat :=
  ((id.toList.drop root.toList.length).splitOn '_').tail.map Text.digitsValue

/-- The id of a child spells out the path to it. -/
lemma address_append (root : String) (path : List Nat) (n : Nat) :
    address root (path ++ [n]) = childId (address root path) n := by
  simp [address, childId, String.join_append, String.append_assoc]

/-- Texts with a mark before each of them are what the mark separates, after an empty text. -/
lemma intercalate_cons {α : Type} (mark : α) (l : List α) (ls : List (List α)) :
    [mark].intercalate (l :: ls) = l ++ ls.flatMap (mark :: ·) := by
  induction ls generalizing l with
  | nil => simp
  | cons l' ls ih => rw [List.intercalate_cons_cons, ih]; simp

/-- **The path can be read off the id.** The root may have any id.

**Proof sketch.** After the id of the root stands a text in which underscores separate an empty
text and the written numbers. No number is written with an underscore, so that the text falls apart
into these again. -/
theorem numbers_address (root : String) (path : List Nat) :
    numbers root (address root path) = path := by
  let written := path.map fun n => (toString n).toList
  have hrest : (address root path).toList.drop root.toList.length =
      ['_'].intercalate ([] :: written) := by
    have hmark : "_".toList = ['_'] := rfl
    rw [address, String.toList_append, List.drop_left, String.toList_join, intercalate_cons]
    simp [written, List.flatMap_map, String.toList_append, hmark]
  have hapart : (['_'].intercalate ([] :: written)).splitOn '_' = [] :: written := by
    refine List.splitOn_intercalate '_' (fun l hl => ?_) (List.cons_ne_nil _ _)
    rcases List.mem_cons.1 hl with rfl | hl
    · exact List.not_mem_nil
    · obtain ⟨n, -, rfl⟩ := List.mem_map.1 hl
      exact Text.underscore_notMem_toString n
  calc numbers root (address root path)
      = path.map fun n => Text.digitsValue (toString n).toList := by
        rw [numbers, hrest, hapart, List.tail_cons, List.map_map]
        rfl
    _ = path.map fun n => n := List.map_congr_left fun n _ => (Text.decimal_toString n).value
    _ = path := List.map_id' path

/-- Different paths have different ids. -/
lemma address_injective (root : String) : Function.Injective (address root) :=
  Function.LeftInverse.injective (numbers_address root)

end TraceContext

/-! ## Pedigrees -/

/-- Which contexts were called, by their indices, and the numbers that lead to each context. -/
structure Pedigree where
  calls : List Nat
  paths : List (List Nat)

namespace Pedigree

/-- Only the root, which no number leads to. -/
def founder : Pedigree := ⟨[], [[]]⟩

/-- A call on the context of that index. Its child has the number of the call, counted from one
among the calls on this context. -/
def call (p : Pedigree) (i : Nat) : Pedigree :=
  match p.paths[i]? with
  | none => p
  | some path => ⟨i :: p.calls, p.paths ++ [path ++ [p.calls.count i + 1]]⟩

/-- A call on a context gives it a child. -/
lemma call_eq_of_getElem? {p : Pedigree} {i : Nat} {path : List Nat}
    (here : p.paths[i]? = some path) :
    p.call i = ⟨i :: p.calls, p.paths ++ [path ++ [p.calls.count i + 1]]⟩ := by
  simp [call, here]

/-- The pedigree after a sequence of calls. -/
def after (calls : List Nat) : Pedigree := calls.foldl call founder

/-- What holds of every pedigree: all calls were made on contexts, no two contexts have the same
path, who has a child has a path, and the children of a context have the numbers of the calls on
it. -/
structure Sound (p : Pedigree) : Prop where
  made : ∀ i ∈ p.calls, i < p.paths.length
  nodup : p.paths.Nodup
  closed : ∀ path n, path ++ [n] ∈ p.paths → path ∈ p.paths
  numbered : ∀ i path n, p.paths[i]? = some path → path ++ [n] ∈ p.paths → n ≤ p.calls.count i
  positive : ∀ path ∈ p.paths, ∀ n ∈ path, 1 ≤ n

/-- The root alone. -/
lemma founder_sound : founder.Sound where
  made := by simp [founder]
  nodup := by simp [founder]
  closed := by simp [founder]
  numbered := by simp [founder]
  positive := by simp [founder]

/-- What stands in a list with one more entry stands in the list, or is this entry at the end. -/
lemma getElem?_concat_cases {α : Type} {l : List α} {a b : α} {i : Nat}
    (h : (l ++ [a])[i]? = some b) : l[i]? = some b ∨ i = l.length ∧ b = a := by
  obtain ⟨hi, h⟩ := List.getElem?_eq_some_iff.1 h
  rw [List.length_append, List.length_singleton] at hi
  rcases Nat.lt_succ_iff_lt_or_eq.1 hi with hlt | rfl
  · exact .inl (List.getElem?_eq_some_iff.2 ⟨hlt, by simpa [List.getElem_append_left hlt] using h⟩)
  · exact .inr ⟨rfl, by simpa using h.symm⟩

variable {p : Pedigree}

/-- **A call on a context leads to a new path.** -/
lemma Sound.call (sound : p.Sound) (i : Nat) : (p.call i).Sound := by
  unfold Pedigree.call
  split
  · exact sound
  · next path here =>
    have hi : i < p.paths.length := (List.getElem?_eq_some_iff.1 here).1
    have hnew : path ++ [p.calls.count i + 1] ∉ p.paths := fun hmem => by
      have := sound.numbered i path _ here hmem
      omega
    constructor
    case made =>
      intro j hj
      rw [List.length_append, List.length_singleton]
      rcases List.mem_cons.1 hj with rfl | hj
      · omega
      · exact Nat.lt_succ_of_lt (sound.made j hj)
    case nodup =>
      exact List.Nodup.append sound.nodup (List.nodup_singleton _)
        (List.disjoint_singleton.2 hnew)
    case closed =>
      intro q n hmem
      rcases List.mem_append.1 hmem with hmem | hmem
      · exact List.mem_append_left _ (sound.closed q n hmem)
      · obtain ⟨rfl, -⟩ := List.append_singleton_inj.1 (List.mem_singleton.1 hmem)
        exact List.mem_append_left _ (List.mem_of_getElem? here)
    case numbered =>
      intro j q n hq hmem
      rcases List.mem_append.1 hmem with hmem | hmem
      · rcases getElem?_concat_cases hq with hq | ⟨-, rfl⟩
        · exact Nat.le_trans (sound.numbered j q n hq hmem) List.count_le_count_cons
        · -- The new path has no children yet.
          exact absurd (sound.closed _ n hmem) hnew
      · obtain ⟨rfl, rfl⟩ := List.append_singleton_inj.1 (List.mem_singleton.1 hmem)
        rcases getElem?_concat_cases hq with hq | ⟨-, hq⟩
        · -- It is the last child of the context called.
          obtain rfl : i = j := (List.getElem?_inj hi sound.nodup).1 (here.trans hq.symm)
          rw [List.count_cons_self]
        · simp at hq
    case positive =>
      intro q hq n hn
      rcases List.mem_append.1 hq with hq | hq
      · exact sound.positive q hq n hn
      · rw [List.mem_singleton.1 hq] at hn
        rcases List.mem_append.1 hn with hn | hn
        · exact sound.positive path (List.mem_of_getElem? here) n hn
        · rw [List.mem_singleton.1 hn]
          omega

/-- **No two contexts are reached by the same numbers**, whatever the calls. -/
theorem after_sound (calls : List Nat) : (after calls).Sound := by
  induction calls using List.reverseRecOn with
  | nil => exact founder_sound
  | append_singleton calls i ih =>
    rw [after, List.foldl_append]
    exact ih.call i

end Pedigree

/-! ## Families -/

namespace Family

open TraceContext

/-- The family after a call for a child of the context of that index. -/
def bear (family : Family) (i : Nat) : Family := (family.answer 0 i (.child 1)).2

/-- The family that grows from a root by a sequence of calls. -/
def grow (root : String) (calls : List Nat) : Family := calls.foldl bear [withId root]

/-- The context called counts its child, which is kept. -/
lemma bear_eq_of_getElem? {family : Family} {i : Nat} {c : TraceContext}
    (here : family[i]? = some c) :
    family.bear i = family.set i { c with born := c.born + 1 } ++
      [withId (childId c.id (c.born + 1))] := by
  simp [bear, answer, here, children, child]

/-- The family is that of the pedigree: the ids spell out the paths, and every context has counted
the calls on it. -/
structure Follows (root : String) (p : Pedigree) (family : Family) : Prop where
  ids : family.map TraceContext.id = p.paths.map (address root)
  born : ∀ i c, family[i]? = some c → c.born = p.calls.count i

variable {root : String} {p : Pedigree} {family : Family}

/-- The root alone. -/
lemma follows_founder (root : String) : Follows root .founder [withId root] where
  ids := by simp [Pedigree.founder, withId, address]
  born i c h := by
    obtain ⟨rfl, rfl⟩ : i = 0 ∧ c = withId root := by
      cases i <;> simp_all
    rfl

/-- **A call on a context** gives its child the id that spells out the new path, and one more child
to the context. -/
lemma Follows.call (follows : Follows root p family) (sound : p.Sound) (i : Nat) :
    Follows root (p.call i) (family.bear i) := by
  have hlength : family.length = p.paths.length := by
    simpa using congrArg List.length follows.ids
  have hid (j : Nat) : (family[j]?).map TraceContext.id = (p.paths[j]?).map (address root) := by
    rw [← List.getElem?_map, follows.ids, List.getElem?_map]
  cases here : family[i]? with
  | none =>
    have hpath : p.paths[i]? = none := by
      have := hid i
      simpa [here] using this
    rw [bear, answer, here, Pedigree.call, hpath]
    exact follows
  | some c =>
    obtain ⟨path, hpath, hc⟩ : ∃ path, p.paths[i]? = some path ∧ c.id = address root path := by
      have := hid i
      rw [here, Option.map_some, eq_comm, Option.map_eq_some_iff] at this
      obtain ⟨path, hpath, hc⟩ := this
      exact ⟨path, hpath, hc.symm⟩
    have hborn := follows.born i c here
    rw [bear_eq_of_getElem? here, Pedigree.call_eq_of_getElem? hpath]
    refine ⟨?_, fun j d hd => ?_⟩
    · have hsame : (family.set i { c with born := c.born + 1 }).map TraceContext.id =
          family.map TraceContext.id := by
        rw [List.map_set]
        refine List.ext_getElem? fun j => ?_
        rw [List.getElem?_set]
        split
        · next heq =>
          obtain ⟨hi, rfl⟩ := List.getElem?_eq_some_iff.1 here
          simp [← heq, hi]
        · rfl
      rw [List.map_append, List.map_append, hsame, follows.ids, List.map_singleton,
        List.map_singleton, address_append, ← hc, hborn]
      rfl
    · rcases Pedigree.getElem?_concat_cases hd with hold | ⟨rfl, rfl⟩
      · by_cases heq : i = j
        · subst heq
          rw [List.getElem?_set_self (List.getElem?_eq_some_iff.1 here).1] at hold
          rw [← Option.some.inj hold, List.count_cons_self, ← hborn]
        · rw [List.getElem?_set_ne heq] at hold
          rw [List.count_cons_of_ne heq, follows.born j d hold]
      · -- Nobody has called the child yet.
        rw [List.length_set, hlength, eq_comm]
        refine List.count_eq_zero_of_not_mem fun hmem => ?_
        rcases List.mem_cons.1 hmem with heq | hmem
        · exact Nat.ne_of_gt (List.getElem?_eq_some_iff.1 hpath).1 heq
        · exact Nat.lt_irrefl _ (sound.made _ hmem)

/-- A family follows the pedigree of its calls. -/
lemma grow_follows (root : String) (calls : List Nat) :
    Follows root (.after calls) (grow root calls) := by
  induction calls using List.reverseRecOn with
  | nil => exact follows_founder root
  | append_singleton calls i ih =>
    rw [grow, Pedigree.after, List.foldl_append, List.foldl_append]
    exact ih.call (Pedigree.after_sound calls) i

/-- **The ids of a family are distinct.** Whatever the id of the root and whatever contexts were
called, in whatever order: the id of each context is the id of the root followed by an underscore
and a number for each child on the way, where the children of a context are numbered from one; no
two contexts have the same id; and the numbers, which are written in base ten without leading zeros,
can be read off the id if the root is known.

**Proof sketch.** The family follows its pedigree (`Workforce.Family.grow_follows`), whose paths are
distinct (`Workforce.Pedigree.after_sound`), and different paths have different ids since the path
can be read off (`Workforce.TraceContext.numbers_address`). -/
theorem ids_distinct (root : String) (calls : List Nat) :
    (grow root calls).map TraceContext.id = (Pedigree.after calls).paths.map (address root) ∧
      ((grow root calls).map TraceContext.id).Nodup ∧
      (∀ path, numbers root (address root path) = path) ∧
      ∀ path ∈ (Pedigree.after calls).paths, ∀ n ∈ path, 1 ≤ n ∧ Text.Decimal (toString n) n := by
  have hids := (grow_follows root calls).ids
  have sound := Pedigree.after_sound calls
  refine ⟨hids, ?_, numbers_address root, fun path hpath n hn =>
    ⟨sound.positive path hpath n hn, Text.decimal_toString n⟩⟩
  rw [hids]
  exact sound.nodup.map (address_injective root)

/-- A root whose id looks like that of a grandchild, and calls on it, on its child and on it
again. -/
example : (grow "a_1_2" [0, 1, 0]).map TraceContext.id =
    ["a_1_2", "a_1_2_1", "a_1_2_1_1", "a_1_2_2"] := by decide

end Family

end Workforce
