import Mathlib.Data.List.Basic
/-!
# Moves that commute

Each kind of move of a system is a partial function of its state, so that an order in which moves
are made determines the outcome. If any two moves that are enabled in one state can still be made
one after the other, with the same state in the end, then all orders that cannot be continued make
the same moves and have the same outcome.

## Main definitions

* `Workforce.Moves` — for each kind of move, what it does to a state.
* `Workforce.Moves.play?` — moves made in a given order.
* `Workforce.Moves.Stuck` — no move is enabled.
* `Workforce.Moves.Determined` — all orders that end have the same outcome.
* `Workforce.Moves.Commuting` — any two moves that are enabled can be made in either order.

## Main results

* `Workforce.Moves.Commuting.exchange` — an enabled move is made in every order that ends, and
  might as well have been made first.
* `Workforce.Moves.Commuting.determined` — where moves commute all orders that end have the same
  outcome.
-/

namespace Workforce

variable {σ κ ε : Type}

/-- For each kind of move, the state after it and what happens, if it is enabled. -/
abbrev Moves (σ κ ε : Type) : Type := σ → κ → Option (σ × List ε)

namespace Moves

/-- Moves made in the given order, each of which must be enabled in its turn. -/
def play? (perform? : Moves σ κ ε) (s : σ) : List κ → Option (σ × List ε)
  | [] => some (s, [])
  | k :: ks => (perform? s k).bind fun r => (play? perform? r.1 ks).map fun q => (q.1, r.2 ++ q.2)

/-- No move is enabled. -/
def Stuck (perform? : Moves σ κ ε) (s : σ) : Prop := ∀ k, perform? s k = none

/-- All orders that end have the same outcome: they make the same moves, end in the same state, and
the same things happen. -/
def Determined (perform? : Moves σ κ ε) (s : σ) : Prop :=
  ∀ {ks ls t u es fs}, play? perform? s ks = some (t, es) → Stuck perform? t →
    play? perform? s ls = some (u, fs) → Stuck perform? u → t = u ∧ ks.Perm ls ∧ es.Perm fs

variable {perform? : Moves σ κ ε} {s t u : σ} {es fs : List ε} {k l : κ} {ks ls : List κ}

/-- The first move, and the others after it. -/
lemma play?_cons_eq_some_iff :
    perform?.play? s (k :: ks) = some (t, es) ↔
      ∃ r fs gs, perform? s k = some (r, fs) ∧ perform?.play? r ks = some (t, gs) ∧
        es = fs ++ gs := by
  constructor
  · intro h
    obtain ⟨⟨r, fs⟩, hr, h⟩ := Option.bind_eq_some_iff.1 h
    obtain ⟨⟨q, gs⟩, hq, h⟩ := Option.map_eq_some_iff.1 h
    cases h
    exact ⟨r, fs, gs, hr, hq, rfl⟩
  · rintro ⟨r, fs, gs, hr, hq, rfl⟩
    simp [play?, hr, hq]

/-- Moves made one after the other, in two parts. -/
lemma play?_append (h : perform?.play? s ks = some (t, es))
    (h' : perform?.play? t ls = some (u, fs)) :
    perform?.play? s (ks ++ ls) = some (u, es ++ fs) := by
  induction ks generalizing s es with
  | nil =>
    cases h
    exact h'
  | cons k ks ih =>
    obtain ⟨r, gs, hs, hr, hrest, rfl⟩ := play?_cons_eq_some_iff.1 h
    rw [List.cons_append, List.append_assoc]
    exact play?_cons_eq_some_iff.2 ⟨r, gs, hs ++ fs, hr, ih hrest, rfl⟩

/-- Where every move lowers a number, so many moves can be made at most. -/
lemma length_le_of_play? {work : σ → Nat}
    (hstep : ∀ s k t es, perform? s k = some (t, es) → work t < work s)
    (h : perform?.play? s ks = some (t, es)) : ks.length + work t ≤ work s := by
  induction ks generalizing s es with
  | nil =>
    cases h
    simp
  | cons k ks ih =>
    obtain ⟨r, fs, gs, hr, hrest, -⟩ := play?_cons_eq_some_iff.1 h
    have hfirst := hstep s k r fs hr
    have hothers := ih hrest
    rw [List.length_cons]
    omega

/-- Any two moves that are enabled in a state for which `Inv` holds can be made in either order,
with the same outcome, and moves keep `Inv`. -/
structure Commuting (perform? : Moves σ κ ε) (Inv : σ → Prop) : Prop where
  keep : ∀ {s k t es}, Inv s → perform? s k = some (t, es) → Inv t
  join : ∀ {s k l t u es fs}, Inv s → k ≠ l → perform? s k = some (t, es) →
    perform? s l = some (u, fs) → ∃ v es' fs', perform? t l = some (v, fs') ∧
      perform? u k = some (v, es') ∧ (es ++ fs').Perm (fs ++ es')

namespace Commuting

variable [DecidableEq κ] {Inv : σ → Prop}

/-- **A move that is enabled is made in every order that ends**, and might as well have been made
first. By induction on the order: whatever is made before that move commutes with it. -/
theorem exchange (h : Commuting perform? Inv) (hs : Inv s)
    (order : perform?.play? s ks = some (t, es)) (ends : perform?.Stuck t)
    (move : perform? s l = some (u, fs)) :
    l ∈ ks ∧ ∃ gs, perform?.play? u (ks.erase l) = some (t, gs) ∧ es.Perm (fs ++ gs) := by
  induction ks generalizing s u es fs with
  | nil =>
    cases order
    rw [ends l] at move
    cases move
  | cons k ks ih =>
    obtain ⟨r, es₁, es₂, hr, hrest, rfl⟩ := play?_cons_eq_some_iff.1 order
    by_cases hkl : k = l
    · subst hkl
      rw [hr] at move
      cases move
      refine ⟨List.mem_cons_self, es₂, ?_, .refl _⟩
      rwa [List.erase_cons_head]
    · obtain ⟨v, es', fs', hv, hv', hperm⟩ := h.join hs hkl hr move
      obtain ⟨hmem, gs, hgs, hrestperm⟩ := ih (h.keep hs hr) hrest hv
      refine ⟨List.mem_cons_of_mem _ hmem, es' ++ gs, ?_, ?_⟩
      · rw [List.erase_cons_tail (by simpa using hkl)]
        exact play?_cons_eq_some_iff.2 ⟨v, es', gs, hv', hgs, rfl⟩
      · calc (es₁ ++ es₂).Perm (es₁ ++ (fs' ++ gs)) := hrestperm.append_left _
          _ = (es₁ ++ fs') ++ gs := (List.append_assoc ..).symm
          List.Perm _ ((fs ++ es') ++ gs) := hperm.append_right _
          _ = fs ++ (es' ++ gs) := List.append_assoc ..

/-- **All orders that end have the same outcome.** By induction on one of the orders: its first move
is made in the other one, and might as well have been made first there. -/
theorem determined (h : Commuting perform? Inv) (hs : Inv s) : Determined perform? s := by
  intro ks ls t u es fs order ends order' ends'
  induction ls generalizing s ks es fs with
  | nil =>
    cases order'
    cases ks with
    | nil =>
      cases order
      exact ⟨rfl, .refl _, .refl _⟩
    | cons k ks =>
      obtain ⟨r, es₁, es₂, hr, -⟩ := play?_cons_eq_some_iff.1 order
      rw [ends' k] at hr
      cases hr
  | cons l ls ih =>
    obtain ⟨r, fs₁, fs₂, hr, hrest, rfl⟩ := play?_cons_eq_some_iff.1 order'
    obtain ⟨hmem, gs, hgs, hperm⟩ := h.exchange hs order ends hr
    obtain ⟨rfl, hmoves, hevents⟩ := ih (h.keep hs hr) hgs hrest
    refine ⟨rfl, ?_, hperm.trans (hevents.append_left _)⟩
    exact (List.perm_cons_erase hmem).trans (hmoves.cons l)

end Commuting

end Moves

end Workforce
