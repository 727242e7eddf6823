import Workforce.Proofs.Scene.Spare
import Workforce.Proofs.SubmitterError
/-!
# Unserved calls leave no trace

A submission that is refused, or a call for an output or for a task to be run that is given up while
it waits, makes no difference to anything else, with one exception: the discard of a frail task
panics only once in a scene. Let commands that do nothing stand in for the call and for giving it
up. Then the same happens at the same times, but for the refusal of the call and the discard of its
task, and after every command pools and batches are as they are with the call. Only if the first
frail task that is discarded is the call's, and another one is discarded, is somebody else told of a
panic who is not with the call, and can a pool report another count of workers.

## Main definitions

* `Workforce.Command.concerns`, `Workforce.forgo` — the commands that make a call or give it up,
  and commands without those.
* `Workforce.apart`, `Workforce.Scene.without` — what happens, and the scene, without the call.
* `Workforce.Scene.Untouched`, `Scene.Undisturbed` — the call makes no difference at all, or none
  but in who is told of a panic.

## Main results

* `Workforce.Scene.Spared.perform` — one command in two scenes, in the second of which it does
  nothing if it concerns the call.
* `Workforce.Scene.unserved_call_leaves_no_trace` — the same happens with the call and without it.
* `Workforce.Scene.refused_frail_task_leaves_trace` — the exception, by example.

## Implementation notes

The handle of the pool must not be given up while the call is pending: the call keeps the pool from
being deserted.
-/

namespace Workforce

open Occurrence Trail History

variable {α : Type} {c n : Nat}

/-! ## Commands without a call -/

namespace Command

/-- The command calls for a task to be run, or for the next output. -/
def asks : Command α → Bool
  | submit _ _ | next _ => true
  | _ => false

/-- The command of that number makes the call, or gives it up. -/
def concerns (c n : Nat) : Command α → Bool
  | abandon call => n == c || call == c
  | _ => n == c

/-- A command that does nothing stands in for one that concerns the call. -/
def spared (c n : Nat) (x : Command α) : Command α := if x.concerns c n then askParent else x

/-- A command that does not make the call has another number. -/
lemma ne_of_concerns {x : Command α} (h : x.concerns c n = false) : n ≠ c := by
  rintro rfl
  cases x <;> simp [concerns] at h

end Command

/-- Commands that do nothing stand in for those that concern the call. -/
def forgo (c : Nat) (cs : List (Command α)) : List (Command α) :=
  cs.mapIdx fun n x => x.spared c n

/-- They do so in each place. -/
lemma getElem?_forgo (cs : List (Command α)) (n : Nat) :
    (forgo c cs)[n]? = cs[n]?.map (·.spared c n) :=
  List.getElem?_mapIdx

/-- Their tasks carry the numbers of the commands. -/
lemma allNamed_forgo {cs : List (Command α)} (named : Command.AllNamed cs) :
    Command.AllNamed (forgo c cs) := by
  intro n x hx
  rw [getElem?_forgo] at hx
  obtain ⟨y, hy, rfl⟩ := Option.map_eq_some_iff.1 hx
  unfold Command.spared
  split
  · trivial
  · exact named n y hy

/-- So do the tasks of the first ones. -/
lemma allNamed_take {cs : List (Command α)} (named : Command.AllNamed cs) (k : Nat) :
    Command.AllNamed (cs.take k) := fun n x hx => named n x (by
  rw [List.getElem?_take] at hx
  split at hx
  · exact hx
  · cases hx)

/-! ## What happens without the call -/

/-- What happens that is not about the call, phase by phase. -/
def apart (c : Nat) (ps : List (Phase α)) : List (Phase α) :=
  ps.map fun p => ⟨p.time, others c p.entries⟩

@[simp] lemma timeline_append (ps qs : List (Phase α)) :
    timeline (ps ++ qs) = timeline ps ++ timeline qs :=
  List.flatMap_append

@[simp] lemma apart_append (ps qs : List (Phase α)) :
    apart c (ps ++ qs) = apart c ps ++ apart c qs :=
  List.map_append

/-- It is a matter of each entry. -/
lemma timeline_apart (ps : List (Phase α)) :
    timeline (apart c ps) = (timeline ps).filter (!·.2.2.belongs c) := by
  induction ps with
  | nil => rfl
  | cons p ps ih =>
    rw [apart, List.map_cons, ← apart, timeline_cons, timeline_cons, List.filter_append, ih,
      List.filter_map]
    rfl

/-- What happens in accord without the call. -/
lemma timeline_of_runs {brittle₀ : Bool} {past : List (Entry α)} {r r' : Scene α × List (Phase α)}
    (h : (spare c brittle₀).Runs past r r') : timeline r'.2 = timeline (apart c r.2) := by
  obtain ⟨-, hphases⟩ := h
  generalize r.2 = ps, r'.2 = qs at hphases ⊢
  induction hphases with
  | nil => rfl
  | @cons p q ps qs head _ ih =>
    obtain ⟨htime, hentries⟩ := head
    rw [apart, List.map_cons, ← apart, timeline_cons, timeline_cons, ih, htime, hentries]

namespace Scene

variable {brittle₀ : Bool} {past : List (Entry α)} {s u : Scene α}
  {r r' : Scene α × List (Phase α)} {x : Command α} {cs : List (Command α)}

/-! ## The call itself -/

/-- What the call does at once and what follows, if nothing is done without it. -/
lemma act_spare {r : Scene α × List (Entry α)} (h : (spare c brittle₀).Acts past r (u, []))
    (hu : u.Paused) (good : (spare c brittle₀).good (past ++ allEntries (act r).2)) :
    (spare c brittle₀).Scenes (past ++ allEntries (act r).2) (act r).1 u ∧
      timeline (apart c (act r).2) = [] := by
  have hact := h.act lawful_spare good
  rw [hu.act_eq] at hact
  exact ⟨hact.scenes, (timeline_of_runs hact).symm⟩

/-- **The call is made** on a pool, and nothing is done without it. -/
lemma onPool_spare (h : (spare c brittle₀).Scenes past s u) (hu : u.Paused) {i : Nat}
    {x : Pool.Turn α} (own : ∀ p : Pool α, p.Spares c → p.held = true → ∀ m,
      (x.act m p).1.Spares c ∧ (x.act m p).1.dismiss c = p.dismiss c ∧
        ∀ e ∈ (x.act m p).2, e.belongs c = true)
    (good : (spare c brittle₀).good (past ++ allEntries (s.onPool i fun m p => x.act m p).2.2)) :
    (spare c brittle₀).Scenes (past ++ allEntries (s.onPool i fun m p => x.act m p).2.2)
        (s.onPool i fun m p => x.act m p).2.1 u ∧
      timeline (apart c (s.onPool i fun m p => x.act m p).2.2) = [] := by
  cases hp : s.pool? i with
  | none =>
    simp only [onPool, hp, allEntries_nil, List.append_nil]
    exact ⟨h, rfl⟩
  | some p =>
    obtain ⟨hget, held⟩ := Option.filter_eq_some_iff.1 hp
    obtain ⟨q, hq, hpq⟩ := h.pools.exists_of_getElem? hget
    obtain ⟨hafter, hsame, hes⟩ := own p hpq.2 held s.moment
    simp only [onPool, hp] at good ⊢
    refine act_spare ?_ hu good
    simp only [atPool, hget]
    have hnone := Event.filter_eq_nil hes
    have hpools : u.pools.set i q = u.pools := by
      obtain ⟨hlt, rfl⟩ := List.getElem?_eq_some_iff.1 hq
      exact List.set_getElem_self hlt
    have hside := h.pools.set (i := i) (x := (x.act s.moment p).1) (y := q)
      ⟨hpq.1.trans hsame.symm, hafter⟩
    rw [hpools] at hside
    have hflags := spare_flags (.pool i) (x.act s.moment p).2 h.flags
    rw [hnone] at hflags
    refine ⟨⟨h.now, h.parent, hside, h.batches, ?_⟩, ?_⟩
    · simpa only [Scene.after, Accord.any_map_frail, noisy, List.any_nil, Bool.not_false,
        Bool.and_true] using hflags
    · exact ((others_map _ _).trans (by rw [hnone]; rfl)).symm

/-- **The call is given up**, and nothing is done without it. -/
lemma abandon_spare (h : (spare c brittle₀).Scenes past s u)
    (good : (spare c brittle₀).good (past ++ (s.abandon c).2)) :
    (spare c brittle₀).Acts past (s.abandon c) (u, []) := by
  have hpool : (spare c brittle₀ : Accord α).Keeps (spare c brittle₀).pool .pool
      (fun _ => Pool.withdraw c) fun _ p => (p, []) := by
    rintro i past now brittle brittle' p _ ⟨rfl, hp⟩ flags -
    obtain ⟨hafter, hsame, hes⟩ := hp.withdraw_own
    exact spare_goes ⟨hsame.symm, hafter⟩ (Event.filter_eq_nil hes).symm flags
  have hbatch : (spare c brittle₀ : Accord α).Keeps (spare c brittle₀).batch .batch
      (fun _ => Accord.giveUp c) fun _ b => (b, []) := by
    rintro i past now brittle brittle' _ b ⟨rfl, hb⟩ flags -
    simp only [hb.giveUp_eq_self]
    exact spare_goes ⟨rfl, hb⟩ rfl flags
  have hboth := h.everywhere lawful_spare hpool hbatch good
  rwa [everywhere_eq_self (s := u) (fun _ _ _ => rfl) fun _ _ _ => rfl] at hboth

/-! ## One command in both scenes -/

/-- What comes of commands with the call and without it. -/
structure Spared (c : Nat) (brittle₀ : Bool) (r r' : Scene α × List (Phase α)) : Prop where
  scenes : (spare c brittle₀).Scenes (allEntries r.2) r.1 r'.1
  timeline : timeline r'.2 = timeline (apart c r.2)

/-- **A command that concerns the call**, and nothing in the second scene. -/
lemma perform_own (h : (spare c brittle₀).Scenes past s u) (hu : u.Paused) (named : x.Named n)
    (asks : n = c → x.asks = true) (own : x.concerns c n = true)
    (good : (spare c brittle₀).good (past ++ allEntries (s.perform n x).2.2)) :
    (spare c brittle₀).Scenes (past ++ allEntries (s.perform n x).2.2) (s.perform n x).2.1 u ∧
      timeline (apart c (s.perform n x).2.2) = [] := by
  by_cases hn : n = c
  · subst hn
    have hasks := asks rfl
    cases x with
    | submit i task =>
      have hid : task.id.call = n := by rw [(named : task.id = ⟨n, none⟩)]
      have hvisit : (Command.submit i task).visit? n = some (i, .submit n task) := rfl
      rw [perform_of_visit hvisit] at good ⊢
      refine onPool_spare h hu (fun p hp held m => ?_) good
      rw [Pool.Turn.act_submit]
      exact hp.submit_own held hid m
    | next i =>
      have hvisit : (Command.next i : Command α).visit? n = some (i, .next n) := rfl
      rw [perform_of_visit hvisit] at good ⊢
      refine onPool_spare h hu (fun p hp held m => ?_) good
      obtain ⟨hafter, hsame⟩ := hp.receive_own held
      exact ⟨hafter, hsame, fun e he => absurd he List.not_mem_nil⟩
    | _ => cases hasks
  · cases x with
    | abandon call =>
      obtain rfl : call = c := by simpa [Command.concerns, hn] using own
      by_cases hcall : call ∈ s.pendingCalls
      · simp only [perform, List.contains_eq_mem, hcall, decide_true, if_true] at good ⊢
        exact act_spare (abandon_spare h (lawful_spare.good_of_act good)) hu good
      · simp only [perform, List.contains_eq_mem, hcall, decide_false, Bool.false_eq_true,
          if_false, allEntries_nil, List.append_nil]
        exact ⟨h, rfl⟩
    | _ => exact absurd (by simpa [Command.concerns] using own) hn

/-- What another command does to a pool may be done to it without the call, unless it gives up the
handle. -/
lemma keepsAt_of_visit {i : Nat} {p : Pool α} {y : Pool.Turn α} (named : x.Named n) (hn : n ≠ c)
    (hvisit : x.visit? n = some (i, y))
    (kept : x = .drop i →
      c ∉ p.submitting.filterMap (·.caller) ++ p.receiving.filterMap (·.caller)) :
    (spare c brittle₀).KeepsAt i p y := by
  have keeps : y.Spares c → (spare c brittle₀).KeepsAt i p y := fun hy =>
    keepsAt_spare fun hp m => hp.act hy m
  cases x with
  | submit j task =>
    cases hvisit
    have hid : task.id.call = n := by rw [(named : task.id = ⟨n, none⟩)]
    exact keeps ⟨hn, hid ▸ hn⟩
  | next j =>
    cases hvisit
    exact keeps hn
  | shutdown j =>
    cases hvisit
    exact keeps hn
  | close j =>
    cases hvisit
    exact keeps trivial
  | cancel j =>
    cases hvisit
    exact keeps trivial
  | drop j =>
    cases hvisit
    exact keepsAt_drop_spare (kept rfl)
  | _ => cases hvisit

/-- **The next command in both scenes.** In the second one it does nothing if it concerns the
call. -/
theorem Spared.perform (h : Spared c brittle₀ r r') (hr' : r'.1.Paused) (named : x.Named n)
    (asks : n = c → x.asks = true)
    (kept : ∀ i p, x = .drop i → r.1.pools[i]? = some p →
      c ∉ p.submitting.filterMap (·.caller) ++ p.receiving.filterMap (·.caller))
    (good : (spare c brittle₀).good (allEntries r.2 ++ allEntries (r.1.perform n x).2.2)) :
    Spared c brittle₀ ((r.1.perform n x).2.1, r.2 ++ (r.1.perform n x).2.2)
      ((r'.1.perform n (x.spared c n)).2.1, r'.2 ++ (r'.1.perform n (x.spared c n)).2.2) := by
  cases own : x.concerns c n with
  | true =>
    have hstill : x.spared c n = .askParent := if_pos own
    obtain ⟨hscenes, htimeline⟩ := perform_own h.scenes hr' named asks own good
    rw [hstill]
    refine ⟨?_, ?_⟩
    · rw [allEntries_append]
      exact hscenes
    · rw [apart_append, timeline_append, timeline_append, htimeline, h.timeline]
      rfl
  | false =>
    have hsame : x.spared c n = x := by simp [Command.spared, own]
    have hn := Command.ne_of_concerns own
    have hspared : ∀ call, x = .abandon call → call ≠ c := by
      rintro call rfl
      simpa [Command.concerns, hn] using own
    have hbegins : ∀ size tasks admission, x = .batch size tasks admission →
        (spare c brittle₀).Begins n tasks := by
      rintro size tasks admission rfl
      refine begins_spare hn fun t ht => ?_
      obtain ⟨j, hj⟩ := List.mem_iff_getElem?.1 ht
      rw [named j t hj]
    have hruns := h.scenes.perform lawful_spare n x
      (fun i y hvisit p hp => keepsAt_of_visit named hn hvisit fun hdrop => kept i p hdrop hp)
      hbegins hspared good
    rw [hsame]
    refine ⟨?_, ?_⟩
    · rw [allEntries_append]
      exact hruns.scenes
    · rw [apart_append, timeline_append, timeline_append, timeline_of_runs hruns, h.timeline]

/-! ## Runs -/

/-- What the first of some commands reach, and the next one. -/
lemma reach_take_succ {call k : Nat} (hx : cs[k]? = some x) :
    s.reach call (cs.take (k + 1)) =
      (((s.reach call (cs.take k)).1.perform (call + k) x).2.1, (s.reach call (cs.take k)).2 ++
        ((s.reach call (cs.take k)).1.perform (call + k) x).2.2) := by
  obtain ⟨hlt, rfl⟩ := List.getElem?_eq_some_iff.1 hx
  have hlength : (cs.take k).length = k := List.length_take_of_le (Nat.le_of_lt hlt)
  rw [List.take_succ_eq_append_getElem hlt, reach_append, hlength]
  simp [reach]

/-- Nothing happens any more after some commands. -/
lemma paused_reach {call : Nat} (hs : s.Paused) (cs : List (Command α)) :
    (s.reach call cs).1.Paused := by
  induction cs generalizing s call with
  | nil => exact hs
  | cons x cs ih => exact ih (hs.perform call x)

/-- **Commands with the call and without it.** -/
theorem spared_reach (named : Command.AllNamed cs)
    (asks : ∀ x, cs[c]? = some x → x.asks = true)
    (kept : ∀ k i p, cs[k]? = some (.drop i) →
      (reach 0 { brittle := brittle₀ } (cs.take k)).1.pools[i]? = some p →
        c ∉ p.submitting.filterMap (·.caller) ++ p.receiving.filterMap (·.caller)) (k : Nat)
    (good : (spare c brittle₀).good
      (allEntries (reach 0 { brittle := brittle₀ } (cs.take k)).2)) :
    Spared c brittle₀ (reach 0 { brittle := brittle₀ } (cs.take k))
      (reach 0 { brittle := brittle₀ } ((forgo c cs).take k)) := by
  induction k with
  | zero => exact ⟨⟨rfl, rfl, .nil 0, .nil 0, (Bool.and_true _).symm, (Bool.and_true _).symm⟩, rfl⟩
  | succ k ih =>
    cases hx : cs[k]? with
    | none =>
      have hlength := List.getElem?_eq_none_iff.1 hx
      have hlength' : (forgo c cs).length ≤ k := by simpa [forgo] using hlength
      rw [List.take_of_length_le (Nat.le_succ_of_le hlength)] at good ⊢
      rw [List.take_of_length_le (Nat.le_succ_of_le hlength')]
      rw [List.take_of_length_le hlength, List.take_of_length_le hlength'] at ih
      exact ih good
    | some x =>
      have hx' : (forgo c cs)[k]? = some (x.spared c k) := by rw [getElem?_forgo, hx]; rfl
      have hpaused : ({ brittle := brittle₀ } : Scene α).Paused := ⟨⟨by simp, by simp⟩, rfl⟩
      rw [reach_take_succ hx, allEntries_append, Nat.zero_add] at good
      rw [reach_take_succ hx, reach_take_succ hx', Nat.zero_add]
      refine (ih (lawful_spare.good_of_append good)).perform (paused_reach hpaused _) (named k x hx)
        ?_ ?_ good
      · rintro rfl
        exact asks x hx
      · rintro i p rfl hp
        exact kept k i p hx hp

/-- A scene without the call. -/
def without (c : Nat) (s : Scene α) : Scene α := { s with pools := s.pools.map (·.dismiss c) }

/-- The call makes no difference at all: what comes of commands with it and without it. -/
structure Untouched (c : Nat) (r r' : Scene α × List (Phase α)) : Prop where
  /-- The same happens at the same times, apart from what is about the call. -/
  timeline : timeline r'.2 = timeline (apart c r.2)
  /-- Pools and batches are as they are with the call, which does not wait on any pool. -/
  scene : r'.1 = { r.1.without c with brittle := r'.1.brittle }

/-- Nothing differs in the second scene but that the call does not wait there. -/
lemma Spared.untouched (h : Spared c brittle₀ r r') : Untouched c r r' where
  timeline := h.timeline
  scene := by
    have hpools := h.scenes.pools.map_eq (f := Pool.dismiss c) (g := id) fun _ _ _ hpq => hpq.1
    have hbatches := h.scenes.batches.map_eq (f := id) (g := id) fun _ _ _ hbc => hbc.1
    rw [List.map_id] at hpools
    rw [List.map_id, List.map_id] at hbatches
    obtain ⟨hnow, hparent, -, -, -⟩ := h.scenes
    generalize r'.1 = u at hpools hbatches hnow hparent ⊢
    cases u
    cases hpools
    cases hbatches
    cases hnow
    cases hparent
    rfl

/-- **A command that does not concern the call returns the same at once.** -/
lemma Spared.reply_eq (h : Spared c brittle₀ r r') (own : x.concerns c n = false) :
    (r'.1.perform n x).1 = (r.1.perform n x).1 := by
  have hpool : ∀ i, r'.1.pool? i = (r.1.pool? i).map (·.dismiss c) := fun i => by
    rw [h.untouched.scene]
    simp only [pool?, without, List.getElem?_map]
    cases r.1.pools[i]? with
    | none => rfl
    | some p => cases hheld : p.held <;> simp [Option.filter, hheld, Pool.dismiss, Pool.withdraw]
  have hvisit : ∀ (i : Nat) (f : Moment → Pool α → Pool α × List (Event α)),
      (r'.1.onPool i f).1 = (r.1.onPool i f).1 := fun i f => by
    rw [onPool, onPool, hpool]
    cases r.1.pool? i <;> rfl
  cases x with
  | newPool size child =>
    rcases Nat.eq_zero_or_pos size with rfl | hn
    · rfl
    · have hindex : ∀ t : Scene α, (t.perform n (.newPool size child)).1 =
          .index t.pools.length := fun t => by
        simp [Scene.perform, newPool, Pool.make, Nat.ne_of_gt hn]
      rw [hindex, hindex, h.scenes.pools.length_eq]
  | askParent => exact congrArg Reply.flag h.scenes.parent
  | describe i =>
    simp only [Scene.perform, hpool]
    cases r.1.pool? i <;> rfl
  | abandon call =>
    have hcall : call ≠ c := by
      have hnot : n ≠ c := Command.ne_of_concerns own
      simpa [Command.concerns, hnot] using own
    have hpending : call ∈ r'.1.pendingCalls ↔ call ∈ r.1.pendingCalls :=
      h.scenes.pendingCalls lawful_spare hcall
    by_cases hmem : call ∈ r.1.pendingCalls <;>
      simp only [Scene.perform, List.contains_eq_mem, hmem, hpending, decide_true, decide_false,
        Bool.false_eq_true, if_true, if_false]
  | release name =>
    simp only [Scene.perform, h.scenes.runs_eq lawful_spare]
    cases r.1.runs.find? (·.task.id.text == name) <;> rfl
  | submit i task => exact hvisit i _
  | next i => exact hvisit i _
  | shutdown i => exact hvisit i _
  | close i => exact hvisit i _
  | cancel i => exact hvisit i _
  | drop i => exact hvisit i _
  | _ => rfl

end Scene

/-! ## If no discard panicked -/

/-- What a call is told when no discard panics, instead of what tells it of a panic. -/
inductive Answer.Calms : Answer α → Answer α → Prop
  | same (answer : Answer α) : Calms answer answer
  | refused : Calms panicked (submitted false)
  | unbegun : Calms panicked (batch (.error (.invalidSize 0)))
  | answered (values : List α) : Calms (batch (.error .discardPanic)) (batch (.ok values))

/-- The same call is told that, at the same time and place. -/
structure Told (x y : Nat × Place × Nat × Answer α) : Prop where
  time : y.1 = x.1
  place : y.2.1 = x.2.1
  call : y.2.2.1 = x.2.2.1
  answer : x.2.2.2.Calms y.2.2.2

namespace Event.Hushes

variable {told : Nat → Prop} {e f : Event α}

/-- What is about the call is about it also if no discard panics. -/
lemma belongs_eq (h : Hushes told e f) : f.belongs c = e.belongs c := by cases h <;> rfl

/-- The call gets what it waits for, or does not get it. -/
lemma serves_eq (h : Hushes told e f) : f.serves c = e.serves c := by cases h <;> rfl

/-- The same call is answered. -/
lemma answer_rel (h : Hushes told e f) :
    Option.Rel (fun x y : Nat × Answer α => y.1 = x.1 ∧ x.2.Calms y.2) e.answer? f.answer? := by
  cases h with
  | same e calm =>
    cases e.answer? with
    | none => exact .none
    | some x => exact .some ⟨rfl, .same x.2⟩
  | refused caller panicked who =>
    cases caller with
    | none => exact .none
    | some call =>
      cases panicked with
      | false => exact .some ⟨rfl, .same _⟩
      | true => exact .some ⟨rfl, .refused⟩
  | stopped => exact .none
  | answered call values => exact .some ⟨rfl, .answered values⟩
  | unbegun call who => exact .some ⟨rfl, .unbegun⟩

end Event.Hushes

/-- All that is told in two runs, in the second of which no discard panics. -/
abbrev Panicless (ps qs : List (Phase α)) : Prop :=
  List.Forall₂ (fun x y => y.1 = x.1 ∧ Entry.Hushes (fun _ => true) (fun _ => True) x.2 y.2)
    ((timeline ps).filter (Entry.lasting (fun _ => true) ·.2))
    ((timeline qs).filter (Entry.lasting (fun _ => true) ·.2))

namespace Panicless

variable {ps qs : List (Phase α)}

/-- The same is true apart from what is about the call. -/
lemma apart (h : Panicless ps qs) (c : Nat) : Panicless (apart c ps) (apart c qs) := by
  have hsplit : ∀ rs : List (Phase α), (timeline (Workforce.apart c rs)).filter
      (Entry.lasting (fun _ => true) ·.2) = ((timeline rs).filter
        (Entry.lasting (fun _ => true) ·.2)).filter (!·.2.2.belongs c) := fun rs => by
    rw [timeline_apart, List.filter_filter, List.filter_filter]
    simp only [Bool.and_comm]
  rw [Panicless, hsplit, hsplit]
  refine List.rel_filter ?_ h
  rintro ⟨_, _, e⟩ ⟨_, _, f⟩ ⟨-, -, hushes⟩
  have hbelongs : f.belongs c = e.belongs c := Event.Hushes.belongs_eq hushes
  simp [hbelongs]

/-- The same calls are told the same, but for who is told of a panic. -/
lemma told (h : Panicless ps qs) : List.Forall₂ Told (answers ps) (answers qs) := by
  rw [answers, answers, ← filterMap_timeline_lasting (fun _ => true) ps _ fun x hx => by
    rw [(Event.quiet_of_not_lasting hx).2]; rfl, ← filterMap_timeline_lasting (fun _ => true) qs _
    fun x hx => by rw [(Event.quiet_of_not_lasting hx).2]; rfl]
  refine List.rel_filterMap ?_ h
  rintro ⟨time, place, e⟩ ⟨_, _, f⟩ ⟨rfl, rfl, hushes⟩
  have hanswer := Event.Hushes.answer_rel hushes
  dsimp only at hanswer ⊢
  generalize e.answer? = x, f.answer? = y at hanswer ⊢
  cases hanswer with
  | none => exact .none
  | some h => exact .some ⟨rfl, rfl, h.1, h.2⟩

/-- The call is not served if it is not with panics. -/
lemma unserved (h : Panicless ps qs) (hps : ∀ x ∈ allEntries ps, x.2.serves c = false) :
    ∀ x ∈ allEntries qs, x.2.serves c = false := by
  have hpairs : List.Forall₂ (fun y x : Nat × Entry α => y.2.2.serves c = false ∧ True)
      ((timeline qs).filter (Entry.lasting (fun _ => true) ·.2))
      ((timeline ps).filter (Entry.lasting (fun _ => true) ·.2)) := by
    refine (List.Forall₂.flip ((List.forall₂_and_left _ _).2 ⟨?_, h⟩)).imp
      (R := fun y x => x.2.2.serves c = false ∧ y.1 = x.1 ∧
        Entry.Hushes (fun _ => true) (fun _ => True) x.2 y.2) ?_
    · intro x hx
      refine hps x.2 ?_
      rw [← map_snd_timeline]
      exact List.mem_map_of_mem (List.mem_of_mem_filter hx)
    · rintro ⟨_, _, f⟩ ⟨_, _, e⟩ ⟨hunserved, -, -, hushes⟩
      exact ⟨(Event.Hushes.serves_eq hushes).trans hunserved, trivial⟩
  intro x hx
  rw [← map_snd_timeline] at hx
  obtain ⟨y, hy, rfl⟩ := List.mem_map.1 hx
  cases hlasting : y.2.2.lasting with
  | false =>
    -- notes on how a batch went tell no call anything
    generalize y.2.2 = e at hlasting
    cases e <;> first | rfl | cases hlasting
  | true =>
    refine ((List.forall₂_and_left _ _).1 hpairs).1 y (List.mem_filter.2 ⟨hy, ?_⟩)
    simpa [Entry.lasting] using hlasting

end Panicless

namespace Scene

variable {s u : Scene α} {past : List (Entry α)} {x : Command α} {cs : List (Command α)}

/-- Scenes that are the same but for panics are the same if no discard has panicked. -/
lemma gentle_eq_of_hush {told : Nat → Prop} (h : (hush (fun _ => true) told).Scenes past s u) :
    u.gentle = s.gentle := by
  have hpools := h.pools.map_eq (f := Pool.gentle) (g := Pool.gentle) fun _ _ _ hpq => hpq
  have hbatches := h.batches.map_eq (f := Batch.gentle) (g := Batch.gentle)
    fun _ _ _ hbc => hbc.gentle
  rw [gentle, gentle, h.now, h.parent, hpools, hbatches]

/-- The call may be left out before or after. -/
lemma gentle_without (s : Scene α) : (s.without c).gentle = s.gentle.without c := by
  simp only [gentle, without, List.map_map]
  rfl

/-- **The same commands in a scene in which no discard panics.** -/
lemma panicless_reach (named : Command.AllNamed cs) :
    (hush (fun _ => true) fun _ => True).Runs [] (reach 0 {} cs)
      (reach 0 { brittle := false } cs) :=
  hushed_reach (fun _ _ _ => trivial) cs 0 (fun k x hx => (Nat.zero_add k).symm ▸ named k x hx)
    (hushed_initial _ _) fun _ _ _ => ⟨rfl, trivial⟩

/-- The calls of a scene have been made by the commands so far. -/
lemma recorded_take {k : Nat} (hk : k ≤ cs.length) :
    (reach 0 {} (cs.take k)).1.Recorded cs k := by
  induction k with
  | zero => exact .initial cs
  | succ k ih =>
    have hx : cs[k]? = some cs[k] := List.getElem?_eq_getElem hk
    rw [reach_take_succ hx, Nat.zero_add]
    exact (ih (Nat.le_of_succ_le hk)).perform hx (paused_reach .initial _).idle

/-- The call does not wait on a pool when its handle is given up: a call that waits there has been
made there. -/
lemma not_waiting_of_kept (hc : cs[c]? = some x)
    (kept : ∀ k i, cs[k]? = some (.drop i) → x.callsOn i = true →
      c ∉ (reach 0 {} (cs.take k)).1.pendingCalls) :
    ∀ k i p, cs[k]? = some (.drop i) → (reach 0 {} (cs.take k)).1.pools[i]? = some p →
      c ∉ p.submitting.filterMap (·.caller) ++ p.receiving.filterMap (·.caller) := by
  intro k i p hdrop hp hwaits
  have hk : k ≤ cs.length := Nat.le_of_lt (List.getElem?_eq_some_iff.1 hdrop).1
  obtain ⟨y, hy, hcalls⟩ := (recorded_take hk).exists_call hp hwaits
  cases hc.symm.trans hy
  refine kept k i hdrop hcalls (List.mem_append_left _ ?_)
  exact List.mem_flatMap.2 ⟨p, List.mem_of_getElem? hp, hwaits⟩

/-- Nor does it if no discard panics. -/
lemma not_waiting_of_panicless (named : Command.AllNamed cs)
    (kept : ∀ k i p, cs[k]? = some (.drop i) → (reach 0 {} (cs.take k)).1.pools[i]? = some p →
      c ∉ p.submitting.filterMap (·.caller) ++ p.receiving.filterMap (·.caller)) :
    ∀ k i p, cs[k]? = some (.drop i) →
      (reach 0 { brittle := false } (cs.take k)).1.pools[i]? = some p →
        c ∉ p.submitting.filterMap (·.caller) ++ p.receiving.filterMap (·.caller) := by
  intro k i q hdrop hq
  have hscenes := (panicless_reach (allNamed_take named k)).scenes
  cases hp : (reach 0 {} (cs.take k)).1.pools[i]? with
  | none =>
    have hlength := List.getElem?_eq_none_iff.1 hp
    rw [← hscenes.pools.length_eq] at hlength
    cases hq.symm.trans (List.getElem?_eq_none_iff.2 hlength)
  | some p =>
    obtain ⟨q', hq', hpq⟩ := hscenes.pools.exists_of_getElem? hp
    cases hq.symm.trans hq'
    obtain ⟨-, -, hsubmitting, hreceiving⟩ := Pool.Softer.view hpq
    rw [hsubmitting, hreceiving]
    exact kept k i p hdrop hp

/-- What has happened after some commands happens in all. -/
lemma mem_of_take {k : Nat} {e : Entry α} (he : e ∈ allEntries (reach 0 {} (cs.take k)).2) :
    e ∈ allEntries (reach 0 {} cs).2 := by
  rw [congrArg (reach 0 {}) (List.take_append_drop k cs).symm, reach_append, allEntries_append]
  exact List.mem_append_left _ he

/-- A call that is told of no success is not served. -/
lemma serves_eq_false (unserved : ∀ time place answer, (time, place, c, answer) ∈
      answers (reach 0 {} cs).2 → answer = .submitted false ∨ answer = .panicked)
    {e : Entry α} (he : e ∈ allEntries (reach 0 {} cs).2) : e.2.serves c = false := by
  rw [← map_snd_timeline] at he
  obtain ⟨⟨time, place, e⟩, hmem, rfl⟩ := List.mem_map.1 he
  have told : ∀ answer, e.answer? = some (c, answer) →
      answer = .submitted false ∨ answer = .panicked := fun answer hanswer =>
    unserved time place answer (mem_answers.2 ⟨e, hmem, hanswer⟩)
  by_contra hserves
  cases e with
  | admitted caller task =>
    obtain rfl : caller = some c := by simpa [Event.serves] using hserves
    simpa using told (.submitted true) rfl
  | received caller drains output =>
    obtain ⟨rfl, rfl⟩ : caller = some c ∧ drains = false := by simpa [Event.serves] using hserves
    simpa using told (.received output) rfl
  | toldClosed caller drains =>
    obtain rfl : caller = some c := by simpa [Event.serves] using hserves
    cases drains with
    | true => simpa using told .terminated rfl
    | false => simpa using told .closed rfl
  | _ => exact hserves rfl

/-- The call makes no difference but in who is told of a panic: what comes of commands with it (`r`)
and without it (`r'`), and without it if no discard panics (`q`). -/
structure Undisturbed (c : Nat) (r r' q : Scene α × List (Phase α)) : Prop where
  /-- The same tasks start, end and are discarded at the same times. -/
  fates : fates r'.2 = fates (apart c r.2)
  /-- The same calls are told the same but for a panic. -/
  told : List.Forall₂ Told (answers (apart c r.2)) (answers q.2)
  told' : List.Forall₂ Told (answers r'.2) (answers q.2)
  /-- Pools and batches are as they are with the call, but for what they remember of panics: the
  count of the workers, and a submitter that has panicked. -/
  scene : r'.1.gentle = (r.1.without c).gentle

/-- **Unserved calls leave no trace.** If a call for a task to be run or for an output is not
served, it makes no difference to anything else, unless the first frail task that is discarded is
the call's, and another one is discarded; and even then nothing differs but who is told of a panic
and the count of the workers that pools report.

**Proof sketch.** The two scenes are looked at side by side. In the first one the call waits in a
line of a pool, where it could hold back only those behind it. But the first in a line is decided on
as soon as anybody could be, and all that can be decided on the call is its refusal, which leaves
the place to the next one. Nor does a submission that waits keep a worker from exiting: when the
pool is closed it is refused first. If a frail task is discarded that is not the call's, then
discards panic in both scenes or in none, up to the exception. In any case both scenes are compared
with ones in which no discard panics, where there is no exception. -/
theorem unserved_call_leaves_no_trace (named : Command.AllNamed cs) (hc : cs[c]? = some x)
    (asks : x.asks = true)
    (unserved : ∀ time place answer, (time, place, c, answer) ∈ answers (reach 0 {} cs).2 →
      answer = .submitted false ∨ answer = .panicked)
    (kept : ∀ k i, cs[k]? = some (.drop i) → x.callsOn i = true →
      c ∉ (reach 0 {} (cs.take k)).1.pendingCalls) (k : Nat) :
    Undisturbed c (reach 0 {} (cs.take k)) (reach 0 {} ((forgo c cs).take k))
        (reach 0 { brittle := false } ((forgo c cs).take k)) ∧
      (shields c (allEntries (reach 0 {} (cs.take k)).2) = false →
        Untouched c (reach 0 {} (cs.take k)) (reach 0 {} ((forgo c cs).take k)) ∧
          ∀ y, cs[k]? = some y → y.concerns c k = false →
            ((reach 0 {} ((forgo c cs).take k)).1.perform k y).1 =
              ((reach 0 {} (cs.take k)).1.perform k y).1) := by
  have hasks : ∀ y, cs[c]? = some y → y.asks = true := fun y hy => by
    cases hc.symm.trans hy
    exact asks
  have hunserved : ∀ e ∈ allEntries (reach 0 {} (cs.take k)).2, e.2.serves c = false :=
    fun e he => serves_eq_false unserved (mem_of_take he)
  have hkept := not_waiting_of_kept hc kept
  have hwith := panicless_reach (allNamed_take named k)
  have hwithout := panicless_reach (allNamed_take (allNamed_forgo (c := c) named) k)
  have pairs : Panicless (reach 0 {} (cs.take k)).2 (reach 0 { brittle := false } (cs.take k)).2 :=
    timeline_rel hwith.phases
  have pairs' : Panicless (reach 0 {} ((forgo c cs).take k)).2
      (reach 0 { brittle := false } ((forgo c cs).take k)).2 := timeline_rel hwithout.phases
  have hspared : Spared c false (reach 0 { brittle := false } (cs.take k))
      (reach 0 { brittle := false } ((forgo c cs).take k)) :=
    spared_reach named hasks (not_waiting_of_panicless named hkept) k
      ⟨pairs.unserved hunserved, fun h => by cases h⟩
  have htimeline := hspared.timeline
  refine ⟨⟨?_, ?_, pairs'.told, ?_⟩, fun hshields => ?_⟩
  · rw [fates_eq_of_hushes pairs', fates_eq_of_hushes (pairs.apart c), fates, fates, htimeline]
  · have hanswers : answers (reach 0 { brittle := false } ((forgo c cs).take k)).2 =
        answers (apart c (reach 0 { brittle := false } (cs.take k)).2) := by
      rw [answers, answers, htimeline]
    rw [hanswers]
    exact (pairs.apart c).told
  · rw [← gentle_eq_of_hush hwithout.scenes, hspared.untouched.scene, gentle_without,
      ← gentle_eq_of_hush hwith.scenes, ← gentle_without]
    rfl
  · have hspared' := spared_reach named hasks hkept k ⟨hunserved, fun _ => hshields⟩
    refine ⟨hspared'.untouched, fun y hy own => hspared'.reply_eq own⟩

/-! ## A busy pool -/

/-- A call is told of no success. -/
lemma unserved_of_all {ps : List (Phase α)} (h : (answers ps).all (fun x =>
      x.2.2.1 != c || x.2.2.2 matches .submitted false | .panicked) = true) :
    ∀ time place answer, (time, place, c, answer) ∈ answers ps →
      answer = .submitted false ∨ answer = .panicked := by
  intro time place answer hmem
  have hanswer := List.all_eq_true.1 h _ hmem
  rw [bne_self_eq_false, Bool.false_or] at hanswer
  cases answer with
  | submitted accepted => cases accepted <;> simp_all
  | panicked => exact .inr rfl
  | _ => cases hanswer

/-- A call is not pending when handles are given up. -/
lemma kept_of_drops (h : cs.zipIdx.all (fun y => !(y.1 matches .drop _) ||
      !(reach 0 {} (cs.take y.2)).1.pendingCalls.contains c) = true) :
    ∀ k i, cs[k]? = some (.drop i) → x.callsOn i = true →
      c ∉ (reach 0 {} (cs.take k)).1.pendingCalls := by
  intro k i hdrop _
  have hkept := List.all_eq_true.1 h (.drop i, k) (List.mem_zipIdx_iff_getElem?.2 hdrop)
  simpa using hkept

/-- A pool with one worker and room for two tasks in its queue. Two submissions wait, and two calls
for outputs; one of each is given up. The other submission is refused when the pool has been closed,
and its task is frail. -/
def busyCommands : List (Command Nat) := [
  .newPool 1 true,
  .submit 0 (loneTask 1 (some 5) false), .submit 0 (loneTask 2 (some 5) false),
  .submit 0 (loneTask 3 (some 5) false), .submit 0 (loneTask 4 (some 5) true),
  .submit 0 (loneTask 5 (some 5) false), .next 0, .next 0, .abandon 5, .abandon 7, .close 0,
  .advance 5, .next 0, .advance 20, .shutdown 0, .drop 0]

/-- Each of the three calls waits, and makes no difference to what happens. -/
theorem unserved_calls_leave_no_trace_busy :
    Command.AllNamed busyCommands ∧
      (reach 0 {} (busyCommands.take 8)).1.pendingCalls = [4, 5, 6, 7] ∧
      (∀ n ∈ [4, 5, 7], Untouched n (reach 0 {} busyCommands)
        (reach 0 {} (forgo n busyCommands))) ∧
      (fates (reach 0 {} busyCommands).2).map (fun x => (x.1, x.2.2.1, x.2.2.2.id.call)) =
        [(0, .start, 1), (0, .discard, 5), (5, .finish, 1), (5, .start, 2), (5, .discard, 4),
          (10, .finish, 2), (10, .start, 3), (15, .finish, 3)] ∧
      (answers (reach 0 {} busyCommands).2).map (fun x => (x.1, x.2.2.1)) =
        [(0, 1), (0, 2), (0, 3), (5, 4), (5, 6), (10, 12), (25, 14)] := by
  have named : Command.AllNamed busyCommands := by
    simp [Command.allNamed_iff, busyCommands, Command.Named, loneTask]
  refine ⟨named, by decide +kernel, ?_, by decide +kernel, by decide +kernel⟩
  simp only [List.forall_mem_cons, List.not_mem_nil, false_imp_iff, implies_true, and_true]
  refine ⟨?_, ?_, ?_⟩
  · exact ((unserved_call_leaves_no_trace named (c := 4) rfl rfl
      (unserved_of_all (by decide +kernel)) (kept_of_drops (by decide +kernel)) 16).2
        (by decide +kernel)).1
  · exact ((unserved_call_leaves_no_trace named (c := 5) rfl rfl
      (unserved_of_all (by decide +kernel)) (kept_of_drops (by decide +kernel)) 16).2
        (by decide +kernel)).1
  · exact ((unserved_call_leaves_no_trace named (c := 7) rfl rfl
      (unserved_of_all (by decide +kernel)) (kept_of_drops (by decide +kernel)) 16).2
        (by decide +kernel)).1

/-- Two frail tasks are handed to a closed pool. -/
def refusedCommands : List (Command Nat) := [
  .newPool 1 false, .close 0, .submit 0 (loneTask 2 (some 1) true),
  .submit 0 (loneTask 3 (some 1) true)]

/-- Whether calls were told of a panic, by number. -/
def alarms (ps : List (Phase Nat)) : List (Nat × Bool) :=
  (answers ps).map fun x => (x.2.2.1, x.2.2.2 matches .panicked)

/-- **A submission that is refused leaves a trace** if it is the discard of its task that panics:
the other task is discarded without a panic, and with one when the first submission is not made. -/
theorem refused_frail_task_leaves_trace :
    Command.AllNamed refusedCommands ∧ alarms (reach 0 {} refusedCommands).2 =
        [(2, true), (3, false)] ∧
      (∀ time place answer, (time, place, 2, answer) ∈ answers (reach 0 {} refusedCommands).2 →
        answer = .submitted false ∨ answer = .panicked) ∧
      alarms (apart 2 (reach 0 {} refusedCommands).2) = [(3, false)] ∧
      alarms (reach 0 {} (forgo 2 refusedCommands)).2 = [(3, true)] ∧
      ¬Untouched 2 (reach 0 {} refusedCommands) (reach 0 {} (forgo 2 refusedCommands)) := by
  have beside : alarms (apart 2 (reach 0 {} refusedCommands).2) = [(3, false)] := by
    decide +kernel
  have alone : alarms (reach 0 {} (forgo 2 refusedCommands)).2 = [(3, true)] := by decide +kernel
  refine ⟨?_, by decide +kernel, unserved_of_all (by decide +kernel), beside, alone, fun h => ?_⟩
  · simp [Command.allNamed_iff, refusedCommands, Command.Named, loneTask]
  · have htold := h.timeline
    rw [alarms, answers] at beside alone
    rw [htold, beside] at alone
    cases alone

end Scene

end Workforce
