import Workforce.Scene.Report
import Workforce.Proofs.Scene.Mirror
import Workforce.Proofs.Scene.Made
/-!
# Pools do not interfere

Whatever is done to other pools or in batches makes no difference to a pool, with one exception: the
discard of a frail task panics only once in a scene. Let every command be replaced by one that does
nothing unless it concerns the pool, the parent or the clock. Then the pool shows the same after
every command: the same status, the same starts, ends and discards of tasks at the same times, and
the same answers to its calls. Only if the first frail task that is discarded is discarded
elsewhere, and one is discarded at the pool, can a call of the pool be refused in the first scene
and be told of a panic in the second one, and can the pool report another count of workers.

## Main definitions

* `Workforce.Command.foreign`, `Workforce.isolate` — the commands that do not concern a pool, and
  commands without those.
* `Workforce.View`, `Workforce.Scene.views` — what a pool shows after every command.

## Main results

* `Workforce.Scene.Mirror.perform` — one command in two scenes, in the second of which it does
  nothing unless it concerns the pool.
* `Workforce.Scene.pools_do_not_interfere` — a pool shows the same in both scenes.
* `Workforce.Scene.frail_discards_interfere` — the exception, by example.

## Implementation notes

The clock is not run to the last stop here: how far that goes is up to all pools and batches.
-/

namespace Workforce

open Occurrence Trail History

variable {α : Type}

/-! ## Commands that do not concern a pool -/

/-- The command acts on other pools only, begins a batch, gives up a call that is not one of the
pool, or releases a task that has not been handed to it. The commands around it tell whose calls and
tasks are whose. -/
def Command.foreign (i : Nat) (cs : List (Command α)) : Command α → Bool
  | submit j _ | next j | shutdown j | close j | cancel j | drop j => j != i
  | batch _ _ _ => true
  | abandon k => !cs[k]?.any (·.callsOn i)
  | release name => !cs.zipIdx.any fun x => x.1.submitsTo i && (TaskId.mk x.2 none).text == name
  | _ => false

/-- A command that does nothing stands in for one that does not concern the pool. -/
def Command.isolated (i : Nat) (cs : List (Command α)) (c : Command α) : Command α :=
  if c.foreign i cs then askParent else c

/-- Commands that do nothing stand in for those that do not concern the pool. -/
def isolate (i : Nat) (cs : List (Command α)) : List (Command α) := cs.map (·.isolated i cs)

namespace Scene

variable {s u : Scene α} {i n : Nat} {past : List (Entry α)} {p : Pool α} {c : Command α}
  {cs : List (Command α)}

/-! ## Between commands -/

/-- Nothing happens before the next command: nothing can move and no task is due. -/
structure Paused (s : Scene α) : Prop where
  settled : Stage.Settled ⟨0, s⟩
  idle : s.firstDue? = none

namespace Paused

/-- Nothing happens before the first command. -/
lemma initial : ({} : Scene α).Paused :=
  ⟨⟨by simp, by simp⟩, rfl⟩

/-- Nothing happens between two commands. -/
lemma perform (hs : s.Paused) (n : Nat) (c : Command α) : (s.perform n c).2.1.Paused := by
  obtain ⟨-, -, -, hsettled⟩ := Stage.reaches_perform n s c
  exact ⟨hsettled hs.settled, firstDue?_perform hs.idle n c⟩

/-- Nothing follows when nothing is done. -/
lemma act_eq (hs : s.Paused) : act (s, ([] : List (Entry α))) = (s, [⟨s.now, []⟩]) := by
  rw [act, phase, settle_eq_self hs.settled, finishDue_eq_self hs.idle]
  rfl

/-- The pools are at rest. -/
lemma restsAt (hs : s.Paused) (i : Nat) : s.RestsAt i := fun _ hp => hs.settled.resting_pool hp

end Paused

/-- **A command comes to the same as what it does at once**, after which the scene settles and the
due tasks end. -/
lemma Paused.exists_act (hs : s.Paused) (n : Nat) (hclock : c.movesClock = false) :
    ∃ ps, act (s.immediate (.order n c)) = ((s.perform n c).2.1, ps) ∧
      (∀ i, heard i ps = heard i (s.perform n c).2.2) ∧
        allEntries ps = allEntries (s.perform n c).2.2 := by
  rcases Stage.perform_cases n s hclock with heq | ⟨heq, horder⟩
  · exact ⟨_, heq.symm, fun _ => rfl, rfl⟩
  · have himmediate : s.immediate (.order n c) = (s, []) := by
      rw [immediate, horder]
      rfl
    refine ⟨[⟨s.now, []⟩], ?_, fun i => ?_, ?_⟩
    · rw [himmediate, heq, hs.act_eq]
    · rw [heq]
      rfl
    · rw [heq]
      rfl

/-! ## One command in both scenes -/

/-- **A command that does not concern the pool does nothing to it.** -/
theorem act_turn_of_foreign (recorded : s.Recorded cs n) (named : Command.AllNamed cs)
    (foreign : c.foreign i cs = true) (hp : s.pools[i]? = some p) (m : Moment) :
    (c.turn n s i p).act m p = (p, []) := by
  have aimed : ∀ {j : Nat} {x : Pool.Turn α}, (j != i) = true →
      (Pool.Turn.aimed i j p x).act m p = (p, []) := by
    intro j x hj
    rw [Pool.Turn.aimed, if_neg fun h => by simp [h.1] at hj]
    rfl
  cases c with
  | submit | next | shutdown | close | cancel | drop => exact aimed foreign
  | batch => rfl
  | abandon k =>
    dsimp only [Command.turn]
    split
    · rw [Pool.Turn.act_abandon]
      refine withdraw_eq_self fun hwaits => ?_
      obtain ⟨c, hc, hcalls⟩ := recorded.exists_call hp hwaits
      simp [Command.foreign, hc, hcalls] at foreign
    · rfl
  | release name =>
    dsimp only [Command.turn]
    split
    · rfl
    · next r hr =>
      rw [Pool.Turn.act_finish]
      refine finish_eq_self fun q hq hid => ?_
      have hname : r.task.id.text = name := by simpa using List.find?_some hr
      obtain ⟨k, c, hc, hsubmits, hk⟩ := recorded.exists_submit named hp hq
      have hown : (cs.zipIdx.any fun x => x.1.submitsTo i && (TaskId.mk x.2 none).text == name) =
          true := by
        refine List.any_eq_true.2 ⟨(c, k), List.mem_zipIdx_iff_getElem?.2 hc, ?_⟩
        simp [hsubmits, ← hk, hid, hname]
      simp [Command.foreign, hown] at foreign
  | _ => cases foreign

/-- So that it does nothing to the pool before the scene settles. -/
lemma Does.of_foreign (recorded : s.Recorded cs n) (named : Command.AllNamed cs)
    (foreign : c.foreign i cs = true) : s.Does i .still (s.immediate (.order n c)) := by
  have hc : ∀ size child, c ≠ .newPool size child := by
    rintro size child rfl
    cases foreign
  exact (Does.order i n s hc).to_still fun p hp m =>
    act_turn_of_foreign recorded named foreign hp m

/-- After the next command, when the scene has settled, tasks carry the names of their calls. -/
lemma Recorded.proper_phase (recorded : s.Recorded cs n) (named : Command.AllNamed cs)
    (hc : cs[n]? = some c) : (phase (s.immediate (.order n c))).1.Proper :=
  ((recorded.order hc).of_leads (leads_settle _)).proper named

/-- **A command that does not concern the pool**, and nothing in the second scene. -/
lemma Mirror.perform_foreign (h : Mirror i past s u) (hs : s.Paused) (hu : u.Paused)
    (recorded : s.Recorded cs n) (named : Command.AllNamed cs) (hc : cs[n]? = some c)
    (foreign : c.foreign i cs = true) :
    Mirrored i past (s.perform n c).2 (u, []) := by
  have hclock : c.movesClock = false := by cases c <;> first | rfl | cases foreign
  have hparent : c.cancelsParent = false := by cases c <;> first | rfl | cases foreign
  have hpool : ∀ size child, c ≠ .newPool size child := by
    rintro size child rfl
    cases foreign
  rcases Stage.perform_cases n s hclock with heq | ⟨heq, -⟩
  · have hdoes : s.Does i .still (s.immediate (.order n c)) :=
      Does.of_foreign recorded named foreign
    have hstill := Mirrored.of_still h hdoes (now_order n s c)
      ((parentCancelled_order n s c).trans (by rw [hparent, Bool.or_false]))
      ((length_order n s c).1 hpool)
    rw [heq]
    exact hstill.act_still ((hs.restsAt i).of_still hdoes) (recorded.proper_phase named hc) hu.idle
  · rw [heq]
    exact .refl h

/-- **A command that may concern the pool**, in both scenes. -/
lemma Mirror.perform_own (h : Mirror i past s u) (hs : s.Paused) (hu : u.Paused)
    (recorded : s.Recorded cs n) (named : Command.AllNamed cs) (hc : cs[n]? = some c)
    (own : c.foreign i cs = false) (hclock : c.movesClock = false) :
    Mirrored i past (s.perform n c).2 (u.perform n c).2 := by
  have htarget : c.target? = none ∨ c.target? = some i := by
    cases c <;> simp_all [Command.target?, Command.foreign]
  have hbatch : ∀ size tasks admission, c ≠ .batch size tasks admission := by
    rintro size tasks admission rfl
    cases own
  obtain ⟨d, hd, hdoes⟩ := Does.exists_mild i n c s.pools.length s.parentCancelled
  have hboth := Mirrored.of_does h hd (hdoes s rfl rfl) (hdoes u h.length h.parent)
    ((now_order n u c).trans (h.now.trans (now_order n s c).symm))
    ((parentCancelled_order n u c).trans (h.parent ▸ (parentCancelled_order n s c).symm))
    (length_order_congr h.length n c) (h.alone.order n htarget hbatch)
  have hact := hboth.act (recorded.proper_phase named hc)
  -- which is what the command comes to, but for phases in which nothing happens
  obtain ⟨ps, hps, hheard, hentries⟩ := hs.exists_act n hclock
  obtain ⟨qs, hqs, hheard', -⟩ := hu.exists_act n hclock
  rw [hps, hqs] at hact
  exact hact.congr (hheard i).symm hentries.symm (hheard' i).symm

/-- **The next command in both scenes.** In the second one it does nothing unless it concerns the
pool. -/
theorem Mirror.perform (h : Mirror i past s u) (hs : s.Paused) (hu : u.Paused)
    (recorded : s.Recorded cs n) (named : Command.AllNamed cs) (hc : cs[n]? = some c)
    (clock : c ≠ .run) :
    Mirrored i past (s.perform n c).2 (u.perform n (c.isolated i cs)).2 := by
  cases foreign : c.foreign i cs with
  | true =>
    have hstill : c.isolated i cs = .askParent := if_pos foreign
    rw [hstill]
    exact h.perform_foreign hs hu recorded named hc foreign
  | false =>
    have hsame : c.isolated i cs = c := by simp [Command.isolated, foreign]
    rw [hsame]
    cases hclock : c.movesClock with
    | false => exact h.perform_own hs hu recorded named hc foreign hclock
    | true =>
      cases c with
      | advance ms =>
        have hmoved := mirrored_advanceTo (recorded.proper named) (hs.restsAt i) hs.idle
          (Nat.le_add_right s.now ms) h
        simpa only [Scene.perform, h.now] using hmoved
      | run => exact absurd rfl clock
      | _ => cases hclock

end Scene

/-! ## What a pool shows -/

/-- What becomes of a task in an event. -/
def Event.fate? : Event α → Option (Fate × Task α)
  | started task => some (.start, task)
  | ended task => some (.finish, task)
  | discarded task => some (.discard, task)
  | _ => none

/-- What a pool shows after a command. -/
structure View (α : Type) where
  /-- Its status, as it is reported. -/
  status : Option (Option Status)
  /-- The starts, ends and discards of its tasks, with the times, in their order. -/
  fates : List (Nat × Fate × Task α)
  /-- Its calls that were finished, by number, with their answers. -/
  answers : List (Nat × Answer α)

/-- The answer of a refusal, also if the discard of the refused task panicked. -/
def Answer.softened : Answer α → Answer α
  | panicked => submitted false
  | a => a

/-- What is shown apart from who was told of a panic and from the count of the workers. -/
def View.softened (v : View α) : View α where
  status := v.status.map (·.map fun x => { x with live := 0 })
  fates := v.fates
  answers := v.answers.map (Prod.map id Answer.softened)

/-- What becomes of tasks does not depend on whether discards panic. -/
lemma Event.fate?_gentle (e : Event α) : e.gentle.fate? = e.fate? := by cases e <;> rfl

/-- An answer is the same when no discard panics, but for a panic. -/
lemma Event.answer?_gentle (e : Event α) : e.gentle.answer?.map (Prod.map id Answer.softened) =
    e.answer?.map (Prod.map id Answer.softened) := by
  cases e with
  | refused caller panicked => cases caller <;> cases panicked <;> rfl
  | _ => rfl

/-- The starts, ends and discards in what was heard. -/
def fatesOf (xs : List (Nat × Event α)) : List (Nat × Fate × Task α) :=
  xs.filterMap fun x => x.2.fate?.map (x.1, ·)

/-- The answers in what was heard. -/
def answersOf (xs : List (Nat × Event α)) : List (Nat × Answer α) := xs.filterMap (·.2.answer?)

/-- They do not depend on panics. -/
lemma fatesOf_soften (xs : List (Nat × Event α)) : fatesOf (soften xs) = fatesOf xs := by
  rw [fatesOf, soften, List.filterMap_map, fatesOf]
  refine List.filterMap_congr fun x _ => ?_
  show (x.2.gentle.fate?.map (x.1, ·)) = x.2.fate?.map (x.1, ·)
  rw [Event.fate?_gentle]

/-- Nor do the answers, but for who is told of a panic. -/
lemma answersOf_soften (xs : List (Nat × Event α)) :
    (answersOf (soften xs)).map (Prod.map id Answer.softened) =
      (answersOf xs).map (Prod.map id Answer.softened) := by
  rw [answersOf, soften, List.filterMap_map, answersOf, List.map_filterMap, List.map_filterMap]
  exact List.filterMap_congr fun x _ => x.2.answer?_gentle

namespace Scene

variable {s u : Scene α} {i n : Nat} {past : List (Entry α)} {cs rest : List (Command α)}
  {r r' : Scene α × List (Phase α)}

/-- What the pool at an index shows after a command. -/
def view (i : Nat) (r : Scene α × List (Phase α)) : View α where
  status := r.1.statuses[i]?
  fates := fatesOf (heard i r.2)
  answers := answersOf (heard i r.2)

/-- What it shows after each of some commands, the first of which has the given number. -/
def views (i call : Nat) (s : Scene α) : List (Command α) → List (View α)
  | [] => []
  | c :: cs =>
    let r := (s.perform call c).2
    view i r :: r.1.views i (call + 1) cs

/-- The pool shows the same in both scenes, but for panics. -/
lemma Mirrored.view_softened (h : Mirrored i past r r') :
    (view i r').softened = (view i r).softened := by
  have hstatus : ∀ t : Scene α, t.statuses[i]?.map (·.map fun x => { x with live := 0 }) =
      (t.pools[i]?.map Pool.gentle).map fun p => if p.held then
        some ⟨p.size, p.counted, p.closed, p.cancelled⟩ else none := by
    intro t
    rw [statuses, List.getElem?_map, Option.map_map, Option.map_map]
    cases t.pools[i]? with
    | none => rfl
    | some p => cases hheld : p.held <;> simp [hheld, Pool.gentle]
  have hfates : fatesOf (heard i r'.2) = fatesOf (heard i r.2) := by
    rw [← fatesOf_soften, h.gentle, fatesOf_soften]
  have hanswers : (answersOf (heard i r'.2)).map (Prod.map id Answer.softened) =
      (answersOf (heard i r.2)).map (Prod.map id Answer.softened) := by
    rw [← answersOf_soften, h.gentle, answersOf_soften]
  simp only [view, View.softened, hstatus, h.mirror.gentle, hfates, hanswers]

/-- It shows really the same unless frail tasks are discarded elsewhere first and then there. -/
lemma Mirrored.view_eq (h : Mirrored i past r r')
    (hclash : clash i (past ++ allEntries r.2) = false) : view i r' = view i r := by
  have hpool := h.mirror.same hclash
  simp only [view, statuses, List.getElem?_map, hpool, h.same hclash]

/-- **The rest of the commands in both scenes.** -/
theorem Mirror.views (h : Mirror i past s u) (hs : s.Paused) (hu : u.Paused)
    (recorded : s.Recorded cs n) (named : Command.AllNamed cs) (hrest : cs.drop n = rest)
    (clock : Command.run ∉ rest) :
    (u.views i n (rest.map (·.isolated i cs))).map View.softened =
        (s.views i n rest).map View.softened ∧
      (clash i (past ++ allEntries (s.reach n rest).2) = false →
        u.views i n (rest.map (·.isolated i cs)) = s.views i n rest) := by
  induction rest generalizing n s u past with
  | nil => exact ⟨rfl, fun _ => rfl⟩
  | cons c rest ih =>
    have hc : cs[n]? = some c := by
      have hhead := congrArg (·[0]?) hrest
      simpa using hhead
    have hrest' : cs.drop (n + 1) = rest := by
      rw [← List.drop_drop, hrest]
      rfl
    obtain ⟨hne, hlater⟩ := not_or.1 (fun hmem => clock (List.mem_cons.2 hmem))
    have hfirst := h.perform hs hu recorded named hc (Ne.symm hne)
    obtain ⟨hsoft, hsame⟩ := ih hfirst.mirror (hs.perform n c) (hu.perform n _)
      (recorded.perform hc hs.idle) hrest' hlater
    have hviews : ∀ (t : Scene α) (d : Command α) (ds : List (Command α)),
        t.views i n (d :: ds) = view i (t.perform n d).2 ::
          (t.perform n d).2.1.views i (n + 1) ds := fun _ _ _ => rfl
    simp only [List.map_cons, hviews]
    refine ⟨by rw [hsoft, hfirst.view_softened], fun hclash => ?_⟩
    have hreach : (s.reach n (c :: rest)).2 =
        (s.perform n c).2.2 ++ ((s.perform n c).2.1.reach (n + 1) rest).2 := rfl
    rw [hreach, allEntries_append, ← List.append_assoc] at hclash
    rw [hsame hclash, hfirst.view_eq (clash_of_append hclash)]

/-- A scene without pools and batches is the same twice. -/
lemma Mirror.initial (i : Nat) : Mirror i [] ({} : Scene α) {} where
  now := rfl
  parent := rfl
  length := rfl
  alone := ⟨rfl, by simp⟩
  brittle := rfl
  brittle' := rfl
  gentle := rfl
  same _ := rfl

/-- **Pools do not interfere.** If commands that do nothing stand in for those that do not concern a
pool, the pool shows the same after every command, unless the first frail task that is discarded is
discarded elsewhere and one is discarded at the pool; and even then nothing differs but who is told
of a panic and the count of the workers that the pool reports.

**Proof sketch.** In the second scene the pool is alone. The two scenes are looked at side by side:
what a command does to the pool can be told from the pool, and so can the order in which its tasks
end. Whatever is done at other places of the first scene leaves the pool alone, since whoever waits
on it and whatever runs there has been asked for by commands that concern it. -/
theorem pools_do_not_interfere (i : Nat) {cs : List (Command α)} (named : Command.AllNamed cs)
    (clock : Command.run ∉ cs) :
    (views i 0 {} (isolate i cs)).map View.softened = (views i 0 {} cs).map View.softened ∧
      (clash i (allEntries (reach 0 {} cs).2) = false →
        views i 0 {} (isolate i cs) = views i 0 {} cs) :=
  (Mirror.initial i).views .initial .initial (.initial cs) named rfl clock

/-! ## Two pools side by side -/

/-- A task that is handed in alone. -/
def loneTask (call : Nat) (duration : Option Nat) (frail : Bool) : Task Nat where
  id := ⟨call, none⟩
  duration := duration
  outcome := .value call
  frail := frail
  trace := none

/-- Commands that concern two pools and a batch. The first pool discards a frail task, and after
that the second one does. -/
def sharedCommands : List (Command Nat) := [
  .newPool 1 true, .newPool 1 false,
  .submit 0 (loneTask 2 (some 5) false), .submit 1 (loneTask 3 (some 5) false),
  .submit 1 (loneTask 4 none false), .submit 0 (loneTask 5 none false),
  .next 0, .next 1,
  .batch 1 [{ loneTask 8 (some 3) false with id := ⟨8, some 0⟩ }] .unlimited,
  .advance 5, .next 1, .abandon 10, .release "4", .close 0, .submit 0 (loneTask 14 none true),
  .close 1, .submit 1 (loneTask 16 none true), .cancelParent, .release "5", .next 0]

/-- Nine of the commands do not concern the first pool. It runs its two tasks one after the other:
when the first one ends, one of the other pool ends as well, and the batch has ended its task. -/
theorem pools_do_not_interfere_shared :
    Command.AllNamed sharedCommands ∧ Command.run ∉ sharedCommands ∧
      (sharedCommands.filter (·.foreign 0 sharedCommands)).length = 9 ∧
      views 0 0 {} (isolate 0 sharedCommands) = views 0 0 {} sharedCommands ∧
      ((views 0 0 {} sharedCommands).flatMap (·.fates)).map (fun x => (x.1, x.2.1, x.2.2.id)) =
        [(0, .start, ⟨2, none⟩), (5, .finish, ⟨2, none⟩), (5, .start, ⟨5, none⟩),
          (5, .discard, ⟨14, none⟩), (5, .finish, ⟨5, none⟩)] ∧
      (views 0 0 {} sharedCommands).map (·.answers.map Prod.fst) =
        [[], [], [2], [], [], [5], [], [], [], [6], [], [], [], [], [14], [], [], [], [],
          [19]] := by
  have named : Command.AllNamed sharedCommands := by
    have numbered : Numbered 8 [{ loneTask 8 (some 3) false with id := ⟨8, some 0⟩ }] := by
      rintro (_ | j) t ht
      · cases ht
        rfl
      · cases ht
    simpa [Command.allNamed_iff, sharedCommands, Command.Named, loneTask] using numbered
  have clock : Command.run ∉ sharedCommands := by simp [sharedCommands]
  have first : clash 0 (allEntries (reach 0 {} sharedCommands).2) = false := by decide +kernel
  exact ⟨named, clock, by decide +kernel, (pools_do_not_interfere 0 named clock).2 first,
    by decide +kernel, by decide +kernel⟩

/-- Both pools are closed, and then each one is handed a frail task. -/
def frailCommands : List (Command Nat) := [
  .newPool 1 false, .newPool 1 false, .close 0, .close 1,
  .submit 0 (loneTask 4 (some 1) true), .submit 1 (loneTask 5 (some 1) true)]

/-- Whether calls were told of a panic, by number. -/
def panics (vs : List (View Nat)) : List (Nat × Bool) :=
  (vs.flatMap (·.answers)).map fun x => (x.1, match x.2 with | .panicked => true | _ => false)

/-- **Frail tasks that are discarded at two pools interfere.** The discard at the first pool panics,
so that the one at the second pool does not; it does when nothing is done to the first pool. -/
theorem frail_discards_interfere :
    Command.AllNamed frailCommands ∧ Command.run ∉ frailCommands ∧
      panics (views 1 0 {} (isolate 1 frailCommands)) = [(5, true)] ∧
      panics (views 1 0 {} frailCommands) = [(5, false)] ∧
      views 1 0 {} (isolate 1 frailCommands) ≠ views 1 0 {} frailCommands := by
  have alone : panics (views 1 0 {} (isolate 1 frailCommands)) = [(5, true)] := by decide +kernel
  have beside : panics (views 1 0 {} frailCommands) = [(5, false)] := by decide +kernel
  refine ⟨?_, by simp [frailCommands], alone, beside, fun heq => ?_⟩
  · simp [Command.allNamed_iff, frailCommands, Command.Named, loneTask]
  · rw [heq, beside] at alone
    cases alone

end Scene

end Workforce
