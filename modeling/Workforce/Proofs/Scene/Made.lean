import Workforce.Proofs.Scene.Tick
import Workforce.Proofs.Pool.Line
/-!
# Which command made a call

Every call has been made by the command of its number, and a task that was handed in alone carries
that number too. So whoever waits on a pool was made to wait by a command that calls this pool, and
whatever runs there was handed in by a command that submits to it.

## Main definitions

* `Workforce.Command.Named`, `Command.AllNamed` — the tasks of commands carry their numbers.
* `Workforce.Command.Makes` — a command makes a call at a place.
* `Workforce.Scene.Recorded` — the calls of a scene have been made by the first ones of some
  commands.

## Main results

* `Workforce.Stage.Steps.exists_waiting` — whoever waits on a pool has asked for it there.
* `Workforce.Scene.Recorded.perform` — carrying out the next command keeps the record.
* `Workforce.Scene.Recorded.exists_call`, `Recorded.exists_submit` — who waits on a pool and what
  runs there.
* `Workforce.Stage.exists_reach` — commands are carried out in a run in which they make all calls.
-/

namespace Workforce

open Occurrence Trail History

variable {α : Type}

/-! ## Commands that make calls -/

namespace Command

/-- The tasks that a command hands over carry its number. -/
def Named (n : Nat) : Command α → Prop
  | submit _ task => task.id = ⟨n, none⟩
  | batch _ tasks _ => Numbered n tasks
  | _ => True

/-- The tasks of some commands carry the numbers of the commands. -/
def AllNamed (cs : List (Command α)) : Prop :=
  ∀ (k : Nat) (c : Command α), cs[k]? = some c → c.Named k

/-- It is a matter of each command with its number. -/
lemma allNamed_iff {cs : List (Command α)} : AllNamed cs ↔ ∀ x ∈ cs.zipIdx, x.1.Named x.2 :=
  ⟨fun h x hx => h x.2 x.1 (List.mem_zipIdx_iff_getElem?.1 hx),
    fun h k c hc => h (c, k) (List.mem_zipIdx_iff_getElem?.2 hc)⟩

/-- The command of that number makes the call at the place. -/
inductive Makes (n : Nat) : Command α → Place × Occurrence α → Prop
  | submit (i : Nat) (task : Task α) : Makes n (.submit i task) (.pool i, asked ⟨some n, task⟩)
  | next (i : Nat) : Makes n (.next i) (.pool i, joined ⟨some n, false⟩)
  | shutdown (i : Nat) : Makes n (.shutdown i) (.pool i, joined ⟨some n, true⟩)
  | batch (i size : Nat) (tasks : List (Task α)) (admission : Admission) :
      Makes n (.batch size tasks admission) (.batch i, batched n tasks)

/-- The command is a call on the pool of that index. -/
def callsOn (i : Nat) : Command α → Bool
  | submit j _ | next j | shutdown j => j == i
  | _ => false

/-- The command hands a task to the pool of that index. -/
def submitsTo (i : Nat) : Command α → Bool
  | submit j _ => j == i
  | _ => false

end Command

namespace Scene

variable {s t : Scene α} {cs : List (Command α)} {c : Command α} {i k n : Nat} {p : Pool α}
  {x : Place × Occurrence α}

/-- Events are no calls. -/
lemma call?_of_mem_ofEntries {es : List (Entry α)} (hx : x ∈ ofEntries es) :
    x.2.call? = none := by
  obtain ⟨e, -, rfl⟩ := List.mem_map.1 hx
  rfl

/-- **The calls of a command have been made by it.** -/
theorem makes_of_mem_order (hx : x ∈ (s.order n c).2) (hcall : x.2.call?.isSome = true) :
    c.Makes n x := by
  -- what is asked for in an action on a pool
  have visit : ∀ {j : Nat} {before after : Trail α}
      {f : Moment → Pool α → Pool α × List (Event α)}, x ∈ (s.visit j before after f).2 →
      x ∈ ofTrail (.pool j) (before ++ after) := by
    intro j before after f hx
    unfold Scene.visit at hx
    split at hx
    · cases hx
    · rw [ofTrail, List.map_append]
      rcases List.mem_append.1 hx with hx | hx
      · rcases List.mem_append.1 hx with hx | hx
        · exact List.mem_append_left _ hx
        · rw [call?_of_mem_ofEntries hx] at hcall
          cases hcall
      · exact List.mem_append_right _ hx
  have entries : ∀ {es : List (Entry α)}, x ∈ ofEntries es → c.Makes n x := by
    intro es hx
    rw [call?_of_mem_ofEntries hx] at hcall
    cases hcall
  cases c with
  | newPool size child => exact entries hx
  | submit j task =>
    rw [List.mem_singleton.1 (visit hx)]
    exact .submit j task
  | next j =>
    rw [List.mem_singleton.1 (visit hx)]
    exact .next j
  | shutdown j =>
    rw [List.mem_singleton.1 (visit hx)]
    exact .shutdown j
  | batch size tasks admission =>
    rcases List.mem_cons.1 hx with rfl | hx
    · exact .batch _ size tasks admission
    · exact entries hx
  | close j => cases visit hx
  | cancel j => cases visit hx
  | cancelParent => exact entries hx
  | drop j => cases visit hx
  | abandon k =>
    rw [(call?_of_mem_abandon (List.mem_map_of_mem hx)).1] at hcall
    cases hcall
  | release name =>
    unfold order at hx
    dsimp only at hx
    split at hx
    · cases hx
    · exact entries hx
  | _ => cases hx

end Scene

/-- **Whoever waits on a pool has asked for it there**: for a task to be run, or for outputs. -/
theorem Stage.Steps.exists_waiting {g : Stage α} {h : History α} (run : Stage.Steps {} h g)
    {i k : Nat} {p : Pool α} (hp : g.scene.pools[i]? = some p)
    (hk : k ∈ p.submitting.filterMap (·.caller) ++ p.receiving.filterMap (·.caller)) :
    (∃ q, (Place.pool i, asked q) ∈ h ∧ q.caller = some k) ∨
      ∃ r, (Place.pool i, joined r) ∈ h ∧ r.caller = some k := by
  obtain ⟨p₀, os, blank, hempty, hrun, htrail⟩ := run.changes_of_empty.pool_life hp
  have hmem : ∀ o ∈ os, (Place.pool i, o) ∈ h := fun o ho =>
    mem_trailAt.1 (htrail ▸ List.mem_append_right _ ho)
  rcases List.mem_append.1 hk with hk | hk
  · obtain ⟨q, hq, hcaller⟩ := List.mem_filterMap.1 hk
    obtain ⟨o, ho, hasked⟩ := mem_collect.1 ((Pool.Steps.asked hrun blank.submitting).1 q hq)
    cases o with
    | asked q' =>
      cases hasked
      exact .inl ⟨q, hmem _ ho, hcaller⟩
    | _ => cases hasked
  · obtain ⟨r, hr, hcaller⟩ := List.mem_filterMap.1 hk
    obtain ⟨o, ho, hjoined⟩ := mem_collect.1 ((Pool.Steps.joined hrun hempty).1 r hr)
    cases o with
    | joined r' =>
      cases hjoined
      exact .inr ⟨r, hmem _ ho, hcaller⟩
    | _ => cases hjoined

/-- Where commands make all calls, tasks carry the numbers of their calls if those of the commands
do. -/
lemma Stage.named_of_makes {h : History α} {cs : List (Command α)}
    (named : Command.AllNamed cs) (hmakes : ∀ x ∈ h, x.2.call?.isSome = true →
    ∃ k c, cs[k]? = some c ∧ Command.Makes k c x) : h.Named where
  asked place q k hmem hq := by
    obtain ⟨m, c, hc, hmade⟩ := hmakes _ hmem (by simp [call?, hq])
    cases hmade with
    | submit j task =>
      cases hq
      exact named _ _ hc
  batched place k tasks j t hmem ht := by
    obtain ⟨m, c, hc, hmade⟩ := hmakes _ hmem rfl
    cases hmade with
    | batch l size tasks admission => exact named _ _ hc j t ht

namespace Scene

variable {s t : Scene α} {cs : List (Command α)} {c : Command α} {i k n : Nat} {p : Pool α}

/-! ## Scenes with a record of their calls -/

/-- The scene has been reached by so many commands, and its calls were made by those of some
commands that have their numbers. -/
def Recorded (cs : List (Command α)) (n : Nat) (s : Scene α) : Prop :=
  ∃ h, Stage.Steps {} h ⟨n, s⟩ ∧ ∀ x ∈ h, x.2.call?.isSome = true →
    ∃ k c, cs[k]? = some c ∧ Command.Makes k c x

namespace Recorded

/-- At the beginning there are no calls. -/
lemma initial (cs : List (Command α)) : ({} : Scene α).Recorded cs 0 :=
  ⟨[], .refl ({} : Stage α), by simp⟩

/-- Without a command none are made. -/
lemma of_leads (hs : s.Recorded cs n) (h : s.Leads t) : t.Recorded cs n := by
  obtain ⟨k, hsteps, hmade⟩ := hs
  obtain ⟨es, hrest⟩ := h n
  refine ⟨_, hsteps.trans hrest, fun x hx hcall => ?_⟩
  rcases List.mem_append.1 hx with hx | hx
  · exact hmade x hx hcall
  · rw [call?_of_mem_ofEntries hx] at hcall
    cases hcall

/-- What the next command does at once keeps the record. -/
lemma order (hs : s.Recorded cs n) (hc : cs[n]? = some c) :
    (s.order n c).1.Recorded cs (n + 1) := by
  obtain ⟨k, hsteps, hmade⟩ := hs
  refine ⟨_, hsteps.tail (.order ⟨n, s⟩ c), fun x hx hcall => ?_⟩
  rcases List.mem_append.1 hx with hx | hx
  · exact hmade x hx hcall
  · exact ⟨n, c, hc, makes_of_mem_order hx hcall⟩

/-- **Carrying out the next command keeps the record.** -/
theorem perform (hs : s.Recorded cs n) (hc : cs[n]? = some c) (hnone : s.firstDue? = none) :
    (s.perform n c).2.1.Recorded cs (n + 1) := by
  have horder := hs.order hc
  cases hclock : c.movesClock with
  | false =>
    rcases Stage.perform_cases n s hclock with heq | ⟨heq, hstill⟩
    · rw [heq]
      have hact := (leads_settle (s.order n c).1).trans (ticks_finishDue deadlinesAhead _).leads
      exact horder.of_leads hact
    · rw [heq]
      rwa [hstill] at horder
  | true =>
    cases c with
    | advance ms =>
      exact horder.of_leads (ticks_advanceTo hnone (Nat.le_add_right s.now ms)).1.leads
    | run => exact horder.of_leads (ticks_run hnone).1.leads
    | _ => cases hclock

/-- The tasks carry the names of their calls if those of the commands do. -/
lemma proper (hs : s.Recorded cs n) (named : Command.AllNamed cs) :
    s.Proper := by
  obtain ⟨h, hsteps, hmade⟩ := hs
  exact ⟨n, h, hsteps, Stage.named_of_makes named hmade⟩

/-- **Whoever waits on a pool** has been made to wait by a call on the pool. -/
theorem exists_call (hs : s.Recorded cs n) (hp : s.pools[i]? = some p)
    (hk : k ∈ p.submitting.filterMap (·.caller) ++ p.receiving.filterMap (·.caller)) :
    ∃ c, cs[k]? = some c ∧ c.callsOn i = true := by
  obtain ⟨h, hsteps, hmade⟩ := hs
  rcases hsteps.exists_waiting hp hk with ⟨q, hq, hcaller⟩ | ⟨q, hq, hcaller⟩
  · obtain ⟨m, c, hc, hmakes⟩ := hmade _ hq (by simp [call?, hcaller])
    cases hmakes with
    | submit j task =>
      cases hcaller
      exact ⟨_, hc, by simp [Command.callsOn]⟩
  · obtain ⟨m, c, hc, hmakes⟩ := hmade _ hq (by simp [call?, hcaller])
    cases hmakes <;> cases hcaller <;> exact ⟨_, hc, by simp [Command.callsOn]⟩

/-- **What runs on a pool** has been handed in by a submission to the pool. -/
theorem exists_submit (hs : s.Recorded cs n) (named : Command.AllNamed cs)
    (hp : s.pools[i]? = some p) {r : Run α} (hr : r ∈ p.running) :
    ∃ k c, cs[k]? = some c ∧ c.submitsTo i = true ∧ r.task.id = ⟨k, none⟩ := by
  obtain ⟨h, hsteps, hmade⟩ := hs
  obtain ⟨p₀, os, blank, -, hrun, htrail⟩ := hsteps.changes_of_empty.pool_life hp
  have hstock : r.task ∈ p.stock := List.mem_append_right _ (List.mem_map_of_mem hr)
  have hgiven := (Pool.Steps.balance hrun).subset
    (List.mem_append_left _ (List.mem_append_left _ hstock))
  have hnone : p₀.stock = [] := by
    simp [Pool.stock, Pool.inHand, Pool.underway, blank.submitting, blank.queue, blank.running]
  rw [hnone, List.nil_append] at hgiven
  obtain ⟨q, hq, htask⟩ := List.mem_map.1 hgiven
  obtain ⟨o, ho, hasked⟩ := mem_collect.1 hq
  have hmem : (Place.pool i, o) ∈ h := mem_trailAt.1 (htrail ▸ List.mem_append_right _ ho)
  have hsigned := hsteps.signed o (List.mem_map_of_mem hmem)
  cases o with
  | asked q' =>
    cases hasked
    obtain ⟨m, c, hc, hmakes⟩ := hmade _ hmem hsigned
    cases hmakes with
    | submit j task =>
      exact ⟨m, _, hc, by simp [Command.submitsTo], htask ▸ named _ _ hc⟩
  | _ => cases hasked

end Recorded

end Scene

/-! ## Runs of commands -/

namespace Stage

open Scene

variable {g g' : Stage α} {h : History α} {cs : List (Command α)}

/-- Nobody calls where no command is given. -/
lemma Steps.no_call (steps : Steps g h g') (calls : g'.calls = g.calls) :
    ∀ x ∈ h, x.2.call? = none := by
  intro x hx
  by_contra hne
  obtain ⟨c, hc⟩ := Option.ne_none_iff_exists'.1 hne
  have hbounds := steps.calls.2.2 c (mem_collect.2 ⟨x.2, List.mem_map_of_mem hx, hc⟩)
  omega

/-- **A command is carried out in a run in which nobody else calls.** -/
lemma exists_perform (n : Nat) (s : Scene α) (c : Command α) : ∃ h,
    Steps ⟨n, s⟩ h ⟨n + 1, (s.perform n c).2.1⟩ ∧
      events h = (s.perform n c).2.2.flatMap (·.entries) ∧
        ∀ x ∈ h, x.2.call?.isSome = true → c.Makes n x := by
  have follow : ∀ {ps : List (Phase α)} {t : Scene α},
      Reaches ⟨n + 1, (s.order n c).1⟩ ps ⟨n + 1, t⟩ → ∃ h, Steps ⟨n, s⟩ h ⟨n + 1, t⟩ ∧
        events h = events (s.order n c).2 ++ ps.flatMap (·.entries) ∧
          ∀ x ∈ h, x.2.call?.isSome = true → c.Makes n x := by
    rintro ps t ⟨k, hsteps, hevents, -⟩
    refine ⟨(s.order n c).2 ++ k, (Chain.single (.order ⟨n, s⟩ c)).trans hsteps,
      by rw [events_append, hevents], fun x hx hcall => ?_⟩
    rcases List.mem_append.1 hx with hx | hx
    · exact makes_of_mem_order hx hcall
    · rw [Steps.no_call hsteps rfl x hx] at hcall
      cases hcall
  cases hclock : c.movesClock with
  | false =>
    rcases perform_cases n s hclock with heq | ⟨heq, horder⟩
    · have step : Step ⟨n + 1, (s.order n c).1⟩ [] ⟨n + 1, (s.order n c).1⟩ :=
        .clock ⟨n + 1, (s.order n c).1⟩ _ (Nat.le_refl _)
      obtain ⟨k, hsteps, hevents, hmakes⟩ :=
        follow (Reaches.act (r := ((s.order n c).1, [])) step rfl)
      rw [heq]
      refine ⟨k, hsteps, hevents.trans ?_, hmakes⟩
      simp [act, phase]
    · obtain ⟨k, hsteps, hevents, hmakes⟩ := follow (.refl _)
      rw [horder] at hsteps hevents
      rw [heq]
      exact ⟨k, hsteps, hevents, hmakes⟩
  | true =>
    cases c with
    | advance ms => exact follow (Reaches.advanceTo (n + 1) (Nat.le_add_right _ _))
    | run => exact follow (Reaches.run (n + 1) s)
    | _ => cases hclock

/-- **Commands are carried out in a run in which they make all calls.** -/
theorem exists_reach (n : Nat) (s : Scene α) (cs : List (Command α)) : ∃ h,
    Steps ⟨n, s⟩ h ⟨n + cs.length, (s.reach n cs).1⟩ ∧
      events h = (s.reach n cs).2.flatMap (·.entries) ∧
        ∀ x ∈ h, x.2.call?.isSome = true → ∃ k c, cs[k]? = some c ∧ Command.Makes (n + k) c x := by
  induction cs generalizing n s with
  | nil => exact ⟨[], .refl _, rfl, by simp⟩
  | cons c cs ih =>
    obtain ⟨h, hsteps, hevents, hmakes⟩ := exists_perform n s c
    obtain ⟨k, ksteps, kevents, kmakes⟩ := ih (n + 1) (s.perform n c).2.1
    rw [Nat.add_assoc, Nat.add_comm 1] at ksteps
    refine ⟨h ++ k, hsteps.trans ksteps, ?_, fun x hx hcall => ?_⟩
    · rw [events_append, hevents, kevents, ← List.flatMap_append]
      rfl
    · rcases List.mem_append.1 hx with hx | hx
      · exact ⟨0, c, rfl, hmakes x hx hcall⟩
      · obtain ⟨j, d, hd, hmade⟩ := kmakes x hx hcall
        refine ⟨j + 1, d, hd, ?_⟩
        rwa [Nat.add_assoc, Nat.add_comm 1] at hmade

end Stage

end Workforce
