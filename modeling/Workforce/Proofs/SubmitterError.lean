import Workforce.Proofs.Isolation
import Workforce.Proofs.Scene.Breakdown
import Workforce.Proofs.Scene.Hush
/-!
# The error of a batch

A batch is answered by an error if the discard of one of its tasks panicked and the task had not
been admitted, so that the submitter discarded it. If the task was discarded after it had been
admitted, the batch is answered by its values as usual. In both cases everything else happens as it
does when no discard panics: at the same times the same tasks start, end and are discarded, the
batch is answered, and so are all other calls, with the same answers.

## Main definitions

* `Workforce.fates`, `Workforce.answers` — what becomes of tasks and of calls, where and when.
* `Workforce.panicking?` — the discard that panics.
* `Workforce.Scene.batchIndex` — where the batch is that a command begins.
* `Workforce.Scene.Contained` — what the panic of a discard comes to.

## Main results

* `Workforce.Stage.Judged.answered_rel` — the answers in the batch, with the panic and without.
* `Workforce.Scene.submitter_error` — the panic of a discard in a batch comes to that.

## Implementation notes

Only the first discard of a frail task panics in a scene. So the same commands are carried out
without that panic in a scene in which there has been one before (`brittle := false`).
-/

namespace Workforce

open Occurrence Trail History

variable {α : Type}

/-! ## What becomes of tasks and calls -/

/-- What becomes of tasks: when and where, and what it is. -/
def fates (ps : List (Phase α)) : List (Nat × Place × Fate × Task α) :=
  (timeline ps).filterMap fun x => x.2.2.fate?.map (x.1, x.2.1, ·)

/-- What calls are told: when and where, which call and what. -/
def answers (ps : List (Phase α)) : List (Nat × Place × Nat × Answer α) :=
  (timeline ps).filterMap fun x => x.2.2.answer?.map (x.1, x.2.1, ·)

/-- A batch is told that its submitter has broken down; other calls are told the same. -/
def breakDown (i n : Nat) (x : Nat × Place × Nat × Answer α) : Nat × Place × Nat × Answer α :=
  if x.2.1 = .batch i ∧ x.2.2.1 = n then
    (x.1, .batch i, n, .batch (.error .discardPanic)) else x

/-- The discard that panics: where it is and which task is discarded. It is the first one of a frail
task. -/
def panicking? (ps : List (Phase α)) : Option (Place × Task α) :=
  (allEntries ps).findSome? fun x =>
    match x.2 with
    | .discarded task => if task.frail then some (x.1, task) else none
    | _ => none

/-- It is found among all entries. -/
lemma find?_of_panicking? {ps : List (Phase α)} {place : Place} {t : Task α}
    (h : panicking? ps = some (place, t)) :
    (allEntries ps).find? (·.2.isFrailDiscard) = some (place, .discarded t) := by
  unfold panicking? at h
  generalize allEntries ps = es at h ⊢
  induction es with
  | nil => cases h
  | cons x es ih =>
    obtain ⟨q, e⟩ := x
    cases e with
    | discarded task =>
      cases hfrail : task.frail with
      | true =>
        simp only [List.findSome?_cons, hfrail, if_true, Option.some.injEq, Prod.mk.injEq] at h
        obtain ⟨rfl, rfl⟩ := h
        simp [Event.isFrailDiscard, hfrail]
      | false =>
        rw [List.find?_cons_of_neg (by simp [Event.isFrailDiscard, hfrail])]
        exact ih (by simpa [hfrail] using h)
    | _ => exact ih h

/-- What has been told has been told in an event. -/
lemma mem_answers {ps : List (Phase α)} {time n : Nat} {place : Place} {answer : Answer α} :
    (time, place, n, answer) ∈ answers ps ↔
      ∃ e, (time, place, e) ∈ timeline ps ∧ e.answer? = some (n, answer) := by
  rw [answers, List.mem_filterMap]
  constructor
  · rintro ⟨⟨time', place', e⟩, hx, heq⟩
    obtain ⟨y, hy, hpair⟩ := Option.map_eq_some_iff.1 heq
    cases hpair
    exact ⟨e, hx, hy⟩
  · rintro ⟨e, hx, he⟩
    exact ⟨_, hx, by rw [he]; rfl⟩

/-- Notes on how a batch went are no answers, and do not tell what becomes of tasks. -/
lemma Event.quiet_of_not_lasting {e : Event α} (h : e.lasting = false) :
    e.fate? = none ∧ e.answer? = none := by
  cases e <;> first | exact ⟨rfl, rfl⟩ | cases h

/-- What becomes of tasks and calls can be told without the notes. -/
lemma filterMap_timeline_lasting {β : Type} (q : Place → Bool) (ps : List (Phase α))
    (f : Nat × Entry α → Option β) (quiet : ∀ x, Event.lasting x.2.2 = false → f x = none) :
    ((timeline ps).filter (Entry.lasting q ·.2)).filterMap f = (timeline ps).filterMap f := by
  rw [List.filterMap_filter]
  refine List.filterMap_congr fun x _ => ?_
  cases hx : Entry.lasting q x.2 with
  | true => rfl
  | false =>
    rw [Entry.lasting, Bool.or_eq_false_iff] at hx
    exact (quiet x hx.2).symm

/-- What becomes of a task is told in both. -/
lemma Entry.Hushes.fate_eq {q : Place → Bool} {told : Nat → Prop} {x y : Entry α}
    (h : Entry.Hushes q told x y) : y.2.fate? = x.2.fate? := by
  obtain ⟨-, h⟩ := h
  split at h
  · generalize x.2 = e, y.2 = f at h ⊢
    cases h <;> rfl
  · rw [h]

/-- What is related in pairs is the same if what is taken of each is. -/
lemma filterMap_eq_of_rel {β γ δ : Type} {R : β → γ → Prop} {f : β → Option δ} {g : γ → Option δ}
    {xs : List β} {ys : List γ} (h : List.Forall₂ R xs ys) (same : ∀ x y, R x y → f x = g y) :
    xs.filterMap f = ys.filterMap g := by
  induction h with
  | nil => rfl
  | cons hr _ ih => rw [List.filterMap_cons, List.filterMap_cons, same _ _ hr, ih]

/-- **What becomes of tasks does not depend on panics.** -/
lemma fates_eq_of_hushes {q : Place → Bool} {told : Nat → Prop} {ps qs : List (Phase α)}
    (pairs : List.Forall₂ (fun x y => y.1 = x.1 ∧ Entry.Hushes q told x.2 y.2)
      ((timeline ps).filter (Entry.lasting q ·.2)) ((timeline qs).filter (Entry.lasting q ·.2))) :
    fates ps = fates qs := by
  rw [fates, fates, ← filterMap_timeline_lasting q ps, ← filterMap_timeline_lasting q qs]
  · exact filterMap_eq_of_rel pairs fun x y ⟨htime, hushes⟩ => by
      rw [htime, hushes.1, hushes.fate_eq]
  all_goals exact fun x hx => by rw [(Event.quiet_of_not_lasting hx).1]; rfl

/-! ## The batch -/

namespace Stage

open Scene

variable {g : Stage α} {h : History α} {i : Nat} {b : Batch α} {t : Task α}

/-- **What is told in a batch that can be judged**, and what is told when no discard panics: there
its call is told the values. -/
theorem Judged.answered_rel (hjudged : Judged i h b) {e f : Event α}
    (hmem : (.batch i, e) ∈ events h) (hushes : Event.Hushes (· = b.call) e f) :
    Option.Rel (fun x y : Nat × Answer α => x.1 = y.1 ∧
        (y.1 = b.call → ∃ values, y.2 = .batch (.ok values)) ∧
        x.2 = if y.1 = b.call ∧ b.submitter.broken = true then
          .batch (.error .discardPanic) else y.2)
      e.answer? f.answer? := by
  -- what its call is told in the scene as it is
  have verdict : ∀ answer, (.batch i, .batchAnswered b.call answer) ∈ events h →
      if b.submitter.broken then answer = .batch (.error .discardPanic)
        else ∃ values, answer = .batch (.ok values) := fun answer ha =>
    (hjudged.answered answer ha).2
  cases hushes with
  | same e calm =>
    have hinternal := hjudged.internal e hmem
    cases e with
    | batchAnswered n answer =>
      have hvalues : n = b.call → b.submitter.broken = false ∧
          ∃ values, answer = .batch (.ok values) := by
        rintro rfl
        have hanswer := verdict answer hmem
        split at hanswer
        · exact absurd (.inr hanswer) calm
        · next hbroken => exact ⟨by simpa using hbroken, hanswer⟩
      refine .some ⟨rfl, fun hn => (hvalues hn).2, ?_⟩
      rw [if_neg fun h => by simp [(hvalues h.1).1] at h]
    | _ =>
      rw [hinternal]
      exact .none
  | refused caller panicked who =>
    have hnone : caller = none := who.resolve_right fun hall => by
      have hsucc := hall (b.call + 1)
      omega
    subst hnone
    exact .none
  | stopped => exact .none
  | answered n values =>
    obtain rfl := hjudged.others n hmem
    have hbroken := verdict _ hmem
    cases hb : b.submitter.broken with
    | false => simp [hb] at hbroken
    | true => exact .some ⟨rfl, fun _ => ⟨values, rfl⟩, by simp⟩
  | unbegun n who =>
    subst who
    have hbroken := verdict _ hmem
    split at hbroken <;> simp at hbroken

end Stage

namespace Scene

variable {cs : List (Command α)} {n size : Nat} {tasks : List (Task α)} {admission : Admission}
  {t : Task α}

/-- What further commands reach is reached from what the first ones have reached. -/
lemma reach_append (call : Nat) (s : Scene α) (cs ds : List (Command α)) :
    s.reach call (cs ++ ds) = (((s.reach call cs).1.reach (call + cs.length) ds).1,
      (s.reach call cs).2 ++ ((s.reach call cs).1.reach (call + cs.length) ds).2) := by
  induction cs generalizing call s with
  | nil => rfl
  | cons c cs ih =>
    simp only [List.cons_append, reach, ih, List.length_cons, List.append_assoc, Nat.add_assoc,
      Nat.add_comm 1]

/-- The index of the batch that a command begins: there are so many before. -/
def batchIndex (cs : List (Command α)) (n : Nat) : Nat :=
  (reach 0 {} (cs.take n)).1.batches.length

/-- **The batch is there** when all commands have been carried out. -/
lemma exists_batch (hc : cs[n]? = some (.batch size tasks admission)) (hsize : 0 < size)
    (hne : tasks ≠ []) :
    ∃ b, (reach 0 {} cs).1.batches[batchIndex cs n]? = some b ∧ b.call = n := by
  obtain ⟨hlt, hget⟩ := List.getElem?_eq_some_iff.1 hc
  have hlength : (cs.take n).length = n := List.length_take_of_le (Nat.le_of_lt hlt)
  obtain ⟨h₀, run₀, -⟩ := Stage.Steps.of_reach (cs.take n)
  have hsplit : cs = cs.take n ++ .batch size tasks admission :: cs.drop (n + 1) := by
    rw [← hget, List.getElem_cons_drop, List.take_append_drop]
  rw [hlength] at run₀
  rw [batchIndex, congrArg (reach 0 {}) hsplit, reach_append, hlength]
  simp only [Nat.zero_add]
  generalize (reach 0 {} (cs.take n)).1 = s at run₀
  obtain ⟨k, started⟩ : ∃ k, k = s.order n (.batch size tasks admission) := ⟨_, rfl⟩
  have step : Stage.Step ⟨n, s⟩ k.2 ⟨n + 1, k.1⟩ := started ▸ .order ⟨n, s⟩ _
  -- when it has been begun
  have hbegun : k.1.batches[s.batches.length]? =
      some (.initial s.now n _ (Batch.min_pos hsize hne) tasks admission s.parentCancelled) := by
    rw [started, order, newBatch_of_pos s n admission hsize hne]
    simp
  -- and when all that follows has happened
  obtain ⟨h₁, settling, -⟩ := Stage.Reaches.act (r := (k.1, []))
    (.clock ⟨n + 1, k.1⟩ _ (Nat.le_refl _)) rfl
  have hscene : (act (k.1, ([] : List (Entry α)))).1 =
      (s.perform n (.batch size tasks admission)).2.1 := by
    rw [started]
    rfl
  rw [hscene] at settling
  obtain ⟨h₂, rest, -⟩ := Stage.reaches_reach (n + 1)
    (s.perform n (.batch size tasks admission)).2.1 (cs.drop (n + 1))
  have sound := Stage.Steps.batches_sound (run₀.tail step)
  obtain ⟨c, es, hb, -, hsteps⟩ := (Stage.Steps.changes (settling.trans rest) sound).batch hbegun
  exact ⟨c, hb, Batch.Steps.call_eq hsteps⟩

/-- What the panic of a discard in a batch comes to, when all that happens is `ps`, and `qs` when no
discard panics. -/
structure Contained (i n : Nat) (tasks : List (Task α)) (t : Task α) (ps qs : List (Phase α)) :
    Prop where
  /-- The same tasks start, end and are discarded at the same times. -/
  fates : fates ps = fates qs
  /-- If the task has been admitted, all calls are told the same. -/
  admitted : (∃ caller, (.batch i, .admitted caller t) ∈ allEntries ps) → answers ps = answers qs
  /-- If not, the batch is told that its submitter has broken down, and all other calls are told the
  same. -/
  refused : (∀ caller, (.batch i, .admitted caller t) ∉ allEntries ps) →
    answers ps = (answers qs).map (breakDown i n)
  /-- It is told its values when no discard panics. -/
  values : ∀ time answer, (time, .batch i, n, answer) ∈ answers qs →
    ∃ values, answer = .batch (.ok values)
  /-- The submitter has closed the pool and discarded whatever it has not handed in. -/
  released : (∀ caller, (.batch i, .admitted caller t) ∉ allEntries ps) →
    Stage.Released i tasks (allEntries ps)
  /-- The batch is answered when everything is over. -/
  complete : ∀ before answer after,
    allEntries ps = before ++ (.batch i, .batchAnswered n answer) :: after →
      Stage.Over i tasks before
  /-- It has been answered if whatever was started has come to its end. -/
  returns : (∀ u, (.batch i, .started u) ∈ allEntries ps →
    (.batch i, .ended u) ∈ allEntries ps) → ∃ time answer,
      (time, .batch i, n, answer) ∈ answers ps

/-- **Both scenes side by side**, at all times. -/
lemma timeline_hushes (named : Command.AllNamed cs)
    (hc : cs[n]? = some (.batch size tasks admission)) (ht : t ∈ tasks) {i : Nat}
    (panics : (allEntries (reach 0 {} cs).2).find? (·.2.isFrailDiscard) =
      some (.batch i, .discarded t)) :
    List.Forall₂ (fun x y => y.1 = x.1 ∧ Entry.Hushes (· == .batch i) (· = n) x.2 y.2)
      ((timeline (reach 0 {} cs).2).filter (Entry.lasting (· == .batch i) ·.2))
      ((timeline (reach 0 { brittle := false } cs).2).filter
        (Entry.lasting (· == .batch i) ·.2)) := by
  have hcall : t.id.call = n := by
    obtain ⟨j, hj⟩ := List.mem_iff_getElem?.1 ht
    rw [named n _ hc j t hj]
  have good : (hush (· == .batch i) (· = n)).good ([] ++ allEntries (reach 0 {} cs).2) := by
    intro place u hu
    rw [List.nil_append, panics] at hu
    cases hu
    exact ⟨beq_self_eq_true _, hcall⟩
  have runs := hushed_reach (fun j hj => by simp at hj) cs 0
    (fun k c hk => (Nat.zero_add k).symm ▸ named k c hk) (hushed_initial _ _) good
  exact timeline_rel runs.phases

/-- **What calls are told in both scenes**, if the batch can be judged. -/
lemma answers_rel {h : History α} {i : Nat} {b : Batch α} {ps qs : List (Phase α)}
    (hjudged : Stage.Judged i h b) (hevents : events h = allEntries ps)
    (pairs : List.Forall₂
      (fun x y => y.1 = x.1 ∧ Entry.Hushes (· == .batch i) (· = b.call) x.2 y.2)
      ((timeline ps).filter (Entry.lasting (· == .batch i) ·.2))
      ((timeline qs).filter (Entry.lasting (· == .batch i) ·.2))) :
    (∀ y ∈ answers qs, y.2.1 = .batch i → y.2.2.1 = b.call →
        ∃ values, y.2.2.2 = .batch (.ok values)) ∧
      answers ps = (answers qs).map fun y =>
        if b.submitter.broken then breakDown i b.call y else y := by
  have hmem : ∀ x ∈ (timeline ps).filter (Entry.lasting (· == .batch i) ·.2),
      x.2 ∈ events h := fun x hx => by
    rw [hevents, ← map_snd_timeline]
    exact List.mem_map_of_mem (List.mem_of_mem_filter hx)
  have hboth : List.Forall₂ (fun y x : Nat × Entry α => x.2 ∈ events h ∧ y.1 = x.1 ∧
      Entry.Hushes (· == .batch i) (· = b.call) x.2 y.2)
      ((timeline qs).filter (Entry.lasting (· == .batch i) ·.2))
      ((timeline ps).filter (Entry.lasting (· == .batch i) ·.2)) :=
    List.Forall₂.flip ((List.forall₂_and_left _ _).2 ⟨hmem, pairs⟩)
  have hrel : List.Forall₂ (fun y x => (y.2.1 = .batch i → y.2.2.1 = b.call →
      ∃ values, y.2.2.2 = .batch (.ok values)) ∧
        (if b.submitter.broken then breakDown i b.call y else y) = x)
      (answers qs) (answers ps) := by
    rw [answers, answers, ← filterMap_timeline_lasting (· == .batch i) ps _ fun x hx => by
      rw [(Event.quiet_of_not_lasting hx).2]; rfl, ← filterMap_timeline_lasting (· == .batch i) qs _
      fun x hx => by rw [(Event.quiet_of_not_lasting hx).2]; rfl]
    refine List.rel_filterMap ?_ hboth
    rintro ⟨time, place, f⟩ ⟨_, _, e⟩ ⟨hmem, rfl, rfl, hushes⟩
    dsimp only at hmem hushes ⊢
    by_cases hplace : place = .batch i
    · subst hplace
      have hanswers := hjudged.answered_rel hmem (by simpa using hushes)
      generalize e.answer? = x, f.answer? = y at hanswers ⊢
      cases hanswers with
      | none => exact .none
      | @some x y h =>
        obtain ⟨m, answer⟩ := x
        obtain ⟨m', answer'⟩ := y
        obtain ⟨hcall, hvalues, hanswer⟩ := h
        dsimp only at hcall hvalues hanswer
        subst hcall hanswer
        refine .some ⟨fun _ => hvalues, ?_⟩
        cases b.submitter.broken <;> by_cases hcall : m = b.call <;> simp [breakDown, hcall]
    · obtain rfl : f = e := by simpa [hplace] using hushes
      cases f.answer? with
      | none => exact .none
      | some x => exact .some ⟨fun h => absurd h hplace, by simp [breakDown, hplace]⟩
  obtain ⟨hvalues, hmap⟩ := (List.forall₂_and_left _ _).1 hrel
  refine ⟨hvalues, ?_⟩
  rw [← List.forall₂_map_left_iff, List.forall₂_eq_eq_eq] at hmap
  exact hmap.symm

/-- **The error of a batch.** If the discard that panics is one of a task of a batch that is not
given up, the batch is answered by an error exactly if the task has not been admitted, and
otherwise by its values. Everything else happens as it does when no discard panics.

**Proof sketch.** Both scenes are looked at side by side. The batch differs in what its submitter
remembers of the panic, and in who is told of it, which is the submitter if the task was in its
hands, and else a worker. Neither makes a difference to what happens, until the call returns. -/
theorem submitter_error (named : Command.AllNamed cs)
    (hc : cs[n]? = some (.batch size tasks admission)) (hsize : 0 < size) (ht : t ∈ tasks)
    (panics : panicking? (reach 0 {} cs).2 = some (.batch (batchIndex cs n), t))
    (kept : (.batch (batchIndex cs n), .batchDropped) ∉ allEntries (reach 0 {} cs).2) :
    Contained (batchIndex cs n) n tasks t (reach 0 {} cs).2
      (reach 0 { brittle := false } cs).2 := by
  obtain ⟨h, run, hevents, hmakes⟩ := Stage.exists_reach 0 {} cs
  obtain ⟨-, -, -, settled⟩ := Stage.Steps.of_reach cs
  have panics := find?_of_panicking? panics
  have pairs := timeline_hushes named hc ht panics
  obtain ⟨b, hb, rfl⟩ := exists_batch hc hsize (List.ne_nil_of_mem ht)
  simp only [Nat.zero_add] at run hmakes
  have hnamed : h.Named := Stage.named_of_makes named hmakes
  have hpast : allEntries (reach 0 {} cs).2 = events h := hevents.symm
  rw [hpast] at panics kept
  have hjudged : Stage.Judged (batchIndex cs b.call) h b := Stage.Steps.judged run hnamed hb kept
  obtain ⟨hvalues, hanswers⟩ := answers_rel hjudged hevents pairs
  have hcall : t.id.call = b.call := by
    obtain ⟨j, hj⟩ := List.mem_iff_getElem?.1 ht
    rw [named b.call _ hc j t hj]
  have hbroken : b.submitter.broken = true ↔
      ∀ caller, (.batch (batchIndex cs b.call), .admitted caller t) ∉ events h := by
    rw [hjudged.broken, panics]
    constructor
    · rintro ⟨u, heq, -, hu⟩
      cases heq
      exact hu
    · exact fun hu => ⟨t, rfl, hcall, hu⟩
  -- the tasks of the batch are those of the command
  have htasks : ∀ us, (Place.batch (batchIndex cs b.call), batched b.call us) ∈ h →
      us = tasks := fun us hus => by
    obtain ⟨k, c, hk, hmade⟩ := hmakes _ hus rfl
    cases hmade
    cases hc.symm.trans hk
    rfl
  refine ⟨?_, fun ⟨caller, hadmitted⟩ => ?_, fun hnot => ?_, ?_, fun hnot => ?_, ?_, ?_⟩
  · exact fates_eq_of_hushes pairs
  · rw [hpast] at hadmitted
    have hwhole : b.submitter.broken = false := by
      rw [← Bool.not_eq_true, hbroken]
      exact fun hnot => hnot caller hadmitted
    simpa [hwhole] using hanswers
  · rw [hpast] at hnot
    simpa [hbroken.2 hnot] using hanswers
  · exact fun time answer hmem => hvalues _ hmem rfl rfl
  · rw [hpast] at hnot ⊢
    obtain ⟨us, hus, hreleased⟩ := run.released hb hjudged
      (Stage.finished_of_broken settled hb (hbroken.2 hnot))
    exact htasks us hus ▸ hreleased
  · intro before answer after hsplit
    obtain ⟨us, hus, hover⟩ := run.over_of_answered hnamed hb kept (hpast.symm.trans hsplit)
    exact htasks us hus ▸ hover
  · intro hended
    rw [hpast] at hended
    obtain ⟨answer, hanswer⟩ := run.returned_of_ended hnamed settled hb hjudged hended
    rw [← hpast, ← map_snd_timeline] at hanswer
    obtain ⟨⟨time, x⟩, hx, rfl⟩ := List.mem_map.1 hanswer
    exact ⟨time, answer, mem_answers.2 ⟨_, hx, rfl⟩⟩

/-! ## A batch that is cut short -/

/-- A task of a batch. -/
def part (call index : Nat) (frail : Bool) : Task Nat :=
  { loneTask call (some 10) frail with id := ⟨call, some index⟩, outcome := .value index }

/-- The five tasks of the first batch, one of which is frail. -/
def parts (frail : Nat) : List (Task Nat) :=
  (List.range 5).map fun j => part 0 j (j == frail)

/-- A batch of five tasks on one worker: when it is cut short after five milliseconds one task runs,
two are queued, one waits for its place, and one has not been handed in. Another batch runs
beside it. -/
def cutShort (frail : Nat) (admission : Admission) : List (Command Nat) := [
  .batch 1 (parts frail) admission, .batch 1 [part 1 0 false] .unlimited,
  .advance 5, .cancelParent, .advance 45]

/-- What batches have been told, and when: the values, or that something went wrong. -/
def outcomes (ps : List (Phase Nat)) : List (Nat × Nat × Option (List Nat)) :=
  (answers ps).map fun x =>
    (x.1, x.2.2.1, match x.2.2.2 with | .batch (.ok values) => some values | _ => none)

/-- The commands hand over tasks that carry their numbers. -/
lemma named_cutShort (frail : Nat) (admission : Admission) :
    Command.AllNamed (cutShort frail admission) := by
  have first : Numbered 0 (parts frail) := by
    intro i t ht
    simp only [parts, List.getElem?_map, Option.map_eq_some_iff] at ht
    obtain ⟨j, hj, rfl⟩ := ht
    obtain ⟨-, rfl⟩ := List.getElem?_eq_some_iff.1 hj
    simp [part]
  have second : Numbered 1 [part 1 0 false] := by
    rintro (_ | i) t ht
    · cases ht
      rfl
    · cases ht
  simpa [Command.allNamed_iff, cutShort, Command.Named] using ⟨first, second⟩

/-- No batch is given up. -/
lemma kept_of_all {es : List (Entry α)} {place : Place}
    (h : es.all (fun x => !(x.2 matches .batchDropped)) = true) :
    (place, .batchDropped) ∉ es := fun hmem => by
  have hnot := List.all_eq_true.1 h _ hmem
  cases hnot

/-- If the task that waits for its place is frail, the batch is answered by an error when the three
tasks that had been admitted have ended. If a queued task is, and the batch is cancelled, it is
answered by the value of the one task that ends. -/
theorem submitter_error_cut_short :
    (Contained 0 0 (parts 3) (part 0 3 true) (reach 0 {} (cutShort 3 (.within 0 5000000))).2
        (reach 0 { brittle := false } (cutShort 3 (.within 0 5000000))).2 ∧
      outcomes (reach 0 {} (cutShort 3 (.within 0 5000000))).2 =
        [(10, 1, some [0]), (30, 0, none)] ∧
      outcomes (reach 0 { brittle := false } (cutShort 3 (.within 0 5000000))).2 =
        [(10, 1, some [0]), (30, 0, some [0, 1, 2])]) ∧
    Contained 0 0 (parts 1) (part 0 1 true) (reach 0 {} (cutShort 1 .untilCancelled)).2
        (reach 0 { brittle := false } (cutShort 1 .untilCancelled)).2 ∧
      outcomes (reach 0 {} (cutShort 1 .untilCancelled)).2 =
        [(10, 0, some [0]), (10, 1, some [0])] := by
  refine ⟨⟨?_, by decide +kernel, by decide +kernel⟩, ?_, by decide +kernel⟩
  · exact submitter_error (named_cutShort 3 _) (n := 0) rfl (by decide)
      (List.mem_map.2 ⟨_, by decide, rfl⟩) (by decide +kernel) (kept_of_all (by decide +kernel))
  · exact submitter_error (named_cutShort 1 _) (n := 0) rfl (by decide)
      (List.mem_map.2 ⟨_, by decide, rfl⟩) (by decide +kernel) (kept_of_all (by decide +kernel))

end Scene

end Workforce
