import Workforce.Proofs.Accounting
import Workforce.Proofs.Progress
import Workforce.Proofs.Scene.Aside
/-!
# What breaks a submitter down

The submitter of a batch breaks down when it discards a task and the discard panics. What it
discards it has had in hand and nothing of that has been admitted, whereas what a worker discards
has been. So it can be told from what happened whether a submitter has broken down: the first
frail task that was discarded was one of its own, and had not been admitted.

## Main definitions

* `Workforce.Submitter.broken` — the submitter has broken down.
* `Workforce.Batch.Verdict` — what the call of a batch is told when it returns.
* `Workforce.Batch.Handles` — what a move of a batch does to its submitter and to its tasks.

## Main results

* `Workforce.Batch.Sound.handles` — what every move does.
* `Workforce.Stage.Steps.brittle_eq` — discards panic until a frail task has been discarded.
-/

namespace Workforce

open Occurrence Trail History

variable {α : Type}

/-! ## Moves of a pool -/

/-- The event does not concern a submitter that has some tasks in hand, except that one of these may
be admitted: what is discarded was in the queue, nobody is refused and no batch is answered. -/
def Event.Ordinary (queue hand : List (Task α)) : Event α → Prop
  | discarded t => t ∈ queue
  | admitted _ t => t ∈ hand
  | refused _ _ => False
  | batchAnswered _ _ => False
  | _ => True

/-- The event notes that a submitter has ended, and why. -/
def Event.notesEnd : Event α → Bool
  | poolClosed | deadlineReached _ | admissionCancelled _ => true
  | _ => false

namespace Pool

variable {p q : Pool α} {m : Moment} {k : Move} {es : List (Event α)}

/-- What happens when a worker exits is ordinary. -/
lemma ordinary_retire {hand : List (Task α)} {reason : List (Event α)}
    (hreason : ∀ e ∈ reason, e.Ordinary p.queue hand) :
    ∀ e ∈ (p.retire m reason).2, e.Ordinary p.queue hand :=
  forall_mem_retire m p hreason (fun _ ht => ht) trivial trivial trivial

/-- **What a move of a pool does to tasks**: it refuses the first submission of the line, or
something ordinary happens. -/
lemma ordinary_perform? (h : p.perform? m k = some (q, es)) :
    (∃ s rest, k = .enter ∧ p.submitting = s :: rest ∧ es = refusal m s) ∨
      ∀ e ∈ es, e.Ordinary p.queue p.inHand := by
  have exits : ∀ (r : Pool α) (reason : List (Event α)), r.queue = p.queue →
      (∀ e ∈ reason, e.Ordinary r.queue p.inHand) → r.retire m reason = (q, es) →
      ∀ e ∈ es, e.Ordinary p.queue p.inHand := by
    intro r reason hr hreason heq
    obtain ⟨-, rfl⟩ := Prod.ext_iff.1 heq
    exact hr ▸ ordinary_retire hreason
  cases k with
  | take =>
    obtain ⟨n, t, rest, -, -, -, heq⟩ := take?_eq_some_iff.1 h
    cases heq
    exact .inr (by simp [Event.Ordinary])
  | leave =>
    obtain ⟨n, -, -, heq⟩ := leave?_eq_some_iff.1 h
    exact .inr (exits { p with idle := n } p.farewell rfl (forall_mem_farewell trivial) heq)
  | enter =>
    obtain ⟨s, rest, hs, ⟨-, heq⟩ | ⟨-, -, -, heq⟩⟩ := enter?_eq_some_iff.1 h <;> cases heq
    · exact .inl ⟨s, rest, rfl, hs, rfl⟩
    · exact .inr (by simp [Event.Ordinary, inHand, hs])
  | publish =>
    obtain ⟨output, rest, -, ⟨-, heq⟩ | ⟨-, -, heq⟩⟩ := publish?_eq_some_iff.1 h
    · exact .inr (exits { p with publishing := rest } [.receiverGone] rfl
        (by simp [Event.Ordinary]) heq)
    · cases heq
      exact .inr (by simp [Event.Ordinary])
  | deliver =>
    obtain ⟨r, rest, -, ⟨output, outputs, -, heq⟩ | ⟨-, -, heq⟩⟩ :=
      deliver?_eq_some_iff.1 h <;> cases heq <;> exact .inr (by simp [Event.Ordinary])

end Pool

/-! ## Moves of a batch -/

/-- The submitter has broken down: a discard of its own has panicked. -/
def Submitter.broken : Submitter → Bool
  | active => false
  | refused panicked => panicked
  | finished panicked => panicked

namespace Batch

variable {b c : Batch α} {m : Moment} {k : Move} {es : List (Event α)}

/-- What the call of a batch is told when it returns: the values, or an error if the submitter has
broken down. -/
def Verdict (b : Batch α) (answer : Answer α) : Prop :=
  b.Finished ∧ if b.submitter.broken then answer = .batch (.error .discardPanic)
    else ∃ values, answer = .batch (.ok values)

/-- What a move of a batch does to its submitter and to its tasks. -/
structure Handles (m : Moment) (b : Batch α) (es : List (Event α)) (c : Batch α) : Prop where
  /-- What is discarded was in the queue, and the submitter is not affected; or the submitter had it
  in hand, and breaks down if a discard panics. It has nothing admitted then. -/
  broken : (c.submitter.broken = b.submitter.broken ∧ ∀ t, .discarded t ∈ es → t ∈ b.pool.queue) ∨
    (c.submitter.broken = (b.submitter.broken || (m.brittle && noisy es)) ∧
      (∀ t, .discarded t ∈ es → t ∈ b.inHand) ∧ ∀ caller t, .admitted caller t ∉ es)
  /-- What is admitted the submitter had in hand. -/
  admitted : ∀ caller t, .admitted caller t ∈ es → t ∈ b.inHand
  /-- Once it has ended it stays as it is. -/
  finished : b.Finished → c.submitter = b.submitter
  /-- The call is answered when it returns. -/
  answered : ∀ call answer, .batchAnswered call answer ∈ es → call = b.call ∧ c.Verdict answer
  /-- It returns when the submitter has ended and the collector is done, and nothing is started
  then. -/
  returned : ∀ call answer, .batchAnswered call answer ∈ es → b.Finished ∧ b.pool.held = true ∧
    b.pool.receiving = [] ∧ ∀ t, .started t ∉ es

/-- A submitter that has not ended has what waits in the line and what remains. -/
lemma inHand_of_unfinished (h : ¬b.Finished) : b.inHand = b.pool.inHand ++ b.remaining := by
  unfold inHand
  split
  · next panicked hs => exact absurd ⟨panicked, hs⟩ h
  · rfl

/-- A submitter that ends discards what it has in hand, and breaks down if one of the discards
panics. -/
lemma handles_of_end (unfinished : ¬b.Finished)
    (hes : ∀ e ∈ es, (∃ t ∈ b.inHand, e = .discarded t) ∨ e.notesEnd = true)
    (hc : c.submitter = .finished (b.submitter.broken || (m.brittle && noisy es))) :
    b.Handles m es c where
  broken := by
    refine .inr ⟨congrArg Submitter.broken hc, fun t ht => ?_, fun caller t ht => ?_⟩
    · rcases hes _ ht with ⟨u, hu, heq⟩ | hnote
      · cases heq
        exact hu
      · cases hnote
    · rcases hes _ ht with ⟨u, -, heq⟩ | hnote
      · cases heq
      · cases hnote
  admitted caller t ht := by
    rcases hes _ ht with ⟨u, -, heq⟩ | hnote
    · cases heq
    · cases hnote
  finished hb := absurd hb unfinished
  answered call answer ha := by
    rcases hes _ ha with ⟨u, -, heq⟩ | hnote
    · cases heq
    · cases hnote
  returned call answer ha := by
    rcases hes _ ha with ⟨u, -, heq⟩ | hnote
    · cases heq
    · cases hnote

/-- What remains is discarded when the submitter ends. -/
lemma mem_endSubmitter {panicked : Bool} {e : Event α}
    (he : e ∈ (b.endSubmitter m panicked).2) :
    (∃ t ∈ b.remaining, e = .discarded t) ∨ e.notesEnd = true := by
  rcases List.mem_append.1 he with he | he
  · obtain ⟨t, ht, rfl⟩ := List.mem_map.1 he
    exact .inl ⟨t, ht, rfl⟩
  · rcases close_snd b.pool with h | h <;> rw [h] at he
    · cases he
    · rw [List.mem_singleton.1 he]
      exact .inr rfl

/-- Before that the task in its hands is, when the submitter stops with one. -/
lemma mem_halt {t : Task α} {reason e : Event α} (hreason : reason.notesEnd = true)
    (he : e ∈ (b.halt m t reason).2) :
    (∃ u ∈ t :: b.remaining, e = .discarded u) ∨ e.notesEnd = true := by
  have hend : e ∈ (b.endSubmitter m (m.breaks t)).2 →
      (∃ u ∈ t :: b.remaining, e = .discarded u) ∨ e.notesEnd = true := fun he =>
    (mem_endSubmitter he).imp_left fun ⟨u, hu, heq⟩ => ⟨u, List.mem_cons_of_mem _ hu, heq⟩
  rcases List.mem_cons.1 he with rfl | he
  · exact .inl ⟨t, List.mem_cons_self, rfl⟩
  · split at he
    · exact hend he
    · rcases List.mem_cons.1 he with rfl | he
      · exact .inr hreason
      · exact hend he

/-- The submitter that stops with a task in its hands has ended. -/
lemma halt_submitter (t : Task α) (reason : Event α) (b : Batch α) :
    (b.halt m t reason).1.submitter =
      .finished (m.brittle && (t.frail || b.remaining.any (·.frail))) := by
  have hsubmitter : (b.halt m t reason).1.submitter =
      .finished (m.breaks t || b.remaining.any m.breaks) := rfl
  rw [hsubmitter, Moment.any_breaks, Bool.and_or_distrib_left]
  rfl

/-- Whether one of all these is frail. -/
lemma noisy_halt {reason : Event α} (hreason : reason.notesEnd = true) (t : Task α)
    (b : Batch α) : noisy (b.halt m t reason).2 = (t.frail || b.remaining.any (·.frail)) := by
  have hquiet : reason.isFrailDiscard = false := by cases reason <;> first | rfl | cases hreason
  have htask : (Event.discarded t).isFrailDiscard = t.frail := rfl
  simp only [halt]
  split <;> simp [noisy_endSubmitter, hquiet, htask]

/-- A submitter whose submission is refused breaks down if the discard panics. -/
lemma handles_of_refusal (active : b.submitter = .active) {s : Submission α}
    (hs : s.task ∈ b.inHand) (hc : c.submitter = .refused (m.breaks s.task)) :
    b.Handles m (Pool.refusal m s) c where
  broken := .inr ⟨by simp [hc, active, Submitter.broken, Pool.refusal, Event.isFrailDiscard,
    Moment.breaks, noisy], by simpa [Pool.refusal] using hs, by simp [Pool.refusal]⟩
  admitted := by simp [Pool.refusal]
  finished := by
    rintro ⟨panicked, h⟩
    simp [active] at h
  answered := by simp [Pool.refusal]
  returned := by simp [Pool.refusal]

/-- Where something ordinary happens the submitter is not affected. -/
lemma handles_of_ordinary (hes : ∀ e ∈ es, e.Ordinary b.pool.queue b.inHand)
    (hc : c.submitter = b.submitter) : b.Handles m es c where
  broken := .inl ⟨congrArg Submitter.broken hc, fun _ => hes _⟩
  admitted _ _ := hes _
  finished _ := hc
  answered _ _ ha := (hes _ ha).elim
  returned _ _ ha := (hes _ ha).elim

/-- What is ordinary does not concern the submitter. -/
lemma submitter_of_ordinary {queue hand : List (Task α)} (hes : ∀ e ∈ es, e.Ordinary queue hand)
    (b : Batch α) : (b.observeAll es).submitter = b.submitter := by
  refine submitter_observeAll (List.filterMap_eq_nil_iff.2 fun o ho => ?_) b
  obtain ⟨e, he, rfl⟩ := List.mem_map.1 ho
  cases e with
  | refused caller panicked => exact (hes _ he).elim
  | _ => rfl

/-- A submitter that is active has not ended. -/
lemma not_finished_of_active (active : b.submitter = .active) : ¬b.Finished := by
  rintro ⟨panicked, hfin⟩
  cases active.symm.trans hfin

/-- What the submitter of a batch does to its tasks. -/
lemma handles_of_feeds {x : Batch α × List (Event α)} (h : b.Feeds m x) :
    b.Handles m x.2 x.1 := by
  have hand : b.submitter = .active → b.inHand = b.pool.inHand ++ b.remaining := fun hs =>
    inHand_of_unfinished (not_finished_of_active hs)
  have hbreaks : ∀ panicked : Bool, (b.endSubmitter m panicked).1.submitter =
      .finished (panicked || (m.brittle && b.remaining.any (·.frail))) := fun panicked => by
    rw [← Moment.any_breaks]
    rfl
  -- what remains is in hand
  have rest : ∀ {panicked : Bool} {e : Event α}, ¬b.Finished →
      e ∈ (b.endSubmitter m panicked).2 →
        (∃ t ∈ b.inHand, e = .discarded t) ∨ e.notesEnd = true := fun hfin he =>
    (mem_endSubmitter he).imp_left <| by
      rintro ⟨t, ht, heq⟩
      exact ⟨t, inHand_of_unfinished hfin ▸ List.mem_append_right _ ht, heq⟩
  cases h with
  | refused hs =>
    have hfin : ¬b.Finished := by
      rintro ⟨panicked, hfin⟩
      cases hs.symm.trans hfin
    refine handles_of_end hfin (fun e he => rest hfin he) ?_
    rw [hbreaks, noisy_endSubmitter, hs]
    rfl
  | done hs hline hrem =>
    have hfin := not_finished_of_active hs
    refine handles_of_end hfin (fun e he => rest hfin he) ?_
    rw [hbreaks, noisy_endSubmitter, hs]
    rfl
  | @back s line reason hs hline why =>
    have hreason : reason.notesEnd = true := by
      rcases why with ⟨-, rfl⟩ | ⟨-, -, rfl⟩ <;> rfl
    refine handles_of_end (not_finished_of_active hs) (fun e he => ?_) ?_
    · refine (mem_halt hreason he).imp_left ?_
      rintro ⟨t, ht, heq⟩
      refine ⟨t, ?_, heq⟩
      rw [hand hs, Pool.inHand, hline]
      rcases List.mem_cons.1 ht with rfl | ht
      · exact List.mem_append_left _ List.mem_cons_self
      · exact List.mem_append_right _ ht
    · rw [halt_submitter, noisy_halt hreason, hs]
      rfl
  | due hs hline hrem hd =>
    have hfin := not_finished_of_active hs
    refine handles_of_end hfin (fun e he => ?_) ?_
    · rcases List.mem_cons.1 he with rfl | he
      · exact .inr rfl
      · exact rest hfin he
    · rw [hbreaks, noisy_cons, noisy_endSubmitter, hs]
      rfl
  | stopped hs hline hrem hd hstop =>
    refine handles_of_end (not_finished_of_active hs) (fun e he => ?_) ?_
    · refine (mem_halt rfl he).imp_left ?_
      rintro ⟨u, hu, heq⟩
      refine ⟨u, ?_, heq⟩
      rw [hand hs, hrem]
      exact List.mem_append_right _ hu
    · rw [halt_submitter, noisy_halt rfl, hs]
      rfl
  | @submit t rest hs hline hrem hd hstop =>
    have ht : t ∈ b.inHand := by
      rw [hand hs, hrem]
      exact List.mem_append_right _ List.mem_cons_self
    unfold Pool.submit
    split
    · refine handles_of_refusal (s := ⟨none, t⟩) hs ht ?_
      simp [Pool.refusal, observeAll, observe, hs, Submitter.refuse]
    · exact handles_of_ordinary (by simp) rfl

/-- What the return of the call does to its tasks: nothing. -/
lemma handles_conclude? {x : Batch α × List (Event α)} (h : b.conclude? = some x) :
    b.Handles m x.2 x.1 := by
  obtain ⟨panicked, hfin, hheld, hreceiving, rfl⟩ := conclude?_eq_some_iff.1 h
  refine ⟨.inl ⟨rfl, ?_⟩, ?_, fun _ => rfl, fun call answer ha => ?_, fun call answer _ =>
    ⟨⟨panicked, hfin⟩, hheld, hreceiving, ?_⟩⟩
  · split <;> simp
  · split <;> simp
  · cases panicked with
    | true =>
      cases List.mem_singleton.1 ha
      exact ⟨rfl, ⟨true, hfin⟩, by simp [hfin, Submitter.broken]⟩
    | false =>
      have ha : call = b.call ∧ answer = .batch (.ok b.values) := by simpa using ha
      obtain ⟨rfl, rfl⟩ := ha
      exact ⟨rfl, ⟨false, hfin⟩, by simp [hfin, Submitter.broken]⟩
  · split <;> simp

/-- **What every move of a sound batch does** to its submitter and to its tasks.

**Proof sketch.** The moves of the pool discard what is in the queue or refuse the submission in
the line, which is the submitter's. Whatever the submitter discards itself it has in hand; it has
broken down afterwards if it had before, or if one of these discards has panicked. -/
theorem Sound.handles (hb : b.Sound) (h : b.perform? m k = some (c, es)) : b.Handles m es c := by
  cases k with
  | pool k =>
    obtain ⟨q, hq, rfl⟩ := performPool?_eq_some_iff.1 h
    -- whatever waits in the line is in the submitter's hands
    have hactive : b.pool.submitting ≠ [] → b.submitter = .active := hb.line.resolve_right
    have hline : ∀ t ∈ b.pool.inHand, t ∈ b.inHand := fun t ht => by
      have hne : b.pool.submitting ≠ [] := fun hnil => by simp [Pool.inHand, hnil] at ht
      rw [inHand_of_unfinished (not_finished_of_active (hactive hne))]
      exact List.mem_append_left _ ht
    rcases Pool.ordinary_perform? hq with ⟨s, rest, rfl, hs, rfl⟩ | hes
    · have hs' := hactive (by simp [hs])
      refine handles_of_refusal hs' (hline _ ?_) ?_
      · rw [Pool.inHand, hs]
        exact List.mem_cons_self
      · simp [Pool.refusal, observeAll, observe, hs', Submitter.refuse]
    · refine handles_of_ordinary (fun e he => ?_) (submitter_of_ordinary hes b)
      have hordinary := hes e he
      cases e with
      | admitted caller t => exact hline t hordinary
      | _ => exact hordinary
  | feed => exact handles_of_feeds (feed?_eq_some_iff.1 h)
  | conclude => exact handles_conclude? h

/-! ### When the pool is closed -/

/-- Whoever closes a pool that was open notes it. -/
lemma closed_or_closes (p : Pool α) : p.closed = true ∨ .poolClosed ∈ p.close.2 := by
  unfold Pool.close
  split
  · next closed => exact .inl closed
  · exact .inr List.mem_cons_self

/-- So does a submitter that ends. -/
lemma closes_of_feeds {x : Batch α × List (Event α)} (h : b.Feeds m x)
    (closed : x.1.pool.closed = true) : b.pool.closed = true ∨ .poolClosed ∈ x.2 := by
  have hend : ∀ (panicked : Bool) (d : Batch α), d.pool.closed = b.pool.closed →
      b.pool.closed = true ∨ .poolClosed ∈ (d.endSubmitter m panicked).2 := fun panicked d hd =>
    hd ▸ (closed_or_closes d.pool).imp_right fun hmem => List.mem_append_right _ hmem
  have hhalt : ∀ (t : Task α) (reason : Event α) (d : Batch α), d.pool.closed = b.pool.closed →
      b.pool.closed = true ∨ .poolClosed ∈ (d.halt m t reason).2 := fun t reason d hd => by
    refine (hend (m.breaks t) d hd).imp_right fun hmem => List.mem_cons_of_mem _ ?_
    split
    · exact hmem
    · exact List.mem_cons_of_mem _ hmem
  cases h with
  | refused hs => exact hend _ b rfl
  | done hs hline hrem => exact hend _ b rfl
  | back hs hline why => exact hhalt _ _ _ rfl
  | due hs hline hrem hd => exact (hend _ b rfl).imp_right (List.mem_cons_of_mem _)
  | stopped hs hline hrem hd hstop => exact hhalt _ _ _ rfl
  | @submit t rest hs hline hrem hd hstop =>
    refine .inl ?_
    rw [pool_observeAll, Pool.submit_frame] at closed
    exact closed

/-- **A pool gets closed where that is noted.** -/
lemma closes_of_perform? (h : b.perform? m k = some (c, es)) (closed : c.pool.closed = true) :
    b.pool.closed = true ∨ .poolClosed ∈ es := by
  cases k with
  | pool k =>
    obtain ⟨q, hq, rfl⟩ := performPool?_eq_some_iff.1 h
    exact .inl ((Pool.flags_of_perform? hq).1 ▸ closed)
  | feed => exact closes_of_feeds (feed?_eq_some_iff.1 h) closed
  | conclude =>
    obtain ⟨panicked, -, -, -, heq⟩ := conclude?_eq_some_iff.1 h
    obtain ⟨rfl, -⟩ := Prod.ext_iff.1 heq
    exact .inl closed

/-! ### When the call returns -/

/-- Whatever the submitter does, the call has not returned. -/
lemma held_of_feeds {x : Batch α × List (Event α)} (h : b.Feeds m x) :
    x.1.pool.held = b.pool.held := by
  have hend : ∀ (panicked : Bool) (d : Batch α),
      (d.endSubmitter m panicked).1.pool.held = d.pool.held := fun panicked d => by
    rw [endSubmitter, Pool.close_frame]
  cases h with
  | refused hs => exact hend _ b
  | done hs hline hrem => exact hend _ b
  | back hs hline why => exact hend _ _
  | due hs hline hrem hd => exact hend _ b
  | stopped hs hline hrem hd hstop => exact hend _ _
  | @submit t rest hs hline hrem hd hstop =>
    rw [pool_observeAll]
    show (b.pool.submit m ⟨none, t⟩).1.held = _
    rw [Pool.submit_frame]

/-- **The call returns where it is answered.** -/
lemma returns_of_perform? (h : b.perform? m k = some (c, es)) :
    c.pending = b.pending ∨ ∃ answer, .batchAnswered b.call answer ∈ es := by
  cases k with
  | pool k =>
    obtain ⟨q, hq, rfl⟩ := performPool?_eq_some_iff.1 h
    exact .inl (Pool.lowers_of_perform? hq).held
  | feed => exact .inl (held_of_feeds (feed?_eq_some_iff.1 h))
  | conclude =>
    obtain ⟨panicked, -, -, -, heq⟩ := conclude?_eq_some_iff.1 h
    obtain ⟨-, rfl⟩ := Prod.ext_iff.1 heq
    cases panicked
    · exact .inr ⟨_, List.mem_cons_of_mem _ List.mem_cons_self⟩
    · exact .inr ⟨_, List.mem_cons_self⟩

/-! ### From outside -/

/-- What happens from outside does not concern the submitter, and nothing is discarded or
admitted. -/
lemma Turn.ordinary (b : Batch α) (x : Turn) : ∀ e ∈ (x.apply b).2, e.Ordinary [] [] := by
  cases x with
  | finish name =>
    show ∀ e ∈ (b.pool.finish name).2, e.Ordinary [] []
    unfold Pool.finish
    cases h : b.pool.finish? name with
    | none => simp
    | some y =>
      unfold Pool.finish? at h
      split at h
      · cases h
      · dsimp only at h
        split at h <;> cases h <;> simp [Event.Ordinary]
  | _ => simp [apply]

/-- So the submitter goes on as before. -/
lemma Turn.handles (b : Batch α) (x : Turn) : b.Handles m (x.apply b).2 (x.apply b).1 := by
  refine handles_of_ordinary (fun e he => ?_) (by cases x <;> rfl)
  have hordinary := Turn.ordinary b x e he
  cases e <;> first | exact hordinary | cases hordinary

/-- Nor is the pool closed, and the call does not return. -/
lemma Turn.flags (b : Batch α) (x : Turn) :
    (x.apply b).1.pool.closed = b.pool.closed ∧ (x.apply b).1.pending = b.pending := by
  cases x with
  | finish name =>
    exact ⟨(Pool.finish_frame name b.pool).2.2.1, Pool.held_finish name b.pool⟩
  | _ => exact ⟨rfl, rfl⟩

/-- No frail task is discarded. -/
lemma Turn.quiet (b : Batch α) (x : Turn) : noisy (x.apply b).2 = false := by
  refine List.any_eq_false.2 fun e he => ?_
  have hordinary := Turn.ordinary b x e he
  cases e with
  | discarded t => cases hordinary
  | _ => simp [Event.isFrailDiscard]

end Batch

/-! ## Steps of a scene -/

namespace Stage

open Scene

variable {g g' : Stage α} {h : History α} {i : Nat} {b : Batch α}

/-- Discards panic after a step if they did before and no frail task has been discarded. -/
lemma Step.brittle_eq (step : Step g h g') :
    g'.scene.brittle = (g.scene.brittle && !noisy ((events h).map Prod.snd)) := by
  cases step with
  | order c => exact brittle_order _ _ c
  | pool k here move =>
    rw [events_ofEntries]
    simp [putPool, after, noisy, Function.comp_def]
  | batch k here move =>
    rw [events_ofEntries]
    simp [putBatch, after, noisy, Function.comp_def]
  | finish id =>
    rw [events_ofEntries]
    exact brittle_everywhere (fun _ => Pool.finish id) (fun _ => Batch.finish id) g.scene
  | clock time later => exact (Bool.and_true _).symm

/-- **Discards panic until a frail task has been discarded.** -/
theorem Steps.brittle_eq (run : Steps {} h g) :
    g.scene.brittle = !noisy ((events h).map Prod.snd) := by
  induction run with
  | refl => rfl
  | tail _ last ih =>
    rw [last.brittle_eq, ih, events_append, List.map_append, noisy_append, Bool.not_or]

end Stage

end Workforce
