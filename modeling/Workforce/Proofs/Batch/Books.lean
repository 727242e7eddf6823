import Workforce.Proofs.Batch.Notes
import Workforce.Proofs.Pool.Cancelled
import Workforce.Proofs.Scene.Verdict
/-!
# The books of a batch

A batch counts the tasks that its pool admits and keeps the values that its collector receives. When
the call returns with these values, the batch notes the counts. From then on nothing more is
admitted or received, because the collector has been told that the results are closed.

## Main definitions

* `Workforce.Batch.Books` — what a batch has counted, and what it has answered.
* `Workforce.Batch.Carries` — what a change that answers no call does to the books.

## Main results

* `Workforce.Batch.Carries.of_perform?`, `Batch.Carries.of_turn`, `Batch.Carries.of_abandon` —
  moves, and what happens from outside, carry the books on.
* `Workforce.Batch.Books.carry`, `Batch.Books.conclude` — the books are kept, also when the call
  returns.
-/

namespace Workforce

open Occurrence Trail

variable {α : Type}

/-! ## Replies -/

/-- The end of a batch is noted, or the call of one is answered. -/
def Occurrence.reply? : Occurrence α → Option (Event α)
  | event (.batchFinished admitted total collected) =>
    some (.batchFinished admitted total collected)
  | event (.batchAnswered call answer) => some (.batchAnswered call answer)
  | _ => none

/-- What is no reply notes no end of a batch. -/
lemma Trail.collect_final_of_unanswered {os : Trail α} (h : collect reply? os = []) :
    collect final? os = [] := by
  refine List.filterMap_eq_nil_iff.2 fun o ho => ?_
  have hreply := List.filterMap_eq_nil_iff.1 h o ho
  cases o with
  | event e => cases e <;> first | rfl | cases hreply
  | _ => rfl

/-- Nor does it answer a call. -/
lemma Trail.not_answered_of_unanswered {os : Trail α} (h : collect reply? os = []) {n : Nat}
    {answer : Answer α} : event (.batchAnswered n answer) ∉ os := fun hmem => by
  cases List.filterMap_eq_nil_iff.1 h _ hmem

/-- **A pool does not reply.** -/
lemma Pool.Step.unanswered {p q : Pool α} {os : Trail α} (h : Step p os q) :
    collect reply? os = [] := by
  cases h with
  | stop | leave | lose => exact collect_retire_of_none _ _ _ rfl rfl rfl fun _ => rfl
  | withdraw call =>
    exact collect_withdraw_of_none call p (fun _ => rfl) (fun _ => rfl) fun _ => rfl
  | retract => exact collect_retract_of_none p (fun _ => rfl) fun _ => rfl
  | resign => exact collect_map_none _ _ (fun _ => rfl) _
  | _ => rfl

/-- The same along a run. -/
lemma Pool.Steps.unanswered {p q : Pool α} {os : Trail α} (h : Steps p os q) :
    collect reply? os = [] := by
  induction h with
  | refl => rfl
  | tail _ last ih => rw [collect_append, ih, last.unanswered, List.append_nil]

namespace Batch

variable {m : Moment} {b c : Batch α} {es : List (Event α)} {os : Trail α}

/-! ## What the batch learns -/

/-- The batch counts what is admitted. -/
lemma admitted_observeAll (es : List (Event α)) (b : Batch α) :
    (b.observeAll es).admitted = b.admitted + (Trail.admitted (es.map event)).length := by
  induction es generalizing b with
  | nil => rfl
  | cons e es ih =>
    rw [observeAll, List.foldl_cons, ← observeAll, ih]
    cases e with
    | admitted caller t => simp [observe, Trail.admitted, admitted?]; omega
    | received caller drains output => cases output <;> simp [observe, Trail.admitted, admitted?]
    | _ => simp [observe, Trail.admitted, admitted?]

/-- It keeps the values that are received. -/
lemma values_observeAll (es : List (Event α)) (b : Batch α) :
    (b.observeAll es).values = b.values ++ (received (es.map event)).filterMap id := by
  induction es generalizing b with
  | nil => exact (List.append_nil _).symm
  | cons e es ih =>
    rw [observeAll, List.foldl_cons, ← observeAll, ih]
    cases e with
    | received caller drains output => cases output <;> simp [observe, received, receipt?]
    | _ => simp [observe, received, receipt?]

/-! ## What carries the books on -/

/-- What a change that answers no call does to the books of a batch. -/
structure Carries (b : Batch α) (es : List (Event α)) (c : Batch α) : Prop where
  call : c.call = b.call
  total : c.total = b.total
  /-- What is admitted is counted. -/
  admitted : c.admitted = b.admitted + (Trail.admitted (es.map event)).length
  /-- What is received is kept, if it is a value. -/
  values : c.values = b.values ++ (received (es.map event)).filterMap id
  /-- A call that has returned does not come back. -/
  held : c.pool.held = true → b.pool.held = true
  /-- As long as the call is pending, the collector is done only when it is told so. -/
  told : c.pool.held = true → c.pool.receiving = [] →
    b.pool.receiving = [] ∨ collect told? (es.map event) ≠ []
  unanswered : collect reply? (es.map event) = []

/-- When the submitter ends or stops, the books do not change. -/
lemma Carries.of_end (hes : ∀ e ∈ es, (∃ t, e = .discarded t) ∨ e.notesEnd = true)
    (call : c.call = b.call) (total : c.total = b.total) (admitted : c.admitted = b.admitted)
    (values : c.values = b.values) (held : c.pool.held = b.pool.held)
    (receiving : c.pool.receiving = b.pool.receiving) : Carries b es c := by
  have hnone : ∀ {β : Type} {kind : Occurrence α → Option β},
      (∀ t, kind (event (.discarded t)) = none) →
      (∀ e : Event α, e.notesEnd = true → kind (event e) = none) →
      collect kind (es.map event) = [] := by
    intro β kind hdiscard hnote
    refine List.filterMap_eq_nil_iff.2 fun o ho => ?_
    obtain ⟨e, he, rfl⟩ := List.mem_map.1 ho
    rcases hes e he with ⟨t, rfl⟩ | he
    · exact hdiscard t
    · exact hnote e he
  refine ⟨call, total, ?_, ?_, fun h => held ▸ h, fun _ h => .inl (receiving ▸ h), ?_⟩
  · rw [Trail.admitted, hnone (fun _ => rfl) fun e he => by cases e <;> first | rfl | cases he]
    exact admitted
  · rw [received, hnone (fun _ => rfl) fun e he => by cases e <;> first | rfl | cases he]
    exact values.trans (List.append_nil _).symm
  · exact hnone (fun _ => rfl) fun e he => by cases e <;> first | rfl | cases he

/-- When the submitter ends the books do not change. -/
lemma Carries.of_endSubmitter (m : Moment) (panicked : Bool) (b : Batch α) :
    Carries b (b.endSubmitter m panicked).2 (b.endSubmitter m panicked).1 := by
  refine .of_end (fun e he => (mem_endSubmitter he).imp_left fun ⟨t, _, heq⟩ => ⟨t, heq⟩) rfl rfl
    rfl rfl ?_ ?_
  all_goals
    rw [endSubmitter, Pool.close_frame]

/-- Nor do they when it stops with a task in its hands, which it may have had in the line. -/
lemma Carries.of_halt (m : Moment) (t : Task α) {reason : Event α}
    (hreason : reason.notesEnd = true) {d : Batch α} (call : d.call = b.call)
    (total : d.total = b.total) (admitted : d.admitted = b.admitted) (values : d.values = b.values)
    (held : d.pool.held = b.pool.held) (receiving : d.pool.receiving = b.pool.receiving) :
    Carries b (d.halt m t reason).2 (d.halt m t reason).1 := by
  refine .of_end (fun e he => (mem_halt hreason he).imp_left fun ⟨t, _, heq⟩ => ⟨t, heq⟩) call total
    admitted values ?_ ?_
  · refine Eq.trans ?_ held
    rw [halt, endSubmitter, Pool.close_frame]
  · refine Eq.trans ?_ receiving
    rw [halt, endSubmitter, Pool.close_frame]

/-- The submitter carries the books on. -/
lemma Carries.of_feeds {x : Batch α × List (Event α)} (h : b.Feeds m x) : Carries b x.2 x.1 := by
  cases h with
  | refused | done => exact .of_endSubmitter m _ b
  | back active line why =>
    refine .of_halt m _ ?_ rfl rfl rfl rfl rfl rfl
    rcases why with ⟨-, rfl⟩ | ⟨-, -, rfl⟩ <;> rfl
  | due active line remaining due =>
    have hend := Carries.of_endSubmitter m false b
    exact ⟨hend.call, hend.total, hend.admitted, hend.values, hend.held, hend.told,
      hend.unanswered⟩
  | stopped => exact .of_halt m _ rfl rfl rfl rfl rfl rfl rfl
  | @submit t rest active line remaining early free =>
    obtain ⟨hheld, hreceiving, hreply⟩ : (b.pool.submit m ⟨none, t⟩).1.held = b.pool.held ∧
        (b.pool.submit m ⟨none, t⟩).1.receiving = b.pool.receiving ∧
          collect reply? ((b.pool.submit m ⟨none, t⟩).2.map event) = [] := by
      unfold Pool.submit
      split <;> exact ⟨rfl, rfl, rfl⟩
    refine ⟨call_observeAll .., total_observeAll .., admitted_observeAll .., values_observeAll ..,
      fun h => ?_, fun _ h => .inl ?_, hreply⟩
    · rwa [pool_observeAll, hheld] at h
    · rwa [pool_observeAll, hreceiving] at h

/-- So does the pool. -/
lemma Carries.of_pool (hb : b.Sound) {k : Pool.Move} {q : Pool α}
    (h : b.pool.perform? m k = some (q, es)) :
    Carries b es { b.observeAll es with pool := q } := by
  have hstep := Pool.Step.of_perform? h
  refine ⟨call_observeAll .., total_observeAll .., admitted_observeAll .., values_observeAll ..,
    fun held => (Pool.lowers_of_perform? h).held ▸ held, fun _ hq => ?_, hstep.unanswered⟩
  change q.receiving = [] at hq
  rcases hstep.receiving_cases with ⟨heq, -⟩ | ⟨r, -, hj, -⟩ | ⟨r, rest, output, hr, heq, -⟩ |
    ⟨r, -, -, -, -, ht, -⟩ | ⟨f, heq, -, hd, -⟩
  · exact .inl (heq ▸ hq)
  · rw [collect_map_event joined? fun _ => rfl] at hj
    cases hj
  · -- the collector reads on
    rcases hb.collector with hc | ⟨hc, -⟩
    · rw [hr] at hc
      obtain ⟨rfl, rfl⟩ := List.cons.inj hc
      rw [heq] at hq
      cases hq
    · exact .inl hc
  · exact .inr (by rw [ht]; exact List.cons_ne_nil _ _)
  · rw [collect_map_event departed? fun _ => rfl] at hd
    refine .inl ?_
    rw [← hq, heq, List.filter_eq_self.2 fun r hr => ?_]
    simpa using List.filter_eq_nil_iff.1 hd.symm r hr

/-- **A move carries the books on**, unless the call returns in it. -/
theorem Carries.of_perform? (hb : b.Sound) {k : Move} (hk : k ≠ .conclude)
    (h : b.perform? m k = some (c, es)) : Carries b es c := by
  cases k with
  | pool k =>
    obtain ⟨q, hq, rfl⟩ := performPool?_eq_some_iff.1 h
    exact .of_pool hb hq
  | feed => exact .of_feeds (feed?_eq_some_iff.1 h)
  | conclude => exact absurd rfl hk

/-- **What happens from outside carries the books on.** -/
theorem Carries.of_turn (b : Batch α) (x : Turn) : Carries b (x.apply b).2 (x.apply b).1 := by
  have still : ∀ {c : Batch α}, c.call = b.call → c.total = b.total → c.admitted = b.admitted →
      c.values = b.values → c.pool.held = b.pool.held → c.pool.receiving = b.pool.receiving →
      Carries b [] c := fun call total admitted values held receiving =>
    .of_end (fun _ he => by cases he) call total admitted values held receiving
  cases x with
  | finish name =>
    obtain ⟨-, hreceiving, -⟩ := Pool.finish_frame name b.pool
    obtain ⟨hadmitted, hreceived⟩ : Trail.admitted ((b.pool.finish name).2.map event) = [] ∧
        received ((b.pool.finish name).2.map event) = [] := by
      unfold Pool.finish
      cases hfinish : b.pool.finish? name with
      | none => exact ⟨rfl, rfl⟩
      | some y =>
        unfold Pool.finish? at hfinish
        split at hfinish
        · cases hfinish
        · dsimp only at hfinish
          split at hfinish <;> cases hfinish <;> exact ⟨rfl, rfl⟩
    refine ⟨rfl, rfl, ?_, ?_, fun held => Pool.held_finish name b.pool ▸ held,
      fun _ h => .inl (hreceiving ▸ h), (Pool.Steps.of_finish name b.pool).unanswered⟩
    · exact (congrArg (b.admitted + List.length ·) hadmitted).symm
    · show b.values = b.values ++ (received ((b.pool.finish name).2.map event)).filterMap id
      rw [hreceived, List.filterMap_nil, List.append_nil]
  | _ => exact still rfl rfl rfl rfl rfl rfl

/-- **So does giving up the batch.** -/
theorem Carries.of_abandon (b : Batch α) : Carries b b.abandon.2 b.abandon.1 := by
  obtain ⟨hadmitted, -, -, hreceipt, -⟩ := collect_congr (essence_abandon (b := b))
  refine ⟨rfl, rfl, ?_, ?_, fun h => ?_, fun h => ?_, ?_⟩
  · rw [Trail.admitted, hadmitted]
    rfl
  · rw [received, hreceipt]
    exact (List.append_nil _).symm
  · cases h
  · cases h
  · rw [abandon_snd, List.map_cons, List.map_append, List.map_append, List.map_map, collect_cons,
      collect_append, collect_append,
      collect_map_none reply? (event ∘ Event.discarded) fun _ => rfl]
    rcases close_snd b.pool with h | h <;> rw [h] <;> rfl

/-! ## The books -/

/-- What a batch has counted and kept agrees with what has occurred, and so does what was noted and
answered at its end. -/
structure Books (b : Batch α) (os : Trail α) : Prop where
  /-- It knows how many tasks it was given. -/
  tasks : ∃ tasks, batched b.call tasks ∈ os ∧ b.total = tasks.length
  /-- It has counted the tasks that were admitted. -/
  admitted : b.admitted = (Trail.admitted os).length
  /-- It has kept the values that were received. -/
  values : b.values = (received os).filterMap id
  /-- As long as the call is pending, the collector is done only if it was told so. -/
  told : b.pool.held = true → b.pool.receiving = [] → collect told? os ≠ []
  /-- The end has been noted once, with these counts, or not yet. -/
  final : collect final? os = [] ∨ b.pool.held = false ∧ collect told? os ≠ [] ∧
    collect final? os = [(b.admitted, b.total, b.values.length)]
  /-- A call that was answered with values had nothing to run, or is the call of the batch. In this
  case the end has been noted. -/
  answered : ∀ n values, event (.batchAnswered n (.batch (.ok values))) ∈ os →
    batched n [] ∈ os ∨ n = b.call ∧ values = b.values ∧
      collect final? os = [(b.admitted, b.total, b.values.length)]

namespace Books

/-- **The books are carried on** by what answers no call. Once the collector has been told that the
results are closed, nothing may be admitted or received. -/
theorem carry (books : Books b os) (h : Carries b es c)
    (afterwards : collect told? os ≠ [] →
      Trail.admitted (es.map event) = [] ∧ received (es.map event) = []) :
    Books c (os ++ es.map event) := by
  have hfinal : collect final? (os ++ es.map event) = collect final? os := by
    rw [collect_append, collect_final_of_unanswered h.unanswered, List.append_nil]
  -- what was noted at the end stays true
  have still : collect final? os ≠ [] → collect told? os ≠ [] ∧ b.pool.held = false ∧
      c.values = b.values ∧
        collect final? os = [(c.admitted, c.total, c.values.length)] := fun hne => by
    obtain ⟨held, told, heq⟩ := books.final.resolve_left hne
    obtain ⟨hadmitted, hreceived⟩ := afterwards told
    have hvalues : c.values = b.values := by
      rw [h.values, hreceived, List.filterMap_nil, List.append_nil]
    refine ⟨told, held, hvalues, ?_⟩
    rw [heq, h.admitted, hadmitted, h.total, hvalues]
    rfl
  constructor
  · obtain ⟨tasks, hcall, htotal⟩ := books.tasks
    exact ⟨tasks, h.call ▸ List.mem_append_left _ hcall, h.total.trans htotal⟩
  · rw [h.admitted, books.admitted, admitted_append, List.length_append]
  · rw [h.values, books.values, received_append, List.filterMap_append]
  · intro held receiving
    rw [collect_append]
    rcases h.told held receiving with hb | hnew
    · exact List.append_ne_nil_of_left_ne_nil (books.told (h.held held) hb) _
    · exact List.append_ne_nil_of_right_ne_nil _ hnew
  · rw [hfinal]
    refine Classical.or_iff_not_imp_left.2 fun hne => ?_
    obtain ⟨told, held, -, heq⟩ := still hne
    refine ⟨?_, ?_, heq⟩
    · by_contra hc
      rw [h.held (by simpa using hc)] at held
      cases held
    · rw [collect_append]
      exact List.append_ne_nil_of_left_ne_nil told _
  · intro n values hmem
    rw [hfinal]
    refine (books.answered n values ((List.mem_append.1 hmem).resolve_right
      (not_answered_of_unanswered h.unanswered))).imp (List.mem_append_left _) ?_
    rintro ⟨hn, hvalues, heq⟩
    obtain ⟨-, -, hsame, hnoted⟩ := still (by rw [heq]; exact List.cons_ne_nil _ _)
    exact ⟨hn.trans h.call.symm, hvalues.trans hsame.symm, hnoted⟩

/-- **When the call returns** with the values, the end of the batch is noted. -/
theorem conclude (books : Books b os) (h : b.conclude? = some (c, es)) :
    Books c (os ++ es.map event) := by
  obtain ⟨panicked, -, held, receiving, heq⟩ := conclude?_eq_some_iff.1 h
  obtain ⟨rfl, rfl⟩ := Prod.ext_iff.1 heq
  -- the end has not been noted before
  have hbefore : collect final? os = [] := books.final.resolve_right fun hgone => by
    cases held.symm.trans hgone.1
  have told := books.told held receiving
  have hquiet : ∀ {β : Type} (kind : Occurrence α → Option β),
      (∀ a n k, kind (event (.batchFinished a n k)) = none) →
      (∀ n answer, kind (event (.batchAnswered n answer)) = none) →
      collect kind (os ++ (if panicked then
          [.batchAnswered b.call (.batch (.error .discardPanic))]
        else [.batchFinished b.admitted b.total b.values.length,
          .batchAnswered b.call (.batch (.ok b.values))]).map event) = collect kind os := by
    intro β kind hfinished hanswered
    rw [collect_append]
    cases panicked <;> simp [hfinished, hanswered]
  constructor
  · obtain ⟨tasks, hcall, htotal⟩ := books.tasks
    exact ⟨tasks, List.mem_append_left _ hcall, htotal⟩
  · rw [Trail.admitted, hquiet admitted? (fun _ _ _ => rfl) fun _ _ => rfl]
    exact books.admitted
  · rw [received, hquiet receipt? (fun _ _ _ => rfl) fun _ _ => rfl]
    exact books.values
  · exact fun hc => by cases hc
  · rw [hquiet told? (fun _ _ _ => rfl) fun _ _ => rfl, collect_append, hbefore]
    cases panicked with
    | true => exact .inl rfl
    | false => exact .inr ⟨rfl, told, rfl⟩
  · intro n values hmem
    rcases List.mem_append.1 hmem with hold | hnew
    · refine (books.answered n values hold).imp (List.mem_append_left _) fun hown => ?_
      cases hbefore.symm.trans hown.2.2
    · right
      rw [collect_append, hbefore]
      cases panicked with
      | true => simp at hnew
      | false =>
        have hown : n = b.call ∧ values = b.values := by simpa using hnew
        exact ⟨hown.1, hown.2, rfl⟩

end Books

end Batch

end Workforce
