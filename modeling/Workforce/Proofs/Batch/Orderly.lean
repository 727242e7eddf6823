import Workforce.Proofs.Pool.Orderly
/-!
# Moves of a batch commute

The moves of the submitter and those of the pool touch different parts of a batch, apart from the
line of submissions: a submission that waits must not be decided on by the pool while the submitter
takes it back. In a batch that nobody gives up this cannot happen, because a submitter that is
stopped with a submission in the line faces a full queue and busy workers. A batch that was given up
has only its workers left, which exit.

## Main definitions

* `Workforce.Batch.GivenUp` — what holds of a batch that was given up.
* `Workforce.Batch.Orderly` — no two moves can get in each other's way.

## Main results

* `Workforce.Batch.Orderly.of_perform?` — moves keep a batch orderly.
* `Workforce.Batch.Orderly.join` — two moves of an orderly batch can be made in either order.
-/

namespace Workforce.Pool

variable {α : Type} {m : Moment} {p q : Pool α} {es : List (Event α)} {k : Move}

/-- Nothing can move in a pool without workers, on which nobody waits and whose results have been
received. -/
lemma perform?_eq_none_of_gone (hw : p.workers = 0) (hsub : p.submitting = [])
    (hrec : p.receiving = []) (k : Move) : p.perform? m k = none := by
  obtain ⟨hidle, -, hpub⟩ := workers_eq_zero_iff.1 hw
  cases k with
  | take => exact take?_eq_none_iff.2 (.inr (.inl hidle))
  | leave => exact leave?_eq_none_iff.2 (.inl hidle)
  | enter => exact enter?_eq_none_iff.2 (.inl hsub)
  | publish => exact publish?_eq_none_iff.2 (.inl hpub)
  | deliver => exact deliver?_eq_none_iff.2 (.inl hrec)

/-- Apart from decisions on submissions, what moves do in an open pool that is in use depends
neither on the line of submissions nor on whether it is closed, and they change neither. -/
lemma perform?_frame (hk : k ≠ .enter) (held : p.held = true) (opened : p.closed = false)
    (h : p.perform? m k = some (q, es)) (line : List (Submission α)) (closed : Bool) :
    ({ p with submitting := line, closed := closed } : Pool α).perform? m k =
        some ({ q with submitting := line, closed := closed }, es) ∧
      q.submitting = p.submitting := by
  have inUse : ∀ p' : Pool α, p'.held = p.held → p'.deserted = false := fun p' hp' => by
    simp [deserted, hp', held]
  cases k with
  | take =>
    obtain ⟨n, t, rest, hfree, hidle, hqueue, heq⟩ := take?_eq_some_iff.1 h
    cases heq
    exact ⟨take?_eq_some_iff.2 ⟨n, t, rest, hfree, hidle, hqueue, rfl⟩, rfl⟩
  | leave =>
    obtain ⟨n, hidle, hwhy, heq⟩ := leave?_eq_some_iff.1 h
    have hc : p.cancelled = true := by
      refine hwhy.resolve_right fun hs => ?_
      obtain ⟨-, hend⟩ := sealed_iff.1 hs.2
      simp [opened, inUse p rfl] at hend
    rw [retire_congr m p.farewell (p := { p with idle := n }) rfl rfl rfl] at heq
    cases heq
    exact ⟨leave?_eq_some_iff.2 ⟨n, hidle, .inl hc, retire_congr m p.farewell rfl rfl rfl⟩, rfl⟩
  | enter => exact absurd rfl hk
  | publish =>
    obtain ⟨output, rest, hpub, ⟨hd, -⟩ | ⟨-, hroom, heq⟩⟩ := publish?_eq_some_iff.1 h
    · simp [inUse p rfl] at hd
    · cases heq
      exact ⟨publish?_eq_some_iff.2 ⟨output, rest, hpub, .inr ⟨inUse _ rfl, hroom, rfl⟩⟩, rfl⟩
  | deliver =>
    obtain ⟨r, rest, hrec, ⟨output, outputs, hout, heq⟩ | ⟨hout, hw, heq⟩⟩ :=
      deliver?_eq_some_iff.1 h <;> cases heq
    · exact ⟨deliver?_eq_some_iff.2 ⟨r, rest, hrec, .inl ⟨output, outputs, hout, rfl⟩⟩, rfl⟩
    · exact ⟨deliver?_eq_some_iff.2 ⟨r, rest, hrec, .inr ⟨hout, hw, rfl⟩⟩, rfl⟩

end Workforce.Pool

namespace Workforce.Batch

open Occurrence Trail

variable {α : Type} {m : Moment} {b c d : Batch α} {q r : Pool α} {es fs : List (Event α)}
  {now : Nat}

/-! ## What the batch learns from a move -/

/-- Apart from decisions on submissions, the batch learns of values only. -/
lemma observeAll_of_perform? {p : Pool α} {k : Pool.Move} (hk : k ≠ .enter)
    (h : p.perform? m k = some (q, es)) :
    ∃ vs, (k.Silent → vs = []) ∧ ∀ b : Batch α, b.observeAll es =
      { b with values := b.values ++ vs } := by
  have quiet : (∀ b : Batch α, b.observeAll es = b) → ∃ vs, (k.Silent → vs = []) ∧
      ∀ b : Batch α, b.observeAll es = { b with values := b.values ++ vs } := fun hquiet =>
    ⟨[], fun _ => rfl, fun b => by rw [hquiet, List.append_nil]⟩
  cases k with
  | take =>
    obtain ⟨n, t, rest, -, -, -, heq⟩ := Pool.take?_eq_some_iff.1 h
    cases heq
    exact quiet fun b => rfl
  | leave =>
    obtain ⟨n, -, -, heq⟩ := Pool.leave?_eq_some_iff.1 h
    obtain ⟨-, rfl⟩ := Prod.ext_iff.1 heq
    exact quiet (observeAll_retire m (Pool.forall_mem_farewell fun b => rfl) _)
  | enter => exact absurd rfl hk
  | publish =>
    obtain ⟨output, rest, -, ⟨-, heq⟩ | ⟨-, -, heq⟩⟩ := Pool.publish?_eq_some_iff.1 h
    · obtain ⟨-, rfl⟩ := Prod.ext_iff.1 heq
      refine quiet (observeAll_retire m (fun e he b => ?_) _)
      rw [List.mem_singleton.1 he]
      rfl
    · cases heq
      exact quiet fun b => rfl
  | deliver =>
    obtain ⟨r, rest, -, ⟨output, outputs, -, heq⟩ | ⟨-, -, heq⟩⟩ :=
      Pool.deliver?_eq_some_iff.1 h <;> cases heq
    · refine ⟨output.toList, fun hs => absurd rfl hs.2, fun b => ?_⟩
      cases output with
      | none => simp [observeAll, observe]
      | some v => rfl
    · exact quiet fun b => rfl

/-- From a decision on a submission it learns nothing about values. -/
lemma observeAll_of_enter? {p : Pool α} (h : p.enter? m = some (q, es)) :
    ∃ (n : Nat) (f : Submitter → Submitter), ∀ b : Batch α, b.observeAll es =
      { b with admitted := b.admitted + n, submitter := f b.submitter } := by
  obtain ⟨s, rest, -, ⟨-, heq⟩ | ⟨-, -, -, heq⟩⟩ := Pool.enter?_eq_some_iff.1 h <;> cases heq
  · exact ⟨0, Submitter.refuse (m.breaks s.task), fun b => rfl⟩
  · exact ⟨1, id, fun b => rfl⟩

/-- It does not matter in which order it learns of two moves. -/
lemma observeAll_comm {p : Pool α} {k l : Pool.Move} (hkl : k ≠ l)
    (h : p.perform? m k = some (q, es)) (h' : p.perform? m l = some (r, fs)) (b : Batch α) :
    (b.observeAll es).observeAll fs = (b.observeAll fs).observeAll es := by
  -- what is learned of one submission and of values
  have mixed : ∀ {q r : Pool α} {es fs : List (Event α)} {l : Pool.Move}, l ≠ .enter →
      p.enter? m = some (q, es) → p.perform? m l = some (r, fs) →
      (b.observeAll es).observeAll fs = (b.observeAll fs).observeAll es := by
    intro q r es fs l hl he hf
    obtain ⟨n, f, hes⟩ := observeAll_of_enter? he
    obtain ⟨vs, -, hfs⟩ := observeAll_of_perform? hl hf
    rw [hes, hfs, hfs, hes]
  by_cases hk : k = .enter
  · subst hk
    exact mixed (Ne.symm hkl) h h'
  · by_cases hl : l = .enter
    · subst hl
      exact (mixed hk h' h).symm
    · obtain ⟨vs, hvs, hes⟩ := observeAll_of_perform? hk h
      obtain ⟨ws, hws, hfs⟩ := observeAll_of_perform? hl h'
      -- only one of them tells of a value
      have hone : vs = [] ∨ ws = [] := by
        by_cases hd : k = .deliver
        · exact .inr (hws ⟨hl, fun h => hkl (hd.trans h.symm)⟩)
        · exact .inl (hvs ⟨hk, hd⟩)
      rw [hes, hfs, hfs, hes]
      rcases hone with rfl | rfl <;> simp

/-! ## What it takes to move -/

/-- The call does not return before the submitter has ended and the collector is done. -/
lemma conclude?_eq_none_iff : b.conclude? = none ↔
    ¬(b.Finished ∧ b.pool.held = true ∧ b.pool.receiving = []) := by
  constructor
  · rintro h ⟨⟨panicked, hfin⟩, hheld, hrec⟩
    have hsome := conclude?_eq_some_iff.2 ⟨panicked, hfin, hheld, hrec, rfl⟩
    rw [h] at hsome
    cases hsome
  · intro h
    refine Option.eq_none_iff_forall_ne_some.2 fun x hx => h ?_
    obtain ⟨panicked, hfin, hheld, hrec, -⟩ := conclude?_eq_some_iff.1 hx
    exact ⟨⟨panicked, hfin⟩, hheld, hrec⟩

/-! ## Orderly batches -/

/-- What holds of a batch that was given up: its submitter has ended, and nobody receives. -/
structure GivenUp (b : Batch α) : Prop where
  finished : b.Finished
  deserted : b.pool.deserted = true

/-- No two moves can get in each other's way. -/
def Orderly (now : Nat) (b : Batch α) : Prop := b.Kept now ∨ b.GivenUp

/-- Moves of a batch that was given up are moves of its pool. -/
lemma GivenUp.exists_of_perform? (hb : b.GivenUp) {k : Move} (h : b.perform? m k = some (c, es)) :
    ∃ l q, k = .pool l ∧ b.pool.perform? m l = some (q, es) ∧
      c = ({ b with pool := q } : Batch α).observeAll es := by
  obtain ⟨panicked, hfin⟩ := hb.finished
  cases k with
  | pool l =>
    obtain ⟨q, hq, rfl⟩ := performPool?_eq_some_iff.1 h
    exact ⟨l, q, rfl, hq, (observeAll_setPool es b q).symm⟩
  | feed => simp [perform?, feed?, hfin] at h
  | conclude =>
    obtain ⟨-, -, hheld, -⟩ := conclude?_eq_some_iff.1 h
    simp [(Pool.deserted_iff.1 hb.deserted).1] at hheld

/-- Moves keep a batch given up. -/
lemma GivenUp.of_perform? (hb : b.GivenUp) {k : Move} (h : b.perform? m k = some (c, es)) :
    c.GivenUp := by
  obtain ⟨l, q, -, hq, rfl⟩ := hb.exists_of_perform? h
  refine ⟨(finished_observeAll _ _).2 hb.finished, ?_⟩
  rw [pool_observeAll]
  exact (Pool.Step.of_perform? hq).deserted_mono hb.deserted

/-- **Moves keep a batch orderly.** -/
theorem Orderly.of_perform? {k : Move} (hb : b.Orderly m.now) (h : b.perform? m k = some (c, es)) :
    c.Orderly m.now := by
  rcases hb with hb | hb
  · obtain ⟨left, dropped, hadvance⟩ := hb.advance h
    exact .inl (hb.of_advance hadvance (hb.sound.step (.of_perform? hb.sound h)))
  · exact .inr (hb.of_perform? h)

/-- The pool of an orderly batch is orderly. -/
lemma Orderly.pool (hb : b.Orderly now) : b.pool.Orderly := by
  rcases hb with hb | hb
  · refine ⟨fun hc => ?_, ?_⟩
    · rcases hb.steady with hactive | hfin
      · rcases hb.blocked hactive (.inl hc) with hu | hj
        · exact .inl hu.line
        · exact .inr (.inr (.inl (Nat.le_of_eq hj.full.symm)))
      · refine .inl (hb.sound.line.resolve_left fun hactive => ?_)
        obtain ⟨panicked, hfin⟩ := hfin
        simp [hactive] at hfin
    · cases hheld : b.pool.held with
      | true => exact .inl rfl
      | false =>
        obtain ⟨-, -, hpub⟩ := Pool.workers_eq_zero_iff.1 (hb.gone hheld)
        exact .inr (.inr (.inl (.inl hpub)))
  · obtain ⟨-, hsub, -⟩ := Pool.deserted_iff.1 hb.deserted
    exact ⟨fun _ => .inl hsub, .inr (.inl hb.deserted)⟩

/-! ## Two moves in either order -/

/-- Two moves of the pool can be made in either order. -/
lemma Orderly.join_pool (hb : b.Orderly now) {k l : Pool.Move} (hkl : k ≠ l)
    (h : b.performPool? m k = some (c, es)) (h' : b.performPool? m l = some (d, fs)) :
    ∃ t es' fs', c.performPool? m l = some (t, fs') ∧ d.performPool? m k = some (t, es') ∧
      (es ++ fs').Perm (fs ++ es') := by
  obtain ⟨q, hq, rfl⟩ := performPool?_eq_some_iff.1 h
  obtain ⟨r, hr, rfl⟩ := performPool?_eq_some_iff.1 h'
  obtain ⟨t, es', fs', hl, hk, hperm, hwhat⟩ := hb.pool.join hkl hq hr
  have hlearn : (b.observeAll es).observeAll fs' = (b.observeAll fs).observeAll es' := by
    rcases hwhat with ⟨rfl, rfl⟩ | ⟨hks, hls⟩
    · exact observeAll_comm hkl hq hr b
    · have silent : ∀ {p q : Pool α} {es : List (Event α)} {k : Pool.Move}, k.Silent →
          p.perform? m k = some (q, es) → ∀ b : Batch α, b.observeAll es = b := by
        intro p q es k hk hq b
        obtain ⟨vs, hvs, hes⟩ := observeAll_of_perform? hk.1 hq
        rw [hes, hvs hk, List.append_nil]
      rw [silent hks hq, silent hls hl, silent hls hr, silent hks hk]
  refine ⟨{ (b.observeAll es).observeAll fs' with pool := t }, es', fs', ?_, ?_, hperm⟩
  · refine performPool?_eq_some_iff.2 ⟨t, hl, ?_⟩
    rw [observeAll_setPool fs' (b.observeAll es) q]
  · refine performPool?_eq_some_iff.2 ⟨t, hk, ?_⟩
    rw [observeAll_setPool es' (b.observeAll fs) r, hlearn]

/-- Of the pool the submitter changes the line of submissions and whether it is closed. -/
lemma pool_of_feed? (h : b.feed? m = some (c, fs)) :
    c.pool = { b.pool with submitting := c.pool.submitting, closed := c.pool.closed } := by
  have ends : ∀ (d : Batch α) (panicked : Bool) (line : List (Submission α)),
      d.pool = { b.pool with submitting := line } →
      (d.endSubmitter m panicked).1.pool = { b.pool with submitting := line, closed := true } := by
    intro d panicked line hd
    rw [endSubmitter, Pool.close_frame, hd]
  have key : ∃ line closed, c.pool = { b.pool with submitting := line, closed := closed } := by
    cases feed?_eq_some_iff.1 h with
    | refused | done | due | stopped => exact ⟨_, _, ends _ _ b.pool.submitting rfl⟩
    | back => exact ⟨_, _, ends _ _ [] rfl⟩
    | submit =>
      rw [pool_observeAll]
      exact ⟨_, b.pool.closed, Pool.submit_frame m _ b.pool⟩
  obtain ⟨line, closed, hpool⟩ := key
  rw [hpool]

/-- What an active submitter of an open pool does depends on the pool only as far as the line of
submissions and the flags go, and not on the values collected. -/
lemma feed?_frame (active : b.submitter = .active) (opened : b.pool.closed = false)
    (h : b.feed? m = some (c, fs)) (q : Pool α) (vs : List α)
    (hsub : q.submitting = b.pool.submitting) (hclosed : q.closed = b.pool.closed)
    (hcancelled : q.cancelled = b.pool.cancelled) (hchild : q.child = b.pool.child) :
    ({ b with pool := q, values := vs } : Batch α).feed? m = some ({ c with
        pool := { q with submitting := c.pool.submitting, closed := c.pool.closed }
        values := vs }, fs) ∧ c.values = b.values := by
  have opened' : q.closed = false := hclosed.trans opened
  have hstop : ({ b with pool := q, values := vs } : Batch α).isStopped = b.isStopped := by
    simp only [isStopped, hcancelled, hchild]
  -- it does the same with the other pool, whose line and flags are the same
  cases feed?_eq_some_iff.1 h with
  | refused hs => simp [active] at hs
  | done _ line remaining =>
    have hmove : Feeds m ({ b with pool := q, values := vs } : Batch α) _ :=
      .done active (hsub.trans line) remaining
    refine ⟨feed?_eq_some_iff.2 ?_, rfl⟩
    simpa only [endSubmitter, Pool.close, opened, opened', hsub, Bool.false_eq_true, if_false]
      using hmove
  | back _ line why =>
    have hmove : Feeds m ({ b with pool := q, values := vs } : Batch α) _ :=
      .back active (hsub.trans line)
        (why.imp_right fun hw => ⟨hw.1, hstop.trans hw.2.1, hw.2.2⟩)
    refine ⟨feed?_eq_some_iff.2 ?_, rfl⟩
    simpa only [halt, endSubmitter, Pool.close, opened, opened', hsub, Bool.false_eq_true,
      if_false] using hmove
  | due _ line remaining due =>
    have hmove : Feeds m ({ b with pool := q, values := vs } : Batch α) _ :=
      .due active (hsub.trans line) remaining due
    refine ⟨feed?_eq_some_iff.2 ?_, rfl⟩
    simpa only [endSubmitter, Pool.close, opened, opened', hsub, Bool.false_eq_true, if_false]
      using hmove
  | stopped _ line remaining early stopped =>
    have hmove : Feeds m ({ b with pool := q, values := vs } : Batch α) _ :=
      .stopped active (hsub.trans line) remaining early (hstop.trans stopped)
    refine ⟨feed?_eq_some_iff.2 ?_, rfl⟩
    simpa only [halt, endSubmitter, Pool.close, opened, opened', hsub, Bool.false_eq_true,
      if_false] using hmove
  | submit _ line remaining early free =>
    have hmove : Feeds m ({ b with pool := q, values := vs } : Batch α) _ :=
      .submit active (hsub.trans line) remaining early (hstop.trans free)
    simp only [Pool.submit, opened, opened', hsub, Bool.false_eq_true, if_false] at hmove ⊢
    exact ⟨feed?_eq_some_iff.2 hmove, rfl⟩

/-- A submitter that can move hands in tasks to an open pool that is in use. -/
lemma Kept.open_of_feed (hb : b.Kept now) (h : b.feed? m = some (d, fs)) :
    b.submitter = .active ∧ b.pool.closed = false ∧ b.pool.held = true := by
  have hnot : ¬b.Finished := by
    rintro ⟨panicked, hfin⟩
    simp [feed?, hfin] at h
  have hactive := hb.steady.resolve_right hnot
  exact ⟨hactive, hb.sound.open_of_active hactive,
    hb.sound.pending.resolve_right fun hp => hnot hp.1⟩

/-- A submission is not decided on while the submitter can take it back. -/
lemma Kept.ne_enter_of_feed (hb : b.Kept m.now) (h : b.feed? m = some (d, fs)) {k : Pool.Move}
    (hq : b.pool.perform? m k = some (q, es)) : k ≠ .enter := by
  rintro rfl
  obtain ⟨s, rest, hline, hwhat⟩ := Pool.enter?_eq_some_iff.1 hq
  obtain ⟨active, -, -⟩ := hb.open_of_feed h
  have hwhy : b.pool.cancelled = true ∨ b.Due m.now := by
    by_contra hcon
    obtain ⟨hc, hd⟩ := not_or.1 hcon
    have hdue : b.isDue m = false := by
      by_contra hdue
      exact hd (isDue_iff.1 (by simpa using hdue))
    have hnone : b.feed? m = none :=
      feed?_eq_none_iff.2 (.inr ⟨active, by simp [hline], hdue, by simp [isStopped, hc]⟩)
    rw [h] at hnone
    cases hnone
  rcases hb.blocked active hwhy with hu | hj
  · simp [hu.line] at hline
  · have hfull := hj.full
    have hw : b.pool.workers ≠ 0 := fun hw => hj.busy (Pool.workers_eq_zero_iff.1 hw).2.1
    rcases hwhat with ⟨hz | ⟨hroom, -⟩, -⟩ | ⟨-, hroom, -⟩
    · exact hw hz
    · omega
    · omega

/-- Moves of the pool and of the submitter can be made in either order. -/
lemma Kept.join_feed (hb : b.Kept m.now) {k : Pool.Move} (h : b.performPool? m k = some (c, es))
    (h' : b.feed? m = some (d, fs)) :
    ∃ t, c.feed? m = some (t, fs) ∧ d.performPool? m k = some (t, es) := by
  obtain ⟨q, hq, rfl⟩ := performPool?_eq_some_iff.1 h
  obtain ⟨active, opened, held⟩ := hb.open_of_feed h'
  have hk : k ≠ .enter := hb.ne_enter_of_feed h' hq
  obtain ⟨vs, -, hvs⟩ := observeAll_of_perform? hk hq
  obtain ⟨hclosed, hcancelled, hchild, -⟩ := Pool.flags_of_perform? hq
  obtain ⟨-, hsub⟩ := Pool.perform?_frame hk held opened hq [] false
  have hpool := pool_of_feed? h'
  obtain ⟨hfeed, hvalues⟩ :=
    feed?_frame active opened h' q (b.values ++ vs) hsub hclosed hcancelled hchild
  obtain ⟨hmove, -⟩ :=
    Pool.perform?_frame hk held opened hq d.pool.submitting d.pool.closed
  rw [← hpool] at hmove
  refine ⟨{ d with
    pool := { q with submitting := d.pool.submitting, closed := d.pool.closed }
    values := b.values ++ vs }, ?_, performPool?_eq_some_iff.2 ⟨_, hmove, ?_⟩⟩
  · rw [hvs]
    exact hfeed
  · rw [hvs d, hvalues]

/-- When the call can return nothing can move in the pool. -/
lemma Kept.not_pool_conclude (hb : b.Kept now) {k : Pool.Move}
    (h : b.performPool? m k = some (c, es)) (h' : b.conclude? = some (d, fs)) : False := by
  obtain ⟨q, hq, -⟩ := performPool?_eq_some_iff.1 h
  obtain ⟨panicked, hfin, hheld, hrec, -⟩ := conclude?_eq_some_iff.1 h'
  have hsub : b.pool.submitting = [] :=
    hb.sound.line.resolve_left fun hactive => by simp [hactive] at hfin
  have hw : b.pool.workers = 0 := hb.sound.gone_of_received hheld hrec
  rw [Pool.perform?_eq_none_of_gone hw hsub hrec] at hq
  cases hq

/-- When the call can return the submitter has ended. -/
lemma not_feed_conclude (h : b.feed? m = some (c, es)) (h' : b.conclude? = some (d, fs)) :
    False := by
  obtain ⟨panicked, hfin, -⟩ := conclude?_eq_some_iff.1 h'
  simp [feed?, hfin] at h

/-- **Two moves of an orderly batch can be made in either order.** -/
theorem Orderly.join (hb : b.Orderly m.now) {k l : Move} (hkl : k ≠ l)
    (h : b.perform? m k = some (c, es)) (h' : b.perform? m l = some (d, fs)) :
    ∃ t es' fs', c.perform? m l = some (t, fs') ∧ d.perform? m k = some (t, es') ∧
      (es ++ fs').Perm (fs ++ es') := by
  rcases hb with hkept | hgiven
  · cases k with
    | pool k =>
      cases l with
      | pool l =>
        have hb : b.Orderly m.now := .inl hkept
        exact hb.join_pool (fun heq => hkl (congrArg Move.pool heq)) h h'
      | feed =>
        obtain ⟨t, hl, hk⟩ := hkept.join_feed h h'
        exact ⟨t, es, fs, hl, hk, List.perm_append_comm⟩
      | conclude => exact (hkept.not_pool_conclude h h').elim
    | feed =>
      cases l with
      | pool l =>
        obtain ⟨t, hk, hl⟩ := hkept.join_feed h' h
        exact ⟨t, es, fs, hl, hk, List.perm_append_comm⟩
      | feed => exact absurd rfl hkl
      | conclude => exact (not_feed_conclude h h').elim
    | conclude =>
      cases l with
      | pool l => exact (hkept.not_pool_conclude h' h).elim
      | feed => exact (not_feed_conclude h' h).elim
      | conclude => exact absurd rfl hkl
  · obtain ⟨k, q, rfl, -⟩ := hgiven.exists_of_perform? h
    obtain ⟨l, r, rfl, -⟩ := hgiven.exists_of_perform? h'
    have hb : b.Orderly m.now := .inr hgiven
    exact hb.join_pool (fun heq => hkl (congrArg Move.pool heq)) h h'

end Workforce.Batch
