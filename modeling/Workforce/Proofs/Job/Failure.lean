import Workforce.Proofs.Job.Result
import Workforce.Proofs.Settings.Resolution
/-!
# How a job can fail

A configuration that is accepted has a worker, no submit timeout of zero and no empty trace id. So
its job is never refused by the pool and the submitter of its batch does not break down. The job
fails only if it has a submit timeout and is told to shut down before its batch is complete. But a
configuration may ask for more items than tasks fit into a list, and then its job panics.

## Main definitions

* `Workforce.JobConfig.Fails` — a job was interrupted, and says so.
* `Workforce.JobConfig.Outcome` — it fails in this way, or not at all.

## Main results

* `Workforce.accepted_job_outcome` — the job of every configuration that is accepted.
-/

namespace Workforce

open Scene

namespace JobConfig

variable {c : JobConfig} {seed : UInt64} {early interrupted : Prop} {r : JobRun}

/-- A job was interrupted, and says so. -/
def Fails (seed : UInt64) (c : JobConfig) (r : JobRun) : Prop :=
  ∃ e, r.result = .error e ∧ e.message = "job " ++ (c.root seed).id ++ " interrupted"

/-- A job fails if it has a submit timeout and was told to shut down before its batch was complete.
Any other job returns, and no job fails on its pool. -/
structure Outcome (seed : UInt64) (interrupted : Prop) (c : JobConfig) (r : JobRun) : Prop where
  fails : c.submitTimeout.isSome = true → interrupted → c.Fails seed r
  returns : ¬(c.submitTimeout.isSome = true ∧ interrupted) → ∃ values, r.result = .ok values
  sound : ∀ e, r.result ≠ .error (.batch e)

/-- What comes of a job tells how it ends. -/
lemma Result.outcome (h : c.Result seed early interrupted r) : c.Outcome seed interrupted r := by
  refine ⟨fun htimeout hinterrupted => ?_, fun hnot => ⟨_, (h.returned hnot).1⟩, fun e he => ?_⟩
  · exact ⟨_, h.fails htimeout hinterrupted, by rw [JobError.message, h.rootId]⟩
  · by_cases hnot : c.submitTimeout.isSome = true ∧ interrupted
    · have hresult := h.fails hnot.1 hnot.2
      rw [he] at hresult
      cases hresult
    · have hresult := (h.returned hnot).1
      rw [he] at hresult
      cases hresult

end JobConfig

variable {arguments : List RawText} {env : Environment} {processors : Nat} {c : JobConfig}

/-- A configuration that is accepted can be run. -/
lemma Accepts.valid (h : Accepts arguments env processors c) :
    1 ≤ c.numWorkers ∧ c.submitTimeout ≠ some 0 ∧ c.traceId ≠ some "" := by
  obtain ⟨o, -, ho⟩ := h
  obtain ⟨rfl, hworkers, htimeout, hid⟩ := Options.config_ok_iff.1 ho
  exact ⟨Nat.one_le_iff_ne_zero.2 hworkers, htimeout, hid⟩

/-- **A configuration that is accepted does not make its job fail on its pool.** Whatever stands on
the command line and in the environment, a configuration that they give has at least one worker, no
submit timeout or one of at least a millisecond, and no trace id or one that is not empty. If it has
fewer than `2 ^ 59` items its job returns, unless it has a submit timeout and is told to shut down
before its batch is complete; then it was interrupted, and says so. The request comes before the
job, when the clock stops while the batch runs, or at any moment between. If it has more items its
job panics, whether and whenever it is told to shut down. -/
theorem accepted_job_outcome (h : Accepts arguments env processors c) :
    (1 ≤ c.numWorkers ∧ (∀ ms, c.submitTimeout = some ms → 1 ≤ ms) ∧
      ∀ id, c.traceId = some id → id ≠ "") ∧
    ∀ seed,
      (c.batchItems < 2 ^ 59 →
        (∀ interrupt, ∃ r, c.run seed interrupt = .ok r ∧
          c.Outcome seed (c.Interrupted seed interrupt) r) ∧
        ∀ ps s, Ticks (nearDeadlines JobConfig.patience) (c.begun (c.root seed) false).1 ps s →
          JobConfig.complete s = false → c.Outcome seed True (c.stoppedAt seed ps s)) ∧
      (2 ^ 59 ≤ c.batchItems → ∀ interrupt, c.run seed interrupt = .error .capacityOverflow) := by
  obtain ⟨hworkers, htimeout, hid⟩ := h.valid
  refine ⟨⟨hworkers, fun ms hms => ?_, fun id hid' hempty => hid (hempty ▸ hid')⟩, fun seed =>
    ⟨fun few => ⟨fun interrupt => ?_, fun ps s ticks going => ?_⟩, fun many interrupt => ?_⟩⟩
  · exact Nat.one_le_iff_ne_zero.2 fun hzero => htimeout (hzero ▸ hms)
  · exact ⟨_, JobConfig.run_of_fits (c.fits_iff.2 few) seed interrupt,
      (JobConfig.result_carriedOut hworkers seed interrupt).outcome⟩
  · exact (JobConfig.result_stoppedAt hworkers ticks going).outcome
  · exact JobConfig.run_of_not_fits (c.not_fits_iff.2 many) seed interrupt

/-- A job with a submit timeout that is told to shut down before it begins, or never. -/
theorem accepted_job_outcome_timeout :
    let c : JobConfig := ⟨2, 10, 1000, some 20, 0, some "run"⟩
    Accepts (["--submit-timeout-ms", "20", "--trace-id=run"].map RawText.ofString)
        [("NUM_WORKERS", RawText.ofString "2")] 8 c ∧
      (∃ r e, c.run 0 (fun _ => true) = .ok r ∧ r.result = .error e ∧
        e.message = "job run interrupted") ∧
      ∃ r values, c.run 0 (fun _ => false) = .ok r ∧ r.result = .ok values := by
  intro c
  have haccepts : Accepts (["--submit-timeout-ms", "20", "--trace-id=run"].map RawText.ofString)
      [("NUM_WORKERS", RawText.ofString "2")] 8 c :=
    ⟨⟨some 2, 10, 1000, some 20, 0, some "run"⟩, by decide, by decide⟩
  obtain ⟨-, houtcome⟩ := accepted_job_outcome haccepts
  have hfew := ((houtcome 0).1 (by decide)).1
  obtain ⟨r, hrun, hr⟩ := hfew fun _ => true
  obtain ⟨e, hresult, hmessage⟩ := hr.fails rfl (.inl rfl)
  obtain ⟨r', hrun', hr'⟩ := hfew fun _ => false
  obtain ⟨values, hvalues⟩ := hr'.returns (by simp [JobConfig.Interrupted])
  exact ⟨haccepts, ⟨r, e, hrun, hresult, hmessage⟩, r', values, hrun', hvalues⟩

/-- A configuration with the greatest number of items is accepted, but its job neither returns nor
is interrupted. -/
theorem accepted_job_panics :
    let c : JobConfig := ⟨1, 18446744073709551615, 1000, some 1, 0, some "run"⟩
    Accepts (["--num-workers", "1", "--submit-timeout-ms", "1", "--trace-id", "run"].map
        RawText.ofString) [("BATCH_ITEMS", RawText.ofString "18446744073709551615")] 8 c ∧
      ∀ interrupt, ¬ ∃ r, c.run 0 interrupt = .ok r ∧
        c.Outcome 0 (c.Interrupted 0 interrupt) r := by
  intro c
  refine ⟨⟨⟨some 1, 18446744073709551615, 1000, some 1, 0, some "run"⟩, by decide, by decide⟩,
    fun interrupt ⟨r, hrun, _⟩ => ?_⟩
  rw [JobConfig.run_of_not_fits (by decide) 0 interrupt] at hrun
  cases hrun

end Workforce
