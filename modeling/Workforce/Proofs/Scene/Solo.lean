import Workforce.Proofs.Batch.Clocked
import Workforce.Proofs.Batch.Replies
import Workforce.Proofs.Scene.Until
import Workforce.Scene.Report
/-!
# Scenes with one batch

In a scene that holds one batch and nothing else everything happens in that batch, and the only call
that is pending or answered is the one that runs it.

## Main definitions

* `Workforce.Scene.Solo` — the scene holds that batch and nothing else.
* `Workforce.Phase.Inner` — all of a phase happens in the first batch.

## Main results

* `Workforce.Scene.Solo.everywhere` — a change everywhere changes the batch.
* `Workforce.Scene.Solo.pending_of_still` — if nothing is left to happen the call has returned.
* `Workforce.Scene.Solo.ticks` — what comes by itself happens in the batch.
* `Workforce.answers_of_inner`, `Workforce.collect_of_inner` — what is answered and what becomes of
  tasks can be read off the diary of the batch.
-/

namespace Workforce

open Occurrence Trail

variable {α β : Type}

/-! ## Phases of one batch -/

/-- All of the phase happens in the first batch, and answers no call but one that runs a batch. -/
def Phase.Inner (p : Phase α) : Prop := ∀ x ∈ p.entries, x.1 = .batch 0 ∧ x.2.Internal

/-- The events of such a phase are those at the batch. -/
lemma Phase.Inner.eventsAt {p : Phase α} (h : p.Inner) :
    Workforce.eventsAt (.batch 0) p.entries = p.entries.map Prod.snd := by
  rw [Workforce.eventsAt, List.filterMap_congr (g := fun x => some x.2) fun x hx => by
    rw [if_pos (h x hx).1]]
  exact congrFun List.filterMap_eq_map _

/-- What is answered in such phases can be read off the diary. -/
lemma answers_of_inner {ps : List (Phase α)} (h : ∀ p ∈ ps, p.Inner) :
    ps.flatMap Phase.answers = (diaryAt (.batch 0) ps).answers.map Prod.snd := by
  induction ps with
  | nil => rfl
  | cons p ps ih =>
    have hp : p.Inner := h p List.mem_cons_self
    have hinternal : ∀ e ∈ p.entries.map Prod.snd, e.Internal := by
      intro e he
      obtain ⟨x, hx, rfl⟩ := List.mem_map.1 he
      exact (hp x hx).2
    have hanswers : p.answers = (p.diaryAt (.batch 0)).answers.map Prod.snd := by
      rw [Phase.diaryAt, hp.eventsAt, Diary.note, ← answers_of_internal hinternal, Phase.answers,
        List.filterMap_map, List.map_map]
      exact (List.map_id _).symm
    rw [List.flatMap_cons, diaryAt, Diary.answers_append, List.map_append, hanswers,
      ih fun q hq => h q (List.mem_cons_of_mem _ hq)]

/-- So can the tasks that were started. -/
lemma collect_of_inner {ps : List (Phase α)} (h : ∀ p ∈ ps, p.Inner) :
    collect started? ((ps.flatMap fun p => p.entries.map Prod.snd).map event) =
      (diaryAt (.batch 0) ps).started := by
  induction ps with
  | nil => rfl
  | cons p ps ih =>
    have hp : p.Inner := h p List.mem_cons_self
    have hstarted : collect started? ((p.entries.map Prod.snd).map event) =
        (p.diaryAt (.batch 0)).started := by
      rw [Phase.diaryAt, hp.eventsAt, Diary.note, Diary.started]
      simp only [gist, List.map_map]
      exact (List.map_id _).symm
    rw [List.flatMap_cons, List.map_append, collect_append, diaryAt, Diary.started,
      Diary.starts_append, List.map_append, hstarted,
      ih fun q hq => h q (List.mem_cons_of_mem _ hq)]
    rfl

namespace Scene

variable {s t : Scene α} {b : Batch α} {ps : List (Phase α)} {deadlines : Scene α → List Nat}

/-! ## One batch -/

/-- The scene holds that batch and nothing else. -/
structure Solo (b : Batch α) (s : Scene α) : Prop where
  pools : s.pools = []
  batches : s.batches = [b]

namespace Solo

/-- A change everywhere changes the batch. -/
theorem everywhere (hs : s.Solo b) (f : Moment → Pool α → Pool α × List (Event α))
    (g : Moment → Batch α → Batch α × List (Event α)) :
    (s.everywhere f g).1.Solo (g ⟨s.now, s.brittle⟩ b).1 ∧
      (s.everywhere f g).2 = (g ⟨s.now, s.brittle⟩ b).2.map (Place.batch 0, ·) := by
  obtain ⟨hpools, hbatches⟩ := hs
  have hpool : sweep (fun brittle => f ⟨s.now, brittle⟩) s.brittle s.pools = [] := by
    rw [hpools]
    rfl
  refine ⟨⟨?_, ?_⟩, ?_⟩
  · simp only [Scene.everywhere, after, hpool]
    rfl
  · simp only [Scene.everywhere, after, hpool, hbatches]
    simp [sweep, entries]
  · simp only [Scene.everywhere, after, hpool, hbatches]
    simp [sweep, entries]

/-- After an action the batch settles. -/
lemma phase {r : Scene α × List (Entry α)} (hr : r.1.Solo b) :
    (Scene.phase r).1.Solo (b.settle ⟨r.1.now, r.1.brittle⟩).1 ∧
      (Scene.phase r).2.entries =
        r.2 ++ (b.settle ⟨r.1.now, r.1.brittle⟩).2.map (Place.batch 0, ·) := by
  obtain ⟨hsolo, hentries⟩ := hr.everywhere Pool.settle Batch.settle
  exact ⟨hsolo, congrArg (r.2 ++ ·) hentries⟩

/-- The tasks that run are those of the batch. -/
lemma runs (hs : s.Solo b) : s.runs = b.pool.running := by
  simp [Scene.runs, hs.pools, hs.batches]

/-- The call that is pending is that of the batch. -/
lemma pendingCalls (hs : s.Solo b) :
    s.pendingCalls = if b.pending then [b.call] else [] := by
  rw [Scene.pendingCalls, hs.pools, hs.batches]
  cases h : b.pending <;> simp [h]

/-- It is pending if the batch is. -/
lemma isEmpty_pendingCalls (hs : s.Solo b) : s.pendingCalls.isEmpty = !b.pending := by
  rw [hs.pendingCalls]
  cases b.pending <;> rfl

/-- **If nothing is left to happen the call has returned**, provided that the tasks of the batch
have known running times. -/
theorem pending_of_still (hs : s.Solo b) (hcalm : Batch.Calm s.now b) (clocked : b.Clocked)
    {patience : Nat} (hnone : s.tick? patience = none) : b.pending = false := by
  by_contra hpending
  obtain ⟨r, hr, time, htime⟩ := clocked.exists_due hcalm (by simpa using hpending)
  have hruns : r ∈ s.runs := hs.runs ▸ hr
  unfold tick? at hnone
  split at hnone
  · cases hnone
  · next hdue =>
    rw [Option.map_eq_none_iff, nearStop?, List.min?_eq_none_iff, List.append_eq_nil_iff] at hnone
    have hahead := mem_endsAhead hdue hruns htime
    rw [hnone.1] at hahead
    cases hahead

/-- What happens at once in the batch, and what follows. -/
lemma phase_inner {r : Scene α × List (Entry α)} {es : List (Event α)} (hr : r.1.Solo b)
    (hentries : r.2 = es.map (Place.batch 0, ·)) (hanonymous : b.pool.Anonymous)
    (h : ∀ e ∈ es, e.Internal) :
    ∃ c, (Scene.phase r).1.Solo c ∧ c.pool.Anonymous ∧ (Scene.phase r).2.Inner := by
  obtain ⟨hsolo, hphase⟩ := hr.phase
  obtain ⟨hanonymous', hinternal⟩ := Batch.anonymous_settle hanonymous ⟨r.1.now, r.1.brittle⟩
  refine ⟨_, hsolo, hanonymous', ?_⟩
  intro x hx
  rw [hphase, hentries, ← List.map_append] at hx
  obtain ⟨e, he, rfl⟩ := List.mem_map.1 hx
  exact ⟨rfl, List.forall_mem_append.2 ⟨h, hinternal⟩ e he⟩

/-- **What comes by itself happens in the batch.** -/
theorem enact (hs : s.Solo b) (hanonymous : b.pool.Anonymous) {x : Action α}
    (timely : s.Timely deadlines x) :
    ∃ c, (s.enact x).1.Solo c ∧ c.pool.Anonymous ∧ (s.enact x).2.Inner := by
  cases x with
  | order => cases timely
  | finish name =>
    obtain ⟨hsolo, hentries⟩ := hs.everywhere (fun _ => Pool.finish name)
      (fun _ => Batch.finish name)
    obtain ⟨hpool, hsilent⟩ := hanonymous.finish name
    exact phase_inner hsolo hentries hpool fun e he => (hsilent e he).internal
  | pass ms =>
    have hlater : ({ s with now := s.now + ms } : Scene α).Solo b := ⟨hs.pools, hs.batches⟩
    exact phase_inner (r := (_, [])) hlater List.map_nil.symm hanonymous (by simp)

/-- The same for the cancellation of the parent. -/
lemma cancelParent (hs : s.Solo b) (hanonymous : b.pool.Anonymous) :
    s.cancelParent.1.Solo b.parentCancelled ∧ s.cancelParent.2 = [] ∧
      b.parentCancelled.pool.Anonymous := by
  have hcancelled : ({ s with parentCancelled := true } : Scene α).Solo b :=
    ⟨hs.pools, hs.batches⟩
  obtain ⟨hsolo, hentries⟩ := hcancelled.everywhere (fun _ p => (p.parentCancelled, []))
    (fun _ b => (b.parentCancelled, []))
  exact ⟨hsolo, hentries, hanonymous.submitting, hanonymous.receiving⟩

/-- **All that comes by itself happens in the batch.** -/
theorem ticks (hs : s.Solo b) (hanonymous : b.pool.Anonymous) (ticks : Ticks deadlines s ps t) :
    (∃ c, t.Solo c ∧ c.pool.Anonymous) ∧ ∀ p ∈ ps, p.Inner := by
  induction ticks with
  | refl => exact ⟨⟨b, hs, hanonymous⟩, by simp⟩
  | tail _ last ih =>
    obtain ⟨⟨c, hc, hanonymous'⟩, hinner⟩ := ih
    obtain ⟨x, htimely, rfl, rfl⟩ := last
    obtain ⟨d, hd, hd', hlast⟩ := hc.enact hanonymous' htimely
    refine ⟨⟨d, hd, hd'⟩, fun p hp => ?_⟩
    rcases List.mem_append.1 hp with hp | hp
    · exact hinner p hp
    · exact List.mem_singleton.1 hp ▸ hlast

end Solo

end Scene

end Workforce
