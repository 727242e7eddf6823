import Workforce.Proofs.Settings.Numeral
import Workforce.Proofs.Settings.Reading
/-!
# How settings are resolved

A setting has at most one text that counts: the value on the command line, or else the value of its
variable. Whether there is a configuration, and which one, is told by these texts alone: neither the
order of the items on the command line, nor their form, nor what stands in a variable whose setting
is on the command line makes a difference.

## Main definitions

* `Workforce.Accepts` — a command line and an environment give a configuration.
* `Workforce.effective` — the texts that count.
* `Workforce.Acceptable` — the texts make up a configuration.
* `Workforce.Resolved` — the configuration has the values of the texts, or else the defaults.

## Main results

* `Workforce.accepts_iff_acceptable_and_resolved` — which configuration is accepted, and when.
-/

namespace Workforce

/-- On a machine with so many processors, a command line and an environment give the
configuration. -/
def Accepts (arguments : List RawText) (env : Environment) (processors : Nat) (c : JobConfig) :
    Prop :=
  ∃ o, readOptions arguments env = .ok o ∧ o.config processors = .ok c

/-- The texts that count: the value of an item, or else that of a variable. -/
def effective (items : List Assignment) (env : Environment) : Texts :=
  fun s => ((items.map Assignment.pair).lookup s).or (env.get? s.variableName)

/-- The texts make up a configuration. -/
structure Acceptable (texts : Texts) : Prop where
  /-- All of them are UTF-8. -/
  utf8 : ∀ s raw, texts s = some raw → raw.text?.isSome = true
  /-- All but the trace id are numerals. -/
  numerals : ∀ s raw, s ≠ .traceId → texts s = some raw → ∃ n, raw.Denotes n
  /-- There is a worker. -/
  numWorkers : ∀ raw, texts .numWorkers = some raw → ¬raw.Denotes 0
  /-- The submit timeout is not zero. -/
  submitTimeout : ∀ raw, texts .submitTimeout = some raw → ¬raw.Denotes 0
  /-- The trace id is not empty. -/
  traceId : ∀ raw, texts .traceId = some raw → raw.text? ≠ some ""

/-- The number that a text stands for, or the default if there is none. -/
def HasNumber (text : Option RawText) (default n : Nat) : Prop :=
  match text with
  | none => n = default
  | some raw => raw.Denotes n

/-- The configuration has the values of the texts, or else the defaults. -/
structure Resolved (texts : Texts) (processors : Nat) (c : JobConfig) : Prop where
  numWorkers : HasNumber (texts .numWorkers) processors c.numWorkers
  batchItems : HasNumber (texts .batchItems) 10 c.batchItems
  taskDelay : HasNumber (texts .taskDelay) 1000 c.taskDelay
  submitTimeout : Option.Rel RawText.Denotes (texts .submitTimeout) c.submitTimeout
  skipEvery : HasNumber (texts .skipEvery) 0 c.skipEvery
  traceId : Option.Rel (fun raw id => raw.text? = some id) (texts .traceId) c.traceId

variable {texts : Texts} {g : Given} {s : Setting} {raw : RawText} {v : SettingValue}

/-! ## Values -/

/-- The value of a setting other than the trace id is the number that its text stands for. -/
lemma Setting.readValue_number_iff (hs : s ≠ .traceId) :
    s.readValue raw = .ok v ↔ ∃ n, v = .number n ∧ raw.Denotes n := by
  unfold Setting.readValue RawText.Denotes
  cases raw.text? with
  | none => simp
  | some text =>
    simp only [Option.some.injEq, exists_eq_left', ← Text.readNumeral_ok_iff]
    cases s with
    | traceId => exact absurd rfl hs
    | _ => cases Text.readNumeral text <;> simp [eq_comm]

/-- The value of the trace id is its text. -/
lemma Setting.readValue_traceId_iff :
    Setting.traceId.readValue raw = .ok v ↔ ∃ text, v = .text text ∧ raw.text? = some text := by
  unfold Setting.readValue
  cases raw.text? <;> simp [eq_comm]

/-- Texts have values if all are UTF-8 and those of numbers are numerals. -/
lemma Texts.readable_iff : texts.Readable ↔
    (∀ s raw, texts s = some raw → raw.text?.isSome = true) ∧
      ∀ s raw, s ≠ .traceId → texts s = some raw → ∃ n, raw.Denotes n := by
  constructor
  · intro h
    have hnumber (s : Setting) (raw : RawText) (hs : s ≠ .traceId) (hraw : texts s = some raw) :
        ∃ n, raw.Denotes n := by
      obtain ⟨v, hv⟩ := h s raw hraw
      obtain ⟨n, -, hn⟩ := (Setting.readValue_number_iff hs).1 hv
      exact ⟨n, hn⟩
    refine ⟨fun s raw hraw => ?_, hnumber⟩
    by_cases hs : s = .traceId
    · subst hs
      obtain ⟨v, hv⟩ := h _ raw hraw
      obtain ⟨text, -, ht⟩ := Setting.readValue_traceId_iff.1 hv
      exact Option.isSome_of_eq_some ht
    · obtain ⟨n, text, ht, -⟩ := hnumber s raw hs hraw
      exact Option.isSome_of_eq_some ht
  · rintro ⟨hutf8, hnumber⟩ s raw hraw
    by_cases hs : s = .traceId
    · subst hs
      obtain ⟨text, ht⟩ := Option.isSome_iff_exists.1 (hutf8 _ raw hraw)
      exact ⟨.text text, Setting.readValue_traceId_iff.2 ⟨text, rfl, ht⟩⟩
    · obtain ⟨n, hn⟩ := hnumber s raw hs hraw
      exact ⟨.number n, (Setting.readValue_number_iff hs).2 ⟨n, rfl, hn⟩⟩

namespace Given.Reads

/-- The number given for a setting is the one that its text stands for. -/
lemma number? (hg : g.Reads texts) (hs : s ≠ .traceId) :
    Option.Rel RawText.Denotes (texts s) (g.number? s) := by
  have := hg s
  unfold Given.number?
  cases htext : texts s with
  | none =>
    rw [htext] at this
    rw [show g.lookup s = none from this]
    exact .none
  | some raw =>
    rw [htext] at this
    obtain ⟨v, hv, hlookup⟩ := this
    obtain ⟨n, rfl, hn⟩ := (Setting.readValue_number_iff hs).1 hv
    rw [hlookup]
    exact .some hn

/-- The trace id given is its text. -/
lemma text? (hg : g.Reads texts) :
    Option.Rel (fun raw id => raw.text? = some id) (texts .traceId) (g.text? .traceId) := by
  have := hg .traceId
  unfold Given.text?
  cases htext : texts .traceId with
  | none =>
    rw [htext] at this
    rw [show g.lookup .traceId = none from this]
    exact .none
  | some raw =>
    rw [htext] at this
    obtain ⟨v, hv, hlookup⟩ := this
    obtain ⟨text, rfl, ht⟩ := Setting.readValue_traceId_iff.1 hv
    rw [hlookup]
    exact .some ht

end Given.Reads

/-- A number that is given or has a default. -/
lemma HasNumber.of_rel {text : Option RawText} {value? : Option Nat} {default : Nat}
    (h : Option.Rel RawText.Denotes text value?) :
    HasNumber text default (value?.getD default) := by
  cases h with
  | none => rfl
  | some hn => exact hn

/-- A text has one number. -/
lemma HasNumber.unique {text : Option RawText} {default m n : Nat} (hm : HasNumber text default m)
    (hn : HasNumber text default n) : m = n := by
  cases text with
  | none => exact hm.trans hn.symm
  | some raw => exact RawText.Denotes.unique hm hn

/-- Texts have one configuration. -/
lemma Resolved.unique {processors : Nat} {c d : JobConfig} (hc : Resolved texts processors c)
    (hd : Resolved texts processors d) : c = d := by
  have hrel {α : Type} {R : RawText → α → Prop} {text : Option RawText} {x y : Option α}
      (hR : ∀ raw a b, R raw a → R raw b → a = b) (hx : Option.Rel R text x)
      (hy : Option.Rel R text y) : x = y := by
    cases hx <;> cases hy
    · exact congrArg some (hR _ _ _ ‹_› ‹_›)
    · rfl
  obtain ⟨w, b, t, u, k, i⟩ := c
  obtain ⟨w', b', t', u', k', i'⟩ := d
  obtain rfl : w = w' := hc.numWorkers.unique hd.numWorkers
  obtain rfl : b = b' := hc.batchItems.unique hd.batchItems
  obtain rfl : t = t' := hc.taskDelay.unique hd.taskDelay
  obtain rfl : u = u' := hrel (R := RawText.Denotes) (fun _ _ _ => RawText.Denotes.unique)
    hc.submitTimeout hd.submitTimeout
  obtain rfl : k = k' := hc.skipEvery.unique hd.skipEvery
  obtain rfl : i = i' :=
    hrel (fun _ _ _ h₁ h₂ => Option.some_injective _ (h₁.symm.trans h₂)) hc.traceId hd.traceId
  rfl

/-! ## Configurations -/

/-- The configuration that options make, if they make one. -/
def Options.resolved (processors : Nat) (o : Options) : JobConfig :=
  ⟨o.numWorkers.getD processors, o.batchItems, o.taskDelay, o.submitTimeout, o.skipEvery, o.traceId⟩

/-- What options make, and when. -/
lemma Options.config_ok_iff {processors : Nat} {o : Options} {c : JobConfig} :
    o.config processors = .ok c ↔ c = o.resolved processors ∧ o.numWorkers.getD processors ≠ 0 ∧
      o.submitTimeout ≠ some 0 ∧ o.traceId ≠ some "" := by
  simp only [Options.config, Options.resolved]
  split_ifs <;> simp_all [eq_comm]

/-- The options that are given have the values of the texts. -/
lemma Given.Reads.resolved (hg : g.Reads texts) (processors : Nat) :
    Resolved texts processors (g.options.resolved processors) := by
  have hfallback (x : Option Nat) (d : Nat) : (x.or (some d)).getD 0 = x.getD d := by
    cases x <;> rfl
  have hnumber {s : Setting} {d : Nat} (hs : s ≠ .traceId) (hd : s.fallback? = some d) :
      HasNumber (texts s) d (((g.number? s).or s.fallback?).getD 0) := by
    rw [hd, hfallback]
    exact .of_rel (hg.number? hs)
  exact
    { numWorkers := .of_rel (hg.number? (by decide))
      batchItems := hnumber (by decide) rfl
      taskDelay := hnumber (by decide) rfl
      submitTimeout := hg.number? (by decide)
      skipEvery := hnumber (by decide) rfl
      traceId := hg.text? }

/-- Texts that have values and the configuration that has them: they are acceptable if it is. -/
lemma Resolved.acceptable_iff {processors : Nat} {c : JobConfig} (hp : 0 < processors)
    (hread : texts.Readable) (hc : Resolved texts processors c) :
    Acceptable texts ↔ c.numWorkers ≠ 0 ∧ c.submitTimeout ≠ some 0 ∧ c.traceId ≠ some "" := by
  obtain ⟨hutf8, hnumerals⟩ := Texts.readable_iff.1 hread
  have hworkers : (∀ raw, texts .numWorkers = some raw → ¬raw.Denotes 0) ↔ c.numWorkers ≠ 0 := by
    have := hc.numWorkers
    unfold HasNumber at this
    cases htext : texts .numWorkers with
    | none =>
      rw [htext] at this
      simp only [reduceCtorEq, false_implies, implies_true, true_iff]
      omega
    | some raw =>
      rw [htext] at this
      simp only [Option.some.injEq, forall_eq']
      exact not_congr ⟨this.unique, fun h => h ▸ this⟩
  have htimeout : (∀ raw, texts .submitTimeout = some raw → ¬raw.Denotes 0) ↔
      c.submitTimeout ≠ some 0 := by
    have := hc.submitTimeout
    generalize texts .submitTimeout = text, c.submitTimeout = value at this
    cases this with
    | none => simp
    | some hn =>
      simp only [Option.some.injEq, forall_eq', ne_eq]
      exact not_congr ⟨hn.unique, fun h => h ▸ hn⟩
  have htrace : (∀ raw, texts .traceId = some raw → raw.text? ≠ some "") ↔ c.traceId ≠ some "" := by
    have := hc.traceId
    generalize texts .traceId = text, c.traceId = value at this
    cases this with
    | none => simp
    | some ht => simp [ht]
  constructor
  · intro h
    exact ⟨hworkers.1 h.numWorkers, htimeout.1 h.submitTimeout, htrace.1 h.traceId⟩
  · rintro ⟨hw, ht, hi⟩
    exact ⟨hutf8, hnumerals, hworkers.2 hw, htimeout.2 ht, htrace.2 hi⟩

/-! ## Resolution -/

variable {items : List Assignment} {env : Environment} {processors : Nat}

/-- What a command line of items and an environment are resolved to. -/
lemma accepts_iff (hp : 0 < processors) (hsound : ∀ i ∈ items, i.Sound)
    (hnd : (items.map Assignment.setting).Nodup) (c : JobConfig) :
    Accepts (items.flatMap Assignment.arguments) env processors c ↔
      Acceptable (effective items env) ∧ Resolved (effective items env) processors c := by
  obtain ⟨x, hx, hreads, hsucceeds⟩ := settles_readOptions env hsound hnd
  change ∀ g, x = .ok g → g.Reads (effective items env) at hreads
  change (∃ g, x = .ok g) ↔ Texts.Readable (effective items env) at hsucceeds
  unfold Accepts
  rw [hx]
  cases x with
  | error e =>
    refine iff_of_false (by rintro ⟨o, h, -⟩; exact nomatch h) ?_
    rintro ⟨h, -⟩
    obtain ⟨g, hg⟩ := hsucceeds.2 (Texts.readable_iff.2 ⟨h.utf8, h.numerals⟩)
    exact nomatch hg
  | ok g =>
    have hg := hreads g rfl
    have hresolved := hg.resolved processors
    have hiff := hresolved.acceptable_iff hp hg.readable
    constructor
    · rintro ⟨o, ho, hc⟩
      obtain rfl : g.options = o := Except.ok.inj ho
      obtain ⟨rfl, hvalid⟩ := Options.config_ok_iff.1 hc
      exact ⟨hiff.2 hvalid, hresolved⟩
    · rintro ⟨hacceptable, hc⟩
      exact ⟨g.options, rfl,
        Options.config_ok_iff.2 ⟨hc.unique hresolved, hiff.1 hacceptable⟩⟩

/-- A list of pairs with distinct keys has the value that stands beside the key. -/
lemma lookup_eq_some_iff_mem {pairs : List (Setting × RawText)} (hnd : (pairs.map Prod.fst).Nodup) :
    pairs.lookup s = some raw ↔ (s, raw) ∈ pairs := by
  induction pairs with
  | nil => simp
  | cons p pairs ih =>
    obtain ⟨t, value⟩ := p
    rw [List.map_cons, List.nodup_cons] at hnd
    by_cases hst : s = t
    · subst hst
      have hnot : (s, raw) ∉ pairs := fun h => hnd.1 (List.mem_map.2 ⟨_, h, rfl⟩)
      simp [hnot, eq_comm]
    · simp [List.lookup_cons, beq_false_of_ne hst, hst, ih hnd.2]

/-- **Resolution of settings.** A command line of items, each setting at most once, is accepted with
an environment exactly if the texts that count make up a configuration, and the configuration has
their values, or else the defaults. It stays the same if the items are put in another order or in
another form, and if variables change whose settings are on the command line. -/
theorem accepts_iff_acceptable_and_resolved (items : List Assignment) (env : Environment)
    (processors : Nat) (hp : 0 < processors) (hsound : ∀ i ∈ items, i.Sound)
    (hnd : (items.map Assignment.setting).Nodup) :
    ((∃ c, Accepts (items.flatMap Assignment.arguments) env processors c) ↔
        Acceptable (effective items env)) ∧
      (∀ c, Accepts (items.flatMap Assignment.arguments) env processors c ↔
        Acceptable (effective items env) ∧ Resolved (effective items env) processors c) ∧
      ∀ (others : List Assignment) (changed : Environment), (∀ i ∈ others, i.Sound) →
        (others.map Assignment.pair).Perm (items.map Assignment.pair) →
        (∀ s ∉ items.map Assignment.setting,
          changed.get? s.variableName = env.get? s.variableName) →
        ∀ c, Accepts (others.flatMap Assignment.arguments) changed processors c ↔
          Accepts (items.flatMap Assignment.arguments) env processors c := by
  have hkeys (items : List Assignment) :
      (items.map Assignment.pair).map Prod.fst = items.map Assignment.setting := by
    rw [List.map_map]
    rfl
  refine ⟨?_, accepts_iff hp hsound hnd, ?_⟩
  · constructor
    · rintro ⟨c, hc⟩
      exact ((accepts_iff hp hsound hnd c).1 hc).1
    · intro hacceptable
      obtain ⟨x, -, hreads, hsucceeds⟩ := settles_readOptions env hsound hnd
      obtain ⟨g, hg⟩ := hsucceeds.2 (Texts.readable_iff.2 ⟨hacceptable.utf8, hacceptable.numerals⟩)
      exact ⟨_, (accepts_iff hp hsound hnd _).2 ⟨hacceptable, (hreads g hg).resolved processors⟩⟩
  · intro others changed hsound' hperm hchanged c
    have hnd' : (others.map Assignment.setting).Nodup := by
      rw [← hkeys, (hperm.map Prod.fst).nodup_iff, hkeys]
      exact hnd
    have hsame : effective others changed = effective items env := by
      funext s
      have hlookup :
          (others.map Assignment.pair).lookup s = (items.map Assignment.pair).lookup s := by
        ext raw
        rw [lookup_eq_some_iff_mem (by rwa [hkeys]), lookup_eq_some_iff_mem (by rwa [hkeys]),
          hperm.mem_iff]
      rw [effective, effective, hlookup]
      by_cases hs : s ∈ items.map Assignment.setting
      · -- A text on the command line hides the variable.
        obtain ⟨i, hi, rfl⟩ := List.mem_map.1 hs
        have : (items.map Assignment.pair).lookup i.setting = some i.value :=
          (lookup_eq_some_iff_mem (by rwa [hkeys])).2 (List.mem_map.2 ⟨i, hi, rfl⟩)
        rw [this, Option.some_or, Option.some_or]
      · rw [hchanged s hs]
    rw [accepts_iff hp hsound hnd, accepts_iff hp hsound' hnd', hsame]

/-- Three settings, in both forms; a number has a sign and zeros before it. -/
def mixedItems : List Assignment :=
  [⟨.batchItems, RawText.ofString "3", false⟩, ⟨.traceId, RawText.ofString "run", true⟩,
    ⟨.submitTimeout, RawText.ofString "+020", true⟩]

/-- An environment in which a variable is not UTF-8, though its setting is among the three. -/
def shadedEnvironment : Environment :=
  [("BATCH_ITEMS", [none]), ("SKIP_EVERY", RawText.ofString "2")]

/-- The configuration of the three settings, also in another order and form and without the variable
that does not count. -/
theorem accepts_mixed :
    Accepts (mixedItems.flatMap Assignment.arguments) shadedEnvironment 4
        ⟨4, 3, 1000, some 20, 2, some "run"⟩ ∧
      Resolved (effective mixedItems shadedEnvironment) 4 ⟨4, 3, 1000, some 20, 2, some "run"⟩ ∧
      Accepts
        (["--trace-id", "run", "--submit-timeout-ms=+020", "--batch-items=3"].map RawText.ofString)
        [("SKIP_EVERY", RawText.ofString "2")] 4 ⟨4, 3, 1000, some 20, 2, some "run"⟩ := by
  have hsound : ∀ i ∈ mixedItems, i.Sound := by decide
  have haccepted : Accepts (mixedItems.flatMap Assignment.arguments) shadedEnvironment 4
      ⟨4, 3, 1000, some 20, 2, some "run"⟩ :=
    ⟨⟨none, 3, 1000, some 20, 2, some "run"⟩, by decide, by decide⟩
  obtain ⟨-, hiff, hothers⟩ := accepts_iff_acceptable_and_resolved mixedItems shadedEnvironment 4
    (by decide) hsound (by decide)
  refine ⟨haccepted, ((hiff _).1 haccepted).2, ?_⟩
  exact (hothers [⟨.traceId, RawText.ofString "run", false⟩,
    ⟨.submitTimeout, RawText.ofString "+020", true⟩, ⟨.batchItems, RawText.ofString "3", true⟩]
    [("SKIP_EVERY", RawText.ofString "2")] (by decide) (by decide)
    (by intro s hs; cases s <;> first | rfl | exact absurd (by decide) hs) _).2 haccepted

end Workforce
