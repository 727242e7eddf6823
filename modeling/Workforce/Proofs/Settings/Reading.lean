import Mathlib.Data.List.TakeWhile
import Mathlib.Tactic.Lemma
import Workforce.Settings.Resolve
/-!
# What a command line of settings is read as

A command line that sets each setting once is read as the list of what it sets, whatever the form of
its items, and the environment adds what its variables say about the rest. So what is given in the
end is told by one text for each setting.

## Main definitions

* `Workforce.Assignment` — an item of a command line that sets a setting.
* `Workforce.Assignment.arguments` — the arguments that the item consists of.
* `Workforce.Given.addAll` — settings get their values one after the other.
* `Workforce.Given.Reads` — the settings given are those that have a text, with its value.
* `Workforce.Settles` — reading succeeds where all texts have a value, and gives these.

## Main results

* `Workforce.Reading.read_items` — items are read one after the other, in either form.
* `Workforce.settles_readOptions` — what a command line of items and an environment give.

## Implementation notes

Errors are not told apart here: of several things that are wrong the first one is reported, and
which is first depends on the order of the items.
-/

namespace Workforce

/-! ## Items of a command line -/

/-- An item of a command line that sets a setting: one argument, in which an equals sign joins the
flag and the value, or two. -/
structure Assignment where
  setting : Setting
  value : RawText
  joined : Bool
deriving DecidableEq

namespace Assignment

/-- The flag with its dashes. -/
def flag (i : Assignment) : RawText := RawText.ofString ("--" ++ i.setting.flag)

/-- The arguments that the item consists of. -/
def arguments (i : Assignment) : List RawText :=
  if i.joined then [i.flag ++ some '=' :: i.value] else [i.flag, i.value]

/-- A value that is an argument of its own does not begin with a dash. -/
def Sound (i : Assignment) : Prop := i.joined = false → i.value.head? ≠ some (some '-')

instance (i : Assignment) : Decidable i.Sound := by unfold Sound; infer_instance

/-- The setting with its value. -/
def pair (i : Assignment) : Setting × RawText := (i.setting, i.value)

end Assignment

/-- The settings get their values one after the other. -/
def Given.addAll (given : Given) (pairs : List (Setting × RawText)) : Except UsageError Given :=
  pairs.foldlM (fun g p => Given.add p.1 p.2 g) given

/-! ## Arguments -/

variable {s : Setting} {value : RawText}

/-- No flag has an equals sign in it. -/
lemma Setting.flag_no_equals : ∀ c ∈ RawText.ofString s.flag, (c != some '=') = true := by
  cases s <;> decide

/-- A flag is more than its dashes. -/
lemma Setting.flag_ne_nil : RawText.ofString s.flag ≠ [] := by cases s <;> decide

/-- Each setting is found by its flag. -/
lemma Setting.find?_flag :
    Setting.all.find? (fun t => RawText.ofString t.flag == RawText.ofString s.flag) = some s := by
  cases s <;> decide

/-- The dashes of a flag. -/
lemma ofString_dashes (name : String) :
    RawText.ofString ("--" ++ name) = some '-' :: some '-' :: RawText.ofString name := by
  simp [RawText.ofString]

/-- A flag alone is a long argument without a value. -/
lemma Argument.of_flag :
    Argument.of (RawText.ofString ("--" ++ s.flag)) = .long (RawText.ofString s.flag) none := by
  have hne := s.flag_ne_nil
  have heq := s.flag_no_equals
  rw [ofString_dashes]
  generalize RawText.ofString s.flag = name at hne heq ⊢
  have htake : name.takeWhile (· != some '=') = name := List.takeWhile_eq_self_iff.2 heq
  have hdrop : name.dropWhile (· != some '=') = [] := List.dropWhile_eq_nil_iff.2 heq
  cases name with
  | nil => exact absurd rfl hne
  | cons c rest => simp only [Argument.of, htake, hdrop]

/-- A flag with an equals sign is a long argument with what follows as its value. -/
lemma Argument.of_joined :
    Argument.of (RawText.ofString ("--" ++ s.flag) ++ some '=' :: value) =
      .long (RawText.ofString s.flag) (some value) := by
  have hne := s.flag_ne_nil
  have heq := s.flag_no_equals
  rw [ofString_dashes]
  generalize RawText.ofString s.flag = name at hne heq ⊢
  have htake : (name ++ some '=' :: value).takeWhile (· != some '=') = name := by
    simp [List.takeWhile_append_of_pos heq]
  have hdrop : (name ++ some '=' :: value).dropWhile (· != some '=') = some '=' :: value := by
    simp [List.dropWhile_append_of_pos heq]
  cases name with
  | nil => exact absurd rfl hne
  | cons c rest =>
    rw [List.cons_append] at htake hdrop
    simp only [List.cons_append, Argument.of, htake, hdrop]

/-- An argument without a dash is plain. -/
lemma Argument.of_plain (h : value.head? ≠ some (some '-')) : Argument.of value = .plain := by
  unfold Argument.of
  split <;> simp_all

namespace Reading

variable {r : Reading}

/-- A flag alone settles the open flag and is open in its place. -/
lemma long_waiting : r.long (RawText.ofString s.flag) none =
    (r.settle.mapError .error).map (⟨·, .waiting s⟩) := by
  simp only [long, s.find?_flag]

/-- A flag with a value settles the open flag and gives the setting its value. -/
lemma long_joined : r.long (RawText.ofString s.flag) (some value) =
    ((r.settle.bind (Given.add s value)).mapError .error).map (⟨·, .none⟩) := by
  simp only [long, s.find?_flag]

/-- **Items are read one after the other.** Both forms of an item do the same: the open flag is
settled, and then the setting gets its value. -/
theorem read_items {items : List Assignment} (hsound : ∀ i ∈ items, i.Sound) :
    r.read (items.flatMap Assignment.arguments) =
      (r.settle.bind fun g => g.addAll (items.map Assignment.pair)).mapError .error := by
  induction items generalizing r with
  | nil =>
    simp only [List.flatMap_nil, read]
    cases r.settle <;> rfl
  | cons i items ih =>
    have ih {r : Reading} := @ih r fun j hj => hsound j (List.mem_cons_of_mem _ hj)
    obtain ⟨s, value, joined⟩ := i
    simp only [List.flatMap_cons, Assignment.arguments, List.map_cons, Given.addAll,
      List.foldlM_cons, Assignment.flag, Assignment.pair]
    cases joined with
    | true =>
      simp only [if_true, List.singleton_append, read, Argument.of_joined, long_joined]
      cases r.settle with
      | error e => rfl
      | ok g =>
        simp only [Except.bind, bind]
        cases hadd : Given.add s value g with
        | error e => rfl
        | ok g' => exact ih
    | false =>
      have hplain : Argument.of value = .plain :=
        Argument.of_plain (hsound _ List.mem_cons_self rfl)
      simp only [Bool.false_eq_true, if_false, List.cons_append, List.nil_append, read,
        Argument.of_flag, long_waiting]
      cases r.settle with
      | error e => rfl
      | ok g =>
        simp only [Except.bind, bind, Except.map, Except.mapError, hplain, plain]
        exact ih

end Reading

/-! ## Texts and their values -/

/-- A text for each setting that has one. -/
abbrev Texts := Setting → Option RawText

/-- Every text has a value. -/
def Texts.Readable (texts : Texts) : Prop :=
  ∀ s raw, texts s = some raw → ∃ v, s.readValue raw = .ok v

/-- The settings given are those that have a text, each with the value of its text. -/
def Given.Reads (texts : Texts) (g : Given) : Prop :=
  ∀ s, match texts s with
    | none => g.lookup s = none
    | some raw => ∃ v, s.readValue raw = .ok v ∧ g.lookup s = some v

/-- Reading succeeds where every text has a value, and what it gives are these values. -/
structure Settles {ε : Type} (texts : Texts) (x : Except ε Given) : Prop where
  reads : ∀ g, x = .ok g → g.Reads texts
  succeeds : (∃ g, x = .ok g) ↔ texts.Readable

variable {ε : Type} {texts more : Texts} {g : Given} {raw : RawText} {env : Environment}

/-- A setting is given exactly if it has a text. -/
lemma Given.Reads.any_eq (hg : g.Reads texts) : g.any (·.1 == s) = (texts s).isSome := by
  have hlookup : g.any (·.1 == s) = (g.lookup s).isSome := by
    rw [Bool.eq_iff_iff, List.lookup_isSome_iff, List.any_eq_true]
    simp only [beq_iff_eq, eq_comm (a := s)]
  have hs := hg s
  rw [hlookup]
  cases htext : texts s with
  | none =>
    rw [htext] at hs
    rw [show g.lookup s = none from hs]
    rfl
  | some raw =>
    rw [htext] at hs
    obtain ⟨v, -, hv⟩ := hs
    rw [hv]
    rfl

/-- What could be read has values. -/
lemma Given.Reads.readable (hg : g.Reads texts) : texts.Readable := by
  intro s raw hraw
  have := hg s
  rw [hraw] at this
  exact ⟨this.choose, this.choose_spec.1⟩

/-- Texts among others that have values have values too. -/
lemma Texts.Readable.mono (hle : ∀ s raw, texts s = some raw → more s = some raw)
    (h : more.Readable) : texts.Readable :=
  fun s raw hraw => h s raw (hle s raw hraw)

/-- What is given settles its texts. -/
lemma Given.Reads.settles (hg : g.Reads texts) : Settles texts (.ok g : Except ε Given) where
  reads _ h := Except.ok.inj h ▸ hg
  succeeds := iff_of_true ⟨g, rfl⟩ hg.readable

/-- What settles some texts, followed by what settles more of them. -/
lemma Settles.bind {x : Except ε Given} {f : Given → Except ε Given} (hx : Settles texts x)
    (hf : ∀ g : Given, g.Reads texts → Settles more (f g))
    (hle : ∀ s raw, texts s = some raw → more s = some raw) : Settles more (x.bind f) := by
  cases x with
  | error e =>
    refine ⟨fun g h => (nomatch h), iff_of_false (by rintro ⟨g, h⟩; exact nomatch h) ?_⟩
    intro hmore
    obtain ⟨g, hg⟩ := hx.succeeds.2 (hmore.mono hle)
    exact nomatch hg
  | ok g => exact hf g (hx.reads g rfl)

/-- Errors may be told in another way. -/
lemma Settles.mapError {δ : Type} {x : Except ε Given} (h : Settles texts x) (f : ε → δ) :
    Settles texts (x.mapError f) := by
  cases x with
  | error e =>
    refine ⟨fun g h => (nomatch h), iff_of_false (by rintro ⟨g, h⟩; exact nomatch h) ?_⟩
    intro hread
    obtain ⟨g, hg⟩ := h.succeeds.2 hread
    exact nomatch hg
  | ok g => exact (h.reads g rfl).settles

/-! ## Settings get their values -/

/-- A text for one more setting. -/
lemma settles_add (hg : g.Reads texts) (hs : texts s = none) :
    Settles (Function.update texts s (some raw)) (g.add s raw) := by
  have hnew : g.any (·.1 == s) = false := by rw [hg.any_eq, hs]; rfl
  rw [Given.add, hnew, if_neg Bool.false_ne_true]
  cases hvalue : s.readValue raw with
  | error e =>
    refine ⟨fun g h => (nomatch h), iff_of_false (by rintro ⟨g, h⟩; exact nomatch h) ?_⟩
    intro hread
    obtain ⟨v, hv⟩ := hread s raw (Function.update_self ..)
    exact nomatch hvalue.symm.trans hv
  | ok v =>
    refine Given.Reads.settles fun t => ?_
    rw [List.lookup_append]
    by_cases hts : t = s
    · subst hts
      have hnone : g.lookup t = none := by have := hg t; rwa [hs] at this
      simp [hvalue, hnone]
    · have hother : List.lookup t [(s, v)] = none := by simp [List.lookup_eq_none_iff, hts]
      rw [Function.update_of_ne hts, hother, Option.or_none]
      exact hg t

/-- What has a text in the first place keeps it. -/
lemma Texts.le_or (texts more : Texts) (s : Setting) (raw : RawText) (h : texts s = some raw) :
    (texts s).or (more s) = some raw := by
  rw [h, Option.some_or]

/-- Texts for settings that have none, one after the other. -/
lemma settles_addAll {pairs : List (Setting × RawText)} (hg : g.Reads texts)
    (hnew : ∀ p ∈ pairs, texts p.1 = none) (hnd : (pairs.map Prod.fst).Nodup) :
    Settles (fun s => (texts s).or (pairs.lookup s)) (g.addAll pairs) := by
  induction pairs generalizing texts g with
  | nil =>
    simp only [List.lookup_nil, Option.or_none]
    exact hg.settles
  | cons p pairs ih =>
    obtain ⟨s, raw⟩ := p
    rw [List.map_cons, List.nodup_cons] at hnd
    have hs : texts s = none := hnew _ List.mem_cons_self
    have htexts : (fun t => (texts t).or (((s, raw) :: pairs).lookup t)) =
        fun t => (Function.update texts s (some raw) t).or (pairs.lookup t) := by
      funext t
      by_cases hts : t = s
      · subst hts
        simp [hs]
      · simp [List.lookup_cons, beq_false_of_ne hts, Function.update_of_ne hts]
    rw [Given.addAll, List.foldlM_cons, htexts]
    refine (settles_add hg hs).bind (fun g' hg' => ih hg' (fun p hp => ?_) hnd.2) (Texts.le_or _ _)
    have hne : p.1 ≠ s := fun h => hnd.1 (List.mem_map.2 ⟨p, hp, h⟩)
    rw [Function.update_of_ne hne]
    exact hnew p (List.mem_cons_of_mem _ hp)

/-- The variable of a setting stands in for its text. -/
lemma settles_complete (hg : g.Reads texts) :
    Settles (fun t => (texts t).or (if t = s then env.get? t.variableName else none))
      (g.complete env s) := by
  have hsame (h : (texts s).or (env.get? s.variableName) = texts s) :
      (fun t => (texts t).or (if t = s then env.get? t.variableName else none)) = texts := by
    funext t
    by_cases hts : t = s
    · subst hts
      rwa [if_pos rfl]
    · rw [if_neg hts, Option.or_none]
  rw [Given.complete, Given.has, hg.any_eq]
  cases htext : texts s with
  | some raw =>
    rw [hsame (by rw [htext, Option.some_or])]
    exact hg.settles
  | none =>
    simp only [Option.isSome_none, Bool.false_eq_true, if_false]
    cases hvar : env.get? s.variableName with
    | none =>
      rw [hsame (by rw [htext, hvar]; rfl)]
      exact hg.settles
    | some raw =>
      have htexts : (fun t => (texts t).or (if t = s then env.get? t.variableName else none)) =
          Function.update texts s (some raw) := by
        funext t
        by_cases hts : t = s
        · subst hts
          simp [htext, hvar]
        · rw [if_neg hts, Option.or_none, Function.update_of_ne hts]
      rw [htexts]
      exact settles_add hg htext

/-- Variables stand in for the texts of settings, one after the other. -/
lemma settles_completeEach {settings : List Setting} (hg : g.Reads texts) :
    Settles (fun t => (texts t).or (if t ∈ settings then env.get? t.variableName else none))
      (settings.foldlM (fun g s => g.complete env s) g) := by
  induction settings generalizing texts g with
  | nil =>
    simp only [List.not_mem_nil, if_false, Option.or_none]
    exact hg.settles
  | cons s settings ih =>
    rw [List.foldlM_cons]
    have htexts : (fun t => (texts t).or
          (if t ∈ s :: settings then env.get? t.variableName else none)) =
        fun t => ((texts t).or (if t = s then env.get? t.variableName else none)).or
          (if t ∈ settings then env.get? t.variableName else none) := by
      funext t
      by_cases hts : t = s
      · subst hts
        cases texts t <;> cases env.get? t.variableName <;> simp
      · simp [hts]
    rw [htexts]
    exact (settles_complete hg).bind (fun g' hg' => ih hg') (Texts.le_or _ _)

/-- The environment says what the command line leaves open. -/
lemma settles_completeAll (hg : g.Reads texts) :
    Settles (fun s => (texts s).or (env.get? s.variableName)) (g.completeAll env) := by
  have hall (s : Setting) : s ∈ Setting.all := by cases s <;> decide
  have heach : Settles (fun s => (texts s).or
      (if s ∈ Setting.all then env.get? s.variableName else none)) (g.completeAll env) :=
    settles_completeEach hg
  simpa only [hall, if_true] using heach

/-- **What a command line of items and an environment give.** Each setting has the text of its item,
or else that of its variable; reading succeeds where these texts have values, and gives these. -/
theorem settles_readOptions {items : List Assignment} (env : Environment)
    (hsound : ∀ i ∈ items, i.Sound) (hnd : (items.map Assignment.setting).Nodup) :
    ∃ x : Except Stop Given, readOptions (items.flatMap Assignment.arguments) env =
        x.map Given.options ∧
      Settles (fun s => ((items.map Assignment.pair).lookup s).or (env.get? s.variableName)) x := by
  have hnone : Given.Reads (fun _ => none) [] := fun s => rfl
  have hpairs : ((items.map Assignment.pair).map Prod.fst).Nodup := by
    rw [List.map_map]
    exact hnd
  have hread : Settles (fun s => (items.map Assignment.pair).lookup s)
      (readCommandLine (items.flatMap Assignment.arguments)) := by
    rw [readCommandLine, Reading.read_items hsound]
    have := (settles_addAll hnone (fun _ _ => rfl) hpairs).mapError Stop.error
    simp only [Option.none_or] at this
    exact this
  refine ⟨(readCommandLine (items.flatMap Assignment.arguments)).bind fun g =>
    (g.completeAll env).mapError .error, ?_, hread.bind (fun g hg => ?_) (Texts.le_or _ _)⟩
  · unfold readOptions
    cases readCommandLine (items.flatMap Assignment.arguments) with
    | error e => rfl
    | ok g =>
      simp only [bind, Except.bind]
      cases g.completeAll env <;> rfl
  · exact (settles_completeAll hg).mapError Stop.error

end Workforce
