import Mathlib
import TreeFetch.Proofs.CommandLine.Arguments

/-!
# The command line over the configuration file

Arguments replace the settings whose flags are given and keep all others. The flags for transforming
paths come in pairs, although they are taken one by one: a command line with one of them alone is
refused. So the pair of settings comes from one place, and a configuration file with half of a pair
can be completed only by giving both flags.

Results:
1. `level_eq_ok` and `count_eq_ok`: the numbers that a command line may give.
2. `overrides_apply`: each setting, from the flags that are given.
3. `apply_apply`: arguments that are applied again.
4. `apply_overrides`: all of this for a command line that is accepted.
-/

namespace TreeFetch

namespace Config

/-- The pattern and the template for transforming paths are given both or not at all. -/
def Paired (c : Config) : Prop := c.pathPattern.isSome = c.pathFormat.isSome

instance (c : Config) : Decidable c.Paired := inferInstanceAs (Decidable (_ = _))

end Config

namespace CommandLine

variable {a : Arguments} {given : List Occurrence} {flag : Flag}
    {env : Config.Environment} {c : Config}
  {text : String}

/-! ## Numbers -/

theorem readDigits_le {limit n m : Nat} {beyond : NumberFault} {digits : List Char}
    (small : n ≤ limit) (h : readDigits limit beyond n digits = .ok m) : m ≤ limit := by
  induction digits generalizing n with
  | nil =>
    obtain rfl := Except.ok.inj h
    exact small
  | cons digit rest ih =>
    simp only [readDigits] at h
    split at h
    · cases h
    · split at h
      · cases h
      · next fits => exact ih (Nat.not_lt.1 fits) h

theorem readNatural_le {most n : Nat} (h : readNatural most text = .ok n) : n ≤ most := by
  unfold readNatural at h
  split at h
  · cases h
  · cases h
  · exact readDigits_le (Nat.zero_le _) h
  · exact readDigits_le (Nat.zero_le _) h

theorem readWhole_le {least most : Nat} {n : Int} (h : readWhole least most text = .ok n) :
    n ≤ most := by
  unfold readWhole at h
  split at h
  · cases h
  · next digits _ _ =>
    cases read : readDigits least .tooSmall 0 digits with
    | error fault => simp [read, Except.map, bind, Except.bind] at h
    | ok m =>
      have negative : -(m : Int) = n := by
        simpa [read, Except.map, bind, Except.bind, pure, Except.pure] using h
      omega
  · cases read : readNatural most text with
    | error fault => simp [read, Except.map, bind, Except.bind] at h
    | ok m =>
      have positive : (m : Int) = n := by
        simpa [read, Except.map, bind, Except.bind, pure, Except.pure] using h
      rw [← positive]
      exact Int.ofNat_le.2 (readNatural_le read)

theorem level_eq_ok {n : Int} (h : level text = .ok n) : -1 ≤ n ∧ n ≤ greatestLevel := by
  simp only [level] at h
  cases read : readWhole (greatestLevel + 1) greatestLevel text with
  | error fault => simp [read, Except.bind, Except.mapError] at h
  | ok m =>
    simp only [read, Except.bind] at h
    split at h
    · cases h
    · next least =>
      obtain rfl := Except.ok.inj h
      exact ⟨Int.not_lt.1 least, readWhole_le read⟩

theorem count_eq_ok {n : Nat} (h : count text = .ok n) : n ≤ greatestCount := by
  unfold count at h
  cases read : readNatural greatestCount text with
  | error fault => simp [read, Except.mapError] at h
  | ok m =>
    obtain rfl : m = n := by simpa [read, Except.mapError] using h
    exact readNatural_le read

/-! ## Settings -/

/-- A setting after the command line, from the setting before. It is kept if its flag is not given.
Otherwise the flag is given once, with a text that means the new setting. -/
inductive Overridden {α : Type} (given : List Occurrence) (flag : Flag)
    (means : String → α → Prop) (before : α) : α → Prop
  | kept (never : ∀ o ∈ given, o.flag ≠ flag) : Overridden given flag means before before
  | replaced {text : String} {after : α}
      (once : given.filter (·.flag = flag) = [⟨flag, some text⟩])
      (meant : means text after) : Overridden given flag means before after

/-- A text means a depth limit: the level that it writes, or none if that is -1. -/
def MeansDepth (text : String) (limit : Option Nat) : Prop :=
  ∃ n : Int, level text = .ok n ∧ -1 ≤ n ∧ n ≤ greatestLevel ∧
    (limit = none ↔ n = -1) ∧
    ∀ depth : Nat, limit = some depth ↔ n = depth

/-- A text means a limit of results: the number that it writes, or none if that is 0. -/
def MeansResults (text : String) (limit : Option Nat) : Prop :=
  ∃ n : Nat, count text = .ok n ∧ n ≤ greatestCount ∧ (limit = none ↔ n = 0) ∧
    ∀ most, limit = some most ↔ n = most ∧ n ≠ 0

/-- Settings after a command line on which flags are given, from the settings before. -/
structure Overrides (env : Config.Environment) (given : List Occurrence) (c c' : Config) :
    Prop where
  source : Overridden given .source (fun text v => v = Config.expandPath env text)
    c.source c'.source
  folderId : Overridden given .folderId (fun text v => v = some text) c.folderId c'.folderId
  pattern : Overridden given .pattern (fun text v => v = text) c.pattern c'.pattern
  maxDepth : Overridden given .maxDepth MeansDepth c.maxDepth c'.maxDepth
  maxResults : Overridden given .maxResults MeansResults c.maxResults c'.maxResults
  dryRun : c'.dryRun = true ↔ (∃ o ∈ given, o.flag = .dryRun) ∨ c.dryRun = true
  outputDir :
    Overridden given .outputDir (fun text v => v = Config.expandPath env text)
      c.outputDir c'.outputDir
  pathPattern : Overridden given .pathPattern (fun text v => v = some text)
    c.pathPattern c'.pathPattern
  pathFormat : Overridden given .pathFormat (fun text v => v = some text) c.pathFormat c'.pathFormat

section

variable {α : Type} {means : String → α → Prop} {before after : α} {value : Option Value}

theorem overridden_of_sets (sets : Arguments.Sets given flag value) (spoken : flag ≠ .dryRun)
    (kept : value = none → after = before)
    (replaced : ∀ text v, Occurrence.Says ⟨flag, some text⟩ v → value = some v →
      means text after) :
    Overridden given flag means before after := by
  cases sets with
  | absent never =>
    rw [kept rfl]
    exact .kept never
  | @once o v only stated =>
    have own : o.flag = flag := by
      have present : o ∈ given.filter (·.flag = flag) := only ▸ List.mem_singleton_self o
      simpa using (List.mem_filter.1 present).2
    cases stated with
    | given _ => exact absurd own.symm spoken
    | text takes filled =>
      cases own
      exact .replaced only (replaced _ _ (.text takes filled) rfl)
    | level read =>
      cases own
      exact .replaced only (replaced _ _ (.level read) rfl)
    | count read =>
      cases own
      exact .replaced only (replaced _ _ (.count read) rfl)

theorem text_of_sets {text? : Option String} (takes : flag.takesText = true)
    (sets : Arguments.Sets given flag (text?.map .text)) :
    (text? = none ∧ ∀ o ∈ given, o.flag ≠ flag) ∨
      ∃ text, text? = some text ∧ given.filter (·.flag = flag) = [⟨flag, some text⟩] := by
  have spoken : flag ≠ .dryRun := by
    rintro rfl
    cases takes
  have set : Overridden given flag (fun text v => v = some text) none text? := by
    refine overridden_of_sets sets spoken Option.map_eq_none_iff.1 fun text v stated same => ?_
    obtain ⟨other, rfl, rfl⟩ := Option.map_eq_some_iff.1 same
    cases stated
    rfl
  cases set with
  | kept never => exact .inl ⟨rfl, never⟩
  | replaced once meant => exact .inr ⟨_, meant, once⟩

theorem overridden_of_text {text? : Option String} (takes : flag.takesText = true)
    (sets : Arguments.Sets given flag (text?.map .text)) (set : String → α) :
    Overridden given flag (fun text v => v = set text) before ((text?.map set).getD before) := by
  rcases text_of_sets takes sets with ⟨rfl, never⟩ | ⟨text, rfl, once⟩
  · exact .kept never
  · exact .replaced once rfl

/-- A setting that is the text after its flag, or else nothing. -/
theorem overridden_of_text_or {text? before : Option String} (takes : flag.takesText = true)
    (sets : Arguments.Sets given flag (text?.map .text)) :
    Overridden given flag (fun text v => v = some text) before (text?.or before) := by
  have same : text?.or before = (text?.map some).getD before := by
    cases text? with
    | none => rfl
    | some text => rfl
  rw [same]
  exact overridden_of_text takes sets some

end

theorem meansDepth_of_level {n : Int} (read : level text = .ok n) :
    MeansDepth text (if n < 0 then none else some n.toNat) := by
  obtain ⟨least, most⟩ := level_eq_ok read
  refine ⟨n, read, least, most, ?_⟩
  by_cases below : n < 0
  · rw [if_pos below]
    exact ⟨iff_of_true rfl (by omega), fun depth => iff_of_false nofun (by omega)⟩
  · rw [if_neg below]
    refine ⟨iff_of_false nofun (by omega), fun depth => ?_⟩
    rw [Option.some.injEq]
    omega

theorem meansResults_of_count {n : Nat} (read : count text = .ok n) :
    MeansResults text (if n = 0 then none else some n) := by
  refine ⟨n, read, count_eq_ok read, ?_⟩
  by_cases zero : n = 0
  · rw [if_pos zero]
    exact ⟨iff_of_true rfl zero, fun most => iff_of_false nofun fun both => both.2 zero⟩
  · rw [if_neg zero]
    refine ⟨iff_of_false nofun zero, fun most => ?_⟩
    rw [Option.some.injEq, and_iff_left zero]

open Arguments (Sets sets_of_ofOccurrences parse_eq_ok parse_perm)

theorem dryRun_iff (h : Arguments.ofOccurrences given = .ok a) :
    a.dryRun = true ↔ ∃ o ∈ given, o.flag = .dryRun := by
  have sets : Sets given .dryRun (if a.dryRun = true then some .given else none) :=
    sets_of_ofOccurrences h nofun
  by_cases on : a.dryRun = true
  · rw [if_pos on] at sets
    refine iff_of_true on ?_
    cases sets with
    | @once o _ only _ =>
      have present : o ∈ given.filter (·.flag = .dryRun) := only ▸ List.mem_singleton_self o
      obtain ⟨member, own⟩ := List.mem_filter.1 present
      exact ⟨o, member, by simpa using own⟩
  · rw [if_neg on] at sets
    refine iff_of_false on ?_
    cases sets with
    | absent never =>
      rintro ⟨o, member, own⟩
      exact never o member own

/-- Each setting comes from its own flag if this is given, and is kept if not. -/
theorem overrides_apply (h : Arguments.ofOccurrences given = .ok a) (env : Config.Environment)
    (c : Config) : Overrides env given c (a.apply env c) := by
  have sets : ∀ flag, flag ≠ .verbose → Sets given flag (a.value? flag) := fun flag =>
    sets_of_ofOccurrences h
  constructor
  case source => exact overridden_of_text rfl (sets .source nofun) (Config.expandPath env)
  case outputDir => exact overridden_of_text rfl (sets .outputDir nofun) (Config.expandPath env)
  case folderId => exact overridden_of_text_or rfl (sets .folderId nofun)
  case pathPattern => exact overridden_of_text_or rfl (sets .pathPattern nofun)
  case pathFormat => exact overridden_of_text_or rfl (sets .pathFormat nofun)
  case pattern =>
    have same : (a.apply env c).pattern = (a.pattern.map id).getD c.pattern := by
      rw [Option.map_id]
      rfl
    rw [same]
    exact overridden_of_text rfl (sets .pattern nofun) id
  case maxDepth =>
    refine overridden_of_sets (sets .maxDepth nofun) nofun (fun unset => ?_)
      fun text v stated same => ?_
    · have none_ : a.maxDepth = none := Option.map_eq_none_iff.1 unset
      simp only [Arguments.apply, none_]
    · obtain ⟨n, set, rfl⟩ := Option.map_eq_some_iff.1 same
      cases stated with
      | level read =>
        simp only [Arguments.apply, set]
        exact meansDepth_of_level read
  case maxResults =>
    refine overridden_of_sets (sets .maxResults nofun) nofun (fun unset => ?_)
      fun text v stated same => ?_
    · have none_ : a.maxResults = none := Option.map_eq_none_iff.1 unset
      simp only [Arguments.apply, none_]
    · obtain ⟨n, set, rfl⟩ := Option.map_eq_some_iff.1 same
      cases stated with
      | count read =>
        simp only [Arguments.apply, set]
        exact meansResults_of_count read
  case dryRun =>
    show (a.dryRun || c.dryRun) = true ↔ _
    rw [Bool.or_eq_true, dryRun_iff h]

/-! ## The pair for transforming paths -/

/-- Where the settings for transforming paths come from: both from the settings before, or both from
the command line. So they are paired if they were paired before, and also if one of the flags is
given. -/
structure TakesPair (given : List Occurrence) (c c' : Config) : Prop where
  whole :
    (∀ o ∈ given, o.flag ≠ .pathPattern ∧ o.flag ≠ .pathFormat) ∧
      (c'.pathPattern, c'.pathFormat) = (c.pathPattern, c.pathFormat) ∨
    ∃ pattern format,
      given.filter (·.flag = .pathPattern) = [⟨.pathPattern, some pattern⟩] ∧
      given.filter (·.flag = .pathFormat) = [⟨.pathFormat, some format⟩] ∧
      (c'.pathPattern, c'.pathFormat) = (some pattern, some format)
  kept : c.Paired → c'.Paired
  completed : (∃ o ∈ given, o.flag = .pathPattern ∨ o.flag = .pathFormat) → c'.Paired

/-- The two flags for transforming paths are given both or not at all. -/
theorem isSome_of_missing? (whole : a.missing? = none) :
    a.pathPattern.isSome = a.pathFormat.isSome := by
  unfold Arguments.missing? at whole
  split at whole
  · cases whole
  · cases whole
  · next single other =>
    cases pattern : a.pathPattern with
    | none =>
      cases format : a.pathFormat with
      | none => rfl
      | some _ => exact absurd format (other _ pattern)
    | some _ =>
      cases format : a.pathFormat with
      | none => exact absurd format (single _ pattern)
      | some _ => rfl

theorem takesPair_apply (h : Arguments.ofOccurrences given = .ok a) (whole : a.missing? = none)
    (env : Config.Environment) (c : Config) : TakesPair given c (a.apply env c) := by
  have both := isSome_of_missing? whole
  have sets : ∀ flag, flag ≠ .verbose → Sets given flag (a.value? flag) := fun flag =>
    sets_of_ofOccurrences h
  have pattern := text_of_sets rfl (sets .pathPattern nofun)
  have format := text_of_sets rfl (sets .pathFormat nofun)
  have pair : ((a.apply env c).pathPattern, (a.apply env c).pathFormat) =
      (a.pathPattern.or c.pathPattern, a.pathFormat.or c.pathFormat) := rfl
  rcases pattern with ⟨unset, never⟩ | ⟨pattern, set, once⟩
  · rcases format with ⟨unset', never'⟩ | ⟨format, set', _⟩
    · rw [unset, unset', Option.none_or, Option.none_or] at pair
      obtain ⟨samePattern, sameFormat⟩ := Prod.mk.inj pair
      refine ⟨.inl ⟨fun o present => ⟨never o present, never' o present⟩, pair⟩,
        fun paired => ?_, ?_⟩
      · rwa [Config.Paired, samePattern, sameFormat]
      · rintro ⟨o, present, given_⟩
        exact (given_.elim (never o present) (never' o present)).elim
    · rw [unset, set'] at both
      cases both
  · rcases format with ⟨unset', _⟩ | ⟨format, set', once'⟩
    · rw [set, unset'] at both
      cases both
    · rw [set, set', Option.some_or, Option.some_or] at pair
      obtain ⟨samePattern, sameFormat⟩ := Prod.mk.inj pair
      have paired : (a.apply env c).Paired := by
        rw [Config.Paired, samePattern, sameFormat]
        rfl
      exact ⟨.inr ⟨pattern, format, once, once', pair⟩, fun _ => paired, fun _ => paired⟩

/-! ## Again -/

theorem apply_apply (a : Arguments) (env : Config.Environment) (c : Config) :
    a.apply env (a.apply env c) = a.apply env c := by
  have again : ∀ {α : Type} (x : Option α) (before : α),
      x.getD (x.getD before) = x.getD before := by
    intro α x before
    cases x with
    | none => rfl
    | some _ => rfl
  have again' : ∀ {α : Type} (x before : Option α), x.or (x.or before) = x.or before := by
    intro α x before
    rw [← Option.or_assoc, Option.or_self]
  simp only [Arguments.apply, Config.mk.injEq, again, again', and_true, true_and]
  refine ⟨?_, ?_, ?_⟩
  · cases a.maxDepth with
    | none => rfl
    | some n => rfl
  · cases a.maxResults with
    | none => rfl
    | some n => rfl
  · rw [← Bool.or_assoc, Bool.or_self]

/-! ## Command lines -/

/-- A command line that is accepted replaces exactly the settings whose flags are given on it. A
level of -1 and a number of 0 take a limit away. The settings for transforming paths come from one
place, a preview is never called off, and applying the arguments again changes nothing. All of this
is the same in any order of the flags. -/
theorem apply_overrides {words : List String} (accepted : Arguments.parse words = .ok a)
    (env : Config.Environment) (c : Config) :
    let given := (Reading.ofWords none words).given
    Overrides env given c (a.apply env c) ∧ TakesPair given c (a.apply env c) ∧
      (c.dryRun = true → (a.apply env c).dryRun = true) ∧
      a.apply env (a.apply env c) = a.apply env c ∧
      ∀ words', (Reading.ofWords none words').stop = none →
        given.Perm (Reading.ofWords none words').given → Arguments.parse words' = .ok a := by
  intro given
  obtain ⟨_, asked, whole⟩ := parse_eq_ok.1 accepted
  have overrides := overrides_apply asked env c
  exact ⟨overrides, takesPair_apply asked whole env c, fun on => overrides.dryRun.2 (.inr on),
    apply_apply a env c, fun words' read same => parse_perm accepted read same⟩

/-- Arguments that take two limits away and complete half of a pair. -/
def mended : Arguments where
  maxDepth := some (-1)
  maxResults := some 0
  pathPattern := some "p"
  pathFormat := some "f"

set_option maxRecDepth 100000 in
theorem parse_mended :
    Arguments.parse ["--path-format", "f", "-d", "-1", "-m0", "--path-pattern=p"] = .ok mended := by
  cbv

set_option maxRecDepth 100000 in
/-- The flags for transforming paths complete half of a pair, in either order, and the preview stays
on. -/
theorem apply_overrides_mended :
    let words := ["--path-format", "f", "-d", "-1", "-m0", "--path-pattern=p"]
    let words' := ["--path-pattern", "p", "--max=0", "-d-1", "--path-format", "f"]
    let c : Config :=
      { maxDepth := some 3, maxResults := some 4, dryRun := true, pathFormat := some "g" }
    let c' := mended.apply {} c
    Arguments.parse words = .ok mended ∧ Arguments.parse words' = .ok mended ∧
      c' = { dryRun := true, pathPattern := some "p", pathFormat := some "f" } ∧
      Overrides {} (Reading.ofWords none words).given c c' ∧ ¬c.Paired ∧ c'.Paired := by
  intro words words' c c'
  have read : Reading.ofWords none words =
    ⟨[⟨.pathFormat, some "f"⟩, ⟨.maxDepth, some "-1"⟩,
      ⟨.maxResults, some "0"⟩, ⟨.pathPattern, some "p"⟩], none⟩ := by cbv
  have read' : Reading.ofWords none words' =
    ⟨[⟨.pathPattern, some "p"⟩, ⟨.maxResults, some "0"⟩,
      ⟨.maxDepth, some "-1"⟩, ⟨.pathFormat, some "f"⟩], none⟩ := by cbv
  obtain ⟨overrides, pair, _, _, order⟩ := apply_overrides parse_mended {} c
  refine ⟨parse_mended, order words' ?_ ?_, rfl, overrides, by decide, pair.completed ?_⟩
  · rw [read']
  · rw [read, read']
    decide
  · rw [read]
    exact ⟨_, List.mem_cons_self .., .inr rfl⟩

end CommandLine

end TreeFetch
