import Mathlib.Logic.Function.Basic
import TreeFetch.CommandLine.Arguments

/-!
# What flags ask for together

Arguments have at most one value for each flag. A flag that is given sets its own value, which must
not be set already, and leaves all others as they are; the flag for verbosity only counts. So what a
command line asks for does not depend on the order of its flags, and each flag can be looked at
alone.

Results:
1. `take_eq_ok`: what one more flag does to arguments.
2. `ofOccurrences_perm` and `parse_perm`: the order of flags makes no difference.
3. `sets_of_ofOccurrences`: which value a flag gets.
-/

namespace TreeFetch.CommandLine

/-! ## Values -/

inductive Value
  /-- The flag is given, and takes no text. -/
  | given
  | text (value : String)
  | level (n : Int)
  | count (n : Nat)

def Flag.takesText : Flag → Bool
  | pattern | source | folderId | outputDir | pathPattern | pathFormat | config | logFile => true
  | maxDepth | maxResults | dryRun | verbose | help | version => false

/-- A flag in its place says a value. The path of a file must not be empty. -/
inductive Occurrence.Says : Occurrence → Value → Prop
  | given (value : Option String) : Says ⟨.dryRun, value⟩ .given
  | text {flag : Flag} {text : String} (takes : flag.takesText = true)
      (filled : flag = .config ∨ flag = .logFile → text ≠ "") :
      Says ⟨flag, some text⟩ (.text text)
  | level {text : String} {n : Int} (read : level text = .ok n) :
      Says ⟨.maxDepth, some text⟩ (.level n)
  | count {text : String} {n : Nat} (read : count text = .ok n) :
      Says ⟨.maxResults, some text⟩ (.count n)

theorem Occurrence.Says.unique {o : Occurrence} {v v' : Value} (h : o.Says v) (h' : o.Says v') :
    v = v' := by
  cases h with
  | given _ =>
    cases h' with
    | given _ => rfl
    | text takes _ => cases takes
  | text takes _ =>
    cases h' with
    | given _ => cases takes
    | text _ _ => rfl
    | level _ => cases takes
    | count _ => cases takes
  | level read =>
    cases h' with
    | text takes _ => cases takes
    | level read' => rw [Except.ok.inj (read.symm.trans read')]
  | count read =>
    cases h' with
    | text takes _ => cases takes
    | count read' => rw [Except.ok.inj (read.symm.trans read')]

theorem Occurrence.Says.ne_verbose {o : Occurrence} {v : Value} (h : o.Says v) :
    o.flag ≠ .verbose := by
  rintro again
  cases h with
  | given _ => cases again
  | text takes _ =>
    obtain rfl := again
    cases takes
  | level _ => cases again
  | count _ => cases again

namespace Arguments

/-- The value that arguments have for a flag. The flags for verbosity, help and version have
none. -/
def value? (a : Arguments) : Flag → Option Value
  | .pattern => a.pattern.map .text
  | .source => a.source.map .text
  | .folderId => a.folderId.map .text
  | .maxDepth => a.maxDepth.map .level
  | .maxResults => a.maxResults.map .count
  | .dryRun => if a.dryRun then some .given else none
  | .outputDir => a.outputDir.map .text
  | .pathPattern => a.pathPattern.map .text
  | .pathFormat => a.pathFormat.map .text
  | .config => a.config.map .text
  | .logFile => a.logFile.map .text
  | .verbose | .help | .version => none

variable {a b c : Arguments} {o o' : Occurrence} {given given' : List Occurrence} {flag : Flag}
  {v : Value}

/-- Arguments consist of their values and of how often the flag for verbosity is given. -/
theorem eq_of_value? (values : a.value? = b.value?) (often : a.verbose = b.verbose) : a = b := by
  have same : ∀ flag, a.value? flag = b.value? flag := congrFun values
  have texts : Function.Injective (Option.map Value.text) :=
    Option.map_injective fun _ _ => Value.text.inj
  have switched : a.dryRun = b.dryRun := by
    have switch := same .dryRun
    unfold value? at switch
    cases off : a.dryRun <;> cases off' : b.dryRun <;> simp_all
  obtain ⟨⟩ := a
  obtain ⟨⟩ := b
  simp only [mk.injEq]
  exact ⟨texts (same .pattern), texts (same .source), texts (same .folderId),
    Option.map_injective (fun _ _ => Value.level.inj) (same .maxDepth),
    Option.map_injective (fun _ _ => Value.count.inj) (same .maxResults), switched,
    texts (same .outputDir), texts (same .pathPattern), texts (same .pathFormat),
    texts (same .config), texts (same .logFile), often⟩

/-! ## One more flag -/

theorem once_map_eq_ok {α : Type} {before : Option α} {read : String → Except Stop α}
    {put : Option α → Arguments} :
    (once before o read).map put = .ok b ↔
      before = none ∧ ∃ text v, o.value = some text ∧ read text = .ok v ∧
      b = put (some v) := by
  unfold once
  cases o.value with
  | none => simp [Except.map]
  | some text =>
    cases before with
    | some _ => simp [Except.map]
    | none =>
      cases answer : read text with
      | error stop => simp [Except.map, answer]
      | ok v => simp [Except.map, answer, eq_comm]

/-- What one more flag does to arguments. -/
inductive Takes (a : Arguments) (o : Occurrence) (b : Arguments) : Prop
  | counts (again : o.flag = .verbose) (values : b.value? = a.value?)
      (often : b.verbose = a.verbose + 1)
  | sets {v : Value} (stated : o.Says v) (unset : a.value? o.flag = none)
      (values : b.value? = Function.update a.value? o.flag (some v)) (often : b.verbose = a.verbose)

theorem takes_of_take (h : take a o = .ok b) : Takes a o b := by
  obtain ⟨flag, value⟩ := o
  cases flag with
  | help => cases h
  | version => cases h
  | verbose =>
    obtain rfl := Except.ok.inj h
    exact .counts rfl rfl rfl
  | dryRun =>
    unfold take at h
    simp only at h
    split at h
    · cases h
    · next off =>
      obtain rfl := Except.ok.inj h
      exact .sets (.given value) (if_neg off) (funext fun flag => by cases flag <;> rfl) rfl
  | maxDepth =>
    obtain ⟨unset, text, n, rfl, read, rfl⟩ := once_map_eq_ok.1 h
    exact .sets (.level read) (Option.map_eq_none_iff.2 unset)
      (funext fun flag => by cases flag <;> rfl) rfl
  | maxResults =>
    obtain ⟨unset, text, n, rfl, read, rfl⟩ := once_map_eq_ok.1 h
    exact .sets (.count read) (Option.map_eq_none_iff.2 unset)
      (funext fun flag => by cases flag <;> rfl) rfl
  | config | logFile =>
    obtain ⟨unset, text, v, rfl, read, rfl⟩ := once_map_eq_ok.1 h
    unfold filePath at read
    split at read
    · cases read
    · next filled =>
      obtain rfl := Except.ok.inj read
      exact .sets (.text rfl fun _ => filled) (Option.map_eq_none_iff.2 unset)
        (funext fun flag => by cases flag <;> rfl) rfl
  | pattern | source | folderId | outputDir | pathPattern | pathFormat =>
    obtain ⟨unset, text, v, rfl, read, rfl⟩ := once_map_eq_ok.1 h
    obtain rfl := Except.ok.inj read
    exact .sets (.text rfl nofun) (Option.map_eq_none_iff.2 unset)
      (funext fun flag => by cases flag <;> rfl) rfl

/-- A flag that says a value is accepted if it is not set yet. -/
theorem exists_take (stated : o.Says v) (unset : a.value? o.flag = none) :
    ∃ b, take a o = .ok b := by
  cases stated with
  | given value =>
    have off : ¬a.dryRun = true := fun on => by simp [value?, on] at unset
    exact ⟨_, if_neg off⟩
  | level read =>
    exact ⟨_, once_map_eq_ok.2 ⟨Option.map_eq_none_iff.1 unset, _, _, rfl, read, rfl⟩⟩
  | count read =>
    exact ⟨_, once_map_eq_ok.2 ⟨Option.map_eq_none_iff.1 unset, _, _, rfl, read, rfl⟩⟩
  | @text flag text takes filled =>
    cases flag with
    | maxDepth | maxResults | dryRun | verbose | help | version => cases takes
    | config | logFile =>
      exact ⟨_, once_map_eq_ok.2
        ⟨Option.map_eq_none_iff.1 unset, _, _, rfl, if_neg (filled (by simp)), rfl⟩⟩
    | pattern | source | folderId | outputDir | pathPattern | pathFormat =>
      exact ⟨_, once_map_eq_ok.2 ⟨Option.map_eq_none_iff.1 unset, _, _, rfl, rfl, rfl⟩⟩

theorem Takes.unique (h : Takes a o b) (h' : Takes a o c) : b = c := by
  cases h with
  | counts again values often =>
    cases h' with
    | counts _ values' often' =>
      exact eq_of_value? (values.trans values'.symm) (often.trans often'.symm)
    | sets stated => exact absurd again stated.ne_verbose
  | sets stated unset values often =>
    cases h' with
    | counts again => exact absurd again stated.ne_verbose
    | sets stated' _ values' often' =>
      obtain rfl := stated.unique stated'
      exact eq_of_value? (values.trans values'.symm) (often.trans often'.symm)

theorem Takes.exists (h : Takes a o b) : ∃ c, take a o = .ok c := by
  obtain ⟨flag, value⟩ := o
  cases h with
  | counts again =>
    cases again
    exact ⟨_, rfl⟩
  | sets stated unset => exact exists_take stated unset

/-- One more flag sets its own value, which was not set, and no other; or it is the flag for
verbosity. -/
theorem take_eq_ok : take a o = .ok b ↔ Takes a o b := by
  refine ⟨takes_of_take, fun h => ?_⟩
  obtain ⟨c, taken⟩ := h.exists
  rw [taken, (takes_of_take taken).unique h]

/-! ## In any order -/

theorem foldlM_take_cons :
    (o :: given).foldlM take a = .ok c ↔ ∃ b, Takes a o b ∧ given.foldlM take b = .ok c := by
  rw [List.foldlM_cons]
  cases taken : take a o with
  | error stop =>
    refine iff_of_false nofun ?_
    rintro ⟨b, takes, _⟩
    cases taken.symm.trans (take_eq_ok.2 takes)
  | ok b =>
    have takes := take_eq_ok.1 taken
    constructor
    · intro rest
      exact ⟨b, takes, rest⟩
    · rintro ⟨b', takes', rest⟩
      rwa [← takes.unique takes'] at rest

/-- A flag that says a value sets it if it is not set yet. -/
theorem exists_takes (stated : o.Says v) (unset : a.value? o.flag = none) :
    ∃ b, Takes a o b ∧ b.value? = Function.update a.value? o.flag (some v) ∧
      b.verbose = a.verbose := by
  obtain ⟨b, taken⟩ := exists_take stated unset
  have takes := takes_of_take taken
  refine ⟨b, takes, ?_⟩
  cases takes with
  | counts again => exact absurd again stated.ne_verbose
  | sets stated' _ values often =>
    obtain rfl := stated.unique stated'
    exact ⟨values, often⟩

theorem Takes.swap (h : Takes a o b) (h' : Takes b o' c) :
    ∃ b', Takes a o' b' ∧ Takes b' o c := by
  cases h with
  | counts again values often =>
    cases h' with
    | counts again' values' often' =>
      exact ⟨b, .counts again' values often, .counts again values' often'⟩
    | @sets v' stated' unset' values' often' =>
      obtain ⟨b', takes, values'', often''⟩ := exists_takes stated' (values ▸ unset')
      refine ⟨b', takes, .counts again ?_ ?_⟩
      · rw [values', values, values'']
      · rw [often', often, often'']
  | @sets v stated unset values often =>
    cases h' with
    | counts again' values' often' =>
      refine ⟨{ a with verbose := a.verbose + 1 }, .counts again' rfl rfl,
        .sets stated unset ?_ ?_⟩
      · rw [values', values]
        rfl
      · rw [often', often]
    | @sets v' stated' unset' values' often' =>
      -- the flags are different, since the second one is not set by the first one
      have apart : o'.flag ≠ o.flag := by
        intro same
        rw [same, values, Function.update_self] at unset'
        cases unset'
      rw [values, Function.update_of_ne apart] at unset'
      obtain ⟨b', takes, values'', often''⟩ := exists_takes stated' unset'
      refine ⟨b', takes, .sets stated ?_ ?_ ?_⟩
      · rw [values'', Function.update_of_ne apart.symm, unset]
      · rw [values', values, values'', Function.update_comm apart.symm]
      · rw [often', often, often'']

theorem foldlM_take_perm (same : given.Perm given') (h : given.foldlM take a = .ok b) :
    given'.foldlM take a = .ok b := by
  induction same generalizing a with
  | nil => exact h
  | cons o _ ih =>
    obtain ⟨c, takes, rest⟩ := foldlM_take_cons.1 h
    exact foldlM_take_cons.2 ⟨c, takes, ih rest⟩
  | swap o o' rest =>
    obtain ⟨c, takes, later⟩ := foldlM_take_cons.1 h
    obtain ⟨d, takes', later⟩ := foldlM_take_cons.1 later
    obtain ⟨c', first, second⟩ := takes.swap takes'
    exact foldlM_take_cons.2 ⟨c', first, foldlM_take_cons.2 ⟨d, second, later⟩⟩
  | trans _ _ ih ih' => exact ih' (ih h)

theorem ofOccurrences_perm (same : given.Perm given') (h : ofOccurrences given = .ok a) :
    ofOccurrences given' = .ok a :=
  foldlM_take_perm same h

/-! ## One flag alone -/

/-- The value of a flag, from what is given: none if the flag is not given, or else what it says,
which is once only. -/
inductive Sets (given : List Occurrence) (flag : Flag) : Option Value → Prop
  | absent (never : ∀ o ∈ given, o.flag ≠ flag) : Sets given flag none
  | once {o : Occurrence} {v : Value} (only : given.filter (·.flag = flag) = [o])
      (stated : o.Says v) :
      Sets given flag (some v)

theorem value?_keeps (set : a.value? flag = some v) (h : given.foldlM take a = .ok b) :
    (∀ o ∈ given, o.flag ≠ flag) ∧ b.value? flag = some v := by
  induction given generalizing a with
  | nil =>
    obtain rfl := Except.ok.inj h
    exact ⟨List.forall_mem_nil _, set⟩
  | cons o rest ih =>
    obtain ⟨c, takes, later⟩ := foldlM_take_cons.1 h
    have step : o.flag ≠ flag ∧ c.value? flag = some v := by
      cases takes with
      | counts again values _ =>
        refine ⟨?_, by rw [values, set]⟩
        rintro rfl
        rw [again] at set
        cases set
      | sets _ unset values _ =>
        have apart : o.flag ≠ flag := by
          rintro rfl
          cases unset.symm.trans set
        exact ⟨apart, by rw [values, Function.update_of_ne apart.symm, set]⟩
    obtain ⟨never, kept⟩ := ih step.2 later
    exact ⟨List.forall_mem_cons.2 ⟨step.1, never⟩, kept⟩

theorem sets_of_foldlM (unset : a.value? flag = none) (other : flag ≠ .verbose)
    (h : given.foldlM take a = .ok b) : Sets given flag (b.value? flag) := by
  induction given generalizing a with
  | nil =>
    obtain rfl := Except.ok.inj h
    rw [unset]
    exact .absent (List.forall_mem_nil _)
  | cons o rest ih =>
    obtain ⟨c, takes, later⟩ := foldlM_take_cons.1 h
    by_cases here : o.flag = flag
    · subst here
      cases takes with
      | counts again => exact absurd again other
      | @sets v stated _ values _ =>
        have set : c.value? o.flag = some v := by rw [values, Function.update_self]
        obtain ⟨never, kept⟩ := value?_keeps set later
        rw [kept]
        refine .once ?_ stated
        rw [List.filter_cons_of_pos (by simp), List.filter_eq_nil_iff.2]
        exact fun o' present => by simpa using never o' present
    · have kept : c.value? flag = none := by
        cases takes with
        | counts _ values _ => rw [values, unset]
        | sets _ _ values _ => rw [values, Function.update_of_ne (Ne.symm here), unset]
      have sets := ih kept later
      generalize b.value? flag = value at sets ⊢
      cases sets with
      | absent never => exact .absent (List.forall_mem_cons.2 ⟨here, never⟩)
      | once only stated =>
        refine .once ?_ stated
        rwa [List.filter_cons_of_neg (by simpa using here)]

theorem sets_of_ofOccurrences (h : ofOccurrences given = .ok a) (other : flag ≠ .verbose) :
    Sets given flag (a.value? flag) :=
  sets_of_foldlM (by cases flag <;> rfl) other h

/-! ## Command lines -/

theorem parse_eq_ok {words : List String} :
    parse words = .ok a ↔ (Reading.ofWords none words).stop = none ∧
      ofOccurrences (Reading.ofWords none words).given = .ok a ∧ a.missing? = none := by
  simp only [parse, bind, Except.bind, throw, throwThe, MonadExceptOf.throw, pure, Except.pure]
  cases ofOccurrences (Reading.ofWords none words).given with
  | error stop => simp
  | ok b =>
    cases (Reading.ofWords none words).stop with
    | some stop => simp
    | none =>
      simp only [Except.ok.injEq, true_and]
      cases lacking : b.missing? with
      | some flag =>
        refine iff_of_false nofun ?_
        rintro ⟨rfl, whole⟩
        cases lacking.symm.trans whole
      | none =>
        refine ⟨fun same => ⟨Except.ok.inj same, ?_⟩, fun same => congrArg Except.ok same.1⟩
        rwa [← Except.ok.inj same]

/-- Command lines on which the same flags are given in different orders ask for the same. -/
theorem parse_perm {words words' : List String} (h : parse words = .ok a)
    (whole : (Reading.ofWords none words').stop = none)
    (same : (Reading.ofWords none words).given.Perm (Reading.ofWords none words').given) :
    parse words' = .ok a := by
  obtain ⟨_, asked, paired⟩ := parse_eq_ok.1 h
  exact parse_eq_ok.2 ⟨whole, ofOccurrences_perm same asked, paired⟩

end Arguments

end TreeFetch.CommandLine
