import TreeFetch.Proofs.Fetch.Requests
import TreeFetch.Proofs.Storage.Termination

/-!
# Why a run gives up

Six things can be wrong with a run, and it looks at them in a fixed order: whether the settings fit
together, the pattern for names, the transformer, the output directory, the root of the storage, and
at last the listing of each folder that it comes to. The first thing that is wrong ends the run. As
long as it has not begun to search it has asked the storage for nothing but the id of the output
directory, and when it gives up it has downloaded nothing. If nothing is wrong it ends with a
report, whatever becomes of the downloads.

Results:
1. `Fetch.prepare_prepares`: what is looked at before the storage is asked.
2. `Fetch.failsFirst_of_gaveUp`: a run gives up at the first stage at which something is wrong.
3. `Fetch.fetch_of_early`: what is wrong before the search keeps a run from asking for anything.
4. `fetch_fails_first`: why the runs give up of which the walk is finite.
-/

namespace TreeFetch

open Storage (Call Client Event File ListsOnly)
open Storage.Search (Begins)

variable {σ : Type} {client : Client σ} {state : σ} {config : Config}

namespace Fetch

/-! ## Stages -/

/-- What a run looks at before it downloads anything. -/
inductive Stage
  | settings
  | namePattern
  | transformer
  | outputDirectory
  | root
  | listing
deriving Repr, DecidableEq

/-- The place of a stage in the order in which a run passes them. -/
def Stage.rank : Stage → Nat
  | settings => 0
  | namePattern => 1
  | transformer => 2
  | outputDirectory => 3
  | root => 4
  | listing => 5

variable (client state config) in
/-- Something is wrong at a stage, which a run reports as a failure. The folders that count are
those that the run asks for. -/
def FailsAt : Stage → Failure → Prop
  | .settings, failure =>
    ∃ problem, config.problem? = some problem ∧ failure = .invalidConfig problem
  | .namePattern, failure =>
    ∃ fault, Regex.Pattern.compile config.pattern = .error fault ∧
      failure = .failed (.invalidPattern config.pattern fault)
  | .transformer, failure =>
    ∃ source template e, config.pathPattern = some source ∧
      config.pathFormat = some template ∧
      Transformer.create source template = .error e ∧ failure = .transformer e
  | .outputDirectory, failure =>
    client.folderIdAt state config.outputDir = some "" ∧ failure = .outputIsRoot config.outputDir
  | .root, failure =>
    config.folderId = none ∧ ∃ e, client.rootId state = .error e ∧ failure = .failed e
  | .listing, failure =>
    ∃ id e, .list id ∈ Event.calls (fetch client state config).events ∧
      (client.list state id).result = .error e ∧ failure = .failed e

variable (client state config) in
/-- A stage is the first one at which something is wrong. -/
structure FailsFirst (stage : Stage) (failure : Failure) : Prop where
  here : FailsAt client state config stage failure
  first : ∀ earlier : Stage, earlier.rank < stage.rank → ∀ other,
    ¬FailsAt client state config earlier other

/-! ## Before the storage is asked -/

/-- How the checks end that do not concern the storage. -/
inductive Prepares (config : Config) : Except Failure Preparation → Prop
  | settings {problem : Config.Problem} :
      config.problem? = some problem → Prepares config (.error (.invalidConfig problem))
  | namePattern {fault : Regex.PatternError} :
      config.problem? = none → Regex.Pattern.compile config.pattern = .error fault →
      Prepares config (.error (.failed (.invalidPattern config.pattern fault)))
  | transformer {pattern : Regex.Pattern} {source template : String} {e : Error} :
      config.problem? = none → Regex.Pattern.compile config.pattern = .ok pattern →
      config.pathPattern = some source → config.pathFormat = some template →
      Transformer.create source template = .error e → Prepares config (.error (.transformer e))
  | ready {ready : Preparation} :
      config.problem? = none → Regex.Pattern.compile config.pattern = .ok ready.pattern →
      (∀ source template e, config.pathPattern = some source →
        config.pathFormat = some template →
        Transformer.create source template ≠ .error e) → Prepares config (.ok ready)

theorem pathTransform_eq_some {source template : String} :
    config.pathTransform = some (source, template) ↔
      config.pathPattern = some source ∧ config.pathFormat = some template := by
  unfold Config.pathTransform
  split
  · next pattern format given given' => simp [given, given']
  · next unpaired =>
    simp only [reduceCtorEq, false_iff, not_and]
    exact fun given given' => unpaired _ _ given given'

theorem prepare_prepares (config : Config) : Prepares config (prepare config) := by
  unfold prepare
  split
  · next problem wrong => exact .settings wrong
  · next fits =>
    cases compiled : Regex.Pattern.compile config.pattern with
    | error fault => exact .namePattern fits compiled
    | ok pattern =>
      simp only [Except.mapError, bind, Except.bind]
      split
      · next none_ =>
        refine .ready fits compiled fun source template e given given' => ?_
        rw [pathTransform_eq_some.2 ⟨given, given'⟩] at none_
        cases none_
      · next source template both =>
        obtain ⟨given, given'⟩ := pathTransform_eq_some.1 both
        cases created : Transformer.create source template with
        | error e => exact .transformer fits compiled given given' created
        | ok t =>
          refine .ready fits compiled fun source' template' e other other' => ?_
          obtain rfl := Option.some.inj (given.symm.trans other)
          obtain rfl := Option.some.inj (given'.symm.trans other')
          simp [created]

variable (client state) in
/-- Where the preparation fails, it does so at the first stage at which something is wrong. -/
theorem failsFirst_of_prepare {failure : Failure} (failed : prepare config = .error failure) :
    ∃ stage : Stage, stage.rank < Stage.outputDirectory.rank ∧
      FailsFirst client state config stage failure := by
  have prepares := prepare_prepares config
  rw [failed] at prepares
  cases prepares with
  | settings wrong =>
    refine ⟨.settings, by decide, ⟨_, wrong, rfl⟩, fun earlier less => ?_⟩
    exact absurd less (Nat.not_lt_zero _)
  | namePattern fits wrong =>
    refine ⟨.namePattern, by decide, ⟨_, wrong, rfl⟩, fun earlier less other => ?_⟩
    cases earlier <;> simp [Stage.rank] at less
    simp [FailsAt, fits]
  | transformer fits compiled given given' wrong =>
    refine ⟨.transformer, by decide, ⟨_, _, _, given, given', wrong, rfl⟩,
      fun earlier less other => ?_⟩
    cases earlier <;> simp [Stage.rank] at less
    · simp [FailsAt, fits]
    · simp [FailsAt, compiled]

/-- Where the preparation succeeds, nothing is wrong at any of its stages. -/
theorem not_failsAt_of_prepare {ready : Preparation} (prepared : prepare config = .ok ready)
    {stage : Stage} (early : stage.rank < Stage.outputDirectory.rank) (failure : Failure) :
    ¬FailsAt client state config stage failure := by
  have prepares := prepare_prepares config
  rw [prepared] at prepares
  cases prepares with
  | ready fits compiled created =>
    cases stage <;> simp [Stage.rank] at early
    · simp [FailsAt, fits]
    · simp [FailsAt, compiled]
    · rintro ⟨source, template, e, given, given', wrong, _⟩
      exact created source template e given given' wrong

/-! ## The output directory -/

/-- The search is refused exactly if the output directory is the root. -/
theorem limits_eq_error {outputId : Option String} {failure : Failure} :
    Fetch.limits config outputId = .error failure ↔
      outputId = some "" ∧ failure = .outputIsRoot config.outputDir := by
  cases outputId with
  | none => simp [Fetch.limits]
  | some id =>
    by_cases root : id = ""
    · simp [Fetch.limits, root, eq_comm]
    · simp [Fetch.limits, root]

/-! ## The search -/

variable (client state config) in
/-- A run searches with `limits`. -/
structure Searches (ready : Preparation) (limits : Storage.Limits) : Prop where
  prepared : prepare config = .ok ready
  limited : ∃ noted, Fetch.limits config (client.folderIdAt state config.outputDir) =
    .ok (limits, noted)

theorem Searched.searches {ready : Preparation} {limits : Storage.Limits} {files : List File}
    (h : Searched client state config ready limits files) :
    Searches client state config ready limits :=
  ⟨h.prepared, h.limited⟩

variable {ready : Preparation} {limits : Storage.Limits}

theorem Searches.unique {ready' : Preparation} {limits' : Storage.Limits}
    (h : Searches client state config ready limits)
    (h' : Searches client state config ready' limits') : ready = ready' ∧ limits = limits' := by
  obtain ⟨noted, limited⟩ := h.limited
  obtain ⟨noted', limited'⟩ := h'.limited
  have same := Except.ok.inj (limited.symm.trans limited')
  exact ⟨Except.ok.inj (h.prepared.symm.trans h'.prepared), (Prod.mk.inj same).1⟩

theorem Searches.not_failsAt (h : Searches client state config ready limits) {stage : Stage}
    (early : stage.rank < Stage.root.rank) (failure : Failure) :
    ¬FailsAt client state config stage failure := by
  by_cases sooner : stage.rank < Stage.outputDirectory.rank
  · exact not_failsAt_of_prepare h.prepared sooner failure
  · cases stage <;> simp [Stage.rank] at early sooner
    rintro ⟨root, _⟩
    obtain ⟨noted, limited⟩ := h.limited
    have refused : Fetch.limits config (client.folderIdAt state config.outputDir) =
        .error (.outputIsRoot config.outputDir) := limits_eq_error.2 ⟨root, rfl⟩
    cases limited.symm.trans refused

theorem searches_of_asked {call : Call}
    (asked : call ∈ Event.calls (fetch client state config).events) :
    ∃ ready limits, Searches client state config ready limits := by
  have passes := fetch_passes client state config
  generalize fetch client state config = ending at passes asked
  cases passes with
  | unprepared _ => exact absurd asked List.not_mem_nil
  | refused _ _ none_ => exact absurd (none_ ▸ asked) List.not_mem_nil
  | lost prepared limited _ _ => exact ⟨_, _, prepared, _, limited⟩
  | delivered searched _ _ => exact ⟨_, _, searched.searches⟩

/-- The folders that a run asks for are those that its search asks for. -/
theorem list_mem_calls (h : Searches client state config ready limits) (id : String) :
    .list id ∈ Event.calls (fetch client state config).events ↔
      .list id ∈ Event.calls
        (Storage.search client state config.folderId ready.pattern limits).events := by
  have passes := fetch_passes client state config
  generalize fetch client state config = ending at passes ⊢
  cases passes with
  | unprepared failed => cases h.prepared.symm.trans failed
  | refused _ failed _ =>
    obtain ⟨noted, limited⟩ := h.limited
    cases limited.symm.trans failed
  | lost prepared limited _ calls =>
    obtain ⟨rfl, rfl⟩ := h.unique ⟨prepared, _, limited⟩
    rw [calls]
  | @delivered ready' limits' files before ending searched calls ended =>
    obtain ⟨rfl, rfl⟩ := h.unique searched.searches
    have others : .list id ∉ Event.calls ending.events := by
      rw [ended, calls_deliver]
      split
      · exact List.not_mem_nil
      · intro asked
        obtain ⟨p, _, request⟩ := List.mem_filterMap.1 asked
        obtain ⟨path, _, same⟩ := Option.map_eq_some_iff.1 request
        cases same
    rw [Event.calls_append, List.mem_append, calls, or_iff_left others]

/-- What is wrong at the last two stages is why the search fails. -/
theorem Searches.search_failed_iff (h : Searches client state config ready limits) {e : Error} :
    (Storage.search client state config.folderId ready.pattern limits).result =
      .error (.failed e) ↔
      FailsAt client state config .root (.failed e) ∨
        FailsAt client state config .listing (.failed e) := by
  rw [Storage.Search.search_failed_iff]
  refine or_congr ?_ ?_
  · simp [FailsAt]
  · simp [FailsAt, list_mem_calls h]

theorem Searches.not_listing_of_root (h : Searches client state config ready limits)
    {failure other : Failure} (root : FailsAt client state config .root failure) :
    ¬FailsAt client state config .listing other := by
  rintro ⟨id, e, asked, _, _⟩
  obtain ⟨start, e', none_, _⟩ := root
  rw [list_mem_calls h, start, (Storage.Search.search_of_root none_).2] at asked
  exact List.not_mem_nil asked

/-! ## Verdicts -/

theorem FailsAt.unique {stage : Stage} {failure other : Failure}
    (h : FailsAt client state config stage failure) (h' : FailsAt client state config stage other) :
    failure = other := by
  cases stage with
  | settings =>
    obtain ⟨problem, wrong, rfl⟩ := h
    obtain ⟨problem', wrong', rfl⟩ := h'
    rw [Option.some.inj (wrong.symm.trans wrong')]
  | namePattern =>
    obtain ⟨fault, wrong, rfl⟩ := h
    obtain ⟨fault', wrong', rfl⟩ := h'
    rw [Except.error.inj (wrong.symm.trans wrong')]
  | transformer =>
    obtain ⟨source, template, e, given, format, wrong, rfl⟩ := h
    obtain ⟨source', template', e', given', format', wrong', rfl⟩ := h'
    obtain rfl := Option.some.inj (given.symm.trans given')
    obtain rfl := Option.some.inj (format.symm.trans format')
    rw [Except.error.inj (wrong.symm.trans wrong')]
  | outputDirectory => exact h.2.trans h'.2.symm
  | root =>
    obtain ⟨_, e, wrong, rfl⟩ := h
    obtain ⟨_, e', wrong', rfl⟩ := h'
    rw [Except.error.inj (wrong.symm.trans wrong')]
  | listing =>
    obtain ⟨id, e, asked, wrong, rfl⟩ := h
    obtain ⟨id', e', asked', wrong', rfl⟩ := h'
    obtain ⟨ready, limits, searches⟩ := searches_of_asked asked
    have failed := searches.search_failed_iff.2 (.inr ⟨id, e, asked, wrong, rfl⟩)
    have failed' := searches.search_failed_iff.2 (.inr ⟨id', e', asked', wrong', rfl⟩)
    rw [Storage.Stop.failed.inj (Except.error.inj (failed.symm.trans failed'))]

theorem Stage.eq_of_rank {stage other : Stage} (same : stage.rank = other.rank) :
    stage = other := by
  cases stage <;> cases other <;> first | rfl | cases same

/-- There is one first stage at most at which something is wrong. -/
theorem FailsFirst.unique {stage other : Stage} {failure failure' : Failure}
    (h : FailsFirst client state config stage failure)
    (h' : FailsFirst client state config other failure') : failure = failure' := by
  rcases Nat.lt_trichotomy stage.rank other.rank with less | same | more
  · exact absurd h.here (h'.first stage less failure)
  · obtain rfl := Stage.eq_of_rank same
    exact h.here.unique h'.here
  · exact absurd h'.here (h.first other more failure')

/-- A run gives up before it asks for anything, or because its search fails. -/
theorem gaveUp_cases {failure : Failure}
    (gaveUp : (fetch client state config).result = .error failure) :
    prepare config = .error failure ∨
      (∃ ready, prepare config = .ok ready ∧
        Fetch.limits config (client.folderIdAt state config.outputDir) = .error failure) ∨
      ∃ ready limits stop, Searches client state config ready limits ∧
        failure = .ofStop stop ∧
        (Storage.search client state config.folderId ready.pattern limits).result =
          .error stop := by
  have passes := fetch_passes client state config
  generalize fetch client state config = ending at passes gaveUp
  cases passes with
  | unprepared failed =>
    obtain rfl := Except.error.inj gaveUp
    exact .inl failed
  | refused prepared failed _ =>
    obtain rfl := Except.error.inj gaveUp
    exact .inr (.inl ⟨_, prepared, failed⟩)
  | lost prepared limited failed _ =>
    obtain rfl := Except.error.inj gaveUp
    exact .inr (.inr ⟨_, _, _, ⟨prepared, _, limited⟩, rfl, failed⟩)
  | delivered _ _ ended =>
    obtain ⟨report, reports⟩ := deliverWith_reports Storage.deaf client state config _ _
    rw [ended] at gaveUp
    cases reports.symm.trans gaveUp

/-- A run gives up at the first stage at which something is wrong, unless its walk has no end. -/
theorem failsFirst_of_gaveUp {failure : Failure}
    (gaveUp : (fetch client state config).result = .error failure)
    (finite : failure ≠ .endlessWalk) :
    ∃ stage, FailsFirst client state config stage failure := by
  rcases gaveUp_cases gaveUp with
    failed | ⟨ready, prepared, failed⟩ | ⟨ready, limits, stop, searches, rfl, failed⟩
  · obtain ⟨stage, _, first⟩ := failsFirst_of_prepare client state failed
    exact ⟨stage, first⟩
  · exact ⟨.outputDirectory, limits_eq_error.1 failed, fun earlier less other =>
      not_failsAt_of_prepare prepared less other⟩
  · cases stop with
    | endless => exact absurd rfl finite
    | failed e =>
      rcases searches.search_failed_iff.1 failed with root | listing
      · exact ⟨.root, root, fun earlier less other => searches.not_failsAt less other⟩
      · refine ⟨.listing, listing, fun earlier less other wrong => ?_⟩
        by_cases sooner : earlier.rank < Stage.root.rank
        · exact searches.not_failsAt sooner other wrong
        · obtain rfl : earlier = .root := by
            cases earlier <;> simp [Stage.rank] at less sooner
            rfl
          exact searches.not_listing_of_root wrong listing

theorem not_failsAt_of_report {report : Report}
    (done : (fetch client state config).result = .ok report) (stage : Stage) (failure : Failure) :
    ¬FailsAt client state config stage failure := by
  obtain ⟨ready, limits, files, searched, _⟩ := searched_of_report done
  have searches := searched.searches
  have found : ∀ e, (Storage.search client state config.folderId ready.pattern limits).result ≠
      .error (.failed e) := by
    simp [searched.found]
  intro wrong
  by_cases early : stage.rank < Stage.root.rank
  · exact searches.not_failsAt early failure wrong
  · cases stage <;> simp [Stage.rank] at early
    · obtain ⟨_, e, _, rfl⟩ := id wrong
      exact found e (searches.search_failed_iff.2 (.inl wrong))
    · obtain ⟨_, e, _, _, rfl⟩ := id wrong
      exact found e (searches.search_failed_iff.2 (.inr wrong))

theorem quiet_of_gaveUp {failure : Failure}
    (gaveUp : (fetch client state config).result = .error failure) :
    ListsOnly (fetch client state config).events ∧ (fetch client state config).state = state := by
  obtain ⟨before, quiet, run⟩ := fetch_eq client state config
  rw [run] at gaveUp ⊢
  cases found : findings client state config with
  | error other =>
    rw [found] at gaveUp
    exact ⟨quiet, rfl⟩
  | ok result =>
    rw [found] at gaveUp
    obtain ⟨report, reports⟩ :=
      deliverWith_reports Storage.deaf client state config result.1.transformer
        result.2
    cases reports.symm.trans gaveUp

/-- What is wrong before the search keeps a run from asking for anything but the id of the output
directory: it is the same run in every storage that answers this alike. -/
theorem fetch_of_early {stage : Stage} {failure : Failure} (early : stage.rank < Stage.root.rank)
    (wrong : FailsAt client state config stage failure) :
    Event.calls (fetch client state config).events = [] ∧
      ∀ other : Client σ, other.folderIdAt = client.folderIdAt →
        fetch other state config = fetch client state config := by
  have none_ : ∀ ready limits, ¬Searches client state config ready limits :=
    fun _ _ searches => searches.not_failsAt early failure wrong
  constructor
  · refine List.eq_nil_iff_forall_not_mem.2 fun call asked => ?_
    obtain ⟨ready, limits, searches⟩ := searches_of_asked asked
    exact none_ ready limits searches
  · intro other same
    rw [fetch_unheard, fetch_unheard, same]
    cases prepared : prepare config with
    | error failure => rfl
    | ok ready =>
      cases limited : Fetch.limits config (client.folderIdAt state config.outputDir) with
      | error failure => rfl
      | ok found => exact absurd ⟨prepared, found.2, limited⟩ (none_ ready found.1)

/-! ## Finite walks -/

theorem prepare_ne_endlessWalk (config : Config) : prepare config ≠ .error .endlessWalk := by
  intro failed
  have prepares := prepare_prepares config
  rw [failed] at prepares
  cases prepares

/-- A run does not give up for want of an end if its walk terminates. -/
theorem ne_endlessWalk_of_terminates
    (terminates : ∀ ready limits start, Searches client state config ready limits →
      Begins client state config.folderId start →
        Storage.Search.Terminates client state ready.pattern limits start) :
    (fetch client state config).result ≠ .error .endlessWalk := by
  intro gaveUp
  rcases gaveUp_cases gaveUp with
    failed | ⟨ready, _, failed⟩ | ⟨ready, limits, stop, searches, same, failed⟩
  · exact prepare_ne_endlessWalk config failed
  · cases (limits_eq_error.1 failed).2
  · cases stop with
    | failed e => cases same
    | endless =>
      exact Storage.Search.search_ne_endless
        (fun start => terminates ready limits start searches) failed

variable (client state config) in
/-- The walk of a run, if it comes to that, ends by itself within some levels. -/
def WalkEndsWithin (levels : Nat) : Prop :=
  ∀ ready limits start, Searches client state config ready limits →
    Begins client state config.folderId start →
      (Storage.Search.visitFolder client state ready.pattern limits levels 0 start "" 0).stop ≠
        some .endless

theorem WalkEndsWithin.ne_endlessWalk {levels height : Nat}
    (finite : WalkEndsWithin client state config levels) (generous : levels ≤ height) :
    (fetch (client.withHeight height) state config).result ≠ .error .endlessWalk :=
  ne_endlessWalk_of_terminates fun ready limits start searches begins =>
    Storage.Search.terminates_withHeight
      (finite ready limits start ⟨searches.prepared, searches.limited⟩ begins) generous

end Fetch

open Fetch

/-- A run of which the walk is finite gives up exactly if something is wrong, for the reason that
comes first, and then it has downloaded nothing. It has asked for nothing at all, the root included,
if something is wrong before the search. If nothing is wrong it ends with a report. The storage has
to allow for as many folders inside one another as the walk goes down; how much more it allows for
makes no difference. -/
theorem fetch_fails_first {levels height : Nat} (finite : WalkEndsWithin client state config levels)
    (generous : levels ≤ height) :
    let storage := client.withHeight height
    let run := fetch storage state config
    (∀ failure, run.result = .error failure ↔
        ∃ stage, FailsFirst storage state config stage failure) ∧
      ((∃ report, run.result = .ok report) ↔
        ∀ stage failure, ¬FailsAt storage state config stage failure) ∧
      (∀ failure, run.result = .error failure → ListsOnly run.events ∧ run.state = state) ∧
      ∀ stage failure, stage.rank < Stage.root.rank →
        FailsFirst storage state config stage failure → Event.calls run.events = [] ∧
          ∀ other : Client σ, other.folderIdAt = client.folderIdAt →
            fetch other state config = run := by
  intro storage run
  have first : ∀ failure, run.result = .error failure →
      ∃ stage, FailsFirst storage state config stage failure := by
    intro failure gaveUp
    refine failsFirst_of_gaveUp gaveUp ?_
    rintro rfl
    exact finite.ne_endlessWalk generous gaveUp
  have right : ∀ report, run.result = .ok report →
      ∀ stage failure, ¬FailsAt storage state config stage failure := fun _ done =>
    not_failsAt_of_report done
  refine ⟨fun failure => ⟨first failure, ?_⟩,
    ⟨fun ⟨report, done⟩ => right report done, ?_⟩,
    fun failure gaveUp => quiet_of_gaveUp gaveUp,
    fun stage failure early wrong => fetch_of_early early wrong.here⟩
  · rintro ⟨stage, wrong⟩
    cases ended : run.result with
    | ok report => exact absurd wrong.here (right report ended stage failure)
    | error other =>
      obtain ⟨stage', wrong'⟩ := first other ended
      rw [wrong.unique wrong']
  · intro nothing
    cases ended : run.result with
    | ok report => exact ⟨report, rfl⟩
    | error failure =>
      obtain ⟨stage, wrong⟩ := first failure ended
      exact absurd wrong.here (nothing stage failure)

/-! ## A folder that cannot be listed -/

/-- A storage with a file and a folder that cannot be listed. -/
def Fetch.locked : Storage.Catalogue where
  folders := [("r", [⟨"x", "a", .file, 2, false⟩, ⟨"m", "b", .folder, 1, false⟩])]
  root := some "r"
  localId := none
  failing := []

theorem Fetch.walkEndsWithin_locked (config : Config) (top : config.folderId = none) :
    WalkEndsWithin Storage.Catalogue.client locked config 2 := by
  intro ready limits start _ begins
  have begins' : (.ok "r" : Except Error String) = .ok start := by
    rw [top] at begins
    exact begins
  obtain rfl := Except.ok.inj begins'
  refine Storage.Search.Suffices.ends (.intro fun entries e opened present down => ?_) "" 0
  refine .intro fun inner e' opened' _ _ => ?_
  have listed := Except.ok.inj opened.listed
  subst listed
  simp only [List.mem_cons, List.not_mem_nil, or_false] at present
  rcases present with rfl | rfl
  · cases down.kind
  · cases opened'.listed

set_option maxRecDepth 100000 in
theorem Fetch.locked_gaveUp :
    (fetch (Storage.Catalogue.client.withHeight 2) locked { pattern := "a" }).result =
      .error (.failed (.pathOperation "m" "list folder")) := by
  cbv

/-- A folder that cannot be listed makes a run give up that has found a file already, and the file
is not downloaded. -/
theorem fetch_fails_first_locked :
    let storage := Storage.Catalogue.client.withHeight 2
    let config : Config := { pattern := "a" }
    let failure : Failure := .failed (.pathOperation "m" "list folder")
    let run := fetch storage locked config
    WalkEndsWithin Storage.Catalogue.client locked config 2 ∧
      run.result = .error failure ∧
        (∃ stage, FailsFirst storage locked config stage failure) ∧
      ListsOnly run.events ∧ run.state = locked := by
  intro storage config failure run
  have finite := walkEndsWithin_locked config rfl
  obtain ⟨gives, _, quiet, _⟩ := fetch_fails_first finite (le_refl 2)
  have gaveUp : run.result = .error failure := locked_gaveUp
  exact ⟨finite, gaveUp, (gives failure).1 gaveUp, quiet failure gaveUp⟩

end TreeFetch
