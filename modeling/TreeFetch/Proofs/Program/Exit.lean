import TreeFetch.Program
import TreeFetch.Proofs.Fetch.Heard
import TreeFetch.Proofs.Program.LogFile

/-!
# The exit code

The program goes through its steps one after the other: it finds the settings, checks what the
arguments make of them, opens the storage and fetches. It exits with 0 exactly if it comes to the
end of that and the report counts no errors, and with 1 otherwise. When it gives up before there is
a report, it has changed nothing but the log file. All of this is in the file system that the
messages before have left, also where the log file lies in the storage.

Results:
1. `Program.session_ok_iff`: a session ends with a report exactly if all of its steps succeed.
2. `Program.session_appends`: a session without a report has changed nothing but the log file.
3. `Program.session_ne_endlessWalk`: the search of a session ends, whatever the log file does to it.
4. `Program.exit_faithful`: what the exit code says.
-/

namespace TreeFetch.Program

open FileSystem (Appends)
open Journal (LogOnly)

variable {env : Config.Environment} {a : CommandLine.Arguments} {j : Journal}
    {fs opened : FileSystem}
  {config config' : Config} {report report' : Report} {failure : Failure}

/-! ## Sessions -/

/-- The file system when the settings have been looked for. -/
def settled (env : Config.Environment) (a : CommandLine.Arguments) (j : Journal) (fs : FileSystem) :
    FileSystem :=
  j.tellAll fs (Config.resolve env fs a.config).notes

/-- A session that begins in a file system comes to its end with a report on the run with some
settings. The run tells its messages to the log file as it goes. -/
structure Completes (env : Config.Environment) (a : CommandLine.Arguments) (j : Journal)
    (fs : FileSystem) (config : Config) (report : Report) : Prop where
  found : ∃ base, (Config.resolve env fs a.config).result = .ok base ∧ config = a.apply env base
  fits : config.problem? = none
  root : (settled env a j fs).isFolder config.source = true
  fetched :
    (fetchWith j.tell (Storage.Local.clientWith ⟨config.source⟩ j.tell) (settled env a j fs)
      config).result = .ok report

theorem Completes.unique (h : Completes env a j fs config report)
    (h' : Completes env a j fs config' report') : config = config' ∧ report = report' := by
  obtain ⟨base, found, rfl⟩ := h.found
  obtain ⟨base', found', rfl⟩ := h'.found
  obtain rfl := Except.ok.inj (found.symm.trans found')
  exact ⟨rfl, Except.ok.inj (h.fetched.symm.trans h'.fetched)⟩

theorem result_loadNoted (env : Config.Environment) (fs : FileSystem) (file : String) :
    (Config.loadNoted env fs file).result = Config.load env fs file := by
  unfold Config.loadNoted
  cases Config.load env fs file <;> rfl

theorem resolve_failure {asked : Option String}
    (h : (Config.resolve env fs asked).result = .error failure) : failure ≠ .endlessWalk := by
  have loading : ∀ file, (Config.loadNoted env fs file).result ≠ .error .endlessWalk := by
    intro file
    rw [result_loadNoted, Config.load]
    split
    · simp
    · split
      · simp
      · next text _ => cases Config.ofYaml env text <;> simp [Except.mapError]
  rintro rfl
  unfold Config.resolve at h
  split at h
  · split at h
    · exact loading _ h
    · cases h
  · split at h
    · exact loading _ h
    · cases h

theorem prepare_failure {base : Config} (h : prepare env a fs base = .error failure) :
    failure ≠ .endlessWalk := by
  rintro rfl
  unfold prepare at h
  simp only at h
  split at h
  · cases h
  · split at h <;> cases h

theorem prepare_eq_ok {base : Config} {store : Storage.Local} :
    prepare env a fs base = .ok (store, config) ↔
      config = a.apply env base ∧ config.problem? = none ∧ fs.isFolder config.source = true ∧
        store = ⟨config.source⟩ := by
  unfold prepare
  simp only
  cases fits : (a.apply env base).problem? with
  | some problem =>
    simp only [reduceCtorEq, false_iff, not_and]
    rintro rfl fits'
    cases fits.symm.trans fits'
  | none =>
    simp only [Storage.Local.ofRoot]
    split
    · next e failed =>
      split at failed
      · cases failed
      · next other =>
        simp only [reduceCtorEq, false_iff, not_and]
        rintro rfl _ folder
        exact absurd folder other
    · next root opens =>
      split at opens
      · next folder =>
        obtain rfl := Except.ok.inj opens
        simp only [Except.ok.injEq, Prod.mk.injEq]
        constructor
        · rintro ⟨rfl, rfl⟩
          exact ⟨rfl, fits, folder, rfl⟩
        · rintro ⟨rfl, _, _, rfl⟩
          exact ⟨rfl, rfl⟩
      · cases opens

/-- How a session goes: it gives up before it fetches, or it fetches. -/
inductive Goes (env : Config.Environment) (a : CommandLine.Arguments) (j : Journal)
    (fs : FileSystem) : Session → Prop
  | gaveUp {failure : Failure} {records : List Record} :
      failure ≠ .endlessWalk → (∀ config report, ¬Completes env a j fs config report) →
      Goes env a j fs ⟨.error failure, records, settled env a j fs⟩
  | fetches {base config : Config} {ending : Ending FileSystem} {records : List Record} :
      (Config.resolve env fs a.config).result = .ok base → config = a.apply env base →
      config.problem? = none → (settled env a j fs).isFolder config.source = true →
      ending = fetchWith j.tell (Storage.Local.clientWith ⟨config.source⟩ j.tell)
        (settled env a j fs) config →
      Goes env a j fs ⟨ending.result, records, ending.state⟩

theorem session_goes (env : Config.Environment) (a : CommandLine.Arguments) (j : Journal)
    (fs : FileSystem) : Goes env a j fs (session env a j fs) := by
  unfold session
  simp only
  cases found : (Config.resolve env fs a.config).result with
  | error failure =>
    refine .gaveUp (resolve_failure found) fun config report completes => ?_
    obtain ⟨base, found', _⟩ := completes.found
    cases found.symm.trans found'
  | ok base =>
    simp only [Except.bind]
    cases prepared : prepare env a (settled env a j fs) base with
    | error failure =>
      have unprepared := prepared
      rw [settled] at unprepared
      simp only [unprepared]
      refine .gaveUp (prepare_failure prepared) fun config report completes => ?_
      obtain ⟨base', found', same⟩ := completes.found
      obtain rfl := Except.ok.inj (found.symm.trans found')
      cases prepared.symm.trans (prepare_eq_ok.2 ⟨same, completes.fits, completes.root, rfl⟩)
    | ok result =>
      obtain ⟨store, config⟩ := result
      obtain ⟨same, fits, root, rfl⟩ := prepare_eq_ok.1 prepared
      rw [settled] at prepared
      simp only [prepared]
      exact .fetches found same fits root rfl

/-- A session ends with a report exactly if all of its steps succeed. -/
theorem session_ok_iff :
    (session env a j fs).result = .ok report ↔
    ∃ config, Completes env a j fs config report := by
  have goes := session_goes env a j fs
  generalize session env a j fs = s at goes ⊢
  cases goes with
  | gaveUp _ fails =>
    simp only [reduceCtorEq, false_iff, not_exists]
    exact fun config => fails config report
  | @fetches base config ending _ found same fits root ended =>
    subst ended
    constructor
    · exact fun fetched => ⟨config, ⟨base, found, same⟩, fits, root, fetched⟩
    · rintro ⟨config', completes⟩
      obtain ⟨base', found', same'⟩ := completes.found
      obtain rfl := Except.ok.inj (found.symm.trans found')
      obtain rfl := same.trans same'.symm
      exact completes.fetched

/-- A session without a report has changed nothing but the log file. -/
theorem session_appends (gaveUp : (session env a j fs).result = .error failure) :
    Appends j.file fs (session env a j fs).fs := by
  have goes := session_goes env a j fs
  generalize session env a j fs = s at goes gaveUp ⊢
  have noted : Appends j.file fs (settled env a j fs) := j.tellAll_appends fs _
  cases goes with
  | gaveUp _ _ => exact noted
  | @fetches base config ending _ found same fits root ended =>
    subst ended
    rw [Fetch.state_of_gaveUp gaveUp]
    exact noted.trans (j.tellAll_appends _ _)

theorem session_ne_endlessWalk : (session env a j fs).result ≠ .error .endlessWalk := by
  have goes := session_goes env a j fs
  generalize session env a j fs = s at goes ⊢
  cases goes with
  | gaveUp other _ => simpa using other
  | fetches _ _ _ _ ended =>
    subst ended
    refine Fetch.fetchWith_ne_endlessWalk (j.keeps_alike (settled env a j fs)) (.refl _) ?_
    intro limits before start alike
    exact Storage.Local.sufficesIn_levels (j.keeps_alike _)
      (fun seen alike' => alike.symm.trans alike') _ limits start

/-! ## The program -/

theorem Session.succeeds_iff {s : Session} :
    s.succeeds = true ↔ ∃ report, s.result = .ok report ∧ report.errors = 0 := by
  unfold Session.succeeds
  cases s.result with
  | error failure => simp
  | ok report => simp [Report.hasErrors]

theorem run_of_start {words : List String} (accepted : CommandLine.Arguments.parse words = .ok a)
    (opens : Journal.start fs a.verbosity a.logFile = .ok (j, opened)) :
    run env fs words = whole env a j opened := by
  simp only [run, accepted, opens]

/-- What the program leaves behind when its session ends without a report. -/
theorem fs_of_gaveUp
    (ended : (session env a j (j.tell fs (greeting j.verbosity))).result = .error failure) :
    (whole env a j fs).fs =
      j.tellAll (session env a j (j.tell fs (greeting j.verbosity))).fs [farewell failure] := by
  simp only [whole, ended]

/-- The program exits with 0 exactly if the settings are found, they fit together, the root of the
storage is a folder, and the run ends with a report that counts no errors. Otherwise it exits with
1. When it exits with 0 after a run with downloads, all files that were found are downloaded. When
there is no report, nothing is changed but the log file. It never lacks a report for want of an end
of the search. -/
theorem exit_faithful {words : List String} (accepted : CommandLine.Arguments.parse words = .ok a)
    (opens : Journal.start fs a.verbosity a.logFile = .ok (j, opened)) :
    let exit := run env fs words
    let greeted := j.tell opened (greeting j.verbosity)
    (exit.code = 0 ↔ ∃ config report, Completes env a j greeted config report ∧
      report.errors = 0) ∧
      (exit.code ≠ 0 → exit.code = 1) ∧
      (∀ config report, Completes env a j greeted config report → config.dryRun = false →
        exit.code = 0 → report.downloaded = report.found) ∧
      ((∀ config report, ¬Completes env a j greeted config report) →
        LogOnly fs exit.fs j.file ∧ exit.fs.current = fs.current ∧
        exit.fs.limits = fs.limits) ∧
      (session env a j greeted).result ≠ .error .endlessWalk := by
  intro exit greeted
  let s := session env a j greeted
  have ran : exit = whole env a j opened := run_of_start accepted opens
  have code : exit.code = if s.succeeds then 0 else 1 := by rw [ran]; rfl
  have success : exit.code = 0 ↔
      ∃ config report, Completes env a j greeted config report ∧ report.errors = 0 := by
    have ends : s.succeeds = true ↔
        ∃ config report, Completes env a j greeted config report ∧ report.errors = 0 := by
      rw [Session.succeeds_iff]
      constructor
      · rintro ⟨report, reported, clean⟩
        obtain ⟨config, completes⟩ := session_ok_iff.1 reported
        exact ⟨config, report, completes, clean⟩
      · rintro ⟨config, report, completes, clean⟩
        exact ⟨report, session_ok_iff.2 ⟨config, completes⟩, clean⟩
    rw [code, ← ends]
    cases s.succeeds <;> simp
  refine ⟨success, ?_, fun config report completes real zero => ?_, fun incomplete => ?_,
    session_ne_endlessWalk⟩
  · rw [code]
    split
    · exact fun other => absurd rfl other
    · exact fun _ => rfl
  · obtain ⟨config', report', completes', clean⟩ := success.1 zero
    obtain ⟨rfl, rfl⟩ := completes.unique completes'
    have balanced := Fetch.downloaded_add_errors completes.fetched real
    omega
  · cases ended : s.result with
    | ok report =>
      obtain ⟨config, completes⟩ := session_ok_iff.1 ended
      exact absurd completes (incomplete config report)
    | error failure =>
      -- the greeting, what the session tells, and why it gave up
      have appends : Appends j.file opened (j.tellAll s.fs [farewell failure]) :=
        (j.tell_appends opened _).trans ((session_appends ended).trans (j.tellAll_appends _ _))
      rw [ran, fs_of_gaveUp ended]
      exact Journal.logOnly_of_appends opens appends

/-! ## A run that succeeds and one without a storage -/

open CommandLine (Arguments)

def nobody : Config.Environment := { home := none, configHome := none }

def desk : FileSystem where
  tree := FileSystem.Tree.empty |>.add [.text "a"] (.file ⟨#[7]⟩ 1)

/-- The settings of a run that saves the file in a folder `t`. -/
def deskConfig : Config := { pattern := "a", outputDir := "t" }

set_option maxRecDepth 100000 in
theorem parse_desk : Arguments.parse ["-p", "a", "-o", "t"] =
    .ok { pattern := some "a", outputDir := some "t" } := by
  cbv

set_option maxRecDepth 100000 in
theorem findings_desk :
    match Fetch.findings (Storage.Local.client ⟨"."⟩) desk deskConfig with
    | .ok (ready, files) => ready.transformer = none ∧ files = [⟨"a", "a", "a", 1⟩]
    | .error _ => False := by
  cbv

set_option maxRecDepth 100000 in
theorem downloads_desk :
    (Fetch.downloadAll (Storage.Local.client ⟨"."⟩) "t" 1 1
      [⟨⟨"a", "a", "a", 1⟩, "a", .unchanged⟩]
      desk).errors = 0 := by
  cbv

theorem completes_desk :
    ∃ report, Completes nobody { pattern := some "a", outputDir := some "t" }
      ⟨.info, none⟩ desk
      deskConfig report ∧ report.found = 1 ∧ report.errors = 0 := by
  have settings : (Config.resolve nobody desk none).result = .ok {} := by cbv
  have applied : deskConfig = Arguments.apply nobody
      { pattern := some "a", outputDir := some "t" } {} := by
    cbv
  have root : desk.isFolder "." = true := by cbv
  have found := findings_desk
  split at found
  · next ready files finds =>
    obtain ⟨plain, rfl⟩ := found
    obtain ⟨reported, _⟩ := Fetch.fetch_of_findings rfl finds
    rw [plain] at reported
    exact ⟨_, ⟨⟨_, settings, applied⟩, by decide, root, reported⟩, rfl,
      (Nat.zero_add _).trans downloads_desk⟩
  · exact found.elim

set_option maxRecDepth 100000 in
theorem parse_astray : Arguments.parse ["-p", "a", "-s", "x", "-l", "l"] =
    .ok { pattern := some "a", source := some "x", logFile := some "l" } := by
  cbv

/-- The current folder with a log file. -/
def deskLogged : FileSystem := desk.create [] (.text "l") (.file .empty 0)

theorem start_desk :
    Journal.start desk .info (some "l") = .ok (⟨.info, some [.text "l"]⟩, deskLogged) := by
  have free : desk.resolve "l" = .ok (.vacancy [] (.text "l")) := by cbv
  have last : "l".back = 'l' := by cbv
  have named : "l".back ≠ '/' := by
    rw [last]
    decide
  simp only [Journal.start, FileSystem.openFile, if_neg named, free]
  rfl

theorem not_completes_astray (config : Config) (report : Report) :
    ¬Completes nobody { pattern := some "a", source := some "x", logFile := some "l" }
      ⟨.info, some [.text "l"]⟩ deskLogged config report := by
  intro completes
  obtain ⟨base, found, rfl⟩ := completes.found
  have settings : (Config.resolve nobody deskLogged none).result = .ok {} := by cbv
  obtain rfl := Except.ok.inj (settings.symm.trans found)
  have nowhere : deskLogged.isFolder "x" = false := by cbv
  have root : deskLogged.isFolder "x" = true := completes.root
  cases nowhere.symm.trans root

/-- A run that saves the only file exits with 0. A run without a storage exits with 1, and has made
nothing but its log file. -/
theorem exit_faithful_desk :
    ((run nobody desk ["-p", "a", "-o", "t"]).code = 0 ∧
      ∃ report, Completes nobody { pattern := some "a", outputDir := some "t" }
      ⟨.info, none⟩ desk
        deskConfig report ∧ report.found = 1 ∧ report.downloaded = report.found) ∧
    (run nobody desk ["-p", "a", "-s", "x", "-l", "l"]).code = 1 ∧
      LogOnly desk (run nobody desk ["-p", "a", "-s", "x", "-l", "l"]).fs (some [.text "l"]) := by
  obtain ⟨report, completes, one, clean⟩ := completes_desk
  obtain ⟨success, _, full, _⟩ := @exit_faithful nobody _ _ desk _ _ parse_desk rfl
  have zero := success.2 ⟨_, _, completes, clean⟩
  obtain ⟨fails, other, _, only, _⟩ :=
    @exit_faithful nobody _ _ desk _ _ parse_astray start_desk
  have nonzero : (run nobody desk ["-p", "a", "-s", "x", "-l", "l"]).code ≠ 0 := by
    intro zero
    obtain ⟨config, report, completes, _⟩ := fails.1 zero
    exact not_completes_astray config report completes
  exact ⟨⟨zero, report, completes, one, full _ _ completes rfl zero⟩, other nonzero,
    (only not_completes_astray).1⟩

end TreeFetch.Program
