import TreeFetch.Destination
import TreeFetch.Failure
import TreeFetch.Plan
import TreeFetch.Quoted

/-!
# A run

A run searches a storage, plans where each file that was found is saved, and then either previews
the plan or downloads the files one after the other. Everything that can make the run give up is
looked at before the first download; a download that fails is reported and counted, and the others
go on. The folder that files are saved in is left out of the search.

As in a search, the functions whose names end in `With` take what messages do to the storage, and
those without are the same where messages change nothing.
-/

namespace TreeFetch

open Storage (Client Event File Hearing deaf)

/-- What a run did. -/
structure Report where
  dryRun : Bool := false
  /-- How many files the search returned. -/
  found : Nat := 0
  /-- How many paths were transformed. -/
  transformed : Nat := 0
  /-- How many files keep their path because it could not be transformed. -/
  fallbacks : Nat := 0
  /-- How many files were downloaded. -/
  downloaded : Nat := 0
  /-- How many files could not be planned or downloaded. -/
  errors : Nat := 0
  /-- The plan for each file, in the order of the search. -/
  planned : List Planned := []
deriving Repr, DecidableEq, Inhabited

namespace Report

/-- Whether something went wrong with a file. -/
def hasErrors (r : Report) : Bool := r.errors > 0

def ofPlan (dryRun : Bool) (plan : List Planned) : Report :=
  { dryRun
    found := plan.length
    transformed := plan.countP fun p => p.outcome matches .transformed
    fallbacks := plan.countP fun p => p.outcome matches .fallback _
    errors := plan.countP fun p => p.outcome matches .failed _
    planned := plan }

end Report

/-- The end of a run: its report or why it gave up, what happened on the way, and the state that it
left the storage in. -/
structure Ending (σ : Type) where
  result : Except Failure Report
  events : List Event
  state : σ

namespace Fetch

def say (severity : Severity) (message : String) : Event := .told ⟨severity, .engine, message⟩

/-! ## Before the search -/

/-- What a run needs to know before it searches. -/
structure Preparation where
  pattern : Regex.Pattern
  transformer : Option Transformer

/-- What is said about a transformer that is ready for use. -/
def announce (t : Transformer) : List Event :=
  let undeclared := t.undeclared
  let names := ", ".intercalate undeclared
  let warning :=
    if undeclared.isEmpty then []
    else
      [say .warn ("Path format references names the pattern never captures " ++
        s!"({names}); those files will keep their original path")]
  let ready := s!"pattern {quoted t.pattern.source}, format {quoted t.template}"
  warning ++ [say .debug s!"Path transformer ready: {ready}"]

/-- Checks the settings and makes the patterns ready for use. -/
def prepare (config : Config) : Except Failure Preparation := do
  match config.problem? with
  | some problem => throw (.invalidConfig problem)
  | none =>
    let pattern ← (Regex.Pattern.compile config.pattern).mapError fun fault =>
      .failed (.invalidPattern config.pattern fault)
    match config.pathTransform with
    | none => return ⟨pattern, none⟩
    | some (source, template) =>
      let transformer ← (Transformer.create source template).mapError .transformer
      return ⟨pattern, some transformer⟩

/-- The limits of the search of a run, which leaves out the folder with the id of the output
directory. The empty id is that of the storage root. -/
def limits (config : Config) (outputId : Option String) :
    Except Failure (Storage.Limits × List Event) :=
  match outputId with
  | none => .ok (config.searchLimits, [])
  | some id =>
    if id = "" then .error (.outputIsRoot config.outputDir)
    else
      .ok ({ config.searchLimits with excluded := [id] },
        [say .debug s!"Excluding output directory '{id}' from the search"])

/-! ## After the search -/

def listFound (files : List File) : List Event :=
  say .info s!"Found {files.length} matching files" ::
    files.map fun f => say .info s!"- {f.path} (Modified: {Time.text f.modified})"

/-- What a preview says about where a file will be saved. -/
def previewSaved (outputDir : String) (p : Planned) : Event :=
  match destination outputDir p.destination with
  | .ok path => say .info s!"  Will be saved as: {path}"
  | .error e => say .warn s!"  Will be skipped: {e.message}"

def previewOne (outputDir : String) (p : Planned) : List Event :=
  let saved := previewSaved outputDir p
  say .info s!"Original file: {p.file.path}" ::
    match p.outcome with
    | .unchanged => [saved]
    | .transformed => [say .info s!"  Transformed to: {p.destination}", saved]
    | .fallback e => [say .info s!"  Transformation failed: {e.message}", saved]
    | .failed e => [say .warn s!"  Will be skipped: {e.message}"]

/-- What a run says that only shows what it would do. -/
def preview (outputDir : String) (plan : List Planned) : List Event :=
  [say .info "Download preview:"] ++ plan.flatMap (previewOne outputDir) ++
    [say .info "Dry run completed. No files were downloaded."]

/-- What happened in the downloads so far. -/
structure Downloads (σ : Type) where
  /-- How many files were downloaded. -/
  downloaded : Nat := 0
  /-- How many files could not be downloaded. -/
  errors : Nat := 0
  events : List Event := []
  state : σ

namespace Downloads

/-- Downloads of which the later ones happened after the earlier ones. -/
def after {σ : Type} (later earlier : Downloads σ) : Downloads σ :=
  { downloaded := earlier.downloaded + later.downloaded
    errors := earlier.errors + later.errors
    events := earlier.events ++ later.events
    state := later.state }

end Downloads

/-- Downloads one planned file, the one with number `index` of `total`. -/
def downloadOneWith {σ : Type} (hear : Hearing σ) (client : Client σ) (outputDir : String)
    (total index : Nat) (p : Planned) (state : σ) : Downloads σ :=
  match p.outcome with
  | .failed _ =>
    let skipped := [say .debug s!"Skipping {p.file.path}, its path could not be planned"]
    { events := skipped, state := Event.heard hear state skipped }
  | _ =>
    let announced := say .info s!"Downloading {index}/{total}: {p.destination}"
    let state := Event.heard hear state [announced]
    let refused (e : Error) := say .error s!"Error downloading {p.file.path}: {e.message}"
    match destination outputDir p.destination with
    | .error e =>
      { errors := 1
        events := [announced, refused e]
        state := Event.heard hear state [refused e] }
    | .ok path =>
      let (answer, state) := client.download state p.file path
      let noted := answer.notes.map .told
      let state := Event.heard hear state noted
      let asked := announced :: .asked (.download p.file.id path) :: noted
      match answer.result with
      | .ok () => { downloaded := 1, events := asked, state }
      | .error e =>
        { errors := 1
          events := asked ++ [refused e]
          state := Event.heard hear state [refused e] }

/-- `downloadOneWith` where messages change nothing. -/
def downloadOne {σ : Type} (client : Client σ) (outputDir : String) (total index : Nat)
    (p : Planned) (state : σ) : Downloads σ :=
  downloadOneWith deaf client outputDir total index p state

/-- Downloads planned files one after the other, the first of them with number `index`. -/
def downloadAllWith {σ : Type} (hear : Hearing σ) (client : Client σ) (outputDir : String)
    (total : Nat) : (index : Nat) → List Planned → σ → Downloads σ
  | _, [], state => { state }
  | index, p :: rest, state =>
    let first := downloadOneWith hear client outputDir total index p state
    (downloadAllWith hear client outputDir total (index + 1) rest first.state).after first

/-- `downloadAllWith` where messages change nothing. -/
def downloadAll {σ : Type} (client : Client σ) (outputDir : String) (total index : Nat)
    (plan : List Planned) (state : σ) : Downloads σ :=
  downloadAllWith deaf client outputDir total index plan state

/-- The last words of a run with downloads. -/
def summary (r : Report) : Event :=
  let details := s!"{r.transformed} transformed, {r.fallbacks} kept their original path"
  say .info s!"Downloaded {r.downloaded} of {r.found} files ({details}, {r.errors} errors)"

/-- What a run does with the files that were found. -/
def deliverWith {σ : Type} (hear : Hearing σ) (client : Client σ) (state : σ) (config : Config)
    (transformer : Option Transformer) (files : List File) : Ending σ :=
  match files with
  | [] =>
    ⟨.ok { dryRun := config.dryRun }, listFound [], Event.heard hear state (listFound [])⟩
  | _ :: _ =>
    let plan := plan transformer files
    let report := Report.ofPlan config.dryRun plan
    let planned := listFound files ++ (plan.flatMap Planned.records).map .told
    let state := Event.heard hear state planned
    if config.dryRun then
      let shown := preview config.outputDir plan
      ⟨.ok report, planned ++ shown, Event.heard hear state shown⟩
    else
      let started := say .info s!"Starting download of {plan.length} files..."
      let done := downloadAllWith hear client config.outputDir plan.length 1 plan
        (Event.heard hear state [started])
      let report :=
        { report with downloaded := done.downloaded, errors := report.errors + done.errors }
      ⟨.ok report, planned ++ started :: done.events ++ [summary report],
        Event.heard hear done.state [summary report]⟩

/-- `deliverWith` where messages change nothing. -/
def deliver {σ : Type} (client : Client σ) (state : σ) (config : Config)
    (transformer : Option Transformer) (files : List File) : Ending σ :=
  deliverWith deaf client state config transformer files

end Fetch

/-- Fetches the files that a configuration asks for from a storage. -/
def fetchWith {σ : Type} (hear : Hearing σ) (client : Client σ) (state : σ) (config : Config) :
    Ending σ :=
  match Fetch.prepare config with
  | .error failure => ⟨.error failure, [], state⟩
  | .ok ready =>
    let announced := ready.transformer.elim [] Fetch.announce
    let state := Event.heard hear state announced
    match Fetch.limits config (client.folderIdAt state config.outputDir) with
    | .error failure => ⟨.error failure, announced, state⟩
    | .ok (limits, noted) =>
      let state := Event.heard hear state noted
      let searched := Storage.searchWith hear client state config.folderId ready.pattern limits
      let before := announced ++ noted ++ searched.events
      let state := Event.heard hear state searched.events
      match searched.result with
      | .error (.failed e) => ⟨.error (.failed e), before, state⟩
      | .error .endless => ⟨.error .endlessWalk, before, state⟩
      | .ok files =>
        let ending := Fetch.deliverWith hear client state config ready.transformer files
        { ending with events := before ++ ending.events }

/-- `fetchWith` where messages change nothing. -/
def fetch {σ : Type} (client : Client σ) (state : σ) (config : Config) : Ending σ :=
  fetchWith deaf client state config

end TreeFetch
