import Mathlib
import TreeFetch.Fetch
import TreeFetch.Proofs.Storage.Unheard
import TreeFetch.Storage.Local

/-!
# The parts of a run

A run that ends with a report has searched, planned what it found and, unless it only shows what it
would do, downloaded what it planned. A run that ends with a failure has changed nothing.

Results:
1. `fetch_cases`: what a run has done, by its end.
2. `limits_eq_ok`: the search leaves out the folder with the id of the output directory.
3. `downloadAll_append`: downloads in two pieces are the first piece and then the second.
-/

namespace TreeFetch

open Storage (Client File)

variable {σ : Type} {client : Client σ} {state : σ} {config : Config}

namespace Fetch

/-! ## Where messages change nothing -/

section

variable {outputDir : String} {total index : Nat} {p : Planned}

theorem downloadOne_eq :
    downloadOne client outputDir total index p state =
      match p.outcome with
      | .failed _ =>
        { events := [say .debug s!"Skipping {p.file.path}, its path could not be planned"], state }
      | _ =>
        let announced := say .info s!"Downloading {index}/{total}: {p.destination}"
        let refused (e : Error) := say .error s!"Error downloading {p.file.path}: {e.message}"
        match destination outputDir p.destination with
        | .error e => { errors := 1, events := [announced, refused e], state }
        | .ok path =>
          let (answer, state) := client.download state p.file path
          let asked := announced :: .asked (.download p.file.id path) :: answer.notes.map .told
          match answer.result with
          | .ok () => { downloaded := 1, events := asked, state }
          | .error e => { errors := 1, events := asked ++ [refused e], state } := by
  have unfolded : downloadOne client outputDir total index p state =
      downloadOneWith Storage.deaf client outputDir total index p state := rfl
  simp only [downloadOneWith, Storage.heard_deaf] at unfolded
  exact unfolded

theorem downloadAll_nil : downloadAll client outputDir total index [] state = { state } := rfl

theorem downloadAll_cons (p : Planned) (rest : List Planned) :
    downloadAll client outputDir total index (p :: rest) state =
      (downloadAll client outputDir total (index + 1) rest
        (downloadOne client outputDir total index p state).state).after
          (downloadOne client outputDir total index p state) :=
  rfl

end

theorem deliver_nil (transformer : Option Transformer) :
    deliver client state config transformer [] =
      ⟨.ok { dryRun := config.dryRun }, listFound [], state⟩ := by
  simp only [deliver, deliverWith, Storage.heard_deaf]

theorem deliver_cons (transformer : Option Transformer) (file : File) (files : List File) :
    deliver client state config transformer (file :: files) =
      let plan := plan transformer (file :: files)
      let report := Report.ofPlan config.dryRun plan
      let planned := listFound (file :: files) ++ (plan.flatMap Planned.records).map .told
      if config.dryRun then ⟨.ok report, planned ++ preview config.outputDir plan, state⟩
      else
        let started := say .info s!"Starting download of {plan.length} files..."
        let done := downloadAll client config.outputDir plan.length 1 plan state
        let report :=
          { report with downloaded := done.downloaded, errors := report.errors + done.errors }
        ⟨.ok report, planned ++ started :: done.events ++ [summary report], done.state⟩ := by
  simp only [deliver, deliverWith, Storage.heard_deaf]
  rfl

theorem fetch_unheard (client : Client σ) (state : σ) (config : Config) :
    fetch client state config =
      match prepare config with
      | .error failure => ⟨.error failure, [], state⟩
      | .ok ready =>
        let announced := ready.transformer.elim [] announce
        match Fetch.limits config (client.folderIdAt state config.outputDir) with
        | .error failure => ⟨.error failure, announced, state⟩
        | .ok (limits, noted) =>
          let searched := Storage.search client state config.folderId ready.pattern limits
          let before := announced ++ noted ++ searched.events
          match searched.result with
          | .error (.failed e) => ⟨.error (.failed e), before, state⟩
          | .error .endless => ⟨.error .endlessWalk, before, state⟩
          | .ok files =>
            let ending := deliver client state config ready.transformer files
            { ending with events := before ++ ending.events } := by
  simp only [fetch, fetchWith, Storage.heard_deaf]
  rfl

/-! ## How a run ends -/

theorem deliverWith_reports (hear : Storage.Hearing σ) (client : Client σ) (state : σ)
    (config : Config) (transformer : Option Transformer) (files : List File) :
    ∃ report, (deliverWith hear client state config transformer files).result = .ok report := by
  cases files with
  | nil => exact ⟨_, rfl⟩
  | cons file files =>
    rw [deliverWith]
    split
    · exact ⟨_, rfl⟩
    · exact ⟨_, rfl⟩

/-- A run has searched with `limits` and planned `files`. -/
structure Searched (client : Client σ) (state : σ) (config : Config) (ready : Preparation)
    (limits : Storage.Limits) (files : List File) : Prop where
  prepared : prepare config = .ok ready
  limited : ∃ noted, Fetch.limits config (client.folderIdAt state config.outputDir) =
    .ok (limits, noted)
  found : (Storage.search client state config.folderId ready.pattern limits).result = .ok files

def afterDownloads (client : Client σ) (outputDir : String) (total : Nat) (plan : List Planned)
    (state : σ) : σ :=
  (downloadAll client outputDir total 1 plan state).state

/-- How a run ends. -/
inductive Course (client : Client σ) (state : σ) (config : Config) : Ending σ → Prop
  | gaveUp {failure : Failure} {events : List Storage.Event} :
      Course client state config ⟨.error failure, events, state⟩
  | previewed {ready : Preparation} {limits : Storage.Limits} {files : List File} {report : Report}
      {events : List Storage.Event} :
      Searched client state config ready limits files → config.dryRun = true →
      report.planned = plan ready.transformer files →
      Course client state config ⟨.ok report, events, state⟩
  | downloaded {ready : Preparation} {limits : Storage.Limits} {files : List File}
      {report : Report} {events : List Storage.Event} :
      Searched client state config ready limits files → config.dryRun = false →
      report.planned = plan ready.transformer files →
      Course client state config
        ⟨.ok report, events,
          afterDownloads client config.outputDir report.planned.length report.planned state⟩

theorem fetch_cases (client : Client σ) (state : σ) (config : Config) :
    Course client state config (fetch client state config) := by
  rw [fetch_unheard]
  split
  · exact .gaveUp
  · next ready prepared =>
    simp only
    split
    · exact .gaveUp
    · next limits noted limited =>
      split
      · exact .gaveUp
      · exact .gaveUp
      · next files found =>
        have searched : Searched client state config ready limits files :=
          ⟨prepared, ⟨noted, limited⟩, found⟩
        -- without any file the run ends early, as if nothing were to be downloaded
        cases files with
        | nil =>
          rw [deliver_nil]
          cases dry : config.dryRun with
          | true => exact .previewed searched dry rfl
          | false => exact .downloaded searched dry rfl
        | cons file files =>
          rw [deliver_cons]
          simp only
          cases dry : config.dryRun with
          | true => exact .previewed searched dry rfl
          | false =>
            have done : ∀ report : Report,
              report.planned = plan ready.transformer (file :: files) →
                ∀ events, Course client state config ⟨.ok report, events,
                  afterDownloads client config.outputDir report.planned.length report.planned
                    state⟩ := fun report planned events => .downloaded searched dry planned
            exact done _ rfl _

theorem compile_of_prepare {ready : Preparation} (h : prepare config = .ok ready) :
    Regex.Pattern.compile config.pattern = .ok ready.pattern := by
  unfold prepare at h
  split at h
  · cases h
  · cases compiled : Regex.Pattern.compile config.pattern with
    | error fault => simp [compiled, Except.mapError, bind, Except.bind] at h
    | ok pattern =>
      simp only [compiled, Except.mapError, bind, Except.bind] at h
      split at h
      · obtain rfl := Except.ok.inj h
        rfl
      · next source template given =>
        split at h
        · cases h
        · obtain rfl := Except.ok.inj h
          rfl

theorem searched_of_report {report : Report}
    (done : (fetch client state config).result = .ok report) :
    ∃ ready limits files, Searched client state config ready limits files ∧
      report.planned = plan ready.transformer files := by
  have course := fetch_cases client state config
  generalize fetch client state config = ending at course done
  cases course with
  | gaveUp => cases done
  | previewed searched _ planned =>
    obtain rfl := Except.ok.inj done
    exact ⟨_, _, _, searched, planned⟩
  | downloaded searched _ planned =>
    obtain rfl := Except.ok.inj done
    exact ⟨_, _, _, searched, planned⟩

/-- A run that ends with a report has changed nothing, if it was a preview, or it has downloaded
what it planned. -/
theorem state_of_report {report : Report} (done : (fetch client state config).result = .ok report) :
    (config.dryRun = true ∧ (fetch client state config).state = state) ∨
      config.dryRun = false ∧ (fetch client state config).state =
        afterDownloads client config.outputDir report.planned.length report.planned state := by
  have course := fetch_cases client state config
  generalize fetch client state config = ending at course done ⊢
  cases course with
  | gaveUp => cases done
  | previewed _ dry _ => exact .inl ⟨dry, rfl⟩
  | downloaded _ real _ =>
    obtain rfl := Except.ok.inj done
    exact .inr ⟨real, rfl⟩

theorem file_ofFile (transformer : Option Transformer) (f : File) :
    (Planned.ofFile transformer f).file = f := by
  cases transformer with
  | none => rfl
  | some t =>
    rw [Planned.ofFile]
    cases t.transform f.path <;> rfl

theorem exists_mem_plan {transformer : Option Transformer} {files : List File} (P : File → Prop) :
    (∃ p ∈ plan transformer files, P p.file) ↔ ∃ f ∈ files, P f := by
  constructor
  · rintro ⟨p, present, holds⟩
    obtain ⟨f, found, rfl⟩ := List.mem_map.1 present
    exact ⟨f, found, by rwa [file_ofFile] at holds⟩
  · rintro ⟨f, found, holds⟩
    exact ⟨_, List.mem_map_of_mem found, by rwa [file_ofFile]⟩

/-- The search of a run leaves out the folder with the id of the output directory, and is limited as
the settings say otherwise. -/
theorem limits_eq_ok {outputId : Option String} {limits : Storage.Limits}
    {noted : List Storage.Event} (h : Fetch.limits config outputId = .ok (limits, noted)) :
    { limits with excluded := [] } = config.searchLimits ∧
      ∀ id, id ∈ limits.excluded ↔ outputId = some id := by
  cases outputId with
  | none =>
    obtain ⟨rfl, _⟩ := Prod.mk.inj (Except.ok.inj h)
    exact ⟨rfl, fun id => by simp [Config.searchLimits]⟩
  | some output =>
    simp only [Fetch.limits] at h
    split at h
    · cases h
    · obtain ⟨rfl, _⟩ := Prod.mk.inj (Except.ok.inj h)
      exact ⟨rfl, fun id => by simp [eq_comm]⟩

/-- The empty id, that of the storage root, is never the one of the output directory. -/
theorem root_included {outputId : Option String} {limits : Storage.Limits}
    {noted : List Storage.Event}
    (h : Fetch.limits config outputId = .ok (limits, noted)) : outputId ≠ some "" := by
  rintro rfl
  simp [Fetch.limits] at h

/-! ## Downloads -/

/-- The path at which a planned file is to be saved. There is none if the destination could not be
planned or is refused. -/
def savedAt? (outputDir : String) (p : Planned) : Option String :=
  match p.outcome with
  | .failed _ => none
  | _ => (destination outputDir p.destination).toOption

variable {outputDir path : String} {total index : Nat} {p : Planned}

theorem destination_of_savedAt? (h : savedAt? outputDir p = some path) :
    destination outputDir p.destination = .ok path := by
  unfold savedAt? at h
  split at h
  · cases h
  · cases aims : destination outputDir p.destination with
    | error e => simp [aims, Except.toOption] at h
    | ok text => simpa [aims, Except.toOption] using h

theorem downloadOne_of_none (h : savedAt? outputDir p = none) :
    (downloadOne client outputDir total index p state).state = state ∧
      (downloadOne client outputDir total index p state).downloaded = 0 := by
  rw [downloadOne_eq]
  split
  · exact ⟨rfl, rfl⟩
  · next planned =>
    split
    · exact ⟨rfl, rfl⟩
    · next text aims => simp [savedAt?, aims, Except.toOption] at h

/-- A file that is to be saved at a path is downloaded to it. -/
theorem downloadOne_of_some (h : savedAt? outputDir p = some path) :
    (downloadOne client outputDir total index p state).state =
        (client.download state p.file path).2 ∧
      ((downloadOne client outputDir total index p state).downloaded = 1 ↔
        (client.download state p.file path).1.result = .ok ()) := by
  have aims := destination_of_savedAt? h
  rw [downloadOne_eq]
  split
  · next failed => simp [savedAt?, failed] at h
  · simp only [aims]
    split
    · next done => exact ⟨rfl, by simp [done]⟩
    · next e failed => exact ⟨rfl, by simp [failed]⟩

theorem downloadAll_append (outputDir : String) (total index : Nat) (first rest : List Planned)
    (state : σ) :
    (downloadAll client outputDir total index (first ++ rest) state).state =
      (downloadAll client outputDir total (index + first.length) rest
        (downloadAll client outputDir total index first state).state).state := by
  induction first generalizing index state with
  | nil => rfl
  | cons p first ih =>
    simp only [List.cons_append, downloadAll_cons, Downloads.after, ih, List.length_cons]
    rw [Nat.add_right_comm, Nat.add_assoc]

/-! ## A run whose search begins in its output directory -/

/-- The folder `/s` with a folder `o` that holds one file. -/
def sample : FileSystem where
  tree := FileSystem.Tree.empty |>.add [.text "s"] (.folder 0)
    |>.add [.text "o", .text "s"] (.folder 1)
    |>.add [.text "a", .text "o", .text "s"] (.file ⟨#[7]⟩ 2)

/-- The output directory is spelled differently as the folder where the search begins. -/
def sampleConfig : Config := { pattern := "a", outputDir := "/s/o", folderId := some "o/" }

set_option maxRecDepth 100000 in
theorem sample_run :
    (match (fetch (Storage.Local.client ⟨"/s"⟩) sample sampleConfig).result with
      | .ok report => report.planned.map (·.file.id) = ["o/a"]
      | .error _ => False) ∧
      (fetch (Storage.Local.client ⟨"/s"⟩) sample sampleConfig).state.readFile "/s/o/a" =
        .ok .empty := by
  cbv

theorem sample_report :
    ∃ report p,
      (fetch (Storage.Local.client ⟨"/s"⟩) sample sampleConfig).result = .ok report ∧
      p ∈ report.planned ∧ p.file.id = "o/a" := by
  have run := sample_run.1
  split at run
  · next report done =>
    obtain ⟨p, rest, whole, id, _⟩ := List.map_eq_cons_iff.1 run
    exact ⟨report, p, done, by simp [whole], id⟩
  · exact run.elim

end Fetch

end TreeFetch
