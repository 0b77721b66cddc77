import TreeFetch.Proofs.Fetch.Run
import TreeFetch.Proofs.Storage.Answers

/-!
# The stages of a run

A run first finds files, or gives up; nothing is downloaded up to there. Then it plans what it found
and delivers the plan: a preview tells about it file by file, and a run with downloads attempts them
file by file.

Results:
1. `Fetch.fetch_eq`: a run is what it finds, and then the delivery of that.
2. `Fetch.findings_agree`: what a run finds depends on the answers of the storage only.
3. `Fetch.deliver_preview` and `Fetch.deliver_downloads`: what either kind of run reports, and what
   happens in it. `Fetch.preview_of_findings` and `Fetch.fetch_of_findings` say it of the whole run.
4. `Fetch.downloadAll_attempts`: the downloads of a plan are the attempts for its files, one by one.
-/

namespace TreeFetch

open Storage (Client Event File Agree ListsOnly)

variable {σ : Type} {client : Client σ} {state : σ} {config : Config}

namespace Fetch

/-! ## Finding files -/

/-- What a run prepares and finds, or why it gives up before that. -/
def findings (client : Client σ) (state : σ) (config : Config) :
    Except Failure (Preparation × List File) :=
  match prepare config with
  | .error failure => .error failure
  | .ok ready =>
    match Fetch.limits config (client.folderIdAt state config.outputDir) with
    | .error failure => .error failure
    | .ok (limits, _) =>
      match (Storage.search client state config.folderId ready.pattern limits).result with
      | .error (.failed e) => .error (.failed e)
      | .error .endless => .error .endlessWalk
      | .ok files => .ok (ready, files)

theorem announce_listsOnly (t : Transformer) : ListsOnly (announce t) := by
  unfold announce
  simp only
  split
  · exact .cons_told _ .nil
  · exact .cons_told _ (.cons_told _ .nil)

theorem limits_listsOnly {outputId : Option String} {limits : Storage.Limits} {noted : List Event}
    (h : Fetch.limits config outputId = .ok (limits, noted)) : ListsOnly noted := by
  cases outputId with
  | none =>
    obtain ⟨_, rfl⟩ := Prod.mk.inj (Except.ok.inj h)
    exact .nil
  | some id =>
    simp only [Fetch.limits] at h
    split at h
    · cases h
    · obtain ⟨_, rfl⟩ := Prod.mk.inj (Except.ok.inj h)
      exact .cons_told _ .nil

/-- A run finds files and delivers them, or it gives up. Up to there nothing is downloaded. -/
theorem fetch_eq (client : Client σ) (state : σ) (config : Config) :
    ∃ before, ListsOnly before ∧ fetch client state config =
      match findings client state config with
      | .error failure => ⟨.error failure, before, state⟩
      | .ok (ready, files) =>
        let ending := deliver client state config ready.transformer files
        { ending with events := before ++ ending.events } := by
  rw [fetch_unheard, findings]
  cases prepare config with
  | error failure => exact ⟨[], .nil, rfl⟩
  | ok ready =>
    have announced : ListsOnly (ready.transformer.elim [] announce) := by
      cases ready.transformer with
      | none => exact .nil
      | some t => exact announce_listsOnly t
    simp only
    cases limited : Fetch.limits config (client.folderIdAt state config.outputDir) with
    | error failure => exact ⟨_, announced, rfl⟩
    | ok found =>
      obtain ⟨limits, noted⟩ := found
      have searched : ListsOnly
          (Storage.search client state config.folderId ready.pattern limits).events :=
        Storage.Search.search_listsOnly config.folderId
      refine ⟨_, (announced.append (limits_listsOnly limited)).append searched, ?_⟩
      simp only
      cases (Storage.search client state config.folderId ready.pattern limits).result with
      | error stop => cases stop <;> rfl
      | ok files => rfl

/-- What a run finds is the same if the storage answers alike, and whether or not anything is to be
downloaded afterwards. -/
theorem findings_agree {state' : σ} (agree : Agree client state client state')
    (root : config.folderId = none → client.rootId state' = client.rootId state)
    (outputId : client.folderIdAt state' config.outputDir =
      client.folderIdAt state config.outputDir)
    (dry dry' : Bool) :
    findings client state' { config with dryRun := dry' } =
      findings client state { config with dryRun := dry } := by
  have prepared : prepare { config with dryRun := dry' } = prepare { config with dryRun := dry } :=
    rfl
  have limited : ∀ id, Fetch.limits { config with dryRun := dry' } id =
      Fetch.limits { config with dryRun := dry } id := fun _ => rfl
  rw [findings, findings, prepared]
  cases prepare { config with dryRun := dry } with
  | error failure => rfl
  | ok ready =>
    simp only [outputId, limited]
    cases Fetch.limits { config with dryRun := dry } (client.folderIdAt state config.outputDir) with
    | error failure => rfl
    | ok found =>
      obtain ⟨limits, noted⟩ := found
      simp only [Storage.Search.search_agree agree root]

/-! ## Delivering a plan -/

variable (client state) in
/-- A run that only shows what it would do tells about its plan file by file, and leaves the storage
as it is. -/
theorem deliver_preview (dry : config.dryRun = true) (transformer : Option Transformer)
    (files : List File) :
    ∃ before after, deliver client state config transformer files =
      ⟨.ok (Report.ofPlan true (plan transformer files)),
        before ++ (plan transformer files).flatMap (previewOne config.outputDir) ++ after,
        state⟩ := by
  cases files with
  | nil =>
    refine ⟨listFound [], [], ?_⟩
    rw [deliver_nil, dry]
    rfl
  | cons file files =>
    rw [deliver_cons, dry]
    simp only [if_true, preview, ← List.append_assoc]
    exact ⟨_, _, rfl⟩

variable (client state) in
/-- A run with downloads reports how many of them succeeded, and counts those that did not with the
files that could not be planned. -/
theorem deliver_downloads (real : config.dryRun = false) (transformer : Option Transformer)
    (files : List File) :
    let planned := plan transformer files
    let done := downloadAll client config.outputDir planned.length 1 planned state
    let report : Report :=
      { Report.ofPlan false planned with
        downloaded := done.downloaded
        errors := (Report.ofPlan false planned).errors + done.errors }
    ∃ events, deliver client state config transformer files =
      ⟨.ok report, events, done.state⟩ := by
  intro planned done report
  cases files with
  | nil =>
    refine ⟨listFound [], ?_⟩
    rw [deliver_nil, real]
    rfl
  | cons file files =>
    rw [deliver_cons, real]
    exact ⟨_, rfl⟩

/-- A run that ends with a report has found something to report on. -/
theorem findings_of_report {report : Report}
    (done : (fetch client state config).result = .ok report) :
    ∃ ready files, findings client state config = .ok (ready, files) := by
  obtain ⟨start, _, whole⟩ := fetch_eq client state config
  cases found : findings client state config with
  | error failure =>
    rw [whole, found] at done
    cases done
  | ok result => exact ⟨_, _, rfl⟩

/-- What a run that only shows what it would do reports, and which state it leaves. -/
theorem preview_of_findings (dry : config.dryRun = true) {ready : Preparation} {files : List File}
    (found : findings client state config = .ok (ready, files)) :
    (fetch client state config).result = .ok (Report.ofPlan true (plan ready.transformer files)) ∧
      (fetch client state config).state = state := by
  obtain ⟨start, _, whole⟩ := fetch_eq client state config
  obtain ⟨first, last, delivered⟩ := deliver_preview client state dry ready.transformer files
  rw [whole, found]
  simp only [delivered, and_self]

theorem fetch_of_findings (real : config.dryRun = false) {ready : Preparation} {files : List File}
    (found : findings client state config = .ok (ready, files)) :
    let planned := plan ready.transformer files
    let done := downloadAll client config.outputDir planned.length 1 planned state
    (fetch client state config).result = .ok
        { Report.ofPlan false planned with
          downloaded := done.downloaded
          errors := (Report.ofPlan false planned).errors + done.errors } ∧
      (fetch client state config).state = done.state := by
  intro planned done
  obtain ⟨start, _, whole⟩ := fetch_eq client state config
  obtain ⟨events, delivered⟩ := deliver_downloads client state real ready.transformer files
  rw [whole, found]
  simp only [delivered]
  exact ⟨rfl, rfl⟩

/-! ## Attempts -/

variable {outputDir : String} {total index : Nat} {p : Planned}

/-- How many errors a run counts for a planned file of which the download is `attempt`: those of the
plan for this file, and those of the attempt. -/
def errorsFor (p : Planned) (attempt : Downloads σ) : Nat :=
  (Report.ofPlan false [p]).errors + attempt.errors

theorem errors_ofPlan_cons (p : Planned) (rest : List Planned) :
    (Report.ofPlan false (p :: rest)).errors =
      (Report.ofPlan false [p]).errors + (Report.ofPlan false rest).errors := by
  rw [← List.singleton_append]
  exact List.countP_append

/-- The attempts to download planned files, one for each of them. -/
def attempts (client : Client σ) (outputDir : String) (total : Nat) :
    (index : Nat) → List Planned → σ → List (Downloads σ)
  | _, [], _ => []
  | index, p :: rest, state =>
    let first := downloadOne client outputDir total index p state
    first :: attempts client outputDir total (index + 1) rest first.state

/-- The downloads of a plan are the attempts for its files. The errors of a run are those counted
for each file. -/
theorem downloadAll_attempts (plan : List Planned) :
    let done := downloadAll client outputDir total index plan state
    let each := attempts client outputDir total index plan state
    done.events = each.flatMap (·.events) ∧
      (Report.ofPlan false plan).errors + done.errors = (plan.zipWith errorsFor each).sum := by
  induction plan generalizing index state with
  | nil => exact ⟨rfl, rfl⟩
  | cons p rest ih =>
    obtain ⟨events, errors⟩ :=
      @ih (downloadOne client outputDir total index p state).state (index + 1)
    constructor
    · simp only [downloadAll_cons, attempts, Downloads.after, events, List.flatMap_cons]
    · rw [attempts, List.zipWith_cons_cons, List.sum_cons, ← errors, errorsFor,
        errors_ofPlan_cons]
      simp only [downloadAll_cons, Downloads.after]
      omega

/-- For every file of a plan there is an attempt to download it, in the state that the attempts
before have left. -/
theorem attempts_getElem? {plan : List Planned} {i : Nat} (planned : plan[i]? = some p) :
    (attempts client outputDir total index plan state)[i]? =
      some (downloadOne client outputDir total (index + i) p
        (downloadAll client outputDir total index (plan.take i) state).state) := by
  induction plan generalizing index state i with
  | nil => simp at planned
  | cons first rest ih =>
    cases i with
    | zero =>
      obtain rfl : first = p := by simpa using planned
      rfl
    | succ i =>
      rw [attempts, List.getElem?_cons_succ, ih (List.getElem?_cons_succ ▸ planned),
        List.take_succ_cons, downloadAll_cons, Nat.add_right_comm, Nat.add_assoc]
      rfl

theorem errorsFor_of_none (h : savedAt? outputDir p = none) :
    errorsFor p (downloadOne client outputDir total index p state) = 1 := by
  rw [downloadOne_eq]
  cases outcome : p.outcome with
  | failed e => simp [errorsFor, Report.ofPlan, outcome]
  | unchanged | transformed | fallback =>
    cases aims : destination outputDir p.destination with
    | ok text => simp [savedAt?, outcome, aims, Except.toOption] at h
    | error e => simp [errorsFor, Report.ofPlan, outcome]

/-- The plan counts no error for a file that is to be saved at a path. -/
theorem errorsFor_eq_of_some {path : String} (h : savedAt? outputDir p = some path)
    (attempt : Downloads σ) : errorsFor p attempt = attempt.errors := by
  have planned : (Report.ofPlan false [p]).errors = 0 := by
    cases outcome : p.outcome with
    | failed e => simp [savedAt?, outcome] at h
    | unchanged | transformed | fallback => simp [Report.ofPlan, outcome]
  rw [errorsFor, planned, Nat.zero_add]

/-- A planned file is downloaded or counted as an error. -/
theorem downloadOneWith_counts (hear : Storage.Hearing σ) (p : Planned) (state : σ) :
    let done := downloadOneWith hear client outputDir total index p state
    done.downloaded + errorsFor p done = 1 := by
  unfold downloadOneWith errorsFor
  cases outcome : p.outcome with
  | failed e => simp [Report.ofPlan, outcome]
  | unchanged | transformed | fallback =>
    have planned : (Report.ofPlan false [p]).errors = 0 := by simp [Report.ofPlan, outcome]
    rw [planned]
    simp only
    split
    · rfl
    · split <;> rfl

/-- The download of a file that is to be saved at a path is counted once. -/
theorem downloadOne_counts {path : String} (h : savedAt? outputDir p = some path) :
    (downloadOne client outputDir total index p state).downloaded +
      (downloadOne client outputDir total index p state).errors = 1 := by
  rw [← errorsFor_eq_of_some h]
  exact downloadOneWith_counts Storage.deaf p state

/-- A file that is to be saved at a path is an error exactly if its download fails. -/
theorem errorsFor_of_some {path : String} (h : savedAt? outputDir p = some path) :
    errorsFor p (downloadOne client outputDir total index p state) = 0 ↔
      (client.download state p.file path).1.result = .ok () := by
  have aims := destination_of_savedAt? h
  rw [errorsFor_eq_of_some h, downloadOne_eq]
  split
  · next failed => simp [savedAt?, failed] at h
  · simp only [aims]
    cases (client.download state p.file path).1.result with
    | ok done => simp
    | error e => simp

end Fetch

end TreeFetch
