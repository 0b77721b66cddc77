import TreeFetch.Proofs.Fetch.Receipts

/-!
# Every file accounted for

The receipts of a run with downloads are in the order of its plan, one for each file that is to be
saved somewhere, whatever became of the ones before. Every file is counted once, as downloaded or as
an error.

Results:
1. `Fetch.downloadAll_tallies`: the receipts of the downloads of a plan, and how they are counted.
2. `files_accounted_for`: what the report of a run says about its receipts.
-/

namespace TreeFetch

open Storage (Client File Receipt)

variable {σ : Type} {client : Client σ} {state : σ} {config : Config}

namespace Fetch

variable {outputDir path : String} {total index : Nat} {p : Planned} {s : σ × List Receipt}

/-! ## Counts -/

/-- What a storage is asked to save for a planned file, and where, if it is to be saved
somewhere. -/
def order? (outputDir : String) (p : Planned) : Option (File × String) :=
  (savedAt? outputDir p).map (p.file, ·)

/-- A storage has been asked for the files of a plan that are to be saved somewhere, in the order of
the plan, and as many downloads and errors are counted as it has receipts of the one and the other
kind. A file that is to be saved nowhere is an error. -/
structure Tallies (outputDir : String) (made : List Planned) (receipts : List Receipt)
    (downloaded errors : Nat) : Prop where
  asked : receipts.map Receipt.order = made.filterMap (order? outputDir)
  downloaded : downloaded = receipts.countP Receipt.succeeded
  errors : errors = made.countP (fun p => (savedAt? outputDir p).isNone) +
    receipts.countP (fun r => !r.succeeded)

theorem Tallies.nil : Tallies outputDir [] [] 0 0 := ⟨rfl, rfl, rfl⟩

theorem Tallies.balanced {made : List Planned} {receipts : List Receipt} {downloaded errors : Nat}
    (h : Tallies outputDir made receipts downloaded errors) :
    downloaded + errors = made.length := by
  have orders : receipts.length = made.countP fun p => (savedAt? outputDir p).isSome := by
    rw [← List.length_map Receipt.order, h.asked, List.length_filterMap_eq_countP]
    simp [order?]
  have kinds : receipts.length =
      receipts.countP Receipt.succeeded + receipts.countP fun r => !r.succeeded := by
    rw [List.length_eq_countP_add_countP Receipt.succeeded]
    simp
  have all : made.length = (made.countP fun p => (savedAt? outputDir p).isSome) +
      made.countP fun p => (savedAt? outputDir p).isNone := by
    rw [List.length_eq_countP_add_countP fun p => (savedAt? outputDir p).isSome]
    simp only [Bool.not_eq_true, Option.isSome_eq_false_iff, Bool.decide_eq_true]
  have succeeded := h.downloaded
  have failed := h.errors
  omega

variable (client total index s) in
/-- A file that is to be saved nowhere is counted as an error, and there is no receipt for it. -/
theorem tallies_of_none (h : savedAt? outputDir p = none) :
    let done := downloadOne client.withReceipts outputDir total index p s
    done.state = s ∧ Tallies outputDir [p] [] done.downloaded (errorsFor p done) := by
  intro done
  obtain ⟨same, zero⟩ : done.state = s ∧ done.downloaded = 0 := downloadOne_of_none h
  refine ⟨same, ?_, zero, ?_⟩
  · simp [order?, h]
  · rw [errorsFor_of_none h]
    simp [h]

variable (client total index s) in
/-- There is a receipt for a file that is to be saved at a path. -/
theorem tallies_of_some (h : savedAt? outputDir p = some path) :
    let done := downloadOne client.withReceipts outputDir total index p s
    let receipt : Receipt := ⟨p.file, path, (client.download s.1 p.file path).1.result⟩
    done.state = ((client.download s.1 p.file path).2, s.2 ++ [receipt]) ∧
      Tallies outputDir [p] [receipt] done.downloaded (errorsFor p done) := by
  intro done receipt
  obtain ⟨next, one⟩ : done.state = (client.withReceipts.download s p.file path).2 ∧
      (done.downloaded = 1 ↔ (client.withReceipts.download s p.file path).1.result = .ok ()) :=
    downloadOne_of_some h
  have clean : errorsFor p done = 0 ↔
      (client.withReceipts.download s p.file path).1.result = .ok () :=
    errorsFor_of_some h
  have counts : done.downloaded + done.errors = 1 := downloadOne_counts h
  have answer : (client.withReceipts.download s p.file path).1.result = receipt.result := rfl
  have sent : [receipt].map Receipt.order = [p].filterMap (order? outputDir) := by
    simp [order?, h, Receipt.order, receipt]
  rw [answer] at one clean
  cases result : receipt.result with
  | ok _ =>
    have saved := one.2 result
    have correct := clean.2 result
    exact ⟨next, sent, by simp [Receipt.succeeded, result, saved],
      by simp [Receipt.succeeded, result, h, correct]⟩
  | error e =>
    have failed : receipt.result ≠ .ok () := by simp [result]
    have unsaved : done.downloaded = 0 := by
      have := mt one.1 failed
      omega
    have wrong : errorsFor p done = 1 := by
      rw [errorsFor_eq_of_some h]
      omega
    exact ⟨next, sent, by simp [Receipt.succeeded, result, unsaved],
      by simp [Receipt.succeeded, result, h, wrong]⟩

theorem Tallies.append {first rest : List Planned} {receipts more : List Receipt}
    {downloaded errors downloaded' errors' : Nat}
    (h : Tallies outputDir first receipts downloaded errors)
    (h' : Tallies outputDir rest more downloaded' errors') :
    Tallies outputDir (first ++ rest) (receipts ++ more) (downloaded + downloaded')
      (errors + errors') := by
  constructor
  · rw [List.map_append, List.filterMap_append, h.asked, h'.asked]
  · rw [List.countP_append, h.downloaded, h'.downloaded]
  · rw [List.countP_append, List.countP_append, h.errors, h'.errors]
    omega

variable (client outputDir total index) in
theorem downloadOne_tallies (p : Planned) (s : σ × List Receipt) :
    let done := downloadOne client.withReceipts outputDir total index p s
    ∃ receipts, done.state.2 = s.2 ++ receipts ∧
      Tallies outputDir [p] receipts done.downloaded (errorsFor p done) := by
  intro done
  cases saved : savedAt? outputDir p with
  | none =>
    obtain ⟨same, tallies⟩ := tallies_of_none client total index s saved
    exact ⟨[], by rw [same, List.append_nil], tallies⟩
  | some path =>
    obtain ⟨next, tallies⟩ := tallies_of_some client total index s saved
    exact ⟨_, by rw [next], tallies⟩

variable (client outputDir total index) in
/-- The receipts of the downloads of a plan. The errors counted are those of the plan and those of
the downloads. -/
theorem downloadAll_tallies (plan : List Planned) (s : σ × List Receipt) :
    let done := downloadAll client.withReceipts outputDir total index plan s
    ∃ receipts, done.state.2 = s.2 ++ receipts ∧
      Tallies outputDir plan receipts done.downloaded
        ((Report.ofPlan false plan).errors + done.errors) := by
  induction plan generalizing index s with
  | nil => exact ⟨[], (List.append_nil _).symm, .nil⟩
  | cons p rest ih =>
    intro done
    obtain ⟨receipts, kept, here⟩ :=
      downloadOne_tallies client outputDir total index p s
    obtain ⟨more, later, others⟩ := @ih (index + 1)
      (downloadOne client.withReceipts outputDir total index p s).state
    refine ⟨receipts ++ more, ?_, ?_⟩
    · rw [← List.append_assoc, ← kept]
      exact later
    · have all := here.append others
      rw [errorsFor, ← Nat.add_assoc, Nat.add_right_comm _ _ (Report.ofPlan false rest).errors,
        ← errors_ofPlan_cons, Nat.add_assoc] at all
      exact all

/-! ## Reports -/

/-- The numbers of a report, given its plan and the receipts of its run. -/
structure Accounts (config : Config) (report : Report) (receipts : List Receipt) : Prop where
  found : report.found = report.planned.length
  transformed : report.transformed = report.planned.countP fun p => p.outcome matches .transformed
  fallbacks : report.fallbacks = report.planned.countP fun p => p.outcome matches .fallback _
  /-- A preview downloads nothing. Otherwise there is one download for each file that is to be saved
  somewhere, in the order of the plan. -/
  asked : receipts.map Receipt.order =
    if config.dryRun then [] else report.planned.filterMap (order? config.outputDir)
  downloaded : report.downloaded = receipts.countP Receipt.succeeded
  /-- A preview counts the files that could not be planned. Otherwise all files are counted that are
  to be saved nowhere, and all downloads that failed. -/
  errors : report.errors =
    if config.dryRun then report.planned.countP fun p => p.outcome matches .failed _
    else report.planned.countP (fun p => (savedAt? config.outputDir p).isNone) +
      receipts.countP fun r => !r.succeeded

theorem Accounts.downloaded_of_dry {report : Report} {receipts : List Receipt}
    (h : Accounts config report receipts) (dry : config.dryRun = true) : report.downloaded = 0 := by
  have none_ : receipts = [] := by simpa [dry] using h.asked
  rw [h.downloaded, none_]
  rfl

theorem Accounts.balanced {report : Report} {receipts : List Receipt}
    (h : Accounts config report receipts) (real : config.dryRun = false) :
    report.downloaded + report.errors = report.found := by
  have asked := h.asked
  have errors := h.errors
  simp only [real, Bool.false_eq_true, if_false] at asked errors
  rw [h.found]
  exact Tallies.balanced ⟨asked, h.downloaded, errors⟩

theorem accounts_of_report {report : Report}
    (done : (fetch client state config).result = .ok report) :
    Accounts config report (fetch client.withReceipts (state, []) config).state.2 := by
  have same := fetch_withReceipts client (state, []) config
  have done' : (fetch client.withReceipts (state, []) config).result = .ok report := by
    rw [← done, ← same]
    rfl
  obtain ⟨ready, files, found⟩ := findings_of_report done'
  cases dry : config.dryRun with
  | true =>
    obtain ⟨reported, unchanged⟩ := preview_of_findings dry found
    obtain rfl := Except.ok.inj (reported.symm.trans done')
    rw [unchanged]
    refine ⟨rfl, rfl, rfl, ?_, rfl, ?_⟩
    · rw [dry]
      rfl
    · rw [dry]
      rfl
  | false =>
    obtain ⟨reported, ended⟩ := fetch_of_findings dry found
    obtain rfl := Except.ok.inj (reported.symm.trans done')
    obtain ⟨receipts, kept, tallies⟩ := downloadAll_tallies client config.outputDir
      (plan ready.transformer files).length 1 (plan ready.transformer files) (state, [])
    rw [ended, kept, List.nil_append]
    refine ⟨rfl, rfl, rfl, ?_, tallies.downloaded, ?_⟩
    · rw [dry]
      exact tallies.asked
    · rw [dry]
      exact tallies.errors

end Fetch

open Fetch

/-- A run that ends with a report has planned every file that was found, in the order of the search,
and its storage has receipts that agree with the report, whatever became of the downloads. A run
with downloads counts every file once, as downloaded or as an error; a preview counts no
downloads. -/
theorem files_accounted_for {report : Report}
    (done : (fetch client state config).result = .ok report) :
    let run := fetch client.withReceipts (state, []) config
    run.plain = fetch client state config ∧
      (∃ ready limits files, Searched client state config ready limits files ∧
        report.planned = plan ready.transformer files ∧ report.planned.map (·.file) = files) ∧
      Accounts config report run.state.2 ∧
      (config.dryRun = false → report.downloaded + report.errors = report.found) ∧
      (config.dryRun = true → report.downloaded = 0) := by
  intro run
  obtain ⟨ready, limits, files, searched, planned⟩ := searched_of_report done
  have each : report.planned.map (·.file) = files := by
    rw [planned, plan, List.map_map]
    exact List.map_congr_left (fun f _ => file_ofFile _ f) |>.trans (List.map_id _)
  have accounts := accounts_of_report done
  exact ⟨fetch_withReceipts client (state, []) config,
    ⟨ready, limits, files, searched, planned, each⟩,
    accounts, accounts.balanced, accounts.downloaded_of_dry⟩

/-! ## Three files, of which one is downloaded -/

/-- A storage with a file, one that it refuses to hand out, and one whose name leads up. -/
def Fetch.mixed : Storage.Catalogue where
  folders := [("r", [⟨"x", "a", .file, 3, false⟩, ⟨"y", "a", .file, 2, false⟩,
    ⟨"z", "a/..", .file, 1, false⟩])]
  root := some "r"
  localId := none
  failing := ["y"]

def Fetch.mixedFiles : List File :=
  [⟨"x", "a", "a", 3⟩, ⟨"y", "a", "a", 2⟩, ⟨"z", "a/..", "a/..", 1⟩]

set_option maxRecDepth 100000 in
theorem Fetch.findings_mixed :
    match findings Storage.Catalogue.client mixed { pattern := "a" } with
    | .ok (ready, files) => ready.transformer = none ∧ files = mixedFiles
    | .error _ => False := by
  cbv

theorem Fetch.downloads_mixed :
    (downloadAll Storage.Catalogue.client "output" 3 1 (plan none mixedFiles) mixed).downloaded =
      1 := by
  have below : destination "output" "a" = .ok "output/a" := by cbv
  have up : destination "output" "a/.." = .error (.unsafePath "a/..") := by cbv
  simp [mixedFiles, mixed, plan, Planned.ofFile, downloadAll_cons, downloadAll_nil, Downloads.after,
    downloadOne_eq, below, up,
    Storage.Catalogue.client]

theorem Fetch.mixed_reported :
    ∃ report, (fetch Storage.Catalogue.client mixed { pattern := "a" }).result = .ok report ∧
      report.found = 3 ∧ report.downloaded = 1 := by
  have found := findings_mixed
  split at found
  · next ready files finds =>
    obtain ⟨whole, rfl⟩ := found
    obtain ⟨reported, _⟩ := fetch_of_findings rfl finds
    rw [whole] at reported
    exact ⟨_, reported, rfl, downloads_mixed⟩
  · exact found.elim

/-- There are receipts for two of the three files, and one of them is downloaded. -/
theorem files_accounted_for_mixed :
    ∃ report, (fetch Storage.Catalogue.client mixed { pattern := "a" }).result = .ok report ∧
      report.found = 3 ∧ report.downloaded = 1 ∧ report.errors = 2 ∧
      Accounts { pattern := "a" } report
        (fetch Storage.Catalogue.client.withReceipts (mixed, []) { pattern := "a" }).state.2 := by
  obtain ⟨report, done, three, one⟩ := Fetch.mixed_reported
  obtain ⟨_, _, accounts, balanced, _⟩ := files_accounted_for done
  have all : report.downloaded + report.errors = report.found := balanced rfl
  exact ⟨report, done, three, one, by omega, accounts⟩

end TreeFetch
