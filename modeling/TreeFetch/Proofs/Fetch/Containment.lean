import TreeFetch.Proofs.Fetch.Run
import TreeFetch.Proofs.Storage.Download

/-!
# A run writes only inside its output directory

Every download of a run is a sequence of writes below the output directory, and so are all of them
together, whatever texts the paths of the plan are made of and whichever downloads fail. The output
directory is the folder that its text denotes after the run; where the text denoted a folder before,
it still denotes the same one.

Results:
1. `Fetch.downloadAll_steps`: the downloads of a plan are writes below the output directory.
2. `fetch_changesBelow`: a run changes nothing elsewhere, however it ends.
-/

namespace TreeFetch

open FileSystem Storage

namespace Fetch

variable {s : Local} {fs : FileSystem} {outputDir : String} {total index : Nat}

theorem downloadOne_steps (p : Planned) :
    Relation.ReflTransGen (Writes outputDir) fs
      (downloadOne s.client outputDir total index p fs).state := by
  cases saved : savedAt? outputDir p with
  | none =>
    rw [(downloadOne_of_none saved).1]
  | some path =>
    rw [(downloadOne_of_some saved).1]
    exact Local.download_steps (destination_of_savedAt? saved)

theorem downloadAll_steps (plan : List Planned) :
    Relation.ReflTransGen (Writes outputDir) fs
      (downloadAll s.client outputDir total index plan fs).state := by
  induction plan generalizing index fs with
  | nil => exact .refl
  | cons p rest ih => exact (downloadOne_steps p).trans ih

end Fetch

theorem fetch_steps (s : Local) (fs : FileSystem) (config : Config) :
    Relation.ReflTransGen (Writes config.outputDir) fs (fetch s.client fs config).state := by
  have course := Fetch.fetch_cases s.client fs config
  generalize fetch s.client fs config = ending at course ⊢
  cases course with
  | gaveUp => exact .refl
  | previewed => exact .refl
  | downloaded => exact Fetch.downloadAll_steps _

/-- A run on a local storage changes nothing outside its output directory, unless there is a link in
what the directory denotes, or comes to denote when missing folders at and above it are made: all
that was there is still there, files and links are the same, and new folders are those that lead to
the output directory. This holds for a run that gives up, for a preview and for a run with
downloads, and for every pattern and template. -/
theorem fetch_changesBelow (s : Local) (fs : FileSystem) (config : Config)
    (unlinked : ∀ dir, fs.ComesToDenote config.outputDir dir → Unlinked fs.tree dir) :
    let after := (fetch s.client fs config).state
    ChangesBelow config.outputDir fs after ∧
      (∀ dir, after.directory? config.outputDir = some dir →
        fs.ComesToDenote config.outputDir dir) ∧
      ∀ dir, fs.directory? config.outputDir = some dir →
        after.directory? config.outputDir = some dir ∧
          ∀ other, fs.ComesToDenote config.outputDir other → other = dir := by
  intro after
  have steps := fetch_steps s fs config
  have denoted : ∀ dir, after.directory? config.outputDir = some dir →
      fs.ComesToDenote config.outputDir dir := fun _ => comesToDenote_of_steps steps
  have below : ChangesBelow config.outputDir fs after :=
    changesBelow_of_steps steps fun dir denotes => unlinked dir (denoted dir denotes)
  exact ⟨below, denoted, fun dir denotes =>
    ⟨below.extension.directory? denotes, fun _ comes => comes.eq_of_directory? denotes⟩⟩

/-! ## A run that makes its output directory -/

theorem Fetch.sample_linkFree (place : Location) (target : String) :
    Fetch.sample.tree.shape? place ≠ some (.link target) :=
  Tree.linkFree_add
    (Tree.linkFree_add (Tree.linkFree_add Tree.linkFree_empty (Node.folder_ne_link 0))
    (Node.folder_ne_link 1)) (Node.file_ne_link ⟨#[7]⟩ 2) place target

set_option maxRecDepth 100000 in
/-- The output directory is made, and the file is saved in it. -/
theorem fetch_changesBelow_sample :
    let config : Config := { pattern := "a", outputDir := "/s/p" }
    let after := (fetch (Local.client ⟨"/s"⟩) Fetch.sample config).state
    (∀ dir, Fetch.sample.ComesToDenote config.outputDir dir →
      Unlinked Fetch.sample.tree dir) ∧
      ChangesBelow config.outputDir Fetch.sample after ∧ after.isFile "/s/p/o/a" = true := by
  intro config after
  have unlinked : ∀ dir, Fetch.sample.ComesToDenote config.outputDir dir →
      Unlinked Fetch.sample.tree dir :=
    fun _ _ place target _ => Fetch.sample_linkFree place target
  have saved : (fetch (Local.client ⟨"/s"⟩) Fetch.sample
      { pattern := "a", outputDir := "/s/p" }).state.isFile "/s/p/o/a" = true := by cbv
  exact ⟨unlinked, (fetch_changesBelow ⟨"/s"⟩ Fetch.sample config unlinked).1, saved⟩

/-! ## An output directory that a missing folder hides -/

/-- The folders `/s` and `/out`, in which `/s/l` is a file and `/out/l` a link to the file
`/other`. -/
def Fetch.detour : FileSystem where
  tree := FileSystem.Tree.empty |>.add [.text "s"] (.folder 0)
    |>.add [.text "l", .text "s"] (.file ⟨#[7]⟩ 1)
    |>.add [.text "out"] (.folder 2)
    |>.add [.text "l", .text "out"] (.link "../other")
    |>.add [.text "other"] (.file ⟨#[8]⟩ 3)

set_option maxRecDepth 100000 in
theorem Fetch.detour_run :
    (match (fetch (Local.client ⟨"/s"⟩) detour
      { pattern := "l", outputDir := "/x/../out" }).result with
      | .ok report => report.downloaded = 1 ∧ report.errors = 0
      | .error _ => False) ∧
      (fetch (Local.client ⟨"/s"⟩) detour
        { pattern := "l", outputDir := "/x/../out" }).state.directory? "/x/../out" =
          some [.text "out"] ∧
      (fetch (Local.client ⟨"/s"⟩) detour
        { pattern := "l", outputDir := "/x/../out" }).state.tree.bytes? [.text "other"] =
          some ⟨#[7]⟩ := by
  cbv

/-- Nothing is in the place of the output directory, since a folder on its path is missing. When
that is made, the path leads to a folder with a link, and the run writes through it. -/
theorem fetch_changes_elsewhere :
    let config : Config := { pattern := "l", outputDir := "/x/../out" }
    let run := fetch (Local.client ⟨"/s"⟩) Fetch.detour config
    Fetch.detour.locate? config.outputDir = none ∧
      Fetch.detour.directory? config.outputDir = none ∧
      (∃ report, run.result = .ok report ∧ report.downloaded = 1 ∧ report.errors = 0) ∧
      ¬ChangesBelow config.outputDir Fetch.detour run.state := by
  intro config run
  obtain ⟨reported, denotes, bytes⟩ := Fetch.detour_run
  refine ⟨by cbv, by cbv, ?_, fun below => ?_⟩
  · split at reported
    · next report done => exact ⟨report, done, reported⟩
    · exact reported.elim
  · -- the other file does not lie in the folder that the output directory denotes
    have outside : ∀ dir, run.state.directory? config.outputDir = some dir →
        ¬dir <:+ [.text "other"] := by
      intro dir denotes'
      obtain rfl := Option.some.inj (denotes.symm.trans denotes')
      decide
    have same := Tree.bytes?_congr (below.leaves [.text "other"] outside)
    have before : Fetch.detour.tree.bytes? [.text "other"] = some ⟨#[8]⟩ := by decide
    have changed := (bytes.symm.trans same).trans before
    exact absurd changed (by decide)

end TreeFetch
