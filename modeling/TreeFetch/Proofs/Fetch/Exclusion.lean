import TreeFetch.Proofs.Fetch.Run
import TreeFetch.Proofs.Storage.LocalWalk

/-!
# When the output directory is left out of the search

The search of a run leaves out the folder with the id of the output directory. That id is compared
with the ids that the walk carries: those that it makes itself are made of names, but the one of the
folder where it begins is the text that was given, and a text may pass through a link or may spell
the same folder otherwise.

Results:
1. `Fetch.not_below_of_leavesOut`: a walk that begins straight below the root never finds what lies
   in the output directory, unless it begins there under another spelling.
2. `Fetch.unmet_of_not_leavesOut`: any other walk does not come to the excluded id at all.
3. `planned_in_output_iff`: both together, for the plan of a run.
-/

namespace TreeFetch

open FileSystem Storage PathText Search

namespace Fetch

variable {s : Local} {fs : FileSystem} {config : Config} {pattern : Regex.Pattern}
  {limits : Storage.Limits} {root out top : Location} {segments : List String}

/-- The id of the folder where the search of a run begins. -/
def startId (config : Config) : String := config.folderId.getD ""

theorem begins_startId : Begins s.client fs config.folderId (startId config) := by
  unfold startId
  cases config.folderId with
  | none => rfl
  | some id => rfl

/-- The search leaves out the output directory: that has an id, the search begins at a folder to
which its id leads straight, and where that folder lies in the output directory, the id is the one
of the output directory. -/
structure LeavesOut (s : Local) (fs : FileSystem) (config : Config) (root out : Location)
    (segments : List String) (top : Location) : Prop where
  known : s.folderIdAt fs config.outputDir ≠ none
  straight : top = root.down segments
  spelled : out <:+ top → s.folderIdAt fs config.outputDir = some (startId config)

theorem folderIdAt_of_located {init : List String} (rootAt : fs.locate? s.root = some root)
    (outAt : fs.locate? config.outputDir = some (root.down init))
    (known : s.folderIdAt fs config.outputDir ≠ none) :
    s.folderIdAt fs config.outputDir = some (ofSegments init) := by
  obtain ⟨id, outputId⟩ := Option.ne_none_iff_exists'.1 known
  obtain ⟨root', names, rootAt', outAt', rfl⟩ := Local.folderIdAt_eq_some.1 outputId
  obtain rfl := canonical?_eq_locate? rootAt' rootAt
  have same : names = init := Location.down_inj.1 (canonical?_eq_locate? outAt' outAt)
  rw [outputId, same]

/-- A file that is met by a search that leaves out the output directory does not lie in it. -/
theorem not_below_of_leavesOut {f : File} (rootAt : fs.locate? s.root = some root)
    (outAt : fs.locate? config.outputDir = some out) (inside : root <:+ out)
    (excludes : ∀ id, id ∈ limits.excluded ↔ s.folderIdAt fs config.outputDir = some id)
    (begins : s.LeadsToFolder fs (startId config) segments top)
    (leaves : LeavesOut s fs config root out segments top)
    (meets : Meets s.client fs pattern limits (startId config) f) : ¬s.LiesIn fs out f.id := by
  rintro ⟨at_, held, below⟩
  obtain ⟨names, same, passed⟩ := Local.meets_down begins meets
  obtain rfl : top.down names = at_ := Option.some.inj (same.symm.trans held)
  rw [leaves.straight, ← Location.down_append] at below
  obtain ⟨init, short, rfl⟩ := Location.exists_down_of_suffix inside below
  have outputId : s.folderIdAt fs config.outputDir = some (ofSegments init) :=
    folderIdAt_of_located rootAt outAt leaves.known
  by_cases above : init <+: segments
  · -- the walk begins in the output directory, so that its beginning is excluded
    have spelled := leaves.spelled (by
      obtain ⟨more, rfl⟩ := above
      rw [leaves.straight, Location.down_append]
      exact Location.suffix_down _ more)
    exact passed [] (List.nil_prefix) ((excludes _).2 spelled)
  · -- the walk passes the output directory, under the id that is excluded
    have after :=
      (List.prefix_or_prefix_of_prefix short (List.prefix_append segments names)).resolve_left
      above
    obtain ⟨later, rfl⟩ := after
    have some_ : later ≠ [] := by
      rintro rfl
      exact above (by rw [List.append_nil])
    have excluded := passed later ((List.prefix_append_right_inj segments).1 short)
    rw [Local.idBelow, if_neg some_] at excluded
    exact excluded ((excludes _).2 outputId)

/-- A search that does not leave out the output directory does not come to the excluded id. -/
theorem unmet_of_not_leavesOut (rootAt : fs.locate? s.root = some root)
    (outAt : fs.locate? config.outputDir = some out)
    (excludes : ∀ id, id ∈ limits.excluded ↔ s.folderIdAt fs config.outputDir = some id)
    (begins : s.LeadsToFolder fs (startId config) segments top)
    (not_ : ¬LeavesOut s fs config root out segments top) {depth : Nat} {id : String}
    (comes : Comes s.client fs limits.unexcluded (startId config) depth id) :
    id ∉ limits.excluded := by
  intro excluded
  have outputId := (excludes id).1 excluded
  obtain ⟨root', between, rootAt', outAt', same⟩ := Local.folderIdAt_eq_some.1 outputId
  obtain rfl := canonical?_eq_locate? rootAt' rootAt
  obtain rfl : root'.down between = out := canonical?_eq_locate? outAt' outAt
  have real := solid_of_resolve (locate?_eq_some.1 outAt)
  obtain ⟨names, came⟩ := Local.comes_down begins comes
  have all := isName_of_segments? came.leads.cut
  have cut : segments ++ names = between := by
    have idCut := came.leads.cut
    rw [same, segments?_ofSegments (Local.isName_of_down real)] at idCut
    exact (Option.some.inj idCut).symm
  subst cut
  rw [Location.down_append] at real outAt
  have straight : top = root'.down segments := by
    have startNames : ∀ n ∈ segments, IsName n :=
      fun n present => all n (List.mem_append_left _ present)
    simpa using resolve_pushAll_down startNames (locate?_eq_some.1 rootAt) (Tree.solid_of_down real)
      begins.leads
  refine not_ ⟨by simp [outputId], straight, fun below => ?_⟩
  have nothing : names = [] := by
    rw [straight, Location.down_append] at below
    have long := below.length_le
    rw [Location.down_eq (root'.down segments) names, List.length_append] at long
    simpa using long
  rw [outputId, came.id, Local.idBelow, if_pos nothing]

end Fetch

/-- A run plans a file in the output directory exactly if the search does not leave out the output
directory, and if a search without any exclusion finds a file there. The output directory lies
inside the storage root, and the search begins at any folder of the storage. -/
theorem planned_in_output_iff {s : Local} {fs : FileSystem} {config : Config} {report : Report}
    {root out top : Location} {segments : List String}
    (done : (fetch s.client fs config).result = .ok report)
    (rootAt : fs.locate? s.root = some root) (outAt : fs.locate? config.outputDir = some out)
    (inside : root <:+ out)
    (begins : s.LeadsToFolder fs (Fetch.startId config) segments top) :
    (∃ p ∈ report.planned, s.LiesIn fs out p.file.id) ↔
      ¬Fetch.LeavesOut s fs config root out segments top ∧
        ∃ pattern files, Regex.Pattern.compile config.pattern = .ok pattern ∧
          (search s.client fs config.folderId pattern config.searchLimits).result = .ok files ∧
          ∃ f ∈ files, s.LiesIn fs out f.id := by
  obtain ⟨ready, limits, files, searched, planned⟩ := Fetch.searched_of_report done
  obtain ⟨noted, limited⟩ := searched.limited
  have compiled := Fetch.compile_of_prepare searched.prepared
  obtain ⟨others, excludes⟩ := Fetch.limits_eq_ok limited
  have unexcluded : ¬Fetch.LeavesOut s fs config root out segments top →
      (search s.client fs config.folderId ready.pattern config.searchLimits).result =
        .ok files := by
    intro not_
    rw [← others, ← searched.found]
    exact (search_unexcluded Fetch.begins_startId fun depth id comes =>
      Fetch.unmet_of_not_leavesOut rootAt outAt excludes begins not_ comes).symm
  have same : (∃ p ∈ plan ready.transformer files, s.LiesIn fs out p.file.id) ↔
      ∃ f ∈ files, s.LiesIn fs out f.id := Fetch.exists_mem_plan fun f => s.LiesIn fs out f.id
  rw [planned, same]
  constructor
  · rintro ⟨f, present, lies⟩
    have not_ : ¬Fetch.LeavesOut s fs config root out segments top := fun leaves =>
      Fetch.not_below_of_leavesOut rootAt outAt inside excludes begins leaves
        (search_sound Fetch.begins_startId searched.found present) lies
    exact ⟨not_, ready.pattern, files, compiled, unexcluded not_, f, present, lies⟩
  · rintro ⟨not_, pattern, found, compiled', result, f, present, lies⟩
    obtain rfl : pattern = ready.pattern := Except.ok.inj (compiled'.symm.trans compiled)
    obtain rfl : found = files := Except.ok.inj (result.symm.trans (unexcluded not_))
    exact ⟨f, present, lies⟩

/-! ## A search that begins in the output directory -/

theorem Fetch.sample_begins :
    Local.LeadsToFolder ⟨"/s"⟩ Fetch.sample (Fetch.startId Fetch.sampleConfig) ["o"]
      [.text "o", .text "s"] :=
  ⟨by decide, by cbv, by cbv⟩

theorem Fetch.sample_liesIn :
    Local.LiesIn ⟨"/s"⟩ Fetch.sample [.text "o", .text "s"] "o/a" :=
  ⟨[.text "o", .text "s"], by cbv, List.suffix_refl _⟩

/-- The run plans a file in its output directory, which lies inside the storage root. -/
theorem planned_in_output :
    ∃ report p,
      (fetch (Local.client ⟨"/s"⟩) Fetch.sample Fetch.sampleConfig).result = .ok report ∧
      Fetch.sample.locate? "/s" = some [.text "s"] ∧
      Fetch.sample.locate? "/s/o" = some [.text "o", .text "s"] ∧
      p ∈ report.planned ∧
      Local.LiesIn ⟨"/s"⟩ Fetch.sample [.text "o", .text "s"] p.file.id := by
  obtain ⟨report, p, done, planned, id⟩ := Fetch.sample_report
  exact ⟨report, p, done, by cbv, by cbv, planned, id ▸ Fetch.sample_liesIn⟩

/-- The search does not leave out the output directory, although it begins there. -/
theorem not_leavesOut_sample :
    ¬Fetch.LeavesOut ⟨"/s"⟩ Fetch.sample Fetch.sampleConfig [.text "s"] [.text "o", .text "s"]
      ["o"] [.text "o", .text "s"] := by
  obtain ⟨report, p, done, planned, id⟩ := Fetch.sample_report
  have inside : [Name.text "s"] <:+ [.text "o", .text "s"] := List.suffix_cons _ _
  exact ((planned_in_output_iff done (by cbv) (by cbv) inside Fetch.sample_begins).1
    ⟨p, planned, id ▸ Fetch.sample_liesIn⟩).1

end TreeFetch
