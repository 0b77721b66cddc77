import TreeFetch.Proofs.Fetch.Saved
import TreeFetch.Proofs.Plan
import TreeFetch.Proofs.Storage.Paths

/-!
# Runs without a transformer

Without a transformer a file is saved under the path where it was found. The paths of found files
never lead on to one another, so that no download stands in the way of another one: where the output
directory did not exist before, every file is saved whose path the operating system allows, and
nothing else comes to be there.

Results:
1. `Fetch.Mirrored.download`: one more download keeps the copy exact, and it succeeds exactly if its
   path fits.
2. `Fetch.downloadAll_invariant`: what one download keeps is kept by all of them.
3. `found_files_mirrored`: what a run leaves in the output directory.
4. `long_path_not_saved`: a file whose path does not fit is not saved.
-/

namespace TreeFetch

open FileSystem Storage

namespace Fetch

variable {s : Local} {fs before after : FileSystem} {there at_ : Location} {name outputDir : String}
  {names : List String} {done rest files : List File} {f g : File} {total index : Nat}

/-! ## One download -/

def savedPath (outputDir : String) (f : File) : String := PathText.pushAll outputDir f.names

/-- Whether the path at which a found file is to be saved fits. -/
def saves (fs : FileSystem) (outputDir : String) (f : File) :
    Bool := fs.fits (savedPath outputDir f)

theorem destination_of_traced (traced : s.Traced fs f) :
    destination outputDir f.path = .ok (savedPath outputDir f) :=
  destination_eq_ok.2 ⟨f.names, traced.cut, traced.some_, rfl⟩

theorem isName_of_traced (traced : s.Traced fs f) : ∀ n ∈ f.names, PathText.IsName n :=
  PathText.isName_of_segments? traced.cut

theorem back_savedPath (traced : s.Traced fs f) : (savedPath outputDir f).back ≠ '/' :=
  PathText.back_pushAll outputDir (isName_of_traced traced) traced.some_

/-- The path at which a found file is saved does not climb if the output directory does not. -/
theorem falls_savedPath (falls : ∀ part ∈ PathText.stem outputDir, PathText.climbs part = false)
    (traced : s.Traced fs f) :
    ∀ part ∈ PathText.parts (savedPath outputDir f), PathText.climbs part = false := by
  have named := isName_of_traced traced
  intro part present
  rw [savedPath, PathText.parts_pushAll outputDir named traced.some_] at present
  rcases List.mem_append.1 present with above | below
  · exact falls part above
  · exact (named part below).falls

theorem saves_of_download
    (falls : ∀ part ∈ PathText.stem outputDir, PathText.climbs part = false)
    (traced : s.Traced fs f) (e : Extends fs before)
    (succeeds : (s.download before f.id (savedPath outputDir f)).1.result = .ok ()) :
    saves fs outputDir f = true := by
  rw [saves, ← e.fits]
  exact fits_of_download (falls_savedPath falls traced) (back_savedPath traced) succeeds

/-- Below the name that is free at first lie the files of `done` whose paths fit, and the folders on
the way to files of `done`; nothing else is new. -/
structure Mirrored (s : Local) (fs : FileSystem) (outputDir : String) (there : Location)
    (name : String) (names : List String) (done : List File) (before : FileSystem) : Prop where
  extension : Extends fs before
  kept : Kept fs before
  leaves : ∀ at_ node, before.tree.leaf? at_ = some node → fs.tree.leaf? at_ = some node ∨
    ∃ f ∈ done, saves fs outputDir f = true ∧
      at_ = Location.down (.text name :: there) (names ++ f.names)
  folders : ∀ at_, before.tree.isFolder at_ = true → fs.tree.isFolder at_ = true ∨
    ∃ f ∈ done, ∃ inner, inner <+: names ++ f.names.dropLast ∧
      at_ = Location.down (.text name :: there) inner
  saved : ∀ f ∈ done, saves fs outputDir f = true →
    before.resolve (savedPath outputDir f) =
        .ok (.entry (Location.down (.text name :: there) (names ++ f.names))) ∧
      ∃ bytes t, s.bytes? fs f.id = some bytes ∧
        before.tree.leaf? (Location.down (.text name :: there) (names ++ f.names)) =
          some (.file bytes t)

namespace Mirrored

variable (m : Missing fs outputDir there name names)

theorem nil : Mirrored s fs outputDir there name names [] fs where
  extension := .refl fs
  kept _ _ same := same
  leaves _ _ leaf := .inl leaf
  folders _ folder := .inl folder
  saved := List.forall_mem_nil _

include m

theorem leaf_below (inv : Mirrored s fs outputDir there name names done before)
    {inner : List String}
    {node : Node}
    (leaf : before.tree.leaf? (Location.down (.text name :: there) inner) = some node) :
    ∃ g ∈ done, saves fs outputDir g = true ∧ inner = names ++ g.names := by
  rcases inv.leaves _ _ leaf with old | ⟨g, present, fits, same⟩
  · exact absurd (Location.suffix_down _ _) (m.not_below (Tree.leaf?_eq_some.1 old).1)
  · exact ⟨g, present, fits, Location.down_inj.1 same⟩

theorem folder_below (inv : Mirrored s fs outputDir there name names done before)
    {inner : List String}
    (folder : before.tree.isFolder (Location.down (.text name :: there) inner) = true) :
    ∃ g ∈ done, inner <+: names ++ g.names.dropLast := by
  rcases inv.folders _ folder with old | ⟨g, present, way, inside, same⟩
  · obtain ⟨time, found⟩ := Tree.isFolder_iff_node?.1 old
    exact absurd (Location.suffix_down _ _) (m.not_below found)
  · exact ⟨g, present, Location.down_inj.1 same ▸ inside⟩

/-- The folders on the way to the next file can be made. -/
theorem passable (inv : Mirrored s fs outputDir there name names done before)
    (apart : ∀ g ∈ done, File.Apart g f) :
    Passable before.tree there (name :: names ++ f.names.dropLast) := by
  intro init beginning
  cases init with
  | nil => exact .inr (isFolder_kept inv.extension.kept m.looks.folder)
  | cons first inner =>
    rw [List.cons_append] at beginning
    obtain ⟨rfl, inside⟩ := (List.cons_prefix_cons).1 beginning
    rw [Location.down_cons]
    cases found : before.tree.node? (Location.down (.text first :: there) inner) with
    | none => exact .inl rfl
    | some node =>
      cases kind : node.isFolder with
      | true => exact .inr (by simp [Tree.isFolder, found, kind])
      | false =>
        -- a file on the way would be one with a path that leads on to this one
        obtain ⟨g, present, _, rfl⟩ := inv.leaf_below m (Tree.leaf?_eq_some.2 ⟨found, kind⟩)
        rw [List.prefix_append_right_inj] at inside
        exact absurd (inside.trans (List.dropLast_prefix _)) (apart g present).1

theorem vacant (inv : Mirrored s fs outputDir there name names done before)
    (apart : ∀ g ∈ done, File.Apart g f) :
    before.tree.node? (Location.down (.text name :: there) (names ++ f.names)) = none := by
  by_contra some_
  obtain ⟨node, found⟩ := Option.ne_none_iff_exists'.1 some_
  cases kind : node.isFolder with
  | false =>
    obtain ⟨g, present, _, same⟩ := inv.leaf_below m (Tree.leaf?_eq_some.2 ⟨found, kind⟩)
    have alike := List.append_cancel_left same
    exact (apart g present).1 (alike ▸ List.prefix_refl _)
  | true =>
    have folder : before.tree.isFolder (Location.down (.text name :: there) (names ++ f.names)) =
        true := by
      simp [Tree.isFolder, found, kind]
    obtain ⟨g, present, inside⟩ := inv.folder_below m folder
    rw [List.prefix_append_right_inj] at inside
    exact (apart g present).2 (inside.trans (List.dropLast_prefix _))

theorem succeeds_iff (inv : Mirrored s fs outputDir there name names done before)
    (apart : ∀ g ∈ done, File.Apart g f) (traced : s.Traced fs f) :
    (s.download before f.id (savedPath outputDir f)).1.result = .ok () ↔
      saves fs outputDir f = true := by
  constructor
  · exact saves_of_download m.falls traced inv.extension
  · intro fits
    obtain ⟨origin, held, source⟩ := traced.source
    exact m.download_succeeds inv.extension (isName_of_traced traced) traced.some_ fits
      (inv.passable m apart) (inv.vacant m apart) (source.extend inv.extension)

theorem leaf_elsewhere (inv : Mirrored s fs outputDir there name names done before)
    (traced : s.Traced fs f) {at_ : Location}
    (other : at_ ≠ Location.down (.text name :: there) (names ++ f.names)) :
    (s.download before f.id (savedPath outputDir f)).2.tree.leaf? at_ = before.tree.leaf? at_ :=
  m.download_leaves inv.extension (isName_of_traced traced) traced.some_ other

/-- The next download leaves a file in its place only if it succeeds. -/
theorem saves_of_leaf (inv : Mirrored s fs outputDir there name names done before)
    (apart : ∀ g ∈ done, File.Apart g f) (traced : s.Traced fs f) {node : Node}
    (leaf : (s.download before f.id (savedPath outputDir f)).2.tree.leaf?
      (Location.down (.text name :: there) (names ++ f.names)) = some node) :
    saves fs outputDir f = true := by
  rw [← inv.succeeds_iff m apart traced]
  by_contra fails
  rw [Local.leaf?_of_failed (back_savedPath traced) fails, Tree.leaf?, inv.vacant m apart] at leaf
  cases leaf

omit m in
/-- A file that was saved before does not lie where the next one is saved. -/
theorem place_ne {g : File} (apart : File.Apart g f) :
    Location.down (.text name :: there) (names ++ g.names) ≠
      Location.down (.text name :: there) (names ++ f.names) := by
  intro same
  have alike := List.append_cancel_left (Location.down_inj.1 same)
  exact apart.1 (alike ▸ List.prefix_refl _)

theorem download (inv : Mirrored s fs outputDir there name names done before)
    (apart : ∀ g ∈ done, File.Apart g f) (traced : s.Traced fs f) :
    Mirrored s fs outputDir there name names (done ++ [f])
      (s.download before f.id (savedPath outputDir f)).2 := by
  have named := isName_of_traced traced
  have next : Extends before (s.download before f.id (savedPath outputDir f)).2 :=
    extends_of_steps (Local.download_steps (destination_of_traced traced))
  have earlier : ∀ g, g ∈ done → g ∈ done ++ [f] := fun g => List.mem_append_left _
  refine ⟨inv.extension.trans next, fun at_ node leaf => ?_, fun at_ node leaf => ?_,
    fun at_ folder => ?_, fun g present fits => ?_⟩
  · rw [inv.leaf_elsewhere m traced, inv.kept at_ node leaf]
    rintro rfl
    exact m.not_below (Tree.leaf?_eq_some.1 leaf).1 (Location.suffix_down _ _)
  · by_cases here : at_ = Location.down (.text name :: there) (names ++ f.names)
    · subst here
      exact .inr ⟨f, by simp, inv.saves_of_leaf m apart traced leaf, rfl⟩
    · rw [inv.leaf_elsewhere m traced here] at leaf
      rcases inv.leaves at_ node leaf with old | ⟨g, present, fits, there_⟩
      · exact .inl old
      · exact .inr ⟨g, earlier g present, fits, there_⟩
  · rcases m.download_folders inv.extension named traced.some_ folder with old |
      ⟨inner, inside, here⟩
    · rcases inv.folders at_ old with older | ⟨g, present, new⟩
      · exact .inl older
      · exact .inr ⟨g, earlier g present, new⟩
    · exact .inr ⟨f, by simp, inner, inside, here⟩
  · rcases List.mem_append.1 present with before_ | now
    · obtain ⟨leads, bytes, t, original, leaf⟩ := inv.saved g before_ fits
      refine ⟨next.resolve leads, bytes, t, original, ?_⟩
      rw [inv.leaf_elsewhere m traced (place_ne (apart g before_)), leaf]
    · obtain rfl := List.mem_singleton.1 now
      obtain ⟨origin, held, source⟩ := traced.source
      obtain ⟨_, _, leaf⟩ := source.isLeaf
      obtain ⟨leads, bytes, t, original, written⟩ :=
        m.download_saved inv.extension named traced.some_
        source ((inv.kept held _ leaf).trans leaf.symm) ((inv.succeeds_iff m apart traced).2 fits)
      exact ⟨leads, bytes, t, original, written⟩

end Mirrored

/-! ## All downloads -/

theorem client_download {path : String} :
    s.client.download fs f path = s.download fs f.id path := rfl

/-- What one download keeps is kept by all of them, and those succeed of which the paths fit. -/
theorem downloadAll_invariant {Inv : List File → FileSystem → Prop}
    (step : ∀ {done f later before}, files = done ++ f :: later → Inv done before →
      ((s.download before f.id (savedPath outputDir f)).1.result = .ok () ↔
          saves fs outputDir f = true) ∧
        Inv (done ++ [f]) (s.download before f.id (savedPath outputDir f)).2)
    (traced : ∀ f ∈ files, s.Traced fs f) (split : files = done ++ rest)
    (inv : Inv done before) :
    let run := downloadAll s.client outputDir total index (plan none rest) before
    run.downloaded = rest.countP (saves fs outputDir) ∧
      run.downloaded + run.errors = rest.length ∧
      Inv files run.state := by
  induction rest generalizing done before index with
  | nil =>
    rw [List.append_nil] at split
    exact ⟨rfl, rfl, split ▸ inv⟩
  | cons f rest ih =>
    intro run
    have planned : savedAt? outputDir (Planned.ofFile none f) = some (savedPath outputDir f) := by
      have aims : destination outputDir (Planned.ofFile none f).destination = _ :=
        destination_of_traced (traced f (by simp [split]))
      have kept : (Planned.ofFile none f).outcome = .unchanged := rfl
      simp only [savedAt?, kept, aims, Except.toOption]
    obtain ⟨succeeds, next⟩ := step split inv
    obtain ⟨state, counted⟩ :=
      @downloadOne_of_some _ s.client before outputDir _ total index _ planned
    rw [file_ofFile, client_download] at state counted
    have one := @downloadOne_counts _ s.client before outputDir total index _ _ planned
    have whole : files = done ++ [f] ++ rest := by
      rw [split, List.append_assoc, List.singleton_append]
    rw [← state] at next
    obtain ⟨downloaded, all, last⟩ := @ih _ (done ++ [f]) (index + 1) whole next
    have first : (downloadOne s.client outputDir total index (Planned.ofFile none f)
      before).downloaded =
        if saves fs outputDir f = true then 1 else 0 := by
      split
      · next fits => exact counted.2 (succeeds.2 fits)
      · next unfit =>
        have not_one := mt counted.1 fun done => unfit (succeeds.1 done)
        omega
    have sum : run = (downloadAll s.client outputDir total (index + 1) (plan none rest)
        (downloadOne s.client outputDir total index (Planned.ofFile none f) before).state).after
          (downloadOne s.client outputDir total index (Planned.ofFile none f) before) := rfl
    rw [sum]
    refine ⟨?_, ?_, last⟩
    · rw [List.countP_cons, ← downloaded, ← first]
      exact Nat.add_comm _ _
    · simp only [Downloads.after, List.length_cons]
      omega

/-! ## Runs -/

/-- The output directory is an exact copy of what was found, as far as the paths fit. -/
structure ExactCopy (s : Local) (fs : FileSystem) (outputDir : String) (files : List File)
    (after : FileSystem) : Prop where
  /-- Every file whose path fits is saved under its path, with the bytes that it had before. -/
  saved : ∀ f ∈ files, saves fs outputDir f = true → ∃ path bytes,
    destination outputDir f.path = .ok path ∧ s.bytes? fs f.id = some bytes ∧
      after.readFile path = .ok bytes
  /-- There are no other files or links in the output directory. -/
  only : ∀ out at_, after.directory? outputDir = some out → out <:+ at_ →
    ((∃ node, after.tree.leaf? at_ = some node) ↔
      ∃ f ∈ files, saves fs outputDir f = true ∧ at_ = out.down f.names)
  /-- No two files are saved at one place. -/
  distinct : files.Pairwise fun f g => f.names ≠ g.names
  /-- If nothing was found, nothing has changed. -/
  untouched : files = [] → after = fs

theorem names_ne_of_apart (apart : files.Pairwise File.Apart) :
    files.Pairwise fun f g => f.names ≠ g.names := by
  refine apart.imp fun {f g} other same => ?_
  exact other.1 (same ▸ List.prefix_refl _)

theorem Mirrored.exactCopy (m : Missing fs outputDir there name names)
    (inv : Mirrored s fs outputDir there name names files after)
    (apart : files.Pairwise File.Apart) (traced : ∀ f ∈ files, s.Traced fs f)
    (untouched : files = [] → after = fs) : ExactCopy s fs outputDir files after where
  saved f present fits := by
    obtain ⟨leads, bytes, t, original, leaf⟩ := inv.saved f present fits
    exact ⟨_, bytes, destination_of_traced (traced f present), original,
      readFile_of_leaf? leads leaf⟩
  only out at_ denotes below := by
    have leads := ((directory?_eq_some m.filled).1 denotes).1
    obtain ⟨located, _⟩ := m.location inv.extension (List.forall_mem_nil _) leads
    obtain rfl : out = Location.down (.text name :: there) names := by
      simpa [Place.location] using located
    simp only [← Location.down_append]
    constructor
    · rintro ⟨node, leaf⟩
      rcases inv.leaves at_ node leaf with old | ⟨f, present, fits, same⟩
      · exact absurd ((Location.suffix_down _ names).trans below)
          (m.not_below (Tree.leaf?_eq_some.1 old).1)
      · exact ⟨f, present, fits, same⟩
    · rintro ⟨f, present, fits, rfl⟩
      obtain ⟨_, bytes, t, _, leaf⟩ := inv.saved f present fits
      exact ⟨_, leaf⟩
  distinct := names_ne_of_apart apart
  untouched := untouched

theorem exactCopy_of_unfit (unfit : ∀ f ∈ files, saves fs outputDir f = false)
    (none_ : after.directory? outputDir = none) (apart : files.Pairwise File.Apart)
    (untouched : files = [] → after = fs) : ExactCopy s fs outputDir files after where
  saved f present fits := by
    cases (unfit f present).symm.trans fits
  only out at_ denotes _ := by
    cases none_.symm.trans denotes
  distinct := names_ne_of_apart apart
  untouched := untouched

/-- An output directory that does not exist comes to be with a download, or no path in it fits. -/
theorem missing_or_unfit (absent : Absent fs outputDir)
    (current : fs.tree.isFolder fs.current = true)
    (ground : ∀ text, IsAtOrAbove outputDir text → fs.locate? text ≠ none →
      fs.isFolder text = true)
    (traced : ∀ f ∈ files, s.Traced fs f) :
    (∃ there name names, Missing fs outputDir there name names) ∨
      (∀ f ∈ files, saves fs outputDir f = false) ∧ ∀ after,
        Relation.ReflTransGen (Writes outputDir) fs after →
        after.directory? outputDir = none := by
  have begins : fs.tree.isFolder (start outputDir fs.current) = true := by
    unfold start
    split
    · rfl
    · exact current
  cases usable : fs.checkText outputDir with
  | error fault =>
    right
    constructor
    · intro f present
      rw [← Bool.not_eq_true]
      intro fits
      obtain ⟨more, same⟩ := pushAll_eq_append outputDir f.names
      have whole := (fits_iff.1 fits).1
      rw [savedPath, same] at whole
      cases usable.symm.trans (checkText_of_append absent.filled whole)
    · intro after steps
      rw [Option.eq_none_iff_forall_ne_some]
      intro out denotes
      have whole := (resolve_eq_ok.1 ((directory?_eq_some absent.filled).1 denotes).1).1
      rw [(extends_of_steps steps).checkText, usable] at whole
      cases whole
  | ok done =>
    rcases absent.missing_or_stuck usable with missing | stuck
    · exact .inl missing
    · right
      constructor
      · intro f present
        have named := isName_of_traced (traced f present)
        exact stuck.not_fits usable begins ground named (traced f present).some_
      · intro after steps
        rw [stuck.unchanged steps, Option.eq_none_iff_forall_ne_some]
        intro out denotes
        have leads := ((directory?_eq_some absent.filled).1 denotes).1
        cases absent.absent.symm.trans (locate?_eq_some.2 leads)

/-- What is downloaded of found files to an output directory that did not exist. -/
theorem exactCopy_downloadAll (absent : Absent fs outputDir)
    (current : fs.tree.isFolder fs.current = true)
    (ground : ∀ text, IsAtOrAbove outputDir text → fs.locate? text ≠ none →
      fs.isFolder text = true)
    (apart : files.Pairwise File.Apart) (traced : ∀ f ∈ files, s.Traced fs f) :
    let run := downloadAll s.client outputDir total index (plan none files) fs
    run.downloaded = files.countP (saves fs outputDir) ∧
      run.downloaded + run.errors = files.length ∧
      ExactCopy s fs outputDir files run.state := by
  intro run
  have untouched : files = [] → run.state = fs := by
    rintro rfl
    rfl
  rcases missing_or_unfit absent current ground traced with ⟨there, name, names, m⟩ |
    ⟨unfit, none_⟩
  · have step : ∀ {done f later before}, files = done ++ f :: later →
        Mirrored s fs outputDir there name names done before →
        ((s.download before f.id (savedPath outputDir f)).1.result = .ok () ↔
            saves fs outputDir f = true) ∧
          Mirrored s fs outputDir there name names (done ++ [f])
            (s.download before f.id (savedPath outputDir f)).2 := by
      intro done f later before split inv
      have parted := split ▸ apart
      have earlier : ∀ g ∈ done, File.Apart g f := fun g present =>
        (List.pairwise_append.1 parted).2.2 g present f (List.mem_cons_self ..)
      have found := traced f (by simp [split])
      exact ⟨inv.succeeds_iff m earlier found, inv.download m earlier found⟩
    obtain ⟨downloaded, all, inv⟩ :=
      @downloadAll_invariant s fs fs outputDir [] files files total index
      _ step traced (List.nil_append files).symm .nil
    exact ⟨downloaded, all, inv.exactCopy m apart traced untouched⟩
  · have falls : ∀ part ∈ PathText.stem outputDir, PathText.climbs part = false :=
      fun part present =>
      absent.falls part ((stem_beginning outputDir).subset present)
    have step : ∀ {done f later before}, files = done ++ f :: later → Extends fs before →
        ((s.download before f.id (savedPath outputDir f)).1.result = .ok () ↔
            saves fs outputDir f = true) ∧
          Extends fs (s.download before f.id (savedPath outputDir f)).2 := by
      intro done f later before split e
      have found := traced f (by simp [split])
      have next : Extends before (s.download before f.id (savedPath outputDir f)).2 :=
        extends_of_steps (Local.download_steps (destination_of_traced found))
      refine ⟨⟨saves_of_download falls found e, fun fits => ?_⟩, e.trans next⟩
      cases (unfit f (by simp [split])).symm.trans fits
    obtain ⟨downloaded, all, _⟩ :=
      @downloadAll_invariant s fs fs outputDir [] files files total index
      (fun _ => Extends fs) step traced (List.nil_append files).symm (.refl fs)
    exact ⟨downloaded, all, exactCopy_of_unfit unfit (none_ _ (downloadAll_steps _))
      apart untouched⟩

theorem fetch_of_search {config : Config} {pattern : Regex.Pattern}
    (nowhere : fs.canonical? config.outputDir = none) (real : config.dryRun = false)
    (plain : config.pathPattern = none ∧ config.pathFormat = none) (named : config.pattern ≠ "")
    (compiled : Regex.Pattern.compile config.pattern = .ok pattern)
    (found : (search s.client fs config.folderId pattern config.searchLimits).result = .ok files) :
    let run := downloadAll s.client config.outputDir (plan none files).length 1 (plan none files) fs
    ∃ report, (fetch s.client fs config).result = .ok report ∧
      report.planned.map (·.file) = files ∧ report.found = files.length ∧
      report.downloaded = run.downloaded ∧ report.errors = run.errors ∧
      (fetch s.client fs config).state = run.state := by
  intro run
  have prepared : prepare config = .ok ⟨pattern, none⟩ := by
    have fits : config.problem? = none := by simp [Config.problem?, named, plain]
    have none_ : config.pathTransform = none := by simp [Config.pathTransform, plain]
    simp only [prepare, fits, none_, compiled, Except.mapError, bind, Except.bind,
      pure, Except.pure]
  have outside : s.client.folderIdAt fs config.outputDir = none := by
    show s.folderIdAt fs config.outputDir = none
    rw [Option.eq_none_iff_forall_ne_some]
    intro id known
    obtain ⟨root, names, _, located, _⟩ := Local.folderIdAt_eq_some.1 known
    cases nowhere.symm.trans located
  have findings : findings s.client fs config = .ok (⟨pattern, none⟩, files) := by
    rw [Fetch.findings, prepared]
    simp only [outside, Fetch.limits, found]
  obtain ⟨reported, ended⟩ := fetch_of_findings real findings
  refine ⟨_, reported, ?_, List.length_map _, rfl, ?_, ended⟩
  · show (plan none files).map (·.file) = files
    rw [plan, List.map_map]
    exact List.map_id _
  · show (Report.ofPlan false (plan none files)).errors + _ = run.errors
    rw [errors_ofPlan, Nat.zero_add]

end Fetch

/-- A run without a transformer, whose output directory did not exist and would lie in a folder,
downloads exactly the found files whose paths fit, and counts the others as errors. The output
directory is an exact copy of them then. -/
theorem found_files_mirrored {s : Local} {fs : FileSystem} {config : Config}
    {pattern : Regex.Pattern} {files : List File} (absent : Absent fs config.outputDir)
    (uncanonical : fs.canonical? config.outputDir = none)
    (current : fs.tree.isFolder fs.current = true)
    (ground : ∀ text, IsAtOrAbove config.outputDir text → fs.locate? text ≠ none →
      fs.isFolder text = true)
    (real : config.dryRun = false) (plain : config.pathPattern = none ∧ config.pathFormat = none)
    (named : config.pattern ≠ "") (compiled : Regex.Pattern.compile config.pattern = .ok pattern)
    (found : (search s.client fs config.folderId pattern config.searchLimits).result = .ok files) :
    ∃ report, (fetch s.client fs config).result = .ok report ∧
      report.planned.map (·.file) = files ∧ report.found = files.length ∧
      report.downloaded = files.countP (Fetch.saves fs config.outputDir) ∧
      report.downloaded + report.errors = report.found ∧
      Fetch.ExactCopy s fs config.outputDir files (fetch s.client fs config).state := by
  obtain ⟨apart, traced⟩ := Local.search_apart Fetch.begins_startId found
  obtain ⟨report, done, planned, count, downloaded, errors, ended⟩ :=
    Fetch.fetch_of_search uncanonical real plain named compiled found
  obtain ⟨saved, all, copy⟩ := @Fetch.exactCopy_downloadAll s fs config.outputDir files
    (plan none files).length 1 absent current ground apart traced
  refine ⟨report, done, planned, count, downloaded.trans saved, ?_, ended ▸ copy⟩
  rw [downloaded, errors, count]
  exact all

/-! ## A name that is too long -/

set_option maxRecDepth 100000 in
theorem Fetch.search_sample :
    ∃ pattern, Regex.Pattern.compile "a" = .ok pattern ∧
      (search (Local.client ⟨"/s"⟩) sample none pattern {}).result =
        .ok [⟨"o/a", "a", "o/a", 2⟩] := by
  have found : match Regex.Pattern.compile "a" with
      | .ok pattern => (search (Local.client ⟨"/s"⟩) sample none pattern {}).result =
          .ok [⟨"o/a", "a", "o/a", 2⟩]
      | .error _ => False := by
    cbv
  split at found
  · next pattern compiled => exact ⟨pattern, compiled, found⟩
  · exact found.elim

/-- In a file system without links, a name that leads nowhere can be an output directory. -/
theorem Fetch.sample_absent {name : String} (named : PathText.IsName name)
    (nowhere : ∀ at_, ¬sample.Leads name at_) :
    Absent sample name ∧ sample.canonical? name = none ∧
      ∀ text, IsAtOrAbove name text → sample.locate? text ≠ none →
        sample.isFolder text = true := by
  have absent : sample.locate? name = none := Option.eq_none_iff_forall_ne_some.2
    fun at_ located => nowhere at_ (locate?_eq_some_iff_leads.1 located).1
  have uncanonical : sample.canonical? name = none := Option.eq_none_iff_forall_ne_some.2
    fun at_ target => nowhere at_ (canonical?_eq_some.1 target).1
  refine ⟨⟨named.ne_empty, ?_, absent, fun _ _ at_ target _ found => ?_⟩, uncanonical,
    fun text above some_ => ?_⟩
  · rw [named.parts_eq]
    exact List.forall_mem_singleton.2 named.falls
  · exact absurd (Tree.shape?_eq_link.2 found) (sample_linkFree at_ target)
  · rcases above with rfl | ⟨rest, rfl⟩
    · exact absurd absent some_
    · exact absurd named.slashFree (by simp)

/-- The file is saved in a new folder. -/
theorem found_files_mirrored_sample :
    let config : Config := { pattern := "a", outputDir := "t" }
    let files : List File := [⟨"o/a", "a", "o/a", 2⟩]
    (∃ pattern, Absent Fetch.sample config.outputDir ∧
      Fetch.sample.canonical? config.outputDir = none ∧
      Fetch.sample.tree.isFolder Fetch.sample.current = true ∧
      (∀ text, IsAtOrAbove config.outputDir text → Fetch.sample.locate? text ≠ none →
        Fetch.sample.isFolder text = true) ∧
      config.dryRun = false ∧ config.pathPattern = none ∧ config.pathFormat = none ∧
      Regex.Pattern.compile config.pattern = .ok pattern ∧
      (search (Local.client ⟨"/s"⟩) Fetch.sample config.folderId pattern
        config.searchLimits).result = .ok files) ∧
    ∃ report, (fetch (Local.client ⟨"/s"⟩) Fetch.sample config).result = .ok report ∧
      report.downloaded = 1 ∧ report.errors = 0 ∧
      Fetch.ExactCopy ⟨"/s"⟩ Fetch.sample config.outputDir files
        (fetch (Local.client ⟨"/s"⟩) Fetch.sample config).state := by
  intro config files
  obtain ⟨pattern, compiled, found⟩ := Fetch.search_sample
  have named : PathText.IsName config.outputDir := ⟨by decide, by decide, by decide⟩
  have nowhere : ∀ at_, ¬Fetch.sample.Leads config.outputDir at_ := by
    intro at_ leads
    have none_ : Fetch.sample.locate? "t" = none := by cbv
    cases none_.symm.trans (locate?_eq_some_iff_leads.2 ⟨leads, by decide⟩)
  obtain ⟨absent, uncanonical, ground⟩ := Fetch.sample_absent named nowhere
  have current : Fetch.sample.tree.isFolder Fetch.sample.current = true := by decide
  refine ⟨⟨pattern, absent, uncanonical, current, ground, rfl, rfl, rfl, compiled, found⟩,
    ?_⟩
  obtain ⟨report, done, _, count, downloaded, all, copy⟩ :=
    @found_files_mirrored ⟨"/s"⟩ Fetch.sample config pattern files absent uncanonical
      current ground
      rfl ⟨rfl, rfl⟩ (by decide) compiled found
  have saves : files.countP (Fetch.saves Fetch.sample config.outputDir) = 1 := by cbv
  have one : report.downloaded = 1 := downloaded.trans saves
  have both : report.downloaded + report.errors = 1 := all.trans count
  refine ⟨report, done, one, ?_, copy⟩
  omega

/-- A name with one byte more than the operating system allows. -/
def Fetch.longName : String := String.ofList (List.replicate 256 'x')

theorem Fetch.longName_isName : PathText.IsName longName := by
  have chars : longName.toList = List.replicate 256 'x' := String.toList_ofList
  refine ⟨?_, by decide +kernel, by decide +kernel⟩
  rw [chars]
  intro present
  exact absurd (List.eq_of_mem_replicate present) (by decide)

theorem Fetch.longName_long : sample.limits.nameBytes < longName.utf8ByteSize := by
  have size : longName.utf8ByteSize = 256 := by decide +kernel
  rw [size]
  decide

theorem Fetch.longName_nowhere (at_ : Location) : ¬sample.Leads longName at_ := by
  rintro ⟨-, -, followed⟩
  rw [longName_isName.parts_eq] at followed
  rcases follow_short followed longName (List.mem_singleton_self _) with idle | up | short
  · simp [longName_isName.stays] at idle
  · simp [longName_isName.falls] at up
  · exact absurd longName_long (Nat.not_lt.2 short)

/-- The file is not saved in a folder with such a name, and counts as an error. -/
theorem long_path_not_saved :
    let config : Config := { pattern := "a", outputDir := Fetch.longName }
    ∃ pattern files report, Absent Fetch.sample config.outputDir ∧
      Fetch.sample.canonical? config.outputDir = none ∧
      Fetch.sample.tree.isFolder Fetch.sample.current = true ∧
      (∀ text, IsAtOrAbove config.outputDir text → Fetch.sample.locate? text ≠ none →
        Fetch.sample.isFolder text = true) ∧
      config.dryRun = false ∧ config.pathPattern = none ∧ config.pathFormat = none ∧
      Regex.Pattern.compile config.pattern = .ok pattern ∧
      (search (Local.client ⟨"/s"⟩) Fetch.sample config.folderId pattern
        config.searchLimits).result = .ok files ∧
      (fetch (Local.client ⟨"/s"⟩) Fetch.sample config).result = .ok report ∧
      report.errors = 1 ∧ report.downloaded = 0 ∧ report.found = 1 := by
  intro config
  obtain ⟨pattern, compiled, found⟩ := Fetch.search_sample
  obtain ⟨absent, uncanonical, ground⟩ :=
    Fetch.sample_absent Fetch.longName_isName Fetch.longName_nowhere
  have current : Fetch.sample.tree.isFolder Fetch.sample.current = true := by decide
  obtain ⟨apart, traced⟩ :=
    @Local.search_apart ⟨"/s"⟩ Fetch.sample "" pattern {} none _ rfl found
  obtain ⟨report, done, _, count, downloaded, errors, _⟩ :=
    @Fetch.fetch_of_search ⟨"/s"⟩ Fetch.sample _ config pattern uncanonical rfl ⟨rfl, rfl⟩
      (by decide) compiled found
  obtain ⟨saved, all, _⟩ :=
    @Fetch.exactCopy_downloadAll ⟨"/s"⟩ Fetch.sample config.outputDir _
    _ 1 absent current ground apart traced
  have none_ : [(⟨"o/a", "a", "o/a", 2⟩ : File)].countP
    (Fetch.saves Fetch.sample config.outputDir) =
      0 := by
    refine List.countP_eq_zero.2 fun f present => ?_
    have inside : Fetch.longName ∈ leading (PathText.stem Fetch.longName) := by
      rw [Fetch.longName_isName.stem_eq, leading_cons_of_moves _ Fetch.longName_isName.stays]
      exact List.mem_cons_self ..
    have found_ := traced f present
    have unfit : Fetch.saves Fetch.sample Fetch.longName f = false :=
      not_fits_of_long inside Fetch.longName_long (Fetch.isName_of_traced found_) found_.some_
    simpa using unfit
  refine ⟨pattern, _, report, absent, uncanonical, current, ground, rfl, rfl, rfl, compiled,
    found, done, ?_, ?_,
    count⟩
  · rw [none_] at saved
    rw [saved, Nat.zero_add] at all
    exact errors.trans all
  · exact downloaded.trans (saved.trans none_)

end TreeFetch
