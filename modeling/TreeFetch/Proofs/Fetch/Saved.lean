import TreeFetch.Proofs.Fetch.Integrity
import TreeFetch.Proofs.Fetch.Stages
import TreeFetch.Proofs.Storage.Fresh

/-!
# Downloads that stay

A run that counts no errors has downloaded every file of its plan. If its output directory did not
exist before, the files that it reads are none of those that it writes. What it has saved at a path
stays there, unless a later file of the plan is saved at the same path: downloads overwrite.

Results:
1. `Fetch.allSaved_iff`: a run counts no errors exactly if every download succeeds.
2. `Fetch.AllSaved.holds`: every path holds the bytes of the last file that is saved there.
3. `saved_files_hold`: the same for a run.
4. `first_of_two_lost`: of two files with one path, the first one is lost without an error.
-/

namespace TreeFetch

open FileSystem Storage

variable {σ : Type} {client : Client σ} {state : σ} {config : Config}

namespace Fetch

/-! ## Runs without errors -/

variable {outputDir path : String} {total index : Nat} {p : Planned} {made : List Planned}

/-- All files of a plan are saved one after the other, the first one in the state `before`. The last
one leaves the state `after`. -/
inductive AllSaved (client : Client σ) (outputDir : String) : (made : List Planned) →
    (before after : σ) → Prop
  | nil {state : σ} : AllSaved client outputDir [] state state
  | cons {p : Planned} {rest : List Planned} {path : String} {before after : σ} :
      savedAt? outputDir p = some path →
        (client.download before p.file path).1.result = .ok () →
      AllSaved client outputDir rest (client.download before p.file path).2 after →
      AllSaved client outputDir (p :: rest) before after

/-- The downloads of a plan are counted as no error exactly if every file is saved. -/
theorem allSaved_iff :
    (Report.ofPlan false made).errors +
      (downloadAll client outputDir total index made state).errors =
        0 ↔
      AllSaved client outputDir made state
        (downloadAll client outputDir total index made state).state := by
  induction made generalizing index state with
  | nil => exact ⟨fun _ => .nil, fun _ => rfl⟩
  | cons p rest ih =>
    let first := downloadOne client outputDir total index p state
    have errors : (Report.ofPlan false (p :: rest)).errors +
        (downloadAll client outputDir total index (p :: rest) state).errors =
          errorsFor p first + ((Report.ofPlan false rest).errors +
            (downloadAll client outputDir total (index + 1) rest first.state).errors) := by
      rw [errors_ofPlan_cons, errorsFor]
      simp only [first, downloadAll_cons, Downloads.after]
      omega
    have last : (downloadAll client outputDir total index (p :: rest) state).state =
      (downloadAll client outputDir total (index + 1) rest first.state).state := rfl
    rw [errors, last, Nat.add_eq_zero_iff, ih]
    constructor
    · rintro ⟨clean, others⟩
      cases saved : savedAt? outputDir p with
      | none =>
        have one : errorsFor p first = 1 := errorsFor_of_none saved
        omega
      | some path =>
        have next : first.state = (client.download state p.file path).2 :=
          (downloadOne_of_some saved).1
        rw [next] at others ⊢
        exact .cons saved ((errorsFor_of_some saved).1 clean) others
    · intro all
      cases all with
      | @cons _ _ path _ _ saved succeeds others =>
        have next : first.state = (client.download state p.file path).2 :=
          (downloadOne_of_some saved).1
        rw [next] at others ⊢
        exact ⟨(errorsFor_of_some saved).2 succeeds, others⟩

/-- A run with downloads that counts no errors has saved every file of its plan. -/
theorem allSaved_of_report {report : Report} (real : config.dryRun = false)
    (done : (fetch client state config).result = .ok report) (clean : report.errors = 0) :
    AllSaved client config.outputDir report.planned state (fetch client state config).state := by
  obtain ⟨ready, files, found⟩ := findings_of_report done
  obtain ⟨reported, ended⟩ := fetch_of_findings real found
  obtain rfl := Except.ok.inj (reported.symm.trans done)
  rw [ended]
  exact allSaved_iff.1 clean

/-! ## Files that stay -/

section

variable {s : Local} {fs before after : FileSystem} {there at_ : Location} {name : String}
  {names : List String}

def Kept (fs after : FileSystem) : Prop :=
  ∀ at_ node, fs.tree.leaf? at_ = some node → after.tree.leaf? at_ = some node

theorem segments_of_savedAt? (h : savedAt? outputDir p = some path) :
    ∃ segments, PathText.segments? p.destination = some segments ∧ segments ≠ [] ∧
      (∀ n ∈ segments, PathText.IsName n) ∧ path = PathText.pushAll outputDir segments := by
  obtain ⟨segments, cut, some_, rfl⟩ := destination_eq_ok.1 (destination_of_savedAt? h)
  exact ⟨segments, cut, some_, PathText.isName_of_segments? cut, rfl⟩

/-- Where a planned file is saved lies below a free name, and other files are saved elsewhere. -/
def SavedElsewhere (outputDir : String) (there : Location) (name : String) (names : List String)
    (at_ : Location) (p : Planned) : Prop :=
  ∀ path segments, savedAt? outputDir p = some path →
    PathText.segments? p.destination = some segments →
    at_ ≠ Location.down (.text name :: there) (names ++ segments)

theorem extends_download (saved : savedAt? outputDir p = some path) :
    Extends before (s.client.download before p.file path).2 :=
  extends_of_steps (Local.download_steps (destination_of_savedAt? saved))

theorem AllSaved.extension (h : AllSaved s.client outputDir made before after) :
    Extends before after := by
  induction h with
  | nil => exact .refl _
  | cons saved _ _ ih => exact (extends_download saved).trans ih

theorem AllSaved.leaves (m : Missing fs outputDir there name names)
    (h : AllSaved s.client outputDir made before after) (e : Extends fs before)
    (elsewhere : ∀ p ∈ made, SavedElsewhere outputDir there name names at_ p) :
    after.tree.leaf? at_ = before.tree.leaf? at_ := by
  induction h with
  | nil => rfl
  | @cons p rest path before after saved succeeds others ih =>
    obtain ⟨segments, cut, some_, named, rfl⟩ := segments_of_savedAt? saved
    have same := ih (e.trans (extends_download saved)) fun q present =>
      elsewhere q (List.mem_cons_of_mem _ present)
    refine same.trans (m.download_leaves e named some_ ?_)
    exact elsewhere p (List.mem_cons_self ..) _ _ saved cut

theorem kept_download (m : Missing fs outputDir there name names) (e : Extends fs before)
    (kept : Kept fs before) (saved : savedAt? outputDir p = some path) :
    Kept fs (s.client.download before p.file path).2 := by
  intro at_ node there_
  obtain ⟨segments, cut, some_, named, rfl⟩ := segments_of_savedAt? saved
  rw [← kept at_ node there_]
  refine m.download_leaves e named some_ ?_
  rintro rfl
  exact m.not_below (Tree.leaf?_eq_some.1 there_).1 (Location.suffix_down _ _)

theorem readFile_of_leaf? {bytes : ByteArray} {time : Time}
    (leads : fs.resolve path = .ok (.entry at_))
    (leaf : fs.tree.leaf? at_ = some (.file bytes time)) : fs.readFile path = .ok bytes := by
  have found := stat_eq_ok.2 ⟨leads, (Tree.leaf?_eq_some.1 leaf).1⟩
  rw [readFile, found]

/-- The path at which a file is saved holds the bytes of the file at the end, if no later file is
saved there. -/
theorem AllSaved.holds (m : Missing fs outputDir there name names)
    (h : AllSaved s.client outputDir made before after) (e : Extends fs before)
    (kept : Kept fs before) (files : AllFiles s fs made) {first rest : List Planned}
    (split : made = first ++ p :: rest)
    (last : ∀ q ∈ rest, destination outputDir q.destination ≠
      destination outputDir p.destination) :
    ∃ path bytes, destination outputDir p.destination = .ok path ∧
      s.bytes? fs p.file.id = some bytes ∧
      after.readFile path = .ok bytes := by
  induction h generalizing first with
  | nil => simp at split
  | @cons q others path before after saved succeeds later ih =>
    have next : Extends fs (s.client.download before q.file path).2 :=
      e.trans (extends_download saved)
    cases first with
    | cons head first =>
      obtain ⟨rfl, others⟩ := List.cons.inj split
      exact ih next (kept_download m e kept saved)
        (fun p present => files p (List.mem_cons_of_mem _ present)) others
    | nil =>
      obtain ⟨rfl, rfl⟩ := List.cons.inj split
      obtain ⟨origin, held, source⟩ := files q (List.mem_cons_self ..)
      obtain ⟨segments, cut, some_, named, rfl⟩ := segments_of_savedAt? saved
      obtain ⟨_, _, leaf⟩ := source.isLeaf
      obtain ⟨leads, bytes, time, original, written⟩ :=
        m.download_saved e named some_ source ((kept held _ leaf).trans leaf.symm) succeeds
      -- a later file that is saved at the same location is saved at the same path
      have elsewhere : ∀ p ∈ others, SavedElsewhere outputDir there name names
          (Location.down (.text name :: there) (names ++ segments)) p := by
        intro p present path segments' saved' cut' same
        obtain rfl := List.append_cancel_left (Location.down_inj.1 same)
        obtain ⟨_, cut'', _, _, rfl⟩ := segments_of_savedAt? saved'
        obtain rfl := Option.some.inj (cut'.symm.trans cut'')
        exact last p present
          ((destination_of_savedAt? saved').trans (destination_of_savedAt? saved).symm)
      have same := later.leaves m next elsewhere
      exact ⟨_, bytes, destination_of_savedAt? saved, original,
        readFile_of_leaf? (later.extension.resolve leads) (same.trans written)⟩

theorem AllSaved.eq_nil_of_stuck (stuck : Stuck fs outputDir)
    (h : AllSaved s.client outputDir made fs after) : made = [] := by
  cases h with
  | nil => rfl
  | cons saved succeeds _ =>
    obtain ⟨segments, cut, some_, named, rfl⟩ := segments_of_savedAt? saved
    exact absurd succeeds (stuck.download_fails named some_)

/-- An output directory in which something is saved can be used as a path. -/
theorem AllSaved.usable (h : AllSaved s.client outputDir made before after) (some_ : made ≠ [])
    (filled : outputDir ≠ "") : before.checkText outputDir = .ok () := by
  cases h with
  | nil => exact absurd rfl some_
  | @cons p _ _ _ _ saved succeeds _ =>
    obtain ⟨segments, _, nonempty, named, rfl⟩ := segments_of_savedAt? saved
    have effect : Local.Effect s p.file.id (PathText.pushAll outputDir segments) before _ _ :=
      Local.download_cases (PathText.back_pushAll outputDir named nonempty)
    have done : (s.download before p.file.id (PathText.pushAll outputDir segments)).1.result =
        .ok () :=
      succeeds
    rw [done] at effect
    cases effect with
    | saved extension _ _ _ leads _ =>
      have whole := (extension.checkText _).symm.trans (resolve_eq_ok.1 leads).1
      obtain ⟨more, same⟩ := pushAll_eq_append outputDir segments
      exact checkText_of_append filled (same ▸ whole)

end

end Fetch

/-- After a run without errors, of which the output directory did not exist before, the path at
which a file is saved holds the bytes that the file had before the run, unless a later file of the
plan is saved there. -/
theorem saved_files_hold {s : Local} {fs : FileSystem} {config : Config} {report : Report}
    (absent : Absent fs config.outputDir) (real : config.dryRun = false)
    (done : (fetch s.client fs config).result = .ok report) (clean : report.errors = 0)
    {first rest : List Planned} {p : Planned} (split : report.planned = first ++ p :: rest)
    (last : ∀ q ∈ rest, destination config.outputDir q.destination ≠
      destination config.outputDir p.destination) :
    ∃ path bytes, destination config.outputDir p.destination = .ok path ∧
      s.bytes? fs p.file.id = some bytes ∧
      (fetch s.client fs config).state.readFile path = .ok bytes := by
  have all := Fetch.allSaved_of_report real done clean
  have some_ : report.planned ≠ [] := by simp [split]
  rcases absent.missing_or_stuck (all.usable some_ absent.filled) with
    ⟨there, name, names, missing⟩ | stuck
  · exact all.holds missing (.refl fs) (fun _ _ same => same)
      (Fetch.allFiles_planned done) split last
  · exact absurd (all.eq_nil_of_stuck stuck) some_

/-! ## Two files that are saved at one path -/

/-- The folder `/s` with two folders that hold one file each, of the same name. -/
def Fetch.twins : FileSystem where
  tree := FileSystem.Tree.empty |>.add [.text "s"] (.folder 0)
    |>.add [.text "o", .text "s"] (.folder 1)
    |>.add [.text "a", .text "o", .text "s"] (.file ⟨#[7]⟩ 2)
    |>.add [.text "p", .text "s"] (.folder 3)
    |>.add [.text "a", .text "p", .text "s"] (.file ⟨#[8]⟩ 4)

/-- Every file is saved under its name only. -/
def Fetch.twinsConfig : Config :=
  { pattern := "a", pathPattern := some "(?P<_>a)", pathFormat := some "${_}", outputDir := "/t" }

/-- The pattern for paths when its group has been opened. -/
def Fetch.namedOpened : Regex.Parser where
  reader := ⟨['a', ')'], false⟩
  groups := 1
  names := ["_"]
  stack := [.group [] (.capture 1 (some "_")) false]

def Fetch.namedPattern : Regex.Pattern where
  source := "(?P<_>a)"
  named := [(1, "_")]
  groups := 1
  program := ⟨#[.accept, .save 3 0, .char 'a' 1, .save 2 2], 3⟩

theorem Fetch.compile_named : Regex.Pattern.compile "(?P<_>a)" = .ok namedPattern := by
  have chars : "(?P<_>a)".toList = ['(', '?', 'P', '<', '_', '>', 'a', ')'] := by decide
  have opens : Regex.Parser.step
      { reader := ⟨['(', '?', 'P', '<', '_', '>', 'a', ')'], false⟩ } '('
      ['?', 'P', '<', '_', '>', 'a', ')'] = .ok namedOpened := rfl
  have parsed : Regex.parse "(?P<_>a)" =
      .ok (.group (.capture 1 (some "_")) (.atom (.literal ⟨'a', false⟩))) := by
    rw [Regex.parse, chars, Regex.parseFrom]
    simp only [Regex.Reader.skip, Bool.false_eq_true, if_false, opens]
    rw [if_pos (by decide)]
    cbv
  rw [Regex.Pattern.compile, parsed]
  cbv

/-- The two files that are found, the newer one first. -/
def Fetch.twinsFiles : List File := [⟨"p/a", "a", "p/a", 4⟩, ⟨"o/a", "a", "o/a", 2⟩]

def Fetch.newer : Planned := ⟨⟨"p/a", "a", "p/a", 4⟩, "a", .transformed⟩

def Fetch.older : Planned := ⟨⟨"o/a", "a", "o/a", 2⟩, "a", .transformed⟩

set_option maxRecDepth 100000 in
theorem Fetch.search_twins :
    ∃ simple, Regex.Pattern.compile "a" = .ok simple ∧
      (search (Local.client ⟨"/s"⟩) twins none simple {}).result = .ok twinsFiles := by
  have found : match Regex.Pattern.compile "a" with
      | .ok simple =>
        (search (Local.client ⟨"/s"⟩) twins none simple {}).result = .ok twinsFiles
      | .error _ => False := by
    cbv
  split at found
  · next simple compiled => exact ⟨simple, compiled, found⟩
  · exact found.elim

theorem Fetch.findings_twins :
    ∃ simple, findings (Local.client ⟨"/s"⟩) twins twinsConfig =
      .ok (⟨simple, some ⟨namedPattern, "${_}"⟩⟩, twinsFiles) := by
  obtain ⟨simple, compiled, found⟩ := search_twins
  refine ⟨simple, ?_⟩
  have created : Transformer.create "(?P<_>a)" "${_}" = .ok ⟨namedPattern, "${_}"⟩ := by
    rw [Transformer.create, compile_named]
    cbv
  have prepared : prepare twinsConfig = .ok ⟨simple, some ⟨namedPattern, "${_}"⟩⟩ := by
    have fits : twinsConfig.problem? = none := by decide
    have given : twinsConfig.pathTransform = some ("(?P<_>a)", "${_}") := rfl
    have pattern : twinsConfig.pattern = "a" := rfl
    simp only [prepare, fits, given, pattern, compiled, created, Except.mapError, bind, Except.bind]
    rfl
  have nowhere : (Local.client ⟨"/s"⟩).folderIdAt twins twinsConfig.outputDir = none := by cbv
  rw [findings, prepared]
  simp only [nowhere, Fetch.limits]
  have same : (search (Local.client ⟨"/s"⟩) twins twinsConfig.folderId simple
    twinsConfig.searchLimits).result = .ok twinsFiles := found
  rw [same]

set_option maxRecDepth 100000 in
theorem Fetch.plan_twins : plan (some ⟨namedPattern, "${_}"⟩) twinsFiles = [newer, older] := by
  cbv

set_option maxRecDepth 100000 in
theorem Fetch.downloads_twins :
    (downloadAll (Local.client ⟨"/s"⟩) "/t" 2 1 [newer, older] twins).errors = 0 ∧
      (downloadAll (Local.client ⟨"/s"⟩) "/t" 2 1 [newer, older] twins).state.readFile "/t/a" =
        .ok ⟨#[7]⟩ := by
  cbv

theorem Fetch.report_twins :
    ∃ report, (fetch (Local.client ⟨"/s"⟩) twins twinsConfig).result = .ok report ∧
      report.errors = 0 ∧ report.planned = [newer, older] ∧
      (fetch (Local.client ⟨"/s"⟩) twins twinsConfig).state.readFile "/t/a" =
        .ok ⟨#[7]⟩ := by
  obtain ⟨simple, found⟩ := findings_twins
  obtain ⟨reported, ended⟩ := fetch_of_findings rfl found
  simp only [plan_twins] at reported ended
  refine ⟨_, reported, ?_, rfl, ?_⟩
  · show 0 + (downloadAll (Local.client ⟨"/s"⟩) "/t" 2 1 [newer, older] twins).errors = 0
    rw [downloads_twins.1]
  · rw [ended]
    exact downloads_twins.2

theorem Fetch.absent_twins : Absent twins "/t" := by
  have linkFree : ∀ place target, twins.tree.shape? place ≠ some (.link target) :=
    fun place target =>
    Tree.linkFree_add (Tree.linkFree_add (Tree.linkFree_add (Tree.linkFree_add (Tree.linkFree_add
      Tree.linkFree_empty (Node.folder_ne_link 0)) (Node.folder_ne_link 1))
      (Node.file_ne_link ⟨#[7]⟩ 2))
      (Node.folder_ne_link 3)) (Node.file_ne_link ⟨#[8]⟩ 4) place target
  refine ⟨by decide, by decide, by cbv, fun _ _ at_ target _ found => ?_⟩
  exact absurd (Tree.shape?_eq_link.2 found) (linkFree at_ target)

/-- The file that is saved last keeps its bytes. -/
theorem last_of_two_kept :
    ∃ report, (fetch (Local.client ⟨"/s"⟩) Fetch.twins Fetch.twinsConfig).result =
      .ok report ∧
      report.errors = 0 ∧ report.planned = [Fetch.newer, Fetch.older] ∧
      ∃ path bytes, destination "/t" Fetch.older.destination = .ok path ∧
        Local.bytes? ⟨"/s"⟩ Fetch.twins Fetch.older.file.id = some bytes ∧
        (fetch (Local.client ⟨"/s"⟩) Fetch.twins Fetch.twinsConfig).state.readFile path =
          .ok bytes := by
  obtain ⟨report, done, clean, planned, _⟩ := Fetch.report_twins
  have split : report.planned = [Fetch.newer] ++ Fetch.older :: [] := planned
  exact ⟨report, done, clean, planned,
    saved_files_hold Fetch.absent_twins rfl done clean split (List.forall_mem_nil _)⟩

/-- The other file is lost, although the run counts no errors. -/
theorem first_of_two_lost :
    ∃ report p, Absent Fetch.twins "/t" ∧
      (fetch (Local.client ⟨"/s"⟩) Fetch.twins Fetch.twinsConfig).result = .ok report ∧
      report.errors = 0 ∧ p ∈ report.planned ∧ destination "/t" p.destination = .ok "/t/a" ∧
      Local.bytes? ⟨"/s"⟩ Fetch.twins p.file.id = some ⟨#[8]⟩ ∧
      (fetch (Local.client ⟨"/s"⟩) Fetch.twins Fetch.twinsConfig).state.readFile "/t/a" =
        .ok ⟨#[7]⟩ := by
  obtain ⟨report, done, clean, planned, holds⟩ := Fetch.report_twins
  have found : Fetch.newer ∈ report.planned := by simp [planned]
  exact ⟨report, _, Fetch.absent_twins, done, clean, found, by cbv, by cbv, holds⟩

end TreeFetch
