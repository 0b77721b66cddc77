import TreeFetch.Proofs.Fetch.Repetition
import TreeFetch.Proofs.Storage.Barren
import TreeFetch.Proofs.Storage.Unchanged

/-!
# Runs that plan the same

A run that makes a folder renews the time of the folder around it, and so the order in which the
next run comes to the folders of the storage. That time is not seen if the output directory was
there before, or if the first folder that is made lies straight in the storage root or outside the
storage. Then two runs plan the same, the second one right after the first, also if they stop as
soon as they have found enough files.

Results:
1. `Hollow.barren`: a walk finds nothing in the output directory, nor on the way to it.
2. `Unseen.tracks`: listings before and after a run differ only in what a walk finds nothing in.
3. `planned_again`: two runs from the storage root that make the same plan.
-/

namespace TreeFetch

open FileSystem Storage PathText Search

namespace Fetch

variable {s : Local} {fs after : FileSystem} {config : Config} {outputDir : String}
  {root top out there : Location} {names : List String} {name : String}
    {limits limits' : Storage.Limits}
  {pattern : Regex.Pattern} {spot : Location → Bool} {id : String}
    {entries : List Entry} {e : Entry}

/-! ## On the way to the output directory -/

/-- The output directory leads into `top`, and outside the output directory there is neither a file
nor a link in `top`. -/
structure Hollow (fs : FileSystem) (outputDir : String) (top : Location) : Prop where
  holds : ∀ out, fs.Leads outputDir out → top <:+ out
  leaves : ∀ at_, top <:+ at_ →
    (∀ out, fs.directory? outputDir = some out → ¬out <:+ at_) →
    fs.tree.leaf? at_ = none

theorem leads_of_directory (filled : outputDir ≠ "")
    (denotes : fs.directory? outputDir = some out) : fs.Leads outputDir out :=
  (locate?_eq_some_iff_leads.1 (locate?_eq_some.2 ((directory?_eq_some filled).1 denotes).1)).1

theorem Hollow.of_directory (filled : outputDir ≠ "")
    (denotes : fs.directory? outputDir = some out) : Hollow fs outputDir out where
  holds out' leads := by rw [leads.unique (leads_of_directory filled denotes)]
  leaves at_ below outside := absurd below (outside out denotes)

theorem Hollow.of_missing (m : Missing fs outputDir there name names) (e : Extends fs after)
    (changes : ChangesBelow outputDir fs after) :
    Hollow after outputDir (.text name :: there) where
  holds out leads := by
    obtain ⟨located, _⟩ := m.location_of_follow e leads.followed
    rw [show out = _ from located]
    exact Location.suffix_down _ _
  leaves at_ below outside := by
    rw [changes.leaves at_ outside, Tree.leaf?, m.node?_below below]
    rfl

/-- A folder among the entries of a folder lies straight in it. -/
theorem leadsToFolder_of_entry (leads : s.LeadsToFolder fs id names (root.down names))
    (listed : (s.list fs id).result = .ok entries) (present : e ∈ entries) (down : e.Descends) :
    e.id = ofSegments (names ++ [e.name]) ∧
      s.LeadsToFolder fs e.id (names ++ [e.name]) (root.down (names ++ [e.name])) := by
  rw [Location.down_concat]
  exact ⟨(Local.mem_list leads listed present).1,
    Local.leads_of_listed leads listed present down.kind⟩

/-- The id of a folder in `top` that does not lie below the output directory. -/
def OnTheWay (s : Local) (fs : FileSystem) (outputDir : String) (root top : Location)
    (id : String) : Prop :=
  ∃ names, id = ofSegments names ∧ s.LeadsToFolder fs id names (root.down names) ∧
    top <:+ root.down names ∧
    ∀ out, fs.directory? outputDir = some out → out <:+ root.down names →
      out = root.down names

/-- An entry in `top`, of a folder that does not lie in the output directory, is not kept, and does
not lie below the output directory either. -/
theorem Hollow.entry (hollow : Hollow fs outputDir top) (filled : outputDir ≠ "")
    (leads : s.LeadsToFolder fs id names (root.down names))
    (outside : ∀ out, fs.directory? outputDir = some out → ¬out <:+ root.down names)
    (listed : (s.list fs id).result = .ok entries) (present : e ∈ entries)
    (below : top <:+ .text e.name :: root.down names) :
    ¬e.Matches pattern ∧ (e.Descends → OnTheWay s fs outputDir root top e.id) := by
  have only : ∀ out, fs.directory? outputDir = some out →
      out <:+ .text e.name :: root.down names → out = .text e.name :: root.down names := by
    intro out denotes inside
    exact (List.suffix_cons_iff.1 inside).resolve_right (outside out denotes)
  refine ⟨fun kept => ?_, fun down => ?_⟩
  · obtain ⟨_, _, shows_⟩ := Local.mem_list leads listed present
    rw [kept.kind] at shows_
    obtain ⟨node, leaf⟩ := shows_.leaf leads
    have elsewhere : ∀ out, fs.directory? outputDir = some out →
        ¬out <:+ .text e.name :: root.down names := by
      intro out denotes inside
      have folder := ((directory?_eq_some filled).1 denotes).2
      rw [only out denotes inside, Tree.isFolder_of_leaf? leaf] at folder
      cases folder
    cases leaf.symm.trans (hollow.leaves _ below elsewhere)
  · obtain ⟨sameId, inner⟩ := leadsToFolder_of_entry leads listed present down
    rw [← Location.down_concat] at below only
    exact ⟨_, sameId, inner, below, only⟩

/-- An output directory in the storage has an id. -/
def Known (s : Local) (fs : FileSystem) (config : Config) (root : Location) : Prop :=
  ∀ out, fs.directory? config.outputDir = some out → root <:+ out →
    s.folderIdAt fs config.outputDir ≠ none

theorem Known.before (known : Known s after config root) (e : Extends fs after)
    (filled : config.outputDir ≠ "") (rootAt : fs.locate? s.root = some root) :
    Known s fs config root := by
  intro out denotes inside unknown
  have denotes' := e.directory? denotes
  have left := leftOut?_of_directory filled denotes' (known out denotes' inside)
  have old := leftOut?_before e rootAt left denotes
  simp [leftOut?, unknown] at old

/-- A walk finds nothing in the output directory, nor in a folder on the way to it. -/
theorem Hollow.barren (hollow : Hollow fs config.outputDir top) (filled : config.outputDir ≠ "")
    (rootAt : fs.locate? s.root = some root) (known : Known s fs config root)
    (excludes : ∀ id, id ∈ limits.excluded ↔ s.folderIdAt fs config.outputDir = some id)
    (leads : s.LeadsToFolder fs id names (root.down names)) (outer : ¬top <:+ root.down names)
    (listed : (s.list fs id).result = .ok entries) (present : e ∈ entries)
    (below : top <:+ .text e.name :: root.down names) :
    Barren s.client fs pattern limits e := by
  have outside : ∀ out, fs.directory? config.outputDir = some out → ¬out <:+ root.down names :=
    fun out denotes inside =>
      outer ((hollow.holds out (leads_of_directory filled denotes)).trans inside)
  obtain ⟨unkept, way⟩ := hollow.entry filled leads outside listed present below
  have holds : ∀ id entries, OnTheWay s fs config.outputDir root top id →
    id ∉ limits.excluded →
      (s.client.list fs id).result = .ok entries →
      ∀ e ∈ entries, ¬e.Matches pattern ∧
        (e.Descends → OnTheWay s fs config.outputDir root top e.id) := by
    rintro _ entries ⟨names, rfl, leads, within, only⟩ included listed e present
    refine hollow.entry filled leads (fun out denotes inside => ?_) listed present
      (within.trans (List.suffix_cons _ _))
    obtain rfl := only out denotes inside
    have left := leftOut?_of_directory filled denotes (known _ denotes (Location.suffix_down _ _))
    exact included ((excluded_iff rootAt excludes leads.folder).2 left)
  exact ⟨unkept, fun down levels depth path found => visitFolder_nothing holds (way down)⟩

/-! ## Outside of it -/

/-- What changes between two states of a file system is not seen by a search: it lies in `top`, or
it is the time of a folder that is in no listing. -/
structure Unseen (fs after : FileSystem) (outputDir : String) (root top : Location)
    (spot : Location → Bool) : Prop where
  extension : Extends fs after
  same : after.tree.except spot = fs.tree.except spot
  covers : ∀ place, top <:+ place → spot place = true
  unlisted : ∀ place, spot place = true →
    top <:+ place ∨ fs.tree.isFolder place = true ∧ (root <:+ place → place = root)
  before : Hollow fs outputDir top
  later : Hollow after outputDir top

/-- The id of a folder of the storage that does not lie in `top`. -/
def Outer (s : Local) (fs : FileSystem) (root top : Location) (id : String) : Prop :=
  ∃ names, id = ofSegments names ∧ s.LeadsToFolder fs id names (root.down names) ∧
    ¬top <:+ root.down names

/-- The paths of the storage lead to the files to which they led before, and to none in the output
directory, but for those in the output directory. -/
def LeadsBack (s : Local) (fs after : FileSystem) (outputDir : String) (root : Location) : Prop :=
  ∀ names place, names ≠ [] → (∀ n ∈ names, IsName n) →
    (∀ out, after.directory? outputDir = some out → ¬out <:+ root.down names) →
    after.locate? (pushAll s.root names) = some place → after.tree.isFolder place = false →
    fs.locate? (pushAll s.root names) = some place ∧
      ∀ out, after.directory? outputDir = some out → ¬out <:+ place

theorem Unseen.spot_down_iff (unseen : Unseen fs after outputDir root top spot) (name : String)
    (names : List String) :
    spot (.text name :: root.down names) = true ↔ top <:+ .text name :: root.down names := by
  refine ⟨fun here => ?_, unseen.covers _⟩
  rcases unseen.unlisted _ here with inside | ⟨_, only⟩
  · exact inside
  · have above : root <:+ .text name :: root.down names :=
      (Location.suffix_down root names).trans (List.suffix_cons _ _)
    have long := congrArg List.length (only above)
    rw [List.length_cons, Location.down_eq, List.length_append] at long
    omega

theorem Unseen.leadsAlike (unseen : Unseen fs after outputDir root top spot)
    (filled : outputDir ≠ "") (back : LeadsBack s fs after outputDir root)
    (folder : fs.tree.isFolder (root.down names) = true) :
    s.LeadsAlike fs after spot names (root.down names) := by
  intro name place named elsewhere located shut
  have outer : ¬top <:+ .text name :: root.down names := by
    rw [← unseen.spot_down_iff, elsewhere]
    exact Bool.false_ne_true
  have all : ∀ n ∈ names ++ [name], IsName n :=
    List.forall_mem_append.2 ⟨Local.isName_of_down (Tree.solid_of_isFolder folder),
      List.forall_mem_singleton.2 named⟩
  have outside : ∀ out, after.directory? outputDir = some out →
      ¬out <:+ root.down (names ++ [name]) := by
    intro out denotes inside
    rw [Location.down_concat] at inside
    exact outer ((unseen.later.holds out (leads_of_directory filled denotes)).trans inside)
  obtain ⟨old, apart⟩ := back _ place (by simp) all outside located shut
  refine ⟨old, Bool.eq_false_iff.2 fun here => ?_⟩
  rcases unseen.unlisted place here with inside | ⟨kind, _⟩
  · obtain ⟨node, there, _⟩ := solid_of_resolve (locate?_eq_some.1 located)
    have nothing := unseen.later.leaves place inside apart
    have leaf := Tree.leaf?_eq_some.2 ⟨there, by simpa [Tree.isFolder, there] using shut⟩
    cases nothing.symm.trans leaf
  · cases shut.symm.trans (isFolder_kept unseen.extension.kept kind)

/-- Listings before and after differ only in what a walk finds nothing in. -/
theorem Unseen.tracks (unseen : Unseen fs after config.outputDir root top spot)
    (filled : config.outputDir ≠ "") (rootAt : fs.locate? s.root = some root)
    (known : Known s after config root) (back : LeadsBack s fs after config.outputDir root)
    (excludes : ∀ id, id ∈ limits.excluded ↔ s.folderIdAt fs config.outputDir = some id)
    (excludes' : ∀ id, id ∈ limits'.excluded ↔ s.folderIdAt after config.outputDir = some id)
    (depth : limits'.maxDepth = limits.maxDepth)
    (results : limits'.maxResults = limits.maxResults) :
    Tracks s.client fs s.client after pattern limits limits' (Outer s fs root top) where
  depth := depth
  results := results
  excluded := by
    rintro _ ⟨names, rfl, leads, outer⟩
    have leads' := leads.extend unseen.extension
    have rootAt' := unseen.extension.locate? rootAt
    rw [excluded_iff rootAt excludes leads.folder, excluded_iff rootAt' excludes' leads'.folder]
    refine iff_of_false (fun left => ?_) (fun left => ?_)
    · obtain ⟨_, _, _, outAt, _⟩ := leftOut?_eq_some.1 left
      exact outer (unseen.later.holds _ (canonical?_eq_some.1 outAt).1)
    · obtain ⟨_, _, _, outAt, _⟩ := leftOut?_eq_some.1 left
      exact outer (unseen.before.holds _ (canonical?_eq_some.1 outAt).1)
  entries := by
    rintro _ entries entries' ⟨names, rfl, leads, outer⟩ listed listed'
    have leads' := leads.extend unseen.extension
    have rootAt' := unseen.extension.locate? rootAt
    have below : ∀ {e : Entry}, (!spot (.text e.name :: root.down names)) = false →
        top <:+ .text e.name :: root.down names := by
      intro e here
      exact (unseen.spot_down_iff e.name names).1 (by simpa using here)
    refine ⟨fun e => !spot (.text e.name :: root.down names),
      Local.list_except unseen.extension unseen.same leads
      (unseen.leadsAlike filled back leads.folder) listed
        listed', fun e present here => ?_, fun e present here =>
          ?_, fun e present kept down => ?_⟩
    · have knownBefore := known.before unseen.extension filled rootAt
      exact unseen.before.barren filled rootAt knownBefore excludes leads outer listed
        present (below here)
    · exact unseen.later.barren filled rootAt' known excludes' leads' outer listed'
        present (below here)
    · obtain ⟨sameId, inner⟩ := leadsToFolder_of_entry leads listed present down
      refine ⟨_, sameId, inner, ?_⟩
      rw [Location.down_concat, ← unseen.spot_down_iff]
      simpa using kept

/-! ## Two runs -/

/-- The output directory is there already, without a link in it, and does not hold the storage root;
or the folder that holds the first missing name on its path is in no listing of the storage. -/
inductive Sheltered (fs : FileSystem) (outputDir : String) (root : Location) : Prop
  | old {out : Location} :
      fs.directory? outputDir = some out → Unlinked fs.tree out → ¬out <:+ root →
      Sheltered fs outputDir root
  | new {there : Location} {name : String} {names : List String} :
      Missing fs outputDir there name names → (root <:+ there → there = root) →
      Sheltered fs outputDir root

theorem Sheltered.unseen (sheltered : Sheltered fs outputDir root) (filled : outputDir ≠ "")
    (folder : fs.tree.isFolder root = true)
    (steps : Relation.ReflTransGen (Writes outputDir) fs after) :
    ∃ top spot, Unseen fs after outputDir root top spot ∧ ¬top <:+ root := by
  have e := extends_of_steps steps
  cases sheltered with
  | @old out denotes unlinked outer =>
    exact ⟨out, out.isSuffixOf,
      { extension := e
        same := except_of_steps steps filled denotes unlinked
        covers := fun place below => List.isSuffixOf_iff_suffix.2 below
        unlisted := fun place here => .inl (List.isSuffixOf_iff_suffix.1 here)
        before := .of_directory filled denotes
        later := .of_directory filled (e.directory? denotes) }, outer⟩
  | @new there name names m unlisted =>
    have changes : ChangesBelow outputDir fs after := by
      refine changesBelow_of_steps steps fun dir denotes => ?_
      obtain ⟨located, _⟩ :=
        m.location e (List.forall_mem_nil _) ((directory?_eq_some filled).1 denotes).1
      rw [show dir = _ from located]
      exact (m.unlinked (.refl fs)).inside (Location.suffix_down _ _)
    refine ⟨.text name :: there, atOrAround there name,
      { extension := e
        same := m.except_of_steps steps
        covers := fun place below => ?_
        unlisted := fun place here => ?_
        before := .of_missing m (.refl fs) (.refl outputDir fs)
        later := .of_missing m e changes }, fun below => ?_⟩
    · simp [atOrAround, List.isSuffixOf_iff_suffix.2 below]
    · simp only [atOrAround, Bool.or_eq_true, List.isSuffixOf_iff_suffix,
        decide_eq_true_eq] at here
      rcases here with inside | rfl
      · exact .inl inside
      · exact .inr ⟨m.looks.folder, unlisted⟩
    · obtain ⟨t, found⟩ := Tree.isFolder_iff_node?.1 folder
      exact m.not_below found below

theorem leadsBack_of_unlinked (rootAt : fs.directory? s.root = some root)
    (unlinked : Unlinked fs.tree root)
    (changes : ChangesBelow outputDir fs after) : LeadsBack s fs after outputDir root := by
  intro names place some_ named outside located shut
  obtain ⟨usable, followed⟩ := resolve_eq_ok.1 (locate?_eq_some.1 located)
  obtain ⟨dir, left, denotes, down⟩ := follow_pushAll named some_ usable followed
  obtain rfl : dir = root :=
    Option.some.inj (denotes.symm.trans (changes.extension.directory? rootAt))
  have straight : place = dir.down names := by
    rcases follow_names named (changes.extension.unlinked unlinked) down with same |
      ⟨_, _, _, free⟩
    · exact Place.entry.inj same
    · cases free
  subst straight
  refine ⟨changes.extension.locate?_returned named some_ rootAt unlinked ?_ located, outside⟩
  obtain ⟨node, there, solid⟩ := solid_of_resolve (locate?_eq_some.1 located)
  have leaf := Tree.leaf?_eq_some.2 ⟨there, by simpa [Tree.isFolder, there] using shut⟩
  rw [changes.leaves _ outside] at leaf
  exact ⟨node, (Tree.leaf?_eq_some.1 leaf).1, solid⟩

/-- Two runs from the storage root, one right after the other, plan the same, whatever their limits,
if what the first one saves is not seen by the second one. -/
theorem planned_again {s : Local} {fs : FileSystem} {config : Config} {first second : Report}
    {root : Location} (whole : config.folderId = none) (filled : config.outputDir ≠ "")
    (rootAt : s.LeadsToFolder fs "" [] root) (sheltered : Sheltered fs config.outputDir root)
    (known : Known s (fetch s.client fs config).state config root)
    (back : LeadsBack s fs (fetch s.client fs config).state config.outputDir root)
    (done : (fetch s.client fs config).result = .ok first)
    (again : (fetch s.client (fetch s.client fs config).state config).result = .ok second) :
    second.planned = first.planned := by
  obtain ⟨top, spot, unseen, outer⟩ :=
    sheltered.unseen filled rootAt.folder (fetch_steps s fs config)
  generalize (fetch s.client fs config).state = after at known back again unseen
  obtain ⟨ready, limits, files, searched, planned⟩ := searched_of_report done
  obtain ⟨ready', limits', files', searched', planned'⟩ := searched_of_report again
  obtain rfl : ready' = ready := Except.ok.inj (searched'.prepared.symm.trans searched.prepared)
  obtain ⟨noted, limited⟩ := searched.limited
  obtain ⟨noted', limited'⟩ := searched'.limited
  obtain ⟨others, excludes⟩ := limits_eq_ok limited
  obtain ⟨others', excludes'⟩ := limits_eq_ok limited'
  have alike : limits'.unexcluded = limits.unexcluded := others'.trans others.symm
  have begins : ∀ state, Begins s.client state config.folderId "" := by
    intro state
    rw [whole]
    rfl
  have depth := congrArg Storage.Limits.maxDepth alike
  have results := congrArg Storage.Limits.maxResults alike
  have tracks : Tracks s.client fs s.client after ready'.pattern limits limits'
      (Outer s fs root top) :=
    unseen.tracks filled (locate?_eq_some.2 rootAt.leads)
      known back excludes excludes' depth results
  have same : files' = files :=
    search_tracks tracks (begins fs) (begins after) ⟨[], rfl, rootAt, outer⟩
      searched.found searched'.found
  rw [planned, planned', same]

end Fetch

open Fetch

/-- Two runs from the storage root, one right after the other. If neither of them reaches its limit
of results, they find the same files exactly if the first one found nothing in what the second one
leaves out, and if everything that the second one finds led to a file before; the former holds if
the output directory was there before, or nothing was in its place. If what the first one saves is
not seen by the second one, they plan the same, whatever their limits. -/
theorem repeated_runs {s : Local} {fs : FileSystem} {config : Config} {first second : Report}
    (whole : config.folderId = none)
    (done : (fetch s.client fs config).result = .ok first)
    (again : (fetch s.client (fetch s.client fs config).state config).result = .ok second) :
    let after := (fetch s.client fs config).state
    ((∀ most, config.maxResults = some most →
        first.planned.length < most ∧ second.planned.length < most) →
      ((∀ id, id ∈ first.ids ↔ id ∈ second.ids) ↔
        (∀ id ∈ first.ids, ∀ out, leftOut? s after config = some out →
          ¬s.LiesIn after out id) ∧
          ∀ id ∈ second.ids, s.place? fs id ≠ none) ∧
      ((∀ out, leftOut? s after config = some out →
          fs.directory? config.outputDir = some out ∨ fs.tree.node? out = none) →
        ∀ id ∈ first.ids, ∀ out, leftOut? s after config = some out →
        ¬s.LiesIn after out id)) ∧
    ∀ root, config.outputDir ≠ "" → s.LeadsToFolder fs "" [] root →
      Sheltered fs config.outputDir root → Known s after config root →
      LeadsBack s fs after config.outputDir root → second.planned = first.planned :=
  ⟨found_alike_iff whole done again, fun _ filled rootAt sheltered known back =>
    planned_again whole filled rootAt sheltered known back done again⟩

/-! ## A search that is cut short -/

namespace Fetch

/-- The output directory will lie straight in the storage root, and one file is enough. -/
def shelfRootConfig : Config := { shelfConfig with outputDir := "/s/o" }

def shelfRootMade : FileSystem := shelf.create [.text "s"] (.text "o") (.folder 2)

def shelfRootAfter : FileSystem :=
  shelfRootMade.create [.text "o", .text "s"] (.text "f") (.file .empty 3)
    |>.overwrite [.text "f", .text "o", .text "s"] .empty
    |>.overwrite [.text "f", .text "o", .text "s"] .empty

set_option maxRecDepth 100000 in
theorem shelfRoot_runs :
    Runs ⟨"/s"⟩ shelf shelfRootConfig [.text "s"] [⟨"f", "f", "f", 1⟩] shelfRootAfter
      [⟨"f", "f", "f", 1⟩] [.text "o", .text "s"] := by
  have finds : FindsPlain ⟨"/s"⟩ shelf shelfRootConfig [⟨"f", "f", "f", 1⟩] := by
    cbv
  have made : Local.makeParents shelf "/s/o/f" = (.ok (), shelfRootMade) := by
    cbv
  have copied : shelfRootMade.copyFile "/s/f" "/s/o/f" = .ok shelfRootAfter := by
    cbv
  exact
    { located := by cbv
      finds
      leaves := state_of_single rfl finds (by cbv) (Local.download_copies (by cbv) made copied).2
      finds_again := by cbv
      output := by cbv }

theorem shelfRoot_sheltered : Sheltered shelf shelfRootConfig.outputDir [.text "s"] := by
  have missing : Missing shelf "/s/o" [.text "s"] "o" [] :=
    { reached := ⟨["", "s"], [], shelf.limits.links, by cbv, rfl, by cbv⟩
      falls := by decide
      looks := ⟨by cbv, by decide, by decide, by decide⟩
      free := by cbv }
  exact .new missing fun _ => rfl

theorem shelfRoot_known :
    Known ⟨"/s"⟩ (fetch (Local.client ⟨"/s"⟩) shelf shelfRootConfig).state
    shelfRootConfig [.text "s"] := by
  intro out _ _
  rw [shelfRoot_runs.leaves]
  have known : Local.folderIdAt ⟨"/s"⟩ shelfRootAfter "/s/o" = some "o" := by cbv
  rw [show shelfRootConfig.outputDir = "/s/o" from rfl, known]
  exact Option.some_ne_none "o"

theorem shelfRoot_back : LeadsBack ⟨"/s"⟩ shelf
    (fetch (Local.client ⟨"/s"⟩) shelf shelfRootConfig).state shelfRootConfig.outputDir
    [.text "s"] := by
  have unlinked : ∀ at_, Unlinked shelf.tree at_ := fun _ place target _ =>
    shelf_linkFree place target
  have located : shelf.directory? (Local.root ⟨"/s"⟩) = some [.text "s"] := by cbv
  exact leadsBack_of_unlinked located (unlinked [.text "s"])
    (changesBelow_of_steps (fetch_steps ⟨"/s"⟩ shelf shelfRootConfig) fun dir _ => unlinked dir)

end Fetch

/-- A file is saved below the storage root, and the second run finds it only where the first one
did. On the shelf the folder that is made is the newest one, but it is left out, and one file is
enough. -/
theorem repeated_runs_alike :
    (let after := (fetch (Local.client ⟨"/s"⟩) sample besideConfig).state
      ∃ first second, (fetch (Local.client ⟨"/s"⟩) sample besideConfig).result = .ok first ∧
        (fetch (Local.client ⟨"/s"⟩) after besideConfig).result = .ok second ∧
        OutputInside ⟨"/s"⟩ sample after besideConfig.outputDir ∧
        (∀ id ∈ first.ids, ∀ out, leftOut? ⟨"/s"⟩ after besideConfig = some out →
          ¬Local.LiesIn ⟨"/s"⟩ after out id) ∧
        ∀ id, id ∈ first.ids ↔ id ∈ second.ids) ∧
    let after := (fetch (Local.client ⟨"/s"⟩) shelf shelfRootConfig).state
    ∃ first second, (fetch (Local.client ⟨"/s"⟩) shelf shelfRootConfig).result = .ok first ∧
      (fetch (Local.client ⟨"/s"⟩) after shelfRootConfig).result = .ok second ∧
      first.ids = ["f"] ∧ second.planned = first.planned := by
  constructor
  · intro after
    obtain ⟨first, second, done, again, found, foundAgain⟩ := beside_runs.reports rfl
    have output := beside_runs.outputInside (by decide) ⟨[.text "p"], rfl⟩ sample_linkFree
    obtain ⟨alike, apart⟩ := (repeated_runs rfl done again).1 nofun
    have outside := apart beside_fresh
    refine ⟨first, second, done, again, output, outside,
      alike.2 ⟨outside, fun id present => ?_⟩⟩
    rw [foundAgain, ← found] at present
    exact placed_of_report done present
  · intro after
    obtain ⟨first, second, done, again, found, _⟩ := shelfRoot_runs.reports rfl
    have begins : Local.LeadsToFolder ⟨"/s"⟩ shelf "" [] [.text "s"] :=
      ⟨by decide, by cbv, by cbv⟩
    exact ⟨first, second, done, again, found, (repeated_runs rfl done again).2 [.text "s"]
      (by decide) begins shelfRoot_sheltered shelfRoot_known shelfRoot_back⟩

end TreeFetch
