import TreeFetch.Proofs.Fetch.Exclusion
import TreeFetch.Proofs.Fetch.Containment
import TreeFetch.Proofs.Fetch.Stages
import TreeFetch.Proofs.FileSystem.Missing
import TreeFetch.Proofs.Storage.Contents

/-!
# Runs one after the other

A run changes the storage that the next one searches, if it saves files in it. What was kept outside
the output directory is kept again, and of what was there before nothing else is.

Results:
1. `Fetch.found_iff`: what a run from the storage root finds.
2. `Fetch.Finds.again` and `Fetch.Finds.before`: what is found before and after changes in the
   output directory.
3. `Fetch.found_again` and `found_alike_iff`: the files that two runs find, one right after the
   other.
-/

namespace TreeFetch

open FileSystem Storage PathText Search

namespace Storage.Local

variable {s : Local} {fs after : FileSystem} {id base : String} {segments names : List String}
  {at_ root : Location} {name : String} {kind : Kind} {pattern : Regex.Pattern}
  {limits limits' : Limits}

/-! ## Names in a folder -/

theorem Shows.extend (h : s.Shows fs segments at_ name kind) (e : Extends fs after) :
    s.Shows after segments at_ name kind := by
  obtain ⟨⟨node, child, direct⟩, place, target, found, isFolder⟩ := h
  obtain ⟨node', child', sameChild⟩ := Option.map_eq_some_iff.1
    (e.kept _ _ (Tree.shape?_of_node? child))
  obtain ⟨target', found', sameTarget⟩ := e.stat found
  refine ⟨⟨node', child', fun folder => ?_⟩, place, target', found', ?_⟩
  · rw [← Node.shape_eq_folder, sameChild, Node.shape_eq_folder]
    exact direct folder
  · rw [← Node.shape_eq_folder, sameTarget, Node.shape_eq_folder]
    exact isFolder

theorem Shows.leaf (h : s.Shows fs segments at_ name .file)
    (leads : s.LeadsToFolder fs id segments at_) :
    ∃ node, fs.tree.leaf? (.text name :: at_) = some node := by
  obtain ⟨⟨node, child, _⟩, place, target, found, isFolder⟩ := h
  refine ⟨node, Tree.leaf?_eq_some.2 ⟨child, ?_⟩⟩
  rw [← Bool.not_eq_true]
  intro folder
  have noLink : ∀ text, node ≠ .link text := by
    rintro text rfl
    cases folder
  rw [pushAll_concat] at found
  have named := isName_of_isValid (Tree.isValid_of_node? child)
  obtain rfl := leads.child named child noLink found
  obtain rfl := Option.some.inj (child.symm.trans (stat_eq_ok.1 found).2)
  cases isFolder.2 folder

/-- A path that leads anywhere goes through a name in the folder before its last part. -/
theorem child_of_located {place : Location} (named : IsName name)
    (located : fs.locate? (pushAll s.root (segments ++ [name])) = some place)
    (held : ∀ dir, fs.directory? (pushAll s.root segments) = some dir → dir = at_) :
    ∃ node, fs.tree.node? (.text name :: at_) = some node := by
  rw [pushAll_concat] at located
  obtain ⟨usable, followed⟩ := FileSystem.resolve_eq_ok.1 (locate?_eq_some.1 located)
  obtain ⟨dir, left, denotes, leads⟩ := follow_pushAll (List.forall_mem_singleton.2 named)
    (List.cons_ne_nil name []) usable followed
  obtain rfl := held dir denotes
  have folder := isFolder_of_follow (List.cons_ne_nil name []) leads
  refine Option.ne_none_iff_exists'.1 fun free => ?_
  rw [follow_eq, descend] at leads
  by_cases fits : name.utf8ByteSize ≤ fs.limits.nameBytes
  · simp [folder, named.stays, named.falls, Nat.not_lt.2 fits, free] at leads
  · simp [folder, named.stays, named.falls, Nat.lt_of_not_le fits] at leads

/-- A name that shows a file did so before, if its path led anywhere. -/
theorem Shows.returned (h : s.Shows after segments at_ name .file) (e : Extends fs after)
    (leads : s.LeadsToFolder after id segments at_)
    (led : fs.locate? (pushAll s.root (segments ++ [name])) ≠ none) :
    s.Shows fs segments at_ name .file := by
  obtain ⟨place, located⟩ := Option.ne_none_iff_exists'.1 led
  have resolved := locate?_eq_some.1 located
  obtain ⟨target, there, _⟩ := solid_of_resolve resolved
  have found := stat_eq_ok.2 ⟨resolved, there⟩
  obtain ⟨node', child', _⟩ := h.child
  have named := isName_of_isValid (Tree.isValid_of_node? child')
  obtain ⟨node, child⟩ := child_of_located named located
    fun dir denotes => Option.some.inj ((e.directory? denotes).symm.trans
      (directory?_of_resolve leads.leads leads.folder))
  refine ⟨⟨node, child, nofun⟩, place, target, found, ?_⟩
  obtain ⟨target', found', same⟩ := e.stat found
  obtain ⟨_, place', other, foundAfter, isFolder⟩ := h
  obtain ⟨_, rfl⟩ := Prod.mk.inj (Except.ok.inj (foundAfter.symm.trans found'))
  rw [isFolder, ← Node.shape_eq_folder, same, Node.shape_eq_folder]

end Storage.Local

def Report.ids (r : Report) : List String := r.planned.map (·.file.id)

namespace Fetch

variable {s : Local} {fs : FileSystem} {config : Config} {report : Report} {names : List String}
  {root : Location} {limits : Storage.Limits}

/-! ## What a run finds -/

/-- The location that the search of a run leaves out: that of the output directory, if it has an
id. -/
def leftOut? (s : Local) (fs : FileSystem) (config : Config) : Option Location :=
  (s.folderIdAt fs config.outputDir).bind fun _ => fs.canonical? config.outputDir

theorem leftOut?_eq_some {out : Location} :
    leftOut? s fs config = some out ↔ ∃ root names, fs.canonical? s.root = some root ∧
      fs.canonical? config.outputDir = some out ∧ out = root.down names := by
  simp only [leftOut?, Option.bind_eq_some_iff, Local.folderIdAt_eq_some]
  constructor
  · rintro ⟨_, ⟨root, names, rootAt, outAt', _⟩, outAt⟩
    exact ⟨root, names, rootAt, outAt, Option.some.inj (outAt.symm.trans outAt')⟩
  · rintro ⟨root, names, rootAt, outAt, rfl⟩
    exact ⟨_, ⟨root, names, rootAt, outAt, rfl⟩, outAt⟩

theorem leftOut?_of_directory {out : Location} (filled : config.outputDir ≠ "")
    (denotes : fs.directory? config.outputDir = some out)
    (known : s.folderIdAt fs config.outputDir ≠ none) : leftOut? s fs config = some out := by
  obtain ⟨id, outputId⟩ := Option.ne_none_iff_exists'.1 known
  obtain ⟨root, names, rootAt, outAt, _⟩ := Local.folderIdAt_eq_some.1 outputId
  have located := locate?_eq_some.2 ((directory?_eq_some filled).1 denotes).1
  obtain rfl := canonical?_eq_locate? outAt located
  exact leftOut?_eq_some.2 ⟨root, names, rootAt, outAt, rfl⟩

theorem leftOut?_extend {after : FileSystem} {out : Location} (e : Extends fs after)
    (left : leftOut? s fs config = some out) : leftOut? s after config = some out := by
  obtain ⟨root, names, rootAt, outAt, inside⟩ := leftOut?_eq_some.1 left
  exact leftOut?_eq_some.2 ⟨root, names, e.canonical? rootAt, e.canonical? outAt, inside⟩

theorem leftOut?_before {after : FileSystem} {out : Location} (e : Extends fs after)
    (rootAt : fs.locate? s.root = some root)
    (later : leftOut? s after config = some out)
    (old : fs.directory? config.outputDir = some out) : leftOut? s fs config = some out := by
  obtain ⟨root', names, rootAt', outAt', inside⟩ := leftOut?_eq_some.1 later
  have filled : config.outputDir ≠ "" := (canonical?_eq_some.1 outAt').1.filled
  have outAt := locate?_eq_some.2 ((directory?_eq_some filled).1 old).1
  refine leftOut?_eq_some.2 ⟨root', names, ?_, ?_, inside⟩
  · exact (e.canonical?_iff (locate?_eq_some_iff_leads.1 rootAt).1).1 rootAt'
  · exact (e.canonical?_iff (locate?_eq_some_iff_leads.1 outAt).1).1 outAt'

/-- A run that begins at the storage root finds a file, or a link to a file, with a name in the
folder to which names lead from the root. -/
structure Finds (s : Local) (fs : FileSystem) (config : Config) (pattern : Regex.Pattern)
    (root : Location) (names : List String) (name : String) : Prop where
  folder : fs.tree.isFolder (root.down names) = true
  shown : ∀ n ∈ names ++ [name], n.startsWith "." = false
  shallow : ∀ most, config.maxDepth = some most → names.length ≤ most
  outside : ∀ out, leftOut? s fs config = some out → ¬out <:+ root.down names
  shows_ : s.Shows fs names (root.down names) name .file
  named : pattern.matches name = true

/-- The id of a folder in the storage is excluded if it is the output directory. -/
theorem excluded_iff (rootAt : fs.locate? s.root = some root)
    (excludes : ∀ id, id ∈ limits.excluded ↔ s.folderIdAt fs config.outputDir = some id)
    (folder : fs.tree.isFolder (root.down names) = true) :
    ofSegments names ∈ limits.excluded ↔ leftOut? s fs config = some (root.down names) := by
  have named := Local.isName_of_down (Tree.solid_of_isFolder folder)
  rw [excludes, Local.folderIdAt_eq_some, leftOut?_eq_some]
  constructor
  · rintro ⟨root', between, rootAt', outAt, same⟩
    obtain rfl := canonical?_eq_locate? rootAt' rootAt
    have inner := Local.isName_of_down (solid_of_canonical? outAt)
    obtain rfl := (ofSegments_inj named inner).1 same
    exact ⟨root', names, rootAt', outAt, rfl⟩
  · rintro ⟨root', between, rootAt', outAt, same⟩
    obtain rfl := canonical?_eq_locate? rootAt' rootAt
    exact ⟨root', names, rootAt', outAt, rfl⟩

theorem included_iff (rootAt : fs.locate? s.root = some root)
    (excludes : ∀ id, id ∈ limits.excluded ↔ s.folderIdAt fs config.outputDir = some id)
    (folder : fs.tree.isFolder (root.down names) = true) :
    (∀ init, init <+: names → Local.idBelow "" [] init ∉ limits.excluded) ↔
      ∀ out, leftOut? s fs config = some out → ¬out <:+ root.down names := by
  have passed : ∀ init, init <+: names → fs.tree.isFolder (root.down init) = true := by
    rintro init ⟨more, rfl⟩
    rw [Location.down_append] at folder
    exact isFolder_of_down folder
  constructor
  · intro included out left below
    obtain ⟨root', between, rootAt', _, inner⟩ := leftOut?_eq_some.1 left
    obtain rfl := canonical?_eq_locate? rootAt' rootAt
    have inside : root' <:+ out := inner ▸ Location.suffix_down root' between
    obtain ⟨init, short, rfl⟩ := Location.exists_down_of_suffix inside below
    have excluded := (excluded_iff rootAt excludes (passed init short)).2 left
    exact included init short (Local.idBelow_root init ▸ excluded)
  · intro outside init short excluded
    rw [Local.idBelow_root, excluded_iff rootAt excludes (passed init short)] at excluded
    refine outside _ excluded ?_
    obtain ⟨more, rfl⟩ := short
    rw [Location.down_append]
    exact Location.suffix_down _ more

theorem finds_iff_keeps {pattern : Regex.Pattern} {name : String}
    (rootAt : fs.locate? s.root = some root)
    (excludes : ∀ id, id ∈ limits.excluded ↔ s.folderIdAt fs config.outputDir = some id)
    (depth : limits.maxDepth = config.maxDepth) :
    Finds s fs config pattern root names name ↔
    s.Keeps fs pattern limits "" [] root names name := by
  constructor
  · rintro ⟨folder, shown, shallow, outside, shows_, named⟩
    refine ⟨⟨folder, fun n present => shown n (List.mem_append_left _ present),
      depth ▸ shallow, ?_⟩,
      shows_, shown name (by simp), named⟩
    exact (included_iff rootAt excludes folder).2 outside
  · rintro ⟨⟨folder, above, shallow, included⟩, shows_, shown, named⟩
    refine ⟨folder, fun n present => ?_, depth ▸ shallow,
      (included_iff rootAt excludes folder).1 included, shows_, named⟩
    rcases List.mem_append.1 present with inside | here
    · exact above n inside
    · rw [List.mem_singleton.1 here]
      exact shown

theorem mem_ids_iff {files : List File} {transformer : Option Transformer} {id : String}
    (planned : report.planned = plan transformer files) :
    id ∈ report.ids ↔ ∃ f ∈ files, f.id = id := by
  rw [← exists_mem_plan fun f => f.id = id, ← planned]
  exact List.mem_map

/-- A plan with room for more was made of files with room for more. -/
theorem not_isFull_of_planned {files : List File} {transformer : Option Transformer}
    (planned : report.planned = plan transformer files)
    (most : limits.maxResults = config.maxResults)
    (room : ∀ most, config.maxResults = some most → report.planned.length < most) :
    isFull limits files.length = false := by
  rw [isFull, most]
  cases limit : config.maxResults with
  | none => rfl
  | some most =>
    have less := room most limit
    rw [planned, plan, List.length_map] at less
    simpa using less

/-- What a run from the storage root finds that does not reach its limit of results. -/
theorem found_iff (whole : config.folderId = none)
    (done : (fetch s.client fs config).result = .ok report)
    (room : ∀ most, config.maxResults = some most → report.planned.length < most) :
    ∃ root pattern, fs.locate? s.root = some root ∧
      Regex.Pattern.compile config.pattern = .ok pattern ∧
      (∀ names name, Finds s fs config pattern root names name →
        s.LeadsToFolder fs (ofSegments names) names (root.down names)) ∧
      ∀ id, id ∈ report.ids ↔
        ∃ names name, Finds s fs config pattern root names name ∧
          id = ofSegments (names ++ [name]) := by
  obtain ⟨ready, limits, files, searched, planned⟩ := searched_of_report done
  obtain ⟨noted, limited⟩ := searched.limited
  obtain ⟨others, excludes⟩ := limits_eq_ok limited
  have depth : limits.maxDepth = config.maxDepth := congrArg Storage.Limits.maxDepth others
  have full := not_isFull_of_planned planned (congrArg Storage.Limits.maxResults others) room
  have begins : Begins s.client fs config.folderId "" := by
    rw [whole]
    rfl
  have admitted : Admitted limits 0 "" :=
    ⟨fun _ _ => Nat.zero_le _, fun excluded => root_included limited ((excludes "").1 excluded)⟩
  obtain ⟨entries, opened⟩ := (search_iff begins searched.found full).1 0 "" .start admitted
  obtain ⟨segments, root, leads, _⟩ := Local.list_lists opened.listed
  obtain rfl : segments = [] := by
    have cut : segments? "" = some [] := by decide
    exact Option.some.inj (leads.cut.symm.trans cut)
  have rootAt : fs.locate? s.root = some root := locate?_eq_some.2 leads.leads
  obtain ⟨reaches, keeps⟩ := Local.search_keeps begins leads searched.found full
  refine ⟨root, ready.pattern, rootAt, compile_of_prepare searched.prepared,
    fun names name finds => ?_,
    fun id => ?_⟩
  · rw [← Local.idBelow_root]
    exact reaches names ((finds_iff_keeps rootAt excludes depth).1 finds).enters
  · simp only [mem_ids_iff planned, keeps, finds_iff_keeps rootAt excludes depth, List.nil_append]

/-! ## Two runs -/

section

variable {after : FileSystem} {pattern : Regex.Pattern} {name id : String} {first second : Report}

theorem Finds.cut (h : Finds s fs config pattern root names name) :
    segments? (ofSegments (names ++ [name])) = some (names ++ [name]) := by
  obtain ⟨node, child, _⟩ := h.shows_.child
  refine segments?_ofSegments fun n present => ?_
  rcases List.mem_append.1 present with above | here
  · exact Local.isName_of_down (Tree.solid_of_isFolder h.folder) n above
  · rw [List.mem_singleton.1 here]
    exact isName_of_isValid (Tree.isValid_of_node? child)

theorem Finds.placed (h : Finds s fs config pattern root names name) :
    s.place? fs (ofSegments (names ++ [name])) ≠ none := by
  obtain ⟨place, node, found, _⟩ := h.shows_.target
  rw [Local.place?, h.cut, Option.bind_some, locate?_eq_some.2 (stat_eq_ok.1 found).1]
  exact Option.some_ne_none place

/-- What is found lies in the folder to which its names lead. -/
theorem Finds.liesIn_iff {out : Location} (h : Finds s fs config pattern root names name)
    (leads : s.LeadsToFolder after (ofSegments names) names (root.down names)) :
    s.LiesIn after out (ofSegments (names ++ [name])) ↔ out <:+ root.down names := by
  have held : s.holder? after (ofSegments (names ++ [name])) = some (root.down names) := by
    rw [Local.holder?, h.cut, Option.bind_some, List.dropLast_concat]
    exact locate?_eq_some.2 leads.leads
  simp [Local.LiesIn, held]

/-- What is found outside of what is left out later is found again. -/
theorem Finds.again (h : Finds s fs config pattern root names name) (e : Extends fs after)
    (outside : ∀ out, leftOut? s after config = some out → ¬out <:+ root.down names) :
    Finds s after config pattern root names name where
  folder := isFolder_kept e.kept h.folder
  shown := h.shown
  shallow := h.shallow
  outside := outside
  shows_ := h.shows_.extend e
  named := h.named

/-- What is found later was found before, if it led anywhere then. -/
theorem Finds.before (h : Finds s after config pattern root names name) (e : Extends fs after)
    (leads : s.LeadsToFolder after (ofSegments names) names (root.down names))
    (kept : ∀ out, leftOut? s fs config = some out → leftOut? s after config = some out)
    (led : s.place? fs (ofSegments (names ++ [name])) ≠ none) :
    Finds s fs config pattern root names name := by
  rw [Local.place?, h.cut, Option.bind_some] at led
  have shows_ := h.shows_.returned e leads led
  obtain ⟨node, child, _⟩ := shows_.child
  exact ⟨Tree.isFolder_of_node? child, h.shown, h.shallow,
    fun out left => h.outside out (kept out left), shows_, h.named⟩

/-- Of what was there before, a second run finds what the first one found outside of what the second
one leaves out. -/
theorem found_again (whole : config.folderId = none)
    (done : (fetch s.client fs config).result = .ok first)
    (again : (fetch s.client (fetch s.client fs config).state config).result = .ok second)
    (room : ∀ most, config.maxResults = some most →
      first.planned.length < most ∧ second.planned.length < most) (id : String) :
    (id ∈ second.ids ∧ s.place? fs id ≠ none) ↔
      (id ∈ first.ids ∧ ∀ out,
        leftOut? s (fetch s.client fs config).state config = some out →
        ¬s.LiesIn (fetch s.client fs config).state out id) := by
  have e := extends_of_steps (fetch_steps s fs config)
  generalize (fetch s.client fs config).state = after at again e ⊢
  obtain ⟨root, pattern, rootAt, compiled, reaches, finds⟩ :=
    found_iff whole done fun most limit => (room most limit).1
  obtain ⟨root', pattern', rootAt', compiled', reaches', finds'⟩ :=
    found_iff whole again fun most limit => (room most limit).2
  obtain rfl : root' = root := Option.some.inj (rootAt'.symm.trans (e.locate? rootAt))
  obtain rfl : pattern' = pattern := Except.ok.inj (compiled'.symm.trans compiled)
  rw [finds, finds']
  constructor
  · rintro ⟨⟨names, name, found, rfl⟩, placed⟩
    have leads := reaches' names name found
    refine ⟨⟨names, name, found.before e leads (fun _ => leftOut?_extend e) placed, rfl⟩,
      fun out left => ?_⟩
    rw [found.liesIn_iff leads]
    exact found.outside out left
  · rintro ⟨⟨names, name, found, rfl⟩, outside⟩
    have leads := (reaches names name found).extend e
    refine ⟨⟨names, name, found.again e fun out left => ?_, rfl⟩, found.placed⟩
    rw [← found.liesIn_iff leads]
    exact outside out left

/-- A run that finds nothing beforehand in what is left out later: either the output directory was
there, or nothing was in its place. -/
theorem outside_of_fresh (whole : config.folderId = none)
    (done : (fetch s.client fs config).result = .ok first)
    (room : ∀ most, config.maxResults = some most → first.planned.length < most)
    (e : Extends fs after)
    (fresh : ∀ out, leftOut? s after config = some out →
      fs.directory? config.outputDir = some out ∨ fs.tree.node? out = none) :
    ∀ id ∈ first.ids, ∀ out, leftOut? s after config = some out →
      ¬s.LiesIn after out id := by
  obtain ⟨root, pattern, rootAt, compiled, reaches, finds⟩ := found_iff whole done room
  intro id present out left
  obtain ⟨names, name, found, rfl⟩ := (finds id).1 present
  rw [found.liesIn_iff ((reaches names name found).extend e)]
  rcases fresh out left with old | nothing
  · exact found.outside out (leftOut?_before e rootAt left old)
  · intro below
    obtain ⟨t, there⟩ := Tree.isFolder_iff_node?.1 found.folder
    cases there.symm.trans (Tree.node?_below_none nothing below)

theorem placed_of_report (done : (fetch s.client fs config).result = .ok report)
    (present : id ∈ report.ids) : s.place? fs id ≠ none := by
  obtain ⟨ready, limits, files, searched, planned⟩ := searched_of_report done
  have mem : ∃ p ∈ plan ready.transformer files, p.file.id = id :=
    planned ▸ List.mem_map.1 present
  obtain ⟨f, found, rfl⟩ := (exists_mem_plan fun f => f.id = id).1 mem
  obtain ⟨segments, place, leads⟩ :=
    Local.meets_file (search_sound begins_startId searched.found found)
  rw [leads.place?_eq]
  exact Option.some_ne_none place

end

end Fetch

/-- Two runs from the storage root, one right after the other, find the same files exactly if the
first one found nothing in what the second one leaves out, and if everything that the second one
finds led to a file before. The first run finds nothing there if the output directory was there
before, or nothing was in its place. Neither of the runs reaches its limit of results. -/
theorem Fetch.found_alike_iff {s : Local} {fs : FileSystem} {config : Config}
    {first second : Report} (whole : config.folderId = none)
    (done : (fetch s.client fs config).result = .ok first)
    (again : (fetch s.client (fetch s.client fs config).state config).result = .ok second)
    (room : ∀ most, config.maxResults = some most →
      first.planned.length < most ∧ second.planned.length < most) :
    let after := (fetch s.client fs config).state
    ((∀ id, id ∈ first.ids ↔ id ∈ second.ids) ↔
      (∀ id ∈ first.ids, ∀ out, leftOut? s after config = some out →
        ¬s.LiesIn after out id) ∧
        ∀ id ∈ second.ids, s.place? fs id ≠ none) ∧
    ((∀ out, leftOut? s after config = some out →
        fs.directory? config.outputDir = some out ∨ fs.tree.node? out = none) →
      ∀ id ∈ first.ids, ∀ out, leftOut? s after config = some out →
      ¬s.LiesIn after out id) := by
  intro after
  have kept := found_again whole done again room
  refine ⟨⟨fun same => ?_, ?_⟩, fun fresh => ?_⟩
  · have placed : ∀ id ∈ first.ids, s.place? fs id ≠ none := fun id present =>
      placed_of_report done present
    constructor
    · intro id present
      exact ((kept id).1 ⟨(same id).1 present, placed id present⟩).2
    · intro id present
      exact placed id ((same id).2 present)
  · rintro ⟨outside, placed⟩ id
    constructor
    · intro present
      exact ((kept id).2 ⟨present, outside id present⟩).1
    · intro present
      exact ((kept id).1 ⟨present, placed id present⟩).1
  · exact outside_of_fresh whole done (fun most limit => (room most limit).1)
      (extends_of_steps (fetch_steps s fs config)) fresh

/-! ## Runs without a transformer -/

namespace Fetch

/-- A run without a transformer finds `files`. -/
def FindsPlain (s : Local) (fs : FileSystem) (config : Config) (files : List File) : Prop :=
  (findings s.client fs config).map (fun found => (found.1.transformer, found.2)) =
    .ok (none, files)

/-- Two runs without a transformer, one right after the other: where the storage root lies, what the
first run finds and what it leaves, what the second one finds then, and where the output directory
lies. -/
structure Runs (s : Local) (fs : FileSystem) (config : Config) (root : Location) (first : List File)
    (after : FileSystem) (second : List File) (out : Location) : Prop where
  located : fs.locate? s.root = some root
  finds : FindsPlain s fs config first
  leaves : (fetch s.client fs config).state = after
  finds_again : FindsPlain s after config second
  output : after.directory? config.outputDir = some out

section

variable {s : Local} {fs after : FileSystem} {config : Config} {files first second : List File}
  {root out : Location}

/-- A run without a transformer reports the files that it finds, and downloads a plan that leaves
them where they are. -/
theorem fetch_of_plain (real : config.dryRun = false) (found : FindsPlain s fs config files) :
    (∃ report, (fetch s.client fs config).result = .ok report ∧
      report.ids = files.map (·.id)) ∧
      (fetch s.client fs config).state =
        (downloadAll s.client config.outputDir files.length 1 (plan none files) fs).state := by
  unfold FindsPlain at found
  cases finds : findings s.client fs config with
  | error failure =>
    rw [finds] at found
    cases found
  | ok result =>
    obtain ⟨ready, others⟩ := result
    rw [finds] at found
    obtain ⟨plain, rfl⟩ := Prod.mk.inj (Except.ok.inj found)
    obtain ⟨reports, state⟩ := fetch_of_findings real finds
    rw [plain] at reports state
    refine ⟨⟨_, reports, ?_⟩, state.trans ?_⟩
    · exact List.map_map
    · rw [plan, List.length_map]

/-- A run without a transformer that finds one file leaves what the download of the file leaves. -/
theorem state_of_single {f : File} {path : String} (real : config.dryRun = false)
    (found : FindsPlain s fs config [f])
    (aims : savedAt? config.outputDir (Planned.ofFile none f) = some path)
    (saved : (s.download fs f.id path).2 = after) : (fetch s.client fs config).state = after := by
  rw [(fetch_of_plain real found).2]
  exact (downloadOne_of_some aims).1.trans saved

theorem Runs.reports (runs : Runs s fs config root first after second out)
    (real : config.dryRun = false) :
    ∃ report report', (fetch s.client fs config).result = .ok report ∧
      (fetch s.client (fetch s.client fs config).state config).result = .ok report' ∧
      report.ids = first.map (·.id) ∧ report'.ids = second.map (·.id) := by
  obtain ⟨⟨report, done, found⟩, _⟩ := fetch_of_plain real runs.finds
  obtain ⟨⟨report', again, foundAgain⟩, _⟩ := fetch_of_plain real runs.finds_again
  rw [← runs.leaves] at again
  exact ⟨report, report', done, again, found, foundAgain⟩

/-- What the output directory denotes after a run lies in the storage, and holds no link. -/
structure OutputInside (s : Local) (fs after : FileSystem) (outputDir : String) : Prop where
  filled : outputDir ≠ ""
  inside : ∀ root out, fs.locate? s.root = some root → after.directory? outputDir = some out →
    root <:+ out
  unlinked : ∀ out, after.directory? outputDir = some out → Unlinked fs.tree out

theorem Runs.outputInside (runs : Runs s fs config root first after second out)
    (filled : config.outputDir ≠ "") (inside : root <:+ out)
    (linkFree : ∀ place target, fs.tree.shape? place ≠ some (.link target)) :
    OutputInside s fs (fetch s.client fs config).state config.outputDir where
  filled := filled
  inside root' out' rootAt outAt := by
    rw [runs.leaves, runs.output] at outAt
    obtain rfl := Option.some.inj outAt
    obtain rfl := Option.some.inj (runs.located.symm.trans rootAt)
    exact inside
  unlinked _ _ place target _ := linkFree place target

end

/-! ## A file that is found twice -/

/-- The output directory will lie beside the folder with the file. -/
def besideConfig : Config := { pattern := "a", outputDir := "/s/p" }

/-- The sample storage with the folders above the destination of its file. -/
def besideMade : FileSystem :=
  sample.create [.text "s"] (.text "p") (.folder 0)
    |>.create [.text "p", .text "s"] (.text "o") (.folder 1)

def besideAfter : FileSystem :=
  besideMade.create [.text "o", .text "p", .text "s"] (.text "a") (.file .empty 2)
    |>.overwrite [.text "a", .text "o", .text "p", .text "s"] .empty
    |>.overwrite [.text "a", .text "o", .text "p", .text "s"] ⟨#[7]⟩

set_option maxRecDepth 100000 in
theorem beside_runs :
    Runs ⟨"/s"⟩ sample besideConfig [.text "s"] [⟨"o/a", "a", "o/a", 2⟩] besideAfter
      [⟨"o/a", "a", "o/a", 2⟩] [.text "p", .text "s"] := by
  have finds : FindsPlain ⟨"/s"⟩ sample besideConfig [⟨"o/a", "a", "o/a", 2⟩] := by
    cbv
  have made : Local.makeParents sample "/s/p/o/a" = (.ok (), besideMade) := by
    cbv
  have copied : besideMade.copyFile "/s/o/a" "/s/p/o/a" = .ok besideAfter := by
    cbv
  exact
    { located := by cbv
      finds
      leaves := state_of_single rfl finds (by cbv) (Local.download_copies (by cbv) made copied).2
      finds_again := by cbv
      output := by cbv }

end Fetch

/-- The file is saved in what a second run leaves out, where nothing was before. -/
theorem Fetch.beside_fresh (out : Location)
    (left : leftOut? ⟨"/s"⟩ (fetch (Local.client ⟨"/s"⟩) sample besideConfig).state
      besideConfig =
      some out) :
    sample.directory? besideConfig.outputDir = some out ∨ sample.tree.node? out = none := by
  rw [beside_runs.leaves] at left
  have located : besideAfter.locate? "/s/p" = some [.text "p", .text "s"] := by cbv
  obtain ⟨_, _, _, outAt, _⟩ := leftOut?_eq_some.1 left
  obtain rfl : out = [.text "p", .text "s"] := canonical?_eq_locate? outAt located
  exact .inr rfl

/-! ## A search that is cut short -/

namespace Fetch

/-- The folder `/s` with a file, and with an older folder that holds another file. -/
def shelf : FileSystem where
  tree := Tree.empty |>.add [.text "s"] (.folder 0) |>.add [.text "b", .text "s"] (.folder 0)
    |>.add [.text "f", .text "b", .text "s"] (.file .empty 0)
    |>.add [.text "f", .text "s"] (.file .empty 1)
  clock := 2

/-- The output directory will lie in the older folder, and one file is enough. -/
def shelfConfig : Config := { pattern := "f", outputDir := "/s/b/o", maxResults := some 1 }

def shelfMade : FileSystem := shelf.create [.text "b", .text "s"] (.text "o") (.folder 2)

def shelfAfter : FileSystem :=
  shelfMade.create [.text "o", .text "b", .text "s"] (.text "f") (.file .empty 3)
    |>.overwrite [.text "f", .text "o", .text "b", .text "s"] .empty
    |>.overwrite [.text "f", .text "o", .text "b", .text "s"] .empty

set_option maxRecDepth 100000 in
theorem shelf_runs :
    Runs ⟨"/s"⟩ shelf shelfConfig [.text "s"] [⟨"f", "f", "f", 1⟩] shelfAfter
      [⟨"b/f", "f", "b/f", 0⟩] [.text "o", .text "b", .text "s"] := by
  have finds : FindsPlain ⟨"/s"⟩ shelf shelfConfig [⟨"f", "f", "f", 1⟩] := by
    cbv
  have made : Local.makeParents shelf "/s/b/o/f" = (.ok (), shelfMade) := by
    cbv
  have copied : shelfMade.copyFile "/s/f" "/s/b/o/f" = .ok shelfAfter := by
    cbv
  exact
    { located := by cbv
      finds
      leaves := state_of_single rfl finds (by cbv) (Local.download_copies (by cbv) made copied).2
      finds_again := by cbv
      output := by cbv }

theorem shelf_linkFree (place : Location) (target : String) :
    shelf.tree.shape? place ≠ some (.link target) :=
  Tree.linkFree_add (Tree.linkFree_add (Tree.linkFree_add (Tree.linkFree_add Tree.linkFree_empty
    (Node.folder_ne_link 0)) (Node.folder_ne_link 0)) (Node.file_ne_link .empty 0))
    (Node.file_ne_link .empty 1) place target

end Fetch

/-- Saving the file makes the older folder the newer one, so that the second run comes to the other
file first. -/
theorem other_file_found :
    let after := (fetch (Local.client ⟨"/s"⟩) Fetch.shelf Fetch.shelfConfig).state
    ∃ first second,
      (fetch (Local.client ⟨"/s"⟩) Fetch.shelf Fetch.shelfConfig).result = .ok first ∧
      (fetch (Local.client ⟨"/s"⟩) after Fetch.shelfConfig).result = .ok second ∧
      Fetch.OutputInside ⟨"/s"⟩ Fetch.shelf after Fetch.shelfConfig.outputDir ∧
      "f" ∈ first.ids ∧ "f" ∉ second.ids := by
  intro after
  have runs := Fetch.shelf_runs
  obtain ⟨first, second, done, again, found, foundAgain⟩ := runs.reports rfl
  have output :=
    runs.outputInside (by decide) ⟨[.text "o", .text "b"], rfl⟩ Fetch.shelf_linkFree
  exact ⟨first, second, done, again, output, by simp [found], by simp [foundAgain]⟩

end TreeFetch
