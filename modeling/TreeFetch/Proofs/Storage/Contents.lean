import TreeFetch.Proofs.FileSystem.Leading
import TreeFetch.Proofs.Storage.Complete
import TreeFetch.Proofs.Storage.Paths

/-!
# What a search of a local storage finds

The contents of the file system decide what a search finds that does not reach its limit of results.
It goes into the real folders below the one where it begins, as far as no name on the way is hidden,
and no folder on the way is too deep or excluded; there it keeps every file, and every link to a
file, that has a name that matches and is not hidden.

Results:
1. `Local.shows_iff`: the entries of a listing.
2. `Local.enters_of_comes` and `Local.comes_of_enters`: the folders to which a walk comes.
3. `Local.search_keeps`: what a search finds, said of the file system alone.
-/

namespace TreeFetch.Storage.Local

open FileSystem PathText Search

variable {s : Local} {fs : FileSystem} {id start : String} {segments names : List String}
  {at_ top : Location} {name : String} {kind : Kind} {entries : List Entry}
    {pattern : Regex.Pattern}
  {limits : Limits} {depth : Nat}

/-! ## Listings -/

/-- In the folder with the given segments and location, a name shows an entry of a kind: it leads to
a folder or not, and a folder is not behind a link. -/
structure Shows (s : Local) (fs : FileSystem) (segments : List String) (at_ : Location)
    (name : String) (kind : Kind) : Prop where
  child : ∃ node, fs.tree.node? (.text name :: at_) = some node ∧
    (kind = .folder → node.isFolder = true)
  target : ∃ place node, fs.stat (pushAll s.root (segments ++ [name])) = .ok (place, node) ∧
    (kind = .folder ↔ node.isFolder = true)

/-- A listing has the entries that it makes of the names in the folder, and fails for none of
them. -/
theorem list_examines (leads : s.LeadsToFolder fs id segments at_)
    (h : (s.list fs id).result = .ok entries) :
    (∀ e, e ∈ entries ↔ ∃ name node, fs.tree.node? (.text name :: at_) = some node ∧
      examineText fs segments (pushAll s.root segments) name (node matches .link _) = .entry e) ∧
    ∀ name node, fs.tree.node? (.text name :: at_) = some node → ∀ fault,
      examineText fs segments (pushAll s.root segments) name
        (node matches .link _) ≠ .failed fault := by
  obtain ⟨others, there, leads', rfl, sound⟩ := list_eq_ok h
  obtain ⟨rfl, rfl⟩ := leads.unique leads'
  refine ⟨fun e => ?_, fun name node child => sound _ (Tree.mem_children_of_node? child)⟩
  simp only [(newestFirst_perm _).mem_iff, List.mem_filterMap, Finding.listed?_eq_some]
  constructor
  · rintro ⟨⟨childName, node⟩, child, finding⟩
    cases childName with
    | raw bytes => cases finding
    | text name => exact ⟨name, node, Tree.mem_children child, finding⟩
  · rintro ⟨name, node, child, finding⟩
    exact ⟨(.text name, node), Tree.mem_children_of_node? child, finding⟩

theorem trashed_of_examineText {folder : String} {isLink : Bool} {e : Entry}
    (h : examineText fs segments folder name isLink = .entry e) :
    e.trashed = e.name.startsWith "." := by
  unfold examineText at h
  simp only at h
  split at h
  · split at h <;> cases h
  · split at h
    · cases h
    · obtain rfl := Finding.entry.inj h
      rfl

/-- A name that leads somewhere is listed, unless a link leads to a folder. -/
theorem examineText_of_stat (segments : List String) {folder : String} {isLink : Bool}
    {place : Location} {node : Node} (found : fs.stat (push folder name) = .ok (place, node))
    (goes : (isLink && node.isFolder) = false) :
    ∃ e, examineText fs segments folder name isLink = .entry e ∧ e.name = name ∧
      (e.kind = .folder ↔ node.isFolder = true) := by
  unfold examineText
  simp only [found, goes, Bool.false_eq_true, if_false]
  refine ⟨_, rfl, rfl, ?_⟩
  cases node.isFolder <;> simp

theorem goes_of_real {node target : Node} :
    (target.isFolder = true → node.isFolder = true) →
      ((node matches .link _) && target.isFolder) = false := by
  intro real
  cases node with
  | file content t => rfl
  | folder t => rfl
  | link text => exact Bool.eq_false_iff.2 fun folder => by cases real folder

/-- The entries of a listing are what the names in the folder show. -/
theorem shows_iff (leads : s.LeadsToFolder fs id segments at_)
    (h : (s.list fs id).result = .ok entries) :
    (∃ e ∈ entries, e.name = name ∧ e.kind = kind) ↔ s.Shows fs segments at_ name kind := by
  obtain ⟨mem, _⟩ := list_examines leads h
  constructor
  · rintro ⟨e, present, rfl, rfl⟩
    obtain ⟨name, node, child, finding⟩ := (mem e).1 present
    obtain ⟨rfl, _, place, target, found, isFolder, direct⟩ := examineText_eq_entry finding
    refine ⟨⟨node, child, fun kind => ?_⟩, place, target, ?_, isFolder⟩
    · have noLink : ∀ text, node ≠ .link text := by
        rintro text rfl
        cases direct (isFolder.1 kind)
      have named := isName_of_isValid (Tree.isValid_of_node? child)
      obtain rfl := leads.child named child noLink found
      obtain rfl := Option.some.inj (child.symm.trans (stat_eq_ok.1 found).2)
      exact isFolder.1 kind
    · rw [pushAll_concat]
      exact found
  · rintro ⟨⟨node, child, direct⟩, place, target, found, isFolder⟩
    rw [pushAll_concat] at found
    have goes := goes_of_real fun folder => direct (isFolder.2 folder)
    obtain ⟨e, finding, sameName, sameKind⟩ := examineText_of_stat segments found goes
    refine ⟨e, (mem e).2 ⟨name, node, child, finding⟩, sameName, ?_⟩
    rw [← isFolder] at sameKind
    cases kind with
    | folder => exact sameKind.2 rfl
    | file =>
      cases here : e.kind with
      | file => rfl
      | folder => cases sameKind.1 here

theorem shows_folder (leads : s.LeadsToFolder fs id segments at_)
    (h : (s.list fs id).result = .ok entries)
    (folder : fs.tree.isFolder (.text name :: at_) = true) :
    s.Shows fs segments at_ name .folder := by
  obtain ⟨t, child⟩ := Tree.isFolder_iff_node?.1 folder
  have found : ∃ place target, fs.stat (push (pushAll s.root segments) name) =
      .ok (place, target) := by
    cases found : fs.stat (push (pushAll s.root segments) name) with
    | ok target => exact ⟨target.1, target.2, rfl⟩
    | error fault =>
      refine absurd ?_ ((list_examines leads h).2 name _ child
        (.fileOperation (push (pushAll s.root segments) name) "read metadata of" fault.message))
      simp [examineText, found]
  obtain ⟨place, target, found⟩ := found
  have named := isName_of_isValid (Tree.isValid_of_node? child)
  obtain rfl := leads.child named child (by simp) found
  obtain rfl := Option.some.inj (child.symm.trans (stat_eq_ok.1 found).2)
  refine ⟨⟨_, child, fun _ => rfl⟩, .text name :: at_, .folder t, ?_, iff_of_true rfl rfl⟩
  rw [pushAll_concat]
  exact found

/-- The id of an entry is made of its name, and so is whether it is hidden. -/
theorem mem_list {e : Entry} (leads : s.LeadsToFolder fs id segments at_)
    (h : (s.list fs id).result = .ok entries) (present : e ∈ entries) :
    e.id = ofSegments (segments ++ [e.name]) ∧ e.trashed = e.name.startsWith "." ∧
      s.Shows fs segments at_ e.name e.kind := by
  obtain ⟨name, node, child, finding⟩ := ((list_examines leads h).1 e).1 present
  obtain ⟨rfl, sameId, _⟩ := examineText_eq_entry finding
  exact ⟨sameId, trashed_of_examineText finding,
    (shows_iff leads h).1 ⟨e, present, rfl, rfl⟩⟩

/-! ## Folders on the way -/

/-- A walk from the folder with the id `start` goes into the folder to which names lead from
there. -/
structure Enters (fs : FileSystem) (limits : Limits) (start : String) (segments : List String)
    (top : Location) (names : List String) : Prop where
  folder : fs.tree.isFolder (top.down names) = true
  shown : ∀ n ∈ names, n.startsWith "." = false
  shallow : ∀ most, limits.maxDepth = some most → names.length ≤ most
  included : ∀ init, init <+: names → idBelow start segments init ∉ limits.excluded

theorem Enters.admitted (h : Enters fs limits start segments top names) :
    Admitted limits names.length (idBelow start segments names) :=
  ⟨h.shallow, h.included names (List.prefix_refl _)⟩

theorem Enters.init (h : Enters fs limits start segments top (names ++ [name])) :
    Enters fs limits start segments top names where
  folder := by
    have inner := h.folder
    rw [Location.down_append] at inner
    exact isFolder_of_down inner
  shown n present := h.shown n (List.mem_append_left _ present)
  shallow most limit := by
    have := h.shallow most limit
    rw [List.length_append] at this
    omega
  included init short := h.included init (short.trans (List.prefix_append _ _))

theorem idBelow_concat (start : String) (segments names : List String) (name : String) :
    idBelow start segments (names ++ [name]) = ofSegments (segments ++ names ++ [name]) := by
  rw [idBelow, if_neg (by simp), List.append_assoc]

/-- A folder to which a walk comes and that is admitted is one that the walk goes into. -/
theorem enters_of_comes (begins : s.LeadsToFolder fs start segments top)
    (comes : Comes s.client fs limits start depth id) (admitted : Admitted limits depth id) :
    ∃ names, Enters fs limits start segments top names ∧
      s.LeadsToFolder fs id (segments ++ names) (top.down names) ∧
      id = idBelow start segments names ∧ depth = names.length := by
  induction comes with
  | start =>
    refine ⟨[],
      ⟨begins.folder, List.forall_mem_nil _, admitted.shallow, fun init short => ?_⟩,
      by rwa [List.append_nil], rfl, rfl⟩
    obtain rfl := List.prefix_nil.1 short
    exact admitted.included
  | @step depth id entries e _ opened present down ih =>
    obtain ⟨names, enters, leads, rfl, rfl⟩ := ih opened.admitted
    obtain ⟨sameId, hidden, shows_⟩ := mem_list leads opened.listed present
    rw [down.kind] at shows_
    have entry := leads_of_listed leads opened.listed present down.kind
    have below : e.id = idBelow start segments (names ++ [e.name]) := by
      rw [idBelow_concat, sameId]
    refine ⟨names ++ [e.name], ⟨?_, fun n member => ?_, ?_, fun init short => ?_⟩,
      ?_, below, ?_⟩
    · rw [Location.down_concat]
      exact entry.folder
    · rcases List.mem_append.1 member with above | here
      · exact enters.shown n above
      · rw [List.mem_singleton.1 here, ← hidden]
        exact down.kept
    · rw [List.length_append]
      exact admitted.shallow
    · rcases List.prefix_concat_iff.1 short with rfl | shorter
      · rw [← below]
        exact admitted.included
      · exact enters.included init shorter
    · rw [← List.append_assoc, Location.down_concat]
      exact entry
    · simp

theorem Enters.entry (h : Enters fs limits start segments top (names ++ [name]))
    (leads : s.LeadsToFolder fs (idBelow start segments names) (segments ++ names) (top.down names))
    (listed : (s.list fs (idBelow start segments names)).result = .ok entries) :
    ∃ e ∈ entries, e.name = name ∧ e.Descends ∧
      e.id = idBelow start segments (names ++ [name]) ∧
      s.LeadsToFolder fs e.id (segments ++ (names ++ [name])) (top.down (names ++ [name])) := by
  have folder := h.folder
  rw [Location.down_concat] at folder
  obtain ⟨e, present, rfl, kind⟩ :=
    (shows_iff leads listed).2 (shows_folder leads listed folder)
  obtain ⟨sameId, hidden, _⟩ := mem_list leads listed present
  have down : e.Descends := ⟨kind, by rw [hidden, h.shown e.name (by simp)]⟩
  have below : e.id = idBelow start segments (names ++ [e.name]) := by
    rw [idBelow_concat, sameId]
  refine ⟨e, present, rfl, down, below, ?_⟩
  rw [← List.append_assoc, Location.down_concat]
  exact leads_of_listed leads listed present kind

/-- A walk comes to every folder that it can go into, if it can list those on the way. -/
theorem comes_of_enters (begins : s.LeadsToFolder fs start segments top)
    (lists : ∀ depth id, Comes s.client fs limits start depth id → Admitted limits depth id →
      ∃ entries, Opens s.client fs limits depth id entries)
    (enters : Enters fs limits start segments top names) :
    Comes s.client fs limits start names.length (idBelow start segments names) ∧
      s.LeadsToFolder fs (idBelow start segments names) (segments ++ names) (top.down names) := by
  induction names using List.reverseRecOn with
  | nil => exact ⟨.start, by rwa [List.append_nil]⟩
  | append_singleton names name ih =>
    obtain ⟨comes, leads⟩ := ih enters.init
    obtain ⟨entries, opened⟩ := lists _ _ comes enters.init.admitted
    obtain ⟨e, present, _, down, below, inner⟩ := enters.entry leads opened.listed
    rw [List.length_append, ← below]
    exact ⟨comes.step opened present down, inner⟩

/-! ## Searches -/

/-- A walk from the folder with the id `start` finds a file, or a link to a file, with a name in the
folder to which names lead from there. -/
structure Keeps (s : Local) (fs : FileSystem) (pattern : Regex.Pattern) (limits : Limits)
    (start : String) (segments : List String) (top : Location) (names : List String)
    (name : String) : Prop where
  enters : Enters fs limits start segments top names
  shows_ : s.Shows fs (segments ++ names) (top.down names) name .file
  shown : name.startsWith "." = false
  named : pattern.matches name = true

/-- What a search of a local storage finds that does not reach its limit of results. The folders
that it goes into can be reached under their ids. -/
theorem search_keeps {folder : Option String} {files : List File}
    (begins : Begins s.client fs folder start) (leads : s.LeadsToFolder fs start segments top)
    (h : (search s.client fs folder pattern limits).result = .ok files)
    (room : isFull limits files.length = false) :
    (∀ names, Enters fs limits start segments top names →
      s.LeadsToFolder fs (idBelow start segments names) (segments ++ names) (top.down names)) ∧
    ∀ fileId, (∃ f ∈ files, f.id = fileId) ↔
      ∃ names name, s.Keeps fs pattern limits start segments top names name ∧
        fileId = ofSegments (segments ++ names ++ [name]) := by
  obtain ⟨lists, finds⟩ := search_iff begins h room
  refine ⟨fun names enters => (comes_of_enters leads lists enters).2, fun fileId => ?_⟩
  rw [finds]
  constructor
  · rintro ⟨depth, id, entries, e, comes, opened, present, kept, rfl⟩
    obtain ⟨names, enters, inner, _, _⟩ := enters_of_comes leads comes opened.admitted
    obtain ⟨sameId, hidden, shows_⟩ := mem_list inner opened.listed present
    exact ⟨names, e.name, ⟨enters, kept.kind ▸ shows_, hidden ▸ kept.kept, kept.named⟩,
      sameId⟩
  · rintro ⟨names, name, keeps, rfl⟩
    obtain ⟨comes, inner⟩ := comes_of_enters leads lists keeps.enters
    obtain ⟨entries, opened⟩ := lists _ _ comes keeps.enters.admitted
    obtain ⟨e, present, rfl, kind⟩ := (shows_iff inner opened.listed).2 keeps.shows_
    obtain ⟨sameId, hidden, _⟩ := mem_list inner opened.listed present
    exact ⟨_, _, entries, e, comes, opened, present,
      ⟨kind, hidden ▸ keeps.shown, keeps.named⟩, sameId⟩

end TreeFetch.Storage.Local
