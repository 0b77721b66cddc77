import TreeFetch.Proofs.FileSystem.Directory
import TreeFetch.Proofs.Storage.Unheard
import TreeFetch.Storage.Local

/-!
# What the listing of a folder says

An entry of a listing has an id of which the segments are those of the folder and the entry's name.
If it is a folder, it lies right below the listed folder, since links to folders are left out; if it
is a file, its path leads to a file, which may lie elsewhere.

Results:
1. `Local.list_eq_ok`: what a listing makes of the names in a folder.
2. `Local.list_lists`: all of this for every entry of a listing.
-/

namespace TreeFetch.Storage.Local

open FileSystem PathText

variable {s : Local} {fs : FileSystem} {id folder name : String} {segments : List String}
  {at_ : Location} {e : Entry}

theorem resolve_eq_ok {path : String} :
    s.resolve id = .ok (segments, path) ↔
      segments? id = some segments ∧ pushAll s.root segments = path := by
  unfold resolve
  split
  · next climbs => simp [climbs]
  · next names cut =>
    simp only [cut, Except.ok.injEq, Prod.mk.injEq, Option.some.injEq]
    constructor
    · rintro ⟨rfl, rfl⟩
      exact ⟨rfl, rfl⟩
    · rintro ⟨rfl, rfl⟩
      exact ⟨rfl, rfl⟩

/-- An id has the given segments and leads to the folder at a location. -/
structure LeadsToFolder (s : Local) (fs : FileSystem) (id : String) (segments : List String)
    (at_ : Location) : Prop where
  cut : segments? id = some segments
  leads : fs.resolve (pushAll s.root segments) = .ok (.entry at_)
  folder : fs.tree.isFolder at_ = true

/-- An id has the given segments and leads to the file at a location. -/
structure LeadsToFile (s : Local) (fs : FileSystem) (id : String) (segments : List String)
    (at_ : Location) : Prop where
  cut : segments? id = some segments
  found : ∃ content t, fs.stat (pushAll s.root segments) = .ok (at_, .file content t)

/-- The location of what an id leads to, links followed. -/
def place? (s : Local) (fs : FileSystem) (id : String) : Option Location :=
  (segments? id).bind fun segments => fs.locate? (pushAll s.root segments)

/-- The bytes of the file that an id leads to. -/
def bytes? (s : Local) (fs : FileSystem) (id : String) : Option ByteArray :=
  (segments? id).bind fun segments => (fs.readFile (pushAll s.root segments)).toOption

namespace LeadsToFile

theorem place?_eq (h : s.LeadsToFile fs id segments at_) : s.place? fs id = some at_ := by
  obtain ⟨content, t, found⟩ := h.found
  rw [place?, h.cut, Option.bind_some]
  exact locate?_eq_some.2 (stat_eq_ok.1 found).1

theorem bytes?_eq (h : s.LeadsToFile fs id segments at_) : s.bytes? fs id = fs.tree.bytes? at_ := by
  obtain ⟨content, t, found⟩ := h.found
  have leaf : fs.tree.leaf? at_ = some (.file content t) :=
    Tree.leaf?_eq_some.2 ⟨(stat_eq_ok.1 found).2, rfl⟩
  rw [bytes?, h.cut, Option.bind_some, Tree.bytes?_of_leaf? leaf, readFile, found]
  rfl

theorem extend {after : FileSystem} (h : s.LeadsToFile fs id segments at_) (e : Extends fs after) :
    s.LeadsToFile after id segments at_ := by
  obtain ⟨content, t, found⟩ := h.found
  obtain ⟨node, still, same⟩ := e.stat found
  obtain ⟨content', t', rfl⟩ := Node.shape_eq_file.1 same
  exact ⟨h.cut, content', t', still⟩

theorem isLeaf (h : s.LeadsToFile fs id segments at_) :
    ∃ content t, fs.tree.leaf? at_ = some (.file content t) := by
  obtain ⟨content, t, found⟩ := h.found
  exact ⟨content, t, Tree.leaf?_eq_some.2 ⟨(stat_eq_ok.1 found).2, rfl⟩⟩

theorem solid (h : s.LeadsToFile fs id segments at_) : fs.tree.Solid at_ := by
  obtain ⟨content, t, found⟩ := h.found
  exact solid_of_resolve (stat_eq_ok.1 found).1

end LeadsToFile

theorem LeadsToFolder.place?_eq (h : s.LeadsToFolder fs id segments at_) :
    s.place? fs id = some at_ := by
  rw [place?, h.cut, Option.bind_some]
  exact locate?_eq_some.2 h.leads

theorem LeadsToFolder.unique {others : List String} {other : Location}
    (h : s.LeadsToFolder fs id segments at_) (h' : s.LeadsToFolder fs id others other) :
    segments = others ∧ at_ = other := by
  obtain rfl : segments = others := Option.some.inj (h.cut.symm.trans h'.cut)
  exact ⟨rfl, by simpa using h.leads.symm.trans h'.leads⟩

theorem LeadsToFolder.named_concat {name : String} (h : s.LeadsToFolder fs id segments at_)
    (named : IsName name) : ∀ n ∈ segments ++ [name], IsName n :=
  List.forall_mem_append.2 ⟨fun n => isName_of_segments? h.cut n,
    List.forall_mem_singleton.2 named⟩

theorem LeadsToFolder.extend {after : FileSystem} (h : s.LeadsToFolder fs id segments at_)
    (e : Extends fs after) : s.LeadsToFolder after id segments at_ :=
  ⟨h.cut, e.resolve h.leads, isFolder_kept e.kept h.folder⟩

/-- What a listing says of an entry of the folder with the given segments and location. -/
structure Lists (s : Local) (fs : FileSystem) (segments : List String)
    (at_ : Location) (e : Entry) : Prop where
  named : IsName e.name
  id : e.id = ofSegments (segments ++ [e.name])
  folder : e.kind = .folder → s.LeadsToFolder fs e.id (segments ++ [e.name]) (.text e.name :: at_)
  file : e.kind = .file → ∃ place, s.LeadsToFile fs e.id (segments ++ [e.name]) place

theorem examineText_eq_entry {isLink : Bool}
    (h : examineText fs segments folder name isLink = .entry e) :
    e.name = name ∧ e.id = ofSegments (segments ++ [name]) ∧
      ∃ place node, fs.stat (push folder name) = .ok (place, node) ∧
        (e.kind = .folder ↔ node.isFolder = true) ∧
        (node.isFolder = true → isLink = false) := by
  rw [examineText] at h
  split at h
  · split at h <;> cases h
  · next place node found =>
    split at h
    · cases h
    · next goes =>
      obtain rfl := Finding.entry.inj h
      refine ⟨rfl, rfl, place, node, found, ?_, fun kind => ?_⟩
      · cases node.isFolder <;> simp
      · simpa [kind] using goes

/-- The entry that a listing makes of a name, if it makes one. -/
def Finding.listed? : Finding → Option Entry
  | .entry e => some e
  | _ => none

theorem Finding.listed?_eq_some {finding : Finding} :
    finding.listed? = some e ↔ finding = .entry e := by
  cases finding <;> simp [Finding.listed?]

/-- Entries are gathered if none of the names makes the listing fail. -/
theorem gather_eq_ok {children : List (Name × Node)} {entries : List Entry}
    (h : (gatherWith deaf segments folder fs children).result = .ok entries) :
    entries = children.filterMap (fun child => (examine fs segments folder child).listed?) ∧
      ∀ child ∈ children, ∀ fault, examine fs segments folder child ≠ .failed fault := by
  induction children generalizing entries with
  | nil => exact ⟨(Except.ok.inj h).symm, List.forall_mem_nil _⟩
  | cons child rest ih =>
    rw [gatherWith] at h
    cases finding : examine fs segments folder child with
    | entry first =>
      simp only [finding] at h
      cases gathered : (gatherWith deaf segments folder fs rest).result with
      | error fault => simp [gathered, Except.map] at h
      | ok others =>
        simp only [gathered, Except.map, Except.ok.injEq] at h
        obtain ⟨rfl, sound⟩ := ih gathered
        have here : (examine fs segments folder child).listed? = some first := by rw [finding]; rfl
        exact ⟨by rw [← h, List.filterMap_cons, here],
          List.forall_mem_cons.2 ⟨by simp [finding], sound⟩⟩
    | skipped note =>
      simp only [finding] at h
      obtain ⟨rfl, sound⟩ := ih h
      have nothing : (examine fs segments folder child).listed? = none := by rw [finding]; rfl
      exact ⟨by rw [List.filterMap_cons, nothing],
        List.forall_mem_cons.2 ⟨by simp [finding], sound⟩⟩
    | failed fault => simp [finding] at h

theorem newestFirst_perm (entries : List Entry) : (newestFirst entries).Perm entries :=
  List.mergeSort_perm _ _

/-- A listing has the entries that it makes of the names in the folder, the newest first, and fails
for none of the names. -/
theorem list_eq_ok {entries : List Entry} (h : (s.list fs id).result = .ok entries) :
    ∃ segments at_, s.LeadsToFolder fs id segments at_ ∧
      entries = newestFirst ((fs.tree.children at_).filterMap fun child =>
        (examine fs segments (pushAll s.root segments) child).listed?) ∧
      ∀ child ∈ fs.tree.children at_, ∀ fault,
        examine fs segments (pushAll s.root segments) child ≠ .failed fault := by
  unfold list listWith at h
  split at h
  · cases h
  · next segments folder opened =>
    obtain ⟨cut, rfl⟩ := resolve_eq_ok.1 opened
    split at h
    · cases h
    · next children read =>
      unfold readFolder at read
      split at read
      · cases read
      · next at_ t found =>
        obtain rfl := Except.ok.inj read
        obtain ⟨leads, there⟩ := stat_eq_ok.1 found
        refine ⟨segments, at_, ⟨cut, leads, Tree.isFolder_iff_node?.2 ⟨t, there⟩⟩, ?_⟩
        simp only at h
        split at h
        · cases h
        · next gathered result =>
          obtain rfl := Except.ok.inj h
          obtain ⟨rfl, sound⟩ := gather_eq_ok result
          exact ⟨rfl, sound⟩
      · cases read

/-- A name leads from a folder to another one straight down, unless it is the name of a link. -/
theorem LeadsToFolder.child {node target : Node} {place : Location}
    (h : s.LeadsToFolder fs id segments at_) (named : IsName name)
    (there : fs.tree.node? (.text name :: at_) = some node) (direct : ∀ text, node ≠ .link text)
    (found : fs.stat (push (pushAll s.root segments) name) = .ok (place, target)) :
    place = .text name :: at_ := by
  have denotes := directory?_of_resolve h.leads h.folder
  simpa using resolve_push named denotes ⟨node, there, direct⟩ (stat_eq_ok.1 found).1

theorem eq_file_of_stat {path : String} {node : Node} (found : fs.stat path = .ok (at_, node))
    (other : node.isFolder = false) : ∃ content t, node = .file content t := by
  obtain ⟨leads, there⟩ := stat_eq_ok.1 found
  have shut : ¬fs.tree.isFolder at_ = true := by simp [Tree.isFolder, there, other]
  obtain ⟨content, t, file⟩ := Tree.file_of_solid (solid_of_resolve leads) shut
  exact ⟨content, t, Option.some.inj (there.symm.trans file)⟩

/-- What a listing makes of a name that is a text in the listed folder. -/
theorem lists_of_examineText {node : Node} {isLink : Bool}
    (leads : s.LeadsToFolder fs id segments at_)
    (h : examineText fs segments (pushAll s.root segments) name isLink = .entry e)
    (child : fs.tree.node? (.text name :: at_) = some node)
    (links : ∀ text, node = .link text → isLink = true) : s.Lists fs segments at_ e := by
  obtain ⟨rfl, sameId, place, target, found, kind, direct⟩ := examineText_eq_entry h
  have named : IsName e.name := isName_of_isValid (Tree.isValid_of_node? child)
  have cut : segments? e.id = some (segments ++ [e.name]) := by
    rw [sameId]
    exact segments?_ofSegments (leads.named_concat named)
  refine ⟨named, sameId, fun isFolder => ?_, fun isFile => ?_⟩
  · have targetFolder := kind.1 isFolder
    have noLink : ∀ text, node ≠ .link text := by
      intro text same
      exact absurd (direct targetFolder) (by simp [links text same])
    obtain rfl := leads.child named child noLink found
    obtain ⟨resolved, there⟩ := stat_eq_ok.1 found
    refine ⟨cut, by rw [pushAll_concat]; exact resolved, ?_⟩
    rw [Tree.isFolder, there]
    exact targetFolder
  · have other : target.isFolder = false := by
      rw [← Bool.not_eq_true, ← kind, isFile]
      decide
    obtain ⟨content, t, rfl⟩ := eq_file_of_stat found other
    exact ⟨place, cut, content, t, by rw [pushAll_concat]; exact found⟩

theorem list_lists {entries : List Entry} (h : (s.list fs id).result = .ok entries) :
    ∃ segments at_, s.LeadsToFolder fs id segments at_ ∧
      ∀ e ∈ entries, s.Lists fs segments at_ e := by
  obtain ⟨segments, at_, leads, rfl, _⟩ := list_eq_ok h
  refine ⟨segments, at_, leads, fun e present => ?_⟩
  obtain ⟨⟨childName, node⟩, child, listed⟩ :=
    List.mem_filterMap.1 ((newestFirst_perm _).mem_iff.1 present)
  have finding := Finding.listed?_eq_some.1 listed
  cases childName with
  | raw bytes => cases finding
  | text name =>
    refine lists_of_examineText leads finding (Tree.mem_children child) ?_
    rintro target rfl
    rfl

end TreeFetch.Storage.Local
