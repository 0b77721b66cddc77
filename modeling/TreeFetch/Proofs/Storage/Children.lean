import Mathlib
import TreeFetch.Proofs.FileSystem.Child
import TreeFetch.Proofs.Storage.Contents

/-!
# What a listing tells of a folder

A listing tells of every file and folder that has a text for its name, and of a link if it leads to
a file, which it then calls by the name and with the id of the link. It tells of nothing else. It
fails if the path to one of these files and folders is one that the operating system refuses, since
then it cannot say what is there; a link that cannot be followed is left out.

Results:
1. `Local.list_eq_ok_iff` and `Local.list_eq_error`: when a listing succeeds, and why it fails.
2. `Local.mem_list_iff`: the entries of a listing.
3. `Local.reaches_iff`: the folders to which listings lead from the root.
4. `Local.list_tells`: all of this for a storage.
-/

namespace TreeFetch.Storage.Local

open FileSystem PathText

variable {s : Local} {fs : FileSystem} {id folder name : String} {segments names : List String}
  {at_ top place : Location} {node target : Node} {e : Entry} {entries : List Entry} {fault : Error}

/-! ## The names in a folder -/

/-- The entry with which a name in the folder with the given segments is listed. -/
def told (segments : List String) (name : String) (kind : Kind) (time : Time) : Entry where
  id := ofSegments (segments ++ [name])
  name := name
  kind := kind
  modified := time
  trashed := name.startsWith "."

/-- What there is to tell of the folder with the given segments and location. -/
inductive Tells (s : Local) (fs : FileSystem) (segments : List String) (at_ : Location) :
    Entry → Prop
  | folder {name : String} {time : Time}
      (there : fs.tree.node? (.text name :: at_) = some (.folder time)) :
      Tells s fs segments at_ (told segments name .folder time)
  | file {name : String} {content : ByteArray} {time : Time}
      (there : fs.tree.node? (.text name :: at_) = some (.file content time)) :
      Tells s fs segments at_ (told segments name .file time)
  /-- A link counts as the file that the path through it leads to. -/
  | link {name text : String} {place : Location} {content : ByteArray} {time : Time}
      (there : fs.tree.node? (.text name :: at_) = some (.link text))
      (leads : fs.stat (pushAll s.root (segments ++ [name])) = .ok (place, .file content time)) :
      Tells s fs segments at_ (told segments name .file time)

/-- A file or folder with a text for its name is in a folder. -/
def Holds (fs : FileSystem) (at_ : Location) (name : String) : Prop :=
  fs.tree.Solid (.text name :: at_)

/-- The operating system allows the paths to all files and folders in a folder. -/
def Listable (s : Local) (fs : FileSystem) (segments : List String) (at_ : Location) : Prop :=
  ∀ name, Holds fs at_ name → fs.Allows (pushAll s.root (segments ++ [name]))

/-- A fault tells of a file or folder to which the operating system refuses the path. -/
def Blocks (s : Local) (fs : FileSystem) (segments : List String) (at_ : Location) (fault : Error) :
    Prop :=
  ∃ name message, Holds fs at_ name ∧ ¬fs.Allows (pushAll s.root (segments ++ [name])) ∧
    fault = .fileOperation (pushAll s.root (segments ++ [name])) "read metadata of" message

/-- The path to a file or folder in a listed folder leads to it, if it is allowed. -/
theorem LeadsToFolder.stat_iff (leads : s.LeadsToFolder fs id segments at_)
    (child : fs.tree.node? (.text name :: at_) = some node)
    (direct : ∀ text, node ≠ .link text) :
    fs.stat (push (pushAll s.root segments) name) = .ok (.text name :: at_, node) ↔
      fs.Allows (pushAll s.root (segments ++ [name])) := by
  have named : ∀ n ∈ [name], IsName n :=
    List.forall_mem_singleton.2 (isName_of_isValid (Tree.isValid_of_node? child))
  rw [pushAll_concat, stat_eq_ok, and_iff_left child]
  have denotes := directory?_of_resolve leads.leads leads.folder
  exact resolve_pushAll_iff named (List.cons_ne_nil name []) denotes ⟨node, child, direct⟩

/-- What a listing makes of a name that leads somewhere, unless a link leads to a folder. -/
theorem examineText_eq_told (segments : List String) {isLink : Bool}
    (found : fs.stat (push folder name) = .ok (place, node))
    (goes : (isLink && node.isFolder) = false) :
    examineText fs segments folder name isLink =
      .entry
        (told segments name (if node.isFolder then .folder else .file) (node.time?.getD 0)) := by
  simp only [examineText, found, goes, Bool.false_eq_true, if_false]
  rfl

theorem examineText_real (leads : s.LeadsToFolder fs id segments at_)
    (child : fs.tree.node? (.text name :: at_) = some node)
    (direct : ∀ text, node ≠ .link text) :
    (fs.Allows (pushAll s.root (segments ++ [name])) ∧
      examineText fs segments (pushAll s.root segments) name false = .entry
        (told segments name (if node.isFolder then .folder else .file) (node.time?.getD 0))) ∨
    ¬fs.Allows (pushAll s.root (segments ++ [name])) ∧ ∃ message,
      examineText fs segments (pushAll s.root segments) name false = .failed
        (.fileOperation (pushAll s.root (segments ++ [name])) "read metadata of" message) := by
  have only := leads.stat_iff child direct
  by_cases allowed : fs.Allows (pushAll s.root (segments ++ [name]))
  · exact .inl ⟨allowed, examineText_eq_told segments (only.2 allowed) rfl⟩
  · refine .inr ⟨allowed, ?_⟩
    cases found : fs.stat (push (pushAll s.root segments) name) with
    | error refused => exact ⟨refused.message, by simp [examineText, found, pushAll_concat]⟩
    | ok there =>
      obtain ⟨place, other⟩ := there
      have resolved := allows_of_resolve (stat_eq_ok.1 found).1
      exact absurd (pushAll_concat s.root segments name ▸ resolved) allowed

/-- What a listing makes of a link: the file that it leads to, or nothing. -/
theorem examineText_link :
    examineText fs segments (pushAll s.root segments) name true = .entry e ↔
      ∃ place content time, fs.stat
        (pushAll s.root (segments ++ [name])) = .ok (place, .file content time) ∧
        e = told segments name .file time := by
  rw [pushAll_concat]
  constructor
  · intro finding
    obtain ⟨_, _, place, node, found, _, direct⟩ := examineText_eq_entry finding
    have other : node.isFolder = false := Bool.eq_false_iff.2 fun folder => by
      simpa using direct folder
    obtain ⟨content, time, rfl⟩ := eq_file_of_stat found other
    rw [examineText_eq_told segments found rfl] at finding
    exact ⟨place, content, time, found, (Finding.entry.inj finding).symm⟩
  · rintro ⟨place, content, time, found, rfl⟩
    exact examineText_eq_told segments found rfl

theorem real_of_failed
    (h : examineText fs segments folder name (node matches .link _) = .failed fault) :
    (∀ text, node ≠ .link text) ∧
    examineText fs segments folder name false = .failed fault := by
  cases node with
  | file content time => exact ⟨by simp, h⟩
  | folder time => exact ⟨by simp, h⟩
  | link text =>
    unfold examineText at h
    simp only at h
    split at h
    · cases h
    · split at h <;> cases h

/-! ## The listing -/

theorem gather_eq_error {children : List (Name × Node)} {folder : String}
    (h : (gatherWith deaf segments folder fs children).result = .error fault) :
    ∃ child ∈ children, examine fs segments folder child = .failed fault := by
  induction children with
  | nil => cases h
  | cons child rest ih =>
    rw [gatherWith] at h
    have later : (gatherWith deaf segments folder fs rest).result = .error fault →
        ∃ c ∈ child :: rest, examine fs segments folder c = .failed fault := by
      intro failed
      obtain ⟨other, present, finding⟩ := ih failed
      exact ⟨other, List.mem_cons_of_mem _ present, finding⟩
    cases finding : examine fs segments folder child with
    | entry first =>
      simp only [finding] at h
      cases gathered : (gatherWith deaf segments folder fs rest).result with
      | ok others => simp [gathered, Except.map] at h
      | error other =>
        obtain rfl : other = fault := by simpa [gathered, Except.map] using h
        exact later gathered
    | skipped note =>
      simp only [finding] at h
      exact later h
    | failed other =>
      obtain rfl : other = fault := by simpa [finding] using h
      exact ⟨child, List.mem_cons_self .., finding⟩

/-- The listing of a folder is made of what is found at the names in it. -/
theorem list_of_leads (leads : s.LeadsToFolder fs id segments at_) :
    (s.list fs id).result = (gatherWith deaf segments (pushAll s.root segments) fs
      (fs.tree.children at_)).result.map newestFirst := by
  obtain ⟨time, there⟩ := Tree.isFolder_iff_node?.1 leads.folder
  have read : fs.readFolder (pushAll s.root segments) = .ok (fs.tree.children at_) := by
    rw [readFolder, stat_eq_ok.2 ⟨leads.leads, there⟩]
  rw [list, listWith, resolve_eq_ok.2 ⟨leads.cut, rfl⟩]
  simp only [read]
  split
  · next refused => rw [refused]; rfl
  · next found => rw [found]; rfl

/-- A listing fails only because the path to a file or folder is refused. -/
theorem list_eq_error (leads : s.LeadsToFolder fs id segments at_)
    (h : (s.list fs id).result = .error fault) : s.Blocks fs segments at_ fault := by
  rw [list_of_leads leads] at h
  cases gathered : (gatherWith deaf segments (pushAll s.root segments) fs
      (fs.tree.children at_)).result with
  | ok found => simp [gathered, Except.map] at h
  | error other =>
    obtain rfl : other = fault := by simpa [gathered, Except.map] using h
    obtain ⟨⟨childName, node⟩, child, finding⟩ := gather_eq_error gathered
    cases childName with
    | raw bytes => cases finding
    | text name =>
      have there := Tree.mem_children child
      obtain ⟨direct, failure⟩ := real_of_failed finding
      rcases examineText_real leads there direct with ⟨_, shown⟩ |
        ⟨refused, message, failed⟩
      · cases shown.symm.trans failure
      · obtain rfl := Finding.failed.inj (failed.symm.trans failure)
        exact ⟨name, message, ⟨node, there, direct⟩, refused, rfl⟩

/-- A folder is listed exactly if the paths to all files and folders in it are allowed. -/
theorem list_eq_ok_iff (leads : s.LeadsToFolder fs id segments at_) :
    (∃ entries, (s.list fs id).result = .ok entries) ↔ s.Listable fs segments at_ := by
  constructor
  · rintro ⟨entries, listed⟩ name ⟨node, there, direct⟩
    rcases examineText_real leads there direct with ⟨allowed, _⟩ | ⟨_, message, failed⟩
    · exact allowed
    · have sound := (list_examines leads listed).2 name node there
      cases node with
      | file content time => exact absurd failed (sound _)
      | folder time => exact absurd failed (sound _)
      | link text => exact absurd rfl (direct text)
  · intro all
    cases listed : (s.list fs id).result with
    | ok entries => exact ⟨entries, rfl⟩
    | error fault =>
      obtain ⟨name, _, holds, refused, _⟩ := list_eq_error leads listed
      exact absurd (all name holds) refused

theorem mem_list_iff (leads : s.LeadsToFolder fs id segments at_)
    (listed : (s.list fs id).result = .ok entries) :
    e ∈ entries ↔ s.Tells fs segments at_ e := by
  have allowed := (list_eq_ok_iff leads).1 ⟨entries, listed⟩
  have shown : ∀ name node, fs.tree.node? (.text name :: at_) = some node →
    (∀ text, node ≠ .link text) →
      examineText fs segments (pushAll s.root segments) name false = .entry
        (told segments name (if node.isFolder then .folder else .file) (node.time?.getD 0)) := by
    intro name node there direct
    refine examineText_eq_told segments ((leads.stat_iff there direct).2 ?_) rfl
    exact allowed name ⟨node, there, direct⟩
  rw [(list_examines leads listed).1 e]
  constructor
  · rintro ⟨name, node, there, finding⟩
    cases node with
    | folder time =>
      obtain rfl := Finding.entry.inj ((shown name _ there (by simp)).symm.trans finding)
      exact .folder there
    | file content time =>
      obtain rfl := Finding.entry.inj ((shown name _ there (by simp)).symm.trans finding)
      exact .file there
    | link text =>
      obtain ⟨place, content, time, found, rfl⟩ := examineText_link.1 finding
      exact .link there found
  · intro tells
    cases tells with
    | folder there => exact ⟨_, _, there, shown _ _ there (by simp)⟩
    | file there => exact ⟨_, _, there, shown _ _ there (by simp)⟩
    | link there found => exact ⟨_, _, there, examineText_link.2 ⟨_, _, _, found, rfl⟩⟩

theorem list_newestFirst (listed : (s.list fs id).result = .ok entries) :
    entries.Pairwise fun first later => later.modified ≤ first.modified := by
  obtain ⟨_, _, _, rfl, _⟩ := list_eq_ok listed
  refine (List.pairwise_mergeSort (fun a b c => ?_) (fun a b => ?_) _).imp of_decide_eq_true
  · simp only [decide_eq_true_eq]
    exact fun first second => Int.le_trans second first
  · simp only [Bool.or_eq_true, decide_eq_true_eq]
    exact Int.le_total _ _

/-- Entries tell of the folder with the given segments and location, of each of its names once, and
begin with what was changed last. What they call a folder is listed under its id. -/
structure IsInventory (s : Local) (fs : FileSystem) (segments : List String) (at_ : Location)
    (entries : List Entry) : Prop where
  complete : ∀ e, e ∈ entries ↔ s.Tells fs segments at_ e
  distinct : (entries.map (·.name)).Nodup
  newestFirst : entries.Pairwise fun first later => later.modified ≤ first.modified
  folders : ∀ e ∈ entries, e.kind = .folder →
    s.LeadsToFolder fs e.id (segments ++ [e.name]) (.text e.name :: at_)

theorem isInventory_of_list (leads : s.LeadsToFolder fs id segments at_)
    (listed : (s.list fs id).result = .ok entries) : s.IsInventory fs segments at_ entries where
  complete _ := mem_list_iff leads listed
  distinct := list_distinct listed
  newestFirst := list_newestFirst listed
  folders _ := leads_of_listed leads listed

/-! ## From the root down -/

/-- The ids to which listings lead from the root. -/
inductive Reaches (s : Local) (fs : FileSystem) : String → Prop
  | root : Reaches s fs ""
  | step {id : String} {entries : List Entry} {e : Entry} (above : Reaches s fs id)
      (listed : (s.list fs id).result = .ok entries) (present : e ∈ entries)
        (kind : e.kind = .folder) :
      Reaches s fs e.id

/-- Each folder that names pass on the way down, before the last one, can be listed. -/
def Opens (s : Local) (fs : FileSystem) (top : Location) (names : List String) : Prop :=
  ∀ init, init <+: names → init ≠ names → s.Listable fs init (top.down init)

theorem opens_nil : s.Opens fs top [] := fun _ short other => absurd (List.prefix_nil.1 short) other

theorem opens_concat :
    s.Opens fs top (names ++ [name]) ↔ s.Opens fs top names ∧
    s.Listable fs names (top.down names) := by
  constructor
  · intro all
    refine ⟨fun init short other => ?_, all names (List.prefix_append _ _) (by simp)⟩
    refine all init (short.trans (List.prefix_append _ _)) ?_
    rintro rfl
    exact absurd short.length_le (by simp)
  · rintro ⟨upper, last⟩ init short other
    by_cases whole : init = names
    · exact whole ▸ last
    · exact upper init ((List.prefix_concat_iff.1 short).resolve_left other) whole

theorem leads_of_reaches (begins : s.LeadsToFolder fs "" [] top) (reached : s.Reaches fs id) :
    ∃ names, id = ofSegments names ∧ s.LeadsToFolder fs id names (top.down names) ∧
      s.Opens fs top names := by
  induction reached with
  | root => exact ⟨[], rfl, begins, opens_nil⟩
  | @step id entries e _ listed present kind ih =>
    obtain ⟨names, rfl, leads, opens⟩ := ih
    refine ⟨names ++ [e.name], ?_, ?_, opens_concat.2 ⟨opens, ?_⟩⟩
    · exact (mem_list leads listed present).1
    · rw [Location.down_concat]
      exact leads_of_listed leads listed present kind
    · exact (list_eq_ok_iff leads).1 ⟨entries, listed⟩

theorem reaches_of_opens (begins : s.LeadsToFolder fs "" [] top)
    (folder : fs.tree.isFolder (top.down names) = true) (opens : s.Opens fs top names) :
    s.Reaches fs (ofSegments names) ∧ s.LeadsToFolder fs (ofSegments names) names
      (top.down names) := by
  induction names using List.reverseRecOn with
  | nil => exact ⟨.root, begins⟩
  | append_singleton names name ih =>
    rw [Location.down_concat] at folder ⊢
    obtain ⟨upper, open_⟩ := opens_concat.1 opens
    obtain ⟨time, there⟩ := Tree.isFolder_iff_node?.1 folder
    obtain ⟨above, leads⟩ := ih (Tree.isFolder_of_node? there) upper
    obtain ⟨entries, listed⟩ := (list_eq_ok_iff leads).2 open_
    have present := (mem_list_iff leads listed).2 (.folder there)
    exact ⟨.step above listed present rfl, leads_of_listed leads listed present rfl⟩

/-- Listings lead from the root to the real folders below it, as far as those above them can be
listed. -/
theorem reaches_iff (begins : s.LeadsToFolder fs "" [] top) :
    (∃ id, s.Reaches fs id ∧ s.place? fs id = some place) ↔
      ∃ names, place = top.down names ∧ fs.tree.isFolder place = true ∧
        s.Opens fs top names := by
  constructor
  · rintro ⟨id, reached, found⟩
    obtain ⟨names, _, leads, opens⟩ := leads_of_reaches begins reached
    obtain rfl := Option.some.inj (found.symm.trans leads.place?_eq)
    exact ⟨names, rfl, leads.folder, opens⟩
  · rintro ⟨names, rfl, folder, opens⟩
    obtain ⟨reached, leads⟩ := reaches_of_opens begins folder opens
    exact ⟨_, reached, leads.place?_eq⟩

/-- A folder is listed exactly if the operating system allows the paths to all files and folders in
it that have a text for their name; otherwise the listing names one to which it refuses the path.
What is listed are these files and folders and the links that lead to files, each of them once, the
newest first, and the id of a folder leads to that very folder. So the listings lead from the root
to all folders that lie below it with texts for their names, as far as the folders above them can be
listed. -/
theorem list_tells (s : Local) (fs : FileSystem) :
    (∀ id segments at_, s.LeadsToFolder fs id segments at_ →
      ((∃ entries, (s.list fs id).result = .ok entries) ↔ s.Listable fs segments at_) ∧
      (∀ fault, (s.list fs id).result = .error fault → s.Blocks fs segments at_ fault) ∧
      ∀ entries, (s.list fs id).result = .ok entries →
      s.IsInventory fs segments at_ entries) ∧
    ∀ top, s.LeadsToFolder fs "" [] top → ∀ place,
      (∃ id, s.Reaches fs id ∧ s.place? fs id = some place) ↔
        ∃ names, place = top.down names ∧ fs.tree.isFolder place = true ∧
          s.Opens fs top names :=
  ⟨fun _ _ _ leads =>
    ⟨list_eq_ok_iff leads, fun _ => list_eq_error leads, fun _ => isInventory_of_list leads⟩,
    fun _ begins _ => reaches_iff begins⟩

/-- A folder that holds a file, a hidden folder, a link to a file outside of it, and a link to
itself. -/
def cabinet : FileSystem where
  tree := FileSystem.Tree.empty
    |>.add [.text "s"] (.folder 1)
    |>.add [.text "f", .text "s"] (.file .empty 2)
    |>.add [.text "k", .text "s"] (.link ".")
    |>.add [.text ".d", .text "s"] (.folder 5)
    |>.add [.text "l", .text "s"] (.link "/t")
    |>.add [.text "t"] (.file .empty 4)

theorem leads_cabinet {id : String} (cut : segments? id = some []) :
    LeadsToFolder ⟨"/s"⟩ cabinet id [] [.text "s"] :=
  ⟨cut, by cbv, by decide⟩

/-- The hidden folder is listed, and a link as the file that it leads to, but not the link to the
folder. -/
theorem list_tells_cabinet :
    let s : Local := ⟨"/s"⟩
    let entries : List Entry :=
      [⟨".d", ".d", .folder, 5, true⟩, ⟨"l", "l", .file, 4, false⟩,
        ⟨"f", "f", .file, 2, false⟩]
    (s.LeadsToFolder cabinet "./" [] [.text "s"] ∧ s.LeadsToFolder cabinet "" [] [.text "s"]) ∧
      (s.list cabinet "./").result = .ok entries ∧
        s.IsInventory cabinet [] [.text "s"] entries ∧
      s.Listable cabinet [] [.text "s"] ∧
        (∀ e, s.Tells cabinet [] [.text "s"] e → e.name ≠ "k") ∧
      ∃ id, s.Reaches cabinet id ∧ s.place? cabinet id = some [.text ".d", .text "s"] := by
  intro s entries
  have leads : s.LeadsToFolder cabinet "./" [] [.text "s"] := leads_cabinet (by decide)
  have begins : s.LeadsToFolder cabinet "" [] [.text "s"] := leads_cabinet (by decide)
  have listed : (s.list cabinet "./").result = .ok entries := by cbv
  obtain ⟨opens, _, inventory⟩ := (list_tells s cabinet).1 _ _ _ leads
  have open_ := opens.1 ⟨entries, listed⟩
  have whole := inventory entries listed
  refine ⟨⟨leads, begins⟩, listed, whole, open_, fun e tells => ?_, ?_⟩
  · have only : ∀ e ∈ entries, e.name ≠ "k" := by decide
    exact only e ((whole.complete e).2 tells)
  · have way : s.Opens cabinet [.text "s"] ([] ++ [".d"]) := opens_concat.2 ⟨opens_nil, open_⟩
    exact ((list_tells s cabinet).2 _ begins _).2 ⟨[".d"], rfl, by decide, way⟩

/-! ## A root with a long path -/

/-- A storage with a root of which the path ends with slashes. -/
def slashed (count : Nat) : Local := ⟨String.ofList ('s' :: List.replicate count '/')⟩

theorem parts_slashed (count : Nat) :
    parts (slashed count).root = "s" :: List.replicate count "" := by
  have blanks : ∀ n, splitSlash (List.replicate n '/') = List.replicate (n + 1) [] := by
    intro n
    induction n with
    | zero => rfl
    | succ n ih => rw [List.replicate_succ, splitSlash, if_pos rfl, ih]; rfl
  rw [slashed, parts, String.toList_ofList, splitSlash, if_neg (by decide), blanks]
  simp [List.replicate_succ]

theorem utf8ByteSize_slashed (count : Nat) : (slashed count).root.utf8ByteSize = count + 1 := by
  induction count with
  | zero => decide
  | succ count ih =>
    have longer : (slashed (count + 1)).root = (slashed count).root ++ "/" := by
      rw [← String.toList_inj]
      simp [slashed, List.replicate_succ']
    rw [longer, String.utf8ByteSize_append, ih]
    rfl

theorem utf8ByteSize_push (base name : String) :
    base.utf8ByteSize + name.utf8ByteSize ≤ (push base name).utf8ByteSize := by
  rw [push]
  split
  · rw [String.utf8ByteSize_append]
  · rw [String.utf8ByteSize_append, String.utf8ByteSize_append]
    omega

/-- There is no room for a name after a path that is as long as allowed. -/
theorem not_allows_slashed {count : Nat} (full : fs.limits.pathBytes = count + 1)
    (some_ : 0 < name.utf8ByteSize) : ¬fs.Allows (pushAll (slashed count).root [name]) := by
  rintro ⟨usable, _⟩
  have size := utf8ByteSize_push (slashed count).root name
  rw [utf8ByteSize_slashed] at size
  have long : (push (slashed count).root name).utf8ByteSize > fs.limits.pathBytes := by omega
  simp only [checkText, pushAll, List.foldl_cons, List.foldl_nil, long, if_true] at usable
  split at usable
  · cases usable
  · split at usable <;> cases usable

theorem leads_slashed {count : Nat} {time : Time} (room : count + 1 ≤ fs.limits.pathBytes)
    (short : 1 ≤ fs.limits.nameBytes) (current : fs.current = [])
    (there : fs.tree.node? [.text "s"] = some (.folder time)) :
    (slashed count).LeadsToFolder fs "" [] [.text "s"] := by
  have folder : fs.tree.isFolder [.text "s"] = true := Tree.isFolder_iff_node?.2 ⟨time, there⟩
  have only : ∀ c ∈ (slashed count).root.toList, c = 's' ∨ c = '/' := by
    intro c present
    rw [slashed, String.toList_ofList] at present
    exact (List.mem_cons.1 present).imp_right List.eq_of_mem_replicate
  refine ⟨by decide, FileSystem.resolve_eq_ok.2 ⟨?_, ?_⟩, folder⟩
  · have clean : '\x00' ∉ (slashed count).root.toList := fun nul => by simpa using only _ nul
    have filled : (slashed count).root ≠ "" := by
      intro empty
      have size := utf8ByteSize_slashed count
      simp [empty] at size
    have fits : ¬(slashed count).root.utf8ByteSize > fs.limits.pathBytes := by
      rw [utf8ByteSize_slashed]
      omega
    show fs.checkText (slashed count).root = .ok ()
    rw [checkText, if_neg (by simpa using clean), if_neg filled, if_neg fits]
  · have looks : LooksUp fs.tree fs.limits.nameBytes [] "s" :=
      ⟨rfl, by decide, by decide, short⟩
    have begun : start (slashed count).root fs.current = [] := by
      rw [current, start]
      split <;> rfl
    show follow _ _ _ _ (start (slashed count).root fs.current) (parts (slashed count).root) = _
    rw [begun, parts_slashed, follow_eq, looks.descend_onto ⟨_, there, by simp⟩,
      descend_blank folder (fun _ => List.eq_of_mem_replicate)]

/-- Below a root with a path of 4095 bytes a file is not listed: the listing of the root fails. -/
theorem list_refused_slashed :
    (slashed 4094).LeadsToFolder cabinet "" [] [.text "s"] ∧
      (∃ content time, cabinet.tree.node? [.text "f", .text "s"] = some (.file content time)) ∧
      ∀ entries, ((slashed 4094).list cabinet "").result ≠ .ok entries := by
  have leads : (slashed 4094).LeadsToFolder cabinet "" [] [.text "s"] :=
    leads_slashed (by decide) (by decide) rfl (by cbv)
  refine ⟨leads, ⟨.empty, 2, by cbv⟩, fun entries listed => ?_⟩
  have allowed :=
    (list_eq_ok_iff leads).1 ⟨entries, listed⟩ "f" ⟨.file .empty 2, by cbv, by simp⟩
  exact not_allows_slashed rfl (by decide) allowed

end TreeFetch.Storage.Local
