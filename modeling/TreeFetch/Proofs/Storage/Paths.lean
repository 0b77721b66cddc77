import TreeFetch.Proofs.Storage.LocalWalk

/-!
# The paths of found files

A walk through a local storage adds the same names to the path of a file and to the segments of its
id. They lead over real folders to what is no folder, and no folder names two of its entries alike.
So the files that a search returns can all be saved under their paths: none of the paths is the path
of another file, or of a folder on the way to one.

Results:
1. `Local.list_distinct`: the entries of a listing have different names.
2. `Local.visitFolder_below`: what a walk finds below a folder, and that all paths differ.
3. `Local.search_apart`: none of the paths that a search returns leads on to another one.
-/

namespace TreeFetch.Storage

open FileSystem PathText Search

def File.names (f : File) : List String := (segments? f.path).getD []

def File.Apart (f g : File) : Prop := ¬f.names <+: g.names ∧ ¬g.names <+: f.names

namespace Local

variable {s : Local} {fs : FileSystem} {id start : String}
    {segments passed more others : List String}
  {at_ top : Location} {e : Entry} {f g : File} {pattern : Regex.Pattern} {limits : Limits}

/-! ## Listings -/

theorem children_distinct (tree : Tree) (at_ : Location) :
    ((tree.children at_).map (·.1)).Nodup := by
  refine List.pairwise_map.2 (List.Pairwise.filterMap _ ?_ (List.pairwise_map.1 tree.distinct))
  rintro ⟨place, node⟩ ⟨place', node'⟩ other child here child' there same
  match place, place' with
  | [], _ => cases here
  | _ :: _, [] => cases there
  | name :: up, name' :: up' =>
    simp only [Option.ite_none_right_eq_some, Option.some.injEq] at here there
    obtain ⟨rfl, rfl⟩ := here
    obtain ⟨rfl, rfl⟩ := there
    exact other (congrArg (· :: up') same)

theorem name_of_examine {folder : String} {child : Name × Node}
    (h : (examine fs segments folder child).listed? = some e) : child.1 = .text e.name := by
  rw [Finding.listed?_eq_some] at h
  obtain ⟨name, node⟩ := child
  cases name with
  | raw bytes => cases h
  | text name => exact congrArg Name.text (examineText_eq_entry h).1.symm

theorem list_distinct {entries : List Entry} (h : (s.list fs id).result = .ok entries) :
    (entries.map (·.name)).Nodup := by
  obtain ⟨segments, at_, _, rfl, _⟩ := list_eq_ok h
  rw [((newestFirst_perm _).map _).nodup_iff]
  refine List.pairwise_map.2 (List.Pairwise.filterMap _ ?_
    (List.pairwise_map.1 (children_distinct fs.tree at_)))
  intro child child' other e here e' there same
  exact other (by rw [name_of_examine here, name_of_examine there, same])

theorem Lists.shut (leads : s.LeadsToFolder fs id segments at_) (lists : s.Lists fs segments at_ e)
    (file : e.kind = .file) : fs.tree.isFolder (.text e.name :: at_) = false := by
  rw [← Bool.not_eq_true]
  intro folder
  obtain ⟨t, there⟩ := Tree.isFolder_iff_node?.1 folder
  obtain ⟨place, source⟩ := lists.file file
  obtain ⟨content, time, found⟩ := source.found
  have direct := leads.child lists.named there (by simp) (pushAll_concat _ _ _ ▸ found)
  have node := (stat_eq_ok.1 found).2
  rw [direct, there] at node
  cases node

/-! ## Walks -/

/-- A file lies below the folder with the given segments and location: `more` names lead to it. The
walk has passed folders with the names `passed` before. -/
structure Below (s : Local) (fs : FileSystem) (segments : List String) (at_ : Location)
    (passed more : List String) (f : File) : Prop where
  some_ : more ≠ []
  named : ∀ n ∈ more, IsName n
  path : f.path = ofSegments (passed ++ more)
  source : ∃ place, s.LeadsToFile fs f.id (segments ++ more) place
  folders : ∀ init, init <+: more → init ≠ more → fs.tree.isFolder (at_.down init) = true
  shut : fs.tree.isFolder (at_.down more) = false

/-- Files lie below a folder, and each of them has another path. -/
structure AllBelow (s : Local) (fs : FileSystem) (segments : List String) (at_ : Location)
    (passed : List String) (files : List File) : Prop where
  each : ∀ f ∈ files, ∃ more, s.Below fs segments at_ passed more f
  distinct : files.Pairwise fun f g => f.path ≠ g.path

theorem Below.names_eq (h : s.Below fs segments at_ passed more f)
    (named : ∀ n ∈ passed, IsName n) :
    f.names = passed ++ more := by
  have all : ∀ n ∈ passed ++ more, IsName n := by
    intro n present
    rcases List.mem_append.1 present with above | below
    · exact named n above
    · exact h.named n below
  rw [File.names, h.path, segments?_ofSegments all]
  rfl

/-- The entry of a folder to which a walk goes, or which it keeps. -/
theorem Below.head {name : String} (folder : fs.tree.isFolder at_ = true) (named : IsName name)
    (h : s.Below fs (segments ++ [name]) (.text name :: at_) (passed ++ [name]) more f) :
    s.Below fs segments at_ passed (name :: more) f where
  some_ := List.cons_ne_nil _ _
  named := List.forall_mem_cons.2 ⟨named, h.named⟩
  path := by rw [h.path, List.append_assoc, List.singleton_append]
  source := by simpa using h.source
  folders init short other := by
    cases init with
    | nil => exact folder
    | cons first init =>
      obtain ⟨rfl, inner⟩ := (List.cons_prefix_cons).1 short
      exact h.folders init inner fun same => other (by rw [same])
  shut := h.shut

theorem Lists.below (leads : s.LeadsToFolder fs id segments at_) (lists : s.Lists fs segments at_ e)
    (file : e.kind = .file) {path : String} (named : path = ofSegments (passed ++ [e.name])) :
    s.Below fs segments at_ passed [e.name] ⟨e.id, e.name, path, e.modified⟩ where
  some_ := List.cons_ne_nil _ _
  named := List.forall_mem_singleton.2 lists.named
  path := named
  source := lists.file file
  folders init short other := by
    obtain rfl : init = [] := by
      cases init with
      | nil => rfl
      | cons first init =>
        obtain ⟨rfl, inner⟩ := (List.cons_prefix_cons).1 short
        exact absurd (by rw [List.prefix_nil.1 inner]) other
    exact leads.folder
  shut := lists.shut leads file

theorem Below.path_ne {name name' : String} (named : ∀ n ∈ passed, IsName n)
    (other : name ≠ name') (h : s.Below fs segments at_ passed (name :: more) f)
    (h' : s.Below fs segments at_ passed (name' :: others) g) : f.path ≠ g.path := by
  intro same
  have names : f.names = g.names := by rw [File.names, File.names, same]
  rw [h.names_eq named, h'.names_eq named, List.append_cancel_left_eq] at names
  exact other (List.cons.inj names).1

/-- Files lie below the entries of a folder, and each of them has another path. -/
structure AllBelowEntries (s : Local) (fs : FileSystem) (segments : List String) (at_ : Location)
    (passed : List String) (entries : List Entry) (files : List File) : Prop where
  each : ∀ f ∈ files, ∃ e ∈ entries, ∃ more,
    s.Below fs segments at_ passed (e.name :: more) f
  distinct : files.Pairwise fun f g => f.path ≠ g.path

theorem AllBelowEntries.nil (entries : List Entry) :
    s.AllBelowEntries fs segments at_ passed entries [] :=
  ⟨List.forall_mem_nil _, .nil⟩

theorem AllBelowEntries.allBelow {entries : List Entry} {files : List File}
    (h : s.AllBelowEntries fs segments at_ passed entries files) :
    s.AllBelow fs segments at_ passed files := by
  refine ⟨fun f present => ?_, h.distinct⟩
  obtain ⟨e, _, more, below⟩ := h.each f present
  exact ⟨_, below⟩

theorem Lists.visitEntry_below {enter : (id path : String) → (found : Nat) → Visit}
    {found : Nat} {visit : Visit}
    (leads : s.LeadsToFolder fs id segments at_) (lists : s.Lists fs segments at_ e)
    (visits : VisitsEntry pattern (ofSegments (passed ++ [e.name])) enter found e visit)
    (deeper : e.Descends → s.AllBelow fs (segments ++ [e.name]) (.text e.name :: at_)
      (passed ++ [e.name]) (enter e.id (ofSegments (passed ++ [e.name])) found).files) :
    s.AllBelowEntries fs segments at_ passed [e] visit.files := by
  by_cases down : e.Descends
  · rw [visits.entered down]
    refine ⟨fun f present => ?_, (deeper down).distinct⟩
    obtain ⟨more, below⟩ := (deeper down).each f present
    exact ⟨e, List.mem_singleton_self e, more, below.head leads.folder lists.named⟩
  · by_cases kept : e.Matches pattern
    · rw [(visits.kept kept).1]
      refine ⟨List.forall_mem_singleton.2 ?_, List.pairwise_singleton _ _⟩
      exact ⟨e, List.mem_singleton_self e, [], lists.below leads kept.kind rfl⟩
    · rw [(visits.passed down kept).1]
      exact .nil _

/-- Files below one entry and files below others have different paths, since the names of the
entries differ. -/
theorem AllBelowEntries.append {first rest : List Entry} {files files' : List File}
    (h : s.AllBelowEntries fs segments at_ passed first files)
    (h' : s.AllBelowEntries fs segments at_ passed rest files') (named : ∀ n ∈ passed, IsName n)
    (names : ((first ++ rest).map (·.name)).Nodup) :
    s.AllBelowEntries fs segments at_ passed (first ++ rest) (files ++ files') := by
  constructor
  · intro f present
    rcases List.mem_append.1 present with now | after
    · obtain ⟨e, inside, below⟩ := h.each f now
      exact ⟨e, List.mem_append_left _ inside, below⟩
    · obtain ⟨e, inside, below⟩ := h'.each f after
      exact ⟨e, List.mem_append_right _ inside, below⟩
  · refine List.pairwise_append.2 ⟨h.distinct, h'.distinct, fun f now g after => ?_⟩
    obtain ⟨e, inside, more, below⟩ := h.each f now
    obtain ⟨e', inside', more', below'⟩ := h'.each g after
    rw [List.map_append, List.nodup_append] at names
    exact below.path_ne named
      (names.2.2 _ (List.mem_map_of_mem inside) _ (List.mem_map_of_mem inside')) below'

theorem visitEntries_below {enter : (id path : String) → (found : Nat) → Visit}
    {entries : List Entry} (leads : s.LeadsToFolder fs id segments at_)
    (lists : ∀ e ∈ entries, s.Lists fs segments at_ e)
    (names : (entries.map (·.name)).Nodup) (named : ∀ n ∈ passed, IsName n)
    (deeper : ∀ e ∈ entries, e.Descends → ∀ found, s.AllBelow fs (segments ++ [e.name])
      (.text e.name :: at_) (passed ++ [e.name])
      (enter e.id (ofSegments (passed ++ [e.name])) found).files)
    (found : Nat) :
    s.AllBelowEntries fs segments at_ passed entries
      (visitEntries pattern limits (ofSegments passed) enter entries found).files := by
  induction entries generalizing found with
  | nil => exact .nil _
  | cons e rest ih =>
    have first := List.mem_cons_self (a := e) (l := rest)
    have later : ∀ {x}, x ∈ rest → x ∈ e :: rest := List.mem_cons_of_mem e
    by_cases full : isFull limits found = true
    · rw [visitEntries_next, if_pos full]
      exact .nil _
    · obtain ⟨visit, visits, whole⟩ :=
        visitEntries_cons pattern (ofSegments passed) enter e rest (by simpa using full)
      rw [childPath_ofSegments fun n present => (named n present).ne_empty] at visits
      have here := (lists e first).visitEntry_below leads visits fun down =>
        deeper e first down found
      have others := ih (fun x present => lists x (later present)) (List.nodup_cons.1 names).2
        (fun x present => deeper x (later present)) (found + visit.files.length)
      rw [whole]
      rcases files_andThen visit fun more =>
        visitEntries pattern limits (ofSegments passed) enter rest (found + more) with only | both
      · rw [only]
        refine ⟨fun f present => ?_, here.distinct⟩
        obtain ⟨x, inside, below⟩ := here.each f present
        exact ⟨x, List.mem_singleton.1 inside ▸ first, below⟩
      · rw [both]
        exact here.append others named names

/-- What a walk finds lies below the folder that it visits, under paths that differ. -/
theorem visitFolder_below {levels depth found : Nat} (leads : s.LeadsToFolder fs id segments at_)
    (named : ∀ n ∈ passed, IsName n) :
    s.AllBelow fs segments at_ passed
      (visitFolder s.client fs pattern limits levels depth id (ofSegments passed) found).files := by
  have none_ : s.AllBelow fs segments at_ passed [] := ⟨List.forall_mem_nil _, .nil⟩
  induction levels generalizing depth id segments at_ passed found with
  | zero => exact none_
  | succ levels ih =>
    rcases visitFolder_files s.client fs pattern limits levels depth id
      (ofSegments passed) found with
      nothing | ⟨entries, opened, files⟩
    · rw [nothing]
      exact none_
    · have lists := leads.lists opened.listed
      have deeper : ∀ e ∈ entries, e.Descends →
        ∀ found, s.AllBelow fs (segments ++ [e.name])
          (.text e.name :: at_) (passed ++ [e.name]) (visitFolder s.client fs pattern limits levels
            (depth + 1) e.id (ofSegments (passed ++ [e.name])) found).files := by
        intro e present down found
        have entry := lists e present
        have named' : ∀ n ∈ passed ++ [e.name], IsName n :=
          List.forall_mem_append.2 ⟨named, List.forall_mem_singleton.2 entry.named⟩
        exact ih (entry.folder down.kind) named' ⟨List.forall_mem_nil _, .nil⟩
      rw [files]
      exact (visitEntries_below leads lists (list_distinct opened.listed)
        named deeper found).allBelow

/-! ## Searches -/

theorem AllBelow.perm {files files' : List File} (h : s.AllBelow fs segments at_ passed files)
    (same : files'.Perm files) : s.AllBelow fs segments at_ passed files' :=
  ⟨fun f present => h.each f (same.mem_iff.1 present),
    (same.pairwise_iff fun other => Ne.symm other).2 h.distinct⟩

theorem AllBelow.sublist {files files' : List File} (h : s.AllBelow fs segments at_ passed files)
    (fewer : files'.Sublist files) : s.AllBelow fs segments at_ passed files' :=
  ⟨fun f present => h.each f (fewer.subset present), h.distinct.sublist fewer⟩

/-- A walk that finds something begins at a folder of the storage. -/
theorem leadsToFolder_of_visitFolder {levels depth found : Nat} {path : String}
    (some_ : f ∈ (visitFolder s.client fs pattern limits levels depth id path found).files) :
    ∃ segments at_, s.LeadsToFolder fs id segments at_ := by
  cases levels with
  | zero => exact absurd some_ List.not_mem_nil
  | succ levels =>
    rcases visitFolder_files s.client fs pattern limits levels depth id path found with
      nothing | ⟨entries, opened, _⟩
    · rw [nothing] at some_
      exact absurd some_ List.not_mem_nil
    · obtain ⟨segments, at_, leads, _⟩ := list_lists opened.listed
      exact ⟨segments, at_, leads⟩

/-- What a search returns lies below the folder where it begins, under paths that differ. -/
theorem search_below {folder : Option String} {files : List File}
    (begins : Begins s.client fs folder start)
    (h : (search s.client fs folder pattern limits).result = .ok files) (present : f ∈ files) :
    ∃ segments top, s.LeadsToFolder fs start segments top ∧
      s.AllBelow fs segments top [] files := by
  obtain ⟨segments, top, leads⟩ :=
    leadsToFolder_of_visitFolder (mem_walk_of_search begins h present)
  have walked : s.AllBelow fs segments top [] (walk s.client fs start pattern limits).files :=
    visitFolder_below leads (List.forall_mem_nil _)
  exact ⟨segments, top, leads,
    (walked.perm (List.mergeSort_perm _ _)).sublist (prefix_of_search begins h).sublist⟩

/-- A file has a path that names something, and an id that leads to a file. -/
structure Traced (s : Local) (fs : FileSystem) (f : File) : Prop where
  cut : segments? f.path = some f.names
  some_ : f.names ≠ []
  source : ∃ origin held, s.LeadsToFile fs f.id origin held

theorem Below.traced (h : s.Below fs segments at_ [] more f) : s.Traced fs f := by
  have names : f.names = more := h.names_eq (List.forall_mem_nil _)
  obtain ⟨held, source⟩ := h.source
  refine ⟨?_, names ▸ h.some_, _, held, source⟩
  rw [names, h.path, List.nil_append, segments?_ofSegments h.named]

/-- None of the paths below a folder leads on to another one. -/
theorem AllBelow.apart {files : List File} (h : s.AllBelow fs segments at_ [] files) :
    files.Pairwise File.Apart := by
  refine h.distinct.imp_of_mem fun {f g} first second other => ?_
  obtain ⟨more, below⟩ := h.each f first
  obtain ⟨more', below'⟩ := h.each g second
  rw [File.Apart, below.names_eq (List.forall_mem_nil _), below'.names_eq (List.forall_mem_nil _),
    List.nil_append, List.nil_append]
  have differ : more ≠ more' := by
    rintro rfl
    exact other (below.path.trans below'.path.symm)
  constructor
  · intro leads
    cases (below'.folders more leads differ).symm.trans below.shut
  · intro leads
    cases (below.folders more' leads (Ne.symm differ)).symm.trans below'.shut

/-- None of the paths that a search returns leads on to another one, and all of them name files. -/
theorem search_apart {folder : Option String} {files : List File}
    (begins : Begins s.client fs folder start)
    (h : (search s.client fs folder pattern limits).result = .ok files) :
    files.Pairwise File.Apart ∧ ∀ f ∈ files, s.Traced fs f := by
  cases files with
  | nil => exact ⟨.nil, List.forall_mem_nil _⟩
  | cons first rest =>
    obtain ⟨segments, top, _, below⟩ := search_below begins h (List.mem_cons_self ..)
    refine ⟨below.apart, fun f present => ?_⟩
    obtain ⟨more, inside⟩ := below.each f present
    exact inside.traced

end Local

end TreeFetch.Storage
