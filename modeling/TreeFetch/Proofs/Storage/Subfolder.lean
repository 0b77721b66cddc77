import TreeFetch.Proofs.Storage.Complete
import TreeFetch.Proofs.Storage.Contents
import TreeFetch.Proofs.Storage.Parallel
import TreeFetch.Proofs.Storage.Placement
import TreeFetch.Proofs.Storage.Termination
import TreeFetch.Proofs.Storage.Unchanged

/-!
# Searching a subfolder

A search of a folder is the part of a search of the whole storage that goes through this folder. On
the way down to the folder there is one entry in each listing that leads on, and nothing that is
found elsewhere lies below the folder. From the folder on, the two walks go side by side: the one
from the root has come down as many levels as its depth limit is greater, and puts the path of the
folder before all paths. Files of equal time stay in their order when some of them are left out.

Results:
1. `Search.visitEntries_narrow`: what is found behind one entry among others.
2. `Local.visitFolder_narrow`: what a walk finds below a folder that it goes into.
3. `search_subfolder`: a search of a folder, from a search of the root.
-/

namespace TreeFetch.Storage

open FileSystem PathText Search

/-- The same limits for a search that begins a number of levels higher. -/
def Limits.deeper (limits : Limits) (levels : Nat) : Limits :=
  { limits with maxDepth := limits.maxDepth.map (· + levels) }

/-- The path of what has the given path below a folder with the path `above`. -/
def pathBelow (above path : String) : String := if path = "" then above else above ++ "/" ++ path

theorem pathBelow_empty (above : String) : pathBelow above "" = above := if_pos rfl

theorem childPath_pathBelow {above name : String} (filled : above ≠ "") (named : name ≠ "")
    (path : String) :
    childPath (pathBelow above path) name = pathBelow above (childPath path name) := by
  unfold pathBelow childPath
  by_cases top : path = ""
  · simp [top, filled, named]
  · simp [top, String.append_assoc]

/-! ## One entry among others -/

/-- If what is found at all entries but one is left out, then what is found behind this one is
left. -/
theorem Search.visitEntries_narrow {pattern : Regex.Pattern} {limits : Limits} {parent : String}
    {enter : (id path : String) → (found : Nat) → Visit} {before after : List Entry} {e : Entry}
    {p : File → Bool} (unlimited : limits.maxResults = none) (down : e.Descends)
    (deeper : ∀ x ∈ before ++ after, x.Descends → ∀ found,
      ∀ f ∈ (enter x.id (childPath parent x.name) found).files, ¬p f = true)
    (here : ∀ x ∈ before ++ after, x.Matches pattern →
      ¬p ⟨x.id, x.name, childPath parent x.name, x.modified⟩ = true)
    {found : Nat}
    (ended : (visitEntries pattern limits parent enter (before ++ e :: after) found).stop = none) :
    ∃ found', (enter e.id (childPath parent e.name) found').stop = none ∧
      (visitEntries pattern limits parent enter (before ++ e :: after) found).files.filter p =
        (enter e.id (childPath parent e.name) found').files.filter p := by
  induction before generalizing found with
  | nil =>
    obtain ⟨visit, visits, whole⟩ :=
      visitEntries_cons pattern parent enter e after (isFull_unlimited unlimited found)
    rw [List.nil_append, whole] at ended ⊢
    obtain ⟨now, _, files⟩ := andThen_ended ended
    obtain rfl := visits.entered down
    have none_ : ∀ found',
        (visitEntries pattern limits parent enter after found').files.filter p = [] := by
      intro found'
      rw [List.filter_eq_nil_iff]
      intro f present
      exact visitEntries_sound deeper here found' present
    refine ⟨found, now, ?_⟩
    rw [files, List.filter_append, none_, List.append_nil]
  | cons x before ih =>
    obtain ⟨visit, visits, whole⟩ :=
      visitEntries_cons pattern parent enter x (before ++ e :: after)
        (isFull_unlimited unlimited found)
    rw [List.cons_append, whole] at ended ⊢
    obtain ⟨_, later, files⟩ := andThen_ended ended
    have first := List.mem_cons_self (a := x) (l := before ++ after)
    have none_ : visit.files.filter p = [] := by
      rw [List.filter_eq_nil_iff]
      exact visits.sound (fun down => deeper x first down found) (here x first)
    obtain ⟨found', ended', same⟩ :=
      ih (fun y present => deeper y (List.mem_cons_of_mem x present))
      (fun y present => here y (List.mem_cons_of_mem x present)) later
    refine ⟨found', ended', ?_⟩
    rw [files, List.filter_append, none_, List.nil_append, same]

namespace Local

variable {s : Local} {fs : FileSystem} {id start name other : String}
    {segments names passed more : List String}
  {at_ top : Location} {e : Entry} {f : File} {pattern : Regex.Pattern} {limits : Limits}

/-! ## The way down -/

/-- The entries of a listing before and after one of them have other names. -/
theorem name_ne_of_list {before after : List Entry} {e : Entry}
    (h : (s.list fs id).result = .ok (before ++ e :: after)) :
    ∀ x ∈ before ++ after, e.name ≠ x.name := by
  have distinct := list_distinct h
  rw [List.map_append, List.map_cons, List.nodup_middle,
    List.nodup_cons, ← List.map_append] at distinct
  intro x present same
  exact distinct.1 (same ▸ List.mem_map_of_mem present)

/-- What a walk finds when it goes into an entry lies below this entry. -/
theorem Lists.visit_below {levels depth found : Nat} (leads : s.LeadsToFolder fs id segments at_)
    (lists : s.Lists fs segments at_ e) (down : e.Descends) (named : ∀ n ∈ passed, IsName n) :
    ∀ f ∈
      (visitFolder s.client fs pattern limits levels depth e.id (ofSegments (passed ++ [e.name]))
      found).files, ∃ more, s.Below fs segments at_ passed (e.name :: more) f := by
  intro f present
  have named' : ∀ n ∈ passed ++ [e.name], IsName n :=
    List.forall_mem_append.2 ⟨named, List.forall_mem_singleton.2 lists.named⟩
  obtain ⟨more, below⟩ := (visitFolder_below (lists.folder down.kind) named').each f present
  exact ⟨more, below.head leads.folder lists.named⟩

/-- What lies below an entry of a folder goes through this entry and through no other one. -/
theorem Below.through_iff (named : ∀ n ∈ passed, IsName n)
    (h : s.Below fs segments at_ passed (other :: more) f) :
    passed ++ [name] <+: f.names ↔ name = other := by
  rw [h.names_eq named, List.prefix_append_right_inj, List.cons_prefix_cons]
  exact and_iff_left (List.nil_prefix)

/-- What a walk without a limit of results finds below an entry of a folder, it finds when it goes
on to this entry. -/
theorem visitFolder_next {levels found : Nat} (unlimited : limits.maxResults = none)
    (enters : Enters fs limits start segments top (names ++ [name]))
    (leads : s.LeadsToFolder fs (idBelow start segments names) (segments ++ names)
      (top.down names)) :
    let visit := visitFolder s.client fs pattern limits levels names.length
      (idBelow start segments names) (ofSegments names) found
    visit.stop = none →
    s.LeadsToFolder fs (idBelow start segments (names ++ [name])) (segments ++ (names ++ [name]))
        (top.down (names ++ [name])) ∧
      ∃ fewer found',
        let inner := visitFolder s.client fs pattern limits fewer (names ++ [name]).length
          (idBelow start segments (names ++ [name])) (ofSegments (names ++ [name])) found'
        inner.stop = none ∧ inner.files = visit.files.filter fun f =>
          names ++ [name] <+: f.names := by
  intro visit ended
  have named : ∀ n ∈ names, IsName n := fun n present =>
    isName_of_segments? leads.cut n (List.mem_append_right _ present)
  have path : ∀ n, childPath (ofSegments names) n = ofSegments (names ++ [n]) :=
    childPath_ofSegments fun n present => (named n present).ne_empty
  obtain ⟨fewer, entries, opened, entered, files⟩ :=
    visitFolder_complete ⟨ended, isFull_unlimited unlimited _⟩ enters.init.admitted
  obtain ⟨e, present, rfl, down, below, goes⟩ := enters.entry leads opened.listed
  have lists := leads.lists opened.listed
  obtain ⟨before, after, rfl⟩ := List.append_of_mem present
  have apart := name_ne_of_list opened.listed
  have listed : ∀ x ∈ before ++ after, s.Lists fs (segments ++ names) (top.down names) x :=
    fun x among => lists x ((List.sublist_cons_self e after).append_left before |>.subset among)
  obtain ⟨found', ended', same⟩ :=
    visitEntries_narrow (p := fun f => names ++ [e.name] <+: f.names) unlimited down
      (fun x among descends found f met => by
        rw [path] at met
        obtain ⟨more, lies⟩ := (listed x among).visit_below leads descends named f met
        simpa [lies.through_iff named] using apart x among)
      (fun x among kept => by
        have lies := (listed x among).below leads kept.kind (path x.name)
        simpa [lies.through_iff named] using apart x among)
      entered.ended
  rw [← below, List.length_append, List.length_singleton]
  rw [path] at ended' same
  refine ⟨goes, fewer, found', ended', ?_⟩
  show (visitFolder ..).files = (visitFolder ..).files.filter _
  rw [files, same, eq_comm, List.filter_eq_self]
  intro f met
  obtain ⟨more, lies⟩ := (lists e present).visit_below leads down named f met
  simp [lies.through_iff named]

/-- What a walk without a limit of results finds below a folder that it goes into, it finds when it
visits this folder. -/
theorem visitFolder_narrow {levels : Nat} (begins : s.LeadsToFolder fs start segments top)
    (unlimited : limits.maxResults = none) (enters : Enters fs limits start segments top names)
    (ended : (visitFolder s.client fs pattern limits levels 0 start "" 0).stop = none) :
    s.LeadsToFolder fs (idBelow start segments names) (segments ++ names) (top.down names) ∧
      ∃ fewer found,
        let visit := visitFolder s.client fs pattern limits fewer names.length
          (idBelow start segments names) (ofSegments names) found
        visit.stop = none ∧
          visit.files = (visitFolder s.client fs pattern limits levels 0 start "" 0).files.filter
            fun f => names <+: f.names := by
  induction names using List.reverseRecOn with
  | nil =>
    refine ⟨by rwa [List.append_nil], levels, 0, ended, ?_⟩
    rw [List.filter_eq_self.2 fun f _ => by simp]
    rfl
  | append_singleton names name ih =>
    obtain ⟨leads, more, found, ended, files⟩ := ih enters.init
    obtain ⟨leads', fewer, found', ended', files'⟩ :=
      visitFolder_next unlimited enters leads ended
    refine ⟨leads', fewer, found', ended', ?_⟩
    rw [files', files, List.filter_filter]
    congr 1
    funext f
    simpa using fun through => (List.prefix_append names [name]).trans through

/-! ## From the folder on -/

/-- Below a folder with the path `above`, a walk that began higher goes the same way. -/
theorem parallel_deeper (s : Local) (fs : FileSystem) (limits : Limits) {above : String}
    (filled : above ≠ "") (levels : Nat) :
    Parallel Eq (pathBelow above) s.client fs s.client fs limits (limits.deeper levels) levels where
  list _ := .of_eq rfl
  maxDepth := rfl
  excluded := rfl
  paths _ _ listed e present path := by
    obtain ⟨_, _, _, lists⟩ := list_lists listed
    exact childPath_pathBelow filled (lists e present).named.ne_empty path

theorem enters_deeper (down : fs.tree.isFolder (top.down names) = true)
    (shown : ∀ n ∈ names, n.startsWith "." = false)
    (included : ∀ init, init <+: names → idBelow start segments init ∉ limits.excluded) :
    Enters fs (limits.deeper names.length) start segments top names where
  folder := down
  shown := shown
  shallow most limit := by
    obtain ⟨lower, _, rfl⟩ := Option.map_eq_some_iff.1 limit
    exact Nat.le_add_left _ _
  included := included

theorem AllBelow.map_moved {files : List File} (h : s.AllBelow fs segments at_ [] files)
    (above : String) :
    files.map (File.moved (pathBelow above)) = files.map
      (File.moved fun path => above ++ "/" ++ path) := by
  refine List.map_congr_left fun f present => ?_
  obtain ⟨more, below⟩ := h.each f present
  have filled : f.path ≠ "" := by
    rw [below.path]
    exact ofSegments_ne_empty_of_isName below.named below.some_
  rw [File.moved, File.moved, pathBelow, if_neg filled]

/-- What a walk finds below a folder, if it ends by itself and has no limit of results, the walk
from this folder finds. -/
theorem walk_narrow (begins : s.LeadsToFolder fs start segments top) (some_ : names ≠ [])
    (unlimited : limits.maxResults = none)
    (enters : Enters fs (limits.deeper names.length) start segments top names) :
    let outer := walk s.client fs start pattern (limits.deeper names.length)
    let inner := walk s.client fs (idBelow start segments names) pattern limits
    outer.stop = none → inner.stop = none ∧
      inner.files.map (File.moved fun path => ofSegments names ++ "/" ++ path) =
        outer.files.filter fun f => names <+: f.names := by
  intro outer inner ended
  have unlimited' : (limits.deeper names.length).maxResults = none := unlimited
  obtain ⟨leads, fewer, found, ended', files⟩ :=
    visitFolder_narrow begins unlimited' enters ended
  have named : ∀ n ∈ names, IsName n := fun n present =>
    isName_of_segments? leads.cut n (List.mem_append_right _ present)
  have filled := ofSegments_ne_empty_of_isName named some_
  have walks :
    (visitFolder s.client fs pattern limits fewer 0 (idBelow start segments names) "" 0).Parallel Eq
      (pathBelow (ofSegments names))
        (visitFolder s.client fs pattern (limits.deeper names.length) fewer
        (0 + names.length) (idBelow start segments names)
        (pathBelow (ofSegments names) "") found) :=
    visitFolder_parallel (parallel_deeper s fs limits filled names.length) fewer 0 _ ""
      (SameRoom.unlimited unlimited unlimited' 0 found)
  rw [Nat.zero_add, pathBelow_empty] at walks
  have ends := walks.stop.eq.symm.trans ended'
  have same :=
    (terminates s fs pattern limits (idBelow start segments names)).walk_eq (by rw [ends]; simp)
  refine ⟨?_, ?_⟩
  · show (walk ..).stop = none
    rw [same, ends]
  · have inside : s.AllBelow fs (segments ++ names) (top.down names) [] inner.files :=
      visitFolder_below leads (List.forall_mem_nil _)
    rw [← inside.map_moved]
    show (walk ..).files.map _ = (visitFolder ..).files.filter _
    rw [same, ← walks.files, files]

/-! ## The whole search -/

/-- The ids of the files below a folder are those that lead on from its id. -/
theorem IsSpelled.leadsOn_iff {above : List String} (h : IsSpelled [] more f) (some_ : above ≠ [])
    (named : ∀ n ∈ above, IsName n) (other : f.names ≠ above) :
    LeadsOn (ofSegments above) f.id ↔ above <+: f.names := by
  constructor
  · intro on_
    have begins := prefix_of_leadsOn on_
    rwa [parts_ofSegments some_ fun n present =>
      (named n present).slashFree, h.parts_id, List.nil_append,
      ← h.names_eq] at begins
  · rintro ⟨rest, same⟩
    have others : rest ≠ [] := by
      rintro rfl
      exact other (by rw [← same, List.append_nil])
    refine ⟨ofSegments rest, ?_⟩
    rw [h.id, List.nil_append, ← h.names_eq, ← same, ofSegments_append some_ others]

end Local

open Local

/-- A search of a folder below the root, from a search of the whole storage that may go down as many
more levels as there are names on the way to the folder. The search of the folder succeeds, too. It
finds those of the files of which the ids go on after the id of the folder, in their order, with the
rest of their paths. -/
theorem search_subfolder {s : Local} {fs : FileSystem} {pattern : Regex.Pattern} {limits : Limits}
    {folder : Option String} {names : List String} {top : Location} {files : List File}
    (begins : Begins s.client fs folder "") (rooted : fs.locate? s.root = some top)
    (some_ : names ≠ []) (down : fs.tree.isFolder (top.down names) = true)
    (shown : ∀ n ∈ names, n.startsWith "." = false)
    (included : ∀ init, init <+: names → ofSegments init ∉ limits.excluded)
    (unlimited : limits.maxResults = none)
    (whole : (search s.client fs folder pattern (limits.deeper names.length)).result = .ok files) :
    ∃ inner, (search s.client fs (some (ofSegments names)) pattern limits).result = .ok inner ∧
      inner.map (File.moved fun path => ofSegments names ++ "/" ++ path) =
        files.filter fun f => LeadsOn (ofSegments names) f.id := by
  have leads : s.LeadsToFolder fs "" [] top :=
    ⟨by decide, locate?_eq_some.1 rooted, isFolder_of_down down⟩
  have enters : Enters fs (limits.deeper names.length) "" [] top names :=
    enters_deeper down shown fun init short => by
      rw [idBelow_root]
      exact included init short
  have unlimited' : (limits.deeper names.length).maxResults = none := unlimited
  obtain ⟨ended, found⟩ := walk_of_search begins unlimited' whole
  obtain ⟨ended', moved⟩ := walk_narrow leads some_ unlimited enters ended
  rw [idBelow_root] at ended' moved
  refine ⟨_, search_result_of_walk rfl unlimited ended', ?_⟩
  have ids : ∀ f ∈ files, LeadsOn (ofSegments names) f.id ↔ names <+: f.names := by
    intro f present
    obtain ⟨segments, top', leads', below⟩ := search_below begins whole present
    obtain ⟨rfl, rfl⟩ := leads.unique leads'
    obtain ⟨more, inside⟩ := below.each f present
    obtain ⟨_, spelled⟩ := isSpelled_of_meets leads (search_sound begins whole present) inside
    refine spelled.leadsOn_iff some_ (isName_of_down (Tree.solid_of_isFolder down)) ?_
    rw [inside.names_eq (List.forall_mem_nil _), List.nil_append]
    rintro rfl
    cases down.symm.trans inside.shut
  calc (newestFirst (walk s.client fs (ofSegments names) pattern limits).files).map
        (File.moved fun path => ofSegments names ++ "/" ++ path)
    _ = newestFirst ((walk s.client fs (ofSegments names) pattern limits).files.map
        (File.moved fun path => ofSegments names ++ "/" ++ path)) :=
          List.map_mergeSort fun _ _ _ _ => rfl
    _ = files.filter fun f => names <+: f.names := by
      rw [moved, found]
      exact (filter_mergeSort_newest File.modified _ _).symm
    _ = files.filter fun f => LeadsOn (ofSegments names) f.id := by
      refine List.filter_congr fun f present => ?_
      rw [decide_eq_decide, ids f present]

/-! ## A folder in a nested storage -/

set_option maxRecDepth 100000 in
theorem Local.nested_whole :
    (search (Local.client ⟨"/"⟩) Local.nested none
      ((Regex.Pattern.compile "").toOption.getD default)
      { maxDepth := some 2 }).result =
        .ok [⟨"t", "t", "t", 4⟩, ⟨"a/d/l", "l", "a/d/l", 4⟩,
          ⟨"a/f", "f", "a/f", 2⟩] := by
  cbv

/-- The file outside of the folder is left out, although it has the time of another one. -/
theorem search_subfolder_nested :
    let s : Local := ⟨"/"⟩
    let pattern := (Regex.Pattern.compile "").toOption.getD default
    let limits : Limits := { maxDepth := some 1 }
    let t : File := ⟨"t", "t", "t", 4⟩
    let l : File := ⟨"a/d/l", "l", "a/d/l", 4⟩
    let f : File := ⟨"a/f", "f", "a/f", 2⟩
    (Begins s.client Local.nested none "" ∧ Local.nested.locate? s.root = some [] ∧
      Local.nested.tree.isFolder (Location.down [] ["a"]) = true ∧
      (search s.client Local.nested none pattern (limits.deeper 1)).result = .ok [t, l, f]) ∧
    ∃ inner, (search s.client Local.nested (some "a") pattern limits).result = .ok inner ∧
      inner.map (File.moved fun path => "a" ++ "/" ++ path) = [l, f] := by
  intro s pattern limits t l f
  have begins : Begins s.client Local.nested none "" := rfl
  have rooted : Local.nested.locate? s.root = some [] := by cbv
  have down : Local.nested.tree.isFolder (Location.down [] ["a"]) = true := by cbv
  have shown : "a".startsWith "." = false := by cbv
  have whole : (search s.client Local.nested none pattern (limits.deeper 1)).result =
      .ok [t, l, f] :=
    Local.nested_whole
  refine ⟨⟨begins, rooted, down, whole⟩, ?_⟩
  obtain ⟨inner, result, files⟩ := search_subfolder begins rooted (List.cons_ne_nil "a" []) down
    (List.forall_mem_singleton.2 shown) (fun _ _ => List.not_mem_nil) rfl whole
  refine ⟨inner, result, files.trans ?_⟩
  decide

end TreeFetch.Storage
