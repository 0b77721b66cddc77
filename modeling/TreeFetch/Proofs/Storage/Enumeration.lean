import TreeFetch.Proofs.Storage.Children
import TreeFetch.Proofs.Storage.Parallel
import TreeFetch.Proofs.Storage.Termination

/-!
# The order in which a folder names what it holds

The operating system names what a folder holds in an order of its own. A listing puts it in the
order of the times, so that only entries of equal time stand in the order of the operating system.
If there are none in any folder, then the order makes no difference to a search: all listings are
the same, so that the walk goes the same way, finds the same files and has enough of them at the
same place. Files in different folders may well have equal times.

Results:
1. `Local.list_reordered`: a listing in two orders.
2. `search_reordered`: a search in two orders.
-/

namespace TreeFetch.FileSystem

/-- Two file systems are the same but for the order in which each folder names what it holds. -/
structure Reordered (fs fs' : FileSystem) : Prop where
  children : ∀ at_, (fs'.tree.children at_).Perm (fs.tree.children at_)
  current : fs'.current = fs.current
  limits : fs'.limits = fs.limits

namespace Reordered

variable {fs fs' : FileSystem} {path : String} {found : Location × Node}

theorem symm (h : Reordered fs fs') : Reordered fs' fs :=
  ⟨fun at_ => (h.children at_).symm, h.current.symm, h.limits.symm⟩

theorem node?_eq (h : Reordered fs fs') (at_ : Location) :
    fs'.tree.node? at_ = fs.tree.node? at_ := by
  cases at_ with
  | nil => rfl
  | cons name folder =>
    have named : ∀ (t : Tree) n, t.node? (name :: folder) = some n ↔
        (name, n) ∈ t.children folder :=
      fun t n => ⟨Tree.mem_children_of_node?, Tree.mem_children⟩
    refine Option.ext fun n => ?_
    show fs'.tree.node? _ = some n ↔ fs.tree.node? _ = some n
    rw [named, named]
    exact (h.children folder).mem_iff

theorem extension (h : Reordered fs fs') : Extends fs fs' := by
  have shapes : ∀ at_, fs'.tree.shape? at_ = fs.tree.shape? at_ := by
    intro at_
    rw [Tree.shape?, Tree.shape?, h.node?_eq]
  exact ⟨h.current, h.limits, fun at_ s there => (shapes at_).trans there,
    fun at_ target there => (shapes at_).symm.trans there⟩

theorem stat (h : Reordered fs fs') (there : fs.stat path = .ok found) :
    fs'.stat path = .ok found := by
  obtain ⟨place, node⟩ := found
  obtain ⟨leads, node_⟩ := stat_eq_ok.1 there
  exact stat_eq_ok.2 ⟨h.extension.resolve leads, (h.node?_eq place).trans node_⟩

theorem entries_perm (h : Reordered fs fs') : fs'.tree.entries.Perm fs.tree.entries := by
  have once : ∀ t : Tree, t.entries.Nodup := fun t => t.distinct.of_map _
  have at_node : ∀ (t : Tree) (e : Location × Node), e ∈ t.entries ↔
      e.1 ≠ [] ∧ t.node? e.1 = some e.2 := by
    intro t e
    constructor
    · intro present
      obtain ⟨name, folder, same, _⟩ := t.grounded e present
      exact ⟨by simp [same], Tree.node?_of_mem present⟩
    · rintro ⟨named, there⟩
      exact Tree.mem_entries_of_node? there named
  refine (List.perm_ext_iff_of_nodup (once _) (once _)).2 fun e => ?_
  rw [at_node, at_node, h.node?_eq]

theorem depth_eq (h : Reordered fs fs') : fs'.tree.depth = fs.tree.depth := by
  have : RightCommutative fun (most : Nat) (e : Location × Node) => max most e.1.length :=
    ⟨fun most e e' => Nat.max_right_comm most e.1.length e'.1.length⟩
  exact h.entries_perm.foldl_eq 0

end Reordered

/-- The tree with the names in each folder in reverse order. -/
def Tree.reverse (t : Tree) : Tree where
  entries := t.entries.reverse
  distinct := by
    rw [List.map_reverse, List.nodup_reverse]
    exact t.distinct
  grounded e present := by
    obtain ⟨name, folder, same, holder⟩ := t.grounded e (List.mem_reverse.1 present)
    refine ⟨name, folder, same, holder.imp_right ?_⟩
    rintro ⟨node, held, kind⟩
    exact ⟨node, List.mem_reverse.2 held, kind⟩
  valid e present := t.valid e (List.mem_reverse.1 present)

/-- The file system in which each folder names what it holds in reverse order. -/
def reversed (fs : FileSystem) : FileSystem := { fs with tree := fs.tree.reverse }

theorem reordered_reversed (fs : FileSystem) : Reordered fs fs.reversed := by
  refine ⟨fun at_ => ?_, rfl, rfl⟩
  have backwards : fs.reversed.tree.children at_ = (fs.tree.children at_).reverse :=
    List.filterMap_reverse
  rw [backwards]
  exact List.reverse_perm _

end TreeFetch.FileSystem

namespace TreeFetch.Storage

open FileSystem Search

variable {s : Local} {fs fs' : FileSystem} {id : String} {segments : List String} {at_ : Location}
  {e : Entry} {entries entries' : List Entry}

namespace Local

variable (s fs) in
/-- No two entries of a folder have one time. The time of a link is that of the file that it leads
to. -/
def TimesApart : Prop :=
  ∀ id segments at_, s.LeadsToFolder fs id segments at_ →
    ∀ e e', s.Tells fs segments at_ e → s.Tells fs segments at_ e' →
      e.modified = e'.modified → e.name = e'.name

theorem Tells.reordered (reordered : Reordered fs fs') (tells : s.Tells fs segments at_ e) :
    s.Tells fs' segments at_ e := by
  cases tells with
  | folder there => exact .folder ((reordered.node?_eq _).trans there)
  | file there => exact .file ((reordered.node?_eq _).trans there)
  | link there leads => exact .link ((reordered.node?_eq _).trans there) (reordered.stat leads)

theorem Listable.reordered (reordered : Reordered fs fs') (listable : s.Listable fs segments at_) :
    s.Listable fs' segments at_ := by
  rintro name ⟨node, there, solid⟩
  rw [reordered.node?_eq] at there
  exact reordered.extension.allows_iff.2 (listable name ⟨node, there, solid⟩)

theorem exists_list_reordered (reordered : Reordered fs fs')
    (listed : (s.list fs id).result = .ok entries) :
    ∃ entries', (s.list fs' id).result = .ok entries' := by
  obtain ⟨segments, at_, leads, _⟩ := list_eq_ok listed
  have listable := (list_eq_ok_iff leads).1 ⟨entries, listed⟩
  exact (list_eq_ok_iff (leads.extend reordered.extension)).2 (listable.reordered reordered)

/-- Two listings of a folder are the same if no two of its entries have one time. -/
theorem list_unique (reordered : Reordered fs fs') (apart : s.TimesApart fs)
    (listed : (s.list fs id).result = .ok entries)
    (listed' : (s.list fs' id).result = .ok entries') : entries' = entries := by
  obtain ⟨segments, at_, leads, _⟩ := list_eq_ok listed
  have inventory := isInventory_of_list leads listed
  have inventory' := isInventory_of_list (leads.extend reordered.extension) listed'
  have perm : entries'.Perm entries := by
    refine (List.perm_ext_iff_of_nodup (inventory'.distinct.of_map _)
      (inventory.distinct.of_map _)).2 ?_
    intro e
    rw [inventory'.complete, inventory.complete]
    exact ⟨Tells.reordered reordered.symm, Tells.reordered reordered⟩
  refine perm.eq_of_pairwise (fun e e' member member' newer older => ?_) inventory'.newestFirst
    inventory.newestFirst
  -- what may stand in either order has one time, and so one name
  have name : e.name = e'.name :=
    apart id segments at_ leads e e' ((inventory.complete e).1 (perm.mem_iff.1 member))
      ((inventory.complete e').1 member') (Int.le_antisymm older newer)
  exact List.inj_on_of_nodup_map inventory.distinct (perm.mem_iff.1 member) member' name

/-- A folder has the same entries in the same order, or its listing fails in both. -/
theorem list_reordered (reordered : Reordered fs fs') (apart : s.TimesApart fs) (id : String) :
    AnswersAlike (fun _ _ => True) (s.list fs id).result (s.list fs' id).result := by
  cases listed : (s.list fs id).result with
  | ok entries =>
    obtain ⟨entries', listed'⟩ := exists_list_reordered reordered listed
    rw [listed', list_unique reordered apart listed listed']
    exact .ok entries
  | error e =>
    cases listed' : (s.list fs' id).result with
    | ok entries' =>
      obtain ⟨entries, found⟩ := exists_list_reordered reordered.symm listed'
      cases listed.symm.trans found
    | error e' => exact .error trivial

theorem parallel_of_reordered (reordered : Reordered fs fs') (apart : s.TimesApart fs)
    (limits : Storage.Limits) :
    Parallel (fun _ _ => True) (fun path => path) s.client fs s.client fs' limits limits 0 where
  list := list_reordered reordered apart
  maxDepth := Option.map_id'.symm
  excluded := rfl
  paths _ _ _ _ _ _ := rfl

end Local

/-- A search of a local storage has the same result in whatever order the folders name what they
hold, if no two entries of a folder have one time: the same files in the same order, or an error. -/
theorem search_reordered {pattern : Regex.Pattern} {limits : Limits} {folder : Option String}
    (reordered : Reordered fs fs') (apart : s.TimesApart fs) :
    let result := (search s.client fs folder pattern limits).result
    let result' := (search s.client fs' folder pattern limits).result
    (∃ files, result = .ok files ∧ result' = .ok files) ∨
      ∃ e e', result = .error (.failed e) ∧ result' = .error (.failed e') := by
  intro result result'
  obtain ⟨start, begins, begins'⟩ :
      ∃ start, Begins s.client fs folder start ∧ Begins s.client fs' folder start := by
    cases folder with
    | none => exact ⟨"", rfl, rfl⟩
    | some id => exact ⟨id, rfl, rfl⟩
  have same : levels s.client fs' limits = levels s.client fs limits := by
    have height : s.client.height fs' = s.client.height fs := congrArg (· + 1) reordered.depth_eq
    rw [levels, levels, height]
  have walks : (walk s.client fs start pattern limits).Parallel (fun _ _ => True) (fun path => path)
      (walk s.client fs' start pattern limits) := by
    rw [walk, walk, same]
    exact visitFolder_parallel (Local.parallel_of_reordered reordered apart limits)
      _ 0 start "" fun _ => rfl
  have ends := (Local.terminates s fs pattern limits start).ends
  rw [show result = conclude limits _ from search_result begins,
    show result' = conclude limits _ from search_result begins']
  generalize walk s.client fs start pattern limits = visit at walks ends
  generalize walk s.client fs' start pattern limits = visit' at walks
  obtain ⟨found, _, stop⟩ := visit
  obtain ⟨found', _, stop'⟩ := visit'
  obtain ⟨files, stops⟩ := walks
  obtain rfl : found' = found := files.trans (File.map_moved_self found)
  simp only at stops ends
  cases stops with
  | ended => exact .inl ⟨_, rfl, rfl⟩
  | endless => exact absurd rfl ends
  | failed _ => exact .inr ⟨_, _, rfl, rfl⟩

/-! ## Two drawers -/

/-- Where there are no links, the times of the entries themselves have to differ. -/
theorem Local.timesApart_of_entries
    (direct : ∀ child ∈ fs.tree.entries, ∀ text, child.2 ≠ .link text)
    (apart : ∀ child ∈ fs.tree.entries, ∀ other ∈ fs.tree.entries,
      child.1.tail = other.1.tail →
      child.2.time? = other.2.time? → child.1 = other.1) : s.TimesApart fs := by
  have entry : ∀ {segments at_ e}, s.Tells fs segments at_ e →
      ∃ node, (.text e.name :: at_, node) ∈ fs.tree.entries ∧
        node.time? = some e.modified := by
    intro segments at_ e tells
    cases tells with
    | folder there => exact ⟨_, Tree.mem_entries_of_node? there (List.cons_ne_nil _ _), rfl⟩
    | file there => exact ⟨_, Tree.mem_entries_of_node? there (List.cons_ne_nil _ _), rfl⟩
    | link there _ =>
      exact absurd rfl (direct _ (Tree.mem_entries_of_node? there (List.cons_ne_nil _ _)) _)
  intro id segments at_ leads e e' tells tells' same
  obtain ⟨node, present, time⟩ := entry tells
  obtain ⟨node', present', time'⟩ := entry tells'
  have places := apart _ present _ present' rfl (time.trans (same ▸ time'.symm))
  simpa using places

/-- A folder with two drawers. The newest files in the drawers have the same time. -/
def Local.drawers : FileSystem where
  tree := FileSystem.Tree.empty
    |>.add [.text "a"] (.folder 1)
    |>.add [.text "y", .text "a"] (.file .empty 4)
    |>.add [.text "x", .text "a"] (.file .empty 5)
    |>.add [.text "b"] (.folder 2)
    |>.add [.text "z", .text "b"] (.file .empty 5)

set_option maxRecDepth 100000 in
theorem Local.drawers_result :
    (search (Local.client ⟨"/"⟩) Local.drawers none
      ((Regex.Pattern.compile "").toOption.getD default)
      { maxResults := some 2 }).result =
      .ok [⟨"b/z", "z", "b/z", 5⟩, ⟨"a/x", "x", "a/x", 5⟩] := by
  cbv

theorem Local.timesApart_drawers (s : Local) : s.TimesApart Local.drawers := by
  have entries : Local.drawers.tree.entries = [([.text "a"], .folder 1),
      ([.text "y", .text "a"], .file .empty 4), ([.text "x", .text "a"], .file .empty 5),
      ([.text "b"], .folder 2), ([.text "z", .text "b"], .file .empty 5)] := by
    cbv
  refine timesApart_of_entries ?_ ?_
  · rw [entries]
    simp
  · rw [entries]
    decide

/-- The search takes the newer drawer first, and ends with the newest file in the other one, in
whatever order the drawers and the files in them are named. -/
theorem search_reordered_drawers :
    let s : Local := ⟨"/"⟩
    let pattern := (Regex.Pattern.compile "").toOption.getD default
    let limits : Storage.Limits := { maxResults := some 2 }
    let files : List File := [⟨"b/z", "z", "b/z", 5⟩, ⟨"a/x", "x", "a/x", 5⟩]
    Reordered Local.drawers Local.drawers.reversed ∧ s.TimesApart Local.drawers ∧
      (search s.client Local.drawers none pattern limits).result = .ok files ∧
      (search s.client Local.drawers.reversed none pattern limits).result = .ok files := by
  intro s pattern limits files
  have reordered := reordered_reversed Local.drawers
  have apart := Local.timesApart_drawers s
  have result : (search s.client Local.drawers none pattern limits).result = .ok files :=
    Local.drawers_result
  refine ⟨reordered, apart, result, ?_⟩
  rcases search_reordered reordered apart with ⟨found, same, same'⟩ | ⟨e, _, failed, _⟩
  · exact same'.trans (same.symm.trans result)
  · cases failed.symm.trans result

end TreeFetch.Storage
