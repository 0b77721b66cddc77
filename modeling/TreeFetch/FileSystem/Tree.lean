import TreeFetch.FileSystem.Name
import TreeFetch.Time

/-!
# Trees of files and folders

A `Tree` lists its entries by location: files, folders and symbolic links. No location is listed
twice, every entry lies in the root or in a folder of the tree, and no name is one that would lead
elsewhere in a path. The order of the list is the order in which a folder names what it holds. An
entry is added where nothing is, a file is written over, a time is set, and an entry is removed with
everything below it; each of these touches nothing else.
-/

namespace TreeFetch.FileSystem

inductive Node
  | file (content : ByteArray) (modified : Time)
  | folder (modified : Time)
  | link (target : String)
deriving Inhabited

namespace Node

def isFolder : Node → Bool
  | folder _ => true
  | _ => false

def time? : Node → Option Time
  | file _ t => some t
  | folder t => some t
  | link _ => none

/-- The node with another time. A link has none. -/
def withTime (t : Time) : Node → Node
  | file content _ => file content t
  | folder _ => folder t
  | link target => link target

/-- A file with other content, changed at a time. What is no file stays as it is. -/
def withContent (content : ByteArray) (t : Time) : Node → Node
  | file _ _ => file content t
  | folder s => folder s
  | link target => link target

@[simp] theorem isFolder_withTime (t : Time) (n : Node) : (n.withTime t).isFolder = n.isFolder := by
  cases n <;> rfl

@[simp] theorem isFolder_withContent (content : ByteArray) (t : Time) (n : Node) :
    (n.withContent content t).isFolder = n.isFolder := by
  cases n <;> rfl

end Node

structure Tree where
  entries : List (Location × Node)
  /-- No location is listed twice. -/
  distinct : (entries.map (·.1)).Nodup
  /-- Every entry has a name, and lies in the root or in a folder. -/
  grounded : ∀ e ∈ entries, ∃ name folder, e.1 = name :: folder ∧
    (folder = [] ∨ ∃ n, (folder, n) ∈ entries ∧ n.isFolder = true)
  /-- Every entry has a name that an entry can have. -/
  valid : ∀ e ∈ entries, e.1.head?.all Name.isValid = true

namespace Tree

def empty : Tree := ⟨[], by simp, by simp, by simp⟩

instance : Inhabited Tree := ⟨empty⟩

/-- What is at a location. The root is always a folder. -/
def node? (t : Tree) : Location → Option Node
  | [] => some (.folder 0)
  | name :: folder => (t.entries.find? fun e => e.1 = name :: folder).map (·.2)

def isFolder (t : Tree) (at_ : Location) : Bool := (t.node? at_).any Node.isFolder

/-- The names in a folder with what they name, in the order of the entries. -/
def children (t : Tree) (folder : Location) : List (Name × Node) :=
  t.entries.filterMap fun e =>
    match e.1 with
    | [] => none
    | name :: up => if up = folder then some (name, e.2) else none

theorem mem_entries_of_node? {t : Tree} {at_ : Location} {n : Node} (h : t.node? at_ = some n)
    (named : at_ ≠ []) : (at_, n) ∈ t.entries := by
  match at_, named with
  | name :: folder, _ =>
    obtain ⟨⟨place, node⟩, found, rfl⟩ := Option.map_eq_some_iff.1 h
    have same := List.find?_some found
    have present := List.mem_of_find?_eq_some found
    simp only [decide_eq_true_eq] at same
    exact same ▸ present

theorem not_mem_of_node?_none {t : Tree} {at_ : Location} (h : t.node? at_ = none) :
    at_ ∉ t.entries.map (·.1) := by
  match at_ with
  | [] => simp [node?] at h
  | name :: folder =>
    simp only [node?, Option.map_eq_none_iff, List.find?_eq_none, decide_eq_true_eq] at h
    simp only [List.mem_map, not_exists, not_and]
    exact fun e present => h e present

/-- The tree with one more entry, where nothing is, the folder that will hold it exists, and the
name is one that an entry can have. Otherwise the tree stays as it is. -/
def add (t : Tree) (at_ : Location) (node : Node) : Tree :=
  match at_ with
  | [] => t
  | name :: folder =>
    if h : t.node? (name :: folder) = none ∧ t.isFolder folder = true ∧ name.isValid = true then
      { entries := t.entries ++ [(name :: folder, node)]
        distinct := by
          rw [List.map_append, List.nodup_append]
          refine ⟨t.distinct, by simp, ?_⟩
          rintro a present b added rfl
          simp only [List.map_cons, List.map_nil, List.mem_singleton] at added
          exact not_mem_of_node?_none h.1 (added ▸ present)
        grounded := by
          intro e present
          rcases List.mem_append.1 present with old | added
          · obtain ⟨n, f, same, rest⟩ := t.grounded e old
            refine ⟨n, f, same, rest.imp_right ?_⟩
            rintro ⟨m, held, kind⟩
            exact ⟨m, List.mem_append_left _ held, kind⟩
          · simp only [List.mem_singleton] at added
            subst added
            refine ⟨name, folder, rfl, ?_⟩
            by_cases top : folder = []
            · exact .inl top
            · right
              obtain ⟨n, found, kind⟩ := Option.any_eq_true _ _ |>.1 h.2.1
              exact ⟨n, List.mem_append_left _ (mem_entries_of_node? found top), kind⟩
        valid := by
          intro e present
          rcases List.mem_append.1 present with old | added
          · exact t.valid e old
          · simp only [List.mem_singleton] at added
            subst added
            exact h.2.2 }
    else t

/-- The tree with another node at one location, made from the one that is there; folders stay
folders. -/
def update (t : Tree) (at_ : Location) (change : Node → Node)
    (keeps : ∀ n, (change n).isFolder = n.isFolder) : Tree :=
  { entries := t.entries.map fun e => if e.1 = at_ then (e.1, change e.2) else e
    distinct := by
      have same : ((fun e : Location × Node => e.1) ∘
          fun e : Location × Node => if e.1 = at_ then (e.1, change e.2) else e) = (·.1) := by
        funext e
        simp only [Function.comp]
        split <;> rfl
      rw [List.map_map, same]
      exact t.distinct
    grounded := by
      intro e present
      obtain ⟨old, held, rfl⟩ := List.mem_map.1 present
      obtain ⟨name, folder, same, rest⟩ := t.grounded old held
      refine ⟨name, folder, ?_, rest.imp_right ?_⟩
      · rw [← same]
        split <;> rfl
      · rintro ⟨n, there, kind⟩
        refine ⟨if folder = at_ then change n else n, List.mem_map.2 ⟨_, there, ?_⟩, ?_⟩
        · split <;> simp_all
        · split
          · rw [keeps]
            exact kind
          · exact kind
    valid := by
      intro e present
      obtain ⟨old, held, rfl⟩ := List.mem_map.1 present
      have same := t.valid old held
      split
      · exact same
      · exact same }

def touch (t : Tree) (at_ : Location) (time : Time) : Tree :=
  t.update at_ (Node.withTime time) (Node.isFolder_withTime time)

def write (t : Tree) (at_ : Location) (content : ByteArray) (time : Time) : Tree :=
  t.update at_ (Node.withContent content time) (Node.isFolder_withContent content time)

/-- The tree without the entry at a location and everything below it. -/
def remove (t : Tree) (at_ : Location) : Tree :=
  { entries := t.entries.filter fun e => !at_.isSuffixOf e.1
    distinct := t.distinct.sublist (List.filter_sublist.map _)
    grounded := by
      intro e present
      obtain ⟨old, kept⟩ := List.mem_filter.1 present
      obtain ⟨name, folder, same, rest⟩ := t.grounded e old
      refine ⟨name, folder, same, rest.imp_right ?_⟩
      rintro ⟨n, held, kind⟩
      refine ⟨n, List.mem_filter.2 ⟨held, ?_⟩, kind⟩
      simp only [Bool.not_eq_true', ← Bool.not_eq_true, List.isSuffixOf_iff_suffix] at kept ⊢
      exact fun above => kept (same ▸ above.trans (List.suffix_cons name folder))
    valid := fun e present => t.valid e (List.mem_filter.1 present).1 }

/-- The greatest number of folders around an entry. -/
def depth (t : Tree) : Nat := t.entries.foldl (fun most e => max most e.1.length) 0

end Tree

end TreeFetch.FileSystem
