import TreeFetch.Proofs.FileSystem.Canonical
import TreeFetch.Proofs.FileSystem.Straight
import TreeFetch.Proofs.Storage.Found
import TreeFetch.Proofs.Storage.Listing

/-!
# Walks through a local storage

A walk through a local storage goes straight down: from the folder where it begins it comes to real
folders only, and the id of each of them is made of the segments of the start and of the names on
the way. The id of a path of the local machine is made of the names between the storage root and
what the path leads to.

Results:
1. `Local.comes_down`: where a walk comes, under which id, and what it has passed.
2. `Local.folderIdAt_eq_some`: when a path has an id, and which one.
3. `Local.meets_down`: what a walk meets lies straight below the folder where the walk begins.
-/

namespace TreeFetch.FileSystem

variable {at_ top out : Location} {names : List String}

namespace Location

theorem texts?_eq_some : texts? at_ = some names ↔ at_ = (names.map Name.text).reverse := by
  have all : ∀ (l : List Name) (names : List String),
      l.mapM Name.text? = some names ↔ l = names.map Name.text := by
    intro l
    induction l with
    | nil => simp [eq_comm]
    | cons name rest ih =>
      intro names
      cases name with
      | raw bytes => cases names <;> simp [Name.text?]
      | text value =>
        cases names with
        | nil => simp [Name.text?, Option.bind_eq_some_iff]
        | cons first others =>
          simp [Name.text?, Option.bind_eq_some_iff, ih]
          exact and_comm
  rw [texts?, all, ← List.reverse_inj, List.reverse_reverse]

theorem below?_eq_some {between : Location} :
    below? top out = some between ↔ out = between ++ top := by
  induction out generalizing between with
  | nil =>
    simp only [below?, Option.ite_none_right_eq_some, Option.some.injEq, List.nil_eq_append_iff]
    constructor
    · rintro ⟨rfl, rfl⟩
      exact ⟨rfl, rfl⟩
    · rintro ⟨rfl, rfl⟩
      exact ⟨rfl, rfl⟩
  | cons name up ih =>
    unfold below?
    split
    · next same =>
      rw [same, Option.some.injEq]
      constructor
      · rintro rfl
        rfl
      · intro whole
        exact (List.self_eq_append_left.1 whole).symm
    · next other =>
      cases between with
      | nil => simpa using other
      | cons first rest =>
        simp only [Option.map_eq_some_iff, ih, List.cons.injEq, List.cons_append]
        constructor
        · rintro ⟨between, rfl, rfl, rfl⟩
          exact ⟨rfl, rfl⟩
        · rintro ⟨rfl, rfl⟩
          exact ⟨rest, rfl, rfl, rfl⟩

end Location

end TreeFetch.FileSystem

namespace TreeFetch.Storage.Local

open FileSystem PathText Search

variable {s : Local} {fs : FileSystem} {pattern : Regex.Pattern} {limits : Limits}
  {start id path : String} {segments names : List String} {top : Location} {depth : Nat} {f : File}

/-! ## Ids of paths -/

theorem folderIdAt_eq_some :
    s.folderIdAt fs path = some id ↔
      ∃ root names, fs.canonical? s.root = some root ∧
        fs.canonical? path = some (root.down names) ∧ id = ofSegments names := by
  simp only [folderIdAt, Option.bind_eq_bind, Option.bind_eq_some_iff, Option.pure_def,
    Option.some.injEq, Location.below?_eq_some, Location.texts?_eq_some]
  constructor
  · rintro ⟨root, rootAt, target, targetAt, between, rfl, names, rfl, rfl⟩
    exact ⟨root, names, rootAt, by rw [targetAt, Location.down_eq], rfl⟩
  · rintro ⟨root, names, rootAt, targetAt, rfl⟩
    exact ⟨root, rootAt, _, targetAt, _, Location.down_eq root names, names, rfl, rfl⟩

theorem isName_of_down (there : fs.tree.Solid (top.down names)) : ∀ n ∈ names, IsName n := by
  induction names generalizing top with
  | nil => exact List.forall_mem_nil _
  | cons name rest ih =>
    obtain ⟨node, found, _⟩ := Tree.solid_of_down_cons there
    intro n present
    rcases List.mem_cons.1 present with rfl | later
    · exact isName_of_isValid (Tree.isValid_of_node? found)
    · exact ih there n later

/-! ## Walks -/

theorem LeadsToFolder.lists {entries : List Entry} (leads : s.LeadsToFolder fs id segments at_)
    (listed : (s.list fs id).result = .ok entries) :
    ∀ e ∈ entries, s.Lists fs segments at_ e := by
  obtain ⟨others, other, leads', lists⟩ := list_lists listed
  obtain ⟨rfl, rfl⟩ := leads.unique leads'
  exact lists

theorem leads_of_listed {entries : List Entry} {e : Entry}
    (leads : s.LeadsToFolder fs id segments at_)
    (listed : (s.list fs id).result = .ok entries) (present : e ∈ entries)
    (kind : e.kind = .folder) :
    s.LeadsToFolder fs e.id (segments ++ [e.name]) (.text e.name :: at_) :=
  (leads.lists listed e present).folder kind

/-- The id under which a walk comes to the folder that names lead to from where it begins. -/
def idBelow (start : String) (segments names : List String) : String :=
  if names = [] then start else ofSegments (segments ++ names)

theorem idBelow_root (names : List String) : idBelow "" [] names = ofSegments names := by
  cases names with
  | nil => rfl
  | cons name rest => rfl

/-- A walk has come straight down over the folders with the given names. -/
structure CameDown (s : Local) (fs : FileSystem) (limits : Limits) (start : String)
    (segments : List String) (top : Location) (id : String) (names : List String) : Prop where
  leads : s.LeadsToFolder fs id (segments ++ names) (top.down names)
  id : id = idBelow start segments names
  passed : ∀ init, init <+: names → init ≠ names →
    idBelow start segments init ∉ limits.excluded

/-- Where a walk comes lies straight below the folder where it begins. -/
theorem comes_down (begins : s.LeadsToFolder fs start segments top)
    (comes : Comes s.client fs limits start depth id) :
    ∃ names, CameDown s fs limits start segments top id names := by
  induction comes with
  | start =>
    refine ⟨[], by rwa [List.append_nil], rfl, fun init short other => ?_⟩
    exact absurd (List.prefix_nil.1 short) other
  | @step depth id entries e _ opened present down ih =>
    obtain ⟨names, came⟩ := ih
    have entry := came.leads.lists opened.listed e present
    refine ⟨names ++ [e.name], ?_, ?_, fun init short other => ?_⟩
    · rw [← List.append_assoc, Location.down_concat]
      exact entry.folder down.kind
    · rw [idBelow, if_neg (by simp), ← List.append_assoc]
      exact entry.id
    · have inner : init <+: names := (List.prefix_concat_iff.1 short).resolve_left other
      by_cases whole : init = names
      · rw [whole, ← came.id]
        exact opened.admitted.included
      · exact came.passed init inner whole

/-- The location of the folder that holds what an id names, links followed. -/
def holder? (s : Local) (fs : FileSystem) (id : String) : Option Location :=
  (segments? id).bind fun segments => fs.locate? (pushAll s.root segments.dropLast)

/-- What an id names lies in the folder at a location or in a folder below it. -/
def LiesIn (s : Local) (fs : FileSystem) (outer : Location) (id : String) : Prop :=
  ∃ at_, s.holder? fs id = some at_ ∧ outer <:+ at_

theorem meets_file (meets : Meets s.client fs pattern limits start f) :
    ∃ segments place, s.LeadsToFile fs f.id segments place := by
  obtain ⟨depth, id, entries, e, path, _, opened, present, kept, rfl⟩ := meets
  obtain ⟨segments, at_, _, lists⟩ := list_lists opened.listed
  obtain ⟨place, leads⟩ := (lists e present).file kept.kind
  exact ⟨_, place, leads⟩

/-- A file that a walk meets lies in a folder straight below the one where the walk begins, and no
folder on the way is excluded. -/
theorem meets_down (begins : s.LeadsToFolder fs start segments top)
    (meets : Meets s.client fs pattern limits start f) :
    ∃ names, s.holder? fs f.id = some (top.down names) ∧
      ∀ init, init <+: names → idBelow start segments init ∉ limits.excluded := by
  obtain ⟨depth, id, entries, e, path, comes, opened, present, kept, rfl⟩ := meets
  obtain ⟨names, came⟩ := comes_down begins comes
  obtain ⟨place, file⟩ := (came.leads.lists opened.listed e present).file kept.kind
  refine ⟨names, ?_, fun init short => ?_⟩
  · rw [holder?, file.cut, Option.bind_some, List.dropLast_concat]
    exact locate?_eq_some.2 came.leads.leads
  · by_cases whole : init = names
    · rw [whole, ← came.id]
      exact opened.admitted.included
    · exact came.passed init short whole

end TreeFetch.Storage.Local
