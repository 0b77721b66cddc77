import Mathlib.Data.List.Nodup
import TreeFetch.FileSystem.Change

/-!
# What a change leaves alone

Of what is at a location, `shape?` keeps only what a path can notice: a file, a folder, or a link
with its target. `leaf?` is the file or link at a location, with everything that belongs to it. A
new entry and new content for a file change the leaf of one location only; a folder that gets an
entry changes its time, which is neither part of a shape nor of a leaf.

A file system `Extends` another one if all shapes of the other one are still there and no link is
new. Every change but a removal gives an extension.
-/

namespace TreeFetch.FileSystem

/-- What a path can notice of a node. -/
inductive Shape
  | file
  | folder
  | link (target : String)
deriving Repr, DecidableEq, Inhabited

namespace Node

/-- What a path can notice of a node. -/
def shape : Node → Shape
  | file .. => .file
  | folder _ => .folder
  | link target => .link target

@[simp] theorem shape_withTime (t : Time) (n : Node) : (n.withTime t).shape = n.shape := by
  cases n <;> rfl

@[simp] theorem shape_withContent (content : ByteArray) (t : Time) (n : Node) :
    (n.withContent content t).shape = n.shape := by
  cases n <;> rfl

theorem shape_eq_folder {n : Node} : n.shape = .folder ↔ n.isFolder = true := by
  cases n <;> simp [shape, isFolder]

theorem shape_eq_link {n : Node} {target : String} :
    n.shape = .link target ↔ n = .link target := by
  cases n <;> simp [shape]

theorem folder_ne_link (t : Time) (target : String) : folder t ≠ .link target := by simp

theorem file_ne_link (content : ByteArray) (t : Time) (target : String) :
    file content t ≠ .link target := by
  simp

theorem shape_eq_file {n : Node} : n.shape = .file ↔ ∃ content t, n = .file content t := by
  cases n <;> simp [shape]

end Node

namespace Tree

def shape? (t : Tree) (at_ : Location) : Option Shape := (t.node? at_).map Node.shape

def leaf? (t : Tree) (at_ : Location) : Option Node := (t.node? at_).filter fun n => !n.isFolder

def bytes? (t : Tree) (at_ : Location) : Option ByteArray :=
  match t.leaf? at_ with
  | some (.file content _) => some content
  | _ => none

theorem isFolder_iff {t : Tree} {at_ : Location} :
    t.isFolder at_ = true ↔ t.shape? at_ = some .folder := by
  simp only [isFolder, shape?, Option.any_eq_true, Option.map_eq_some_iff, Node.shape_eq_folder]

theorem isFolder_iff_node? {t : Tree} {at_ : Location} :
    t.isFolder at_ = true ↔ ∃ time, t.node? at_ = some (.folder time) := by
  rw [isFolder_iff, shape?, Option.map_eq_some_iff]
  constructor
  · rintro ⟨n, there, kind⟩
    cases n with
    | folder time => exact ⟨time, there⟩
    | file _ _ => cases kind
    | link _ => cases kind
  · rintro ⟨time, there⟩
    exact ⟨_, there, rfl⟩

theorem shape?_eq_link {t : Tree} {at_ : Location} {target : String} :
    t.shape? at_ = some (.link target) ↔ t.node? at_ = some (.link target) := by
  simp [shape?, Option.map_eq_some_iff, Node.shape_eq_link]

theorem shape?_of_node? {t : Tree} {at_ : Location} {n : Node} (h : t.node? at_ = some n) :
    t.shape? at_ = some n.shape := by
  simp [shape?, h]

theorem leaf?_eq_some {t : Tree} {at_ : Location} {n : Node} :
    t.leaf? at_ = some n ↔ t.node? at_ = some n ∧ n.isFolder = false := by
  simp [leaf?, Option.filter_eq_some_iff]

theorem isFolder_of_leaf? {t : Tree} {at_ : Location} {n : Node} (h : t.leaf? at_ = some n) :
    t.isFolder at_ = false := by
  obtain ⟨there, other⟩ := leaf?_eq_some.1 h
  simp [isFolder, there, other]

theorem bytes?_of_leaf? {t : Tree} {at_ : Location} {content : ByteArray} {time : Time}
    (h : t.leaf? at_ = some (.file content time)) : t.bytes? at_ = some content := by
  simp [bytes?, h]

theorem bytes?_congr {t t' : Tree} {at_ : Location} (h : t'.leaf? at_ = t.leaf? at_) :
    t'.bytes? at_ = t.bytes? at_ := by
  simp [bytes?, h]

@[simp] theorem node?_root (t : Tree) : t.node? [] = some (.folder 0) := rfl

@[simp] theorem shape?_root (t : Tree) : t.shape? [] = some .folder := rfl

theorem node?_of_mem {t : Tree} {at_ : Location} {n : Node} (h : (at_, n) ∈ t.entries) :
    t.node? at_ = some n := by
  obtain ⟨name, folder, rfl, _⟩ := t.grounded _ h
  have found : ∃ e, t.entries.find? (fun e => decide (e.1 = name :: folder)) = some e :=
    Option.isSome_iff_exists.1 (List.find?_isSome.2 ⟨_, h, by simp⟩)
  obtain ⟨⟨place, node⟩, found⟩ := found
  have same : place = name :: folder := by simpa using List.find?_some found
  have only : (place, node) = (name :: folder, n) :=
    List.inj_on_of_nodup_map t.distinct (List.mem_of_find?_eq_some found) h same
  simp [node?, found, (Prod.mk.inj only).2]

theorem isFolder_of_node? {t : Tree} {name : Name} {folder : Location} {n : Node}
    (h : t.node? (name :: folder) = some n) : t.isFolder folder = true := by
  obtain ⟨_, _, same, holder⟩ :=
    t.grounded _ (mem_entries_of_node? h (List.cons_ne_nil name folder))
  obtain ⟨rfl, rfl⟩ := List.cons.inj same
  rcases holder with rfl | ⟨m, held, kind⟩
  · rfl
  · rw [isFolder, node?_of_mem held]
    exact kind

theorem isFolder_tail {t : Tree} {at_ : Location} (h : t.isFolder at_ = true) :
    t.isFolder at_.tail = true := by
  cases at_ with
  | nil => rfl
  | cons name folder =>
    obtain ⟨time, there⟩ := isFolder_iff_node?.1 h
    exact isFolder_of_node? there

theorem mem_children {t : Tree} {folder : Location} {name : Name} {n : Node}
    (h : (name, n) ∈ t.children folder) : t.node? (name :: folder) = some n := by
  obtain ⟨⟨place, node⟩, present, shown⟩ := List.mem_filterMap.1 h
  cases place with
  | nil => cases shown
  | cons first up =>
    simp only at shown
    split at shown
    · next same =>
      simp only [Option.some.injEq, Prod.mk.injEq] at shown
      obtain ⟨rfl, rfl⟩ := shown
      rw [← same]
      exact node?_of_mem present
    · cases shown

theorem mem_children_of_node? {t : Tree} {folder : Location} {name : Name} {n : Node}
    (h : t.node? (name :: folder) = some n) : (name, n) ∈ t.children folder :=
  List.mem_filterMap.2 ⟨_, mem_entries_of_node? h (List.cons_ne_nil name folder), if_pos rfl⟩

theorem isValid_of_node? {t : Tree} {folder : Location} {name : Name} {n : Node}
    (h : t.node? (name :: folder) = some n) : name.isValid = true :=
  t.valid _ (mem_entries_of_node? h (List.cons_ne_nil name folder))

def Solid (t : Tree) (at_ : Location) : Prop :=
  ∃ n, t.node? at_ = some n ∧ ∀ target, n ≠ .link target

theorem solid_of_isFolder {t : Tree} {at_ : Location} (h : t.isFolder at_ = true) :
    t.Solid at_ := by
  obtain ⟨time, there⟩ := isFolder_iff_node?.1 h
  exact ⟨_, there, fun target => by simp⟩

theorem file_of_solid {t : Tree} {at_ : Location} (h : t.Solid at_)
    (other : ¬t.isFolder at_ = true) :
    ∃ content time, t.node? at_ = some (.file content time) := by
  obtain ⟨n, there, solid⟩ := h
  cases n with
  | file content time => exact ⟨content, time, there⟩
  | folder time => exact absurd (isFolder_iff_node?.2 ⟨time, there⟩) other
  | link target => exact absurd rfl (solid target)

/-- A name is free in a folder, and an entry can have it. -/
structure Vacant (t : Tree) (folder : Location) (name : Name) : Prop where
  held : t.isFolder folder = true
  free : t.node? (name :: folder) = none
  valid : name.isValid = true

/-! ## One change -/

theorem node?_update (t : Tree) (at_ : Location) (change : Node → Node)
    (keeps : ∀ n, (change n).isFolder = n.isFolder) (place : Location) :
    (t.update at_ change keeps).node? place =
      if place = at_ ∧ place ≠ [] then (t.node? place).map change else t.node? place := by
  match place with
  | [] => simp
  | name :: folder =>
    have same : ((fun e : Location × Node => decide (e.1 = name :: folder)) ∘
        fun e : Location × Node => if e.1 = at_ then (e.1, change e.2) else e) =
          fun e => decide (e.1 = name :: folder) := by
      funext e
      simp only [Function.comp]
      split <;> rfl
    simp only [node?, update, List.find?_map, same, Option.map_map]
    cases found : t.entries.find? fun e => decide (e.1 = name :: folder) with
    | none => simp
    | some e =>
      have here : e.1 = name :: folder := by simpa using List.find?_some found
      by_cases changed : name :: folder = at_
      · subst changed
        simp [here]
      · simp [here, changed]

theorem node?_add {t : Tree} {folder : Location} {name : Name} {node : Node}
    (vacant : t.Vacant folder name) (place : Location) :
    (t.add (name :: folder) node).node? place =
      if place = name :: folder then some node else t.node? place := by
  rw [add, dif_pos ⟨vacant.free, vacant.held, vacant.valid⟩]
  match place with
  | [] => simp
  | other :: up =>
    simp only [node?, List.find?_append]
    by_cases new : other :: up = name :: folder
    · have absent : t.entries.find? (fun e => decide (e.1 = name :: folder)) = none := by
        simpa only [node?, Option.map_eq_none_iff] using vacant.free
      simp [new, absent]
    · have missed : decide (name :: folder = other :: up) = false := by simpa using Ne.symm new
      rw [List.find?_singleton, missed]
      simp [new]

theorem linkFree_empty (place : Location) (target : String) :
    empty.shape? place ≠ some (.link target) := by
  cases place <;> simp [shape?, empty, node?, Node.shape]

/-- A tree without links has none after an entry is added that is none. -/
theorem linkFree_add {t : Tree} {at_ : Location} {node : Node}
    (free : ∀ place target, t.shape? place ≠ some (.link target))
    (kind : ∀ target, node ≠ .link target) (place : Location) (target : String) :
    (t.add at_ node).shape? place ≠ some (.link target) := by
  intro there
  rw [shape?_eq_link] at there
  match at_ with
  | [] => exact free place target (shape?_eq_link.2 there)
  | name :: folder =>
    by_cases h : t.node? (name :: folder) = none ∧ t.isFolder folder = true ∧
      name.isValid = true
    · rw [node?_add ⟨h.2.1, h.1, h.2.2⟩] at there
      split at there
      · exact kind target (Option.some.inj there)
      · exact free place target (shape?_eq_link.2 there)
    · rw [add, dif_neg h] at there
      exact free place target (shape?_eq_link.2 there)

theorem length_le_depth {t : Tree} {at_ : Location} {n : Node} (h : t.node? at_ = some n) :
    at_.length ≤ t.depth := by
  have all : ∀ (entries : List (Location × Node)) (least : Nat),
      least ≤ entries.foldl (fun most e => max most e.1.length) least ∧
        ∀ e ∈ entries, e.1.length ≤ entries.foldl
          (fun most e => max most e.1.length) least := by
    intro entries
    induction entries with
    | nil => exact fun least => ⟨Nat.le_refl _, List.forall_mem_nil _⟩
    | cons first rest ih =>
      intro least
      obtain ⟨more, others⟩ := ih (max least first.1.length)
      refine ⟨Nat.le_trans (Nat.le_max_left _ _) more, fun e present => ?_⟩
      rcases List.mem_cons.1 present with rfl | later
      · exact Nat.le_trans (Nat.le_max_right _ _) more
      · exact others e later
  by_cases top : at_ = []
  · simp [top]
  · exact (all t.entries 0).2 _ (mem_entries_of_node? h top)

end Tree

/-! ## Changes of a file system -/

/-- All that was there is still there, and links are not new. -/
structure Extends (before after : FileSystem) : Prop where
  current : after.current = before.current
  limits : after.limits = before.limits
  kept : ∀ at_ s, before.tree.shape? at_ = some s → after.tree.shape? at_ = some s
  links : ∀ at_ target, after.tree.shape? at_ = some (.link target) →
    before.tree.shape? at_ = some (.link target)

namespace Extends

theorem refl (fs : FileSystem) : Extends fs fs := ⟨rfl, rfl, fun _ _ h => h, fun _ _ h => h⟩

theorem trans {fs mid last : FileSystem} (h : Extends fs mid) (h' : Extends mid last) :
    Extends fs last :=
  ⟨h'.current.trans h.current, h'.limits.trans h.limits,
    fun at_ s there => h'.kept at_ s (h.kept at_ s there),
    fun at_ target there => h.links at_ target (h'.links at_ target there)⟩

end Extends

variable {fs : FileSystem} {folder : Location} {name : Name} {node : Node}

theorem shape?_create (vacant : fs.tree.Vacant folder name) (place : Location) :
    (fs.create folder name node).tree.shape? place =
      if place = name :: folder then some node.shape else fs.tree.shape? place := by
  simp only [create, advance, Tree.shape?, Tree.touch, Tree.node?_update, Tree.node?_add vacant]
  by_cases new : place = name :: folder
  · subst new
    simp
  · split <;> simp [Option.map_map, Function.comp_def]

theorem leaf?_create (vacant : fs.tree.Vacant folder name) (place : Location)
    (old : place ≠ name :: folder) :
    (fs.create folder name node).tree.leaf? place = fs.tree.leaf? place := by
  simp only [create, advance, Tree.leaf?, Tree.touch, Tree.node?_update, Tree.node?_add vacant,
    if_neg old]
  split
  · next here =>
    obtain ⟨time, there⟩ := Tree.isFolder_iff_node?.1 vacant.held
    simp [here.1, there, Node.withTime, Node.isFolder, Option.filter]
  · rfl

theorem extends_create (vacant : fs.tree.Vacant folder name)
    (kind : ∀ target, node ≠ .link target) : Extends fs (fs.create folder name node) := by
  refine ⟨rfl, rfl, fun place s there => ?_, fun place target there => ?_⟩
  · rw [shape?_create vacant, if_neg, there]
    rintro rfl
    simp [Tree.shape?, vacant.free] at there
  · rw [shape?_create vacant] at there
    split at there
    · exact absurd (Node.shape_eq_link.1 (Option.some.inj there)) (kind target)
    · exact there

variable {at_ : Location} {content : ByteArray}

theorem shape?_overwrite (place : Location) :
    (fs.overwrite at_ content).tree.shape? place = fs.tree.shape? place := by
  simp only [overwrite, advance, Tree.shape?, Tree.write, Tree.node?_update]
  split <;> simp [Option.map_map, Function.comp_def]

theorem leaf?_overwrite {place : Location} (other : place ≠ at_) :
    (fs.overwrite at_ content).tree.leaf? place = fs.tree.leaf? place := by
  simp [overwrite, advance, Tree.leaf?, Tree.write, Tree.node?_update, other]

theorem leaf?_overwrite_self (file : fs.tree.shape? at_ = some .file) :
    (fs.overwrite at_ content).tree.leaf? at_ = some (.file content fs.clock) := by
  obtain ⟨n, there, shape⟩ := Option.map_eq_some_iff.1 file
  obtain ⟨old, t, rfl⟩ := Node.shape_eq_file.1 shape
  have named : at_ ≠ [] := by
    rintro rfl
    simp at there
  rw [Tree.leaf?_eq_some]
  refine ⟨?_, rfl⟩
  simp [overwrite, advance, Tree.write, Tree.node?_update, there, named, Node.withContent]

theorem extends_overwrite : Extends fs (fs.overwrite at_ content) :=
  ⟨rfl, rfl, fun place s there => by rw [shape?_overwrite, there],
    fun place target there => by rwa [shape?_overwrite] at there⟩

/-- File systems that differ in nothing but the contents and the times of what they hold. -/
structure Alike (before after : FileSystem) : Prop where
  current : after.current = before.current
  limits : after.limits = before.limits
  shapes : ∀ at_, after.tree.shape? at_ = before.tree.shape? at_

namespace Alike

variable {before mid after : FileSystem}

theorem refl (fs : FileSystem) : Alike fs fs := ⟨rfl, rfl, fun _ => rfl⟩

theorem symm (h : Alike before after) : Alike after before :=
  ⟨h.current.symm, h.limits.symm, fun at_ => (h.shapes at_).symm⟩

theorem trans (h : Alike before mid) (h' : Alike mid after) : Alike before after :=
  ⟨h'.current.trans h.current, h'.limits.trans h.limits,
    fun at_ => (h'.shapes at_).trans (h.shapes at_)⟩

theorem extension (h : Alike before after) : Extends before after :=
  ⟨h.current, h.limits, fun at_ _ there => (h.shapes at_).trans there,
    fun at_ _ there => (h.shapes at_).symm.trans there⟩

end Alike

theorem alike_overwrite (fs : FileSystem) (at_ : Location) (content : ByteArray) :
    Alike fs (fs.overwrite at_ content) :=
  ⟨rfl, rfl, shape?_overwrite⟩

end TreeFetch.FileSystem
