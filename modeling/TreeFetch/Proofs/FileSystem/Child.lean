import TreeFetch.Proofs.FileSystem.Making

/-!
# Paths to the children of a folder

A path that goes on with names below a directory leads to what these names name, if the operating
system allows the path at all: its text can be used, and no part of it is too long for a name.

Results:
1. `allows_of_resolve`: every path that leads somewhere is allowed.
2. `resolve_pushAll_iff`: names lead straight down to what exists exactly if the path is allowed.
3. `resolve_push_vacant` and `resolveLast_push_child`: a free name, and an entry of any kind.
-/

namespace TreeFetch.FileSystem

open PathText (IsName parts pushAll push stem)

variable {fs after : FileSystem} {path base name : String} {names : List String} {dir : Location}
  {place : Place} {node : Node}

/-- The operating system allows a path: its text can be used, and no part of it is too long. -/
structure Allows (fs : FileSystem) (path : String) : Prop where
  usable : fs.checkText path = .ok ()
  short : ∀ part ∈ parts path, Short fs.limits.nameBytes part

theorem allows_of_resolve (h : fs.resolve path = .ok place) : fs.Allows path := by
  obtain ⟨usable, followed⟩ := resolve_eq_ok.1 h
  exact ⟨usable, follow_short followed⟩

theorem Extends.allows_iff (e : Extends fs after) : after.Allows path ↔ fs.Allows path := by
  constructor
  · rintro ⟨usable, short⟩
    exact ⟨(e.checkText path).symm.trans usable, e.limits ▸ short⟩
  · rintro ⟨usable, short⟩
    exact ⟨(e.checkText path).trans usable, e.limits ▸ short⟩

theorem Allows.fits (h : fs.Allows (pushAll base names)) (named : ∀ n ∈ names, IsName n) :
    ∀ n ∈ names, n.utf8ByteSize ≤ fs.limits.nameBytes := by
  intro n present
  have inside : n ∈ parts (pushAll base names) := by
    rw [PathText.parts_pushAll base named (List.ne_nil_of_mem present)]
    exact List.mem_append_right _ present
  rcases h.short n inside with idle | up | short
  · exact absurd idle (by simp [(named n present).stays])
  · exact absurd up (by simp [(named n present).falls])
  · exact short

/-- Names lead straight down from a directory to what exists, exactly if the path is allowed. -/
theorem resolve_pushAll_iff (named : ∀ n ∈ names, IsName n) (some_ : names ≠ [])
    (denotes : fs.directory? base = some dir) (there : fs.tree.Solid (dir.down names)) :
    fs.resolve (pushAll base names) = .ok (.entry (dir.down names)) ↔
    fs.Allows (pushAll base names) := by
  refine ⟨allows_of_resolve, fun allowed => resolve_eq_ok.2 ⟨allowed.usable, ?_⟩⟩
  obtain ⟨left, same⟩ := follow_pushAll_eq true named some_ denotes
  rw [same, follow_eq, descend_down named (allowed.fits named) there]

/-- A name below a directory is looked up in the folder that the directory denotes. -/
theorem looksUp_of_allows (named : IsName name) (folder : fs.tree.isFolder dir = true)
    (allowed : fs.Allows (push base name)) : LooksUp fs.tree fs.limits.nameBytes dir name := by
  have one : fs.Allows (pushAll base [name]) := allowed
  exact ⟨folder, named.stays, named.falls,
    one.fits (List.forall_mem_singleton.2 named) name (List.mem_singleton_self name)⟩

theorem follow_push_eq (last : Bool) (named : IsName name)
    (denotes : fs.directory? base = some dir) :
    ∃ left, follow fs.tree fs.limits.nameBytes last fs.limits.links
      (start (push base name) fs.current)
      (parts (push base name)) = follow fs.tree fs.limits.nameBytes last left dir [name] :=
  follow_pushAll_eq last (List.forall_mem_singleton.2 named) (List.cons_ne_nil name []) denotes

/-- An allowed path below a directory leads to a name that is free there. -/
theorem resolve_push_vacant (named : IsName name) (denotes : fs.directory? base = some dir)
    (folder : fs.tree.isFolder dir = true) (allowed : fs.Allows (push base name))
    (free : fs.tree.node? (.text name :: dir) = none) :
    fs.resolve (push base name) = .ok (.vacancy dir (.text name)) := by
  have looks := looksUp_of_allows named folder allowed
  refine resolve_eq_ok.2 ⟨allowed.usable, ?_⟩
  obtain ⟨left, same⟩ := follow_push_eq true named denotes
  rw [same, follow_eq, descend]
  simp [looks.folder, looks.stays, looks.falls, Nat.not_lt.2 looks.fits, free]

/-- An allowed path below a directory names the entry there, of whatever kind it is. -/
theorem resolveLast_push_child (named : IsName name) (denotes : fs.directory? base = some dir)
    (folder : fs.tree.isFolder dir = true) (allowed : fs.Allows (push base name))
    (there : fs.tree.node? (.text name :: dir) = some node) :
    fs.resolveLast (push base name) = .ok (.entry (.text name :: dir)) := by
  have looks := looksUp_of_allows named folder allowed
  have all : ∀ n ∈ [name], IsName n := List.forall_mem_singleton.2 named
  have single : push base name = pushAll base [name] := rfl
  refine resolveLast_eq_ok.2 ⟨allowed.usable, ?_⟩
  rw [single, stripped_pushAll all (List.cons_ne_nil name []), ← single]
  obtain ⟨left, same⟩ := follow_push_eq false named denotes
  rw [same, follow_eq]
  cases node with
  | link target =>
    rw [looks.descend_link there]
    rfl
  | file content t =>
    rw [looks.descend_onto ⟨_, there, by simp⟩]
    rfl
  | folder t =>
    rw [looks.descend_onto ⟨_, there, by simp⟩]
    rfl

end TreeFetch.FileSystem
