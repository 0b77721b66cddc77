import Mathlib.Data.List.TakeWhile
import Mathlib.Logic.Relation
import TreeFetch.Proofs.FileSystem.Directory

/-!
# What operations do to a file system

Each operation is described once by what it leaves alone and by where its path leads afterwards.

Results:
1. `makeFolder_newFolder`: making a folder adds one folder, to which its path leads afterwards.
2. `makeFoldersAlong_steps`: making the folders along a list of texts makes one folder after the
   other, each of them at one of the texts.
3. `openFile_cases`: a file is opened where it exists, or it is made in a folder.
4. `copyFile_newContent`: a copy writes one file. What is written there are the bytes of the source,
   or none if the source is that file itself.
5. `makeFolders_of_isFolder` and `copyFile_of_resolve`: folders that exist are made without a
   change, and a file can be copied over every file that exists.
-/

namespace TreeFetch.FileSystem

open PathText (parts)

variable {fs before after made opened : FileSystem} {path source target : String} {at_ : Location}

/-- The location of an entry, or the one that an entry with a free name will have. -/
def Place.location : Place → Location
  | .entry at_ => at_
  | .vacancy folder name => name :: folder

/-! ## Folders -/

/-- One folder is new, and a path leads to it. -/
structure NewFolder (path : String) (before after : FileSystem) (at_ : Location) : Prop where
  extension : Extends before after
  leads : after.resolve path = .ok (.entry at_)
  leaves : ∀ place, after.tree.leaf? place = before.tree.leaf? place
  folders : ∀ place, after.tree.isFolder place = true →
    place = at_ ∨ before.tree.isFolder place = true

/-- The parts of a path are those that `resolveLast` follows, and empty ones after them. -/
theorem parts_eq_stripped (path : String) :
    ∃ blanks, (∀ part ∈ blanks, part = "") ∧
      parts path = ((parts path).reverse.dropWhile (· = "")).reverse ++ blanks := by
  refine ⟨((parts path).reverse.takeWhile (· = "")).reverse, fun part present => ?_, ?_⟩
  · simpa using List.mem_takeWhile_imp (List.mem_reverse.1 present)
  · rw [← List.reverse_append, List.takeWhile_append_dropWhile, List.reverse_reverse]

theorem slashFree_stripped (path : String) :
    SlashFree ((parts path).reverse.dropWhile (· = "")).reverse := fun _ present =>
  PathText.slashFree_of_mem_parts
    (List.mem_reverse.1 ((List.dropWhile_sublist _).mem (List.mem_reverse.1 present)))

theorem makeFolder_eq_ok :
    fs.makeFolder path = .ok made ↔
      ∃ folder name, fs.resolveLast path = .ok (.vacancy folder name) ∧
        made = fs.create folder name (.folder fs.clock) := by
  unfold makeFolder
  split
  · next fault refused => simp [refused]
  · next there found => simp [found]
  · next folder name found =>
    simp only [found, Except.ok.injEq, Place.vacancy.injEq]
    constructor
    · rintro rfl
      exact ⟨folder, name, ⟨rfl, rfl⟩, rfl⟩
    · rintro ⟨_, _, ⟨rfl, rfl⟩, rfl⟩
      rfl

/-- A folder is made at a free name, and its path leads to it. -/
theorem makeFolder_newFolder (h : fs.makeFolder path = .ok made) :
    ∃ folder name, fs.resolveLast path = .ok (.vacancy folder name) ∧
      NewFolder path fs made (name :: folder) := by
  obtain ⟨folder, name, leads, rfl⟩ := makeFolder_eq_ok.1 h
  obtain ⟨usable, followed⟩ := resolveLast_eq_ok.1 leads
  have vacant := follow_vacancy (slashFree_stripped path) followed
  have extension : Extends fs (fs.create folder name (.folder fs.clock)) :=
    extends_create vacant (by simp)
  have shape : ∀ place, (fs.create folder name (.folder fs.clock)).tree.shape? place =
      if place = name :: folder then some .folder else fs.tree.shape? place := shape?_create vacant
  have isFolder : (fs.create folder name (.folder fs.clock)).tree.isFolder
      (name :: folder) = true := by
    rw [Tree.isFolder_iff, shape, if_pos rfl]
  refine ⟨folder, name, leads, extension, ?_, fun place => ?_, fun place kind => ?_⟩
  · refine resolve_eq_ok.2 ⟨(extension.checkText path).trans usable, ?_⟩
    rw [extension.limits, extension.current]
    obtain ⟨blanks, blank, cut⟩ := parts_eq_stripped path
    rw [cut]
    have filled := follow_filled extension.kept followed (Tree.solid_of_isFolder isFolder)
    refine follow_append_blank isFolder blank (filled.resolve_right fun other => ?_)
    simp [isFolder] at other
  · by_cases new : place = name :: folder
    · subst new
      obtain ⟨time, there⟩ := Tree.isFolder_iff_node?.1 isFolder
      have nothing : fs.tree.leaf? (name :: folder) = none := by simp [Tree.leaf?, vacant.free]
      rw [nothing]
      simp [Tree.leaf?, there, Node.isFolder, Option.filter]
    · exact leaf?_create vacant place new
  · rw [Tree.isFolder_iff, shape] at kind
    split at kind
    · next new => exact .inl new
    · exact .inr (Tree.isFolder_iff.2 kind)

def Makes (texts : List String) (before after : FileSystem) : Prop :=
  ∃ text ∈ texts, before.makeFolder text = .ok after

theorem makeFoldersAlong_steps (texts : List String) (fs : FileSystem) :
    Relation.ReflTransGen (Makes texts) fs (fs.makeFoldersAlong texts).2 := by
  induction texts with
  | nil => exact .refl
  | cons path above ih =>
    have wider : Makes above ≤ Makes (path :: above) :=
      fun _ _ ⟨text, present, done⟩ => ⟨text, List.mem_cons_of_mem _ present, done⟩
    have inner := Relation.ReflTransGen.mono wider _ _ ih
    have one : ∀ {fs made : FileSystem}, fs.makeFolder path = .ok made →
        Makes (path :: above) fs made := fun done => ⟨path, List.mem_cons_self .., done⟩
    rw [makeFoldersAlong]
    split
    · exact .refl
    · split
      · next made done => exact .single (one done)
      · -- the folders above come first, and stay also if the last one cannot be made then
        split
        · next fault made along =>
          rwa [along] at inner
        · next made along =>
          rw [along] at inner
          split
          · next last done => exact inner.tail (one done)
          · exact inner
      · exact .refl

theorem resolveLast_of_resolve (h : fs.resolve path = .ok (.entry at_)) :
    ∃ named, fs.resolveLast path = .ok (.entry named) := by
  obtain ⟨usable, followed⟩ := resolve_eq_ok.1 h
  obtain ⟨blanks, _, cut⟩ := parts_eq_stripped path
  rw [cut] at followed
  obtain ⟨there, left, reached, _⟩ := followLeft_of_append followed
  obtain ⟨named, last⟩ := follow_last (follow_eq_ok.2 ⟨left, reached⟩)
  exact ⟨named, resolveLast_eq_ok.2 ⟨usable, last⟩⟩

theorem makeFolders_of_isFolder (h : path = "" ∨ fs.isFolder path = true) :
    fs.makeFolders path = (.ok (), fs) := by
  rw [makeFolders, makeFoldersAlong]
  by_cases empty : path = ""
  · rw [if_pos empty]
  · have folder := h.resolve_left empty
    obtain ⟨at_, leads, _⟩ := isFolder_eq_true.1 folder
    obtain ⟨named, last⟩ := resolveLast_of_resolve leads
    rw [if_neg empty]
    simp [makeFolder, last, folder]

/-! ## Files -/

/-- A file is at a location, and nothing else is new. -/
structure Opened (before after : FileSystem) (at_ : Location) : Prop where
  extension : Extends before after
  file : after.tree.shape? at_ = some .file
  leaves : ∀ place, place ≠ at_ → after.tree.leaf? place = before.tree.leaf? place
  folders : ∀ place, after.tree.isFolder place = before.tree.isFolder place

/-- A file with the given content is at a location, and nothing else is new. -/
structure NewContent (before after : FileSystem) (at_ : Location) (content : ByteArray) : Prop
    extends Opened before after at_ where
  written : ∃ t, after.tree.leaf? at_ = some (.file content t)

theorem Opened.overwrite (h : Opened before after at_) (content : ByteArray) :
    NewContent before (after.overwrite at_ content) at_ content where
  extension := h.extension.trans extends_overwrite
  file := by rw [shape?_overwrite, h.file]
  leaves place other := (leaf?_overwrite other).trans (h.leaves place other)
  folders place := by
    rw [← h.folders place, Bool.eq_iff_iff, Tree.isFolder_iff, Tree.isFolder_iff,
      shape?_overwrite]
  written := ⟨_, leaf?_overwrite_self h.file⟩

theorem solid_of_resolveHolder {place : Place} (h : fs.resolveHolder path = .ok place) :
    ∃ at_, place = .entry at_ ∧ fs.tree.Solid at_ := by
  obtain ⟨_, leads⟩ := bind_unit_eq_ok.1 h
  cases followed : follow fs.tree fs.limits.nameBytes true fs.limits.links (start path fs.current)
      ((((PathText.parts path).reverse.dropWhile (· = "")).drop 1).reverse ++ [""]) with
  | error fault => simp only [followed, Except.bind, reduceCtorEq] at leads
  | ok reached =>
    simp only [followed, Except.bind] at leads
    cases reached with
    | vacancy folder name => cases leads
    | entry at_ =>
      obtain rfl := Except.ok.inj leads
      exact ⟨at_, rfl, follow_solid (by simp) followed⟩

theorem open_of_solid {there : Location} (solid : fs.tree.Solid there)
    (h : (if fs.tree.isFolder there then .error .isFolder else .ok (there, fs)) =
      (.ok (at_, opened) : Except Fault (Location × FileSystem))) :
    at_ = there ∧ opened = fs ∧ ∃ content t,
      fs.tree.node? there = some (.file content t) := by
  split at h
  · cases h
  · next other =>
    simp only [Except.ok.injEq, Prod.mk.injEq] at h
    exact ⟨h.1.symm, h.2.symm, Tree.file_of_solid solid other⟩

/-- A path that does not end with a slash is opened where it leads: the file is there, or it is
made. -/
theorem openFile_leads (named : path.back ≠ '/') (h : fs.openFile path = .ok (at_, opened)) :
    (fs.resolve path = .ok (.entry at_) ∧ opened = fs ∧
      ∃ content t, fs.tree.node? at_ = some (.file content t)) ∨
    ∃ folder name, fs.resolve path = .ok (.vacancy folder name) ∧ at_ = name :: folder ∧
      opened = fs.create folder name (.file .empty fs.clock) := by
  rw [openFile, if_neg named] at h
  cases leads : fs.resolve path with
  | error fault => simp [leads] at h
  | ok place =>
    simp only [leads] at h
    cases place with
    | entry there =>
      obtain ⟨rfl, same, file⟩ := open_of_solid (solid_of_resolve leads) h
      exact .inl ⟨rfl, same, file⟩
    | vacancy folder name =>
      simp only [Except.ok.injEq, Prod.mk.injEq] at h
      exact .inr ⟨folder, name, rfl, h.1.symm, h.2.symm⟩

/-- A file is opened where it exists, without a change, or it is made where its name is free. -/
theorem openFile_cases (h : fs.openFile path = .ok (at_, opened)) :
    (opened = fs ∧ ∃ content t, fs.tree.node? at_ = some (.file content t)) ∨
      ∃ folder name, at_ = name :: folder ∧ fs.tree.Vacant folder name ∧
        opened = fs.create folder name (.file .empty fs.clock) := by
  by_cases slash : path.back = '/'
  · rw [openFile, if_pos slash] at h
    cases leads : fs.resolveHolder path with
    | error fault => simp [leads] at h
    | ok place =>
      obtain ⟨there, rfl, solid⟩ := solid_of_resolveHolder leads
      simp only [leads] at h
      obtain ⟨rfl, same, file⟩ := open_of_solid solid h
      exact .inl ⟨same, file⟩
  · rcases openFile_leads slash h with ⟨_, same, file⟩ | ⟨folder, name, leads, spot, made⟩
    · exact .inl ⟨same, file⟩
    · exact .inr ⟨folder, name, spot, vacant_of_resolve leads, made⟩

/-- What is made is there, in a folder that is still a folder. -/
theorem node?_create {folder : Location} {name : Name} (vacant : fs.tree.Vacant folder name)
    (node : Node) :
    (fs.create folder name node).tree.node? (name :: folder) = some node ∧
      ∃ t, (fs.create folder name node).tree.node? folder = some (.folder t) := by
  have held : (fs.create folder name node).tree.isFolder folder = true := by
    rw [Tree.isFolder_iff, shape?_create vacant, if_neg (List.cons_ne_self name folder).symm]
    exact Tree.isFolder_iff.1 vacant.held
  refine ⟨?_, Tree.isFolder_iff_node?.1 held⟩
  simp [create, advance, Tree.touch, Tree.node?_update, Tree.node?_add vacant]

/-- A path that does not end with a slash is opened where it leads. -/
theorem openFile_opened (named : path.back ≠ '/') (h : fs.openFile path = .ok (at_, opened)) :
    ∃ place, fs.resolve path = .ok place ∧ place.location = at_ ∧ Opened fs opened at_ := by
  rcases openFile_leads named h with ⟨leads, rfl, content, time, found⟩ |
    ⟨folder, name, leads, rfl, rfl⟩
  · exact ⟨_, leads, rfl, .refl _, Tree.shape?_of_node? found, fun _ _ => rfl, fun _ => rfl⟩
  · have vacant := vacant_of_resolve leads
    have shape : ∀ place, (fs.create folder name (.file .empty fs.clock)).tree.shape? place =
        if place = name :: folder then some .file else fs.tree.shape? place := shape?_create vacant
    refine ⟨_, leads, rfl, extends_create vacant (by simp), ?_, leaf?_create vacant, ?_⟩
    · rw [shape, if_pos rfl]
    · intro place
      rw [Bool.eq_iff_iff, Tree.isFolder_iff, Tree.isFolder_iff, shape]
      split
      · next new =>
        subst new
        simp [Tree.shape?, vacant.free]
      · rfl

/-- A copy opens its target and empties it. Then it writes there what its source holds, if that is a
file. -/
theorem copyFile_cases (h : fs.copyFile source target = .ok after) :
    ∃ held content t spot opened, fs.stat source = .ok (held, .file content t) ∧
      fs.openFile target = .ok (spot, opened) ∧
      ((∃ read t, (opened.overwrite spot .empty).tree.node? held = some (.file read t) ∧
          after = (opened.overwrite spot .empty).overwrite spot read) ∨
        ((∀ read t, (opened.overwrite spot .empty).tree.node? held ≠ some (.file read t)) ∧
          after = opened.overwrite spot .empty)) := by
  unfold copyFile at h
  split at h
  · cases h
  · next held content t found =>
    split at h
    · cases h
    · next spot opened opening =>
      refine ⟨held, content, t, spot, opened, found, opening, ?_⟩
      simp only at h
      split at h
      · next read time there => exact .inl ⟨read, time, there, (Except.ok.inj h).symm⟩
      · next nothing => exact .inr ⟨nothing, (Except.ok.inj h).symm⟩
  · cases h

theorem leaf?_of_stat {content : ByteArray} {t : Time}
    (h : fs.stat path = .ok (at_, .file content t)) :
    fs.tree.leaf? at_ = some (.file content t) :=
  Tree.leaf?_eq_some.2 ⟨(stat_eq_ok.1 h).2, rfl⟩

/-- A copy writes one file: the bytes of its source, or none if that is the source. -/
theorem copyFile_newContent (named : target.back ≠ '/')
    (h : fs.copyFile source target = .ok after) :
    ∃ held content t place, fs.stat source = .ok (held, .file content t) ∧
      fs.resolve target = .ok place ∧
      NewContent fs after place.location (if held = place.location then .empty else content) := by
  obtain ⟨held, content, t, spot, opened, found, opening, written⟩ := copyFile_cases h
  obtain ⟨place, leads, rfl, isOpen⟩ := openFile_opened named opening
  have emptied := isOpen.overwrite .empty
  -- what is read is what was held, unless the target has just been emptied
  have read : ∃ time, (opened.overwrite place.location .empty).tree.node? held =
      some (.file (if held = place.location then .empty else content) time) := by
    split
    · next same =>
      obtain ⟨time, written⟩ := emptied.written
      exact ⟨time, same ▸ (Tree.leaf?_eq_some.1 written).1⟩
    · next other =>
      have kept := (emptied.leaves held other).trans (leaf?_of_stat found)
      exact ⟨t, (Tree.leaf?_eq_some.1 kept).1⟩
  obtain ⟨time, bytes⟩ := read
  rcases written with ⟨content', time', there, rfl⟩ | ⟨nothing, _⟩
  · obtain ⟨rfl, _⟩ := Node.file.inj (Option.some.inj (there.symm.trans bytes))
    exact ⟨held, content, t, place, found, leads, emptied.toOpened.overwrite _⟩
  · exact absurd bytes (nothing _ _)

theorem copyFile_of_resolve {held : Location} {content : ByteArray} {t : Time}
    (named : target.back ≠ '/') (found : fs.stat source = .ok (held, .file content t))
    (leads : fs.resolve target = .ok (.entry at_)) (other : fs.tree.isFolder at_ = false) :
    ∃ after, fs.copyFile source target = .ok after := by
  rw [copyFile, found]
  simp only [openFile, if_neg named, leads, other, Bool.false_eq_true, if_false]
  split
  · exact ⟨_, rfl⟩
  · exact ⟨_, rfl⟩

/-- A file can be copied to a free name in a folder. -/
theorem copyFile_of_vacancy {folder held : Location} {name : Name} {content : ByteArray} {t : Time}
    (named : target.back ≠ '/') (found : fs.stat source = .ok (held, .file content t))
    (leads : fs.resolve target = .ok (.vacancy folder name)) :
    ∃ after, fs.copyFile source target = .ok after := by
  rw [copyFile, found]
  simp only [openFile, if_neg named, leads]
  split
  · exact ⟨_, rfl⟩
  · exact ⟨_, rfl⟩

end TreeFetch.FileSystem
