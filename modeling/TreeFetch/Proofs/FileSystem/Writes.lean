import TreeFetch.Proofs.FileSystem.Change

/-!
# Saving files below a directory

What saving a file below a directory does are `Writes`: it makes folders above the path of the file,
and it copies the file. `ChangesBelow` says how far all of this reaches: files and links change
below the directory only, and a new folder lies below the directory, or its text is the one of the
directory or of a folder above it.

Results:
1. `Writes.changesBelow`: one write changes nothing elsewhere, unless it meets a link in the
   directory.
2. `changesBelow_of_steps`: neither do any number of writes. The directory may come to be only with
   one of them; what matters are the links in the folder that it denotes at the end.
3. `comesToDenote_of_steps`: which folder that is depends only on the missing folders at and above
   it.
-/

namespace TreeFetch.FileSystem

open PathText (IsName IsAbove parts pushAll)

variable {fs before mid after : FileSystem} {base text : String} {place : Place}
  {names : List String}

/-! ## One write -/

/-- One change that saving a file below a directory makes. -/
inductive Writes (base : String) (before after : FileSystem) : Prop
  /-- A folder is made above the path of the file. -/
  | folder {names : List String} {text : String} :
      (∀ s ∈ names, IsName s) → names ≠ [] → IsAbove (pushAll base names) text →
      before.makeFolder text = .ok after → Writes base before after
  /-- The file is copied. -/
  | file {names : List String} {source : String} :
      (∀ s ∈ names, IsName s) → names ≠ [] →
      before.copyFile source (pushAll base names) = .ok after → Writes base before after

theorem Writes.extension (h : Writes base before after) : Extends before after := by
  cases h with
  | folder _ _ _ done =>
    obtain ⟨_, _, _, new⟩ := makeFolder_newFolder done
    exact new.extension
  | file named some_ done =>
    obtain ⟨_, _, _, _, _, _, new⟩ :=
      copyFile_newContent (PathText.back_pushAll base named some_) done
    exact new.extension

theorem extends_of_steps (steps : Relation.ReflTransGen (Writes base) before after) :
    Extends before after := by
  induction steps with
  | refl => exact .refl _
  | tail _ step ih => exact ih.trans step.extension

/-! ## How far writes reach -/

/-- A text is the one of a directory or of a folder above it. -/
def IsAtOrAbove (base text : String) : Prop := base = text ∨ ∃ rest, base = text ++ "/" ++ rest

/-- All that was there is still there, files and links are new or changed below the directory only,
and new folders elsewhere are those that lead to the directory. -/
structure ChangesBelow (base : String) (before after : FileSystem) : Prop where
  extension : Extends before after
  leaves : ∀ at_, (∀ dir, after.directory? base = some dir → ¬dir <:+ at_) →
    after.tree.leaf? at_ = before.tree.leaf? at_
  folders : ∀ at_, after.tree.isFolder at_ = true →
    before.tree.isFolder at_ = true ∨
      (∃ dir, after.directory? base = some dir ∧ dir <:+ at_) ∨
      ∃ text, IsAtOrAbove base text ∧ after.locate? text = some at_

namespace ChangesBelow

theorem refl (base : String) (fs : FileSystem) : ChangesBelow base fs fs :=
  ⟨.refl fs, fun _ _ => rfl, fun _ kind => .inl kind⟩

theorem trans (h : ChangesBelow base before mid) (h' : ChangesBelow base mid after) :
    ChangesBelow base before after := by
  have stays : ∀ {dir}, mid.directory? base = some dir → after.directory? base = some dir :=
    fun denotes => h'.extension.directory? denotes
  refine ⟨h.extension.trans h'.extension, fun at_ outside => ?_, fun at_ kind => ?_⟩
  · rw [h'.leaves at_ outside, h.leaves at_ fun dir denotes => outside dir (stays denotes)]
  · rcases h'.folders at_ kind with old | new
    · rcases h.folders at_ old with older | ⟨dir, denotes, below⟩ | ⟨text, above, leads⟩
      · exact .inl older
      · exact .inr (.inl ⟨dir, stays denotes, below⟩)
      · exact .inr (.inr ⟨text, above, h'.extension.locate? leads⟩)
    · exact .inr new

end ChangesBelow

/-- A path below a directory leads below the folder that the directory denotes, if that holds no
link. -/
theorem below_of_follow {last : Bool} (named : ∀ s ∈ names, IsName s) (some_ : names ≠ [])
    (usable : fs.checkText (pushAll base names) = .ok ())
    (h : follow fs.tree fs.limits.nameBytes last fs.limits.links
      (start (pushAll base names) fs.current) (parts (pushAll base names)) = .ok place) :
    ∃ dir, fs.directory? base = some dir ∧
      (Unlinked fs.tree dir → dir <:+ place.location) := by
  obtain ⟨dir, left, denotes, leads⟩ := follow_pushAll named some_ usable h
  refine ⟨dir, denotes, fun unlinked => ?_⟩
  rcases follow_names named unlinked leads with rfl | ⟨init, name, rfl, rfl⟩
  · exact Location.suffix_down dir names
  · exact (Location.suffix_down dir init).trans (List.suffix_cons _ _)

/-- The text of a path below a directory has no empty part at its end. -/
theorem stripped_pushAll (named : ∀ s ∈ names, IsName s) (some_ : names ≠ []) :
    ((parts (pushAll base names)).reverse.dropWhile (· = "")).reverse = parts
      (pushAll base names) := by
  obtain ⟨init, name, rfl⟩ := List.eq_nil_or_concat names |>.resolve_left some_
  rw [List.concat_eq_append] at named some_ ⊢
  have filled := (named name (by simp)).ne_empty
  simp [PathText.parts_pushAll base named some_, filled]

theorem Writes.changesBelow (h : Writes base before after)
    (unlinked : ∀ dir, after.directory? base = some dir → Unlinked before.tree dir) :
    ChangesBelow base before after := by
  cases h with
  | @folder names text named some_ above done =>
    obtain ⟨folder, name, leads, new⟩ := makeFolder_newFolder done
    refine ⟨new.extension, fun at_ _ => new.leaves at_, fun at_ kind => ?_⟩
    rcases new.folders at_ kind with rfl | old
    · right
      -- the new folder lies below the directory, or it is the directory or one above it
      rcases above.of_pushAll named some_ with ⟨init, filled, beginning, rfl⟩ | rfl | higher
      · have inner : ∀ s ∈ init, IsName s :=
          fun s present => named s (beginning.subset present)
        obtain ⟨usable, followed⟩ := resolveLast_eq_ok.1 leads
        rw [stripped_pushAll inner filled] at followed
        obtain ⟨dir, denotes, below⟩ := below_of_follow inner filled usable followed
        have stays := new.extension.directory? denotes
        exact .inl ⟨dir, stays, below (unlinked dir stays)⟩
      · exact .inr ⟨text, .inl rfl, locate?_eq_some.2 new.leads⟩
      · exact .inr ⟨text, .inr higher.split, locate?_eq_some.2 new.leads⟩
    · exact .inl old
  | file named some_ done =>
    obtain ⟨_, _, _, place, _, leads, new⟩ :=
      copyFile_newContent (PathText.back_pushAll base named some_) done
    obtain ⟨usable, followed⟩ := resolve_eq_ok.1 leads
    obtain ⟨dir, denotes, below⟩ := below_of_follow named some_ usable followed
    have stays := new.extension.directory? denotes
    refine ⟨new.extension, fun at_ outside => new.leaves at_ ?_, fun at_ kind => .inl ?_⟩
    · rintro rfl
      exact outside dir stays (below (unlinked dir stays))
    · rw [← new.folders at_]
      exact kind

theorem changesBelow_of_steps (steps : Relation.ReflTransGen (Writes base) before after)
    (unlinked : ∀ dir, after.directory? base = some dir → Unlinked before.tree dir) :
    ChangesBelow base before after := by
  induction steps using Relation.ReflTransGen.head_induction_on with
  | refl => exact .refl base after
  | head step rest ih =>
    have first := step.changesBelow fun dir denotes =>
      unlinked dir ((extends_of_steps rest).directory? denotes)
    exact first.trans (ih fun dir denotes => step.extension.unlinked (unlinked dir denotes))

/-! ## Before the directory is there -/

/-- A folder is made at or above a directory. -/
def MakesToward (base : String) (before after : FileSystem) : Prop :=
  ∃ text, IsAtOrAbove base text ∧ before.makeFolder text = .ok after

/-- A text denotes a folder as soon as missing folders at and above it are made. -/
def ComesToDenote (fs : FileSystem) (base : String) (dir : Location) : Prop :=
  ∃ made, Relation.ReflTransGen (MakesToward base) fs made ∧ made.directory? base = some dir

theorem MakesToward.extension (h : MakesToward base before after) : Extends before after := by
  obtain ⟨text, _, done⟩ := h
  obtain ⟨_, _, _, new⟩ := makeFolder_newFolder done
  exact new.extension

theorem ComesToDenote.eq_of_directory? {dir other : Location} (h : fs.ComesToDenote base other)
    (denotes : fs.directory? base = some dir) : other = dir := by
  obtain ⟨made, steps, later⟩ := h
  have extension : Extends fs made := by
    clear later
    induction steps with
    | refl => exact .refl fs
    | tail _ step ih => exact ih.trans step.extension
  exact Option.some.inj (later.symm.trans (extension.directory? denotes))

theorem Writes.toward (h : Writes base before after) (missing : before.directory? base = none) :
    MakesToward base before after := by
  have denotes : ∀ {last init place}, (∀ s ∈ init, IsName s) → init ≠ [] →
      before.checkText (pushAll base init) = .ok () →
      follow before.tree before.limits.nameBytes last before.limits.links
        (start (pushAll base init) before.current) (parts (pushAll base init)) ≠ .ok place := by
    intro last init place named some_ usable followed
    obtain ⟨dir, _, denotes, _⟩ := follow_pushAll named some_ usable followed
    cases missing.symm.trans denotes
  cases h with
  | @folder names text named some_ above done =>
    obtain ⟨folder, name, leads, _⟩ := makeFolder_newFolder done
    rcases above.of_pushAll named some_ with ⟨init, filled, beginning, rfl⟩ | rfl | higher
    · have inner : ∀ s ∈ init, IsName s := fun s present => named s (beginning.subset present)
      obtain ⟨usable, followed⟩ := resolveLast_eq_ok.1 leads
      rw [stripped_pushAll inner filled] at followed
      exact absurd followed (denotes inner filled usable)
    · exact ⟨text, .inl rfl, done⟩
    · exact ⟨text, .inr higher.split, done⟩
  | file named some_ done =>
    obtain ⟨_, _, _, _, _, leads, _⟩ :=
      copyFile_newContent (PathText.back_pushAll base named some_) done
    obtain ⟨usable, followed⟩ := resolve_eq_ok.1 leads
    exact absurd followed (denotes named some_ usable)

/-- What a text denotes after writes below it, it comes to denote as soon as missing folders at and
above it are made. -/
theorem comesToDenote_of_steps {dir : Location}
    (steps : Relation.ReflTransGen (Writes base) before after)
    (denotes : after.directory? base = some dir) : before.ComesToDenote base dir := by
  induction steps using Relation.ReflTransGen.head_induction_on with
  | refl => exact ⟨after, .refl, denotes⟩
  | @head before next step rest ih =>
    cases now : before.directory? base with
    | some here =>
      have stays := (extends_of_steps rest).directory? (step.extension.directory? now)
      obtain rfl := Option.some.inj (stays.symm.trans denotes)
      exact ⟨before, .refl, now⟩
    | none =>
      obtain ⟨made, makes, later⟩ := ih
      exact ⟨made, makes.head (step.toward now), later⟩

end TreeFetch.FileSystem
