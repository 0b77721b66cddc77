import TreeFetch.Proofs.FileSystem.Directory

/-!
# Names that lead straight down

Names lead from a folder straight down to what exists at the location that they are the names of:
nothing on the way is a link, since only a folder holds anything. Below a folder without links, a
path leads to an entry that was there before exactly if it did so before.

Results:
1. `resolve_pushAll_down`: names below a directory lead straight down to what exists.
2. `Extends.locate?_returned`: a path below a directory without links leads to an old entry only if
   it did before.
-/

namespace TreeFetch.FileSystem

open PathText (IsName parts pushAll stem)

variable {fs before after : FileSystem} {tree : Tree} {at_ top out dir : Location} {base : String}
  {names : List String} {nameBytes : Nat} {last : Bool} {place : Place}

/-! ## Straight to what exists -/

theorem Tree.isFolder_of_solid_cons {name : Name} {folder : Location}
    (h : tree.Solid (name :: folder)) : tree.isFolder folder = true := by
  obtain ⟨node, there, _⟩ := h
  exact isFolder_of_node? there

theorem Tree.solid_of_down (h : tree.Solid (at_.down names)) : tree.Solid at_ := by
  induction names generalizing at_ with
  | nil => exact h
  | cons name names ih => exact Tree.solid_of_isFolder (Tree.isFolder_of_solid_cons (ih h))

theorem Tree.solid_of_down_cons {name : String} (h : tree.Solid (at_.down (name :: names))) :
    tree.Solid (.text name :: at_) := by
  rw [Location.down_cons] at h
  exact solid_of_down h

/-- Names that lead straight down to something lead there, unless the path is refused. -/
theorem follow_down {links : Nat} (named : ∀ s ∈ names, IsName s)
    (there : tree.Solid (at_.down names))
    (h : follow tree nameBytes last links at_ names = .ok place) :
    place = .entry (at_.down names) := by
  have straight : descend tree nameBytes last at_ names = .done (.entry (at_.down names)) ∨
      ∃ fault, descend tree nameBytes last at_ names = .refused fault := by
    clear h
    fun_induction descend tree nameBytes last at_ names with
    | case1 at_ => exact .inl rfl
    | case2 at_ name names shut => exact .inr ⟨_, rfl⟩
    | case3 at_ name names open_ idle ih =>
      exact absurd idle (by simp [(named name (List.mem_cons_self ..)).stays])
    | case4 at_ name names open_ moves climbs ih =>
      exact absurd climbs (by simp [(named name (List.mem_cons_self ..)).falls])
    | case5 at_ name names open_ moves falls long => exact .inr ⟨_, rfl⟩
    | case6 at_ name names open_ moves falls fits free blank =>
      obtain ⟨node, found, _⟩ := Tree.solid_of_down_cons there
      cases free.symm.trans found
    | case7 at_ name names open_ moves falls fits free filled => exact .inr ⟨_, rfl⟩
    | case8 at_ name names open_ moves falls fits target found ends =>
      obtain ⟨node, found', solid⟩ := Tree.solid_of_down_cons there
      exact absurd (Option.some.inj (found'.symm.trans found)) (solid target)
    | case9 at_ name names open_ moves falls fits target found on_ =>
      obtain ⟨node, found', solid⟩ := Tree.solid_of_down_cons there
      exact absurd (Option.some.inj (found'.symm.trans found)) (solid target)
    | case10 at_ name names open_ moves falls fits node solid found ih =>
      exact ih (fun s present => named s (List.mem_cons_of_mem _ present)) there
  rw [follow_eq] at h
  rcases straight with done | ⟨fault, refused⟩
  · rw [done] at h
    exact (Except.ok.inj h).symm
  · simp [refused] at h

/-- Below a directory that denotes a folder, names lead straight down to what exists. -/
theorem resolve_pushAll_down (named : ∀ s ∈ names, IsName s)
    (leads : fs.resolve base = .ok (.entry top)) (there : fs.tree.Solid (top.down names))
    (h : fs.resolve (PathText.pushAll base names) = .ok place) :
    place = .entry (top.down names) := by
  by_cases some_ : names = []
  · subst some_
    exact Except.ok.inj (h.symm.trans leads)
  · obtain ⟨usable, followed⟩ := resolve_eq_ok.1 h
    obtain ⟨dir, left, denotes, down⟩ := follow_pushAll named some_ usable followed
    have filled : base ≠ "" := by
      rintro rfl
      exact absurd (resolve_eq_ok.1 leads).1 (by simp [checkText])
    obtain rfl : dir = top := by
      simpa [leads] using ((directory?_eq_some filled).1 denotes).1.symm
    exact follow_down named there down

/-- What lies between a folder and something below it lies straight down from the folder. -/
theorem Location.exists_down_of_suffix (outer : top <:+ out) (below : out <:+ top.down names) :
    ∃ init, init <+: names ∧ out = top.down init := by
  obtain ⟨between, rfl⟩ := outer
  obtain ⟨more, whole⟩ := below
  rw [down_eq, ← List.append_assoc] at whole
  have parted := congrArg List.reverse (List.append_cancel_right whole)
  rw [List.reverse_append, List.reverse_reverse] at parted
  obtain ⟨init, rest, rfl, same, _⟩ := List.map_eq_append_iff.1 parted.symm
  refine ⟨init, List.prefix_append init rest, ?_⟩
  rw [down_eq, same, List.reverse_reverse]

/-! ## Back to what was there before -/

/-- Names lead to what exists if they lead somewhere in an extension. -/
theorem descend_returned {before after : Tree}
    (kept : ∀ place s, before.shape? place = some s → after.shape? place = some s)
    (named : ∀ s ∈ names, IsName s) (there : before.Solid (at_.down names))
    (h : descend after nameBytes last at_ names = .done place) :
    descend before nameBytes last at_ names = .done (.entry (at_.down names)) := by
  induction names generalizing at_ with
  | nil => rfl
  | cons name names ih =>
    have here := named name (List.mem_cons_self ..)
    have solid := Tree.solid_of_down_cons there
    have folder := Tree.isFolder_of_solid_cons solid
    have fits : name.utf8ByteSize ≤ nameBytes := by
      by_contra long
      rw [descend] at h
      simp [isFolder_kept kept folder, here.stays, here.falls, Nat.lt_of_not_le long] at h
    have looks : LooksUp before nameBytes at_ name := ⟨folder, here.stays, here.falls, fits⟩
    rw [(looksUp_kept kept looks).descend_onto (solid_kept kept solid)] at h
    rw [looks.descend_onto solid]
    exact ih (fun s present => named s (List.mem_cons_of_mem _ present)) there h

/-- The stem of a directory leads to the folder that the directory denotes. -/
theorem followLeft_stem (denotes : fs.directory? base = some dir) :
    ∃ left, followLeft fs.tree fs.limits.nameBytes true fs.limits.links (start base fs.current)
      (stem base) = .ok (.entry dir, left) := by
  by_cases filled : base = ""
  · subst filled
    obtain rfl := Option.some.inj denotes
    exact ⟨_, by rw [PathText.stem_empty, followLeft_eq]; rfl⟩
  · obtain ⟨leads, folder⟩ := (directory?_eq_some filled).1 denotes
    obtain ⟨blank, only, cut⟩ := PathText.parts_eq_stem base
    have followed := (resolve_eq_ok.1 leads).2
    rw [cut] at followed
    obtain ⟨there, left, reached, further⟩ := followLeft_of_append followed
    refine ⟨left, ?_⟩
    have same : there = dir := by
      rcases only with rfl | rfl
      · rw [follow_eq] at further
        simpa [descend] using further
      · have kind := isFolder_of_follow (List.cons_ne_nil _ _) further
        rw [follow_eq, descend_blank kind (by simp)] at further
        simpa using further
    rw [reached, same]

/-- A path below a directory that denotes a folder is followed from there. -/
theorem follow_pushAll_eq (last : Bool) (named : ∀ s ∈ names, IsName s) (some_ : names ≠ [])
    (denotes : fs.directory? base = some dir) :
    ∃ left, follow fs.tree fs.limits.nameBytes last fs.limits.links
      (start (pushAll base names) fs.current) (parts (pushAll base names)) =
        follow fs.tree fs.limits.nameBytes last left dir names := by
  obtain ⟨left, reached⟩ := followLeft_stem denotes
  refine ⟨left, ?_⟩
  rw [start_pushAll named some_, PathText.parts_pushAll base named some_,
    follow_append some_, reached]

/-- A path below a directory without links leads to an old entry only if it did before. -/
theorem Extends.locate?_returned (h : Extends before after) (named : ∀ s ∈ names, IsName s)
    (some_ : names ≠ []) (denotes : before.directory? base = some dir)
    (unlinked : Unlinked before.tree dir) (old : before.tree.Solid at_)
    (leads : after.locate? (pushAll base names) = some at_) :
    before.locate? (pushAll base names) = some at_ := by
  obtain ⟨usable, followed⟩ := resolve_eq_ok.1 (locate?_eq_some.1 leads)
  obtain ⟨dir', left, same, down⟩ := follow_pushAll named some_ usable followed
  obtain rfl : dir' = dir := Option.some.inj (same.symm.trans (h.directory? denotes))
  rw [follow_eq] at down
  rcases descend_names after.limits.nameBytes true named (h.unlinked unlinked) with
    done | ⟨init, name, _, free⟩ | ⟨fault, refused⟩
  · rw [done] at down
    obtain rfl : dir'.down names = at_ := by simpa using down
    obtain ⟨left, again⟩ := follow_pushAll_eq true named some_ denotes
    refine locate?_eq_some.2 (resolve_eq_ok.2 ⟨(h.checkText _).symm.trans usable, ?_⟩)
    rw [again, follow_eq, descend_returned h.kept named old (h.limits ▸ done)]
  · simp [free] at down
  · simp [refused] at down

end TreeFetch.FileSystem
