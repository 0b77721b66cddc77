import TreeFetch.Proofs.FileSystem.Resolution

/-!
# Where the paths below a directory lead

What a path leads to stays what it is in every extension of the file system. A text that is used as
a directory denotes the folder where the paths below it begin; the empty text denotes the current
folder.

Results:
1. `locate?_eq_some`: what a path leads to is the location of an entry, which is no link.
2. `Extends.locate?` and `Extends.directory?`: an extension leads every path where it led before.
3. `follow_pushAll`: a path below a directory is followed from the folder that the directory
   denotes.
-/

namespace TreeFetch.FileSystem

open PathText (IsName parts pushAll stem)

variable {fs before after : FileSystem} {path base : String} {place : Place} {at_ : Location}
  {node : Node}

/-! ## Questions to a file system -/

theorem bind_unit_eq_ok {ε β : Type} {check : Except ε Unit} {next : Except ε β} {b : β} :
    (check.bind fun _ => next) = .ok b ↔ check = .ok () ∧ next = .ok b := by
  cases check <;> simp [Except.bind]

theorem resolve_eq_ok :
    fs.resolve path = .ok place ↔
      fs.checkText path = .ok () ∧
        follow fs.tree fs.limits.nameBytes true fs.limits.links (start path fs.current)
          (parts path) = .ok place :=
  bind_unit_eq_ok

theorem resolveLast_eq_ok :
    fs.resolveLast path = .ok place ↔
      fs.checkText path = .ok () ∧
        follow fs.tree fs.limits.nameBytes false fs.limits.links (start path fs.current)
          ((parts path).reverse.dropWhile (· = "")).reverse = .ok place :=
  bind_unit_eq_ok

theorem stat_eq_ok :
    fs.stat path = .ok (at_, node) ↔
      fs.resolve path = .ok (.entry at_) ∧ fs.tree.node? at_ = some node := by
  unfold stat
  split
  · next fault refused => simp [refused]
  · next free => simp [free]
  · next there found =>
    rw [found]
    split
    · next gone =>
      simp only [reduceCtorEq, Except.ok.injEq, Place.entry.injEq, false_iff, not_and]
      rintro rfl
      simp [gone]
    · next other here =>
      simp only [Except.ok.injEq, Prod.mk.injEq, Place.entry.injEq]
      constructor
      · rintro ⟨rfl, rfl⟩
        exact ⟨rfl, here⟩
      · rintro ⟨rfl, same⟩
        exact ⟨rfl, Option.some.inj (here.symm.trans same)⟩

theorem solid_of_resolve (h : fs.resolve path = .ok (.entry at_)) : fs.tree.Solid at_ :=
  follow_solid (PathText.parts_ne_nil path) (resolve_eq_ok.1 h).2

theorem vacant_of_resolve {folder : Location} {name : Name}
    (h : fs.resolve path = .ok (.vacancy folder name)) : fs.tree.Vacant folder name :=
  follow_vacancy (fun _ present => PathText.slashFree_of_mem_parts present) (resolve_eq_ok.1 h).2

theorem locate?_eq_some : fs.locate? path = some at_ ↔ fs.resolve path = .ok (.entry at_) := by
  constructor
  · intro h
    unfold locate? at h
    split at h
    · next there node found =>
      obtain rfl := Option.some.inj h
      exact (stat_eq_ok.1 found).1
    · cases h
  · intro h
    obtain ⟨node, there, _⟩ := solid_of_resolve h
    simp [locate?, stat_eq_ok.2 ⟨h, there⟩]

theorem isFolder_eq_true :
    fs.isFolder path = true ↔
      ∃ at_, fs.resolve path = .ok (.entry at_) ∧ fs.tree.isFolder at_ = true := by
  unfold isFolder
  split
  · next at_ t found =>
    obtain ⟨leads, there⟩ := stat_eq_ok.1 found
    simp only [true_iff]
    exact ⟨at_, leads, Tree.isFolder_iff_node?.2 ⟨t, there⟩⟩
  · next other =>
    simp only [Bool.false_eq_true, false_iff, not_exists, not_and]
    intro at_ leads folder
    obtain ⟨t, there⟩ := Tree.isFolder_iff_node?.1 folder
    exact other at_ t (stat_eq_ok.2 ⟨leads, there⟩)

/-- The folder in which the paths below a directory begin. -/
def directory? (fs : FileSystem) (path : String) : Option Location :=
  if path = "" then some fs.current
  else
    match fs.stat path with
    | .ok (at_, .folder _) => some at_
    | _ => none

@[simp] theorem directory?_empty (fs : FileSystem) : fs.directory? "" = some fs.current := rfl

theorem directory?_eq_some (filled : path ≠ "") :
    fs.directory? path = some at_ ↔
      fs.resolve path = .ok (.entry at_) ∧ fs.tree.isFolder at_ = true := by
  rw [directory?, if_neg filled]
  split
  · next there t found =>
    obtain ⟨leads, here⟩ := stat_eq_ok.1 found
    simp only [Option.some.injEq, leads, Except.ok.injEq, Place.entry.injEq, iff_self_and]
    rintro rfl
    exact Tree.isFolder_iff_node?.2 ⟨t, here⟩
  · next other =>
    simp only [reduceCtorEq, false_iff, not_and]
    intro leads folder
    obtain ⟨t, there⟩ := Tree.isFolder_iff_node?.1 folder
    exact other at_ t (stat_eq_ok.2 ⟨leads, there⟩)

theorem directory?_of_resolve (leads : fs.resolve path = .ok (.entry at_))
    (folder : fs.tree.isFolder at_ = true) : fs.directory? path = some at_ := by
  refine (directory?_eq_some ?_).2 ⟨leads, folder⟩
  rintro rfl
  exact absurd (resolve_eq_ok.1 leads).1 (by simp [FileSystem.checkText])

/-! ## Extensions -/

namespace Extends

theorem checkText (h : Extends before after) (path : String) :
    after.checkText path = before.checkText path := by
  simp only [FileSystem.checkText, h.limits]

theorem resolve (h : Extends before after) (leads : before.resolve path = .ok (.entry at_)) :
    after.resolve path = .ok (.entry at_) := by
  obtain ⟨usable, followed⟩ := resolve_eq_ok.1 leads
  refine resolve_eq_ok.2 ⟨(h.checkText path).trans usable, ?_⟩
  rw [h.limits, h.current]
  exact follow_kept h.kept followed

theorem locate? (h : Extends before after) (leads : before.locate? path = some at_) :
    after.locate? path = some at_ :=
  locate?_eq_some.2 (h.resolve (locate?_eq_some.1 leads))

theorem stat (h : Extends before after) (found : before.stat path = .ok (at_, node)) :
    ∃ other, after.stat path = .ok (at_, other) ∧ other.shape = node.shape := by
  obtain ⟨leads, there⟩ := stat_eq_ok.1 found
  obtain ⟨other, still, same⟩ :=
    Option.map_eq_some_iff.1 (h.kept _ _ (Tree.shape?_of_node? there))
  exact ⟨other, stat_eq_ok.2 ⟨h.resolve leads, still⟩, same⟩

theorem directory? (h : Extends before after) (denotes : before.directory? path = some at_) :
    after.directory? path = some at_ := by
  by_cases filled : path = ""
  · subst filled
    rw [directory?_empty, h.current]
    exact denotes
  · obtain ⟨leads, folder⟩ := (directory?_eq_some filled).1 denotes
    exact (directory?_eq_some filled).2 ⟨h.resolve leads, isFolder_kept h.kept folder⟩

theorem unlinked (h : Extends before after) (none_ : Unlinked before.tree at_) :
    Unlinked after.tree at_ :=
  fun place target below there => none_ place target below (h.links place target there)

end Extends

/-- Where a path led to a free name it leads to what is made there, or nowhere. -/
theorem Extends.resolve_filled {folder : Location} {name : Name} (h : Extends before after)
    (free : before.resolve path = .ok (.vacancy folder name))
    (made : after.tree.Solid (name :: folder)) (leads : after.resolve path = .ok (.entry at_)) :
    at_ = name :: folder := by
  have filled := follow_filled h.kept (resolve_eq_ok.1 free).2 made
  have followed := (resolve_eq_ok.1 leads).2
  rw [h.limits, h.current] at followed
  rw [followed] at filled
  simpa using filled

/-! ## Below a directory -/

/-- The beginning of a text can be used as a path if the text can be used. -/
theorem checkText_of_append {more : String} (filled : base ≠ "")
    (h : fs.checkText (base ++ more) = .ok ()) : fs.checkText base = .ok () := by
  simp only [checkText, String.contains_char_eq, String.toList_append, List.mem_append,
    String.utf8ByteSize_append] at h ⊢
  split at h
  · cases h
  · next clean =>
    split at h
    · cases h
    · split at h
      · cases h
      · next short =>
        simp only [decide_eq_true_eq, not_or] at clean
        rw [if_neg (by simpa using clean.1), if_neg filled, if_neg (by omega)]

theorem pushAll_eq_append (base : String) (names : List String) :
    ∃ more, pushAll base names = base ++ more := by
  induction names using List.reverseRecOn with
  | nil => exact ⟨"", by simp [pushAll]⟩
  | append_singleton names name ih =>
    obtain ⟨more, same⟩ := ih
    rw [PathText.pushAll_concat, PathText.push, same]
    split
    · exact ⟨more ++ name, by rw [String.append_assoc]⟩
    · exact ⟨more ++ "/" ++ name, by simp only [String.append_assoc]⟩

theorem start_append {more : String} (filled : base ≠ "") (folder : Location) :
    start (base ++ more) folder = start base folder := by
  obtain ⟨c, chars, text⟩ := List.exists_cons_of_ne_nil (mt String.toList_eq_nil_iff.1 filled)
  have front : (base ++ more).front = base.front := by
    simp [String.front_eq, String.front?_eq, text]
  rw [start, start, front]

theorem start_pushAll {names : List String} (named : ∀ s ∈ names, IsName s)
    (some_ : names ≠ [])
    (folder : Location) : start (pushAll base names) folder = start base folder := by
  by_cases filled : base = ""
  · subst filled
    obtain ⟨name, rest, rfl⟩ := List.exists_cons_of_ne_nil some_
    have here := named name (List.mem_cons_self ..)
    obtain ⟨more, same⟩ := pushAll_eq_append name rest
    have begun : pushAll "" (name :: rest) = name ++ more := by
      rw [← same, pushAll, List.foldl_cons]
      simp [PathText.push, pushAll]
    rw [begun, start_append here.ne_empty, start, start, if_neg here.front_ne, if_neg (by decide)]
  · obtain ⟨more, same⟩ := pushAll_eq_append base names
    rw [same, start_append filled]

theorem directory?_of_stem {left : Nat} (usable : base ≠ "" → fs.checkText base = .ok ())
    (folder : fs.tree.isFolder at_ = true)
    (h : followLeft fs.tree fs.limits.nameBytes true fs.limits.links (start base fs.current)
      (stem base) = .ok (.entry at_, left)) :
    fs.directory? base = some at_ := by
  by_cases filled : base = ""
  · subst filled
    rw [PathText.stem_empty, followLeft_eq] at h
    simp only [descend, Except.ok.injEq, Prod.mk.injEq, Place.entry.injEq] at h
    rw [directory?_empty, ← h.1]
    rfl
  · refine (directory?_eq_some filled).2 ⟨resolve_eq_ok.2 ⟨usable filled, ?_⟩, folder⟩
    obtain ⟨blank, only, cut⟩ := PathText.parts_eq_stem base
    rw [cut]
    refine follow_append_blank folder (fun part present => ?_) (follow_eq_ok.2 ⟨left, h⟩)
    rcases only with rfl | rfl
    · exact absurd present List.not_mem_nil
    · exact List.mem_singleton.1 present

/-- A path below a directory is followed from the folder that the directory denotes. -/
theorem follow_pushAll {last : Bool} {names : List String} (named : ∀ s ∈ names, IsName s)
    (some_ : names ≠ []) (usable : fs.checkText (pushAll base names) = .ok ())
    (h : follow fs.tree fs.limits.nameBytes last fs.limits.links
      (start (pushAll base names) fs.current) (parts (pushAll base names)) = .ok place) :
    ∃ dir left, fs.directory? base = some dir ∧
      follow fs.tree fs.limits.nameBytes last left dir names = .ok place := by
  rw [start_pushAll named some_, PathText.parts_pushAll base named some_,
    follow_append some_] at h
  split at h
  · next there left found =>
    refine ⟨there, left, directory?_of_stem (fun filled => ?_)
      (isFolder_of_follow some_ h) found, h⟩
    obtain ⟨more, same⟩ := pushAll_eq_append base names
    exact checkText_of_append filled (same ▸ usable)
  · next folder name left found =>
    have filled : names.all (· = "") = false := by
      obtain ⟨name, rest, rfl⟩ := List.exists_cons_of_ne_nil some_
      simp [(named name (List.mem_cons_self ..)).ne_empty]
    rw [filled] at h
    simp at h
  · cases h

theorem isName_of_isValid {name : String} (h : (Name.text name).isValid = true) : IsName name := by
  simp only [Name.isValid, Bool.and_eq_true, Bool.not_eq_true', List.contains_eq_mem,
    decide_eq_false_iff_not] at h
  exact ⟨h.1.1, h.1.2, h.2⟩

theorem isValid_of_isName {name : String} (named : IsName name) :
    (Name.text name).isValid = true := by
  simp [Name.isValid, named.slashFree, named.stays, named.falls]

/-- A path to what is no link in a directory leads to it straight. -/
theorem resolve_push {name : String} {dir : Location} (named : IsName name)
    (denotes : fs.directory? base = some dir) (solid : fs.tree.Solid (.text name :: dir))
    (h : fs.resolve (PathText.push base name) = .ok place) :
    place = .entry (.text name :: dir) := by
  have all : ∀ s ∈ [name], IsName s := fun s present => List.mem_singleton.1 present ▸ named
  have some_ := List.cons_ne_nil name []
  obtain ⟨usable, followed⟩ := resolve_eq_ok.1 h
  obtain ⟨dir', left, same, leads⟩ := follow_pushAll all some_ usable followed
  obtain rfl : dir' = dir := Option.some.inj (same.symm.trans denotes)
  have folder := isFolder_of_follow some_ leads
  rw [follow_eq] at leads
  by_cases fits : name.utf8ByteSize ≤ fs.limits.nameBytes
  · have looks : LooksUp fs.tree fs.limits.nameBytes dir' name :=
      ⟨folder, named.stays, named.falls, fits⟩
    rw [looks.descend_onto solid] at leads
    exact (Except.ok.inj leads).symm
  · rw [descend] at leads
    simp [folder, named.stays, named.falls, Nat.lt_of_not_le fits] at leads

theorem isFolder_of_isAbove {text : String} (above : PathText.IsAbove path text)
    (h : fs.resolve path = .ok (.entry at_)) : text = "" ∨ fs.isFolder text = true := by
  by_cases filled : text = ""
  · exact .inl filled
  · right
    obtain ⟨usable, followed⟩ := resolve_eq_ok.1 h
    obtain ⟨rest, whole⟩ := above.split
    rw [whole, String.append_assoc] at usable
    obtain ⟨n, positive, short, same⟩ := above
    rw [← List.take_append_drop n (parts path)] at followed
    obtain ⟨there, left, reached, further⟩ := followLeft_of_append followed
    have begun : start text fs.current = start path fs.current := by
      rw [whole, String.append_assoc, start_append filled]
    refine isFolder_eq_true.2
      ⟨there, resolve_eq_ok.2 ⟨checkText_of_append filled usable, ?_⟩, ?_⟩
    · rw [begun, PathText.IsAbove.parts_eq positive same]
      exact follow_eq_ok.2 ⟨left, reached⟩
    · exact isFolder_of_follow (by simpa using short) further

theorem isFolder_slash (slash : path.front = '/') (usable : fs.checkText path = .ok ()) :
    fs.isFolder "/" = true := by
  have whole : ∃ rest, path = "/" ++ rest := by
    rw [String.front_eq, String.front?_eq] at slash
    cases chars : path.toList with
    | nil => simp [chars] at slash
    | cons c rest =>
      obtain rfl : c = '/' := by simpa [chars] using slash
      exact ⟨String.ofList rest, by rw [← String.toList_inj]; simp [chars]⟩
  obtain ⟨rest, rfl⟩ := whole
  have root : fs.tree.isFolder [] = true := rfl
  refine isFolder_eq_true.2
    ⟨[], resolve_eq_ok.2 ⟨checkText_of_append (by decide) usable, ?_⟩, root⟩
  have begun : start "/" fs.current = [] := if_pos (by decide)
  have cut : parts "/" = ["", ""] := by decide
  rw [begun, cut, follow_eq, descend_blank root (by simp)]

end TreeFetch.FileSystem
