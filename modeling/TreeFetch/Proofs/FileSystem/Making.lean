import TreeFetch.Proofs.FileSystem.Missing

/-!
# Making all folders on a way

The folders on a way can be made if nothing on it is something else than a folder, and no name is
too long. Where a folder is missing, the one above it is made first.

Results:
1. `fits_of_resolve`: a path that leads somewhere has no part that is too long for a name.
2. `LeadsOn.makeFolder_vacant` and `LeadsOn.makeFolder_gone`: a folder is made in one that exists,
   and not otherwise.
3. `LeadsOn.makeFoldersAlong_ok`: the folders on a way are made, and nothing else.
-/

namespace TreeFetch.FileSystem

open PathText (IsName parts pushAll isIdle climbs along ofSegments)

variable {fs after : FileSystem} {tree : Tree} {nameBytes left : Nat} {last : Bool}
  {there at_ : Location} {way init names : List String} {part path root : String}

/-! ## Names that are not too long -/

/-- A part of a path leads somewhere without a name, or is not too long for one. -/
def Short (nameBytes : Nat) (part : String) : Prop :=
  isIdle part = true ∨ climbs part = true ∨ part.utf8ByteSize ≤ nameBytes

def Descent.later : Descent → List String
  | .link _ _ rest => rest
  | _ => []

theorem descend_short {d : Descent} (h : descend tree nameBytes last at_ way = d)
    (leads : ∀ fault, d ≠ .refused fault) :
    ∀ part ∈ way, part ∈ d.later ∨ Short nameBytes part := by
  fun_induction descend tree nameBytes last at_ way with
  | case1 at_ => exact List.forall_mem_nil _
  | case2 at_ part rest shut => exact absurd h.symm (leads _)
  | case3 at_ part rest open_ idle ih => exact List.forall_mem_cons.2 ⟨.inr (.inl idle), ih h⟩
  | case4 at_ part rest open_ moves up ih =>
    exact List.forall_mem_cons.2 ⟨.inr (.inr (.inl up)), ih h⟩
  | case5 at_ part rest open_ moves falls long => exact absurd h.symm (leads _)
  | case6 at_ part rest open_ moves falls fits free blank =>
    refine List.forall_mem_cons.2
      ⟨.inr (.inr (.inr (by simpa using fits))), fun part present => ?_⟩
    have empty : part = "" := by simpa using List.all_eq_true.1 blank part present
    exact .inr (.inl (by rw [empty]; decide))
  | case7 at_ part rest open_ moves falls fits free filled => exact absurd h.symm (leads _)
  | case8 at_ part rest open_ moves falls fits target found ends =>
    obtain rfl : rest = [] := by
      simp only [Bool.and_eq_true, List.isEmpty_iff] at ends
      exact ends.1
    exact List.forall_mem_cons.2
      ⟨.inr (.inr (.inr (by simpa using fits))), List.forall_mem_nil _⟩
  | case9 at_ part rest open_ moves falls fits target found on_ =>
    subst h
    exact List.forall_mem_cons.2
      ⟨.inr (.inr (.inr (by simpa using fits))), fun part present => .inl present⟩
  | case10 at_ part rest open_ moves falls fits node solid found ih =>
    exact List.forall_mem_cons.2 ⟨.inr (.inr (.inr (by simpa using fits))), ih h⟩

/-- A path that leads somewhere has no part that is too long. -/
theorem follow_short {links : Nat} {place : Place}
    (h : follow tree nameBytes last links at_ way = .ok place) :
    ∀ part ∈ way, Short nameBytes part := by
  fun_induction follow tree nameBytes last links at_ way with
  | case1 links at_ way place reached =>
    exact fun part present =>
      (descend_short reached (by simp) part present).resolve_left List.not_mem_nil
  | case2 => cases h
  | case3 => cases h
  | case4 at_ way folder target rest reached left ih =>
    intro part present
    rcases descend_short reached (by simp) part present with later | short
    · exact ih h part (List.mem_append_right _ later)
    · exact short

/-- Whether the operating system lets a path be used, and its parts be names. -/
def fits (fs : FileSystem) (path : String) : Bool :=
  (fs.checkText path).toBool && (leading (parts path)).all fun part =>
    part.utf8ByteSize ≤ fs.limits.nameBytes

theorem fits_iff :
    fs.fits path = true ↔ fs.checkText path = .ok () ∧
      ∀ part ∈ leading (parts path), part.utf8ByteSize ≤ fs.limits.nameBytes := by
  have usable : (fs.checkText path).toBool = true ↔ fs.checkText path = .ok () := by
    cases fs.checkText path <;> simp [Except.toBool]
  simp only [fits, Bool.and_eq_true, usable, List.all_eq_true, decide_eq_true_eq]

theorem fits_of_resolve {place : Place} (falls : ∀ part ∈ parts path, climbs part = false)
    (h : fs.resolve path = .ok place) : fs.fits path = true := by
  obtain ⟨usable, followed⟩ := resolve_eq_ok.1 h
  refine fits_iff.2 ⟨usable, fun part present => ?_⟩
  obtain ⟨inside, moves⟩ := List.mem_filter.1 present
  rcases follow_short followed part inside with idle | up | short
  · simp [idle] at moves
  · exact absurd up (by simp [falls part inside])
  · exact short

theorem Extends.fits (e : Extends fs after) (path : String) : after.fits path = fs.fits path := by
  rw [FileSystem.fits, FileSystem.fits, e.checkText, e.limits]

/-- Below a path with a part that is too long, no path fits. -/
theorem not_fits_of_long {names : List String} (inside : part ∈ leading (PathText.stem path))
    (long : fs.limits.nameBytes < part.utf8ByteSize) (named : ∀ n ∈ names, IsName n)
    (some_ : names ≠ []) : fs.fits (pushAll path names) = false := by
  rw [← Bool.not_eq_true]
  intro fits
  have short := (fits_iff.1 fits).2 part (by
    rw [PathText.parts_pushAll path named some_, leading_append]
    exact List.mem_append_left _ inside)
  omega

/-- Where all that exists on a path are folders, the path is stuck only at a part that is too
long. -/
theorem Stuck.not_fits (stuck : Stuck fs path) (usable : fs.checkText path = .ok ())
    (current : fs.tree.isFolder (start path fs.current) = true)
    (ground : ∀ text, IsAtOrAbove path text → fs.locate? text ≠ none →
      fs.isFolder text = true)
    {names : List String} (named : ∀ n ∈ names, IsName n) (some_ : names ≠ []) :
    fs.fits (pushAll path names) = false := by
  obtain ⟨init, rest, there, left, cut, reached, refuses⟩ := stuck.reached
  have beginning : init <+: parts path :=
    (cut ▸ List.prefix_append init rest).trans (stem_beginning path)
  rcases refuses with shut | ⟨part, later, rfl, moves, _, long⟩
  · exfalso
    have leads := follow_eq_ok.2 ⟨left, reached⟩
    by_cases blank : ofSegments init = ""
    · -- only empty parts come before, which stay where the path begins
      have idle : ∀ part ∈ init, part = "" := by
        by_cases nothing : init = []
        · subst nothing
          exact List.forall_mem_nil _
        · rw [← PathText.parts_ofSegments nothing fun part present =>
            PathText.slashFree_of_mem_parts (beginning.subset present), blank]
          decide
      rw [follow_eq, descend_blank current idle] at leads
      obtain rfl : start path fs.current = there := by simpa using leads
      cases shut.symm.trans current
    · have nonempty : init ≠ [] := by
        rintro rfl
        exact blank rfl
      obtain ⟨parted, usable', begins⟩ := usable_beginning blank beginning usable
      have resolved : fs.resolve (ofSegments init) = .ok (.entry there) := by
        refine resolve_eq_ok.2 ⟨usable', ?_⟩
        rw [parted, begins]
        exact leads
      have located := locate?_eq_some.2 resolved
      obtain ⟨at_, again, folder⟩ := isFolder_eq_true.1
        (ground _ (isAtOrAbove_beginning nonempty beginning) (by simp [located]))
      obtain rfl : there = at_ := by simpa using resolved.symm.trans again
      cases shut.symm.trans folder
  · refine not_fits_of_long ?_ long named some_
    rw [cut, leading_append, leading_cons_of_moves _ moves]
    simp

/-! ## One folder -/

/-- Everything that names lead to from a location is a folder, as far as there is anything. -/
def Passable (tree : Tree) (at_ : Location) (names : List String) : Prop :=
  ∀ init, init <+: names → tree.node? (at_.down init) = none ∨
    tree.isFolder (at_.down init) = true

theorem Passable.shorter {shorter : List String} (h : Passable tree at_ names)
    (beginning : shorter <+: names) : Passable tree at_ shorter :=
  fun init inside => h init (inside.trans beginning)

theorem descend_gone (falls : ∀ part ∈ way, climbs part = false)
    (fits : ∀ part ∈ leading way, part.utf8ByteSize ≤ nameBytes)
    (open_ : tree.isFolder at_ = true) (passable : Passable tree at_ (leading way))
    (gone : tree.isFolder (at_.down (leading way)) = false) (filled : part ≠ "") :
    descend tree nameBytes last at_ (way ++ [part]) = .refused .notFound := by
  induction way generalizing at_ with
  | nil => cases gone.symm.trans open_
  | cons first way ih =>
    have later := List.forall_mem_of_forall_mem_cons falls
    cases moves : isIdle first with
    | true =>
      rw [leading_cons_of_idle moves] at fits passable gone
      rw [List.cons_append, descend_idle open_ moves]
      exact ih later fits open_ passable gone
    | false =>
      rw [leading_cons_of_moves _ moves] at fits passable gone
      have looks : LooksUp tree nameBytes at_ first :=
        ⟨open_, moves, falls first (List.mem_cons_self ..), fits first (List.mem_cons_self ..)⟩
      rw [List.cons_append]
      rcases passable [first] ((List.cons_prefix_cons).2 ⟨rfl, List.nil_prefix⟩)
        with free | folder
      · have free : tree.node? (.text first :: at_) = none := free
        rw [descend]
        simp [looks.folder, looks.stays, looks.falls, Nat.not_lt.2 looks.fits, free, filled]
      · rw [looks.descend_onto (Tree.solid_of_isFolder folder)]
        refine ih later (List.forall_mem_of_forall_mem_cons fits) folder
          (fun inner inside => ?_) gone
        exact passable (first :: inner) ((List.cons_prefix_cons).2 ⟨rfl, inside⟩)

/-- The first parts of a path lead to a folder, and what follows them does not climb and consists of
names that are not too long. -/
structure LeadsOn (fs : FileSystem) (path : String) (init : List String) (there : Location)
    (way : List String) : Prop where
  reached : ∃ left, followLeft fs.tree fs.limits.nameBytes true fs.limits.links
    (start path fs.current)
    init = .ok (.entry there, left)
  folder : fs.tree.isFolder there = true
  falls : ∀ part ∈ way, climbs part = false
  fits : ∀ part ∈ leading way, part.utf8ByteSize ≤ fs.limits.nameBytes

namespace LeadsOn

theorem extend (h : LeadsOn fs path init there way) (e : Extends fs after) :
    LeadsOn after path init there way := by
  obtain ⟨left, reached⟩ := h.reached
  refine ⟨⟨left, ?_⟩, isFolder_kept e.kept h.folder, h.falls, e.limits ▸ h.fits⟩
  rw [e.limits, e.current]
  exact followLeft_kept e.kept reached

theorem beginning {more : List String} (h : LeadsOn fs path init there (way ++ more)) :
    LeadsOn fs path init there way := by
  refine ⟨h.reached, h.folder, fun part present => h.falls part (by simp [present]),
    fun part present => h.fits part ?_⟩
  rw [leading_append]
  exact List.mem_append_left _ present

theorem follow_eq (h : LeadsOn fs path init there way) (some_ : way ≠ []) :
    ∃ left, follow fs.tree fs.limits.nameBytes last fs.limits.links (start path fs.current)
      (init ++ way) = follow fs.tree fs.limits.nameBytes last left there way := by
  obtain ⟨left, reached⟩ := h.reached
  exact ⟨left, by rw [follow_append some_, reached]⟩

theorem follow_folder (h : LeadsOn fs path init there way) (some_ : way ≠ [])
    (folder : fs.tree.isFolder (there.down (leading way)) = true) :
    follow fs.tree fs.limits.nameBytes last fs.limits.links (start path fs.current) (init ++ way) =
      .ok (.entry (there.down (leading way))) := by
  obtain ⟨left, same⟩ := @follow_eq _ last _ _ _ _ h some_
  rw [same, FileSystem.follow_eq, descend_folders h.falls h.fits folder]

theorem follow_vacant (h : LeadsOn fs path init there (way ++ [part])) (moves : isIdle part = false)
    (folder : fs.tree.isFolder (there.down (leading way)) = true)
    (free : fs.tree.node? (.text part :: there.down (leading way)) = none) :
    follow fs.tree fs.limits.nameBytes last fs.limits.links (start path fs.current)
      (init ++ (way ++ [part])) = .ok (.vacancy (there.down (leading way)) (.text part)) := by
  have falls := h.falls part (by simp)
  have fits := h.fits part (by rw [leading_append, leading_cons_of_moves _ moves]; simp)
  obtain ⟨left, same⟩ := @follow_eq _ last _ _ _ _ h (by simp)
  rw [same, FileSystem.follow_eq, descend_append (List.cons_ne_nil _ _),
    descend_folders h.beginning.falls h.beginning.fits folder]
  simp only
  rw [descend]
  simp [folder, moves, falls, Nat.not_lt.2 fits, free]

theorem follow_gone (h : LeadsOn fs path init there (way ++ [part])) (moves : isIdle part = false)
    (passable : Passable fs.tree there (leading way))
    (gone : fs.tree.isFolder (there.down (leading way)) = false) :
    follow fs.tree fs.limits.nameBytes last fs.limits.links (start path fs.current)
      (init ++ (way ++ [part])) = .error .notFound := by
  have filled : part ≠ "" := by
    rintro rfl
    exact absurd moves (by decide)
  obtain ⟨left, same⟩ := @follow_eq _ last _ _ _ _ h (by simp)
  rw [same, FileSystem.follow_eq,
    descend_gone h.beginning.falls h.beginning.fits h.folder passable gone filled]

end LeadsOn

/-- The text of the first parts of a path that can be used, up to one that leads somewhere. -/
theorem resolveLast_text (usable : fs.checkText path = .ok ()) (moves : isIdle part = false)
    (beginning : way ++ [part] <+: parts path) :
    fs.resolveLast (ofSegments (way ++ [part])) =
      follow fs.tree fs.limits.nameBytes false fs.limits.links (start path fs.current)
        (way ++ [part]) := by
  have filled : part ≠ "" := by
    rintro rfl
    exact absurd moves (by decide)
  obtain ⟨cut, usable', begins⟩ :=
    usable_beginning (ofSegments_ne_empty moves beginning) beginning usable
  have stripped : ((way ++ [part]).reverse.dropWhile (· = "")).reverse = way ++ [part] := by
    simp [filled]
  rw [resolveLast, usable', cut, begins]
  simp only [Except.bind, stripped]

/-- The text of the first parts of a path names the folder that they lead to. -/
theorem isFolder_text (usable : fs.checkText path = .ok ()) (filled : ofSegments way ≠ "")
    (beginning : way <+: parts path)
    (leads : follow fs.tree fs.limits.nameBytes true fs.limits.links (start path fs.current) way =
      .ok (.entry at_)) (folder : fs.tree.isFolder at_ = true) :
    fs.isFolder (ofSegments way) = true := by
  obtain ⟨cut, usable', begins⟩ := usable_beginning filled beginning usable
  refine isFolder_eq_true.2 ⟨at_, resolve_eq_ok.2 ⟨usable', ?_⟩, folder⟩
  rw [cut, begins]
  exact leads

theorem LeadsOn.makeFolder_vacant (h : LeadsOn fs path init there (way ++ [part]))
    (usable : fs.checkText path = .ok ()) (moves : isIdle part = false)
    (beginning : init ++ way ++ [part] <+: parts path)
    (folder : fs.tree.isFolder (there.down (leading way)) = true)
    (free : fs.tree.node? (.text part :: there.down (leading way)) = none) :
    fs.makeFolder (ofSegments (init ++ way ++ [part])) =
      .ok (fs.create (there.down (leading way)) (.text part) (.folder fs.clock)) := by
  rw [makeFolder, resolveLast_text usable moves beginning, List.append_assoc,
    h.follow_vacant moves folder free]

theorem LeadsOn.makeFolder_gone (h : LeadsOn fs path init there (way ++ [part]))
    (usable : fs.checkText path = .ok ()) (moves : isIdle part = false)
    (beginning : init ++ way ++ [part] <+: parts path)
    (passable : Passable fs.tree there (leading way))
    (gone : fs.tree.isFolder (there.down (leading way)) = false) :
    fs.makeFolder (ofSegments (init ++ way ++ [part])) = .error .notFound := by
  rw [makeFolder, resolveLast_text usable moves beginning, List.append_assoc,
    h.follow_gone moves passable gone]

/-! ## All folders -/

/-- The folders along a list of texts need not be made if the first one exists. -/
theorem makeFoldersAlong_of_isFolder {text : String} {above : List String}
    (h : text = "" ∨ fs.isFolder text = true) :
    fs.makeFoldersAlong (text :: above) = (.ok (), fs) := by
  rw [makeFoldersAlong]
  by_cases empty : text = ""
  · rw [if_pos empty]
  · have folder := h.resolve_left empty
    obtain ⟨at_, leads, _⟩ := isFolder_eq_true.1 folder
    obtain ⟨named, last⟩ := resolveLast_of_resolve leads
    rw [if_neg empty]
    simp [makeFolder, last, folder]

/-- The first text along a way that leads to a folder is the one of a folder. -/
theorem along_of_folder (usable : fs.checkText path = .ok ()) (beginning : way <+: parts path)
    (leads : follow fs.tree fs.limits.nameBytes true fs.limits.links (start path fs.current) way =
      .ok (.entry at_)) (folder : fs.tree.isFolder at_ = true)
    (top : root = "" ∨ fs.isFolder root = true) :
    ∃ text above, along root way = text :: above ∧ (text = "" ∨ fs.isFolder text = true) := by
  induction way using List.reverseRecOn generalizing at_ with
  | nil => exact ⟨root, [], rfl, top⟩
  | append_singleton way part ih =>
    cases moves : isIdle part with
    | false =>
      rw [PathText.along_concat_of_moves root moves]
      exact ⟨_, _, rfl, .inr (isFolder_text usable (ofSegments_ne_empty moves beginning) beginning
        leads folder)⟩
    | true =>
      by_cases later : way = []
      · subst later
        rcases (show part = "" ∨ part = "." by simpa [isIdle] using moves) with rfl | rfl
        · exact ⟨root, [], rfl, top⟩
        · exact ⟨".", _, rfl, .inr (isFolder_text usable (by decide) beginning leads folder)⟩
      · rw [PathText.along_concat_of_idle root moves later]
        obtain ⟨there, left, reached, further⟩ := followLeft_of_append leads
        exact ih ((List.prefix_append way [part]).trans beginning)
          (follow_eq_ok.2 ⟨left, reached⟩)
          (isFolder_of_follow (List.cons_ne_nil _ _) further)

/-- The folders of the texts are made: `names` lead to a folder then, and nothing else is new. -/
structure Passed (fs : FileSystem) (texts : List String) (there : Location) (names : List String)
    (made : FileSystem) : Prop where
  done : fs.makeFoldersAlong texts = (.ok (), made)
  extension : Extends fs made
  folder : made.tree.isFolder (there.down names) = true
  free : ∀ place, (∀ inner, inner <+: names → place ≠ there.down inner) →
    fs.tree.node? place = none → made.tree.node? place = none

namespace LeadsOn

/-- A folder is made at the end of a way on which all other folders exist. -/
theorem creates {before : FileSystem} (h : LeadsOn fs path init there (way ++ [part]))
    (usable : fs.checkText path = .ok ()) (named : IsName part)
    (beginning : init ++ way ++ [part] <+: parts path) (e : Extends fs before)
    (folder : before.tree.isFolder (there.down (leading way)) = true)
    (free : before.tree.node? (there.down (leading way ++ [part])) = none) :
    ∃ made, before.makeFolder (ofSegments (init ++ way ++ [part])) = .ok made ∧
      Extends before made ∧ made.tree.isFolder (there.down (leading way ++ [part])) = true ∧
      ∀ place, place ≠ there.down (leading way ++ [part]) → before.tree.node? place = none →
        made.tree.node? place = none := by
  rw [Location.down_concat] at free ⊢
  have vacant : before.tree.Vacant (there.down (leading way)) (.text part) :=
    ⟨folder, free, isValid_of_isName named⟩
  have shape : ∀ place, (before.create _ _ (.folder before.clock)).tree.shape? place =
      if place = _ then some .folder else before.tree.shape? place := shape?_create vacant
  refine ⟨_, (h.extend e).makeFolder_vacant ((e.checkText path).trans usable)
    named.stays beginning
    folder free, extends_create vacant (by simp), ?_, fun place other gone => ?_⟩
  · rw [Tree.isFolder_iff, shape, if_pos rfl]
  · have same := shape place
    rw [if_neg other] at same
    simpa [Tree.shape?, gone] using same

theorem passed_concat {above : List String} {mid : FileSystem}
    (h : LeadsOn fs path init there (way ++ [part])) (usable : fs.checkText path = .ok ())
    (named : IsName part) (beginning : init ++ way ++ [part] <+: parts path)
    (passable : Passable fs.tree there (leading way ++ [part]))
    (upper : Passed fs above there (leading way) mid) :
    ∃ made, Passed fs (ofSegments (init ++ way ++ [part]) :: above) there (leading way ++ [part])
      made := by
  have filled := ofSegments_ne_empty named.stays beginning
  have all : leading (way ++ [part]) = leading way ++ [part] := by
    rw [leading_append, leading_cons_of_moves _ named.stays, leading_nil]
  rcases passable _ (List.prefix_refl _) with free | folder
  · cases here : fs.tree.isFolder (there.down (leading way)) with
    | true =>
      obtain ⟨made, done, extension, folder, others⟩ :=
        h.creates usable named beginning (.refl fs) here free
      refine ⟨made, ?_, extension, folder, fun place outside gone => ?_⟩
      · rw [makeFoldersAlong, if_neg filled, done]
      · exact others place (outside _ (List.prefix_refl _)) gone
    | false =>
      have stays : mid.tree.node? (there.down (leading way ++ [part])) = none := by
        refine upper.free _ (fun inner inside same => ?_) free
        have longer := inside.length_le
        rw [← Location.down_inj.1 same, List.length_append, List.length_singleton] at longer
        omega
      obtain ⟨made, done, extension, folder, others⟩ :=
        h.creates usable named beginning upper.extension upper.folder stays
      have refused := h.makeFolder_gone usable named.stays beginning
        (passable.shorter (List.prefix_append _ _)) here
      refine ⟨made, ?_, upper.extension.trans extension, folder, fun place outside gone => ?_⟩
      · rw [makeFoldersAlong, if_neg filled, refused]
        simp only [upper.done, done]
      · refine others place (outside _ (List.prefix_refl _)) (upper.free place ?_ gone)
        exact fun inner inside => outside inner (inside.trans (List.prefix_append _ _))
  · have leads : follow fs.tree fs.limits.nameBytes true fs.limits.links (start path fs.current)
        (init ++ (way ++ [part])) = .ok (.entry (there.down (leading way ++ [part]))) := by
      rw [← all] at folder ⊢
      exact h.follow_folder (by simp) folder
    rw [← List.append_assoc] at leads
    refine ⟨fs, ?_, .refl fs, folder, fun _ _ gone => gone⟩
    exact makeFoldersAlong_of_isFolder (.inr (isFolder_text usable filled beginning leads folder))

/-- The folders on a way can be made, if nothing on it is something else. -/
theorem makeFoldersAlong_ok {first : String} (h : LeadsOn fs path init there (first :: way))
    (usable : fs.checkText path = .ok ()) (named : isIdle first = false)
    (beginning : init ++ first :: way <+: parts path)
    (passable : Passable fs.tree there (leading (first :: way)))
    (top : root = "" ∨ fs.isFolder root = true) :
    ∃ made, Passed fs (along root (init ++ first :: way)) there
      (leading (first :: way)) made := by
  have names : ∀ part ∈ first :: way, isIdle part = false → IsName part := by
    intro part present moves
    refine ⟨PathText.slashFree_of_mem_parts (beginning.subset ?_), moves, h.falls part present⟩
    exact List.mem_append_right _ present
  induction way using List.reverseRecOn with
  | nil =>
    obtain ⟨left, reached⟩ := h.reached
    obtain ⟨text, above, texts, exists_⟩ := along_of_folder usable
      ((List.prefix_append init _).trans beginning)
        (follow_eq_ok.2 ⟨left, reached⟩) h.folder top
    have upper : Passed fs (along root init) there (leading []) fs :=
      ⟨by rw [texts]; exact makeFoldersAlong_of_isFolder exists_, .refl fs, h.folder,
        fun _ _ gone => gone⟩
    rw [PathText.along_concat_of_moves root named]
    have whole : leading [first] = leading [] ++ [first] := leading_cons_of_moves _ named
    rw [whole] at passable ⊢
    have one : LeadsOn fs path init there ([] ++ [first]) := h
    have here := one.passed_concat usable (names first (by simp) named) (by simpa using beginning)
      passable upper
    simpa using here
  | append_singleton way part ih =>
    rw [← List.cons_append, ← List.append_assoc] at beginning ⊢
    have shorter := (List.prefix_append _ [part]).trans beginning
    have all : leading (first :: way ++ [part]) = leading (first :: way) ++ leading [part] :=
      leading_append _ _
    obtain ⟨mid, upper⟩ := ih (by rw [← List.cons_append] at h; exact h.beginning) shorter
      (passable.shorter (by rw [← List.cons_append, all]; exact List.prefix_append _ _))
      (fun part present => names part (by
        rw [← List.cons_append]
        exact List.mem_append_left _ present))
    cases moves : isIdle part with
    | true =>
      rw [PathText.along_concat_of_idle root moves (by simp), all, leading_cons_of_idle moves,
        leading_nil, List.append_nil]
      exact ⟨mid, upper⟩
    | false =>
      rw [PathText.along_concat_of_moves root moves, all,
        leading_cons_of_moves _ moves, leading_nil]
      refine passed_concat h usable (names part (by simp) moves) beginning ?_ upper
      rwa [← List.cons_append, all, leading_cons_of_moves _ moves, leading_nil] at passable

end LeadsOn

end TreeFetch.FileSystem
