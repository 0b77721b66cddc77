import TreeFetch.Proofs.FileSystem.Leading
import TreeFetch.Proofs.FileSystem.Writes

/-!
# Paths to what does not exist yet

A path to what does not exist is followed to a folder, and there to a name that is free. What the
rest of the path names, and everything that is saved below the path, will lie at that name or below
it: where nothing is there are no links, so that the parts of the path lead straight down.

A path may also be stuck at something that is no folder, or at a name that is too long. Nothing is
ever made below such a path.

Results:
1. `Missing.location`: where a path below the missing one leads in an extension.
2. `Stuck.unchanged`: writes below a path that is stuck change nothing.
3. `Absent.missing_or_stuck`: one of the two is the case for every path that leads nowhere, does not
   climb and passes no dangling link.
-/

namespace TreeFetch.FileSystem

open PathText (IsName IsAbove parts pushAll stem isIdle climbs)

variable {fs before after : FileSystem} {tree : Tree} {nameBytes links : Nat} {last : Bool}
  {at_ there : Location} {way names more : List String} {name path : String} {place : Place}

/-! ## Texts of the folders above -/

/-- The text of a folder above a path below `path` consists of parts of `path` and of names, but not
of the last one. -/
theorem prefix_of_isAbove {text : String} (named : ∀ s ∈ more, IsName s) (some_ : more ≠ [])
    (above : IsAbove (pushAll path more) text) (usable : fs.checkText text = .ok ()) :
    ((parts text).reverse.dropWhile (· = "")).reverse <+: stem path ++ more.dropLast ∧
      start text fs.current = start path fs.current := by
  have filled : text ≠ "" := by
    rintro rfl
    simp [checkText] at usable
  constructor
  · obtain ⟨blanks, _, stripped⟩ := parts_eq_stripped text
    obtain ⟨n, positive, short, same⟩ := above
    have cut := IsAbove.parts_eq positive same
    rw [PathText.parts_pushAll path named some_] at cut short
    have shorter : parts text <+: stem path ++ more.dropLast := by
      rw [cut, ← List.dropLast_append_of_ne_nil some_, List.dropLast_eq_take]
      exact List.take_prefix_take_left (by omega)
    refine List.IsPrefix.trans ?_ shorter
    exact ⟨blanks, stripped.symm⟩
  · obtain ⟨rest, whole⟩ := above.split
    have begun : start (pushAll path more) fs.current = start path fs.current :=
      start_pushAll named some_ fs.current
    rw [← begun, whole, String.append_assoc, start_append filled]

/-! ## A name that is free -/

/-- A path leads to the folder `there`, and from there on to `name`, which is free, and then to
`names`. -/
structure Missing (fs : FileSystem) (path : String) (there : Location) (name : String)
    (names : List String) : Prop where
  reached : ∃ init rest left, stem path = init ++ name :: rest ∧ leading rest = names ∧
    followLeft fs.tree fs.limits.nameBytes true fs.limits.links (start path fs.current) init =
      .ok (.entry there, left)
  falls : ∀ part ∈ stem path, climbs part = false
  looks : LooksUp fs.tree fs.limits.nameBytes there name
  free : fs.tree.node? (.text name :: there) = none

namespace Tree

theorem node?_below_none (free : tree.node? at_ = none) {place : Location} (below : at_ <:+ place) :
    tree.node? place = none := by
  obtain ⟨between, rfl⟩ := below
  induction between with
  | nil => exact free
  | cons name between ih =>
    cases found : tree.node? (name :: (between ++ at_)) with
    | none => exact found
    | some node =>
      have folder := isFolder_of_node? found
      simp [isFolder, ih] at folder

end Tree

namespace Missing

variable (m : Missing fs path there name names)

include m

theorem node?_below {place : Location} (below : .text name :: there <:+ place) :
    fs.tree.node? place = none :=
  Tree.node?_below_none m.free below

/-- What exists does not lie at the free name or below it. -/
theorem not_below {place : Location} {node : Node} (found : fs.tree.node? place = some node) :
    ¬.text name :: there <:+ place := by
  intro below
  cases found.symm.trans (m.node?_below below)

/-- Nothing at the free name or below it is a link, also later. -/
theorem unlinked (e : Extends fs after) : Unlinked after.tree (.text name :: there) := by
  intro place target below found
  have old := e.links place target found
  simp [Tree.shape?, m.node?_below below] at old

theorem filled : path ≠ "" := by
  rintro rfl
  obtain ⟨init, rest, left, cut, _⟩ := m.reached
  simp at cut

theorem clear (e : Extends fs after) (more : List String) :
    Clear after.tree there (name :: more) := by
  intro init beginning some_ target
  obtain ⟨first, rest, rfl⟩ := List.exists_cons_of_ne_nil some_
  obtain ⟨rfl, _⟩ := (List.cons_prefix_cons).1 beginning
  exact m.unlinked e _ target (Location.suffix_down _ rest)

omit m in
theorem follow_below {init later : List String} {left : Nat} (e : Extends fs after)
    (looks : LooksUp fs.tree fs.limits.nameBytes there name)
    (clear : ∀ names, Clear after.tree there (name :: names))
    (reached : followLeft fs.tree fs.limits.nameBytes true fs.limits.links (start path fs.current)
      init = .ok (.entry there, left))
    (falls : ∀ part ∈ later, climbs part = false)
    (h : follow after.tree after.limits.nameBytes last after.limits.links (start path after.current)
      (init ++ name :: later) = .ok place) :
    place.location = Location.down (.text name :: there) (leading later) ∧
      ∀ part ∈ leading later, part.utf8ByteSize ≤ fs.limits.nameBytes := by
  rw [e.limits, e.current, follow_append (List.cons_ne_nil _ _),
    followLeft_kept e.kept reached] at h
  have moves := leading_cons_of_moves later looks.stays
  have descends : ∀ part ∈ name :: later, climbs part = false :=
    List.forall_mem_cons.2 ⟨looks.falls, falls⟩
  obtain ⟨located, fits⟩ := follow_straight descends (by rw [moves]; exact clear _) h
  rw [moves] at located fits
  exact ⟨located, List.forall_mem_of_forall_mem_cons fits⟩

/-- A path at or below the missing one leads straight down from the free name. -/
theorem follow_stem (e : Extends fs after) (fall : ∀ part ∈ more, climbs part = false)
    (h : follow after.tree after.limits.nameBytes last after.limits.links (start path after.current)
      (stem path ++ more) = .ok place) :
    place.location = Location.down (.text name :: there) (names ++ leading more) ∧
      ∀ part ∈ names ++ leading more, part.utf8ByteSize ≤ fs.limits.nameBytes := by
  obtain ⟨init, rest, left, cut, rfl, reached⟩ := m.reached
  have falls : ∀ part ∈ rest ++ more, climbs part = false := by
    intro part present
    rcases List.mem_append.1 present with inside | later
    · exact m.falls part (by simp [cut, inside])
    · exact fall part later
  rw [cut, List.append_assoc, List.cons_append] at h
  rw [← leading_append]
  exact follow_below e m.looks (m.clear e) reached falls h

/-- The beginning of a path below the missing one leads to what exists already, or straight down
from the free name. -/
theorem follow_part (e : Extends fs after) (fall : ∀ part ∈ more, climbs part = false)
    (beginning : way <+: stem path ++ more)
    (h : follow after.tree after.limits.nameBytes last after.limits.links (start path after.current)
      way = .ok place) :
    (∃ at_, place = .entry at_) ∨ ∃ inner, inner <+: names ++ leading more ∧
      place.location = Location.down (.text name :: there) inner := by
  obtain ⟨init, rest, left, cut, rfl, reached⟩ := m.reached
  by_cases short : way <+: init
  · rw [e.limits, e.current] at h
    exact .inl (follow_beginning short (followLeft_kept e.kept reached) h)
  · right
    rw [cut, List.append_assoc] at beginning
    obtain ⟨inner, rfl⟩ := (List.prefix_or_prefix_of_prefix beginning
      (List.prefix_append init (name :: rest ++ more))).resolve_left short
    have further := (List.prefix_append_right_inj init).1 beginning
    have some_ : inner ≠ [] := by
      rintro rfl
      exact short (by simp)
    obtain ⟨first, later, rfl⟩ := List.exists_cons_of_ne_nil some_
    obtain ⟨rfl, below⟩ := (List.cons_prefix_cons).1 further
    have falls : ∀ part ∈ later, climbs part = false := by
      intro part present
      rcases List.mem_append.1 (below.subset present) with inside | later
      · exact m.falls part (by simp [cut, inside])
      · exact fall part later
    refine ⟨leading later, ?_, (follow_below e m.looks (m.clear e) reached falls h).1⟩
    rw [← leading_append]
    exact below.filter _

theorem location_of_follow (e : Extends fs after)
    (h : follow after.tree after.limits.nameBytes last after.limits.links (start path after.current)
      (parts path) = .ok place) :
    place.location = Location.down (.text name :: there) names ∧
      ∀ part ∈ names, part.utf8ByteSize ≤ fs.limits.nameBytes := by
  obtain ⟨blank, only, cut⟩ := PathText.parts_eq_stem path
  have empty : ∀ part ∈ blank, part = "" := by
    rcases only with rfl | rfl <;> simp
  have fall : ∀ part ∈ blank, climbs part = false := by
    intro part present
    rw [empty part present]
    decide
  rw [cut] at h
  have straight := m.follow_stem e fall h
  rwa [leading_of_blank empty, List.append_nil] at straight

theorem location (e : Extends fs after) (named : ∀ s ∈ more, IsName s)
    (h : after.resolve (pushAll path more) = .ok place) :
    place.location = Location.down (.text name :: there) (names ++ more) ∧
      ∀ part ∈ names ++ more, part.utf8ByteSize ≤ fs.limits.nameBytes := by
  obtain ⟨usable, followed⟩ := resolve_eq_ok.1 h
  by_cases some_ : more = []
  · subst some_
    rw [List.append_nil]
    exact m.location_of_follow e followed
  · rw [start_pushAll named some_, PathText.parts_pushAll path named some_] at followed
    have straight := m.follow_stem e (fun s present => (named s present).falls) followed
    rwa [leading_of_isName named] at straight

/-- A path below the missing one leads to what has come to exist there. -/
theorem resolves (e : Extends fs after) (named : ∀ s ∈ more, IsName s) (some_ : more ≠ [])
    (usable : fs.checkText (pushAll path more) = .ok ())
    (fits : ∀ part ∈ names ++ more, part.utf8ByteSize ≤ fs.limits.nameBytes)
    (solid : after.tree.Solid (Location.down (.text name :: there) (names ++ more))) :
    after.resolve (pushAll path more) =
      .ok (.entry (Location.down (.text name :: there) (names ++ more))) := by
  obtain ⟨init, rest, left, cut, rfl, reached⟩ := m.reached
  have moves := leading_cons_of_moves rest m.looks.stays
  have down : Location.down (.text name :: there) (leading rest ++ more) =
      (there.down (leading (name :: rest))).down more := by
    rw [moves, Location.down_cons, Location.down_append]
  rw [down] at solid ⊢
  have folder : after.tree.isFolder (there.down (leading (name :: rest))) = true := by
    obtain ⟨first, others, rfl⟩ := List.exists_cons_of_ne_nil some_
    exact Tree.isFolder_of_solid_cons (Tree.solid_of_down_cons solid)
  have folders : descend after.tree fs.limits.nameBytes true there (name :: rest) =
      .done (.entry (there.down (leading (name :: rest)))) := by
    refine descend_folders (fun part present => m.falls part (by simp [cut, present])) ?_ folder
    rw [moves]
    exact List.forall_mem_cons.2 ⟨m.looks.fits, fun part present =>
      fits part (by simp [present])⟩
  refine resolve_eq_ok.2 ⟨(e.checkText _).trans usable, ?_⟩
  rw [e.limits, e.current, start_pushAll named some_, PathText.parts_pushAll path named some_, cut,
    List.append_assoc, follow_append (by simp), followLeft_kept e.kept reached]
  show follow after.tree fs.limits.nameBytes true left there (name :: rest ++ more) = _
  rw [follow_eq, descend_append some_, folders]
  simp only [descend_down named (fun s present => fits s (by simp [present])) solid]

/-- A folder that is made above a path below the missing one lies at the free name or below it. -/
theorem newFolder {text : String} (e : Extends fs before) (named : ∀ s ∈ more, IsName s)
    (some_ : more ≠ []) (above : IsAbove (pushAll path more) text)
    (h : before.makeFolder text = .ok after) :
    ∃ inner, inner <+: names ++ more.dropLast ∧
      NewFolder text before after (Location.down (.text name :: there) inner) := by
  obtain ⟨folder, made, leads, new⟩ := makeFolder_newFolder h
  obtain ⟨beginning, begins⟩ :=
    prefix_of_isAbove named some_ above (resolveLast_eq_ok.1 leads).1
  obtain ⟨usable, followed⟩ := resolveLast_eq_ok.1 leads
  rw [begins] at followed
  have named' : ∀ s ∈ more.dropLast, IsName s :=
    fun s present => named s (List.dropLast_subset _ present)
  rcases m.follow_part e (fun s present => (named' s present).falls) beginning followed with
    ⟨at_, old⟩ | ⟨inner, short, located⟩
  · cases old
  · rw [leading_of_isName named'] at short
    exact ⟨inner, short, located ▸ new⟩

end Missing

/-! ## Paths that are stuck -/

/-- A path leads to what is no folder, or to a part that is too long for a name. -/
structure Stuck (fs : FileSystem) (path : String) : Prop where
  reached : ∃ init rest there left, stem path = init ++ rest ∧
    followLeft fs.tree fs.limits.nameBytes true fs.limits.links (start path fs.current) init =
      .ok (.entry there, left) ∧
    (fs.tree.isFolder there = false ∨ ∃ part later, rest = part :: later ∧
      isIdle part = false ∧
      climbs part = false ∧ fs.limits.nameBytes < part.utf8ByteSize)

namespace Stuck

variable (stuck : Stuck fs path)

include stuck

/-- The beginning of a path below one that is stuck leads to what exists, or nowhere. -/
theorem follow_part (beginning : way <+: stem path ++ more)
    (h : follow fs.tree fs.limits.nameBytes last fs.limits.links (start path fs.current) way =
      .ok place) : ∃ at_, place = .entry at_ ∧ way <+: stem path := by
  obtain ⟨init, rest, there, left, cut, reached, refuses⟩ := stuck.reached
  by_cases short : way <+: init
  · obtain ⟨at_, same⟩ := follow_beginning short reached h
    exact ⟨at_, same, short.trans (cut ▸ List.prefix_append init rest)⟩
  · rw [cut, List.append_assoc] at beginning
    obtain ⟨later, rfl⟩ := (List.prefix_or_prefix_of_prefix beginning
      (List.prefix_append init (rest ++ more))).resolve_left short
    have some_ : later ≠ [] := by
      rintro rfl
      exact short (by simp)
    obtain ⟨part, later, rfl⟩ := List.exists_cons_of_ne_nil some_
    rw [follow_append (List.cons_ne_nil _ _), reached] at h
    have further := (List.prefix_append_right_inj init).1 beginning
    have refused : ∃ fault, descend fs.tree fs.limits.nameBytes last there (part :: later) =
        .refused fault := by
      rw [descend]
      rcases refuses with file | ⟨first, others, rfl, moves, falls, long⟩
      · exact ⟨.notFolder, by simp [file]⟩
      · obtain ⟨rfl, _⟩ := (List.cons_prefix_cons).1 further
        cases folder : fs.tree.isFolder there with
        | false => exact ⟨.notFolder, by simp⟩
        | true => exact ⟨.nameTooLong, by simp [moves, falls, long]⟩
    obtain ⟨fault, refused⟩ := refused
    simp only [follow_eq, refused] at h
    cases h

theorem resolve_ne_ok (named : ∀ s ∈ more, IsName s) (some_ : more ≠ []) :
    fs.resolve (pushAll path more) ≠ .ok place := by
  intro h
  obtain ⟨usable, followed⟩ := resolve_eq_ok.1 h
  rw [start_pushAll named some_, PathText.parts_pushAll path named some_] at followed
  obtain ⟨at_, _, short⟩ := stuck.follow_part (List.prefix_refl _) followed
  have long := short.length_le
  rw [List.length_append] at long
  exact some_ (List.length_eq_zero_iff.1 (by omega))

/-- Writes below a path that is stuck change nothing, since there are none. -/
theorem not_writes : ¬Writes path fs after := by
  intro writes
  cases writes with
  | @folder names text named some_ above done =>
    obtain ⟨folder, made, leads, _⟩ := makeFolder_newFolder done
    obtain ⟨usable, followed⟩ := resolveLast_eq_ok.1 leads
    obtain ⟨beginning, begins⟩ := prefix_of_isAbove named some_ above usable
    rw [begins] at followed
    obtain ⟨at_, old, _⟩ := stuck.follow_part beginning followed
    cases old
  | file named some_ done =>
    obtain ⟨_, _, _, place, _, leads, _⟩ :=
      copyFile_newContent (PathText.back_pushAll path named some_) done
    exact stuck.resolve_ne_ok named some_ leads

theorem unchanged (steps : Relation.ReflTransGen (Writes path) fs after) : after = fs := by
  rcases Relation.ReflTransGen.cases_head steps with same | ⟨mid, writes, _⟩
  · exact same.symm
  · exact absurd writes stuck.not_writes

end Stuck

/-! ## Which of the two -/

/-- A path leads nowhere, does not climb, and no link on it leads nowhere. -/
structure Absent (fs : FileSystem) (path : String) : Prop where
  filled : path ≠ ""
  falls : ∀ part ∈ parts path, climbs part = false
  absent : fs.locate? path = none
  unbroken : ∀ text, IsAtOrAbove path text → ∀ at_ target,
    fs.resolveLast text = .ok (.entry at_) → fs.tree.node? at_ = some (.link target) →
    fs.locate? text ≠ none

/-- Parts are followed to their end, or up to a part that leads to nothing. -/
theorem follow_furthest (way : List String) :
    (∃ there left, followLeft tree nameBytes true links at_ way = .ok (.entry there, left)) ∨
      ∃ init part rest there left, way = init ++ part :: rest ∧
        followLeft tree nameBytes true links at_ init = .ok (.entry there, left) ∧
        ∀ place, follow tree nameBytes true left there [part] ≠ .ok (.entry place) := by
  induction way using List.reverseRecOn with
  | nil => exact .inl ⟨at_, links, by rw [followLeft_eq]; rfl⟩
  | append_singleton way part ih =>
    rcases ih with ⟨there, left, reached⟩ | ⟨init, first, rest, there, left, rfl, stops⟩
    · by_cases further : ∃ place, follow tree nameBytes true left there [part] =
        .ok (.entry place)
      · obtain ⟨place, leads⟩ := further
        have whole : follow tree nameBytes true links at_ (way ++ [part]) = .ok (.entry place) := by
          rw [follow_append (List.cons_ne_nil _ _), reached]
          exact leads
        obtain ⟨left', followed⟩ := follow_eq_ok.1 whole
        exact .inl ⟨place, left', followed⟩
      · exact .inr ⟨way, part, [], there, left, rfl, reached, not_exists.1 further⟩
    · exact .inr ⟨init, first, rest ++ [part], there, left, by simp, stops⟩

/-- The text of the first parts of a path is the path or the text of a folder above it. -/
theorem isAtOrAbove_beginning (some_ : way ≠ []) (beginning : way <+: parts path) :
    IsAtOrAbove path (PathText.ofSegments way) := by
  obtain ⟨rest, cut⟩ := beginning
  by_cases whole : rest = []
  · left
    rw [← PathText.ofSegments_parts path, ← cut, whole, List.append_nil]
  · right
    exact ⟨PathText.ofSegments rest, by
      rw [← PathText.ofSegments_append some_ whole, cut, PathText.ofSegments_parts]⟩

theorem stem_beginning (path : String) : stem path <+: parts path := by
  obtain ⟨blank, _, cut⟩ := PathText.parts_eq_stem path
  exact ⟨blank, cut.symm⟩

theorem ofSegments_ne_empty {part : String} (moves : isIdle part = false)
    (beginning : way ++ [part] <+: parts path) : PathText.ofSegments (way ++ [part]) ≠ "" := by
  intro empty
  have cut : parts (PathText.ofSegments (way ++ [part])) = way ++ [part] :=
    PathText.parts_ofSegments (by simp) fun s present =>
      PathText.slashFree_of_mem_parts (beginning.subset present)
  have only : ∀ s ∈ way ++ [part], s = "" := by
    rw [← cut, empty]
    decide
  rw [only part (by simp)] at moves
  cases moves

/-- The first parts of a path that can be used can be used, and begin where the path begins. -/
theorem usable_beginning (filled : PathText.ofSegments way ≠ "") (beginning : way <+: parts path)
    (usable : fs.checkText path = .ok ()) :
    let text := PathText.ofSegments way
    parts text = way ∧ fs.checkText text = .ok () ∧
      start text fs.current = start path fs.current := by
  intro text
  have some_ : way ≠ [] := by
    rintro rfl
    exact filled rfl
  have cut : parts text = way := PathText.parts_ofSegments some_ fun s present =>
    PathText.slashFree_of_mem_parts (beginning.subset present)
  refine ⟨cut, ?_⟩
  rcases isAtOrAbove_beginning some_ beginning with same | ⟨rest, same⟩
  · rw [same] at usable ⊢
    exact ⟨usable, rfl⟩
  · rw [same, String.append_assoc] at usable ⊢
    exact ⟨checkText_of_append filled usable, (start_append filled _).symm⟩

/-- A link at which a path ends would be a dangling one. -/
theorem Absent.not_link (a : Absent fs path) (usable : fs.checkText path = .ok ())
    {init rest : List String} {part : String} {left : Nat} (cut : stem path = init ++ part :: rest)
    (reached : followLeft fs.tree fs.limits.nameBytes true fs.limits.links (start path fs.current)
      init = .ok (.entry there, left))
    (looks : LooksUp fs.tree fs.limits.nameBytes there part)
    (stops : ∀ place, follow fs.tree fs.limits.nameBytes true left there [part] ≠
      .ok (.entry place)) (target : String) :
    fs.tree.node? (.text part :: there) ≠ some (.link target) := by
  intro found
  have beginning : init ++ [part] <+: parts path := by
    refine List.IsPrefix.trans ⟨rest, ?_⟩ (stem_beginning path)
    rw [cut, List.append_assoc, List.singleton_append]
  obtain ⟨cutText, usableText, begins⟩ :=
    usable_beginning (ofSegments_ne_empty looks.stays beginning) beginning usable
  have filled : part ≠ "" := by
    rintro rfl
    exact absurd looks.stays (by decide)
  refine a.unbroken _ (isAtOrAbove_beginning (by simp) beginning) (.text part :: there)
    target ?_ found ?_
  · refine resolveLast_eq_ok.2 ⟨usableText, ?_⟩
    have stripped : ((init ++ [part]).reverse.dropWhile (· = "")).reverse = init ++ [part] := by
      simp [filled]
    rw [cutText, begins, stripped, follow_append (List.cons_ne_nil _ _), reached]
    show follow fs.tree fs.limits.nameBytes false left there [part] = _
    rw [follow_eq, looks.descend_link found]
    rfl
  · cases leads : fs.locate? (PathText.ofSegments (init ++ [part])) with
    | none => rfl
    | some place =>
      have followed := (resolve_eq_ok.1 (locate?_eq_some.1 leads)).2
      rw [cutText, begins, follow_append (List.cons_ne_nil _ _), reached] at followed
      exact absurd followed (stops place)

/-- A path that leads nowhere, does not climb and passes no dangling link is missing or stuck. -/
theorem Absent.missing_or_stuck (a : Absent fs path) (usable : fs.checkText path = .ok ()) :
    (∃ there name names, Missing fs path there name names) ∨ Stuck fs path := by
  have falls : ∀ part ∈ stem path, climbs part = false := fun part present =>
    a.falls part ((stem_beginning path).subset present)
  rcases @follow_furthest fs.tree fs.limits.nameBytes fs.limits.links (start path fs.current)
    (stem path) with ⟨there, left, reached⟩ |
      ⟨init, part, rest, there, left, cut, reached, stops⟩
  · -- only an empty part at the end can keep the path from leading there
    right
    refine ⟨_, [], there, left, (List.append_nil _).symm, reached, .inl ?_⟩
    rw [← Bool.not_eq_true]
    intro folder
    have denotes := directory?_of_stem (fun _ => usable) folder reached
    cases a.absent.symm.trans (locate?_eq_some.2 ((directory?_eq_some a.filled).1 denotes).1)
  · have down := falls part (by simp [cut])
    cases folder : fs.tree.isFolder there with
    | false => exact .inr ⟨init, _, there, left, cut, reached, .inl folder⟩
    | true =>
      cases moves : isIdle part with
      | true =>
        refine absurd ?_ (stops there)
        rw [follow_eq, descend_idle folder moves, descend]
      | false =>
        by_cases long : fs.limits.nameBytes < part.utf8ByteSize
        · exact .inr ⟨init, _, there, left, cut, reached,
            .inr ⟨part, rest, rfl, moves, down, long⟩⟩
        · left
          have looks : LooksUp fs.tree fs.limits.nameBytes there part :=
            ⟨folder, moves, down, Nat.not_lt.1 long⟩
          refine ⟨there, part, leading rest, ⟨init, rest, left, cut, rfl, reached⟩,
            falls, looks, ?_⟩
          -- what the part would lead to is no link, and anything else could be followed further
          by_contra found
          obtain ⟨node, there_⟩ := Option.ne_none_iff_exists'.1 found
          have solid : fs.tree.Solid (.text part :: there) :=
            ⟨node, there_, fun target same =>
              a.not_link usable cut reached looks stops target (same ▸ there_)⟩
          refine stops (.text part :: there) ?_
          rw [follow_eq, looks.descend_onto solid, descend]

end TreeFetch.FileSystem
