import TreeFetch.Proofs.FileSystem.Tree
import TreeFetch.Proofs.PathText

/-!
# Where paths lead

A path that consists of two pieces is followed along its first piece and then, from the place where
that one ends, along the second (`follow_append`). What the first piece leads to depends on nothing
that comes later, except that it uses up some of the links that may be followed.

Results:
1. `follow_names`: below a folder without links, names lead straight down.
2. `follow_kept` and `follow_filled`: a path that leads to an entry does so also in an extension,
   and a path that leads to a free name leads to what is made there, if it leads anywhere.
3. `follow_vacancy` and `follow_solid`: a free name is one in a folder, and an entry that a path
   leads to is no link.
4. `follow_last`: what leads to an entry also does if a link at the end is not followed.
-/

namespace TreeFetch.FileSystem

variable {tree : Tree} {nameBytes links : Nat} {last : Bool} {at_ : Location}
  {parts rest : List String}

/-! ## Pieces of a path -/

/-- Follows the parts of a path like `follow`, and says how many links may still be followed. -/
def followLeft (tree : Tree) (nameBytes : Nat) (last : Bool) :
    (links : Nat) → Location → List String → Except Fault (Place × Nat)
  | links, at_, parts =>
    match descend tree nameBytes last at_ parts with
    | .done place => .ok (place, links)
    | .refused fault => .error fault
    | .link folder target rest =>
      match links with
      | 0 => .error .tooManyLinks
      | left + 1 =>
        followLeft tree nameBytes last left (start target folder) (PathText.parts target ++ rest)

theorem follow_eq :
    follow tree nameBytes last links at_ parts =
      match descend tree nameBytes last at_ parts with
      | .done place => .ok place
      | .refused fault => .error fault
      | .link folder target rest =>
        match links with
        | 0 => .error .tooManyLinks
        | left + 1 =>
          follow tree nameBytes last left (start target folder) (PathText.parts target ++ rest) :=
  follow.eq_def ..

theorem followLeft_eq :
    followLeft tree nameBytes last links at_ parts =
      match descend tree nameBytes last at_ parts with
      | .done place => .ok (place, links)
      | .refused fault => .error fault
      | .link folder target rest =>
        match links with
        | 0 => .error .tooManyLinks
        | left + 1 =>
          followLeft tree nameBytes last left (start target folder)
            (PathText.parts target ++ rest) := by
  cases links <;> rw [followLeft]

theorem follow_eq_followLeft :
    follow tree nameBytes last links at_ parts =
      (followLeft tree nameBytes last links at_ parts).map (·.1) := by
  fun_induction follow tree nameBytes last links at_ parts with
  | case1 links at_ parts place reached => rw [followLeft_eq, reached]; rfl
  | case2 links at_ parts fault reached => rw [followLeft_eq, reached]; rfl
  | case3 at_ parts folder target rest reached => rw [followLeft_eq, reached]; rfl
  | case4 at_ parts folder target rest reached left ih => rw [followLeft_eq, reached]; exact ih

theorem follow_eq_ok {place : Place} :
    follow tree nameBytes last links at_ parts = .ok place ↔
      ∃ left, followLeft tree nameBytes last links at_ parts = .ok (place, left) := by
  rw [follow_eq_followLeft]
  cases followLeft tree nameBytes last links at_ parts with
  | error fault => simp [Except.map]
  | ok reached =>
    obtain ⟨there, left⟩ := reached
    simp [Except.map]

theorem descend_append (some_ : rest ≠ []) :
    descend tree nameBytes last at_ (parts ++ rest) =
      match descend tree nameBytes true at_ parts with
      | .done (.entry there) => descend tree nameBytes last there rest
      | .done (.vacancy folder name) =>
        if rest.all (· = "") then .done (.vacancy folder name) else .refused .notFound
      | .refused fault => .refused fault
      | .link folder target more => .link folder target (more ++ rest) := by
  induction parts generalizing at_ with
  | nil => simp [descend]
  | cons part parts ih =>
    have more : (parts ++ rest).isEmpty = false := by simp [some_]
    rw [List.cons_append, descend, descend]
    split
    · rfl
    · split
      · exact ih
      · split
        · exact ih
        · split
          · rfl
          · cases tree.node? (.text part :: at_) with
            | none =>
              simp only [List.all_append, Bool.and_eq_true]
              by_cases blank : (parts.all fun x => decide (x = "")) = true <;> simp [blank]
            | some node =>
              cases node with
              | file _ _ => exact ih
              | folder _ => exact ih
              | link target => simp [more]

theorem follow_append (some_ : rest ≠ []) :
    follow tree nameBytes last links at_ (parts ++ rest) =
      match followLeft tree nameBytes true links at_ parts with
      | .ok (.entry there, left) => follow tree nameBytes last left there rest
      | .ok (.vacancy folder name, _) =>
        if rest.all (· = "") then .ok (.vacancy folder name) else .error .notFound
      | .error fault => .error fault := by
  fun_induction followLeft tree nameBytes true links at_ parts with
  | case1 links at_ parts place reached =>
    rw [follow_eq, descend_append some_, reached]
    cases place with
    | entry there => exact follow_eq.symm
    | vacancy folder name =>
      by_cases blank : (rest.all fun x => decide (x = "")) = true <;> simp [blank]
  | case2 links at_ parts fault reached => rw [follow_eq, descend_append some_, reached]
  | case3 at_ parts folder target more reached => rw [follow_eq, descend_append some_, reached]
  | case4 at_ parts folder target more reached left ih =>
    rw [follow_eq, descend_append some_, reached]
    simp only [← List.append_assoc]
    exact ih

/-- The beginning of a path that leads to an entry leads to an entry. -/
theorem followLeft_of_append {place : Location}
    (h : follow tree nameBytes true links at_ (parts ++ rest) = .ok (.entry place)) :
    ∃ there left, followLeft tree nameBytes true links at_ parts = .ok (.entry there, left) ∧
      follow tree nameBytes true left there rest = .ok (.entry place) := by
  by_cases nothing : rest = []
  · subst nothing
    rw [List.append_nil] at h
    obtain ⟨left, reached⟩ := follow_eq_ok.1 h
    exact ⟨place, left, reached, by rw [follow_eq]; rfl⟩
  · rw [follow_append nothing] at h
    split at h
    · next there left reached => exact ⟨there, left, reached, h⟩
    · split at h <;> cases h
    · cases h

theorem isFolder_of_follow {place : Place} (some_ : parts ≠ [])
    (h : follow tree nameBytes last links at_ parts = .ok place) : tree.isFolder at_ = true := by
  cases parts with
  | nil => exact absurd rfl some_
  | cons part rest =>
    by_contra other
    have shut : (!tree.isFolder at_) = true := by simpa using other
    rw [follow_eq, descend, if_pos shut] at h
    simp at h

/-! ## One part at a time -/

/-- A part is looked up as a name in a folder. -/
structure LooksUp (tree : Tree) (nameBytes : Nat) (at_ : Location) (part : String) : Prop where
  folder : tree.isFolder at_ = true
  stays : PathText.isIdle part = false
  falls : PathText.climbs part = false
  fits : part.utf8ByteSize ≤ nameBytes

section

variable {part : String}

theorem descend_idle (folder : tree.isFolder at_ = true) (idle : PathText.isIdle part = true) :
    descend tree nameBytes last at_ (part :: rest) = descend tree nameBytes last at_ rest := by
  rw [descend]
  simp [folder, idle]

theorem descend_climb (folder : tree.isFolder at_ = true) (moves : PathText.isIdle part = false)
    (climbs : PathText.climbs part = true) :
    descend tree nameBytes last at_ (part :: rest) = descend tree nameBytes last at_.tail rest := by
  rw [descend]
  simp [folder, moves, climbs]

namespace LooksUp

/-- The tests of `descend` that come before a name is looked up. -/
theorem of_not (open_ : ¬(!tree.isFolder at_) = true) (moves : ¬PathText.isIdle part = true)
    (falls : ¬PathText.climbs part = true) (fits : ¬part.utf8ByteSize > nameBytes) :
    LooksUp tree nameBytes at_ part :=
  ⟨by simpa using open_, by simpa using moves, by simpa using falls, by simpa using fits⟩

theorem descend_link (h : LooksUp tree nameBytes at_ part) {target : String}
    (found : tree.node? (.text part :: at_) = some (.link target)) :
    descend tree nameBytes last at_ (part :: rest) =
      if rest.isEmpty && !last then .done (.entry (.text part :: at_))
      else .link at_ target rest := by
  rw [descend]
  simp [h.folder, h.stays, h.falls, Nat.not_lt.2 h.fits, found]

theorem descend_onto (h : LooksUp tree nameBytes at_ part)
    (found : tree.Solid (.text part :: at_)) :
    descend tree nameBytes last at_ (part :: rest) =
      descend tree nameBytes last (.text part :: at_) rest := by
  obtain ⟨node, there, solid⟩ := found
  rw [descend]
  cases node with
  | link target => exact absurd rfl (solid target)
  | file _ _ => simp [h.folder, h.stays, h.falls, Nat.not_lt.2 h.fits, there]
  | folder _ => simp [h.folder, h.stays, h.falls, Nat.not_lt.2 h.fits, there]

end LooksUp

end

theorem descend_blank (folder : tree.isFolder at_ = true) (blank : ∀ part ∈ parts, part = "") :
    descend tree nameBytes last at_ parts = .done (.entry at_) := by
  induction parts with
  | nil => rfl
  | cons part parts ih =>
    obtain rfl := blank part (List.mem_cons_self ..)
    rw [descend_idle folder (by decide)]
    exact ih fun part present => blank part (List.mem_cons_of_mem _ present)

/-- Empty parts after the ones that lead to a folder lead nowhere else. -/
theorem follow_append_blank {place : Location} (folder : tree.isFolder place = true)
    (blank : ∀ part ∈ rest, part = "")
    (h : follow tree nameBytes true links at_ parts = .ok (.entry place)) :
    follow tree nameBytes true links at_ (parts ++ rest) = .ok (.entry place) := by
  by_cases nothing : rest = []
  · rwa [nothing, List.append_nil]
  · obtain ⟨left, reached⟩ := follow_eq_ok.1 h
    rw [follow_append nothing, reached]
    show follow tree nameBytes true left place rest = .ok (.entry place)
    rw [follow_eq, descend_blank folder blank]

/-! ## Straight down -/

namespace Location

/-- The location that names lead to from a folder. -/
def down (at_ : Location) (names : List String) : Location :=
  names.foldl (fun up name => .text name :: up) at_

@[simp] theorem down_nil (at_ : Location) : at_.down [] = at_ := rfl

@[simp] theorem down_cons (at_ : Location) (name : String) (names : List String) :
    at_.down (name :: names) = down (.text name :: at_) names := rfl

theorem down_concat (at_ : Location) (names : List String) (name : String) :
    at_.down (names ++ [name]) = .text name :: at_.down names := by
  simp [down]

theorem down_append (at_ : Location) (names more : List String) :
    at_.down (names ++ more) = (at_.down names).down more := by
  simp [down]

theorem down_eq (at_ : Location) (names : List String) :
    at_.down names = (names.map Name.text).reverse ++ at_ := by
  induction names generalizing at_ with
  | nil => rfl
  | cons name names ih => rw [down_cons, ih]; simp

theorem suffix_down (at_ : Location) (names : List String) : at_ <:+ at_.down names := by
  rw [down_eq]
  exact List.suffix_append _ _

theorem down_inj {names names' : List String} :
    at_.down names = at_.down names' ↔ names = names' := by
  rw [down_eq, down_eq, List.append_left_inj, List.reverse_inj]
  exact List.map_inj_right fun _ _ => Name.text.inj

end Location

/-- Nothing at a location or below it is a link. -/
def Unlinked (tree : Tree) (at_ : Location) : Prop :=
  ∀ place target, at_ <:+ place → tree.shape? place ≠ some (.link target)

theorem Unlinked.inside {place : Location} (h : Unlinked tree at_) (below : at_ <:+ place) :
    Unlinked tree place :=
  fun deeper target under => h deeper target (below.trans under)

variable (nameBytes last) in
/-- Names lead straight down to an entry or to a free name, or the path is refused. -/
theorem descend_names {names : List String} (named : ∀ s ∈ names, PathText.IsName s)
    (unlinked : Unlinked tree at_) :
    descend tree nameBytes last at_ names = .done (.entry (at_.down names)) ∨
      (∃ init name, names = init ++ [name] ∧
        descend tree nameBytes last at_ names = .done (.vacancy (at_.down init) (.text name))) ∨
      ∃ fault, descend tree nameBytes last at_ names = .refused fault := by
  fun_induction descend tree nameBytes last at_ names with
  | case1 at_ => exact .inl rfl
  | case2 at_ name names shut => exact .inr (.inr ⟨_, rfl⟩)
  | case3 at_ name names open_ idle ih =>
    exact absurd idle (by simp [(named name (List.mem_cons_self ..)).stays])
  | case4 at_ name names open_ moves climbs ih =>
    exact absurd climbs (by simp [(named name (List.mem_cons_self ..)).falls])
  | case5 at_ name names open_ moves falls long => exact .inr (.inr ⟨_, rfl⟩)
  | case6 at_ name names open_ moves falls fits free blank =>
    cases names with
    | nil => exact .inr (.inl ⟨[], name, rfl, rfl⟩)
    | cons next more =>
      have filled := (named next (by simp)).ne_empty
      simp [filled] at blank
  | case7 at_ name names open_ moves falls fits free filled => exact .inr (.inr ⟨_, rfl⟩)
  | case8 at_ name names open_ moves falls fits target found ends =>
    exact absurd (Tree.shape?_eq_link.2 found) (unlinked _ target (List.suffix_cons _ _))
  | case9 at_ name names open_ moves falls fits target found on_ =>
    exact absurd (Tree.shape?_eq_link.2 found) (unlinked _ target (List.suffix_cons _ _))
  | case10 at_ name names open_ moves falls fits node solid found ih =>
    have later : ∀ s ∈ names, PathText.IsName s :=
      fun s hs => named s (List.mem_cons_of_mem _ hs)
    rcases ih later (unlinked.inside (List.suffix_cons _ _)) with
      done | ⟨init, end_, rfl, free⟩ | refused
    · exact .inl done
    · exact .inr (.inl ⟨name :: init, end_, rfl, free⟩)
    · exact .inr (.inr refused)

theorem follow_names {names : List String} {place : Place}
    (named : ∀ s ∈ names, PathText.IsName s) (unlinked : Unlinked tree at_)
    (h : follow tree nameBytes last links at_ names = .ok place) :
    place = .entry (at_.down names) ∨
      ∃ init name, names = init ++ [name] ∧ place = .vacancy (at_.down init) (.text name) := by
  rw [follow_eq] at h
  rcases descend_names nameBytes last named unlinked with
    done | ⟨init, name, split, free⟩ | ⟨fault, refused⟩
  · rw [done] at h
    exact .inl (Except.ok.inj h).symm
  · rw [free] at h
    exact .inr ⟨init, name, split, (Except.ok.inj h).symm⟩
  · simp [refused] at h

/-! ## Where a path ends -/

/-- A descent ends at an entry or at a link. -/
inductive Descent.Firm : Descent → Prop
  | entry {place : Location} : Firm (.done (.entry place))
  | link {folder : Location} {target : String} {more : List String} :
      Firm (.link folder target more)

def SlashFree (parts : List String) : Prop := ∀ part ∈ parts, '/' ∉ part.toList

theorem descend_vacancy {folder : Location} {name : Name} (free_ : SlashFree parts)
    (h : descend tree nameBytes last at_ parts = .done (.vacancy folder name)) :
    tree.Vacant folder name := by
  fun_induction descend tree nameBytes last at_ parts with
  | case1 at_ => cases h
  | case2 at_ part rest shut => cases h
  | case3 at_ part rest open_ idle ih => exact ih (List.forall_mem_of_forall_mem_cons free_) h
  | case4 at_ part rest open_ moves climbs ih =>
    exact ih (List.forall_mem_of_forall_mem_cons free_) h
  | case5 at_ part rest open_ moves falls long => cases h
  | case6 at_ part rest open_ moves falls fits free blank =>
    simp only [Descent.done.injEq, Place.vacancy.injEq] at h
    obtain ⟨rfl, rfl⟩ := h
    refine ⟨by simpa using open_, free, ?_⟩
    simpa [Name.isValid, moves, falls] using free_ part (List.mem_cons_self ..)
  | case7 at_ part rest open_ moves falls fits free filled => cases h
  | case8 at_ part rest open_ moves falls fits target found ends => cases h
  | case9 at_ part rest open_ moves falls fits target found on_ => cases h
  | case10 at_ part rest open_ moves falls fits node solid found ih =>
    exact ih (List.forall_mem_of_forall_mem_cons free_) h

/-- The parts after a link are among the parts that lead to it. -/
theorem descend_link_subset {folder : Location} {target : String} {more : List String}
    (h : descend tree nameBytes last at_ parts = .link folder target more) : more ⊆ parts := by
  fun_induction descend tree nameBytes last at_ parts with
  | case1 at_ => cases h
  | case2 at_ part rest shut => cases h
  | case3 at_ part rest open_ idle ih => exact List.subset_cons_of_subset part (ih h)
  | case4 at_ part rest open_ moves climbs ih => exact List.subset_cons_of_subset part (ih h)
  | case5 at_ part rest open_ moves falls long => cases h
  | case6 at_ part rest open_ moves falls fits free blank => cases h
  | case7 at_ part rest open_ moves falls fits free filled => cases h
  | case8 at_ part rest open_ moves falls fits target found ends => cases h
  | case9 at_ part rest open_ moves falls fits target found on_ =>
    obtain ⟨_, _, rfl⟩ := Descent.link.inj h
    exact List.subset_cons_self part rest
  | case10 at_ part rest open_ moves falls fits node solid found ih =>
    exact List.subset_cons_of_subset part (ih h)

theorem follow_vacancy {folder : Location} {name : Name} (free_ : SlashFree parts)
    (h : follow tree nameBytes last links at_ parts = .ok (.vacancy folder name)) :
    tree.Vacant folder name := by
  fun_induction follow tree nameBytes last links at_ parts with
  | case1 links at_ parts place reached =>
    obtain rfl := Except.ok.inj h
    exact descend_vacancy free_ reached
  | case2 => cases h
  | case3 => cases h
  | case4 at_ parts folder target rest reached left ih =>
    refine ih (fun part present => ?_) h
    rcases List.mem_append.1 present with inside | later
    · exact PathText.slashFree_of_mem_parts inside
    · exact free_ part (descend_link_subset reached later)

theorem descend_solid {place : Location}
    (h : descend tree nameBytes true at_ parts = .done (.entry place))
    (begins : parts ≠ [] ∨ tree.Solid at_) : tree.Solid place := by
  fun_induction descend tree nameBytes true at_ parts with
  | case1 at_ =>
    obtain rfl : at_ = place := by simpa using h
    exact begins.resolve_left (not_not.2 rfl)
  | case2 at_ part rest shut => cases h
  | case3 at_ part rest open_ idle ih =>
    exact ih h (.inr (Tree.solid_of_isFolder (by simpa using open_)))
  | case4 at_ part rest open_ moves climbs ih =>
    exact ih h (.inr (Tree.solid_of_isFolder (Tree.isFolder_tail (by simpa using open_))))
  | case5 at_ part rest open_ moves falls long => cases h
  | case6 at_ part rest open_ moves falls fits free blank => cases h
  | case7 at_ part rest open_ moves falls fits free filled => cases h
  | case8 at_ part rest open_ moves falls fits target found ends => simp at ends
  | case9 at_ part rest open_ moves falls fits target found on_ => cases h
  | case10 at_ part rest open_ moves falls fits node solid found ih =>
    exact ih h (.inr ⟨node, found, solid⟩)

theorem follow_solid {place : Location} (some_ : parts ≠ [])
    (h : follow tree nameBytes true links at_ parts = .ok (.entry place)) : tree.Solid place := by
  fun_induction follow tree nameBytes true links at_ parts with
  | case1 links at_ parts there reached =>
    obtain rfl := Except.ok.inj h
    exact descend_solid reached (.inl some_)
  | case2 => cases h
  | case3 => cases h
  | case4 at_ parts folder target rest reached left ih =>
    exact ih (by simp [PathText.parts_ne_nil]) h

/-- A link that stops a descent is followed also where a link at the very end is. -/
theorem descend_link_last {folder : Location} {target : String} {more : List String}
    (h : descend tree nameBytes last at_ parts = .link folder target more) :
    descend tree nameBytes true at_ parts = .link folder target more := by
  fun_induction descend tree nameBytes last at_ parts with
  | case1 at_ => cases h
  | case2 at_ part rest shut => cases h
  | case3 at_ part rest open_ idle ih =>
    rw [descend_idle (by simpa using open_) idle]
    exact ih h
  | case4 at_ part rest open_ moves climbs ih =>
    rw [descend_climb (by simpa using open_) (by simpa using moves) climbs]
    exact ih h
  | case5 at_ part rest open_ moves falls long => cases h
  | case6 at_ part rest open_ moves falls fits free blank => cases h
  | case7 at_ part rest open_ moves falls fits free filled => cases h
  | case8 at_ part rest open_ moves falls fits target found ends => cases h
  | case9 at_ part rest open_ moves falls fits target found on_ =>
    rw [(LooksUp.of_not open_ moves falls fits).descend_link found, if_neg (by simp)]
    exact h
  | case10 at_ part rest open_ moves falls fits node solid found ih =>
    rw [(LooksUp.of_not open_ moves falls fits).descend_onto ⟨node, found, solid⟩]
    exact ih h

/-- Where parts lead to an entry or to a link, they also lead to one if a link at the very end is
not followed. -/
theorem descend_last {d : Descent} (h : descend tree nameBytes true at_ parts = d) (firm : d.Firm) :
    descend tree nameBytes false at_ parts = d ∨
      ∃ place, descend tree nameBytes false at_ parts = .done (.entry place) := by
  fun_induction descend tree nameBytes true at_ parts with
  | case1 at_ => exact .inl h
  | case2 at_ part rest shut => subst h; cases firm
  | case3 at_ part rest open_ idle ih =>
    rw [descend_idle (by simpa using open_) idle]
    exact ih h
  | case4 at_ part rest open_ moves climbs ih =>
    rw [descend_climb (by simpa using open_) (by simpa using moves) climbs]
    exact ih h
  | case5 at_ part rest open_ moves falls long => subst h; cases firm
  | case6 at_ part rest open_ moves falls fits free blank => subst h; cases firm
  | case7 at_ part rest open_ moves falls fits free filled => subst h; cases firm
  | case8 at_ part rest open_ moves falls fits target found ends => simp at ends
  | case9 at_ part rest open_ moves falls fits target found on_ =>
    rw [(LooksUp.of_not open_ moves falls fits).descend_link found]
    split
    · exact .inr ⟨_, rfl⟩
    · exact .inl h
  | case10 at_ part rest open_ moves falls fits node solid found ih =>
    rw [(LooksUp.of_not open_ moves falls fits).descend_onto ⟨node, found, solid⟩]
    exact ih h

/-- A path that leads to an entry also leads to one if a link at its end is not followed. -/
theorem follow_last {place : Location}
    (h : follow tree nameBytes true links at_ parts = .ok (.entry place)) :
    ∃ named, follow tree nameBytes false links at_ parts = .ok (.entry named) := by
  fun_induction follow tree nameBytes true links at_ parts with
  | case1 links at_ parts there reached =>
    obtain rfl := Except.ok.inj h
    rw [follow_eq]
    rcases descend_last reached .entry with same | ⟨named, ends⟩
    · exact ⟨_, by rw [same]⟩
    · exact ⟨named, by rw [ends]⟩
  | case2 => cases h
  | case3 => cases h
  | case4 at_ parts folder target rest reached left ih =>
    rw [follow_eq]
    rcases descend_last reached .link with same | ⟨named, ends⟩
    · rw [same]
      exact ih h
    · exact ⟨named, by rw [ends]⟩

/-! ## Extensions -/

section

variable {before after : Tree}
  (kept : ∀ place s, before.shape? place = some s → after.shape? place = some s)

include kept

theorem isFolder_kept (h : before.isFolder at_ = true) : after.isFolder at_ = true :=
  Tree.isFolder_iff.2 (kept _ _ (Tree.isFolder_iff.1 h))

theorem solid_kept (h : before.Solid at_) : after.Solid at_ := by
  obtain ⟨node, there, solid⟩ := h
  obtain ⟨other, still, same⟩ :=
    Option.map_eq_some_iff.1 (kept _ _ (Tree.shape?_of_node? there))
  refine ⟨other, still, ?_⟩
  rintro target rfl
  exact solid target (Node.shape_eq_link.1 same.symm)

theorem looksUp_kept {part : String} (h : LooksUp before nameBytes at_ part) :
    LooksUp after nameBytes at_ part :=
  ⟨isFolder_kept kept h.folder, h.stays, h.falls, h.fits⟩

/-- An entry or a link that parts lead to is led to also in an extension. -/
theorem descend_kept {d : Descent} (h : descend before nameBytes last at_ parts = d)
    (firm : d.Firm) : descend after nameBytes last at_ parts = d := by
  fun_induction descend before nameBytes last at_ parts with
  | case1 at_ => exact h
  | case2 at_ part rest shut => subst h; cases firm
  | case3 at_ part rest open_ idle ih =>
    rw [descend_idle (isFolder_kept kept (by simpa using open_)) idle]
    exact ih h
  | case4 at_ part rest open_ moves climbs ih =>
    rw [descend_climb (isFolder_kept kept (by simpa using open_)) (by simpa using moves) climbs]
    exact ih h
  | case5 at_ part rest open_ moves falls long => subst h; cases firm
  | case6 at_ part rest open_ moves falls fits free blank => subst h; cases firm
  | case7 at_ part rest open_ moves falls fits free filled => subst h; cases firm
  | case8 at_ part rest open_ moves falls fits target found ends =>
    have looks := LooksUp.of_not open_ moves falls fits
    have still := Tree.shape?_eq_link.1 (kept _ _ (Tree.shape?_eq_link.2 found))
    rw [(looksUp_kept kept looks).descend_link still, if_pos ends]
    exact h
  | case9 at_ part rest open_ moves falls fits target found on_ =>
    have looks := LooksUp.of_not open_ moves falls fits
    have still := Tree.shape?_eq_link.1 (kept _ _ (Tree.shape?_eq_link.2 found))
    rw [(looksUp_kept kept looks).descend_link still, if_neg on_]
    exact h
  | case10 at_ part rest open_ moves falls fits node solid found ih =>
    have looks := LooksUp.of_not open_ moves falls fits
    rw [(looksUp_kept kept looks).descend_onto (solid_kept kept ⟨node, found, solid⟩)]
    exact ih h

theorem followLeft_kept {place : Location} {left : Nat}
    (h : followLeft before nameBytes last links at_ parts = .ok (.entry place, left)) :
    followLeft after nameBytes last links at_ parts = .ok (.entry place, left) := by
  fun_induction followLeft before nameBytes last links at_ parts with
  | case1 links at_ parts there reached =>
    obtain ⟨rfl, rfl⟩ := Prod.mk.inj (Except.ok.inj h)
    rw [followLeft_eq, descend_kept kept reached .entry]
  | case2 => cases h
  | case3 => cases h
  | case4 at_ parts folder target rest reached left ih =>
    rw [followLeft_eq, descend_kept kept reached .link]
    exact ih h

/-- A path that leads to an entry leads to it also in an extension. -/
theorem follow_kept {place : Location}
    (h : follow before nameBytes last links at_ parts = .ok (.entry place)) :
    follow after nameBytes last links at_ parts = .ok (.entry place) := by
  obtain ⟨left, reached⟩ := follow_eq_ok.1 h
  exact follow_eq_ok.2 ⟨left, followLeft_kept kept reached⟩

/-- Parts that lead to a free name lead to what is made there, unless they are refused because a
folder is expected. -/
theorem descend_filled {folder : Location} {name : Name}
    (h : descend before nameBytes last at_ parts = .done (.vacancy folder name))
    (made : after.Solid (name :: folder)) :
    descend after nameBytes true at_ parts = .done (.entry (name :: folder)) ∨
      after.isFolder (name :: folder) = false ∧
        ∃ fault, descend after nameBytes true at_ parts = .refused fault := by
  fun_induction descend before nameBytes last at_ parts with
  | case1 at_ => cases h
  | case2 at_ part rest shut => cases h
  | case3 at_ part rest open_ idle ih =>
    rw [descend_idle (isFolder_kept kept (by simpa using open_)) idle]
    exact ih h
  | case4 at_ part rest open_ moves climbs ih =>
    rw [descend_climb (isFolder_kept kept (by simpa using open_)) (by simpa using moves) climbs]
    exact ih h
  | case5 at_ part rest open_ moves falls long => cases h
  | case6 at_ part rest open_ moves falls fits free blank =>
    have looks := LooksUp.of_not open_ moves falls fits
    simp only [Descent.done.injEq, Place.vacancy.injEq] at h
    obtain ⟨rfl, rfl⟩ := h
    rw [(looksUp_kept kept looks).descend_onto made]
    -- empty parts may follow the free name, and only a folder can be followed by them
    by_cases kind : after.isFolder (.text part :: at_) = true
    · exact .inl (descend_blank kind (by simpa using blank))
    · cases rest with
      | nil => exact .inl rfl
      | cons next more =>
        refine .inr ⟨by simpa using kind, .notFolder, ?_⟩
        rw [descend, if_pos (by simpa using kind)]
  | case7 at_ part rest open_ moves falls fits free filled => cases h
  | case8 at_ part rest open_ moves falls fits target found ends => cases h
  | case9 at_ part rest open_ moves falls fits target found on_ => cases h
  | case10 at_ part rest open_ moves falls fits node solid found ih =>
    have looks := LooksUp.of_not open_ moves falls fits
    rw [(looksUp_kept kept looks).descend_onto (solid_kept kept ⟨node, found, solid⟩)]
    exact ih h

/-- A path that leads to a free name leads to what is made there, unless it is refused because a
folder is expected. -/
theorem follow_filled {folder : Location} {name : Name}
    (h : follow before nameBytes last links at_ parts = .ok (.vacancy folder name))
    (made : after.Solid (name :: folder)) :
    follow after nameBytes true links at_ parts = .ok (.entry (name :: folder)) ∨
      after.isFolder (name :: folder) = false ∧
        ∃ fault, follow after nameBytes true links at_ parts = .error fault := by
  fun_induction follow before nameBytes last links at_ parts with
  | case1 links at_ parts place reached =>
    obtain rfl := Except.ok.inj h
    rw [follow_eq]
    rcases descend_filled kept reached made with leads | ⟨other, fault, refused⟩
    · exact .inl (by rw [leads])
    · exact .inr ⟨other, fault, by rw [refused]⟩
  | case2 => cases h
  | case3 => cases h
  | case4 at_ parts folder target rest reached left ih =>
    rw [follow_eq, descend_kept kept (descend_link_last reached) .link]
    exact ih h

end

end TreeFetch.FileSystem
