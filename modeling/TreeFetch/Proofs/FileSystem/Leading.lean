import TreeFetch.Proofs.FileSystem.Change
import TreeFetch.Proofs.FileSystem.Straight

/-!
# Parts that lead straight down

Parts of a path that do not climb lead straight down, as long as nothing on the way is a link: each
of them is a name on the way, or stays where it is.

Results:
1. `descend_straight` and `follow_straight`: where such parts lead, if they lead anywhere.
2. `descend_folders` and `descend_down`: they do lead to what exists, if none of them is too long
   for a name.
-/

namespace TreeFetch.FileSystem

open PathText (IsName parts isIdle climbs)

variable {tree : Tree} {nameBytes links : Nat} {last : Bool} {at_ there : Location}
  {way names more : List String} {name : String} {place : Place}

/-! ## Where they lead -/

def leading (way : List String) : List String := way.filter fun part => !isIdle part

@[simp] theorem leading_nil : leading [] = [] := rfl

theorem leading_append (way more : List String) :
    leading (way ++ more) = leading way ++ leading more :=
  List.filter_append ..

theorem leading_cons_of_idle {part : String} (idle : isIdle part = true) :
    leading (part :: way) = leading way := by
  simp [leading, idle]

theorem leading_cons_of_moves {part : String} (way : List String) (moves : isIdle part = false) :
    leading (part :: way) = part :: leading way := by
  simp [leading, moves]

theorem leading_of_isName (named : ∀ s ∈ names, IsName s) : leading names = names :=
  List.filter_eq_self.2 fun s present => by simp [(named s present).stays]

theorem leading_of_blank (blank : ∀ part ∈ way, part = "") : leading way = [] := by
  refine List.filter_eq_nil_iff.2 fun part present => ?_
  rw [blank part present]
  decide

/-- Nothing that names lead to from a location is a link. -/
def Clear (tree : Tree) (at_ : Location) (names : List String) : Prop :=
  ∀ init, init <+: names → init ≠ [] →
    ∀ target, tree.shape? (at_.down init) ≠ some (.link target)

theorem Clear.tail (clear : Clear tree at_ (name :: names)) :
    Clear tree (.text name :: at_) names := by
  intro init beginning _ target
  exact clear (name :: init) ((List.cons_prefix_cons).2 ⟨rfl, beginning⟩)
    (List.cons_ne_nil _ _) target

/-- What a part of a path names is no link, if nothing on the way is one. -/
theorem Clear.head (clear : Clear tree at_ (name :: names)) (target : String) :
    tree.node? (.text name :: at_) ≠ some (.link target) := by
  intro found
  refine clear [name] ?_ (List.cons_ne_nil _ _) target (Tree.shape?_eq_link.2 found)
  exact (List.cons_prefix_cons).2 ⟨rfl, List.nil_prefix⟩

/-- Parts that do not climb lead straight down, if nothing on the way is a link. -/
theorem descend_straight (falls : ∀ part ∈ way, climbs part = false)
    (clear : Clear tree at_ (leading way)) :
    (∃ fault, descend tree nameBytes last at_ way = .refused fault) ∨
      ∃ place, descend tree nameBytes last at_ way = .done place ∧
        place.location = at_.down (leading way) ∧
        ∀ part ∈ leading way, part.utf8ByteSize ≤ nameBytes := by
  fun_induction descend tree nameBytes last at_ way with
  | case1 at_ => exact .inr ⟨_, rfl, rfl, List.forall_mem_nil _⟩
  | case2 at_ part rest shut => exact .inl ⟨_, rfl⟩
  | case3 at_ part rest open_ idle ih =>
    rw [leading_cons_of_idle idle] at clear ⊢
    exact ih (List.forall_mem_of_forall_mem_cons falls) clear
  | case4 at_ part rest open_ moves up ih =>
    exact absurd up (by simp [falls part (List.mem_cons_self ..)])
  | case5 at_ part rest open_ moves down long => exact .inl ⟨_, rfl⟩
  | case6 at_ part rest open_ moves down fits free blank =>
    have nothing : leading rest = [] := leading_of_blank (by simpa using blank)
    rw [leading_cons_of_moves _ (by simpa using moves), nothing]
    exact .inr ⟨_, rfl, rfl, by simpa using fits⟩
  | case7 at_ part rest open_ moves down fits free filled => exact .inl ⟨_, rfl⟩
  | case8 at_ part rest open_ moves down fits target found ends =>
    rw [leading_cons_of_moves _ (by simpa using moves)] at clear
    exact absurd found (clear.head target)
  | case9 at_ part rest open_ moves down fits target found on_ =>
    rw [leading_cons_of_moves _ (by simpa using moves)] at clear
    exact absurd found (clear.head target)
  | case10 at_ part rest open_ moves down fits node solid found ih =>
    rw [leading_cons_of_moves _ (by simpa using moves)] at clear ⊢
    rcases ih (List.forall_mem_of_forall_mem_cons falls) clear.tail with
      refused | ⟨place, done, located, short⟩
    · exact .inl refused
    · refine .inr ⟨place, done, located, ?_⟩
      exact List.forall_mem_cons.2 ⟨by simpa using fits, short⟩

theorem follow_straight (falls : ∀ part ∈ way, climbs part = false)
    (clear : Clear tree at_ (leading way))
    (h : follow tree nameBytes last links at_ way = .ok place) :
    place.location = at_.down (leading way) ∧
      ∀ part ∈ leading way, part.utf8ByteSize ≤ nameBytes := by
  rw [follow_eq] at h
  rcases @descend_straight tree nameBytes last at_ way falls clear with
    ⟨fault, refused⟩ | ⟨place', done, straight⟩
  · simp [refused] at h
  · rw [done] at h
    obtain rfl := Except.ok.inj h
    exact straight

/-! ## That they lead there -/

theorem isFolder_of_down (h : tree.isFolder (at_.down names) = true) :
    tree.isFolder at_ = true := by
  cases names with
  | nil => exact h
  | cons name names =>
    exact Tree.isFolder_of_solid_cons (Tree.solid_of_down_cons (Tree.solid_of_isFolder h))

/-- Parts that name folders lead straight down to the last of them. -/
theorem descend_folders (falls : ∀ part ∈ way, climbs part = false)
    (fits : ∀ part ∈ leading way, part.utf8ByteSize ≤ nameBytes)
    (folder : tree.isFolder (at_.down (leading way)) = true) :
    descend tree nameBytes last at_ way = .done (.entry (at_.down (leading way))) := by
  induction way generalizing at_ with
  | nil => rfl
  | cons part way ih =>
    have here := isFolder_of_down folder
    have later := List.forall_mem_of_forall_mem_cons falls
    cases moves : isIdle part with
    | true =>
      rw [leading_cons_of_idle moves] at fits folder ⊢
      rw [descend_idle here moves]
      exact ih later fits folder
    | false =>
      rw [leading_cons_of_moves _ moves] at fits folder ⊢
      have looks : LooksUp tree nameBytes at_ part :=
        ⟨here, moves, falls part (List.mem_cons_self ..), fits part (List.mem_cons_self ..)⟩
      have solid := Tree.solid_of_isFolder (isFolder_of_down (by simpa using folder))
      rw [looks.descend_onto solid]
      exact ih later (List.forall_mem_of_forall_mem_cons fits) folder

/-- Names lead straight down to what exists, if none of them is too long. -/
theorem descend_down (named : ∀ s ∈ names, IsName s)
    (fits : ∀ s ∈ names, s.utf8ByteSize ≤ nameBytes) (there : tree.Solid (at_.down names)) :
    descend tree nameBytes last at_ names = .done (.entry (at_.down names)) := by
  induction names generalizing at_ with
  | nil => rfl
  | cons name names ih =>
    have here := named name (List.mem_cons_self ..)
    have solid := Tree.solid_of_down_cons there
    have looks : LooksUp tree nameBytes at_ name :=
      ⟨Tree.isFolder_of_solid_cons solid, here.stays, here.falls,
        fits name (List.mem_cons_self ..)⟩
    rw [looks.descend_onto solid]
    exact ih (List.forall_mem_of_forall_mem_cons named)
      (List.forall_mem_of_forall_mem_cons fits) there

theorem follow_beginning {begun : Place} {left : Nat} (beginning : way <+: more)
    (h : followLeft tree nameBytes true links at_ more = .ok (.entry there, left))
    (begins : follow tree nameBytes last links at_ way = .ok begun) :
    ∃ at_, begun = .entry at_ := by
  obtain ⟨rest, rfl⟩ := beginning
  obtain ⟨named, first, reached, _⟩ := followLeft_of_append (follow_eq_ok.2 ⟨left, h⟩)
  have leads := follow_eq_ok.2 ⟨first, reached⟩
  cases last with
  | true => exact ⟨named, Except.ok.inj (begins.symm.trans leads)⟩
  | false =>
    obtain ⟨other, ends⟩ := follow_last leads
    exact ⟨other, Except.ok.inj (begins.symm.trans ends)⟩

end TreeFetch.FileSystem
