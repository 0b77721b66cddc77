import TreeFetch.Proofs.FileSystem.Missing

/-!
# Entries that stay as they are

What lies outside the places of a change stays as it is, with its time and in its order. Writes
below a directory that exists take place below it; writes below a path that leads to a free name
take place at that name and below it, and renew the time of the folder that holds it.

Results:
1. `Tree.node?_of_except` and `Tree.children_of_except`: what equal entries elsewhere say.
2. `except_of_steps`: writes below a directory that exists.
3. `Missing.except_of_steps`: writes below a path that leads to a free name.
-/

namespace TreeFetch.FileSystem

open PathText (IsName IsAbove parts pushAll)

variable {fs before after : FileSystem} {spot : Location → Bool} {at_ folder : Location}
  {name : Name} {node : Node}

namespace Tree

variable {t t' : Tree}

/-- The entries of a tree but for those at some spots. -/
def except (t : Tree) (spot : Location → Bool) : List (Location × Node) :=
  t.entries.filter fun e => !spot e.1

theorem except_update (t : Tree) {change : Node → Node}
    (keeps : ∀ n, (change n).isFolder = n.isFolder)
    (here : spot at_ = true) : (t.update at_ change keeps).except spot = t.except spot := by
  have same : ∀ e : Location × Node,
      (if e.1 = at_ then (e.1, change e.2) else e).1 = e.1 := by
    intro e
    split <;> rfl
  unfold except update
  simp only [List.filter_map, Function.comp_def, same]
  refine (List.map_congr_left fun e present => ?_).trans (List.map_id _)
  have elsewhere : spot e.1 = false := by simpa using (List.mem_filter.1 present).2
  rw [if_neg, id]
  rintro rfl
  rw [here] at elsewhere
  cases elsewhere

theorem except_add (t : Tree) (node : Node) (here : spot at_ = true) :
    (t.add at_ node).except spot = t.except spot := by
  unfold add
  split
  · rfl
  · split
    · simp [except, here]
    · rfl

theorem mem_except {e : Location × Node} :
    e ∈ t.except spot ↔ e ∈ t.entries ∧ spot e.1 = false := by
  simp [except]

theorem node?_of_except (same : t'.except spot = t.except spot) (elsewhere : spot at_ = false) :
    t'.node? at_ = t.node? at_ := by
  match at_ with
  | [] => rfl
  | name :: folder =>
    have mem : ∀ (t : Tree) n, t.node? (name :: folder) = some n ↔
        (name :: folder, n) ∈ t.except spot := by
      intro t n
      rw [mem_except]
      exact ⟨fun there => ⟨mem_entries_of_node? there (List.cons_ne_nil _ _), elsewhere⟩,
        fun present => node?_of_mem present.1⟩
    refine Option.ext fun n => ?_
    rw [mem, mem, same]

/-- What a folder holds elsewhere is the same, and in the same order, if the entries elsewhere
are. -/
theorem children_of_except (same : t'.except spot = t.except spot) (folder : Location) :
    (t'.children folder).filter (fun c => !spot (c.1 :: folder)) =
      (t.children folder).filter fun c => !spot (c.1 :: folder) := by
  have only : ∀ t : Tree, (t.children folder).filter (fun c => !spot (c.1 :: folder)) =
      (t.except spot).filterMap fun e =>
        e.1.head?.bind fun name => if e.1.tail = folder then some (name, e.2) else none := by
    intro t
    rw [except, children, List.filter_filterMap, List.filterMap_filter]
    refine List.filterMap_congr fun e _ => ?_
    obtain ⟨place, node⟩ := e
    cases place with
    | nil => simp
    | cons name up =>
      by_cases here : up = folder
      · subst here
        cases hidden : spot (name :: up) <;> simp [hidden]
      · simp [here]
  rw [only, only, same]

end Tree

theorem except_create (fs : FileSystem) (name : Name) (node : Node)
    (made : spot (name :: folder) = true) (touched : spot folder = true) :
    (fs.create folder name node).tree.except spot = fs.tree.except spot := by
  show ((fs.tree.add (name :: folder) node).touch folder fs.clock).except spot = _
  rw [Tree.touch, Tree.except_update _ _ touched, Tree.except_add _ _ made]

theorem except_overwrite (fs : FileSystem) (content : ByteArray) (here : spot at_ = true) :
    (fs.overwrite at_ content).tree.except spot = fs.tree.except spot :=
  Tree.except_update _ (Node.isFolder_withContent content fs.clock) here

/-- A copy changes the place where its path leads, and the folder in which it makes a file. -/
theorem copyFile_except {source target : String} (named : target.back ≠ '/')
    (h : fs.copyFile source target = .ok after) :
    ∃ place, fs.resolve target = .ok place ∧ ∀ spot : Location →
      Bool, spot place.location = true →
      (∀ folder name, place = .vacancy folder name → spot folder = true) →
        after.tree.except spot = fs.tree.except spot := by
  obtain ⟨_, _, _, there, opened, _, opening, written⟩ := copyFile_cases h
  have written : ∀ spot : Location → Bool, spot there = true →
      after.tree.except spot = opened.tree.except spot := by
    intro spot here
    rcases written with ⟨_, _, _, rfl⟩ | ⟨_, rfl⟩
    · rw [except_overwrite _ _ here, except_overwrite _ _ here]
    · rw [except_overwrite _ _ here]
  rcases openFile_leads named opening with ⟨leads, rfl, _⟩ | ⟨folder, name, leads, rfl, rfl⟩
  · exact ⟨_, leads, fun spot here _ => written spot here⟩
  · refine ⟨_, leads, fun spot here touched => ?_⟩
    rw [written spot here, except_create _ _ _ here (touched folder name rfl)]

/-! ## Below a directory that exists -/

/-- What is new below a folder that exists lies in that folder or in one below it. -/
theorem suffix_of_vacant {dir : Location} (exists_ : before.tree.isFolder dir = true)
    (vacant : before.tree.Vacant folder name) (below : dir <:+ name :: folder) :
    dir <:+ folder := by
  rcases List.suffix_cons_iff.1 below with rfl | inside
  · obtain ⟨t, there⟩ := Tree.isFolder_iff_node?.1 exists_
    cases there.symm.trans vacant.free
  · exact inside

theorem Writes.except {base : String} {dir : Location} (h : Writes base before after)
    (filled : base ≠ "") (denotes : before.directory? base = some dir)
    (unlinked : Unlinked before.tree dir) :
    after.tree.except dir.isSuffixOf = before.tree.except dir.isSuffixOf := by
  obtain ⟨leads, exists_⟩ := (directory?_eq_some filled).1 denotes
  cases h with
  | @folder names text named some_ above done =>
    obtain ⟨folder, name, free, rfl⟩ := makeFolder_eq_ok.1 done
    -- the directory and the folders above it need not be made
    have new : ∀ {text}, before.resolveLast text = .ok (.vacancy folder name) →
        ¬before.isFolder text = true := by
      intro text free kind
      obtain ⟨at_, resolved, _⟩ := isFolder_eq_true.1 kind
      obtain ⟨other, last⟩ := resolveLast_of_resolve resolved
      cases free.symm.trans last
    obtain ⟨usable, followed⟩ := resolveLast_eq_ok.1 free
    rcases above.of_pushAll named some_ with ⟨init, filled', beginning, rfl⟩ | rfl | higher
    · have inner : ∀ s ∈ init, IsName s := fun s present => named s (beginning.subset present)
      have vacant := follow_vacancy (slashFree_stripped _) followed
      rw [stripped_pushAll inner filled'] at followed
      obtain ⟨dir', same, below⟩ := below_of_follow inner filled' usable followed
      obtain rfl : dir' = dir := Option.some.inj (same.symm.trans denotes)
      have here : dir' <:+ name :: folder := below unlinked
      exact except_create _ _ _ (List.isSuffixOf_iff_suffix.2 here)
        (List.isSuffixOf_iff_suffix.2 (suffix_of_vacant exists_ vacant here))
    · exact absurd (isFolder_eq_true.2 ⟨dir, leads, exists_⟩) (new free)
    · rcases isFolder_of_isAbove higher leads with rfl | kind
      · simp [checkText] at usable
      · exact absurd kind (new free)
  | @file names source named some_ done =>
    obtain ⟨place, resolved, changes⟩ :=
      copyFile_except (PathText.back_pushAll base named some_) done
    obtain ⟨usable, followed⟩ := resolve_eq_ok.1 resolved
    obtain ⟨dir', same, below⟩ := below_of_follow named some_ usable followed
    obtain rfl : dir' = dir := Option.some.inj (same.symm.trans denotes)
    have here : dir' <:+ place.location := below unlinked
    refine changes _ (List.isSuffixOf_iff_suffix.2 here) fun folder name free => ?_
    subst free
    exact List.isSuffixOf_iff_suffix.2 (suffix_of_vacant exists_ (vacant_of_resolve resolved) here)

theorem except_of_steps {base : String} {dir : Location}
    (steps : Relation.ReflTransGen (Writes base) before after) (filled : base ≠ "")
    (denotes : before.directory? base = some dir) (unlinked : Unlinked before.tree dir) :
    after.tree.except dir.isSuffixOf = before.tree.except dir.isSuffixOf := by
  induction steps with
  | refl => rfl
  | tail steps step ih =>
    have e := extends_of_steps steps
    rw [step.except filled (e.directory? denotes) (e.unlinked unlinked), ih]

/-! ## Below a free name -/

/-- The places at and below a free name, and the folder that holds it. -/
def atOrAround (there : Location) (name : String) (at_ : Location) : Bool :=
  (.text name :: there).isSuffixOf at_ || at_ = there

theorem Missing.atOrAround_holder {there : Location} {name : String} {made : Name}
    (below : .text name :: there <:+ made :: folder) : atOrAround there name folder = true := by
  rcases List.suffix_cons_iff.1 below with same | inside
  · obtain ⟨_, rfl⟩ := List.cons.inj same
    simp [atOrAround]
  · simp [atOrAround, List.isSuffixOf_iff_suffix.2 inside]

/-- One write below a path that leads to a free name changes nothing elsewhere. -/
theorem Missing.except {path name : String} {there : Location} {names : List String}
    (m : Missing fs path there name names) (e : Extends fs before) (h : Writes path before after) :
    after.tree.except (atOrAround there name) = before.tree.except (atOrAround there name) := by
  have here : ∀ {at_}, .text name :: there <:+ at_ → atOrAround there name at_ = true := by
    intro at_ below
    simp [atOrAround, List.isSuffixOf_iff_suffix.2 below]
  cases h with
  | @folder segments text named some_ above done =>
    obtain ⟨inner, _, new⟩ := m.newFolder e named some_ above done
    obtain ⟨folder, made, free, new'⟩ := makeFolder_newFolder done
    obtain ⟨folder', made', free', rfl⟩ := makeFolder_eq_ok.1 done
    obtain ⟨rfl, rfl⟩ : folder = folder' ∧ made = made' := by
      simpa using free.symm.trans free'
    have same : made :: folder = Location.down (.text name :: there) inner := by
      simpa using new'.leads.symm.trans new.leads
    have below : .text name :: there <:+ made :: folder := by
      rw [same]
      exact Location.suffix_down _ inner
    exact except_create _ _ _ (here below) (Missing.atOrAround_holder below)
  | @file segments source named some_ done =>
    obtain ⟨place, resolved, changes⟩ :=
      copyFile_except (PathText.back_pushAll path named some_) done
    obtain ⟨located, _⟩ := m.location e named resolved
    have below : .text name :: there <:+ place.location := by
      rw [located]
      exact Location.suffix_down _ _
    refine changes _ (here below) fun folder name free => ?_
    subst free
    exact Missing.atOrAround_holder below

theorem Missing.except_of_steps {path name : String} {there : Location} {names : List String}
    (m : Missing fs path there name names) (steps : Relation.ReflTransGen (Writes path) fs after) :
    after.tree.except (atOrAround there name) = fs.tree.except (atOrAround there name) := by
  induction steps with
  | refl => rfl
  | tail steps step ih => rw [m.except (extends_of_steps steps) step, ih]

end TreeFetch.FileSystem
