import TreeFetch.Proofs.FileSystem.Making

/-!
# The folders above a path

To make the folder of a path is to make one missing folder above it after the other. There is only
one way to do so: a folder is made only where all folders above it are there, and none is made
twice. So making folders succeeds exactly if the missing ones can be made one by one until all of
them are there, whatever links and parts that climb are on the way.

Results:
1. `isOpen_of_parent`: the folders above a folder are there.
2. `follow_refused`: a path that is refused for another reason than a missing entry stays refused.
3. `makeFolders_eq_ok`: when the folders above a path can be made, and what is there then.
4. `Prepared.unique`: there is one way to do it.
-/

namespace TreeFetch.FileSystem

open PathText (parents parts ofSegments)

variable {fs before after mid made : FileSystem} {tree : Tree} {nameBytes links : Nat} {last : Bool}
  {at_ place : Location} {way texts above : List String} {path text : String} {fault : Fault}

/-! ## Folders that are there -/

/-- A text can be used as a directory: it is empty, or leads to a folder. -/
def IsOpen (fs : FileSystem) (text : String) : Prop := text = "" ∨ fs.isFolder text = true

theorem Extends.isFolder (e : Extends before after) (folder : before.isFolder path = true) :
    after.isFolder path = true := by
  obtain ⟨at_, leads, kind⟩ := isFolder_eq_true.1 folder
  exact isFolder_eq_true.2 ⟨at_, e.resolve leads, isFolder_kept e.kept kind⟩

theorem Extends.isOpen (e : Extends before after) (open_ : before.IsOpen text) :
    after.IsOpen text :=
  open_.imp_right e.isFolder

theorem isOpen_of_resolveLast {there : Place} (h : fs.resolveLast path = .ok there)
    (upper : text ∈ parents path) : fs.IsOpen text := by
  obtain ⟨usable, followed⟩ := resolveLast_eq_ok.1 h
  rcases PathText.parts_of_mem_parents upper with rfl | ⟨rfl, slash⟩ |
    ⟨init, more, cut, _, rfl, part, present, filled⟩
  · exact .inl rfl
  · exact .inr (isFolder_slash slash usable)
  · by_cases empty : ofSegments init = ""
    · exact .inl empty
    · obtain ⟨blanks, blank, stripped⟩ := parts_eq_stripped path
      obtain ⟨rest, whole, later⟩ : ∃ rest,
          ((parts path).reverse.dropWhile (· = "")).reverse = init ++ rest ∧ part ∈ rest := by
        rcases List.append_eq_append_iff.1 (cut.symm.trans stripped) with ⟨rest, same, tail⟩ |
          ⟨rest, _, tail⟩
        · refine ⟨rest, same, ?_⟩
          rw [tail] at present
          exact (List.mem_append.1 present).resolve_right fun inside => filled (blank part inside)
        · exact absurd (blank part (tail ▸ List.mem_append_right _ present)) filled
      have some_ : rest ≠ [] := List.ne_nil_of_mem later
      rw [whole, follow_append some_] at followed
      split at followed
      · next there_ left reached =>
        have beginning : init <+: parts path := cut ▸ List.prefix_append init more
        exact .inr (isFolder_text usable empty beginning (follow_eq_ok.2 ⟨left, reached⟩)
          (isFolder_of_follow some_ followed))
      · split at followed
        · next blanks_ =>
            exact absurd (of_decide_eq_true (List.all_eq_true.1 blanks_ part later)) filled
        · cases followed
      · cases followed

theorem isOpen_of_parent (open_ : fs.IsOpen path) (upper : text ∈ parents path) :
    fs.IsOpen text := by
  rcases open_ with rfl | folder
  · simp [parents, PathText.beginnings, show parts "" = [""] by decide, PathText.isIdle] at upper
  · obtain ⟨at_, leads, _⟩ := isFolder_eq_true.1 folder
    obtain ⟨named, last⟩ := resolveLast_of_resolve leads
    exact isOpen_of_resolveLast last upper

theorem makeFolder_ne_ok (open_ : fs.IsOpen path) : fs.makeFolder path ≠ .ok made := by
  intro done
  obtain ⟨folder, name, free, _⟩ := makeFolder_eq_ok.1 done
  rcases open_ with rfl | kind
  · exact absurd (resolveLast_eq_ok.1 free).1 (by simp [checkText])
  · obtain ⟨at_, leads, _⟩ := isFolder_eq_true.1 kind
    obtain ⟨named, last⟩ := resolveLast_of_resolve leads
    cases free.symm.trans last

theorem isOpen_of_makeFolder (done : fs.makeFolder path = .ok made)
    (upper : text ∈ parents path) : fs.IsOpen text := by
  obtain ⟨_, _, free, _⟩ := makeFolder_eq_ok.1 done
  exact isOpen_of_resolveLast free upper

theorem isFolder_of_makeFolder (done : fs.makeFolder path = .ok made) :
    made.isFolder path = true := by
  obtain ⟨folder, name, free, new⟩ := makeFolder_newFolder done
  refine isFolder_eq_true.2 ⟨_, new.leads, ?_⟩
  obtain ⟨_, _, free', rfl⟩ := makeFolder_eq_ok.1 done
  obtain ⟨rfl, rfl⟩ : folder = _ ∧ name = _ := by simpa using free.symm.trans free'
  have vacant := follow_vacancy (slashFree_stripped path) (resolveLast_eq_ok.1 free).2
  rw [Tree.isFolder_iff, shape?_create vacant, if_pos rfl]
  rfl

theorem Makes.extension (step : Makes texts before after) : Extends before after := by
  obtain ⟨text, _, done⟩ := step
  obtain ⟨_, _, _, new⟩ := makeFolder_newFolder done
  exact new.extension

theorem extends_of_makes (steps : Relation.ReflTransGen (Makes texts) before after) :
    Extends before after := by
  induction steps with
  | refl => exact .refl _
  | tail _ step ih => exact ih.trans step.extension

theorem eq_of_isOpen (steps : Relation.ReflTransGen (Makes texts) before after)
    (all : ∀ text ∈ texts, before.IsOpen text) : after = before := by
  rcases Relation.ReflTransGen.cases_head steps with same | ⟨next, ⟨text, present, done⟩, _⟩
  · exact same.symm
  · exact absurd done (makeFolder_ne_ok (all text present))

/-! ## Paths that stay refused -/

theorem descend_link_folder {folder : Location} {target : String} {rest : List String}
    (h : descend tree nameBytes last at_ way = .link folder target rest) :
    tree.isFolder folder = true := by
  fun_induction descend tree nameBytes last at_ way with
  | case1 at_ => cases h
  | case2 at_ part rest shut => cases h
  | case3 at_ part rest open_ idle ih => exact ih h
  | case4 at_ part rest open_ moves climbs ih => exact ih h
  | case5 at_ part rest open_ moves falls long => cases h
  | case6 at_ part rest open_ moves falls fits free blank => cases h
  | case7 at_ part rest open_ moves falls fits free filled => cases h
  | case8 at_ part rest open_ moves falls fits target found ends => cases h
  | case9 at_ part rest open_ moves falls fits target found on_ =>
    obtain ⟨rfl, _⟩ := Descent.link.inj h
    simpa using open_
  | case10 at_ part rest open_ moves falls fits node solid found ih => exact ih h

section

variable {before after : Tree}
  (kept : ∀ place s, before.shape? place = some s → after.shape? place = some s)

include kept

/-- Parts that are refused for another reason than a missing entry stay refused. -/
theorem descend_refused (begins : before.Solid at_)
    (h : descend before nameBytes last at_ way = .refused fault) (other : fault ≠ .notFound) :
    descend after nameBytes last at_ way = .refused fault := by
  fun_induction descend before nameBytes last at_ way with
  | case1 at_ => cases h
  | case2 at_ part rest shut =>
    -- what is no folder, and no link, is a file and remains one
    obtain ⟨content, time, file⟩ := Tree.file_of_solid begins (by simpa using shut)
    have still : after.shape? at_ = some .file := kept _ _ (Tree.shape?_of_node? file)
    rw [descend, if_pos (by simp [← Bool.not_eq_true, Tree.isFolder_iff, still])]
    exact h
  | case3 at_ part rest open_ idle ih =>
    rw [descend_idle (isFolder_kept kept (by simpa using open_)) idle]
    exact ih begins h
  | case4 at_ part rest open_ moves climbs ih =>
    have folder : before.isFolder at_ = true := by simpa using open_
    rw [descend_climb (isFolder_kept kept folder) (by simpa using moves) climbs]
    exact ih (Tree.solid_of_isFolder (Tree.isFolder_tail folder)) h
  | case5 at_ part rest open_ moves falls long =>
    have folder : after.isFolder at_ = true := isFolder_kept kept (by simpa using open_)
    rw [descend]
    simp [folder, moves, falls, long, Descent.refused.inj h]
  | case6 at_ part rest open_ moves falls fits free blank => cases h
  | case7 at_ part rest open_ moves falls fits free filled =>
    exact absurd (Descent.refused.inj h).symm other
  | case8 at_ part rest open_ moves falls fits target found ends => cases h
  | case9 at_ part rest open_ moves falls fits target found on_ => cases h
  | case10 at_ part rest open_ moves falls fits node solid found ih =>
    have looks := LooksUp.of_not open_ moves falls fits
    rw [(looksUp_kept kept looks).descend_onto (solid_kept kept ⟨node, found, solid⟩)]
    exact ih ⟨node, found, solid⟩ h

/-- A path that is refused for another reason than a missing entry stays refused. -/
theorem follow_refused (begins : before.Solid at_)
    (h : follow before nameBytes last links at_ way = .error fault) (other : fault ≠ .notFound) :
    follow after nameBytes last links at_ way = .error fault := by
  fun_induction follow before nameBytes last links at_ way with
  | case1 => cases h
  | case2 links at_ way refused reached =>
    obtain rfl := Except.error.inj h
    rw [follow_eq, descend_refused kept begins reached other]
  | case3 at_ way folder target rest reached =>
    rw [follow_eq, descend_kept kept reached .link]
    exact h
  | case4 at_ way folder target rest reached left ih =>
    rw [follow_eq, descend_kept kept reached .link]
    refine ih ?_ h
    rw [start]
    split
    · exact Tree.solid_of_isFolder rfl
    · exact Tree.solid_of_isFolder (descend_link_folder reached)

end

/-- What a path does not name for another reason than a missing entry, it never names. -/
theorem Extends.resolveLast_refused (e : Extends before after)
    (begins : before.tree.isFolder (start path before.current) = true)
    (h : before.resolveLast path = .error fault) (other : fault ≠ .notFound) :
    after.resolveLast path = .error fault := by
  unfold resolveLast at h ⊢
  rw [e.checkText, e.limits, e.current]
  cases usable : before.checkText path with
  | error refused => simpa [usable, Except.bind] using h
  | ok _ =>
    simp only [usable, Except.bind] at h ⊢
    exact follow_refused e.kept (Tree.solid_of_isFolder begins) h other

/-- No folder is made at a path that does not begin at a folder. -/
theorem isFolder_start_of_makeFolder (done : fs.makeFolder path = .ok made) :
    fs.tree.isFolder (start path fs.current) = true := by
  obtain ⟨folder, name, free, _⟩ := makeFolder_eq_ok.1 done
  have followed := (resolveLast_eq_ok.1 free).2
  refine isFolder_of_follow (fun nothing => ?_) followed
  rw [nothing, follow_eq] at followed
  cases followed

theorem start_of_makeFolder (done : fs.makeFolder text = .ok made) (upper : text ∈ parents path) :
    start text fs.current = start path fs.current := by
  obtain ⟨folder, name, free, _⟩ := makeFolder_eq_ok.1 done
  have filled : text ≠ "" := by
    rintro rfl
    exact absurd (resolveLast_eq_ok.1 free).1 (by simp [checkText])
  rcases PathText.mem_parents upper with empty | ⟨rfl, slash⟩ | above
  · exact absurd empty filled
  · rw [start, start, if_pos slash, if_pos (by decide)]
  · obtain ⟨rest, whole⟩ := above.split
    rw [whole, String.append_assoc, start_append filled]

/-! ## One folder after the other -/

/-- The folder of a path is made last, if it is made at all. -/
theorem makes_split (steps : Relation.ReflTransGen (Makes (text :: parents text)) before after) :
    ∃ mid, Relation.ReflTransGen (Makes (parents text)) before mid ∧
      (after = mid ∨ mid.makeFolder text = .ok after) := by
  induction steps using Relation.ReflTransGen.head_induction_on with
  | refl => exact ⟨after, .refl, .inl rfl⟩
  | @head before next step rest ih =>
    obtain ⟨made, present, done⟩ := step
    rcases List.mem_cons.1 present with rfl | upper
    · obtain rfl : after = next := eq_of_isOpen rest (List.forall_mem_cons.2
        ⟨.inr (isFolder_of_makeFolder done), fun text upper =>
          Extends.isOpen (Makes.extension ⟨made, present, done⟩)
          (isOpen_of_makeFolder done upper)⟩)
      exact ⟨before, .refl, .inr done⟩
    · obtain ⟨mid, steps, last⟩ := ih
      exact ⟨mid, steps.head ⟨made, upper, done⟩, last⟩

theorem isOpen_of_split (open_ : made.IsOpen path)
    (last : made = mid ∨ mid.makeFolder path = .ok made)
    (upper : text ∈ parents path) : mid.IsOpen text := by
  rcases last with rfl | done
  · exact isOpen_of_parent open_ upper
  · exact isOpen_of_makeFolder done upper

/-- A folder that cannot be made for another reason than a missing one above it cannot be made later
on. -/
theorem isOpen_of_refused (tried : fs.makeFolder path = .error fault) (other : fault ≠ .notFound)
    (steps : Relation.ReflTransGen (Makes (path :: parents path)) fs made)
    (open_ : made.IsOpen path) : fs.IsOpen path := by
  rcases Relation.ReflTransGen.cases_head steps with rfl | ⟨next, ⟨text, present, done⟩, _⟩
  · exact open_
  · have upper : text ∈ parents path := by
      rcases List.mem_cons.1 present with rfl | upper
      · cases tried.symm.trans done
      · exact upper
    exfalso
    cases named : fs.resolveLast path with
    | ok place => exact makeFolder_ne_ok (isOpen_of_resolveLast named upper) done
    | error refused =>
      obtain rfl : refused = fault := by simpa [makeFolder, named] using tried
      have begins := isFolder_start_of_makeFolder done
      rw [start_of_makeFolder done upper] at begins
      have still := (extends_of_makes steps).resolveLast_refused begins named other
      rcases open_ with rfl | folder
      · exact other (by simpa [resolveLast, checkText, Except.bind] using named.symm)
      · obtain ⟨at_, leads, _⟩ := isFolder_eq_true.1 folder
        obtain ⟨there, last⟩ := resolveLast_of_resolve leads
        cases still.symm.trans last

/-- The folder of a path is made after the ones above it. -/
theorem makeFoldersAlong_of_upper
    (steps : Relation.ReflTransGen (Makes (path :: parents path)) fs made)
    (open_ : made.IsOpen path)
    (inner : ∀ mid, parents path ≠ [] →
      Relation.ReflTransGen (Makes (parents path)) fs mid →
      (∀ text ∈ parents path, mid.IsOpen text) →
      fs.makeFoldersAlong (parents path) = (.ok (), mid)) :
    fs.makeFoldersAlong (path :: parents path) = (.ok (), made) := by
  by_cases now : fs.IsOpen path
  · obtain rfl : made = fs :=
      eq_of_isOpen steps (List.forall_mem_cons.2 ⟨now, fun _ => isOpen_of_parent now⟩)
    exact makeFolders_of_isFolder now
  · have filled : path ≠ "" := fun empty => now (.inl empty)
    obtain ⟨mid, upper, last⟩ := makes_split steps
    rw [makeFoldersAlong, if_neg filled]
    cases tried : fs.makeFolder path with
    | ok next =>
      obtain rfl : mid = fs := eq_of_isOpen upper fun _ => isOpen_of_makeFolder tried
      rcases last with rfl | done
      · exact absurd open_ now
      · obtain rfl := Except.ok.inj (tried.symm.trans done)
        rfl
    | error fault =>
      obtain rfl : fault = .notFound := by
        by_contra other
        exact now (isOpen_of_refused tried other steps open_)
      have some_ : parents path ≠ [] := by
        intro none_
        obtain rfl : mid = fs := eq_of_isOpen (none_ ▸ upper) (List.forall_mem_nil _)
        rcases last with rfl | done
        · exact now open_
        · cases tried.symm.trans done
      simp only [inner mid some_ upper fun _ => isOpen_of_split open_ last]
      rcases last with rfl | done
      · cases again : made.makeFolder path with
        | ok next => exact absurd again (makeFolder_ne_ok open_)
        | error refused => simp only [open_.resolve_left filled, if_true]
      · simp only [done]

/-- If folders can be made one after the other until the folder of a path is there, then they are
made. -/
theorem makeFolders_of_steps (steps : Relation.ReflTransGen (Makes (path :: parents path)) fs made)
    (open_ : made.IsOpen path) : fs.makeFolders path = (.ok (), made) := by
  rw [makeFolders]
  generalize same : parents path = above
  induction above generalizing path made with
  | nil =>
    rw [← same]
    exact makeFoldersAlong_of_upper steps open_ fun _ some_ => absurd same some_
  | cons text rest ih =>
    rw [← same]
    refine makeFoldersAlong_of_upper steps open_ fun mid _ upper all => ?_
    rw [same] at upper all ⊢
    rw [← PathText.parents_cons same] at upper
    exact ih upper (all text (List.mem_cons_self ..)) (PathText.parents_cons same)

theorem isOpen_of_makeFolders (done : fs.makeFolders path = (.ok (), made)) : made.IsOpen path := by
  rw [makeFolders, makeFoldersAlong] at done
  by_cases filled : path = ""
  · exact .inl filled
  · rw [if_neg filled] at done
    have settled : ∀ {fs : FileSystem} {fault : Fault},
        ((if fs.isFolder path then .ok () else .error fault : Except Fault Unit), fs) =
          (.ok (), made) →
          made.IsOpen path := by
      intro fs fault same
      obtain ⟨result, rfl⟩ := Prod.mk.inj same
      split at result
      · next folder => exact .inr folder
      · cases result
    simp only at done
    split at done
    · next next_ tried =>
      obtain ⟨_, rfl⟩ := Prod.mk.inj done
      exact .inr (isFolder_of_makeFolder tried)
    · split at done
      · cases done
      · split at done
        · next last_ tried =>
          obtain ⟨_, rfl⟩ := Prod.mk.inj done
          exact .inr (isFolder_of_makeFolder tried)
        · exact settled done
    · exact settled done

/-- Making the folder of a path succeeds exactly if the folders that are missing can be made one
after the other, in whatever order, until it is there. -/
theorem makeFolders_eq_ok :
    fs.makeFolders path = (.ok (), made) ↔
      Relation.ReflTransGen (Makes (path :: parents path)) fs made ∧ made.IsOpen path := by
  constructor
  · intro done
    have steps := makeFoldersAlong_steps (path :: parents path) fs
    rw [← makeFolders, done] at steps
    exact ⟨steps, isOpen_of_makeFolders done⟩
  · rintro ⟨steps, open_⟩
    exact makeFolders_of_steps steps open_

/-! ## Before something is saved -/

/-- The folders above a path are there after the missing ones have been made one after the other,
and the path begins at a folder. -/
structure Prepared (path : String) (before made : FileSystem) : Prop where
  steps : Relation.ReflTransGen (Makes (parents path)) before made
  all : ∀ text ∈ parents path, made.IsOpen text
  begins : made.tree.isFolder (start path made.current) = true

/-- The folders above a path that are to be made are those of the nearest one. -/
theorem makeFolders_of_parents {rest : List String} (listed : parents path = text :: rest) :
    fs.makeFolders text = (.ok (), made) ↔
    Relation.ReflTransGen (Makes (parents path)) fs made ∧
      ∀ text ∈ parents path, made.IsOpen text := by
  rw [makeFolders_eq_ok, listed, PathText.parents_cons listed]
  refine and_congr_right fun _ =>
    ⟨fun open_ => List.forall_mem_cons.2 ⟨open_, fun _ upper => ?_⟩,
    fun all => all text (List.mem_cons_self ..)⟩
  exact isOpen_of_parent open_ ((PathText.parents_cons listed).symm ▸ upper)

theorem Prepared.unique {other : FileSystem} (h : Prepared path before made)
    (h' : Prepared path before other) : made = other := by
  cases listed : parents path with
  | nil =>
    have none_ : ∀ text ∈ parents path, before.IsOpen text := by simp [listed]
    rw [eq_of_isOpen h.steps none_, eq_of_isOpen h'.steps none_]
  | cons text rest =>
    have done := (makeFolders_of_parents listed).2 ⟨h.steps, h.all⟩
    have done' := (makeFolders_of_parents listed).2 ⟨h'.steps, h'.all⟩
    exact (Prod.mk.inj (done.symm.trans done')).2

end TreeFetch.FileSystem
