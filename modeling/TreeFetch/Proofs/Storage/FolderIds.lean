import TreeFetch.Proofs.Storage.Children
import TreeFetch.Proofs.Storage.Spelling

/-!
# The id of a path and the path of an id

A path of the local machine has an id if it leads to the root of the storage or below it and both
can be made canonical. The id is made of the names on the way down, so that it is in normal form,
and it stands for a path that goes the same way from the root. That path leads where the first one
leads, if the operating system allows it. The listings give a folder the same id, and no two folders
have one id.

Results:
1. `Local.locate?_resolve_iff`: when the id of a path leads back to what the path leads to.
2. `Local.Reaches.folderIdAt_iff` and `Local.Reaches.place?_inj`: the ids that are listed.
3. `Local.folderIdAt_inverts`: all of this for a storage.
-/

namespace TreeFetch.Storage.Local

open FileSystem PathText

variable {s : Local} {fs : FileSystem} {id other path : String} {names segments : List String}
  {root top at_ place : Location}

/-! ## There and back -/

/-- The names of what lies below a folder lead back to it from the folder's path, if the operating
system allows the path. -/
theorem locate?_pushAll_iff (rooted : fs.Leads s.root root)
    (there : fs.tree.Solid (root.down names)) :
    fs.locate? (pushAll s.root names) = some (root.down names) ↔
      fs.Allows (pushAll s.root names) := by
  refine ⟨fun located => allows_of_resolve (locate?_eq_some.1 located), fun allowed => ?_⟩
  obtain ⟨more, whole⟩ := pushAll_eq_append s.root names
  have usable := checkText_of_append rooted.filled (whole ▸ allowed.usable)
  have located := locate?_eq_some_iff_leads.2 ⟨rooted, (checkText_eq_ok.1 usable).2.2⟩
  cases names with
  | nil => exact located
  | cons name rest =>
    have folder := Tree.isFolder_of_solid_cons (Tree.solid_of_down_cons there)
    have denotes := directory?_of_resolve (locate?_eq_some.1 located) folder
    rw [locate?_eq_some]
    exact (resolve_pushAll_iff (isName_of_down there) (List.cons_ne_nil name rest) denotes
      there).2 allowed

theorem leads_push_empty {base : String} (leads : fs.Leads base at_)
    (folder : fs.tree.isFolder at_ = true) : fs.Leads (push base "") at_ := by
  rw [push]
  split
  · rwa [String.append_empty]
  · next ends =>
    obtain ⟨left, reached⟩ := follow_eq_ok.1 leads.followed
    refine ⟨by simp, by simpa using leads.clean, ?_⟩
    rw [parts_append_slash, String.append_assoc, start_append leads.filled,
      follow_append (parts_ne_nil ""), reached]
    simp only
    rw [show parts "" = [""] from rfl, follow_eq, descend_idle folder (by decide)]
    rfl

/-- An id that is made of names stands for the path that goes on with them. -/
theorem resolve_ofSegments (named : ∀ n ∈ names, IsName n) :
    s.resolve (ofSegments names) = .ok (names, pushAll s.root names) :=
  resolve_eq_ok.2 ⟨segments?_ofSegments named, rfl⟩

theorem isName_of_canonical? (h : fs.canonical? path = some (root.down names)) :
    ∀ n ∈ names, IsName n :=
  isName_of_down (solid_of_canonical? h)

/-- The id of a path stands for a path that leads to the same place exactly if it is allowed. -/
theorem locate?_resolve_iff (known : s.folderIdAt fs path = some id) :
    ∃ again, s.resolve id = .ok (kept id, again) ∧
      (fs.locate? again = fs.canonical? path ↔ fs.Allows again) := by
  obtain ⟨root, names, rooted, target, rfl⟩ := folderIdAt_eq_some.1 known
  have named := isName_of_canonical? target
  refine ⟨pushAll s.root names, ?_, ?_⟩
  · rw [(canonical_ofSegments named).2]
    exact resolve_ofSegments named
  · rw [target]
    exact locate?_pushAll_iff (canonical?_eq_some.1 rooted).1 (solid_of_canonical? target)

theorem isCanonical_folderIdAt (known : s.folderIdAt fs path = some id) : IsCanonical id := by
  obtain ⟨root, names, _, target, rfl⟩ := folderIdAt_eq_some.1 known
  exact (canonical_ofSegments (isName_of_canonical? target)).1

/-- The id of a path is empty exactly if the path leads to the root. -/
theorem folderIdAt_eq_root (known : s.folderIdAt fs path = some id) :
    id = "" ↔ fs.canonical? path = fs.canonical? s.root := by
  obtain ⟨root, names, rooted, target, rfl⟩ := folderIdAt_eq_some.1 known
  have empty : ofSegments [] = "" := rfl
  have none_ : root.down names = root.down [] ↔ names = [] := Location.down_inj
  rw [rooted, target, Option.some.injEq, ← empty,
    ofSegments_inj (isName_of_canonical? target) (List.forall_mem_nil _), ← none_,
    Location.down_nil]

/-! ## The ids that are listed -/

namespace Reaches

theorem begins (reached : s.Reaches fs id) (some_ : id ≠ "") :
    ∃ top, s.LeadsToFolder fs "" [] top := by
  induction reached with
  | root => exact absurd rfl some_
  | @step id entries e above listed present kind ih =>
    by_cases first : id = ""
    · subst first
      obtain ⟨segments, at_, leads, _⟩ := list_eq_ok listed
      obtain rfl : segments = [] := (Option.some.inj leads.cut).symm
      exact ⟨at_, leads⟩
    · exact ih first

/-- Such a folder is the root, and listings lead straight down from it. -/
theorem leads (reached : s.Reaches fs id) (open_ : id = "" → fs.isFolder s.root = true) :
    ∃ root names, fs.locate? s.root = some root ∧ id = ofSegments names ∧
      s.LeadsToFolder fs id names (root.down names) := by
  obtain ⟨top, begins⟩ : ∃ top, s.LeadsToFolder fs "" [] top := by
    by_cases first : id = ""
    · obtain ⟨at_, leads, folder⟩ := isFolder_eq_true.1 (open_ first)
      exact ⟨at_, by decide, leads, folder⟩
    · exact reached.begins first
  obtain ⟨names, same, leads, _⟩ := leads_of_reaches begins reached
  exact ⟨top, names, locate?_eq_some.2 begins.leads, same, leads⟩

/-- The paths that have the id of a listed folder are those that lead to it. -/
theorem folderIdAt_iff (reached : s.Reaches fs id) (open_ : id = "" → fs.isFolder s.root = true) :
    s.folderIdAt fs path = some id ↔
      fs.canonical? s.root ≠ none ∧ fs.canonical? path = s.place? fs id := by
  obtain ⟨root, names, rooted, rfl, leads⟩ := reached.leads open_
  have named := isName_of_segments? leads.cut
  rw [leads.place?_eq, folderIdAt_eq_some]
  constructor
  · rintro ⟨root', names', rooted', target, same⟩
    obtain rfl := canonical?_eq_locate? rooted' rooted
    rw [ofSegments_inj named (isName_of_canonical? target)] at same
    exact ⟨by simp [rooted'], same ▸ target⟩
  · rintro ⟨known, target⟩
    obtain ⟨root', rooted'⟩ := Option.ne_none_iff_exists'.1 known
    obtain rfl := canonical?_eq_locate? rooted' rooted
    exact ⟨root', names, rooted', target, rfl⟩

/-- A path that leads to a listed folder has its id if it can be made canonical, and the root
too. -/
theorem folderIdAt_iff_of_leads (reached : s.Reaches fs id)
    (open_ : id = "" → fs.isFolder s.root = true) (there : s.place? fs id = some place)
    (leads : fs.Leads path place) :
    s.folderIdAt fs path = some id ↔ fs.canonical? s.root ≠ none ∧
    fs.canonical? path ≠ none := by
  rw [reached.folderIdAt_iff open_, there, and_congr_right_iff]
  refine fun _ => ⟨fun target => by simp [target], fun known => ?_⟩
  obtain ⟨target, same⟩ := Option.ne_none_iff_exists'.1 known
  rw [same, (canonical?_eq_some.1 same).1.unique leads]

/-- The id of a listed folder stands for a path that leads to it. This is the root with the id
joined to it, but for the root itself. -/
theorem resolve_eq (reached : s.Reaches fs id) (open_ : id = "" → fs.isFolder s.root = true) :
    ∃ again, s.resolve id = .ok (kept id, again) ∧ fs.isFolder again = true ∧
      s.place? fs id = fs.locate? again ∧ (id ≠ "" → again = join s.root id) := by
  obtain ⟨root, names, rooted, same, leads⟩ := reached.leads open_
  have named := isName_of_segments? leads.cut
  obtain ⟨_, steps⟩ := segments?_eq_kept.1 leads.cut
  refine ⟨pushAll s.root names, ?_, isFolder_eq_true.2 ⟨_, leads.leads, leads.folder⟩, ?_,
    fun some_ => ?_⟩
  · rw [steps]
    exact resolve_eq_ok.2 ⟨leads.cut, rfl⟩
  · rw [leads.place?_eq, locate?_eq_some.2 leads.leads]
  · have filled : names ≠ [] := by
      rintro rfl
      exact some_ same
    -- an id that is not empty begins with a name, so that joining it is pushing it
    have front : id.front ≠ '/' := by
      obtain ⟨name, rest, rfl⟩ := List.exists_cons_of_ne_nil filled
      have first := named name (List.mem_cons_self ..)
      rw [same]
      by_cases single : rest = []
      · subst single
        exact first.front_ne
      · rw [show name :: rest = [name] ++ rest from rfl,
          ofSegments_append (List.cons_ne_nil name []) single, String.append_assoc,
          front_append (show ofSegments [name] ≠ "" from first.ne_empty)]
        exact first.front_ne
    rw [join, if_neg front, same, push_ofSegments s.root named filled]

/-- The root with the id of a listed folder joined to it leads to that folder. -/
theorem leads_join (reached : s.Reaches fs id) (open_ : id = "" → fs.isFolder s.root = true) :
    ∃ place, s.place? fs id = some place ∧ fs.Leads (join s.root id) place := by
  by_cases first : id = ""
  · -- joining the empty id puts a slash behind the root
    subst first
    obtain ⟨at_, leads, folder⟩ := isFolder_eq_true.1 (open_ rfl)
    have begins : s.LeadsToFolder fs "" [] at_ := ⟨by decide, leads, folder⟩
    have straight := (locate?_eq_some_iff_leads.1 (locate?_eq_some.2 leads)).1
    exact ⟨at_, begins.place?_eq, leads_push_empty straight folder⟩
  · obtain ⟨again, _, folder, there, joined⟩ := reached.resolve_eq open_
    obtain ⟨at_, leads, _⟩ := isFolder_eq_true.1 folder
    have located := locate?_eq_some.2 leads
    rw [← joined first]
    exact ⟨at_, there.trans located, (locate?_eq_some_iff_leads.1 located).1⟩

theorem place?_inj (reached : s.Reaches fs id) (reached' : s.Reaches fs other) :
    s.place? fs id = s.place? fs other ↔ id = other := by
  refine ⟨fun same => ?_, fun same => by rw [same]⟩
  by_cases both : id = "" ∧ other = ""
  · rw [both.1, both.2]
  · obtain ⟨top, begins⟩ : ∃ top, s.LeadsToFolder fs "" [] top := by
      by_cases first : id = ""
      · exact reached'.begins fun second => both ⟨first, second⟩
      · exact reached.begins first
    obtain ⟨names, rfl, leads, _⟩ := leads_of_reaches begins reached
    obtain ⟨names', rfl, leads', _⟩ := leads_of_reaches begins reached'
    rw [leads.place?_eq, leads'.place?_eq, Option.some.injEq, Location.down_inj] at same
    rw [same]

end Reaches

/-- A path has an id exactly if it and the root can be made canonical and it leads to the root or
below it with texts for its names, and then the id is made of these names. It is in normal form, and
empty only for the root. It stands for a path that leads where the first one leads, exactly if the
operating system allows that path. A path can be made canonical exactly if it leads to an entry and
every name on the way is looked up by a text that is not too long.

The folders that are listed from the root have as ids what their paths have that can be made
canonical: the path that such an id stands for, which is the id joined to the root, and all others
that lead to the folder. So no two of them have one id. -/
theorem folderIdAt_inverts (s : Local) (fs : FileSystem) :
    (∀ path at_, fs.canonical? path = some at_ ↔
      fs.Leads path at_ ∧ fs.limits.Suit (fs.lookups path)) ∧
    (∀ path id, s.folderIdAt fs path = some id ↔
      ∃ root names, fs.canonical? s.root = some root ∧
      fs.canonical? path = some (root.down names) ∧ id = ofSegments names) ∧
    (∀ path id, s.folderIdAt fs path = some id →
      IsCanonical id ∧ (id = "" ↔ fs.canonical? path = fs.canonical? s.root) ∧
      ∃ again, s.resolve id = .ok (kept id, again) ∧
        (fs.locate? again = fs.canonical? path ↔ fs.Allows again)) ∧
    (∀ id, s.Reaches fs id → (id = "" → fs.isFolder s.root = true) →
      (∃ again, s.resolve id = .ok (kept id, again) ∧ fs.isFolder again = true ∧
        s.place? fs id = fs.locate? again ∧ (id ≠ "" → again = join s.root id) ∧
        (s.folderIdAt fs again = some id ↔
          fs.canonical? s.root ≠ none ∧ fs.canonical? again ≠ none)) ∧
      (s.folderIdAt fs (join s.root id) = some id ↔
        fs.canonical? s.root ≠ none ∧ fs.canonical? (join s.root id) ≠ none) ∧
      ∀ path, s.folderIdAt fs path = some id ↔
        fs.canonical? s.root ≠ none ∧ fs.canonical? path = s.place? fs id) ∧
    ∀ id other, s.Reaches fs id → s.Reaches fs other →
      (s.place? fs id = s.place? fs other ↔ id = other) := by
  refine ⟨fun _ _ => canonical?_eq_some, fun _ _ => folderIdAt_eq_some, fun _ _ known => ?_,
    fun _ reached open_ => ?_, fun _ _ => Reaches.place?_inj⟩
  · exact ⟨isCanonical_folderIdAt known, folderIdAt_eq_root known, locate?_resolve_iff known⟩
  · obtain ⟨again, resolved, folder, there', joins⟩ := reached.resolve_eq open_
    obtain ⟨at_, leads, _⟩ := isFolder_eq_true.1 folder
    have located := locate?_eq_some.2 leads
    have straight := (locate?_eq_some_iff_leads.1 located).1
    obtain ⟨place, there, joined⟩ := reached.leads_join open_
    exact ⟨⟨again, resolved, folder, there', joins,
      reached.folderIdAt_iff_of_leads open_ (there'.trans located) straight⟩,
      reached.folderIdAt_iff_of_leads open_ there joined, fun _ => reached.folderIdAt_iff open_⟩

/-- The hidden folder of the cabinet has one id, by whatever path it is asked for, and it is the one
with which it is listed. -/
theorem folderIdAt_inverts_cabinet :
    let s : Local := ⟨"/s"⟩
    (s.folderIdAt cabinet "s/k/../s/k/.d/" = some ".d" ∧ s.Reaches cabinet ".d" ∧
      ((".d" : String) = "" → cabinet.isFolder s.root = true)) ∧
      IsCanonical ".d" ∧ s.resolve ".d" = .ok ([".d"], "/s/.d") ∧
      cabinet.locate? "/s/.d" = cabinet.canonical? "s/k/../s/k/.d/" ∧
      s.folderIdAt cabinet "/s/.d" = some ".d" ∧
      (s.place? cabinet ".d" = s.place? cabinet "" ↔ (".d" : String) = "") := by
  intro s
  have known : s.folderIdAt cabinet "s/k/../s/k/.d/" = some ".d" := by cbv
  have listed : (s.list cabinet "").result = .ok [⟨".d", ".d", .folder, 5, true⟩,
      ⟨"l", "l", .file, 4, false⟩, ⟨"f", "f", .file, 2, false⟩] := by cbv
  have reached : s.Reaches cabinet ".d" := Reaches.root.step listed (List.mem_cons_self ..) rfl
  have open_ : (".d" : String) = "" → cabinet.isFolder s.root = true := fun _ => by cbv
  obtain ⟨_, _, inverse, walked, apart⟩ := folderIdAt_inverts s cabinet
  obtain ⟨canonical, _, _⟩ := inverse _ _ known
  obtain ⟨⟨again, resolved, _, there, joined, known'⟩, _, same⟩ := walked _ reached open_
  obtain rfl : again = "/s/.d" := by rw [joined (by decide)]; cbv
  have steps : kept ".d" = [".d"] := by rw [kept_eq]; decide
  have rooted : cabinet.canonical? s.root = some [.text "s"] := by cbv
  have target : cabinet.canonical? "/s/.d" = some [.text ".d", .text "s"] := by cbv
  refine ⟨⟨known, reached, open_⟩, canonical, steps ▸ resolved, ?_, ?_,
    apart _ _ reached .root⟩
  · rw [((same _).1 known).2, there]
  · exact known'.2 ⟨by simp [rooted], by simp [target]⟩

/-! ## Too long a path and too deep a folder -/

theorem canonical?_slashed {count : Nat} {time : Time}
    (room : count + 1 ≤ fs.limits.pathBytes) (some_ : 3 ≤ fs.limits.pathBytes)
    (short : 1 ≤ fs.limits.nameBytes) (current : fs.current = [])
    (there : fs.tree.node? [.text "s"] = some (.folder time)) :
    fs.canonical? (slashed count).root = some [.text "s"] := by
  have begins := leads_slashed room short current there
  have leads := (locate?_eq_some_iff_leads.1 (locate?_eq_some.2 begins.leads)).1
  have folder : fs.tree.isFolder [.text "s"] = true := begins.folder
  have begun : start (slashed count).root fs.current = [] := by
    rw [current, start]
    split <;> rfl
  have blank : ∀ part ∈ List.replicate count "", part = "" := fun _ => List.eq_of_mem_replicate
  have suit : fs.limits.Suit
      (lookupsIn fs.tree [] ("s" :: List.replicate count "")) := by
    rw [lookupsIn, if_neg (by decide), if_neg (by decide), there]
    have two : Location.canonicalBytes [.text "s"] = 2 := by cbv
    refine suit_cons.2 ⟨Nat.le_trans (lookupBytes_le _ _ _) (two ▸ some_), ?_⟩
    dsimp only
    rw [lookupsIn_blank blank]
    exact suit_nil _
  have looks : LooksUp fs.tree fs.limits.nameBytes [] "s" := ⟨rfl, by decide, by decide, short⟩
  refine canonical?_eq_some.2 ⟨leads, ?_⟩
  rw [lookups, begun, parts_slashed]
  cases fs.limits.links with
  | zero => exact suit
  | succ left =>
    rw [lookupsAlong, looks.descend_onto ⟨_, there, by simp⟩, descend_blank folder blank,
      List.append_nil]
    exact suit

/-- A name that is as long as a name may be. -/
def longest : String := String.ofList (List.replicate 255 'd')

theorem longest_isName : IsName longest := by
  have chars : longest.toList = List.replicate 255 'd' := String.toList_ofList
  refine ⟨?_, by decide +kernel, by decide +kernel⟩
  rw [chars]
  intro present
  exact absurd (List.eq_of_mem_replicate present) (by decide)

theorem allows_longest : (inShaft longest 16).Allows (push "." longest) := by
  have clean : (push "." longest).contains '\x00' = false := by
    rw [String.contains_char_eq]
    decide +kernel
  refine ⟨checkText_eq_ok.2 ⟨by decide +kernel, clean, by decide +kernel⟩, ?_⟩
  rw [parts_push "." longest_isName]
  intro part present
  obtain rfl | rfl : part = "." ∨ part = longest := by
    simpa [show stem "." = ["."] by decide] using present
  · exact .inl (by decide)
  · exact .inr (.inr (by decide +kernel))

theorem begins_inShaft {name : String} (named : IsName name) (depth : Nat) :
    LeadsToFolder ⟨"."⟩ (inShaft name depth) "" [] (inShaft name depth).current := by
  have leads := (canonical?_eq_some.1 (canonical?_current named depth)).1
  have located := locate?_eq_some_iff_leads.2 ⟨leads, show 1 ≤ 4095 by decide⟩
  exact ⟨by decide, locate?_eq_some.1 located, isFolder_inShaft named depth⟩

theorem reaches_inShaft {name : String} (named : IsName name) {depth : Nat}
    (allowed : (inShaft name depth).Allows (push "." name)) :
    Reaches ⟨"."⟩ (inShaft name depth) name ∧
      LeadsToFolder ⟨"."⟩ (inShaft name depth) name [name]
        (.text name :: (inShaft name depth).current) := by
  have open_ : Listable ⟨"."⟩ (inShaft name depth) [] (inShaft name depth).current := by
    rintro other ⟨node, there, _⟩
    have filled := (node?_shaft (isValid_of_isName named) _ _).symm.trans there
    obtain ⟨n, _, same⟩ : ∃ n ≤ depth + 1,
      Name.text other :: List.replicate depth (.text name) =
        List.replicate n (.text name) := by
      by_contra none_
      exact absurd ((if_neg none_).symm.trans filled) (by simp)
    have first : Name.text other = .text name :=
      List.eq_of_mem_replicate (same ▸ List.mem_cons_self ..)
    rw [Name.text.inj first]
    exact allowed
  have folder : (inShaft name depth).tree.isFolder
      (Location.down (inShaft name depth).current [name]) = true :=
    Tree.isFolder_iff_node?.2 ⟨0, node?_inShaft named (Nat.le_refl (depth + 1))⟩
  exact reaches_of_opens (begins_inShaft named depth) folder (opens_concat.2 ⟨opens_nil, open_⟩)

/-- Below a root with a path of 4095 bytes the id of a folder stands for a path that leads nowhere.
A folder with a canonical path of more than 4095 bytes has no id, although it is listed. -/
theorem folderIdAt_not_inverted :
    ((slashed 4094).folderIdAt cabinet "s/.d" = some ".d" ∧ cabinet.locate? "s/.d" ≠ none ∧
      ∀ segments again, (slashed 4094).resolve ".d" = .ok (segments, again) →
        cabinet.locate? again ≠ cabinet.locate? "s/.d") ∧
    let fs := inShaft longest 16
    Reaches ⟨"."⟩ fs longest ∧ fs.locate? "." = some fs.current ∧
      fs.locate? (push "." longest) = some (.text longest :: fs.current) ∧
      folderIdAt ⟨"."⟩ fs (push "." longest) = none := by
  have located : cabinet.locate? "s/.d" = some (Location.down [.text "s"] [".d"]) := by cbv
  have target : cabinet.canonical? "s/.d" = some (Location.down [.text "s"] [".d"]) := by cbv
  have rooted : cabinet.canonical? (slashed 4094).root = some [.text "s"] :=
    canonical?_slashed (by decide) (by decide) (by decide) rfl (by cbv)
  refine ⟨⟨folderIdAt_eq_some.2 ⟨_, [".d"], rooted, target, rfl⟩, by simp [located], ?_⟩,
    ?_⟩
  · intro segments again resolved same
    obtain ⟨cut, rfl⟩ := Local.resolve_eq_ok.1 resolved
    have one : segments? ".d" = some [".d"] := by decide
    obtain rfl : [".d"] = segments := Option.some.inj (one.symm.trans cut)
    rw [located] at same
    exact not_allows_slashed rfl (by decide) (allows_of_resolve (locate?_eq_some.1 same))
  · intro fs
    obtain ⟨reached, leads⟩ := reaches_inShaft longest_isName allows_longest
    have begins := begins_inShaft longest_isName 16
    have nowhere : fs.canonical? (push "." longest) = none :=
      canonical?_inShaft longest_isName (by decide +kernel)
    refine ⟨reached, locate?_eq_some.2 begins.leads, locate?_eq_some.2 leads.leads, ?_⟩
    simp [folderIdAt, nowhere]

end TreeFetch.Storage.Local
