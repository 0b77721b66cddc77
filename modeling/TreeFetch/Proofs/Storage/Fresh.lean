import TreeFetch.Proofs.FileSystem.Making
import TreeFetch.Proofs.Storage.Download
import TreeFetch.Proofs.Storage.Listing

/-!
# Downloads to where nothing was

Files are saved below a path that leads nowhere at first. Each of them has its own location there,
straight below the name that is free at first, so that no download touches a file that was there
before, or the file of another download.

Results:
1. `Missing.download_leaves`: a download changes no file but the one at its own location.
2. `Missing.download_folders`: the folders that it makes lie on the way to that location.
3. `Missing.download_saved`: a download that succeeds leaves the bytes of its source there, and its
   path leads there.
4. `Missing.download_succeeds`: a download succeeds if its path fits, nothing on the way to its own
   location is something else than a folder, and nothing is there.
5. `Stuck.download_fails`: below a path that is stuck no download succeeds.
-/

namespace TreeFetch.FileSystem

open PathText (IsName parts pushAll stem)
open Storage (Local)

variable {s : Local} {fs before : FileSystem} {there held : Location} {base name id : String}
  {names segments origin : List String}

namespace Missing

variable (m : Missing fs base there name names)

include m

/-- A download changes no file but the one at its own location. -/
theorem download_leaves (e : Extends fs before) (named : ∀ n ∈ segments, IsName n)
    (some_ : segments ≠ []) {at_ : Location}
    (other : at_ ≠ Location.down (.text name :: there) (names ++ segments)) :
    (s.download before id (pushAll base segments)).2.tree.leaf? at_ = before.tree.leaf? at_ := by
  have effect : Local.Effect s id (pushAll base segments) before _ _ :=
    Local.download_cases (PathText.back_pushAll base named some_)
  generalize s.download before id (pushAll base segments) = done at effect ⊢
  generalize done.1.result = result at effect
  cases effect with
  | failed _ leaves => exact leaves at_
  | saved extension leaves _ _ leads new =>
    obtain ⟨located, _⟩ := m.location (e.trans extension) named leads
    exact (new.leaves at_ (located ▸ other)).trans (leaves at_)

/-- The folders that a download makes lie on the way to its location. -/
theorem download_folders (e : Extends fs before) (named : ∀ n ∈ segments, IsName n)
    (some_ : segments ≠ []) {at_ : Location}
    (folder : (s.download before id (pushAll base segments)).2.tree.isFolder at_ = true) :
    before.tree.isFolder at_ = true ∨ ∃ inner, inner <+: names ++ segments.dropLast ∧
      at_ = Location.down (.text name :: there) inner := by
  have made : ∀ {after : FileSystem},
      Relation.ReflTransGen (Local.MakesAbove (pushAll base segments)) before after →
      after.tree.isFolder at_ = true → before.tree.isFolder at_ = true ∨
        ∃ inner, inner <+: names ++ segments.dropLast ∧
          at_ = Location.down (.text name :: there) inner := by
    intro after steps kind
    induction steps with
    | refl => exact .inl kind
    | tail steps step ih =>
      obtain ⟨text, above, done⟩ := step
      obtain ⟨extension, _⟩ := Local.makesAbove_leaves steps
      obtain ⟨inner, short, new⟩ := m.newFolder (e.trans extension) named some_ above done
      rcases new.folders at_ kind with rfl | old
      · exact .inr ⟨inner, short, rfl⟩
      · exact ih old
  have along := Local.makeParents_steps before (pushAll base segments)
  unfold Local.download at folder
  split at folder
  · exact .inl folder
  · split at folder
    · next e mid stopped =>
      rw [stopped] at along
      exact made along folder
    · next mid passed =>
      rw [passed] at along
      split at folder
      · exact made along folder
      · next copied done =>
        obtain ⟨_, _, _, _, _, _, new⟩ :=
          copyFile_newContent (PathText.back_pushAll base named some_) done
        rw [new.folders] at folder
        exact made along folder

/-- A download that succeeds leaves the bytes of its source at its own location, and its path leads
there. The source was there before the first download. -/
theorem download_saved (e : Extends fs before) (named : ∀ n ∈ segments, IsName n)
    (some_ : segments ≠ []) (source : s.LeadsToFile fs id origin held)
    (kept : before.tree.leaf? held = fs.tree.leaf? held)
    (succeeds : (s.download before id (pushAll base segments)).1.result = .ok ()) :
    let after := (s.download before id (pushAll base segments)).2
    let target := Location.down (.text name :: there) (names ++ segments)
    after.resolve (pushAll base segments) = .ok (.entry target) ∧
      ∃ bytes t, s.bytes? fs id = some bytes ∧
        after.tree.leaf? target = some (.file bytes t) := by
  intro after target
  have effect : Local.Effect s id (pushAll base segments) before after _ :=
    Local.download_cases (PathText.back_pushAll base named some_)
  rw [succeeds] at effect
  cases effect with
  | @saved mid segments' text held' content t place extension leaves opened found leads new =>
    obtain ⟨located, fits⟩ := m.location (e.trans extension) named leads
    have located : place.location = target := located
    rw [located] at new
    have later := source.extend (e.trans extension)
    obtain ⟨cut, rfl⟩ := Local.resolve_eq_ok.1 opened
    obtain rfl : origin = segments' := Option.some.inj (later.cut.symm.trans cut)
    obtain ⟨bytes, t', read⟩ := later.found
    obtain ⟨⟨rfl, rfl⟩, rfl⟩ : (held = held' ∧ bytes = content) ∧ t' = t := by
      simpa [and_assoc] using read.symm.trans found
    have original := (leaves held).symm.trans (leaf?_of_stat found) |>.symm.trans kept
    have apart : held ≠ target := by
      rintro rfl
      exact m.not_below (Tree.leaf?_eq_some.1 original.symm).1 (Location.suffix_down _ _)
    rw [if_neg apart] at new
    obtain ⟨time, written⟩ := new.written
    have solid : after.tree.Solid target :=
      ⟨_, (Tree.leaf?_eq_some.1 written).1, fun _ => by simp⟩
    have usable := ((e.trans extension).checkText _).symm.trans (resolve_eq_ok.1 leads).1
    refine ⟨m.resolves ((e.trans extension).trans new.extension) named some_ usable fits solid,
      bytes, time, ?_, written⟩
    rw [source.bytes?_eq]
    exact Tree.bytes?_of_leaf? original.symm

/-- From the folder in which the free name lies, a path below the missing one leads on. -/
theorem leadsOn (e : Extends fs before) (named : ∀ n ∈ segments, IsName n)
    (some_ : segments ≠ []) (fits : fs.fits (pushAll base segments) = true) :
    ∃ init way, parts (pushAll base segments) = init ++
      (name :: way ++ [segments.getLast some_]) ∧
      stem base ++ segments.dropLast = init ++ name :: way ∧
      leading (name :: way) = name :: names ++ segments.dropLast ∧
      LeadsOn before (pushAll base segments) init there
        (name :: way ++ [segments.getLast some_]) := by
  obtain ⟨init, rest, left, cut, rfl, reached⟩ := m.reached
  have front : ∀ n ∈ segments.dropLast, IsName n := fun n present =>
    named n (List.dropLast_subset _ present)
  have whole : rest ++ segments = rest ++ segments.dropLast ++ [segments.getLast some_] := by
    rw [List.append_assoc, List.dropLast_append_getLast]
  have all : parts (pushAll base segments) =
      init ++ (name :: (rest ++ segments.dropLast) ++ [segments.getLast some_]) := by
    rw [PathText.parts_pushAll base named some_, cut, List.append_assoc, List.cons_append, whole]
    rfl
  refine ⟨init, rest ++ segments.dropLast, all, ?_, ?_, ?_⟩
  · rw [cut, List.append_assoc, List.cons_append]
  · rw [leading_cons_of_moves _ m.looks.stays, leading_append, leading_of_isName front]
    rfl
  · refine ⟨⟨left, ?_⟩, isFolder_kept e.kept m.looks.folder, fun part present => ?_,
      fun part present => ?_⟩
    · rw [e.limits, e.current, start_pushAll named some_]
      exact followLeft_kept e.kept reached
    · have inside : part ∈ name :: rest ++ segments := by
        rw [List.cons_append, whole]
        exact present
      rcases List.mem_append.1 inside with above | below
      · exact m.falls part (cut ▸ List.mem_append_right _ above)
      · exact (named part below).falls
    · rw [e.limits]
      refine (fits_iff.1 fits).2 part ?_
      rw [all, leading_append]
      exact List.mem_append_right _ present

/-- The folders above a path below the missing one can be made, if nothing on the way is something
else. -/
theorem makeParents_ok (e : Extends fs before) (named : ∀ n ∈ segments, IsName n)
    (some_ : segments ≠ []) (fits : fs.fits (pushAll base segments) = true)
    (passable : Passable before.tree there (name :: names ++ segments.dropLast)) :
    ∃ made, Local.makeParents before (pushAll base segments) = (.ok (), made) ∧
      Passed before (PathText.parents (pushAll base segments)) there
        (name :: names ++ segments.dropLast) made := by
  obtain ⟨init, way, all, above, moves, leads⟩ := m.leadsOn e named some_ fits
  have usable := (e.checkText _).trans (fits_iff.1 fits).1
  have beginning : init ++ name :: way <+: parts (pushAll base segments) := by
    rw [all, ← List.append_assoc]
    exact List.prefix_append _ _
  have top : ∀ root, root = (if (pushAll base segments).front = '/' then "/" else "") →
      root = "" ∨ before.isFolder root = true := by
    rintro root rfl
    split
    · next slash => exact .inr (isFolder_slash slash usable)
    · exact .inl rfl
  obtain ⟨made, passed⟩ := leads.beginning.makeFoldersAlong_ok usable m.looks.stays beginning
    (by rwa [moves]) (top _ rfl)
  rw [moves, ← above, ← PathText.parents_pushAll base named some_] at passed
  refine ⟨made, ?_, passed⟩
  rw [Local.makeParents]
  have texts := PathText.parents_pushAll base named some_
  cases listed : PathText.parents (pushAll base segments) with
  | nil =>
    rw [listed] at passed
    cases passed.done
  | cons text rest =>
    have higher := PathText.parents_along (above ▸ beginning) (texts.symm.trans listed)
    rw [listed] at passed
    simp only [List.head?_cons, makeFolders, higher, passed.done]
    rfl

/-- A file can be downloaded below the missing path, if nothing on the way is something else than a
folder and nothing is at its own location. -/
theorem download_succeeds (e : Extends fs before) (named : ∀ n ∈ segments, IsName n)
    (some_ : segments ≠ []) (fits : fs.fits (pushAll base segments) = true)
    (passable : Passable before.tree there (name :: names ++ segments.dropLast))
    (vacant : before.tree.node? (Location.down (.text name :: there) (names ++ segments)) = none)
    (source : s.LeadsToFile before id origin held) :
    (s.download before id (pushAll base segments)).1.result = .ok () := by
  obtain ⟨made, parents, passed⟩ := m.makeParents_ok e named some_ fits passable
  obtain ⟨init, way, all, _, moves, leads⟩ :=
    m.leadsOn (e.trans passed.extension) named some_ fits
  have last := named _ (List.getLast_mem some_)
  have below : there.down (name :: names ++ segments) =
      .text (segments.getLast some_) :: there.down (name :: names ++ segments.dropLast) := by
    rw [← Location.down_concat, List.append_assoc, List.dropLast_append_getLast]
  have free : made.tree.node? (.text (segments.getLast some_) ::
      there.down (name :: names ++ segments.dropLast)) = none := by
    rw [← below]
    refine passed.free _ (fun inner inside same => ?_) vacant
    have longer := inside.length_le
    rw [← Location.down_inj.1 same] at longer
    have filled := List.length_pos_iff.2 some_
    simp at longer
    omega
  have opens : made.resolve (pushAll base segments) =
      .ok (.vacancy (there.down (name :: names ++ segments.dropLast))
        (.text (segments.getLast some_))) := by
    refine resolve_eq_ok.2
      ⟨((e.trans passed.extension).checkText _).trans (fits_iff.1 fits).1, ?_⟩
    rw [all, ← moves]
    exact leads.follow_vacant last.stays (moves ▸ passed.folder) (moves ▸ free)
  obtain ⟨content, t, found⟩ := (source.extend passed.extension).found
  obtain ⟨after, copied⟩ :=
    copyFile_of_vacancy (PathText.back_pushAll base named some_) found opens
  rw [Local.download, Local.resolve_eq_ok.2 ⟨source.cut, rfl⟩]
  simp only [parents, copied]

end Missing

theorem Stuck.download_fails (stuck : Stuck fs base) (named : ∀ n ∈ segments, IsName n)
    (some_ : segments ≠ []) :
    (s.download fs id (pushAll base segments)).1.result ≠ .ok () := by
  intro succeeds
  unfold Local.download at succeeds
  split at succeeds
  · cases succeeds
  · split at succeeds
    · cases succeeds
    · next mid along =>
      have steps := Local.makeParents_steps fs (pushAll base segments)
      rw [along] at steps
      have same : mid = fs := by
        refine stuck.unchanged (Relation.ReflTransGen.mono ?_ _ _ steps)
        rintro before after ⟨text, above, done⟩
        exact .folder named some_ above done
      subst same
      split at succeeds
      · cases succeeds
      · next copied done => exact stuck.not_writes (.file named some_ done)

/-- A download to a path that does not climb succeeds only if the path fits. -/
theorem fits_of_download {path : String}
    (falls : ∀ part ∈ parts path, PathText.climbs part = false)
    (named : path.back ≠ '/') (succeeds : (s.download fs id path).1.result = .ok ()) :
    fs.fits path = true := by
  have effect : Local.Effect s id path fs _ _ := Local.download_cases named
  rw [succeeds] at effect
  cases effect with
  | saved extension _ _ _ leads _ =>
    rw [← extension.fits]
    exact fits_of_resolve falls leads

end TreeFetch.FileSystem
