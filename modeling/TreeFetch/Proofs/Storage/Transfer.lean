import Mathlib
import TreeFetch.Proofs.FileSystem.Child
import TreeFetch.Proofs.FileSystem.Parents
import TreeFetch.Proofs.Storage.Download
import TreeFetch.Proofs.Storage.Spelling

/-!
# What one download does to the file system

A download makes the missing folders above its destination, one after the other, and then it copies
one file. Whether it can do so, and what the source and the destination are, is decided by the file
system in which the folders are there. Apart from the destination nothing changes, but that the
folders are new, and that a folder in which something is new has another time. A download that fails
has at most made folders.

Results:
1. `FileSystem.spares_of_makes` and `FileSystem.spares_of_copy`: what making folders and copying
   leave alone.
2. `Local.download_eq_ok_iff`: when a download succeeds.
3. `Local.download_delivers`: what it does, if it succeeds and if it fails.
-/

namespace TreeFetch.FileSystem

open PathText (IsName parents parts pushAll push stem along ofSegments isIdle)

variable {fs before mid made after : FileSystem} {base path source target name : String}
    {names : List String}
  {texts way : List String} {at_ dir folder : Location} {label : Name} {node : Node} {place : Place}

/-! ## What is left alone -/

/-- A folder for one of the texts is new at a location. -/
structure IsNew (texts : List String) (before after : FileSystem) (at_ : Location) : Prop where
  free : before.tree.node? at_ = none
  folder : after.tree.isFolder at_ = true
  named : ∃ text ∈ texts, after.locate? text = some at_

/-- Something is new in a folder, which may have another time for that. -/
structure Gains (before after : FileSystem) (at_ : Location) : Prop where
  was : before.tree.isFolder at_ = true
  remains : after.tree.isFolder at_ = true
  entry : ∃ label, before.tree.node? (label :: at_) = none ∧
    after.tree.node? (label :: at_) ≠ none

/-- Nothing changes at a location, but that folders for the texts are new and that something is new
in a folder. -/
inductive Spares (texts : List String) (before after : FileSystem) (at_ : Location) : Prop
  | same (unchanged : after.tree.node? at_ = before.tree.node? at_)
  | folder (new : IsNew texts before after at_)
  | gains (more : Gains before after at_)

theorem Extends.still (e : Extends before after) (there : before.tree.node? at_ ≠ none) :
    after.tree.node? at_ ≠ none := by
  intro gone
  obtain ⟨node, found⟩ := Option.ne_none_iff_exists'.1 there
  have still := e.kept _ _ (Tree.shape?_of_node? found)
  simp [Tree.shape?, gone] at still

namespace Spares

theorem step (h : Spares texts before mid at_) (e : Extends mid after)
    (same : after.tree.node? at_ = mid.tree.node? at_) : Spares texts before after at_ := by
  cases h with
  | same unchanged => exact .same (same.trans unchanged)
  | folder new =>
    obtain ⟨text, present, located⟩ := new.named
    exact .folder ⟨new.free, isFolder_kept e.kept new.folder, text, present, e.locate? located⟩
  | gains more =>
    obtain ⟨label, free, there⟩ := more.entry
    exact .gains ⟨more.was, isFolder_kept e.kept more.remains, label, free, e.still there⟩

/-- A folder in which something is made gains it, unless it is new itself. -/
theorem gain (h : Spares texts before mid folder) (upper : Extends before mid)
    (e : Extends mid after)
    (vacant : mid.tree.Vacant folder label) (there : after.tree.node? (label :: folder) ≠ none) :
    Spares texts before after folder := by
  have remains := isFolder_kept e.kept vacant.held
  cases h with
  | same unchanged =>
    refine .gains ⟨?_, remains, label, ?_, there⟩
    · rw [Tree.isFolder, ← unchanged]
      exact vacant.held
    · by_contra old
      exact upper.still old vacant.free
  | folder new =>
    obtain ⟨text, present, located⟩ := new.named
    exact .folder ⟨new.free, remains, text, present, e.locate? located⟩
  | gains more =>
    obtain ⟨label', free, old⟩ := more.entry
    exact .gains ⟨more.was, remains, label', free, e.still old⟩

/-- What is made changes nothing but its own location and the folder that holds it. -/
theorem create (h : Spares texts before mid at_) (upper : Extends before mid)
    (vacant : mid.tree.Vacant folder label) (kind : ∀ target, node ≠ .link target)
    (other : at_ ≠ label :: folder) : Spares texts before (mid.create folder label node) at_ := by
  have e := extends_create vacant kind
  by_cases holds : at_ = folder
  · subst holds
    exact h.gain upper e vacant (by simp [(node?_create vacant node).1])
  · refine h.step e ?_
    simp [FileSystem.create, advance, Tree.touch, Tree.node?_update,
      Tree.node?_add vacant, other, holds]

theorem node?_eq {content : ByteArray} {t : Time} (h : Spares texts before after at_)
    (file : before.tree.node? at_ = some (.file content t)) :
    after.tree.node? at_ = before.tree.node? at_ := by
  cases h with
  | same unchanged => exact unchanged
  | folder new => cases new.free.symm.trans file
  | gains more => simpa [Tree.isFolder, file, Node.isFolder] using more.was

theorem file_before {content : ByteArray} {t : Time} (h : Spares texts before after at_)
    (file : after.tree.node? at_ = some (.file content t)) :
    before.tree.node? at_ = some (.file content t) := by
  cases h with
  | same unchanged => exact unchanged.symm.trans file
  | folder new => simpa [Tree.isFolder, file, Node.isFolder] using new.folder
  | gains more => simpa [Tree.isFolder, file, Node.isFolder] using more.remains

end Spares

theorem spares_of_makes (steps : Relation.ReflTransGen (Makes texts) before after)
    (at_ : Location) : Spares texts before after at_ := by
  induction steps with
  | refl => exact .same rfl
  | @tail mid after steps step ih =>
    have upper := extends_of_makes steps
    obtain ⟨text, present, done⟩ := step
    obtain ⟨folder, label, free, new⟩ := makeFolder_newFolder done
    obtain ⟨folder', label', free', rfl⟩ := makeFolder_eq_ok.1 done
    obtain ⟨rfl, rfl⟩ : folder = folder' ∧ label = label' := by
      simpa using free.symm.trans free'
    have vacant := follow_vacancy (slashFree_stripped text) (resolveLast_eq_ok.1 free).2
    by_cases here : at_ = label :: folder
    · subst here
      refine .folder ⟨?_, ?_, text, present, locate?_eq_some.2 new.leads⟩
      · by_contra old
        exact upper.still old vacant.free
      · simp [Tree.isFolder, (node?_create vacant _).1, Node.isFolder]
    · exact ih.create upper vacant (by simp) here

theorem node?_overwrite (bytes : ByteArray) {spot : Location} (other : at_ ≠ spot) :
    (fs.overwrite spot bytes).tree.node? at_ = fs.tree.node? at_ := by
  simp [overwrite, advance, Tree.write, Tree.node?_update, other]

theorem copyFile_opens (done : fs.copyFile source target = .ok after) :
    ∃ spot opened, fs.openFile target = .ok (spot, opened) ∧ Extends opened after ∧
      ∀ at_, at_ ≠ spot → after.tree.node? at_ = opened.tree.node? at_ := by
  obtain ⟨_, _, _, spot, opened, _, opening, written⟩ := copyFile_cases done
  refine ⟨spot, opened, opening, ?_⟩
  rcases written with ⟨read, _, _, rfl⟩ | ⟨_, rfl⟩
  · exact ⟨extends_overwrite.trans extends_overwrite,
      fun at_ other => (node?_overwrite read other).trans (node?_overwrite .empty other)⟩
  · exact ⟨extends_overwrite, fun at_ other => node?_overwrite .empty other⟩

/-- After folders were made, a copy spares all locations but the one where its target leads. -/
theorem spares_of_copy (upper : Extends before mid) (spared : ∀ at_, Spares texts before mid at_)
    (named : target.back ≠ '/') (leads : mid.resolve target = .ok place)
    (done : mid.copyFile source target = .ok after) (other : at_ ≠ place.location) :
    Spares texts before after at_ := by
  obtain ⟨spot, opened, opening, e, elsewhere⟩ := copyFile_opens done
  rcases openFile_leads named opening with ⟨leads', rfl, _⟩ |
    ⟨folder, label, leads', rfl, rfl⟩
  · obtain rfl := Except.ok.inj (leads.symm.trans leads')
    exact (spared at_).step e (elsewhere at_ other)
  · obtain rfl := Except.ok.inj (leads.symm.trans leads')
    have made : Spares texts before (mid.create folder label (.file .empty mid.clock)) at_ :=
      (spared at_).create upper (vacant_of_resolve leads) (by simp) other
    exact made.step e (elsewhere at_ other)

/-! ## Where a destination leads -/

def IsLink (fs : FileSystem) (path : String) : Prop :=
  ∃ at_ target, fs.resolveLast path = .ok (.entry at_) ∧ fs.tree.node? at_ = some (.link target)

/-- A path to a name in a folder leads to the name, unless it names a link. -/
theorem resolve_push_cases (named : IsName name) (denotes : fs.directory? base = some dir)
    (folder : fs.tree.isFolder dir = true) (allowed : fs.Allows (push base name))
    (direct : ¬fs.IsLink (push base name)) :
    fs.resolve (push base name) = .ok (.vacancy dir (.text name)) ∨
      fs.resolve (push base name) = .ok (.entry (.text name :: dir)) := by
  cases there : fs.tree.node? (.text name :: dir) with
  | none => exact .inl (resolve_push_vacant named denotes folder allowed there)
  | some node =>
    have last := resolveLast_push_child named denotes folder allowed there
    have real : ∀ text, node ≠ .link text := by
      rintro text rfl
      exact direct ⟨_, text, last, there⟩
    exact .inr
      ((resolve_pushAll_iff (List.forall_mem_singleton.2 named) (List.cons_ne_nil name []) denotes
      ⟨node, there, real⟩).2 allowed)

/-- Where the folders on the way are there, the way leads to a folder. -/
theorem follow_of_open {root : String} (usable : fs.checkText path = .ok ())
    (beginning : way <+: parts path) (begins : fs.tree.isFolder (start path fs.current) = true)
    (all : ∀ text ∈ along root way, fs.IsOpen text) :
    ∃ at_, follow fs.tree fs.limits.nameBytes true fs.limits.links (start path fs.current) way =
      .ok (.entry at_) ∧ fs.tree.isFolder at_ = true := by
  induction way using List.reverseRecOn with
  | nil => exact ⟨_, by rw [follow_eq]; rfl, begins⟩
  | append_singleton way part ih =>
    cases moves : isIdle part with
    | false =>
      have filled := ofSegments_ne_empty moves beginning
      rw [PathText.along_concat_of_moves root moves] at all
      obtain ⟨at_, leads, folder⟩ :=
        isFolder_eq_true.1 ((all _ (List.mem_cons_self ..)).resolve_left filled)
      obtain ⟨cut, _, same⟩ := usable_beginning filled beginning usable
      have followed := (resolve_eq_ok.1 leads).2
      rw [cut, same] at followed
      exact ⟨at_, followed, folder⟩
    | true =>
      have fewer : ∀ text ∈ along root way, fs.IsOpen text := by
        intro text present
        refine all text ?_
        simp only [along, PathText.beginnings_append, List.reverse_append, List.map_append,
          List.append_assoc]
        exact List.mem_append_right _ present
      obtain ⟨at_, leads, folder⟩ := ih ((List.prefix_append way [part]).trans beginning) fewer
      obtain ⟨left, reached⟩ := follow_eq_ok.1 leads
      refine ⟨at_, ?_, folder⟩
      rw [follow_append (List.cons_ne_nil part []), reached]
      simp only
      rw [follow_eq, descend_idle folder moves]
      rfl

namespace Prepared

theorem extension (h : Prepared path before made) : Extends before made := extends_of_makes h.steps

/-- The directory of a destination denotes a folder once the folders above the destination are
there. -/
theorem directory? (h : Prepared (pushAll base (names ++ [name])) before made)
    (named : ∀ n ∈ names ++ [name], IsName n)
    (usable : made.checkText (pushAll base (names ++ [name])) = .ok ()) :
    ∃ dir, made.directory? (pushAll base names) = some dir ∧ made.tree.isFolder dir = true := by
  have some_ : names ++ [name] ≠ [] := by simp
  have upper : ∀ n ∈ names, IsName n :=
    fun n present => named n (List.mem_append_left _ present)
  have last : ∀ n ∈ [name], IsName n :=
    fun n present => named n (List.mem_append_right _ present)
  have texts := PathText.parents_pushAll base named some_
  rw [List.dropLast_concat] at texts
  have beginning : stem base ++ names <+: parts (pushAll base (names ++ [name])) := by
    rw [PathText.parts_pushAll base named some_, ← List.append_assoc]
    exact List.prefix_append _ _
  obtain ⟨at_, leads, folder⟩ := follow_of_open usable beginning h.begins (texts ▸ h.all)
  obtain ⟨left, reached⟩ := follow_eq_ok.1 leads
  have longer : pushAll base (names ++ [name]) = pushAll (pushAll base names) [name] := by
    simp [pushAll]
  rw [longer, start_pushAll last (List.cons_ne_nil name []), ← PathText.stem_pushAll base
    upper] at reached
  refine ⟨at_, directory?_of_stem (fun filled => ?_) folder reached, folder⟩
  obtain ⟨more, same⟩ := pushAll_eq_append (pushAll base names) [name]
  rw [longer, same] at usable
  exact checkText_of_append filled usable

end Prepared

end TreeFetch.FileSystem

namespace TreeFetch.Storage.Local

open FileSystem PathText

variable {s : Local} {fs before made after : FileSystem} {id base text path : String}
  {segments names : List String} {at_ held place : Location} {content : ByteArray}

/-! ## One download -/

/-- The folders above a path can be made exactly if making the missing ones one after the other
leads to where all of them are there. -/
theorem makeParents_eq_ok :
    makeParents fs path = (.ok (), made) ↔
    Relation.ReflTransGen (Makes (parents path)) fs made ∧
      ∀ text ∈ parents path, made.IsOpen text := by
  unfold makeParents
  cases listed : parents path with
  | nil =>
    simp only [List.head?_nil, Prod.mk.injEq, true_and]
    refine ⟨?_, fun steps => (eq_of_isOpen steps.1 (List.forall_mem_nil _)).symm⟩
    rintro rfl
    exact ⟨.refl, List.forall_mem_nil _⟩
  | cons parent rest =>
    have folders : fs.makeFolders parent = (.ok (), made) ↔ _ := makeFolders_of_parents listed
    rw [listed] at folders
    rw [← folders, List.head?_cons]
    simp only
    cases fs.makeFolders parent with
    | mk result after =>
      cases result with
      | ok _ => simp [Except.mapError]
      | error fault => simp [Except.mapError]

/-- A download that succeeds has made the folders above its destination, and then it has copied its
source. -/
theorem Course.prepared (h : Course s id path fs after (.ok ())) (named : path.back ≠ '/') :
    ∃ made segments, Prepared path fs made ∧ segments? id = some segments ∧
      made.copyFile (pushAll s.root segments) path = .ok after := by
  cases h with
  | @copied segments source made after opened along done =>
    obtain ⟨cut, rfl⟩ := resolve_eq_ok.1 opened
    obtain ⟨steps, all⟩ := makeParents_eq_ok.1 along
    obtain ⟨_, _, _, place, _, leads, _⟩ := copyFile_newContent named done
    have begins := isFolder_of_follow (parts_ne_nil path) (FileSystem.resolve_eq_ok.1 leads).2
    exact ⟨made, segments, ⟨steps, all, begins⟩, cut, done⟩

theorem prepared_of_download (named : path.back ≠ '/')
    (ok : (s.download fs id path).1.result = .ok ()) :
    ∃ made segments, Prepared path fs made ∧ segments? id = some segments ∧
      made.copyFile (pushAll s.root segments) path = .ok (s.download fs id path).2 := by
  have course : Course s id path fs (s.download fs id path).2 _ := download_course
  rw [ok] at course
  exact course.prepared named

/-- A download of which the folders are made and the source is copied succeeds. -/
theorem download_of_prepared (prepared : Prepared path fs made) (cut : segments? id = some segments)
    (done : made.copyFile (pushAll s.root segments) path = .ok after) :
    (s.download fs id path).1.result = .ok () :=
  (download_copies (resolve_eq_ok.2 ⟨cut, rfl⟩)
    (makeParents_eq_ok.2 ⟨prepared.steps, prepared.all⟩) done).1

/-- The last name of a destination is looked up in a folder, once the folders above are there. -/
theorem exists_dir_of_prepared (aims : destination base text = .ok path)
    (prepared : Prepared path fs made) (allowed : made.Allows path) :
    ∃ upper name dir, path = push upper name ∧ IsName name ∧
      made.directory? upper = some dir ∧
      made.tree.isFolder dir = true := by
  obtain ⟨names, cut, some_, rfl⟩ := destination_eq_ok.1 aims
  have named := isName_of_segments? cut
  obtain ⟨init, name, rfl⟩ := List.eq_nil_or_concat names |>.resolve_left some_
  rw [List.concat_eq_append] at prepared allowed named ⊢
  obtain ⟨dir, denotes, folder⟩ := prepared.directory? named allowed.usable
  exact ⟨_, name, dir, pushAll_concat base init name, named name (by simp), denotes, folder⟩

/-- A download succeeds exactly if the folders above its destination are there or can be made, and
then the id leads to a file, the operating system allows the destination, and the destination is no
folder. -/
theorem download_eq_ok_iff (aims : destination base text = .ok path)
    (direct : ∀ made, Prepared path fs made → ¬made.IsLink path) :
    (s.download fs id path).1.result = .ok () ↔ ∃ made, Prepared path fs made ∧
      (∃ segments held, s.LeadsToFile made id segments held) ∧ made.Allows path ∧
      made.isFolder path = false := by
  have named := back_of_destination aims
  constructor
  · intro ok
    obtain ⟨made, segments, prepared, cut, done⟩ := prepared_of_download named ok
    obtain ⟨held, content, t, place, found, leads, new⟩ := copyFile_newContent named done
    refine ⟨made, prepared, ⟨segments, held, cut, content, t, found⟩,
      allows_of_resolve leads, ?_⟩
    rw [← Bool.not_eq_true, isFolder_eq_true]
    rintro ⟨at_, leads', folder⟩
    obtain rfl := Except.ok.inj (leads.symm.trans leads')
    have still := new.extension.kept _ _ (Tree.isFolder_iff.1 folder)
    cases new.file.symm.trans still
  · rintro ⟨made, prepared, ⟨segments, held, source⟩, allowed, shut⟩
    obtain ⟨content, t, found⟩ := source.found
    obtain ⟨upper, name, dir, rfl, isName, denotes, folder⟩ :=
      exists_dir_of_prepared aims prepared allowed
    rcases resolve_push_cases isName denotes folder allowed (direct made prepared) with free | there
    · obtain ⟨after, done⟩ := copyFile_of_vacancy named found free
      exact download_of_prepared prepared source.cut done
    · have other : made.tree.isFolder (.text name :: dir) = false := by
        rw [← Bool.not_eq_true] at shut ⊢
        exact fun kind => shut (isFolder_eq_true.2 ⟨_, there, kind⟩)
      obtain ⟨after, done⟩ := copyFile_of_resolve named found there other
      exact download_of_prepared prepared source.cut done

/-- A download has brought the bytes of its source to its destination. -/
structure Delivers (s : Local) (id path : String) (before made after : FileSystem)
    (held place : Location) (content : ByteArray) : Prop where
  /-- The missing folders above the destination have been made. -/
  prepared : Prepared path before made
  opened : ∀ text ∈ parents path, after.IsOpen text
  /-- Then the id leads to the source, which held the bytes before. -/
  source : ∃ segments, s.LeadsToFile made id segments held
  bytes : before.tree.bytes? held = some content
  /-- The destination is no link, and has the bytes, unless it is the source itself. -/
  named : after.resolveLast path = .ok (.entry place)
  located : after.locate? path = some place
  saved : after.tree.bytes? place = some (if held = place then .empty else content)
  kept : held ≠ place → after.tree.node? held = before.tree.node? held
  spared : ∀ at_, at_ ≠ place → Spares (parents path) before after at_

theorem delivers_of_download (aims : destination base text = .ok path)
    (direct : ∀ made, Prepared path fs made → ¬made.IsLink path)
    (ok : (s.download fs id path).1.result = .ok ()) :
    ∃ made held place content, s.Delivers id path fs made
      (s.download fs id path).2 held place content := by
  have back := back_of_destination aims
  obtain ⟨made, segments, prepared, cut, done⟩ := prepared_of_download back ok
  generalize (s.download fs id path).2 = after at done ⊢
  obtain ⟨held, content, t, place, found, leads, new⟩ := copyFile_newContent back done
  have e := new.extension
  have allowed := allows_of_resolve leads
  obtain ⟨upper, name, dir, rfl, named, denotes, folder⟩ :=
    exists_dir_of_prepared aims prepared allowed
  obtain location : place.location = .text name :: dir := by
    rcases resolve_push_cases named denotes folder allowed (direct made prepared) with free | there
    · rw [Except.ok.inj (leads.symm.trans free)]
      rfl
    · rw [Except.ok.inj (leads.symm.trans there)]
      rfl
  have spared : ∀ at_, at_ ≠ place.location →
      Spares (parents (push upper name)) fs after at_ := fun at_ =>
    spares_of_copy prepared.extension (spares_of_makes prepared.steps) back leads done
  have old := (spares_of_makes prepared.steps held).file_before (stat_eq_ok.1 found).2
  obtain ⟨time, written⟩ := new.written
  have there := (Tree.leaf?_eq_some.1 written).1
  rw [location] at spared there written
  have denotes' := e.directory? denotes
  have folder' := isFolder_kept e.kept folder
  have allowed' := e.allows_iff.2 allowed
  refine ⟨made, held, .text name :: dir, content, prepared, fun text upper =>
    e.isOpen (prepared.all text upper),
    ⟨segments, cut, content, t, found⟩, ?_, ?_, ?_, ?_, fun other =>
      (spared held other).node?_eq old, spared⟩
  · exact Tree.bytes?_of_leaf? (Tree.leaf?_eq_some.2 ⟨old, rfl⟩)
  · exact resolveLast_push_child named denotes' folder' allowed' there
  · exact locate?_eq_some.2 ((resolve_pushAll_iff (List.forall_mem_singleton.2 named)
      (List.cons_ne_nil name []) denotes' ⟨_, there, by simp⟩).2 allowed')
  · exact Tree.bytes?_of_leaf? written

/-- A download that fails has at most made folders above its destination. -/
theorem Course.spares {e : Error} (h : Course s id path fs after (.error e)) (at_ : Location) :
    Spares (parents path) fs after at_ := by
  cases h with
  | refused => exact .same rfl
  | failed => exact spares_of_makes (makes_of_makeParents fs path) at_

theorem spares_of_failed (fails : (s.download fs id path).1.result ≠ .ok ()) (at_ : Location) :
    Spares (parents path) fs (s.download fs id path).2 at_ := by
  have course : Course s id path fs (s.download fs id path).2 _ := download_course
  cases result : (s.download fs id path).1.result with
  | ok _ => exact absurd result fails
  | error e =>
    rw [result] at course
    exact course.spares at_

/-- What a download does to a destination that is no link once the missing folders above it are
there, which can be made in one way only. It succeeds exactly if they can be made, and then the id
leads to a file, the operating system allows the destination, and the destination is no folder. If
it succeeds, the destination has the bytes that the source held before, and the source still has
them, unless the two are one file; and nothing else changes, but that the missing folders are there,
and that a folder in which something is new may have another time. If it fails, nothing changes but
this, and nothing at all if the id climbs. -/
theorem download_delivers (aims : destination base text = .ok path)
    (direct : ∀ made, Prepared path fs made → ¬made.IsLink path) :
    ((s.download fs id path).1.result = .ok () ↔ ∃ made, Prepared path fs made ∧
      (∃ segments held, s.LeadsToFile made id segments held) ∧ made.Allows path ∧
      made.isFolder path = false) ∧
    ((s.download fs id path).1.result = .ok () → ∃ made held place content,
      s.Delivers id path fs made (s.download fs id path).2 held place content) ∧
    ((s.download fs id path).1.result ≠ .ok () →
      (∀ at_, Spares (parents path) fs (s.download fs id path).2 at_) ∧
      (".." ∈ pieces id → (s.download fs id path).2 = fs)) := by
  refine ⟨download_eq_ok_iff aims direct, delivers_of_download aims direct, fun fails => ?_⟩
  refine ⟨spares_of_failed fails, fun climbs => ?_⟩
  rw [(answers_of_refused (resolve_eq_error.2 ⟨rfl, climbs⟩) fs).2 path]

/-! ## Before and after the folders are made -/

/-- A storage with a file, a link that leads to it by way of a folder that is missing, and a link
out of the storage. -/
def crate : FileSystem where
  tree := FileSystem.Tree.empty
    |>.add [.text "s"] (.folder 1)
    |>.add [.text "a", .text "s"] (.file ⟨#[7]⟩ 2)
    |>.add [.text "l", .text "s"] (.link "/o/../s/a")
    |>.add [.text "k", .text "s"] (.link "/t")
    |>.add [.text "t"] (.file ⟨#[8]⟩ 3)

theorem leads_crate : LeadsToFile ⟨"/s"⟩ crate "a" ["a"] [.text "a", .text "s"] :=
  ⟨by decide, ⟨#[7]⟩, 2, by cbv⟩

def crateMade : FileSystem := crate.create [] (.text "o") (.folder 0)

theorem prepared_crate : Prepared "/o/f" crate crateMade where
  steps := .single ⟨"/o", by decide, makeFolder_eq_ok.2 ⟨[], .text "o", by cbv, rfl⟩⟩
  all := by
    have folders : crateMade.isFolder "/o" = true ∧ crateMade.isFolder "/" = true :=
      ⟨by cbv, by cbv⟩
    have texts : parents "/o/f" = ["/o", "/"] := by decide
    rw [texts]
    exact List.forall_mem_cons.2 ⟨.inr folders.1, List.forall_mem_singleton.2 (.inr folders.2)⟩
  begins := by cbv

theorem vacant_crate : crateMade.resolveLast "/o/f" = .ok (.vacancy [.text "o"] (.text "f")) ∧
    crateMade.resolve "/o/f" = .ok (.vacancy [.text "o"] (.text "f")) :=
  ⟨by cbv, by cbv⟩

/-- The missing folder is made and the file is copied into it; an id that climbs changes nothing. -/
theorem download_delivers_crate :
    let s : Local := ⟨"/s"⟩
    (destination "/o" "f" = .ok "/o/f" ∧ ∀ made, Prepared "/o/f" crate made →
      ¬made.IsLink "/o/f") ∧
      (s.download crate "a" "/o/f").1.result = .ok () ∧
      (∃ made held place content,
        s.Delivers "a" "/o/f" crate made (s.download crate "a" "/o/f").2 held place content) ∧
      (s.download crate "../a" "/o/f").2 = crate := by
  intro s
  have aims : destination "/o" "f" = .ok "/o/f" := by cbv
  have direct : ∀ made, Prepared "/o/f" crate made → ¬made.IsLink "/o/f" := by
    rintro made prepared ⟨at_, target, last, _⟩
    obtain rfl := prepared.unique prepared_crate
    cases vacant_crate.1.symm.trans last
  have shut : crateMade.isFolder "/o/f" = false := by
    rw [FileSystem.isFolder, stat, vacant_crate.2]
  obtain ⟨succeeds, delivers, _⟩ := @download_delivers s crate "a" _ _ _ aims direct
  have ok := succeeds.2 ⟨crateMade, prepared_crate,
    ⟨_, _, leads_crate.extend prepared_crate.extension⟩,
    allows_of_resolve vacant_crate.2, shut⟩
  have climbs : ".." ∈ pieces "../a" := by
    rw [← parts_eq_pieces]
    decide
  have refused : (s.download crate "../a" "/o/f").1.result ≠ .ok () := by
    simp [(answers_of_refused (resolve_eq_error.2 ⟨rfl, climbs⟩) crate).2 "/o/f"]
  exact ⟨⟨aims, direct⟩, ok, delivers ok,
    ((@download_delivers s crate "../a" _ _ _ aims direct).2.2 refused).2 climbs⟩

/-- Everything is there but the destination, which the operating system does not allow. -/
theorem download_crate_refused :
    (∀ text ∈ parents "/s/f\x00", crate.IsOpen text) ∧ ¬crate.IsLink "/s/f\x00" ∧
      crate.isFolder "/s/f\x00" = false ∧
      (Local.download ⟨"/s"⟩ crate "a" "/s/f\x00").1.result =
        .error (.fileOperation "/s/a" "download" Fault.nulInPath.message) := by
  have texts : parents "/s/f\x00" = ["/s", "/"] := by decide
  have folders : crate.isFolder "/s" = true ∧ crate.isFolder "/" = true := ⟨by cbv, by cbv⟩
  have refused : crate.resolveLast "/s/f\x00" = .error .nulInPath := by cbv
  refine ⟨?_, ?_, by cbv, by cbv⟩
  · rw [texts]
    exact List.forall_mem_cons.2 ⟨.inr folders.1, List.forall_mem_singleton.2 (.inr folders.2)⟩
  · rintro ⟨at_, target, last, _⟩
    cases refused.symm.trans last

/-- The link leads nowhere, but it leads to the file as soon as the folder on its way is made. -/
theorem download_crate_link : Local.place? ⟨"/s"⟩ crate "l" = none ∧
    (Local.download ⟨"/s"⟩ crate "l" "/o/f").1.result = .ok () :=
  ⟨by cbv, by cbv⟩

/-- The destination names nothing, but it names a link as soon as the folder on its way is made. -/
theorem download_crate_through : ¬crate.IsLink "/o/../s/k" ∧
    (Local.download ⟨"/s"⟩ crate "a" "/o/../s/k").1.result = .ok () ∧
    crate.tree.bytes? [.text "t"] = some ⟨#[8]⟩ ∧
    (Local.download ⟨"/s"⟩ crate "a" "/o/../s/k").2.tree.bytes?
      [.text "t"] = some ⟨#[7]⟩ := by
  refine ⟨?_, by cbv, by cbv, by cbv⟩
  have missing : crate.resolveLast "/o/../s/k" = .error .notFound := by cbv
  rintro ⟨at_, target, last, _⟩
  cases missing.symm.trans last

theorem download_crate_time : (Local.download ⟨"/s"⟩ crate "a" "/s/f").1.result = .ok () ∧
    (Local.download ⟨"/s"⟩ crate "a" "/s/f").2.tree.node? [.text "s"] ≠ crate.tree.node?
      [.text "s"] := by
  refine ⟨by cbv, ?_⟩
  have old : crate.tree.node? [.text "s"] = some (.folder 1) := by cbv
  have new : (Local.download ⟨"/s"⟩ crate "a" "/s/f").2.tree.node? [.text "s"] =
      some (.folder 0) := by cbv
  simp [old, new]

/-- Judged by what is there before the call, a download may fail that should succeed, since its
destination is not allowed; it may succeed although its id leads nowhere; it may write to a file
elsewhere although its destination is no link; and a folder changes that is there already, since it
has another time. -/
theorem download_misjudged_before :
    let s : Local := ⟨"/s"⟩
    ((∃ segments held, s.LeadsToFile crate "a" segments held) ∧
      destination "/s" "f\x00" = .ok "/s/f\x00" ∧
      (∀ text ∈ parents "/s/f\x00", crate.IsOpen text) ∧ ¬crate.IsLink "/s/f\x00" ∧
      crate.isFolder "/s/f\x00" = false ∧
      (s.download crate "a" "/s/f\x00").1.result ≠ .ok ()) ∧
    (s.place? crate "l" = none ∧ destination "/o" "f" = .ok "/o/f" ∧
      (s.download crate "l" "/o/f").1.result = .ok ()) ∧
    (destination "/o/../s" "k" = .ok "/o/../s/k" ∧ ¬crate.IsLink "/o/../s/k" ∧
      (s.download crate "a" "/o/../s/k").1.result = .ok () ∧
      crate.tree.bytes? [.text "t"] = some ⟨#[8]⟩ ∧
      (s.download crate "a" "/o/../s/k").2.tree.bytes? [.text "t"] = some ⟨#[7]⟩) ∧
    (destination "/s" "f" = .ok "/s/f" ∧ (s.download crate "a" "/s/f").1.result = .ok () ∧
      (s.download crate "a" "/s/f").2.tree.node? [.text "s"] ≠ crate.tree.node? [.text "s"]) := by
  obtain ⟨open_, direct, shut, fails⟩ := download_crate_refused
  obtain ⟨nowhere, copied⟩ := download_crate_link
  exact ⟨⟨⟨_, _, leads_crate⟩, by cbv, open_, direct, shut, by simp [fails]⟩,
    ⟨nowhere, by cbv, copied⟩,
    ⟨by cbv, download_crate_through⟩, by cbv, download_crate_time⟩

end TreeFetch.Storage.Local
