import TreeFetch.Proofs.Destination
import TreeFetch.Proofs.FileSystem.Writes
import TreeFetch.Storage.Local

/-!
# What a download does

A download to a destination below a directory makes the folders above the destination, and then it
copies one file.

Results:
1. `Local.download_course`: the course of a download.
2. `Local.download_steps`: a download consists of writes below the directory of its destination.
3. `Local.download_cases`: a download that fails changes no file and no link, and one that succeeds
   changes the file that its destination leads to, and no other.
4. `Local.download_of_resolve`: a download succeeds if its source is a file and its destination
   leads to one already.
-/

namespace TreeFetch

open FileSystem PathText

namespace Storage.Local

variable {s : Local} {fs : FileSystem} {id base text path : String}

/-! ## The folders above a destination -/

theorem makeFolder_named {made : FileSystem} (h : fs.makeFolder path = .ok made) :
    path ≠ "" ∧ path ≠ "/" := by
  obtain ⟨folder, name, leads, _⟩ := makeFolder_eq_ok.1 h
  obtain ⟨usable, followed⟩ := resolveLast_eq_ok.1 leads
  constructor
  · rintro rfl
    simp [checkText] at usable
  · rintro rfl
    have root : ((parts "/").reverse.dropWhile (· = "")).reverse = [] := by decide
    rw [root, follow_eq] at followed
    cases followed

theorem makes_of_makeParents (fs : FileSystem) (path : String) :
    Relation.ReflTransGen (Makes (parents path)) fs (makeParents fs path).2 := by
  unfold makeParents
  cases listed : parents path with
  | nil => exact .refl
  | cons parent rest =>
    have steps := makeFoldersAlong_steps (parent :: parents parent) fs
    rw [parents_cons listed] at steps
    simpa only [List.head?_cons, makeFolders, parents_cons listed] using steps

def MakesAbove (path : String) (before after : FileSystem) : Prop :=
  ∃ text, IsAbove path text ∧ before.makeFolder text = .ok after

theorem makeParents_steps (fs : FileSystem) (path : String) :
    Relation.ReflTransGen (MakesAbove path) fs (makeParents fs path).2 := by
  refine Relation.ReflTransGen.mono ?_ _ _ (makes_of_makeParents fs path)
  rintro before after ⟨text, above, done⟩
  obtain ⟨filled, deeper⟩ := makeFolder_named done
  exact ⟨text, (mem_parents above).resolve_left filled |>.resolve_left fun root =>
    deeper root.1, done⟩

theorem makesAbove_leaves {after : FileSystem}
    (steps : Relation.ReflTransGen (MakesAbove path) fs after) :
    Extends fs after ∧ ∀ place, after.tree.leaf? place = fs.tree.leaf? place := by
  induction steps with
  | refl => exact ⟨.refl fs, fun _ => rfl⟩
  | tail _ step ih =>
    obtain ⟨text, _, done⟩ := step
    obtain ⟨_, _, _, new⟩ := makeFolder_newFolder done
    exact ⟨ih.1.trans new.extension, fun place => (new.leaves place).trans (ih.2 place)⟩

/-! ## Downloads -/

/-- The course of a download: its id is refused and nothing is done, or it fails when folders have
been made, or it makes the folders above its destination and copies its source. -/
inductive Course (s : Local) (id path : String) (before : FileSystem) :
    FileSystem → Except Error Unit → Prop
  | refused {e : Error} : s.resolve id = .error e → Course s id path before before (.error e)
  | failed {e : Error} : Course s id path before (makeParents before path).2 (.error e)
  | copied {segments : List String} {source : String} {made after : FileSystem} :
      s.resolve id = .ok (segments, source) → makeParents before path = (.ok (), made) →
      made.copyFile source path = .ok after → Course s id path before after (.ok ())

theorem download_course :
    Course s id path fs (s.download fs id path).2 (s.download fs id path).1.result := by
  unfold download
  split
  · next e refused => exact .refused refused
  · next segments source opened =>
    split
    · next e made along =>
      have failed : Course s id path fs (makeParents fs path).2 (.error e) := .failed
      rwa [along] at failed
    · next made along =>
      split
      · next fault _ =>
        have failed : Course s id path fs (makeParents fs path).2
            (.error (.fileOperation source "download" fault.message)) := .failed
        rwa [along] at failed
      · next after done => exact .copied opened along done

/-- A download that makes the folders above its destination and copies its source succeeds. -/
theorem download_copies {segments : List String} {source : String} {made copied : FileSystem}
    (opened : s.resolve id = .ok (segments, source)) (along : makeParents fs path = (.ok (), made))
    (done : made.copyFile source path = .ok copied) :
    (s.download fs id path).1.result = .ok () ∧ (s.download fs id path).2 = copied := by
  rw [download, opened]
  simp only [along, done, and_self]

theorem Course.steps {after : FileSystem} {result : Except Error Unit}
    (h : Course s id path fs after result)
    (aims : destination base text = .ok path) : Relation.ReflTransGen (Writes base) fs after := by
  obtain ⟨names, cut, some_, rfl⟩ := destination_eq_ok.1 aims
  have named := isName_of_segments? cut
  have folders : Relation.ReflTransGen (Writes base) fs
      (makeParents fs (pushAll base names)).2 := by
    refine Relation.ReflTransGen.mono ?_ _ _ (makeParents_steps fs (pushAll base names))
    rintro before after ⟨text, above, done⟩
    exact .folder named some_ above done
  cases h with
  | refused => exact .refl
  | failed => exact folders
  | copied _ along done =>
    rw [along] at folders
    exact folders.tail (.file named some_ done)

theorem download_steps (aims : destination base text = .ok path) :
    Relation.ReflTransGen (Writes base) fs (s.download fs id path).2 :=
  download_course.steps aims

/-- What a download does to files and links. -/
inductive Effect (s : Local) (id path : String) (before after : FileSystem) :
    Except Error Unit → Prop
  /-- It fails, and at most folders are new. -/
  | failed {e : Error} : Extends before after →
      (∀ place, after.tree.leaf? place = before.tree.leaf? place) →
        Effect s id path before after (.error e)
  /-- It succeeds: one file has the bytes of the source, or none if it is the source itself. -/
  | saved {mid : FileSystem} {segments : List String} {source : String} {held : Location}
      {content : ByteArray} {t : Time} {place : Place} :
      Extends before mid → (∀ place, mid.tree.leaf? place = before.tree.leaf? place) →
      s.resolve id = .ok (segments, source) → mid.stat source = .ok (held, .file content t) →
      mid.resolve path = .ok place →
      NewContent mid after place.location (if held = place.location then .empty else content) →
      Effect s id path before after (.ok ())

theorem Course.effect {after : FileSystem} {result : Except Error Unit}
    (h : Course s id path fs after result) (named : path.back ≠ '/') :
    Effect s id path fs after result := by
  obtain ⟨extension, leaves⟩ := makesAbove_leaves (makeParents_steps fs path)
  cases h with
  | refused => exact .failed (.refl fs) fun _ => rfl
  | failed => exact .failed extension leaves
  | copied opened along done =>
    rw [along] at extension leaves
    obtain ⟨held, content, t, place, found, leads, new⟩ := copyFile_newContent named done
    exact .saved extension leaves opened found leads new

theorem download_cases (named : path.back ≠ '/') :
    Effect s id path fs (s.download fs id path).2 (s.download fs id path).1.result :=
  download_course.effect named

theorem leaf?_of_failed (named : path.back ≠ '/')
    (fails : (s.download fs id path).1.result ≠ .ok ())
    (place : Location) : (s.download fs id path).2.tree.leaf? place = fs.tree.leaf? place := by
  have effect : Effect s id path fs _ _ := download_cases named
  generalize s.download fs id path = done at effect fails ⊢
  generalize done.1.result = result at effect fails
  cases effect with
  | failed _ leaves => exact leaves place
  | saved => exact absurd rfl fails

/-- The folders above a path that leads somewhere need not be made. -/
theorem makeParents_of_resolve {at_ : Location} (h : fs.resolve path = .ok (.entry at_)) :
    makeParents fs path = (.ok (), fs) := by
  unfold makeParents
  split
  · rfl
  · next parent head =>
    have exists_ : parent = "" ∨ fs.isFolder parent = true := by
      rcases mem_parents (List.mem_of_head? head) with empty | ⟨rfl, slash⟩ | above
      · exact .inl empty
      · exact .inr (isFolder_slash slash (resolve_eq_ok.1 h).1)
      · exact isFolder_of_isAbove above h
    rw [makeFolders_of_isFolder exists_]
    rfl

theorem download_of_resolve {segments : List String} {source : String} {held at_ : Location}
    {content : ByteArray} {t : Time} (named : path.back ≠ '/')
    (opened : s.resolve id = .ok (segments, source))
    (found : fs.stat source = .ok (held, .file content t))
    (leads : fs.resolve path = .ok (.entry at_)) (other : fs.tree.isFolder at_ = false) :
    (s.download fs id path).1.result = .ok () := by
  obtain ⟨copied, done⟩ := copyFile_of_resolve named found leads other
  exact (download_copies opened (makeParents_of_resolve leads) done).1

end Storage.Local

end TreeFetch
