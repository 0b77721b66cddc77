import Mathlib
import TreeFetch.Proofs.FileSystem.Child
import TreeFetch.Proofs.Storage.Contents
import TreeFetch.Proofs.Storage.Download
import TreeFetch.Proofs.Storage.Requests

/-!
# Ids, paths and places of found files

Three texts are made of a file that a search of a local storage finds: the listing of its folder
makes its id, the walk makes its path, and the storage makes the path of the local machine from the
id. They stay in step, however the folder is spelled where the search begins: the id is the path
below that folder, and it names the very entry that was listed.

Results:
1. `Search.visitFolder_shown`: whatever a walk finds is an entry of a listing that it asked for.
2. `Local.IsListed`, `Local.IsPlaced`: what id, path and name of a file say.
3. `search_placed`: all files that a search of a local storage returns are placed, each at its own
   id and path.
-/

namespace TreeFetch.FileSystem

open PathText (IsName push pushAll parts)

variable {fs : FileSystem} {base path : String} {at_ : Location} {name : String} {node : Node}
  {place : Place}

/-- A path to a name in a folder leads to what has that name there, if links at its end are not
followed. -/
theorem resolveLast_push (named : IsName name) (leads : fs.resolve base = .ok (.entry at_))
    (folder : fs.tree.isFolder at_ = true) (there : fs.tree.node? (.text name :: at_) = some node)
    (found : fs.resolve (push base name) = .ok place) :
    fs.resolveLast (push base name) = .ok (.entry (.text name :: at_)) := by
  exact resolveLast_push_child named (directory?_of_resolve leads folder) folder
    (allows_of_resolve found) there

theorem openFile_slash (slash : path.back = '/') : ∃ fault, fs.openFile path = .error fault := by
  rw [openFile, if_pos slash, resolveHolder]
  cases fs.checkText path with
  | error fault => exact ⟨fault, rfl⟩
  | ok _ =>
    simp only [Except.bind]
    split
    · next fault failed => exact ⟨fault, rfl⟩
    · next folder name holder =>
      split at holder
      · cases holder
      · split at holder
        · cases holder
        · cases holder
    · next holder_ holder =>
      split at holder
      · cases holder
      · split at holder
        · cases holder
        · next reached =>
          obtain rfl := Place.entry.inj (Except.ok.inj holder)
          obtain ⟨there, left, _, further⟩ := followLeft_of_append reached
          have folder := isFolder_of_follow (List.cons_ne_nil _ _) further
          rw [follow_eq, descend_blank folder (by simp)] at further
          obtain rfl := Place.entry.inj (Except.ok.inj further)
          exact ⟨.isFolder, by rw [if_pos folder]⟩

end TreeFetch.FileSystem

namespace TreeFetch.Storage

open FileSystem PathText Search

def File.entry (f : File) : Entry := ⟨f.id, f.name, .file, f.modified, false⟩

namespace Search

section

variable {σ : Type} {client : Client σ} {state : σ} {pattern : Regex.Pattern} {limits : Limits}

/-! ## What was listed -/

variable (client state) in
/-- A file is an entry of a folder that was asked for. -/
def IsShown (calls : List Call) (f : File) : Prop :=
  ∃ folder entries, .list folder ∈ calls ∧ (client.list state folder).result = .ok entries ∧
    f.entry ∈ entries

theorem IsShown.mono {calls more : List Call} {f : File} (h : IsShown client state calls f)
    (all : ∀ call ∈ calls, call ∈ more) : IsShown client state more f := by
  obtain ⟨folder, entries, asked, listed, present⟩ := h
  exact ⟨folder, entries, all _ asked, listed, present⟩

/-- What is found among entries is one of them, or was listed below one of them. -/
theorem visitEntries_shown {parent : String}
    {enter : (id path : String) → (found : Nat) → Storage.Visit} {entries : List Entry}
    (deeper : ∀ id path found, ∀ f ∈ (enter id path found).files,
      IsShown client state (Event.calls (enter id path found).events) f)
    (found : Nat) {f : File}
    (h : f ∈ (visitEntries pattern limits parent enter entries found).files) :
    f.entry ∈ entries ∨ IsShown client state
      (Event.calls (visitEntries pattern limits parent enter entries found).events) f := by
  induction entries generalizing found with
  | nil => exact absurd h List.not_mem_nil
  | cons e rest ih =>
    by_cases open_ : isFull limits found = true
    · rw [visitEntries_next, if_pos open_] at h
      exact absurd h List.not_mem_nil
    · obtain ⟨visit, visits, whole⟩ :=
        visitEntries_cons pattern parent enter e rest (by simpa using open_)
      rw [whole] at h ⊢
      have here : f ∈ visit.files →
          f.entry ∈ e :: rest ∨ IsShown client state (Event.calls visit.events) f := by
        intro now
        by_cases down : e.Descends
        · rw [visits.entered down] at now ⊢
          exact .inr (deeper _ _ _ f now)
        · by_cases kept : e.Matches pattern
          · rw [(visits.kept kept).1] at now
            obtain rfl := List.mem_singleton.1 now
            refine .inl (List.mem_cons.2 (.inl ?_))
            rw [File.entry, ← kept.kind, ← kept.kept]
          · rw [(visits.passed down kept).1] at now
            exact absurd now List.not_mem_nil
      cases stop : visit.stop with
      | some reason =>
        rw [Visit.andThen_of_stop stop] at h ⊢
        exact here h
      | none =>
        rw [Visit.calls_andThen stop]
        rcases mem_andThen h with now | after
        · exact (here now).imp_right fun shown => shown.mono fun _ => List.mem_append_left _
        · exact (ih _ after).imp (List.mem_cons_of_mem e) fun shown =>
            shown.mono fun _ => List.mem_append_right _

/-- What a walk finds is an entry of a folder that it asked for. -/
theorem visitFolder_shown {levels depth : Nat} {id path : String} {found : Nat} {f : File}
    (h : f ∈ (visitFolder client state pattern limits levels depth id path found).files) :
    IsShown client state
      (Event.calls (visitFolder client state pattern limits levels depth id path found).events)
      f := by
  induction levels generalizing depth id path found f with
  | zero => exact absurd h List.not_mem_nil
  | succ levels ih =>
    have visits := visitFolder_visits client state pattern limits levels depth id path found
    generalize visitFolder client state pattern limits (levels + 1) depth id path found = visit
      at visits h ⊢
    cases visits with
    | turned _ => exact absurd h List.not_mem_nil
    | refused _ _ _ => exact absurd h List.not_mem_nil
    | @entered events entries inner opened asked whole =>
      rw [Event.calls_append, asked]
      have inside : f.entry ∈ entries ∨ IsShown client state (Event.calls inner.events) f := by
        rw [whole] at h ⊢
        exact visitEntries_shown (fun id path found f => ih) found h
      rcases inside with here | below
      · exact ⟨id, entries, List.mem_append_left _ (List.mem_singleton_self _),
          opened.listed, here⟩
      · exact below.mono fun _ => List.mem_append_right _

/-- What a search returns is an entry of a folder that it asked for. -/
theorem search_shown {folder : Option String} {start : String} {files : List File} {f : File}
    (begins : Begins client state folder start)
    (h : (search client state folder pattern limits).result = .ok files) (present : f ∈ files) :
    IsShown client state (Event.calls (search client state folder pattern limits).events) f := by
  rw [search_calls begins]
  exact visitFolder_shown (mem_walk_of_search begins h present)

end

end Search

namespace Local

variable {s : Local} {fs : FileSystem} {start id path : String}
    {origin segments names : List String}
  {at_ top : Location} {e : Entry} {f g : File} {pattern : Regex.Pattern} {limits : Limits}

/-! ## Downloads -/

/-- The file to which a path leads has the bytes of the file at a location, or none if it is that
file, and all other files and links are as before. -/
def Saves (path : String) (held : Location) (content : ByteArray) (before after : FileSystem) :
    Prop :=
  ∃ place, (∀ at_, after.locate? path = some at_ → at_ = place) ∧
    after.tree.bytes? place = some (if held = place then .empty else content) ∧
    ∀ other, other ≠ place → after.tree.leaf? other = before.tree.leaf? other

theorem download_saves {held : Location} {content : ByteArray} {t : Time}
    (cut : segments? id = some segments)
    (found : fs.stat (pushAll s.root segments) = .ok (held, .file content t))
    (ok : (s.download fs id path).1.result = .ok ()) :
    Saves path held content fs (s.download fs id path).2 := by
  have named : path.back ≠ '/' := by
    intro slash
    have course : Course s id path fs (s.download fs id path).2 _ := download_course
    rw [ok] at course
    generalize (s.download fs id path).2 = after at course
    cases course with
    | @copied _ _ made _ _ _ done =>
      obtain ⟨fault, shut⟩ := @openFile_slash made path slash
      obtain ⟨_, _, _, _, _, _, opening, _⟩ := copyFile_cases done
      cases shut.symm.trans opening
  have effect : Effect s id path fs _ _ := download_cases named
  rw [ok] at effect
  generalize (s.download fs id path).2 = after at effect ⊢
  cases effect with
  | @saved mid segments' source held' content' t' place extension leaves opened read leads new =>
    obtain ⟨cut', rfl⟩ := resolve_eq_ok.1 opened
    obtain rfl : segments = segments' := Option.some.inj (cut.symm.trans cut')
    obtain ⟨node, still, _⟩ := extension.stat found
    obtain ⟨rfl, rfl⟩ : held = held' ∧ node = .file content' t' := by
      simpa using still.symm.trans read
    have same := (leaf?_of_stat found).symm.trans ((leaves held).symm.trans (leaf?_of_stat read))
    obtain ⟨rfl, rfl⟩ : content = content' ∧ t = t' := by simpa using same
    obtain ⟨time, written⟩ := new.written
    refine ⟨place.location, fun at_ leads' => ?_, Tree.bytes?_of_leaf? written,
      fun other differs => ?_⟩
    · have after' := locate?_eq_some.1 leads'
      cases place with
      | entry target =>
        show at_ = target
        simpa [new.extension.resolve leads] using after'.symm
      | vacancy folder name =>
        have made := (Tree.leaf?_eq_some.1 written).1
        exact new.extension.resolve_filled leads ⟨_, made, by simp⟩ after'
    · exact (new.leaves other differs).trans (leaves other)

/-! ## Files -/

variable (s fs) in
/-- A file is an entry of a folder that was asked for. Its id leads to what has its name in the
place of that folder, if a link there is not followed. It leads on to a file with the time that was
listed, and a download that succeeds saves the bytes of that one. -/
structure IsListed (calls : List Call) (f : File) : Prop where
  place : ∃ folder entries at_, .list folder ∈ calls ∧
    (s.list fs folder).result = .ok entries ∧
    f.entry ∈ entries ∧ s.place? fs folder = some at_ ∧
    fs.resolveLast (push s.root f.id) = .ok (.entry (.text f.name :: at_))
  read : ∃ held content, fs.stat (push s.root f.id) = .ok (held, .file content f.modified) ∧
    ∀ path, (s.client.download fs f path).1.result = .ok () →
      Saves path held content fs (s.client.download fs f path).2

/-- The id of a file is its path, after the segments of the folder where the search began. Both end
with its name, nothing in its path is hidden, and it can be saved below any directory. -/
structure IsPlaced (origin : List String) (f : File) : Prop where
  id : f.id = if origin = [] then f.path else ofSegments origin ++ "/" ++ f.path
  endsPath : (parts f.path).getLast? = some f.name
  endsId : (parts f.id).getLast? = some f.name
  shown : ∀ part ∈ parts f.path, part.startsWith "." = false
  aims : ∀ base, ∃ path, destination base f.path = .ok path

/-- A text goes on after another one and a slash. -/
def LeadsOn (text longer : String) : Prop := ∃ rest, longer = text ++ "/" ++ rest

instance (text longer : String) : Decidable (LeadsOn text longer) :=
  decidable_of_iff ((text ++ "/").toList <+: longer.toList) <| by
    constructor
    · rintro ⟨rest, same⟩
      exact ⟨String.ofList rest, String.toList_inj.1 (by simp [← same])⟩
    · rintro ⟨rest, rfl⟩
      exact ⟨rest.toList, by simp⟩

/-- Two files have different ids and different paths, and none of these leads on to another one. -/
structure AreApart (f g : File) : Prop where
  ids : f.id ≠ g.id ∧ ¬LeadsOn f.id g.id ∧ ¬LeadsOn g.id f.id
  paths : f.path ≠ g.path ∧ ¬LeadsOn f.path g.path ∧ ¬LeadsOn g.path f.path

theorem modified_of_examineText {folder name : String} {isLink : Bool}
    (h : examineText fs segments folder name isLink = .entry e) :
    ∃ place node, fs.stat (push folder name) = .ok (place, node) ∧
      e.modified = node.time?.getD 0 := by
  unfold examineText at h
  simp only at h
  split at h
  · split at h <;> cases h
  · next place node found =>
    split at h
    · cases h
    · obtain rfl := Finding.entry.inj h
      exact ⟨place, node, found, rfl⟩

theorem isListed_of_isShown {calls : List Call} (h : IsShown s.client fs calls f) :
    s.IsListed fs calls f := by
  obtain ⟨folder, entries, asked, listed, present⟩ := h
  obtain ⟨segments, at_, leads, lists⟩ := list_lists listed
  have here := lists f.entry present
  obtain ⟨name, node, child, finding⟩ := ((list_examines leads listed).1 f.entry).1 present
  obtain ⟨same, _, _⟩ := examineText_eq_entry finding
  obtain rfl : f.name = name := same
  obtain ⟨held, target, found, modified⟩ := modified_of_examineText finding
  obtain ⟨held', content, t, found'⟩ : ∃ held content t,
      fs.stat (pushAll s.root (segments ++ [f.name])) = .ok (held, .file content t) := by
    obtain ⟨held, file⟩ := here.file rfl
    obtain ⟨content, t, found⟩ := file.found
    exact ⟨held, content, t, found⟩
  have named : ∀ n ∈ segments ++ [f.name], IsName n := leads.named_concat here.named
  have joined : push s.root f.id = pushAll s.root (segments ++ [f.name]) := by
    have id : f.id = _ := here.id
    rw [id]
    exact push_ofSegments s.root named (by simp)
  have cut : segments? f.id = some (segments ++ [f.name]) := by
    have id : f.id = _ := here.id
    rw [id]
    exact segments?_ofSegments named
  obtain ⟨rfl, rfl⟩ : held = held' ∧ target = .file content t := by
    rw [← pushAll_concat, found'] at found
    simpa [eq_comm] using found
  obtain rfl : f.modified = t := modified
  refine ⟨⟨folder, entries, at_, asked, listed, present, ?_, ?_⟩, held, content, ?_,
    fun path ok => ?_⟩
  · rw [place?, leads.cut, Option.bind_some]
    exact locate?_eq_some.2 leads.leads
  · rw [joined, pushAll_concat]
    exact resolveLast_push here.named leads.leads leads.folder child (stat_eq_ok.1 found).1
  · rw [joined, found']
  · exact download_saves cut found' ok

/-- Path and id of a file are spelled with the names of the folders on the way and its own name. -/
structure IsSpelled (origin names : List String) (f : File) : Prop where
  path : f.path = ofSegments (names ++ [f.name])
  id : f.id = ofSegments (origin ++ (names ++ [f.name]))
  named : ∀ n ∈ origin ++ (names ++ [f.name]), IsName n
  shown : ∀ n ∈ names ++ [f.name], n.startsWith "." = false

namespace IsSpelled

theorem parts_path (h : IsSpelled origin names f) : parts f.path = names ++ [f.name] := by
  rw [h.path]
  exact parts_ofSegments (by simp) fun n present =>
    (h.named n (List.mem_append_right _ present)).slashFree

theorem parts_id (h : IsSpelled origin names f) : parts f.id = origin ++ (names ++ [f.name]) := by
  rw [h.id]
  exact parts_ofSegments (by simp) fun n present => (h.named n present).slashFree

theorem names_eq (h : IsSpelled origin names f) : f.names = names ++ [f.name] := by
  rw [File.names, h.path, segments?_ofSegments fun n present =>
    h.named n (List.mem_append_right _ present)]
  rfl

theorem isPlaced (h : IsSpelled origin names f) : IsPlaced origin f where
  id := by
    split
    · next top => rw [h.id, h.path, top, List.nil_append]
    · next some_ => rw [h.id, h.path, ofSegments_append some_ (by simp)]
  endsPath := by rw [h.parts_path, List.getLast?_concat]
  endsId := by rw [h.parts_id, ← List.append_assoc, List.getLast?_concat]
  shown := by
    rw [h.parts_path]
    exact h.shown
  aims base := by
    refine ⟨_, destination_eq_ok.2 ⟨names ++ [f.name], ?_, by simp, rfl⟩⟩
    rw [h.path]
    exact segments?_ofSegments fun n present => h.named n (List.mem_append_right _ present)

/-- A text that leads on to another one has the first parts of it. -/
theorem prefix_of_leadsOn {text longer : String} (h : LeadsOn text longer) :
    parts text <+: parts longer := by
  obtain ⟨rest, rfl⟩ := h
  rw [parts_append_slash]
  exact List.prefix_append _ _

theorem areApart {names' : List String} (h : IsSpelled origin names f)
    (h' : IsSpelled origin names' g) (apart : f.Apart g) : AreApart f g := by
  obtain ⟨first, second⟩ := apart
  rw [h.names_eq, h'.names_eq] at first second
  constructor
  · refine ⟨fun same => first ?_, fun on_ => first ?_, fun on_ => second ?_⟩
    · have parts_ := congrArg parts same
      rw [h.parts_id, h'.parts_id, List.append_cancel_left_eq] at parts_
      rw [parts_]
    · have begins := prefix_of_leadsOn on_
      rwa [h.parts_id, h'.parts_id, List.prefix_append_right_inj] at begins
    · have begins := prefix_of_leadsOn on_
      rwa [h.parts_id, h'.parts_id, List.prefix_append_right_inj] at begins
  · refine ⟨fun same => first ?_, fun on_ => first ?_, fun on_ => second ?_⟩
    · have parts_ := congrArg parts same
      rw [h.parts_path, h'.parts_path] at parts_
      rw [parts_]
    · have begins := prefix_of_leadsOn on_
      rwa [h.parts_path, h'.parts_path] at begins
    · have begins := prefix_of_leadsOn on_
      rwa [h.parts_path, h'.parts_path] at begins

end IsSpelled

/-- A file that a walk meets is spelled with the names on the way to it, none of which is hidden. -/
theorem isSpelled_of_meets {more : List String} (begins : s.LeadsToFolder fs start origin top)
    (meets : Meets s.client fs pattern limits start f) (below : s.Below fs origin top [] more f) :
    ∃ names, IsSpelled origin names f := by
  obtain ⟨depth, id, entries, e, path, comes, opened, present, kept, rfl⟩ := meets
  obtain ⟨names, enters, leads, _, _⟩ := enters_of_comes begins comes opened.admitted
  obtain ⟨sameId, hidden, _⟩ := mem_list leads opened.listed present
  have named := leads.named_concat (leads.lists opened.listed e present).named
  rw [List.append_assoc] at sameId named
  obtain rfl : more = names ++ [e.name] := by
    obtain ⟨place, source⟩ := below.source
    have cut := source.cut
    rw [show segments? e.id = _ from sameId ▸ segments?_ofSegments named, Option.some.injEq,
      List.append_cancel_left_eq] at cut
    exact cut.symm
  refine ⟨names, below.path, sameId, named, fun n member => ?_⟩
  rcases List.mem_append.1 member with above | last
  · exact enters.shown n above
  · rw [List.mem_singleton.1 last, ← hidden]
    exact kept.kept

end Local

open Local

/-- A file that a search of a local storage returns was listed in a folder that the search asked
for; its id is its path below the folder where the search begins, without what makes no difference
in the spelling of that folder. No two files have one id or one path, and no id or path leads on to
another one. -/
theorem search_placed {s : Local} {fs : FileSystem} {pattern : Regex.Pattern} {limits : Limits}
    {folder : Option String} {start : String} {files : List File}
    (begins : Begins s.client fs folder start)
    (h : (search s.client fs folder pattern limits).result = .ok files) :
    (∀ f ∈ files, s.IsListed fs
        (Event.calls (search s.client fs folder pattern limits).events) f ∧
      ∃ origin, segments? start = some origin ∧ IsPlaced origin f) ∧
    files.Pairwise AreApart := by
  have spelled : ∀ f ∈ files, ∃ origin names, segments? start = some origin ∧
      IsSpelled origin names f := by
    intro f present
    obtain ⟨origin, top, leads, below⟩ := search_below begins h present
    obtain ⟨more, inside⟩ := below.each f present
    obtain ⟨names, spelled⟩ := isSpelled_of_meets leads (search_sound begins h present) inside
    exact ⟨origin, names, leads.cut, spelled⟩
  refine ⟨fun f present => ⟨isListed_of_isShown (search_shown begins h present), ?_⟩, ?_⟩
  · obtain ⟨origin, names, cut, spelled⟩ := spelled f present
    exact ⟨origin, cut, spelled.isPlaced⟩
  · refine (search_apart begins h).1.imp_of_mem fun {f g} first second apart => ?_
    obtain ⟨origin, names, cut, spelled_⟩ := spelled f first
    obtain ⟨origin', names', cut', spelled'⟩ := spelled g second
    obtain rfl : origin = origin' := Option.some.inj (cut.symm.trans cut')
    exact spelled_.areApart spelled' apart

/-! ## A folder with two spellings -/

/-- A folder that holds a file and another folder, with a link to a file outside of it. -/
def Local.nested : FileSystem where
  tree := FileSystem.Tree.empty
    |>.add [.text "a"] (.folder 1)
    |>.add [.text "f", .text "a"] (.file .empty 2)
    |>.add [.text "d", .text "a"] (.folder 3)
    |>.add [.text "l", .text "d", .text "a"] (.link "/t")
    |>.add [.text "t"] (.file .empty 4)

set_option maxRecDepth 100000 in
theorem Local.nested_result :
    (search (Local.client ⟨"/"⟩) Local.nested (some "a/")
      ((Regex.Pattern.compile "").toOption.getD default) {}).result =
        .ok [⟨"a/d/l", "l", "d/l", 4⟩, ⟨"a/f", "f", "f", 2⟩] := by
  cbv

/-- The folder where the search begins is spelled with a slash, which is not repeated in the ids. A
link to a file is listed as that file. -/
theorem search_placed_nested :
    let s : Local := ⟨"/"⟩
    let pattern := (Regex.Pattern.compile "").toOption.getD default
    let f : File := ⟨"a/f", "f", "f", 2⟩
    let l : File := ⟨"a/d/l", "l", "d/l", 4⟩
    let run := search s.client Local.nested (some "a/") pattern {}
    (Begins s.client Local.nested (some "a/") "a/" ∧ run.result = .ok [l, f]) ∧
    s.IsListed Local.nested (Event.calls run.events) l ∧
    (∃ origin, segments? "a/" = some origin ∧ IsPlaced origin l) ∧ AreApart l f := by
  intro s pattern f l run
  have begins : Begins s.client Local.nested (some "a/") "a/" := rfl
  have result : run.result = .ok [l, f] := Local.nested_result
  obtain ⟨placed, apart⟩ := search_placed begins result
  obtain ⟨listed, spelled⟩ := placed l (List.mem_cons_self ..)
  exact ⟨⟨begins, result⟩, listed, spelled,
    List.rel_of_pairwise_cons apart (List.mem_singleton_self f)⟩

end TreeFetch.Storage
