import TreeFetch.Proofs.Destination
import TreeFetch.Proofs.Storage.Listing

/-!
# Spellings of an id

An id is cut at its slashes, and the pieces that say where to go are joined to the root. Many texts
keep the same pieces; all of them stand for the same path, and one of them is in normal form, the
pieces that are kept with a slash in between. The ids in a listing have this form. An id that climbs
stands for nothing: the storage refuses it before it looks at a folder or makes one.

Results:
1. `Local.resolve_eq_ok_iff_kept` and `Local.resolve_eq_error`: what an id stands for.
2. `Local.child_canonical`: the ids in a listing are in normal form.
3. `Local.resolve_canonical`: what the spellings of an id have in common, with one another and with
   a path that files are saved under.
-/

namespace TreeFetch.Storage.Local

open FileSystem PathText

variable {s : Local} {fs : FileSystem} {id other path target : String} {segments : List String}
  {entries : List Entry} {e : Entry} {fault : Error}

/-! ## What an id stands for -/

theorem resolve_eq_ok_iff_kept :
    s.resolve id = .ok (segments, path) ↔
      ".." ∉ pieces id ∧ kept id = segments ∧ segments.foldl join s.root = path := by
  rw [resolve_eq_ok, segments?_eq_kept, and_assoc]
  refine and_congr_right fun falls => and_congr_right fun same => ?_
  rw [foldl_join (isName_of_segments? (segments?_eq_kept.2 ⟨falls, same⟩))]

/-- An id that does not climb stands for the pieces that are kept, joined to the root. -/
theorem resolve_kept (s : Local) (falls : ".." ∉ pieces id) :
    s.resolve id = .ok (kept id, (kept id).foldl join s.root) :=
  resolve_eq_ok_iff_kept.2 ⟨falls, rfl, rfl⟩

theorem resolve_eq_error :
    s.resolve id = .error fault ↔
      fault = .pathOperation id "find storage folder" ∧ ".." ∈ pieces id := by
  by_cases climbs : ".." ∈ pieces id
  · have refused : s.resolve id = .error (.pathOperation id "find storage folder") := by
      unfold resolve
      split
      · rfl
      · next names cut => exact absurd climbs (segments?_eq_kept.1 cut).1
    rw [refused, Except.error.injEq, and_iff_left climbs, eq_comm]
  · simp [resolve_kept s climbs, climbs]

/-- What is asked of an id depends on nothing but what it stands for. -/
theorem answers_of_resolve (same : s.resolve other = s.resolve id) (fs : FileSystem) :
    s.list fs other = s.list fs id ∧ ∀ target,
      s.download fs other target = s.download fs id target := by
  constructor
  · rw [list, list, listWith, same, listWith]
  · intro target
    rw [download, same, download]

/-- What is asked of an id that is refused is refused, and nothing is done. -/
theorem answers_of_refused (refused : s.resolve id = .error fault) (fs : FileSystem) :
    s.list fs id = ⟨[], .error fault⟩ ∧ ∀ target,
      s.download fs id target = (⟨[], .error fault⟩, fs) := by
  constructor
  · rw [list, listWith, refused]
  · intro target
    rw [download, refused]

/-! ## Normal form -/

/-- An id is in normal form: it does not climb, and nothing but what is kept of it stands in it. -/
structure IsCanonical (id : String) : Prop where
  falls : ".." ∉ pieces id
  fixed : "/".intercalate (kept id) = id

/-- What is kept of an id makes one in normal form, of which the same is kept. -/
theorem canonical_kept (falls : ".." ∉ pieces id) :
    IsCanonical ("/".intercalate (kept id)) ∧ kept ("/".intercalate (kept id)) = kept id := by
  obtain ⟨falls', same⟩ := segments?_eq_kept.1 (segments?_kept falls)
  exact ⟨⟨falls', by rw [same]⟩, same⟩

theorem canonical_ofSegments {names : List String} (named : ∀ n ∈ names, IsName n) :
    IsCanonical (ofSegments names) ∧ kept (ofSegments names) = names := by
  obtain ⟨falls, same⟩ := segments?_eq_kept.1 (segments?_ofSegments named)
  exact ⟨⟨falls, by rw [same, ofSegments]⟩, same⟩

/-- An id and the pieces that lead from the root to the path it stands for: they are joined to the
root one after the other, and none of them leads out of it. -/
structure StandsFor (s : Local) (id path : String) : Prop where
  resolved : s.resolve id = .ok (kept id, path)
  joined : path = (kept id).foldl join s.root
  inside : components path = components s.root ++ kept id
  named : ∀ step ∈ kept id, step ≠ "" ∧ step ≠ "." ∧ step ≠ ".." ∧
    '/' ∉ step.toList

theorem standsFor_of_falls (s : Local) (falls : ".." ∉ pieces id) :
    s.StandsFor id ((kept id).foldl join s.root) := by
  have named := isName_of_segments? (segments?_eq_kept.2 ⟨falls, rfl⟩)
  refine ⟨resolve_kept s falls, rfl, ?_, fun step present => ?_⟩
  · rw [foldl_join named, components_pushAll named]
  · obtain ⟨free, stays, up⟩ := named step present
    simp only [isIdle, Bool.or_eq_false_iff, decide_eq_false_iff_not] at stays
    simp only [climbs, decide_eq_false_iff_not] at up
    exact ⟨stays.1, stays.2, up, free⟩

/-- The id of an entry is in normal form: the pieces of the folder's id and the name of the
entry. -/
theorem child_canonical (h : (s.list fs id).result = .ok entries) (present : e ∈ entries) :
    IsCanonical e.id ∧ kept e.id = kept id ++ [e.name] := by
  obtain ⟨segments, at_, leads, lists⟩ := list_lists h
  have here := lists e present
  obtain ⟨_, rfl⟩ := segments?_eq_kept.1 leads.cut
  rw [here.id]
  exact canonical_ofSegments (leads.named_concat here.named)

/-! ## Ids and destinations -/

/-- A path has a destination below the root exactly if it says as an id where to go, and it is the
path that the id stands for. -/
theorem destination_root_eq_ok :
    destination s.root id = .ok path ↔ s.resolve id = .ok (kept id, path) ∧ kept id ≠ [] := by
  rw [destination_eq_ok_iff_kept, resolve_eq_ok_iff_kept]
  constructor
  · rintro ⟨falls, some_, joined⟩
    exact ⟨⟨falls, rfl, joined⟩, some_⟩
  · rintro ⟨⟨falls, _, joined⟩, some_⟩
    exact ⟨falls, some_, joined⟩

theorem destination_root_eq_error :
    destination s.root id = .error (.unsafePath id) ↔
      (∃ fault, s.resolve id = .error fault) ∨ ∃ path, s.resolve id = .ok ([], path) := by
  simp only [destination_eq_error, resolve_eq_error, resolve_eq_ok_iff_kept, true_and]
  by_cases climbs : ".." ∈ pieces id
  · simp [climbs]
  · simp [climbs]

/-- An id is refused exactly if a piece of it climbs; then its folder is not listed and its file not
downloaded, and nothing is changed. Any other id stands for a path that lies below the root, or is
the root, and so does the text of the pieces that are kept of it. Ids of which the same is kept are
answered alike, and the listing gives its entries ids in normal form. A file is saved below the root
under the very path that its id stands for, unless the id is refused or stands for the root
itself. -/
theorem resolve_canonical (s : Local) (id : String) :
    (s.resolve id = .error (.pathOperation id "find storage folder") ↔ ".." ∈ pieces id) ∧
    (".." ∈ pieces id → ∀ fs target,
      (s.list fs id).result = .error (.pathOperation id "find storage folder") ∧
      (s.download fs id target).1.result = .error (.pathOperation id "find storage folder") ∧
      (s.download fs id target).2 = fs) ∧
    (".." ∉ pieces id → ∃ path, s.StandsFor id path ∧
      s.resolve ("/".intercalate (kept id)) = .ok (kept id, path) ∧
      (∀ other, ".." ∉ pieces other → kept other = kept id → ∀ fs,
        s.list fs other = s.list fs id ∧ ∀ target,
        s.download fs other target = s.download fs id target) ∧
      ∀ fs entries, (s.list fs id).result = .ok entries → ∀ e ∈ entries,
        IsCanonical e.id ∧ kept e.id = kept id ++ [e.name]) ∧
    (∀ path, destination s.root id = .ok path ↔
      s.resolve id = .ok (kept id, path) ∧ kept id ≠ []) ∧
    (destination s.root id = .error (.unsafePath id) ↔
      (∃ fault, s.resolve id = .error fault) ∨ ∃ path, s.resolve id = .ok ([], path)) := by
  refine ⟨by simp [resolve_eq_error], fun climbs fs target => ?_, fun falls => ?_,
    fun path => destination_root_eq_ok, destination_root_eq_error⟩
  · obtain ⟨listed, saved⟩ := answers_of_refused (resolve_eq_error.2 ⟨rfl, climbs⟩) fs
    rw [listed, saved target]
    exact ⟨rfl, rfl, rfl⟩
  · obtain ⟨canonical, again⟩ := canonical_kept falls
    refine ⟨_, standsFor_of_falls s falls, ?_, fun other falls' same fs => ?_,
      fun fs entries listed e present => child_canonical listed present⟩
    · rw [resolve_kept s canonical.falls, again]
    · refine answers_of_resolve ?_ fs
      rw [resolve_kept s falls', resolve_kept s falls, same]

/-- Slashes in excess and dots make no difference, and an id that climbs is refused also where it
comes back. -/
theorem resolve_canonical_dots :
    let s : Local := ⟨"store"⟩
    (".." ∉ pieces "./a//b/" ∧ ".." ∈ pieces "a/../a") ∧
      s.StandsFor "./a//b/" "store/a/b" ∧ s.resolve "a/b" = .ok (["a", "b"], "store/a/b") ∧
      destination s.root "./a//b/" = .ok "store/a/b" ∧
      ∀ fs target, (s.download fs "a/../a" target).2 = fs := by
  intro s
  have cut : segments? "./a//b/" = some ["a", "b"] := by decide
  obtain ⟨falls, steps⟩ := segments?_eq_kept.1 cut
  have climbs : ".." ∈ pieces "a/../a" := by rw [← parts_eq_pieces]; decide
  obtain ⟨_, _, resolved, saved, _⟩ := resolve_canonical s "./a//b/"
  obtain ⟨path, stands, again, _⟩ := resolved falls
  have joined := pushAll_eq_ofSegments "store" (isName_of_segments? cut) (by simp)
  rw [← foldl_join (isName_of_segments? cut), ← steps, ← stands.joined] at joined
  obtain rfl : path = "store/a/b" := by rw [joined, steps]; decide
  refine ⟨⟨falls, climbs⟩, stands, ?_, (saved _).2 ⟨stands.resolved, by simp [steps]⟩,
    fun fs target => ?_⟩
  · rw [steps] at again
    exact again
  · exact ((resolve_canonical s "a/../a").2.1 climbs fs target).2.2

end TreeFetch.Storage.Local
