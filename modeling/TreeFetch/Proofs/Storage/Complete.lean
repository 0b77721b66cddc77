import TreeFetch.Proofs.Storage.Found

/-!
# When a search leaves nothing out

A walk that comes to its end without reaching the limit of results has looked into every folder to
which it may go. So such a search finds exactly what lies in these folders.

Results:
1. `Search.visitEntries_complete`: a list of entries that is visited to its end.
2. `Search.search_iff`: what a search finds that does not reach its limit of results.
-/

namespace TreeFetch.Storage.Search

variable {σ : Type} {client : Client σ} {state : σ} {pattern : Regex.Pattern} {limits : Limits}

/-- A visit comes to its end, and what it finds after `found` other files is not yet enough. -/
structure Complete (limits : Limits) (found : Nat) (visit : Storage.Visit) : Prop where
  ended : visit.stop = none
  room : isFull limits (found + visit.files.length) = false

theorem isFull_mono {found more : Nat} (less : found ≤ more) (room : isFull limits more = false) :
    isFull limits found = false := by
  unfold isFull at room ⊢
  cases limit : limits.maxResults with
  | none => rfl
  | some most =>
    simp only [limit, Option.any_some, decide_eq_false_iff_not] at room ⊢
    omega

/-- A visit that ends by itself is one of both its parts. -/
theorem andThen_ended {first : Storage.Visit} {next : Nat → Storage.Visit}
    (ended : (first.andThen next).stop = none) :
    first.stop = none ∧ (next first.files.length).stop = none ∧
      (first.andThen next).files = first.files ++ (next first.files.length).files := by
  unfold Storage.Visit.andThen at ended ⊢
  cases stop : first.stop with
  | some reason =>
    rw [stop] at ended
    exact absurd (stop.symm.trans ended) (by simp)
  | none =>
    rw [stop] at ended
    exact ⟨rfl, ended, rfl⟩

theorem Complete.of_andThen {found : Nat} {first : Storage.Visit} {next : Nat → Storage.Visit}
    (h : Complete limits found (first.andThen next)) :
    Complete limits found first ∧ Complete limits (found +
      first.files.length) (next first.files.length) ∧
      (first.andThen next).files = first.files ++ (next first.files.length).files := by
  obtain ⟨stop, ended, files⟩ := andThen_ended h.ended
  have room := h.room
  rw [files, List.length_append] at room
  exact ⟨⟨stop, isFull_mono (by omega) room⟩, ⟨ended, by rwa [Nat.add_assoc]⟩, files⟩

/-- When the visit of a list of entries is complete, each file that is kept is found, and the visit
of each folder is complete. -/
theorem visitEntries_complete {parent : String}
    {enter : (id path : String) → (found : Nat) → Storage.Visit}
    {entries : List Entry} {found : Nat}
    (h : Complete limits found (visitEntries pattern limits parent enter entries found)) :
    ∀ e ∈ entries,
      (e.Matches pattern →
        ∃ f ∈ (visitEntries pattern limits parent enter entries found).files, f.id = e.id) ∧
      (e.Descends → ∃ path before, Complete limits before (enter e.id path before) ∧
        (enter e.id path before).files ⊆
          (visitEntries pattern limits parent enter entries found).files) := by
  induction entries generalizing found with
  | nil => exact List.forall_mem_nil _
  | cons first rest ih =>
    obtain ⟨visit, visits, whole⟩ := visitEntries_cons pattern parent enter first rest
      (isFull_mono (Nat.le_add_right found _) h.room)
    rw [whole] at h ⊢
    obtain ⟨now, later, files⟩ := h.of_andThen
    rw [files]
    intro e present
    rcases List.mem_cons.1 present with rfl | after
    · constructor
      · intro kept
        rw [(visits.kept kept).1]
        exact ⟨_, List.mem_append_left _ (List.mem_singleton_self _), rfl⟩
      · intro down
        rw [visits.entered down] at now ⊢
        exact ⟨_, found, now, List.subset_append_left _ _⟩
    · obtain ⟨kept, down⟩ := ih later e after
      constructor
      · intro matches_
        obtain ⟨f, present, same⟩ := kept matches_
        exact ⟨f, List.mem_append_right _ present, same⟩
      · intro descends
        obtain ⟨path, before, complete, inside⟩ := down descends
        exact ⟨path, before, complete, List.subset_append_of_subset_right _ inside⟩

/-- A walk does not look into a folder: it lies too deep, enough files are found, or it is
excluded. -/
def TurnsBack (limits : Limits) (depth : Nat) (id : String) (found : Nat) : Prop :=
  (∃ most, limits.maxDepth = some most ∧ most < depth) ∨ isFull limits found = true ∨
    id ∈ limits.excluded

theorem Admitted.not_turnsBack {depth found : Nat} {id : String} (h : Admitted limits depth id)
    (room : isFull limits found = false) : ¬TurnsBack limits depth id found := by
  rintro (⟨most, limit, deep⟩ | full | excluded)
  · exact absurd (h.shallow most limit) (Nat.not_le.2 deep)
  · rw [room] at full
    cases full
  · exact h.included excluded

theorem visitFolder_of_ended {levels depth found : Nat} {id path : String}
    (ended : (visitFolder client state pattern limits levels depth id path found).stop = none) :
    TurnsBack limits depth id found ∧
        (visitFolder client state pattern limits levels depth id path found).files = [] ∨
      ¬TurnsBack limits depth id found ∧ ∃ fewer entries, levels = fewer + 1 ∧
        Opens client state limits depth id entries ∧
        let inner := visitEntries pattern limits path
          (visitFolder client state pattern limits fewer (depth + 1)) entries found
        inner.stop = none ∧
          (visitFolder client state pattern limits levels depth id path found).files =
            inner.files := by
  cases levels with
  | zero => exact absurd ended (by simp [visitFolder_zero])
  | succ fewer =>
    rw [visitFolder_succ] at ended ⊢
    by_cases deep : (limits.maxDepth.any fun most => depth > most) = true
    · rw [if_pos deep]
      obtain ⟨most, limit, deeper⟩ := Option.any_eq_true _ _ |>.1 deep
      exact .inl ⟨.inl ⟨most, limit, of_decide_eq_true deeper⟩, rfl⟩
    · rw [if_neg deep] at ended ⊢
      by_cases full : isFull limits found = true
      · rw [if_pos full]
        exact .inl ⟨.inr (.inl full), rfl⟩
      · rw [if_neg full] at ended ⊢
        by_cases out : limits.excluded.contains id = true
        · rw [if_pos out]
          exact .inl ⟨.inr (.inr (List.contains_iff_mem.1 out)), rfl⟩
        · rw [if_neg out] at ended ⊢
          have admitted : Admitted limits depth id := admitted_iff.2 ⟨deep, out⟩
          refine .inr ⟨admitted.not_turnsBack (by simpa using full), fewer, ?_⟩
          cases listed : (client.list state id).result with
          | error e => simp [listed] at ended
          | ok entries =>
            simp only [listed] at ended
            obtain ⟨_, inside, files⟩ := andThen_ended ended
            refine ⟨entries, rfl, ⟨admitted, listed⟩, inside, ?_⟩
            simp only [listed]
            exact files

/-- When the visit of a folder is complete that may be entered, it is listed, and the visit of its
entries is complete. -/
theorem visitFolder_complete {levels depth found : Nat} {id path : String}
    (h : Complete limits found (visitFolder client state pattern limits levels depth id path found))
    (admitted : Admitted limits depth id) :
    ∃ fewer entries, Opens client state limits depth id entries ∧
      Complete limits found (visitEntries pattern limits path
        (visitFolder client state pattern limits fewer (depth + 1)) entries found) ∧
      (visitFolder client state pattern limits levels depth id path found).files =
        (visitEntries pattern limits path
          (visitFolder client state pattern limits fewer (depth + 1)) entries found).files := by
  have room := isFull_mono (Nat.le_add_right found _) h.room
  rcases visitFolder_of_ended h.ended with ⟨turns, _⟩ |
    ⟨_, fewer, entries, _, opened, ended, files⟩
  · exact absurd turns (admitted.not_turnsBack room)
  · exact ⟨fewer, entries, opened, ⟨ended, files ▸ h.room⟩, files⟩

variable (client state pattern limits) in
/-- A complete visit of the folder with an id at a depth finds only what is among `files`. -/
def Visited (files : List File) (depth : Nat) (id : String) : Prop :=
  ∃ levels path found,
    Complete limits found (visitFolder client state pattern limits levels depth id path found) ∧
      (visitFolder client state pattern limits levels depth id path found).files ⊆ files

theorem visited_of_comes {start id : String} {depth : Nat}
    (h : Complete limits 0 (walk client state start pattern limits))
    (comes : Comes client state limits start depth id) :
    Visited client state pattern limits (walk client state start pattern limits).files
      depth id := by
  induction comes with
  | start => exact ⟨_, "", 0, h, List.Subset.refl _⟩
  | @step depth id entries e _ opened present down ih =>
    obtain ⟨levels, path, found, complete, inside⟩ := ih
    obtain ⟨fewer, others, opened', entered, files⟩ :=
      visitFolder_complete complete opened.admitted
    obtain rfl := Opens.unique opened.listed opened'
    obtain ⟨path', before, deeper, below⟩ := (visitEntries_complete entered e present).2 down
    exact ⟨fewer, path', before, deeper, List.Subset.trans below (files ▸ inside)⟩

/-- A complete walk looks into every folder to which it comes, and finds what is kept there. -/
theorem walk_complete {start id : String} {depth : Nat}
    (h : Complete limits 0 (walk client state start pattern limits))
    (comes : Comes client state limits start depth id) (admitted : Admitted limits depth id) :
    ∃ entries, Opens client state limits depth id entries ∧
      ∀ e ∈ entries, e.Matches pattern →
      ∃ f ∈ (walk client state start pattern limits).files, f.id = e.id := by
  obtain ⟨levels, path, found, complete, inside⟩ := visited_of_comes h comes
  obtain ⟨fewer, entries, opened, entered, files⟩ := visitFolder_complete complete admitted
  refine ⟨entries, opened, fun e present kept => ?_⟩
  obtain ⟨f, found, same⟩ := (visitEntries_complete entered e present).1 kept
  exact ⟨f, inside (files ▸ found), same⟩

/-- A search that does not reach its limit of results returns what its walk finds, and the walk is
complete. -/
theorem complete_of_search {folder : Option String} {start : String} {files : List File}
    (begins : Begins client state folder start)
    (h : (search client state folder pattern limits).result = .ok files)
    (room : isFull limits files.length = false) :
    Complete limits 0 (walk client state start pattern limits) ∧
      files.Perm (walk client state start pattern limits).files := by
  rw [search_result begins, conclude] at h
  split at h
  · cases h
  · next ended =>
    have sorted : (newestFirst (walk client state start pattern limits).files).Perm
        (walk client state start pattern limits).files := List.mergeSort_perm _ _
    have all : files = newestFirst (walk client state start pattern limits).files := by
      obtain rfl := Except.ok.inj h
      cases limit : limits.maxResults with
      | none => rfl
      | some most =>
        -- the limit would have been reached if files had been left out
        simp only [isFull, limit, Option.any_some, decide_eq_false_iff_not,
          List.length_take] at room ⊢
        exact List.take_of_length_le (by omega)
    subst all
    refine ⟨⟨ended, ?_⟩, sorted⟩
    rw [Nat.zero_add, ← sorted.length_eq]
    exact room

/-- What a search finds that does not reach its limit of results: the files that are kept in the
folders to which its walk comes. Each of these folders can be listed. -/
theorem search_iff {folder : Option String} {start : String} {files : List File}
    (begins : Begins client state folder start)
    (h : (search client state folder pattern limits).result = .ok files)
    (room : isFull limits files.length = false) :
    (∀ depth id, Comes client state limits start depth id → Admitted limits depth id →
      ∃ entries, Opens client state limits depth id entries) ∧
    ∀ fileId, (∃ f ∈ files, f.id = fileId) ↔
      ∃ depth id entries e, Comes client state limits start depth id ∧
        Opens client state limits depth id entries ∧ e ∈ entries ∧ e.Matches pattern ∧
        e.id = fileId := by
  obtain ⟨complete, same⟩ := complete_of_search begins h room
  refine ⟨fun depth id comes admitted => ?_, fun fileId => ⟨?_, ?_⟩⟩
  · obtain ⟨entries, opened, _⟩ := walk_complete complete comes admitted
    exact ⟨entries, opened⟩
  · rintro ⟨f, present, rfl⟩
    obtain ⟨depth, id, entries, e, path, comes, opened, inside, kept, rfl⟩ :=
      search_sound begins h present
    exact ⟨depth, id, entries, e, comes, opened, inside, kept, rfl⟩
  · rintro ⟨depth, id, entries, e, comes, opened, present, kept, rfl⟩
    obtain ⟨others, opened', finds⟩ := walk_complete complete comes opened.admitted
    obtain rfl := Opens.unique opened.listed opened'
    obtain ⟨f, found, id⟩ := finds e present kept
    exact ⟨f, same.mem_iff.2 found, id⟩

end TreeFetch.Storage.Search
