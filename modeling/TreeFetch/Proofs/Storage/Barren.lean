import TreeFetch.Proofs.Storage.Complete

/-!
# Storages that differ in what a walk does not find

A walk passes an entry without finding anything there, if the entry is a file that is not kept, or a
folder in which nothing is kept. Two storages that list the same entries but for such ones are
searched with the same result, also by a walk that ends as soon as enough files are found.

Results:
1. `Search.visitEntries_filter`: a walk finds the same without the entries where it finds nothing.
2. `Search.visitFolder_tracks`: the walks through two storages that keep track of each other.
3. `Search.search_tracks`: the results of the two searches.
-/

namespace TreeFetch.Storage.Search

variable {σ τ : Type} {client : Client σ} {state : σ} {client' : Client τ} {state' : τ}
  {pattern : Regex.Pattern} {limits limits' : Limits} {parent path : String}
  {enter enter' : (id path : String) → (found : Nat) → Storage.Visit} {p : Entry → Bool}
  {entries : List Entry} {e : Entry} {found : Nat}

/-! ## Entries where nothing is found -/

theorem visitEntries_full (full : isFull limits found = true) (entries : List Entry) :
    (visitEntries pattern limits parent enter entries found).files = [] ∧
      (visitEntries pattern limits parent enter entries found).stop = none := by
  cases entries with
  | nil => exact ⟨rfl, rfl⟩
  | cons e rest =>
    rw [visitEntries_next, if_pos full]
    exact ⟨rfl, rfl⟩

/-- Visits of one entry find the same, if those of a folder do that end by themselves. -/
theorem VisitsEntry.files_eq {visit visit' : Storage.Visit}
    (h : VisitsEntry pattern path enter found e visit)
    (h' : VisitsEntry pattern path enter' found e visit')
    (same : e.Descends → (enter e.id path found).stop = none →
      (enter' e.id path found).stop = none →
      (enter' e.id path found).files = (enter e.id path found).files)
    (ended : visit.stop = none) (ended' : visit'.stop = none) : visit'.files = visit.files := by
  by_cases down : e.Descends
  · rw [h.entered down] at ended ⊢
    rw [h'.entered down] at ended' ⊢
    exact same down ended ended'
  · by_cases kept : e.Matches pattern
    · rw [(h.kept kept).1, (h'.kept kept).1]
    · rw [(h.passed down kept).1, (h'.passed down kept).1]

theorem VisitsEntry.unique {visit visit' : Storage.Visit}
    (h : VisitsEntry pattern path enter found e visit)
    (h' : VisitsEntry pattern path enter found e visit') :
    visit'.files = visit.files ∧ visit'.stop = visit.stop := by
  by_cases down : e.Descends
  · rw [h.entered down, h'.entered down]
    exact ⟨rfl, rfl⟩
  · by_cases kept : e.Matches pattern
    · rw [(h.kept kept).1, (h'.kept kept).1, (h.kept kept).2, (h'.kept kept).2]
      exact ⟨rfl, rfl⟩
    · rw [(h.passed down kept).1, (h'.passed down kept).1, (h.passed down kept).2,
        (h'.passed down kept).2]
      exact ⟨rfl, rfl⟩

/-- Two visits of a list of entries find the same, if those of each folder do. -/
theorem visitEntries_congr_files (results : limits'.maxResults = limits.maxResults)
    (same : ∀ e ∈ entries, e.Descends → ∀ path found,
      (enter e.id path found).stop = none →
      (enter' e.id path found).stop = none →
      (enter' e.id path found).files = (enter e.id path found).files)
    (ended : (visitEntries pattern limits parent enter entries found).stop = none)
    (ended' : (visitEntries pattern limits' parent enter' entries found).stop = none) :
    (visitEntries pattern limits' parent enter' entries found).files =
      (visitEntries pattern limits parent enter entries found).files := by
  have alike : ∀ found, isFull limits' found = isFull limits found := by
    intro found
    rw [isFull, isFull, results]
  induction entries generalizing found with
  | nil => rfl
  | cons e rest ih =>
    cases open_ : isFull limits found with
    | true =>
      rw [(visitEntries_full open_ _).1, (visitEntries_full (alike found ▸ open_) _).1]
    | false =>
      obtain ⟨visit, visits, whole⟩ := visitEntries_cons pattern parent enter e rest open_
      obtain ⟨visit', visits', whole'⟩ :=
        visitEntries_cons pattern parent enter' e rest (alike found ▸ open_)
      rw [whole] at ended ⊢
      rw [whole'] at ended' ⊢
      obtain ⟨now, later, files⟩ := andThen_ended ended
      obtain ⟨now', later', files'⟩ := andThen_ended ended'
      have first := visits.files_eq visits'
        (fun down => same e (List.mem_cons_self ..) down _ _) now now'
      rw [first] at later' files'
      rw [files, files', ih (fun x present => same x (List.mem_cons_of_mem _ present)) later later']

/-- A walk finds the same without the entries where it finds nothing. -/
theorem visitEntries_filter
    (barren : ∀ e ∈ entries, p e = false → ¬e.Matches pattern ∧
      (e.Descends → ∀ path found, (enter e.id path found).files = []))
    (ended : (visitEntries pattern limits parent enter entries found).stop = none) :
    (visitEntries pattern limits parent enter (entries.filter p) found).stop = none ∧
      (visitEntries pattern limits parent enter (entries.filter p) found).files =
        (visitEntries pattern limits parent enter entries found).files := by
  induction entries generalizing found with
  | nil => exact ⟨rfl, rfl⟩
  | cons e rest ih =>
    cases open_ : isFull limits found with
    | true =>
      rw [(visitEntries_full open_ _).1, (visitEntries_full open_ _).1,
        (visitEntries_full open_ _).2]
      exact ⟨rfl, rfl⟩
    | false =>
      obtain ⟨visit, visits, whole⟩ := visitEntries_cons pattern parent enter e rest open_
      rw [whole] at ended ⊢
      obtain ⟨now, later, files⟩ := andThen_ended ended
      obtain ⟨inner, same⟩ :=
        ih (fun x present => barren x (List.mem_cons_of_mem _ present)) later
      rw [files]
      cases here : p e with
      | true =>
        rw [List.filter_cons_of_pos here]
        obtain ⟨visit', visits', whole'⟩ :=
          visitEntries_cons pattern parent enter e (rest.filter p) open_
        obtain ⟨files', stop'⟩ := visits.unique visits'
        rw [whole', Storage.Visit.andThen, stop', now]
        simp only [files']
        exact ⟨inner, by rw [same]⟩
      | false =>
        rw [List.filter_cons_of_neg (by simp [here])]
        obtain ⟨unkept, empty⟩ := barren e (List.mem_cons_self ..) here
        have nothing : visit.files = [] := by
          by_cases down : e.Descends
          · rw [visits.entered down]
            exact empty down _ _
          · exact (visits.passed down unkept).1
        rw [nothing] at inner same ⊢
        exact ⟨inner, same⟩

/-- A walk finds nothing from a folder on, if every folder that it goes into from there holds no
file that is kept. -/
theorem visitFolder_nothing {hollow : String → Prop}
    (holds : ∀ id entries, hollow id → id ∉ limits.excluded →
      (client.list state id).result = .ok entries →
      ∀ e ∈ entries, ¬e.Matches pattern ∧ (e.Descends → hollow e.id))
    {levels depth : Nat} {id : String} (here : hollow id) :
    (visitFolder client state pattern limits levels depth id path found).files = [] := by
  induction levels generalizing depth id path found with
  | zero => rfl
  | succ levels ih =>
    rcases visitFolder_files client state pattern limits levels depth id path found with
      nothing | ⟨entries, opened, inside⟩
    · exact nothing
    · have empty := holds id entries here opened.admitted.included opened.listed
      refine List.eq_nil_iff_forall_not_mem.2 fun f present => ?_
      rw [inside] at present
      exact visitEntries_sound (P := fun _ => False)
        (fun e inside down found f met => by
          rw [ih ((empty e inside).2 down)] at met
          exact List.not_mem_nil met)
        (fun e inside kept => (empty e inside).1 kept) found present

/-! ## Two storages -/

variable (client state pattern limits) in
/-- A walk finds nothing at an entry. -/
structure Barren (e : Entry) : Prop where
  unkept : ¬e.Matches pattern
  empty : e.Descends → ∀ levels depth path found,
    (visitFolder client state pattern limits levels depth e.id path found).files = []

variable (client state client' state' pattern limits limits') in
/-- Two storages list the same entries in the folders with some ids, but for entries where nothing
is found; the folders among the others have such ids again. -/
structure Tracks (tracked : String → Prop) : Prop where
  depth : limits'.maxDepth = limits.maxDepth
  results : limits'.maxResults = limits.maxResults
  excluded : ∀ id, tracked id → (id ∈ limits'.excluded ↔ id ∈ limits.excluded)
  entries : ∀ id entries entries', tracked id → (client.list state id).result = .ok entries →
    (client'.list state' id).result = .ok entries' →
      ∃ p : Entry → Bool, entries'.filter p = entries.filter p ∧
        (∀ e ∈ entries, p e = false → Barren client state pattern limits e) ∧
        (∀ e ∈ entries', p e = false → Barren client' state' pattern limits' e) ∧
        ∀ e ∈ entries, p e = true → e.Descends → tracked e.id

theorem Barren.passed (h : Barren client state pattern limits e) (levels depth : Nat) :
    ¬e.Matches pattern ∧ (e.Descends → ∀ path found,
      (visitFolder client state pattern limits levels depth e.id path found).files = []) :=
  ⟨h.unkept, fun down path found => h.empty down levels depth path found⟩

theorem Tracks.turnsBack_iff {tracked : String → Prop} {depth : Nat} {id : String}
    (tracks : Tracks client state client' state' pattern limits limits' tracked)
    (here : tracked id) : TurnsBack limits' depth id found ↔ TurnsBack limits depth id found := by
  rw [TurnsBack, TurnsBack, isFull, isFull, tracks.depth, tracks.results, tracks.excluded id here]

/-- Walks through storages that keep track of each other find the same, if both end by
themselves. -/
theorem visitFolder_tracks {tracked : String → Prop}
    (tracks : Tracks client state client' state' pattern limits limits' tracked)
    {levels levels' depth : Nat} {id : String} (here : tracked id)
    (ended : (visitFolder client state pattern limits levels depth id path found).stop = none)
    (ended' : (visitFolder client' state' pattern limits' levels' depth id path found).stop =
      none) :
    (visitFolder client' state' pattern limits' levels' depth id path found).files =
      (visitFolder client state pattern limits levels depth id path found).files := by
  induction levels generalizing levels' depth id path found with
  | zero => exact absurd ended (by simp [visitFolder_zero])
  | succ levels ih =>
    have alike : TurnsBack limits' depth id found ↔ TurnsBack limits depth id found :=
      tracks.turnsBack_iff here
    rcases visitFolder_of_ended ended with
      ⟨turns, nothing⟩ | ⟨open_, _, entries, level, opened, inside, files⟩
    · rcases visitFolder_of_ended ended' with ⟨_, nothing'⟩ | ⟨open', _⟩
      · rw [nothing, nothing']
      · exact absurd (alike.2 turns) open'
    · obtain rfl := Nat.succ.inj level
      rcases visitFolder_of_ended ended' with
        ⟨turns', _⟩ | ⟨_, levels', entries', rfl, opened', inside', files'⟩
      · exact absurd (alike.1 turns') open_
      · obtain ⟨p, same, barren, barren', deeper⟩ :=
          tracks.entries id entries entries' here opened.listed opened'.listed
        obtain ⟨stop, less⟩ := visitEntries_filter (fun e present hollow =>
          (barren e present hollow).passed levels (depth + 1)) inside
        obtain ⟨stop', less'⟩ := visitEntries_filter (fun e present hollow =>
          (barren' e present hollow).passed levels' (depth + 1)) inside'
        rw [files, files', ← less, ← less', same]
        rw [same] at stop'
        refine visitEntries_congr_files tracks.results ?_ stop stop'
        intro e present down path found ended ended'
        obtain ⟨present, kept⟩ := List.mem_filter.1 present
        exact ih (deeper e present kept down) ended ended'

/-- Searches of storages that keep track of each other have the same result, if both have one. -/
theorem search_tracks {tracked : String → Prop} {folder : Option String} {start : String}
    {files files' : List File}
    (tracks : Tracks client state client' state' pattern limits limits' tracked)
    (begins : Begins client state folder start) (begins' : Begins client' state' folder start)
    (here : tracked start) (h : (search client state folder pattern limits).result = .ok files)
    (h' : (search client' state' folder pattern limits').result = .ok files') : files' = files := by
  rw [search_result begins, conclude] at h
  rw [search_result begins', conclude, tracks.results] at h'
  split at h
  · cases h
  · next ended =>
    split at h'
    · cases h'
    · next ended' =>
      have same : (walk client' state' start pattern limits').files =
          (walk client state start pattern limits).files :=
            visitFolder_tracks tracks here ended ended'
      rw [same] at h'
      exact Except.ok.inj (h'.symm.trans h)

end TreeFetch.Storage.Search
