import TreeFetch.Proofs.Storage.Ways

/-!
# Where found files come from

Whatever a search is limited to, it returns only files that lie in folders to which its walk comes.
Excluded folders make no difference to a walk that comes to none of them.

Results:
1. `search_sound`: every file of the result is an entry of a folder to which the walk comes.
2. `search_unexcluded`: the result is that of a search without excluded folders, if that one comes
   to none of them.
-/

namespace TreeFetch.Storage

/-- The same limits without excluded folders. -/
def Limits.unexcluded (limits : Limits) : Limits := { limits with excluded := [] }

namespace Search

variable {σ : Type} {client : Client σ} {state : σ} {pattern : Regex.Pattern} {limits : Limits}

/-! ## Soundness -/

/-- A visit finds what its first part finds and, unless that stops, what its second part finds. -/
theorem files_andThen (first : Storage.Visit) (next : Nat → Storage.Visit) :
    (first.andThen next).files = first.files ∨
      (first.andThen next).files = first.files ++ (next first.files.length).files := by
  rw [Storage.Visit.andThen]
  split
  · exact .inl rfl
  · exact .inr rfl

theorem mem_andThen {first : Storage.Visit} {next : Nat → Storage.Visit} {f : File}
    (h : f ∈ (first.andThen next).files) :
    f ∈ first.files ∨ f ∈ (next first.files.length).files := by
  rcases files_andThen first next with only | both
  · exact .inl (only ▸ h)
  · exact List.mem_append.1 (both ▸ h)

variable (client state pattern limits) in
/-- A walk from `start` comes to a folder that holds a file, and the file is kept. -/
def Meets (start : String) (f : File) : Prop :=
  ∃ depth id entries e path, Comes client state limits start depth id ∧
    Opens client state limits depth id entries ∧ e ∈ entries ∧ e.Matches pattern ∧
    f = ⟨e.id, e.name, path, e.modified⟩

/-- What the visit of an entry finds is the file that it tells of, or lies in the folder. -/
theorem VisitsEntry.sound {path : String} {enter : (id path : String) → (found : Nat) → Visit}
    {P : File → Prop} {found : Nat} {e : Entry} {visit : Visit}
    (visits : VisitsEntry pattern path enter found e visit)
    (deeper : e.Descends → ∀ f ∈ (enter e.id path found).files, P f)
    (here : e.Matches pattern → P ⟨e.id, e.name, path, e.modified⟩) :
    ∀ f ∈ visit.files, P f := by
  by_cases down : e.Descends
  · rw [visits.entered down]
    exact deeper down
  · by_cases kept : e.Matches pattern
    · rw [(visits.kept kept).1]
      exact List.forall_mem_singleton.2 (here kept)
    · rw [(visits.passed down kept).1]
      exact List.forall_mem_nil _

theorem visitEntries_sound {parent : String}
    {enter : (id path : String) → (found : Nat) → Visit}
    {P : File → Prop} {entries : List Entry}
    (deeper : ∀ e ∈ entries, e.Descends → ∀ found,
      ∀ f ∈ (enter e.id (childPath parent e.name) found).files, P f)
    (here : ∀ e ∈ entries, e.Matches pattern →
      P ⟨e.id, e.name, childPath parent e.name, e.modified⟩)
    (found : Nat) {f : File}
    (h : f ∈ (visitEntries pattern limits parent enter entries found).files) : P f := by
  induction entries generalizing found with
  | nil => exact absurd h List.not_mem_nil
  | cons e rest ih =>
    have first := List.mem_cons_self (a := e) (l := rest)
    have later : ∀ {x}, x ∈ rest → x ∈ e :: rest := List.mem_cons_of_mem e
    by_cases open_ : isFull limits found = true
    · rw [visitEntries_next, if_pos open_] at h
      exact absurd h List.not_mem_nil
    · obtain ⟨visit, visits, whole⟩ :=
        visitEntries_cons pattern parent enter e rest (by simpa using open_)
      rw [whole] at h
      rcases mem_andThen h with now | after
      · exact visits.sound (fun down => deeper e first down found) (here e first) f now
      · exact ih (fun x present => deeper x (later present))
          (fun x present => here x (later present)) _ after

variable (client state pattern limits) in
/-- What the visit of a folder finds, it finds among the entries of the folder. -/
theorem visitFolder_files (levels depth : Nat) (id path : String) (found : Nat) :
    (visitFolder client state pattern limits (levels + 1) depth id path found).files = [] ∨
      ∃ entries, Opens client state limits depth id entries ∧
        (visitFolder client state pattern limits (levels + 1) depth id path found).files =
          (visitEntries pattern limits path
            (visitFolder client state pattern limits levels (depth + 1))
            entries found).files := by
  rw [visitFolder_succ]
  split
  · exact .inl rfl
  · next shallow =>
    split
    · exact .inl rfl
    · split
      · exact .inl rfl
      · next included =>
        simp only
        split
        · exact .inl rfl
        · next entries listed =>
          exact .inr ⟨entries, ⟨admitted_iff.2 ⟨shallow, included⟩, listed⟩, rfl⟩

theorem visitFolder_sound {start : String} {levels depth : Nat} {id path : String} {found : Nat}
    {f : File} (comes : Comes client state limits start depth id)
    (h : f ∈ (visitFolder client state pattern limits levels depth id path found).files) :
    Meets client state pattern limits start f := by
  induction levels generalizing depth id path found f with
  | zero => exact absurd h List.not_mem_nil
  | succ levels ih =>
    rcases visitFolder_files client state pattern limits levels depth id path found with
      nothing | ⟨entries, opened, inside⟩
    · rw [nothing] at h
      exact absurd h List.not_mem_nil
    · rw [inside] at h
      refine visitEntries_sound (fun e present down found f met => ?_)
        (fun e present kept => ?_) found h
      · exact ih (comes.step opened present down) met
      · exact ⟨depth, id, entries, e, _, comes, opened, present, kept, rfl⟩

/-- Every file that a search returns is one that its walk meets. -/
theorem search_sound {folder : Option String} {start : String} {files : List File} {f : File}
    (begins : Begins client state folder start)
    (h : (search client state folder pattern limits).result = .ok files) (present : f ∈ files) :
    Meets client state pattern limits start f :=
  visitFolder_sound .start (mem_walk_of_search begins h present)

/-! ## Without excluded folders -/

theorem isFull_unexcluded (found : Nat) :
    isFull limits.unexcluded found = isFull limits found := rfl

theorem visitEntries_congr {parent : String}
    {enter enter' : (id path : String) → (found : Nat) → Visit} {entries : List Entry}
    (same : ∀ e ∈ entries, e.Descends → ∀ path found,
      enter e.id path found = enter' e.id path found)
    (found : Nat) :
    visitEntries pattern limits parent enter entries found =
      visitEntries pattern limits.unexcluded parent enter' entries found := by
  induction entries generalizing found with
  | nil => rfl
  | cons e rest ih =>
    have others := ih fun x present => same x (List.mem_cons_of_mem e present)
    have first : visitEntry pattern parent enter e found =
        visitEntry pattern parent enter' e found :=
      visitEntry_congr fun down path => same e (List.mem_cons_self ..) down path found
    rw [visitEntries_next, visitEntries_next, isFull_unexcluded, first]
    simp only [others]

/-- A walk that comes to no excluded folder is the one without excluded folders. -/
theorem visitFolder_unexcluded {start : String}
    (unmet : ∀ depth id, Comes client state limits.unexcluded start depth id →
      id ∉ limits.excluded)
    {levels depth : Nat} {id path : String} {found : Nat}
    (comes : Comes client state limits.unexcluded start depth id) :
    visitFolder client state pattern limits levels depth id path found =
      visitFolder client state pattern limits.unexcluded levels depth id path found := by
  induction levels generalizing depth id path found with
  | zero => rfl
  | succ levels ih =>
    have out : limits.excluded.contains id = false := by
      simpa using unmet depth id comes
    rw [visitFolder_succ, visitFolder_succ]
    simp only [isFull_unexcluded, out, Bool.false_eq_true, if_false]
    -- both walks make the same tests in the same order, except for the exclusion
    by_cases deep : (limits.maxDepth.any fun most => depth > most) = true
    · rw [if_pos deep]
      exact (if_pos deep).symm
    · rw [if_neg deep]
      refine Eq.trans ?_ (if_neg deep).symm
      by_cases full : isFull limits found = true
      · rw [if_pos full, if_pos full]
      · rw [if_neg full, if_neg full]
        cases listed : (client.list state id).result with
        | error e => rfl
        | ok entries =>
          have opened : Opens client state limits.unexcluded depth id entries :=
            ⟨admitted_iff.2 ⟨deep, by simp [Limits.unexcluded]⟩, listed⟩
          have inner : visitEntries pattern limits path
              (visitFolder client state pattern limits levels (depth + 1)) entries found =
                visitEntries pattern limits.unexcluded path
                  (visitFolder client state pattern limits.unexcluded levels (depth + 1)) entries
                  found :=
            visitEntries_congr (fun e present down _ _ => ih (comes.step opened present down)) found
          simp only [inner]
          rfl

/-- A search that comes to no excluded folder is the one without excluded folders. -/
theorem search_unexcluded {folder : Option String} {start : String}
    (begins : Begins client state folder start)
    (unmet : ∀ depth id, Comes client state limits.unexcluded start depth id →
      id ∉ limits.excluded) :
    (search client state folder pattern limits).result =
      (search client state folder pattern limits.unexcluded).result := by
  rw [search_result begins, search_result begins, walk, visitFolder_unexcluded unmet .start]
  rfl

end Search

end TreeFetch.Storage
