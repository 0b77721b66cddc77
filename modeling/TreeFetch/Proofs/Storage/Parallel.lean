import TreeFetch.Proofs.Storage.Ways

/-!
# Walks side by side

Two walks find the same files if they make the same tests: the storages list the same entries, or
both fail, and both walks may go as much deeper and find as much more. One of them may have come
further down, if its depth limit is as much greater, and the paths that it gives may be moved, if
those of all entries are moved in the same manner. What the walks say on the way may differ.

Results:
1. `visitEntries_parallel`: two lists of entries side by side.
2. `visitFolder_parallel`: two folders side by side.
-/

namespace TreeFetch.Storage

def File.moved (move : String → String) (f : File) : File := { f with path := move f.path }

theorem File.map_moved_self (files : List File) :
    (files.map (File.moved fun path => path)) = files :=
  List.map_id files

/-- Two answers are the same, or both are errors that belong together. -/
inductive AnswersAlike {α : Type} (belong : Error → Error → Prop) :
    Except Error α → Except Error α → Prop
  | ok (a : α) : AnswersAlike belong (.ok a) (.ok a)
  | error {e e' : Error} (both : belong e e') : AnswersAlike belong (.error e) (.error e')

theorem AnswersAlike.of_eq {α : Type} {answer answer' : Except Error α}
    (same : answer' = answer) : AnswersAlike Eq answer answer' := by
  subst same
  cases answer' with
  | error e => exact .error rfl
  | ok a => exact .ok a

/-- Two walks stop alike: neither stops early, neither ends, or both fail with errors that belong
together. -/
inductive StopsAlike (belong : Error → Error → Prop) : Option Stop → Option Stop → Prop
  | ended : StopsAlike belong none none
  | endless : StopsAlike belong (some .endless) (some .endless)
  | failed {e e' : Error} (both : belong e e') :
      StopsAlike belong (some (.failed e)) (some (.failed e'))

theorem StopsAlike.eq {stop stop' : Option Stop} (h : StopsAlike Eq stop stop') : stop' = stop := by
  cases h with
  | ended => rfl
  | endless => rfl
  | failed both => rw [both]

variable {belong : Error → Error → Prop} {move : String → String}

/-- Two visits find the same files, but for their paths, and stop alike. -/
structure Visit.Parallel (belong : Error → Error → Prop) (move : String → String)
    (visit visit' : Visit) : Prop where
  files : visit'.files = visit.files.map (File.moved move)
  stop : StopsAlike belong visit.stop visit'.stop

theorem Visit.Parallel.andThen {first first' : Visit} {next next' : Nat → Visit}
    (h : first.Parallel belong move first')
    (hn : ∀ found, (next found).Parallel belong move (next' found)) :
    (first.andThen next).Parallel belong move (first'.andThen next') := by
  obtain ⟨found, _, reason⟩ := first
  obtain ⟨found', _, reason'⟩ := first'
  obtain ⟨files, stop⟩ := h
  obtain rfl : found' = found.map (File.moved move) := files
  simp only at stop
  cases stop with
  | endless => exact ⟨rfl, .endless⟩
  | failed both => exact ⟨rfl, .failed both⟩
  | ended =>
    have later := hn found.length
    constructor
    · show found.map (File.moved move) ++ (next' (found.map (File.moved move)).length).files =
        (found ++ (next found.length).files).map (File.moved move)
      rw [List.length_map, later.files, List.map_append]
    · show StopsAlike belong (next found.length).stop
        (next' (found.map (File.moved move)).length).stop
      rw [List.length_map]
      exact later.stop

namespace Search

variable {σ τ : Type} {client : Client σ} {state : σ} {client' : Client τ} {state' : τ}
  {pattern : Regex.Pattern} {limits limits' : Limits} {shift : Nat}

variable (belong move client state client' state' limits limits' shift) in
/-- Two walks are led by the same: the same entries, and limits that leave as much room. The second
walk is `shift` levels further down, and its paths are moved. -/
structure Parallel : Prop where
  list : ∀ id, AnswersAlike belong (client.list state id).result (client'.list state' id).result
  maxDepth : limits'.maxDepth = limits.maxDepth.map (· + shift)
  excluded : limits'.excluded = limits.excluded
  paths : ∀ id entries, (client.list state id).result = .ok entries →
    ∀ e ∈ entries, ∀ path,
    childPath (move path) e.name = move (childPath path e.name)

variable (limits limits') in
/-- Two walks may find as many more files, after those that each of them has found. -/
def SameRoom (found found' : Nat) : Prop :=
  ∀ more, isFull limits' (found' + more) = isFull limits (found + more)

theorem SameRoom.after {found found' : Nat} (h : SameRoom limits limits' found found')
    (more : Nat) : SameRoom limits limits' (found + more) (found' + more) := by
  intro later
  rw [Nat.add_assoc, Nat.add_assoc]
  exact h (more + later)

theorem SameRoom.unlimited (h : limits.maxResults = none)
    (h' : limits'.maxResults = none) (found found' : Nat) :
    SameRoom limits limits' found found' := by
  intro more
  rw [isFull_unlimited h, isFull_unlimited h']

theorem visitEntries_parallel {path : String}
    {enter enter' : (id path : String) → (found : Nat) → Visit} {entries : List Entry}
    (paths : ∀ e ∈ entries, childPath (move path) e.name = move (childPath path e.name))
    (deeper : ∀ id path found found', SameRoom limits limits' found found' →
      (enter id path found).Parallel belong move (enter' id (move path) found'))
    {found found' : Nat} (room : SameRoom limits limits' found found') :
    (visitEntries pattern limits path enter entries found).Parallel belong move
      (visitEntries pattern limits' (move path) enter' entries found') := by
  induction entries generalizing found found' with
  | nil => exact ⟨rfl, .ended⟩
  | cons e rest ih =>
    rw [visitEntries_next, visitEntries_next,
      show isFull limits' found' = isFull limits found from room 0]
    split
    · exact ⟨rfl, .ended⟩
    · refine Visit.Parallel.andThen ?_ fun more =>
        ih (fun x present => paths x (List.mem_cons_of_mem e present)) (room.after more)
      rw [visitEntry, visitEntry, paths e (List.mem_cons_self ..)]
      simp only
      split
      · exact ⟨rfl, .ended⟩
      · cases e.kind with
        | folder => exact deeper _ _ _ _ room
        | file =>
          simp only
          split
          · exact ⟨rfl, .ended⟩
          · exact ⟨rfl, .ended⟩

theorem visitFolder_parallel
    (parallel : Parallel belong move client state client' state' limits limits' shift)
    (levels depth : Nat)
    (id path : String) {found found' : Nat} (room : SameRoom limits limits' found found') :
    (visitFolder client state pattern limits levels depth id path found).Parallel belong move
      (visitFolder client' state' pattern limits' levels (depth + shift) id
        (move path) found') := by
  induction levels generalizing depth id path found found' with
  | zero => exact ⟨rfl, .endless⟩
  | succ levels ih =>
    have depths : (limits'.maxDepth.any fun most => depth + shift > most) =
        limits.maxDepth.any fun most => depth > most := by
      rw [parallel.maxDepth, Option.any_map]
      congr 1
      funext most
      simp
    rw [visitFolder_succ, visitFolder_succ, depths,
      show isFull limits' found' = isFull limits found from room 0,
      parallel.excluded]
    split
    · exact ⟨rfl, .ended⟩
    · split
      · exact ⟨rfl, .ended⟩
      · split
        · exact ⟨rfl, .ended⟩
        · have answers := parallel.list id
          have paths := parallel.paths id
          simp only
          generalize (client.list state id).result = answer at answers paths ⊢
          generalize (client'.list state' id).result = answer' at answers ⊢
          cases answers with
          | error both => exact ⟨rfl, .failed both⟩
          | ok entries =>
            have entered : ∀ events events',
                Visit.Parallel belong move { events } { events := events' } :=
              fun _ _ => ⟨rfl, .ended⟩
            refine (entered _ _).andThen fun _ => ?_
            rw [Nat.add_right_comm]
            exact visitEntries_parallel (fun e present => paths entries rfl e present path)
              (fun id path _ _ => ih (depth + 1) id path) room

end Search

end TreeFetch.Storage
