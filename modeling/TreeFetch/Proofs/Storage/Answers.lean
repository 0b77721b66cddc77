import TreeFetch.Proofs.Storage.Parallel

/-!
# What a search asks for

A search asks a storage for folders only, and what it finds depends on nothing but the answers: two
storages that answer alike, or one storage in two states, are searched with the same result. What
the storages say on the way may differ.

Results:
1. `Search.search_listsOnly`: a search downloads nothing.
2. `Search.search_agree`: the result of a search is the same in storages that answer alike.
-/

namespace TreeFetch.Storage

/-- Nothing is downloaded in the course of events. -/
def ListsOnly (events : List Event) : Prop :=
  ∀ id path, Event.asked (.download id path) ∉ events

namespace ListsOnly

theorem nil : ListsOnly [] := fun _ _ => List.not_mem_nil

theorem append {first rest : List Event} (h : ListsOnly first) (h' : ListsOnly rest) :
    ListsOnly (first ++ rest) := by
  intro id path present
  rcases List.mem_append.1 present with before | after
  · exact h id path before
  · exact h' id path after

theorem told (records : List Record) : ListsOnly (records.map .told) := by
  intro id path present
  obtain ⟨record, _, same⟩ := List.mem_map.1 present
  cases same

theorem cons_told {events : List Event} (record : Record) (h : ListsOnly events) :
    ListsOnly (.told record :: events) :=
  (told [record]).append h

theorem cons_list {events : List Event} (id : String) (h : ListsOnly events) :
    ListsOnly (.asked (.list id) :: events) := by
  intro file path present
  rcases List.mem_cons.1 present with same | later
  · cases same
  · exact h file path later

end ListsOnly

/-- Two storages, or one in two states, answer alike: each folder has the same entries or cannot be
listed for the same reason, and folders may stand inside one another as deep. -/
structure Agree {σ τ : Type} (client : Client σ) (state : σ) (client' : Client τ)
    (state' : τ) : Prop where
  list : ∀ id, (client'.list state' id).result = (client.list state id).result
  height : client'.height state' = client.height state

namespace Visit

theorem listsOnly_andThen {first : Visit} {next : Nat → Visit} (h : ListsOnly first.events)
    (hn : ∀ found, ListsOnly (next found).events) : ListsOnly (first.andThen next).events := by
  unfold Visit.andThen
  cases first.stop with
  | some stop => exact h
  | none => exact h.append (hn _)

end Visit

namespace Search

variable {σ τ : Type} {client : Client σ} {state : σ} {client' : Client τ} {state' : τ}
  {pattern : Regex.Pattern} {limits : Limits} {parent : String}
  {enter : (id path : String) → (found : Nat) → Visit}

/-! ## Folders only -/

theorem listsOnly_say (severity : Severity) (message : String) :
    ListsOnly (Storage.Visit.say severity message).events :=
  .cons_told _ .nil

theorem visitEntries_listsOnly (deeper : ∀ id path found, ListsOnly (enter id path found).events)
    (entries : List Entry) (found : Nat) :
    ListsOnly (visitEntries pattern limits parent enter entries found).events := by
  induction entries generalizing found with
  | nil => exact .nil
  | cons e rest ih =>
    rw [visitEntries_next]
    split
    · exact listsOnly_say _ _
    · refine Visit.listsOnly_andThen ?_ fun more => ih (found + more)
      unfold visitEntry
      split
      · exact listsOnly_say _ _
      · split
        · exact deeper _ _ _
        · split
          · exact listsOnly_say _ _
          · exact .nil

theorem visitFolder_listsOnly (levels depth : Nat) (id path : String) (found : Nat) :
    ListsOnly (visitFolder client state pattern limits levels depth id path found).events := by
  induction levels generalizing depth id path found with
  | zero => exact .nil
  | succ levels ih =>
    rw [visitFolder_succ]
    split
    · exact listsOnly_say _ _
    · split
      · exact .nil
      · split
        · exact listsOnly_say _ _
        · have asked : ListsOnly (.asked (.list id) :: (client.list state id).notes.map .told) :=
            .cons_list id (.told _)
          simp only
          split
          · exact asked
          · exact Visit.listsOnly_andThen (asked.append (listsOnly_say _ _)) fun _ =>
              visitEntries_listsOnly (ih (depth + 1)) _ found

theorem search_listsOnly (folder : Option String) :
    ListsOnly (search client state folder pattern limits).events := by
  have walked : ∀ start, ListsOnly (walk client state start pattern limits).events :=
    fun start => visitFolder_listsOnly _ _ start _ _
  rw [search_unheard]
  simp only
  split
  · exact .cons_told _ .nil
  · next id noted begins =>
    have quiet : ListsOnly noted := by
      cases folder with
      | some given =>
        obtain ⟨_, rfl⟩ := Prod.mk.inj (Except.ok.inj begins)
        exact .nil
      | none =>
        cases root : client.rootId state with
        | error e => simp [root, Except.map] at begins
        | ok top =>
          simp only [root, Except.map, Except.ok.injEq, Prod.mk.injEq] at begins
          rw [← begins.2]
          exact .cons_told _ .nil
    have all :=
      (ListsOnly.cons_told ⟨.debug, .search, s!"Starting search with pattern: {pattern.source}"⟩
      .nil).append quiet |>.append (walked id)
    split
    · exact all
    · exact all.append (.cons_told _ .nil)

/-! ## Storages that answer alike -/

theorem parallel_of_agree (agree : Agree client state client' state') (limits : Limits) :
    Parallel Eq (fun path => path) client state client' state' limits limits 0 where
  list id := .of_eq (agree.list id)
  maxDepth := Option.map_id'.symm
  excluded := rfl
  paths _ _ _ _ _ _ := rfl

theorem search_agree {folder : Option String} (agree : Agree client state client' state')
    (root : folder = none → client'.rootId state' = client.rootId state) :
    (search client' state' folder pattern limits).result =
      (search client state folder pattern limits).result := by
  have result : ∀ start, Begins client state folder start →
    Begins client' state' folder start →
      (search client' state' folder pattern limits).result =
        (search client state folder pattern limits).result := by
    intro start begins begins'
    have same : levels client' state' limits = levels client state limits := by
      rw [levels, levels, agree.height]
    have alike : (walk client state start pattern limits).Parallel Eq (fun path => path)
        (walk client' state' start pattern limits) := by
      rw [walk, walk, same]
      exact visitFolder_parallel (parallel_of_agree agree limits) _ 0 start "" fun _ => rfl
    rw [search_result begins, search_result begins', conclude, conclude, alike.stop.eq, alike.files,
      File.map_moved_self]
  cases folder with
  | some id => exact result id rfl rfl
  | none =>
    cases known : client.rootId state with
    | ok top => exact result top known ((root rfl).trans known)
    | error e =>
      have known' : client'.rootId state' = .error e := (root rfl).trans known
      simp only [search_unheard, known, known', Except.map]

end Search

end TreeFetch.Storage
