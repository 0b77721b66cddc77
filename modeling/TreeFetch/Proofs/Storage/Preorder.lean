import TreeFetch.Proofs.Storage.Termination

/-!
# All requests of a search

Without a limit of results a search asks for the end of every chain of folders that begins where the
search does. It goes over the chains in the lexicographic order of their steps: a folder comes
before what lies below it, and everything below it comes before the next folder of the same listing.
A folder that cannot be listed is the last one that is asked for, and the search returns nothing but
the reason.

Results:
1. `Search.visitFolder_covers`: a walk leaves out no chain before the place where it stops.
2. `search_preorder`: what a search asks for that ends by itself, and how it ends.
-/

namespace TreeFetch.Storage

namespace Search

section

variable {σ : Type} {client : Client σ} {state : σ} {pattern : Regex.Pattern} {limits : Limits}

/-! ## Chains up to a place -/

/-- The requests of a part of a walk are the ends of the chains with a property, up to where it
stops: a chain that is left out comes after the others, and the walk has not come to its end. -/
structure Covers (P : List Nat → String → Prop) (calls : List Call) (stop : Option Stop)
    (chains : List (List Nat × String)) : Prop extends Follows P calls chains where
  missed : ∀ steps lower, P steps lower →
    (steps, lower) ∈ chains ∨ stop ≠ none ∧ ∀ c ∈ chains, c.1 < steps

namespace Covers

variable {P Q : List Nat → String → Prop} {calls more : List Call} {stop : Option Stop}
  {chains others : List (List Nat × String)}

theorem nil (nothing : ∀ steps lower, P steps lower → stop ≠ none) : Covers P [] stop [] :=
  ⟨.nil, fun steps lower chain => .inr ⟨nothing steps lower chain, List.forall_mem_nil _⟩⟩

theorem widen (h : Covers P calls stop chains)
    (wider : ∀ steps lower, P steps lower → Q steps lower)
    (later : ∀ steps lower, Q steps lower →
      P steps lower ∨ stop ≠ none ∧ ∀ c ∈ chains, c.1 < steps) :
      Covers Q calls stop chains :=
  ⟨h.toFollows.imp wider, fun steps lower chain =>
    (later steps lower chain).elim (h.missed steps lower) .inr⟩

theorem step (h : Covers P calls stop chains) (i : Nat) :
    Covers (fun steps lower => ∃ rest, steps = i :: rest ∧ P rest lower) calls stop
      (chains.map fun c => (i :: c.1, c.2)) := by
  refine ⟨h.toFollows.step i, ?_⟩
  rintro _ lower ⟨rest, rfl, chain⟩
  refine (h.missed rest lower chain).imp (fun present => List.mem_map.2 ⟨_, present, rfl⟩) ?_
  refine And.imp_right fun before c present => ?_
  obtain ⟨c, inside, rfl⟩ := List.mem_map.1 present
  simpa using before c inside

/-- The chains of a part of a walk that comes to its end, and those of a later part. -/
theorem append (h : Covers P calls none chains) (h' : Covers Q more stop others)
    (apart : ∀ steps lower steps' lower', P steps lower → Q steps' lower' → steps < steps') :
    Covers (fun steps lower => P steps lower ∨ Q steps lower) (calls ++ more) stop
      (chains ++ others) := by
  refine ⟨h.toFollows.append h'.toFollows apart, ?_⟩
  rintro steps lower (earlier | later)
  · rcases h.missed steps lower earlier with present | ⟨stopped, _⟩
    · exact .inl (List.mem_append_left _ present)
    · exact absurd rfl stopped
  · rcases h'.missed steps lower later with present | ⟨stopped, before⟩
    · exact .inl (List.mem_append_right _ present)
    · refine .inr ⟨stopped, fun c present => ?_⟩
      rcases List.mem_append.1 present with first | second
      · exact apart _ _ _ _ (h.each c first) later
      · exact before c second

end Covers

/-! ## Walks -/

theorem Chain.begins_admitted {depth : Nat} {id lower : String} {steps : List Nat}
    (h : Chain client state limits depth id steps lower) : Admitted limits depth id := by
  cases h with
  | here admitted => exact admitted
  | down opened _ _ _ => exact opened.admitted

/-- A folder that is admitted is asked for, unless enough files are found. -/
theorem asks_of_admitted {levels depth found : Nat} {id path : String}
    (admitted : Admitted limits depth id) (room : isFull limits found = false) :
    .list id ∈
      Event.calls
        (visitFolder client state pattern limits (levels + 1) depth id path found).events := by
  obtain ⟨shallow, included⟩ := admitted_iff.1 admitted
  rw [visitFolder_succ, if_neg shallow, if_neg (by simp [room]), if_neg included]
  cases listed : (client.list state id).result with
  | error e => simp [listed]
  | ok entries => simp [listed, Storage.Visit.andThen, Storage.Visit.say]

/-- The visit of a list of entries leaves out no chain before the place where it stops. -/
theorem visitEntries_covers {parent : String}
    {enter : (id path : String) → (found : Nat) → Visit}
    {P : Entry → List Nat → String → Prop} (unlimited : limits.maxResults = none)
    (entries : List Entry) (enters : ∀ e ∈ entries, e.Descends → ∀ path found,
      ∃ chains, Covers (P e) (Event.calls (enter e.id path found).events)
      (enter e.id path found).stop
        chains)
    (first found : Nat) :
    ∃ chains, Covers (GoesOn P first entries)
      (Event.calls (visitEntries pattern limits parent enter entries found).events)
      (visitEntries pattern limits parent enter entries found).stop chains := by
  induction entries generalizing first found with
  | nil =>
    refine ⟨[], .nil ?_⟩
    rintro _ _ ⟨j, e, _, at_, _⟩
    simp at at_
  | cons e rest ih =>
    obtain ⟨visit, whole, entered, passed⟩ :=
      visitEntries_cons_calls pattern parent enter e rest (isFull_unlimited unlimited found)
    rw [whole]
    have here : ∃ chains,
        Covers (GoesTo P first e) (Event.calls visit.events) visit.stop chains := by
      by_cases down : e.Descends
      · rw [entered down]
        obtain ⟨chains, covers⟩ :=
          enters e (List.mem_cons_self ..) down (childPath parent e.name) found
        refine ⟨_, (covers.step first).widen ?_ ?_⟩
        · rintro _ lower ⟨more, rfl, inside⟩
          exact ⟨more, rfl, down, inside⟩
        · rintro _ lower ⟨more, rfl, _, inside⟩
          exact .inl ⟨more, rfl, inside⟩
      · rw [(passed down).1]
        refine ⟨[], .nil ?_⟩
        rintro _ _ ⟨_, _, descends, _⟩
        exact absurd descends down
    obtain ⟨chains, now⟩ := here
    cases stop : visit.stop with
    | some reason =>
      rw [Visit.andThen_of_stop stop, stop]
      rw [stop] at now
      refine ⟨chains, now.widen (fun _ _ first => goesOn_cons_iff.2 (.inl first))
        fun steps lower chain => ?_⟩
      exact (goesOn_cons_iff.1 chain).imp_right fun after =>
        ⟨by simp, fun c present => (now.each c present).lt after⟩
    | none =>
      obtain ⟨others, after⟩ := ih (fun x present => enters x (List.mem_cons_of_mem e present))
        (first + 1) (found + visit.files.length)
      rw [Visit.calls_andThen stop, Visit.stop_andThen stop]
      rw [stop] at now
      exact ⟨_, (now.append after fun _ _ _ _ => GoesTo.lt).widen (fun _ _ => goesOn_cons_iff.2)
        fun steps lower chain => .inl (goesOn_cons_iff.1 chain)⟩

/-- A walk without a limit of results leaves out no chain before the place where it stops. -/
theorem visitFolder_covers (unlimited : limits.maxResults = none) (levels depth : Nat)
    (id path : String) (found : Nat) :
    ∃ chains, Covers (Chain client state limits depth id)
      (Event.calls (visitFolder client state pattern limits levels depth id path found).events)
      (visitFolder client state pattern limits levels depth id path found).stop chains := by
  induction levels generalizing depth id path found with
  | zero => exact ⟨[], .nil fun _ _ _ => by simp [visitFolder_zero]⟩
  | succ levels ih =>
    have visits := visitFolder_visits client state pattern limits levels depth id path found
    have asks : Admitted limits depth id → .list id ∈ Event.calls
        (visitFolder client state pattern limits (levels + 1) depth id path found).events :=
      fun admitted => asks_of_admitted admitted (isFull_unlimited unlimited found)
    generalize visitFolder client state pattern limits (levels + 1) depth id path found = visit
      at visits asks ⊢
    have itself : ∀ {stop : Option Stop},
        Covers (fun steps lower => steps = [] ∧ lower = id) [.list id] stop [([], id)] := by
      refine ⟨.single id, ?_⟩
      rintro _ _ ⟨rfl, rfl⟩
      exact .inl (List.mem_singleton_self _)
    cases visits with
    | turned none_ =>
      rw [none_] at asks ⊢
      refine ⟨[], .nil fun _ _ chain => ?_⟩
      exact absurd (asks chain.begins_admitted) List.not_mem_nil
    | refused admitted failed asked =>
      rw [asked]
      refine ⟨_, itself.widen ?_ fun steps lower chain => .inl ?_⟩
      · rintro _ _ ⟨rfl, rfl⟩
        exact .here admitted
      · cases chain with
        | here _ => exact ⟨rfl, rfl⟩
        | down opened _ _ _ => cases failed.symm.trans opened.listed
    | @entered events entries inner opened asked whole =>
      obtain ⟨chains, inside⟩ : ∃ chains,
          Covers (GoesOn (fun e => Chain client state limits (depth + 1) e.id) 0 entries)
            (Event.calls inner.events) inner.stop chains := by
        rw [whole]
        exact visitEntries_covers unlimited entries
          (fun e _ _ path found => ih (depth + 1) e.id path found) 0 found
      rw [Event.calls_append, asked]
      refine ⟨_, (itself.append inside ?_).widen (fun _ _ => (chain_iff opened).2)
        fun steps lower chain => .inl ((chain_iff opened).1 chain)⟩
      rintro _ _ _ _ ⟨rfl, _⟩ further
      exact further.nil_lt

/-! ## Searches -/

variable (client state) in
/-- How a search ends that has asked for the ends of chains with a property: all of them are
answered, and no chain is left out, or the last one is not answered, and no chain before it is left
out. -/
inductive Ends (P : List Nat → String → Prop) :
    List (List Nat × String) → Except Stop (List File) → Prop
  | whole {chains : List (List Nat × String)} {files : List File} :
      (∀ c ∈ chains, Answered client state (.list c.2)) →
      (∀ steps lower, P steps lower → (steps, lower) ∈ chains) → Ends P chains (.ok files)
  | refused {earlier : List (List Nat × String)} {last : List Nat} {id : String} {e : Error} :
      (∀ c ∈ earlier, Answered client state (.list c.2)) →
        (client.list state id).result = .error e →
      (∀ steps lower, P steps lower → steps < last → (steps, lower) ∈ earlier) →
      Ends P (earlier ++ [(last, id)]) (.error (.failed e))

/-- A walk that ends by itself ends with all its chains, or with the first one that is not
answered. -/
theorem Covers.ends {P : List Nat → String → Prop} {visit : Storage.Visit}
    {chains : List (List Nat × String)} (h : Covers P (Event.calls visit.events) visit.stop chains)
    (settled : Settled client state (Event.calls visit.events) visit.stop)
    (finite : visit.stop ≠ some .endless) :
    Ends client state P chains (conclude limits visit) := by
  have asks := h.asks
  rw [conclude]
  generalize Event.calls visit.events = calls at h settled asks
  generalize visit.stop = stop at h settled finite
  cases settled with
  | answered all other =>
    have ended : stop = none := by
      cases stop with
      | none => rfl
      | some fault =>
        cases fault with
        | endless => exact absurd rfl finite
        | failed e => exact absurd rfl (other e)
    subst ended
    refine .whole (fun c present => all _ ?_) fun steps lower chain => ?_
    · rw [asks]
      exact List.mem_map.2 ⟨c, present, rfl⟩
    · exact (h.missed steps lower chain).resolve_right fun later => later.1 rfl
  | @refused before id e all failed =>
    obtain ⟨earlier, final, rfl, rfl, only⟩ := List.map_eq_append_iff.1 asks.symm
    obtain ⟨⟨last, id'⟩, rfl, same⟩ := List.map_eq_singleton_iff.1 only
    obtain rfl : id' = id := Call.list.inj same
    refine .refused (fun c present => all _ (List.mem_map.2 ⟨c, present, rfl⟩)) failed
      fun steps lower chain less => ?_
    rcases h.missed steps lower chain with present | ⟨_, before⟩
    · refine (List.mem_append.1 present).resolve_right fun here => ?_
      obtain ⟨rfl, _⟩ := Prod.mk.inj (List.mem_singleton.1 here)
      exact List.lt_irrefl _ less
    · have after := before (last, id') (List.mem_append_right _ (List.mem_singleton_self _))
      exact absurd (List.lt_trans less after) (List.lt_irrefl _)

end

end Search

open Search

/-- A search without a limit of results, of which the walk ends by itself, asks for the end of each
chain of folders once, in the lexicographic order of the chains. It asks for all of them, or for
those up to the first one that cannot be listed; then it fails for the reason that was given. If it
is to begin at the root and there is none, it asks for nothing and fails for that reason. The
storage has to allow for as many folders inside one another as the walk goes down; how much more it
allows for makes no difference. -/
theorem search_preorder {σ : Type} {client : Client σ} {state : σ} {pattern : Regex.Pattern}
    {limits : Limits} {folder : Option String} {fewer height : Nat}
    (unlimited : limits.maxResults = none)
    (finite : ∀ start, Begins client state folder start →
      (visitFolder client state pattern limits fewer 0 start "" 0).stop ≠ some .endless)
    (generous : fewer ≤ height) :
    let run := search (client.withHeight height) state folder pattern limits
    (∀ start, Begins client state folder start →
      ∃ chains, Follows (Chain client state limits 0 start) (Event.calls run.events) chains ∧
        Ends client state (Chain client state limits 0 start) chains run.result) ∧
    ∀ e, folder = none → client.rootId state = .error e →
      run.result = .error (.failed e) ∧ Event.calls run.events = [] := by
  intro run
  constructor
  · intro start begins
    have begins' : Begins (client.withHeight height) state folder start := begins
    have ends := (terminates_withHeight (finite start begins) generous).ends
    have asked : Event.calls run.events = _ := search_calls begins'
    have result : run.result = _ := search_result begins'
    rw [asked, result]
    rw [walk, visitFolder_withHeight] at ends ⊢
    obtain ⟨chains, covers⟩ := @visitFolder_covers σ client state pattern limits unlimited
      (levels (client.withHeight height) state limits) 0 start "" 0
    exact ⟨chains, covers.toFollows, covers.ends (visitFolder_settled _ 0 start "" 0) ends⟩
  · rintro e rfl root
    exact search_of_root root

/-! ## A folder in two places -/

/-- A root with a folder that is in it twice, a folder to be left out, one that cannot be listed,
and the first one again. -/
def Catalogue.shared : Catalogue where
  folders := [
    ("r", [⟨"s", "a", .folder, 5, false⟩, ⟨"s", "b", .folder, 4, false⟩,
      ⟨"x", "c", .folder, 3, false⟩, ⟨"m", "d", .folder, 2, false⟩,
      ⟨"s", "e", .folder, 1, false⟩]),
    ("s", [⟨"f", "f", .file, 1, false⟩, ⟨"t", "t", .folder, 1, false⟩]),
    ("t", []), ("x", [])]
  root := some "r"
  localId := none
  failing := []

set_option maxRecDepth 100000 in
theorem Catalogue.shared_stop :
    (visitFolder Catalogue.client Catalogue.shared default
      { excluded := ["x"] } 3 0 "r" "" 0).stop =
      some (.failed (.pathOperation "m" "list folder")) := by
  cbv

set_option maxRecDepth 100000 in
theorem Catalogue.shared_calls :
    Event.calls (search (Catalogue.client.withHeight 3) Catalogue.shared none default
      { excluded := ["x"] }).events =
        [.list "r", .list "s", .list "t", .list "s", .list "t", .list "m"] := by
  cbv

/-- A folder that is in two places is listed twice, one that is excluded is not listed, and nothing
is listed after the one that cannot be. -/
theorem search_preorder_shared :
    let limits : Limits := { excluded := ["x"] }
    let client := Catalogue.client
    let run := search (client.withHeight 3) Catalogue.shared none default limits
    (limits.maxResults = none ∧ Begins client Catalogue.shared none "r" ∧
      (visitFolder client Catalogue.shared default limits 3 0 "r" "" 0).stop ≠ some .endless) ∧
    (∃ chains, Follows (Chain client Catalogue.shared limits 0 "r")
      (Event.calls run.events) chains ∧
      Ends client Catalogue.shared (Chain client Catalogue.shared limits 0 "r")
      chains run.result) ∧
    Event.calls run.events =
      [.list "r", .list "s", .list "t", .list "s", .list "t", .list "m"] := by
  intro limits client run
  have finite : ∀ start, Begins client Catalogue.shared none start →
      (visitFolder client Catalogue.shared default limits 3 0 start "" 0).stop ≠
        some .endless := by
    intro start begins
    obtain rfl : "r" = start := Except.ok.inj begins
    rw [Catalogue.shared_stop]
    simp
  exact ⟨⟨rfl, rfl, finite "r" rfl⟩, (search_preorder rfl finite le_rfl).1 "r" rfl,
    Catalogue.shared_calls⟩

end TreeFetch.Storage
