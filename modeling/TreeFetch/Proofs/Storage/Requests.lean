import TreeFetch.Proofs.Storage.Answers

/-!
# The requests of a search

A search asks a storage for one folder after the other. It comes to each of them over a chain of
folders that begins where the search does; the steps of a chain are the places of its folders in
their listings. No chain is gone twice, and none leads below the depth limit. A folder that cannot
be listed ends the search.

Results:
1. `Search.visitFolder_visits`: how the visit of one folder goes.
2. `Search.visitFolder_chains`: the requests of a walk are the ends of chains, in depth-first order.
3. `Search.visitFolder_settled`: a walk fails with the answer to its last request, and all requests
   before were answered.
4. `Search.search_calls`: a search asks for what its walk asks for.
-/

namespace TreeFetch.Storage

namespace Event

@[simp] theorem calls_nil : calls [] = [] := rfl

@[simp] theorem calls_append (first rest : List Event) :
    calls (first ++ rest) = calls first ++ calls rest :=
  List.filterMap_append ..

@[simp] theorem calls_cons_told (record : Record) (events : List Event) :
    calls (.told record :: events) = calls events := rfl

@[simp] theorem calls_cons_asked (call : Call) (events : List Event) :
    calls (.asked call :: events) = call :: calls events := rfl

@[simp] theorem calls_told (records : List Record) : calls (records.map .told) = [] := by
  induction records with
  | nil => rfl
  | cons record rest ih => exact ih

end Event

namespace Visit

@[simp] theorem calls_say (severity : Severity) (message : String) :
    Event.calls (say severity message).events = [] := rfl

theorem calls_andThen {first : Visit} {next : Nat → Visit} (ended : first.stop = none) :
    Event.calls (first.andThen next).events =
      Event.calls first.events ++ Event.calls (next first.files.length).events := by
  simp [andThen, ended]

theorem stop_andThen {first : Visit} {next : Nat → Visit} (ended : first.stop = none) :
    (first.andThen next).stop = (next first.files.length).stop := by
  simp [andThen, ended]

theorem andThen_of_stop {first : Visit} {next : Nat → Visit} {stop : Stop}
    (stopped : first.stop = some stop) : first.andThen next = first := by
  simp [andThen, stopped]

end Visit

namespace Search

section

variable {σ : Type} (client : Client σ) (state : σ) (pattern : Regex.Pattern) (limits : Limits)

/-! ## One folder -/

/-- How the visit of a folder goes for which there is still a level. -/
inductive Visits (levels depth : Nat) (id path : String) (found : Nat) : Storage.Visit → Prop
  /-- The walk turns back. -/
  | turned {events : List Event} :
      Event.calls events = [] → Visits levels depth id path found { events }
  /-- The folder is asked for in vain. -/
  | refused {events : List Event} {e : Error} :
      Admitted limits depth id → (client.list state id).result = .error e →
      Event.calls events = [.list id] →
      Visits levels depth id path found { events, stop := some (.failed e) }
  /-- The folder is asked for, and then its entries are visited. -/
  | entered {events : List Event} {entries : List Entry} {inner : Storage.Visit} :
      Opens client state limits depth id entries → Event.calls events = [.list id] →
      inner = visitEntries pattern limits path
        (visitFolder client state pattern limits levels (depth + 1)) entries found →
      Visits levels depth id path found { inner with events := events ++ inner.events }

theorem visitFolder_visits (levels depth : Nat) (id path : String) (found : Nat) :
    Visits client state pattern limits levels depth id path found
      (visitFolder client state pattern limits (levels + 1) depth id path found) := by
  rw [visitFolder_succ]
  split
  · exact .turned (Visit.calls_say _ _)
  · next shallow =>
    split
    · exact .turned rfl
    · split
      · exact .turned (Visit.calls_say _ _)
      · next included =>
        have admitted := admitted_iff.2 ⟨shallow, included⟩
        have asked : Event.calls (.asked (.list id) :: (client.list state id).notes.map .told) =
            [.list id] := by simp
        simp only
        split
        · next e failed => exact .refused admitted failed asked
        · next entries listed =>
          refine .entered ⟨admitted, listed⟩ ?_ rfl
          rw [Event.calls_append, asked]
          rfl

variable {client state pattern limits}

variable (pattern) in
/-- A folder among the entries is entered, and nothing is asked for the sake of any other entry. -/
theorem visitEntries_cons_calls (parent : String)
    (enter : (id path : String) → (found : Nat) → Visit)
    {found : Nat} (e : Entry) (rest : List Entry) (open_ : isFull limits found = false) :
    ∃ visit : Storage.Visit,
      visitEntries pattern limits parent enter (e :: rest) found =
        (visit.andThen fun more => visitEntries pattern limits parent enter rest (found + more)) ∧
      (e.Descends → visit = enter e.id (childPath parent e.name) found) ∧
      (¬e.Descends → Event.calls visit.events = [] ∧ visit.stop = none) := by
  rw [visitEntries_next, if_neg (by simp [open_])]
  refine ⟨_, rfl, fun down => ?_, fun stays => ?_⟩
  · simp [visitEntry, down.kept, down.kind]
  · unfold visitEntry
    split
    · exact ⟨rfl, rfl⟩
    · next kept =>
      cases kind : e.kind with
      | folder => exact absurd ⟨kind, by simpa using kept⟩ stays
      | file =>
        simp only
        split
        · exact ⟨rfl, rfl⟩
        · exact ⟨rfl, rfl⟩

variable (pattern) in
theorem visitEntries_calls_full (parent : String)
    (enter : (id path : String) → (found : Nat) → Visit)
    {found : Nat} (full : isFull limits found = true) (entries : List Entry) :
    Event.calls (visitEntries pattern limits parent enter entries found).events = [] ∧
      (visitEntries pattern limits parent enter entries found).stop = none := by
  cases entries with
  | nil => exact ⟨rfl, rfl⟩
  | cons e rest =>
    rw [visitEntries_next, if_pos full]
    exact ⟨rfl, rfl⟩

/-! ## Chains -/

variable (client state limits) in
/-- A chain of folders leads from the folder with an id at a depth down to another one. All of them
are admitted, and each one but the first is in the listing of the one before, at the place that the
steps say. -/
inductive Chain : (depth : Nat) → (id : String) → List Nat → (lower : String) → Prop
  | here {depth : Nat} {id : String} : Admitted limits depth id → Chain depth id [] id
  | down {depth : Nat} {id lower : String} {entries : List Entry} {i : Nat} {e : Entry}
      {steps : List Nat} :
      Opens client state limits depth id entries → entries[i]? = some e → e.Descends →
      Chain (depth + 1) e.id steps lower → Chain depth id (i :: steps) lower

theorem Chain.admitted {depth : Nat} {id lower : String} {steps : List Nat}
    (h : Chain client state limits depth id steps lower) :
    Admitted limits (depth + steps.length) lower := by
  induction h with
  | here admitted => exact admitted
  | @down depth _ _ _ _ _ steps _ _ _ _ ih =>
    rw [List.length_cons, ← Nat.add_assoc, Nat.add_right_comm]
    exact ih

/-- The requests of a walk are the ends of chains: each chain leads to one request, and the requests
have the depth-first order of the chains. -/
structure Follows (P : List Nat → String → Prop) (calls : List Call)
    (chains : List (List Nat × String)) : Prop where
  asks : calls = chains.map fun c => .list c.2
  ordered : (chains.map (·.1)).Pairwise (· < ·)
  each : ∀ c ∈ chains, P c.1 c.2

theorem Follows.nil {P : List Nat → String → Prop} : Follows P [] [] :=
  ⟨rfl, .nil, List.forall_mem_nil _⟩

theorem Follows.imp {P Q : List Nat → String → Prop} {calls : List Call}
    {chains : List (List Nat × String)} (h : Follows P calls chains)
    (wider : ∀ steps lower, P steps lower → Q steps lower) : Follows Q calls chains :=
  ⟨h.asks, h.ordered, fun c present => wider _ _ (h.each c present)⟩

theorem Follows.step {P : List Nat → String → Prop} {calls : List Call}
    {chains : List (List Nat × String)} (h : Follows P calls chains) (i : Nat) :
    Follows (fun steps lower => ∃ rest, steps = i :: rest ∧ P rest lower) calls
      (chains.map fun c => (i :: c.1, c.2)) := by
  refine ⟨?_, ?_, fun c present => ?_⟩
  · rw [h.asks, List.map_map]
    rfl
  · rw [List.map_map]
    refine List.pairwise_map.2 ((List.pairwise_map.1 h.ordered).imp fun less => ?_)
    simpa using less
  · obtain ⟨c, found, rfl⟩ := List.mem_map.1 present
    exact ⟨c.1, rfl, h.each c found⟩

/-- The chains of two parts of a walk, of which the later ones come after the earlier ones. -/
theorem Follows.append {P Q : List Nat → String → Prop} {calls more : List Call}
    {chains others : List (List Nat × String)} (h : Follows P calls chains)
    (h' : Follows Q more others)
    (apart : ∀ steps lower steps' lower', P steps lower → Q steps' lower' → steps < steps') :
    Follows (fun steps lower => P steps lower ∨ Q steps lower) (calls ++ more)
    (chains ++ others) := by
  refine ⟨?_, ?_, fun c present => ?_⟩
  · rw [h.asks, h'.asks, List.map_append]
  · rw [List.map_append, List.pairwise_append]
    refine ⟨h.ordered, h'.ordered, fun a first b second => ?_⟩
    obtain ⟨c, here, rfl⟩ := List.mem_map.1 first
    obtain ⟨d, there, rfl⟩ := List.mem_map.1 second
    exact apart _ _ _ _ (h.each c here) (h'.each d there)
  · exact (List.mem_append.1 present).imp (h.each c) (h'.each c)

/-- A chain goes on to one of the entries of a list, which begins at the place `first` of its
listing. -/
def GoesOn (P : Entry → List Nat → String → Prop) (first : Nat) (entries : List Entry)
    (steps : List Nat) (lower : String) : Prop :=
  ∃ j e rest, entries[j]? = some e ∧ e.Descends ∧ steps = (first + j) :: rest ∧
    P e rest lower

/-- A chain goes on to the entry at the place `first` of its listing. -/
def GoesTo (P : Entry → List Nat → String → Prop) (first : Nat) (e : Entry) (steps : List Nat)
    (lower : String) : Prop :=
  ∃ more, steps = first :: more ∧ e.Descends ∧ P e more lower

theorem goesOn_cons_iff {P : Entry → List Nat → String → Prop} {first : Nat} {e : Entry}
    {rest : List Entry} {steps : List Nat} {lower : String} :
    GoesOn P first (e :: rest) steps lower ↔
      GoesTo P first e steps lower ∨ GoesOn P (first + 1) rest steps lower := by
  constructor
  · rintro ⟨j, x, more, at_, down, rfl, inside⟩
    cases j with
    | zero =>
      obtain rfl : e = x := by simpa using at_
      exact .inl ⟨more, rfl, down, inside⟩
    | succ j =>
      refine .inr ⟨j, x, more, by simpa using at_, down, ?_, inside⟩
      rw [Nat.add_right_comm, Nat.add_assoc]
  · rintro (⟨more, rfl, down, inside⟩ | ⟨j, x, more, at_, down, rfl, inside⟩)
    · exact ⟨0, e, more, rfl, down, rfl, inside⟩
    · exact ⟨j + 1, x, more, by simpa using at_,
        down, by rw [Nat.add_right_comm, Nat.add_assoc], inside⟩

/-- The chains to an entry come before those to the entries after it. -/
theorem GoesTo.lt {P : Entry → List Nat → String → Prop} {first : Nat} {e : Entry}
    {rest : List Entry}
    {steps steps' : List Nat} {lower lower' : String} (h : GoesTo P first e steps lower)
    (h' : GoesOn P (first + 1) rest steps' lower') : steps < steps' := by
  obtain ⟨more, rfl, _, _⟩ := h
  obtain ⟨j, x, more', _, _, rfl, _⟩ := h'
  exact List.cons_lt_cons_iff.2 (.inl (by omega))

theorem visitEntries_chains {parent : String}
    {enter : (id path : String) → (found : Nat) → Visit}
    {P : Entry → List Nat → String → Prop} (entries : List Entry)
    (enters : ∀ e ∈ entries, e.Descends → ∀ path found,
      ∃ chains, Follows (P e) (Event.calls (enter e.id path found).events) chains)
    (first found : Nat) :
    ∃ chains, Follows (GoesOn P first entries)
      (Event.calls (visitEntries pattern limits parent enter entries found).events) chains := by
  induction entries generalizing first found with
  | nil => exact ⟨[], .nil⟩
  | cons e rest ih =>
    cases full : isFull limits found with
    | true =>
      rw [(visitEntries_calls_full pattern parent enter full _).1]
      exact ⟨[], .nil⟩
    | false =>
      obtain ⟨visit, whole, entered, passed⟩ :=
        visitEntries_cons_calls pattern parent enter e rest full
      rw [whole]
      have here : ∃ chains, Follows (GoesTo P first e) (Event.calls visit.events) chains := by
        by_cases down : e.Descends
        · rw [entered down]
          obtain ⟨chains, follows⟩ :=
            enters e (List.mem_cons_self ..) down (childPath parent e.name) found
          refine ⟨_, (follows.step first).imp ?_⟩
          rintro _ lower ⟨more, rfl, inside⟩
          exact ⟨more, rfl, down, inside⟩
        · rw [(passed down).1]
          exact ⟨[], .nil⟩
      obtain ⟨chains, now⟩ := here
      cases stop : visit.stop with
      | some reason =>
        rw [Visit.andThen_of_stop stop]
        exact ⟨chains, now.imp fun _ _ first => goesOn_cons_iff.2 (.inl first)⟩
      | none =>
        obtain ⟨others, later⟩ :=
          ih (fun x present => enters x (List.mem_cons_of_mem e present))
          (first + 1) (found + visit.files.length)
        rw [Visit.calls_andThen stop]
        exact ⟨_, (now.append later fun _ _ _ _ => GoesTo.lt).imp fun _ _ => goesOn_cons_iff.2⟩

/-- A chain ends where it begins, or it goes on to an entry of the folder. -/
theorem chain_iff {depth : Nat} {id : String} {entries : List Entry}
    (opened : Opens client state limits depth id entries) {steps : List Nat} {lower : String} :
    Chain client state limits depth id steps lower ↔
      (steps = [] ∧ lower = id) ∨
        GoesOn (fun e => Chain client state limits (depth + 1) e.id) 0 entries steps lower := by
  constructor
  · intro chain
    cases chain with
    | here _ => exact .inl ⟨rfl, rfl⟩
    | @down _ _ _ others i e steps opened' at_ down chain =>
      obtain rfl := Opens.unique opened.listed opened'
      exact .inr ⟨i, e, steps, at_, down, by rw [Nat.zero_add], chain⟩
  · rintro (⟨rfl, rfl⟩ | ⟨j, e, more, at_, down, rfl, chain⟩)
    · exact .here opened.admitted
    · rw [Nat.zero_add]
      exact .down opened at_ down chain

theorem GoesOn.nil_lt {P : Entry → List Nat → String → Prop} {first : Nat}
    {entries : List Entry}
    {steps : List Nat} {lower : String} (h : GoesOn P first entries steps lower) : [] < steps := by
  obtain ⟨j, e, more, _, _, rfl, _⟩ := h
  exact List.nil_lt_cons _ _

theorem Follows.single (id : String) :
    Follows (fun steps lower => steps = [] ∧ lower = id) [.list id] [([], id)] :=
  ⟨rfl, List.pairwise_singleton _ _, List.forall_mem_singleton.2 ⟨rfl, rfl⟩⟩

/-- The requests of a walk are the ends of chains from the folder where it begins. -/
theorem visitFolder_chains (levels depth : Nat) (id path : String) (found : Nat) :
    ∃ chains, Follows (Chain client state limits depth id)
      (Event.calls (visitFolder client state pattern limits levels depth id path found).events)
      chains := by
  induction levels generalizing depth id path found with
  | zero => exact ⟨[], .nil⟩
  | succ levels ih =>
    have visits := visitFolder_visits client state pattern limits levels depth id path found
    generalize visitFolder client state pattern limits (levels + 1) depth id path found =
      visit at visits ⊢
    cases visits with
    | turned none_ =>
      rw [none_]
      exact ⟨[], .nil⟩
    | refused admitted failed asked =>
      rw [asked]
      refine ⟨_, (Follows.single id).imp ?_⟩
      rintro _ _ ⟨rfl, rfl⟩
      exact .here admitted
    | @entered events entries inner opened asked whole =>
      obtain ⟨chains, inside⟩ : ∃ chains,
          Follows (GoesOn (fun e => Chain client state limits (depth + 1) e.id) 0 entries)
            (Event.calls inner.events) chains := by
        rw [whole]
        exact visitEntries_chains entries
          (fun e _ _ path found => ih (depth + 1) e.id path found) 0 found
      rw [Event.calls_append, asked]
      refine ⟨_, ((Follows.single id).append inside ?_).imp fun _ _ => (chain_iff opened).2⟩
      rintro _ _ _ _ ⟨rfl, _⟩ further
      exact further.nil_lt

/-! ## Answers -/

variable (client state) in
def Answered (call : Call) : Prop :=
  ∃ id entries, call = .list id ∧ (client.list state id).result = .ok entries

variable (client state) in
/-- Requests after which a walk stops or goes on: all of them are answered, or the last one is not,
which ends the walk. -/
inductive Settled : List Call → Option Stop → Prop
  | answered {calls : List Call} {stop : Option Stop} :
      (∀ call ∈ calls, Answered client state call) → (∀ e, stop ≠ some (.failed e)) →
      Settled calls stop
  | refused {before : List Call} {id : String} {e : Error} :
      (∀ call ∈ before, Answered client state call) →
        (client.list state id).result = .error e →
      Settled (before ++ [.list id]) (some (.failed e))

theorem Settled.none {stop : Option Stop} (other : ∀ e, stop ≠ some (.failed e)) :
    Settled client state [] stop :=
  .answered (List.forall_mem_nil _) other

theorem Settled.after {first calls : List Call} {stop : Option Stop}
    (answered : ∀ call ∈ first, Answered client state call)
    (h : Settled client state calls stop) : Settled client state (first ++ calls) stop := by
  cases h with
  | answered all other =>
    exact .answered (fun call present =>
      (List.mem_append.1 present).elim (answered call) (all call)) other
  | @refused before id e all failed =>
    rw [← List.append_assoc]
    exact .refused
      (fun call present => (List.mem_append.1 present).elim (answered call) (all call)) failed

theorem Settled.andThen {first : Storage.Visit} {next : Nat → Storage.Visit}
    (h : Settled client state (Event.calls first.events) first.stop)
    (hn : ∀ found, Settled client state (Event.calls (next found).events) (next found).stop) :
    Settled client state (Event.calls (first.andThen next).events) (first.andThen next).stop := by
  cases stop : first.stop with
  | some reason =>
    rw [Visit.andThen_of_stop stop]
    exact h
  | none =>
    rw [Visit.calls_andThen stop, Visit.stop_andThen stop]
    rw [stop] at h
    generalize Event.calls first.events = calls at h ⊢
    cases h with
    | answered all _ => exact (hn _).after all

theorem Settled.stop_of_failed {calls : List Call} {stop : Option Stop} {id : String} {e : Error}
    (h : Settled client state calls stop) (asked : .list id ∈ calls)
    (failed : (client.list state id).result = .error e) : stop = some (.failed e) := by
  have unanswered : ¬Answered client state (.list id) := by
    rintro ⟨other, entries, same, listed⟩
    obtain rfl := Call.list.inj same
    cases failed.symm.trans listed
  cases h with
  | answered all _ => exact absurd (all _ asked) unanswered
  | @refused before last e' all failed' =>
    rcases List.mem_append.1 asked with earlier | here
    · exact absurd (all _ earlier) unanswered
    · obtain rfl := Call.list.inj (List.mem_singleton.1 here)
      rw [Except.error.inj (failed.symm.trans failed')]

theorem Settled.exists_of_stop {calls : List Call} {e : Error}
    (h : Settled client state calls (some (.failed e))) :
    ∃ id, .list id ∈ calls ∧ (client.list state id).result = .error e := by
  cases h with
  | answered _ other => exact absurd rfl (other e)
  | refused _ failed => exact ⟨_, List.mem_append_right _ (List.mem_singleton_self _), failed⟩

theorem visitEntries_settled {parent : String}
    {enter : (id path : String) → (found : Nat) → Visit} (enters : ∀ id path found,
      Settled client state (Event.calls (enter id path found).events) (enter id path found).stop)
    (entries : List Entry) (found : Nat) :
    Settled client state
      (Event.calls (visitEntries pattern limits parent enter entries found).events)
      (visitEntries pattern limits parent enter entries found).stop := by
  induction entries generalizing found with
  | nil => exact .none (by simp [visitEntries_nil])
  | cons e rest ih =>
    cases full : isFull limits found with
    | true =>
      obtain ⟨calls, ended⟩ := visitEntries_calls_full pattern parent enter full (e :: rest)
      rw [calls, ended]
      exact .none (by simp)
    | false =>
      obtain ⟨visit, whole, entered, passed⟩ :=
        visitEntries_cons_calls pattern parent enter e rest full
      rw [whole]
      refine .andThen ?_ fun more => ih (found + more)
      by_cases down : e.Descends
      · rw [entered down]
        exact enters _ _ _
      · rw [(passed down).1, (passed down).2]
        exact .none (by simp)

/-- A walk that fails does so with the answer to its last request. All other requests of a walk are
answered. -/
theorem visitFolder_settled (levels depth : Nat) (id path : String) (found : Nat) :
    Settled client state
      (Event.calls (visitFolder client state pattern limits levels depth id path found).events)
      (visitFolder client state pattern limits levels depth id path found).stop := by
  induction levels generalizing depth id path found with
  | zero => exact .none (by simp [visitFolder_zero])
  | succ levels ih =>
    have visits := visitFolder_visits client state pattern limits levels depth id path found
    generalize visitFolder client state pattern limits (levels + 1) depth id path found =
      visit at visits ⊢
    cases visits with
    | turned none_ =>
      rw [none_]
      exact .none (by simp)
    | refused admitted failed asked =>
      rw [asked, ← List.nil_append [Call.list id]]
      exact .refused (List.forall_mem_nil _) failed
    | @entered events entries inner opened asked whole =>
      rw [Event.calls_append, asked]
      have inside : Settled client state (Event.calls inner.events) inner.stop := by
        rw [whole]
        exact visitEntries_settled (ih (depth + 1)) entries found
      exact inside.after (List.forall_mem_singleton.2 ⟨id, entries, rfl, opened.listed⟩)

/-! ## Searches -/

variable {folder : Option String} {start : String}

theorem search_calls (begins : Begins client state folder start) :
    Event.calls (search client state folder pattern limits).events =
      Event.calls (walk client state start pattern limits).events := by
  cases folder with
  | none =>
    have root : client.rootId state = .ok start := begins
    simp only [search_unheard, root, Except.map]
    cases (walk client state start pattern limits).stop <;> simp
  | some id =>
    obtain rfl : id = start := begins
    simp only [search_unheard]
    cases (walk client state id pattern limits).stop <;> simp

/-- A search from the root asks for no folder if there is no root. -/
theorem search_of_root {e : Error} (root : client.rootId state = .error e) :
    (search client state none pattern limits).result = .error (.failed e) ∧
      Event.calls (search client state none pattern limits).events = [] := by
  simp [search_unheard, root, Except.map]

/-- A search begins somewhere, or it is to begin at the root and there is none. -/
theorem begins_or (client : Client σ) (state : σ) (folder : Option String) :
    (∃ start, Begins client state folder start) ∨
      folder = none ∧ ∃ e, client.rootId state = .error e := by
  cases folder with
  | some id => exact .inl ⟨id, rfl⟩
  | none =>
    cases root : client.rootId state with
    | ok start => exact .inl ⟨start, root⟩
    | error e => exact .inr ⟨rfl, e, rfl⟩

/-- A search fails because it is to begin at the root and there is none, or because a folder cannot
be listed that it asks for. -/
theorem search_failed_iff {e : Error} :
    (search client state folder pattern limits).result = .error (.failed e) ↔
      (folder = none ∧ client.rootId state = .error e) ∨
        ∃ id, .list id ∈ Event.calls (search client state folder pattern limits).events ∧
          (client.list state id).result = .error e := by
  rcases begins_or client state folder with ⟨start, begins⟩ | ⟨rfl, e', root⟩
  · have rooted : ¬(folder = none ∧ client.rootId state = .error e) := by
      rintro ⟨rfl, root⟩
      cases root.symm.trans begins
    have settled : Settled client state
      (Event.calls (walk client state start pattern limits).events)
        (walk client state start pattern limits).stop := visitFolder_settled _ 0 start "" 0
    rw [search_result begins, search_calls begins, conclude, or_iff_right rooted]
    cases stopped : (walk client state start pattern limits).stop with
    | none =>
      simp only [reduceCtorEq, false_iff, not_exists, not_and]
      intro id asked failed
      cases stopped.symm.trans (settled.stop_of_failed asked failed)
    | some stop =>
      simp only [Except.error.injEq]
      constructor
      · rintro rfl
        rw [stopped] at settled
        exact settled.exists_of_stop
      · rintro ⟨id, asked, failed⟩
        exact Option.some.inj (stopped.symm.trans (settled.stop_of_failed asked failed))
  · rw [(search_of_root root).1, (search_of_root root).2]
    simp [root]

end

end Search

end TreeFetch.Storage
