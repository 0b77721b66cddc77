import Mathlib
import TreeFetch.Proofs.Storage.Paths
import TreeFetch.Proofs.Storage.Heard

/-!
# The end of a walk

A walk remembers no folder that it has seen. It ends because it may not go deeper than the depth
limit, or, in a local storage, because it follows no link to a folder and so goes straight down
through the tree, wherever its start leads. The number of levels that a search allows for is then
never used up: allowing for more of them makes no difference.

Results:
1. `Search.visitFolder_more`: a walk that ends by itself is the same with more levels.
2. `Search.Suffices.ends`: levels that suffice are not used up.
3. `Local.terminates`: a walk through a local storage terminates.
4. `Local.Chain.steps_eq`: different chains of a walk through a local storage lead to different
   places.
5. `search_ends`: a search with a depth limit ends, and does not go below it. A search of a local
   storage ends, and lists no folder twice.
-/

namespace TreeFetch.Storage

namespace Search

section

variable {σ : Type} {client : Client σ} {state : σ} {pattern : Regex.Pattern} {limits : Limits}

/-! ## More levels -/

/-- Parts of a walk that end by themselves may be replaced if they stay the same then. -/
theorem andThen_more {first first' : Storage.Visit} {next next' : Nat → Storage.Visit}
    (same : first.stop ≠ some .endless → first' = first)
    (later : ∀ found, (next found).stop ≠ some .endless → next' found = next found)
    (ends : (first.andThen next).stop ≠ some .endless) :
    first'.andThen next' = first.andThen next := by
  cases stop : first.stop with
  | some reason =>
    rw [Visit.andThen_of_stop stop, stop] at ends
    rw [same (stop ▸ ends), Visit.andThen_of_stop stop, Visit.andThen_of_stop stop]
  | none =>
    rw [Visit.stop_andThen stop] at ends
    rw [same (by simp [stop])]
    simp only [Storage.Visit.andThen, stop, later _ ends]

theorem visitEntries_more {parent : String}
    {enter enter' : (id path : String) → (found : Nat) → Visit}
    (same : ∀ id path found, (enter id path found).stop ≠ some .endless →
      enter' id path found = enter id path found)
    (entries : List Entry) (found : Nat)
    (ends : (visitEntries pattern limits parent enter entries found).stop ≠ some .endless) :
    visitEntries pattern limits parent enter' entries found =
      visitEntries pattern limits parent enter entries found := by
  induction entries generalizing found with
  | nil => rfl
  | cons e rest ih =>
    rw [visitEntries_next] at ends ⊢
    rw [visitEntries_next]
    split
    · rfl
    · next open_ =>
      rw [if_neg open_] at ends
      refine andThen_more ?_ (fun more => ih (found + more)) ends
      intro here
      rw [visitEntry] at here ⊢
      rw [visitEntry]
      split
      · rfl
      · next kept =>
        rw [if_neg kept] at here
        cases kind : e.kind with
        | file => rfl
        | folder =>
          simp only [kind] at here
          exact same _ _ _ here

/-- A walk that ends by itself is the same if it may go down more levels. -/
theorem visitFolder_more {levels more depth : Nat} {id path : String} {found : Nat}
    (fewer : levels ≤ more)
    (ends : (visitFolder client state pattern limits levels depth id path found).stop ≠
      some .endless) :
    visitFolder client state pattern limits more depth id path found =
      visitFolder client state pattern limits levels depth id path found := by
  induction levels generalizing more depth id path found with
  | zero => exact absurd rfl ends
  | succ levels ih =>
    obtain ⟨more, rfl⟩ : ∃ rest, more = rest + 1 := ⟨more - 1, by omega⟩
    rw [visitFolder_succ] at ends ⊢
    rw [visitFolder_succ]
    -- both walks make the same tests, and go over the same entries if none of them ends the visit
    split
    · rfl
    · next shallow =>
      rw [if_neg shallow] at ends
      split
      · rfl
      · next open_ =>
        rw [if_neg open_] at ends
        split
        · rfl
        · next included =>
          rw [if_neg included] at ends
          cases listed : (client.list state id).result with
          | error e => simp only [listed]
          | ok entries =>
            simp only [listed] at ends ⊢
            refine andThen_more (fun _ => rfl) (fun _ => ?_) ends
            exact visitEntries_more (fun id path found => ih (by omega)) entries found

theorem Suffices.ends {levels depth : Nat} {id : String}
    (enough : Suffices client state limits levels depth id) (path : String) (found : Nat) :
    (visitFolder client state pattern limits levels depth id path found).stop ≠ some .endless :=
  (sufficesIn_iff.2 enough).ends (.deaf state) path found rfl

variable (client state pattern limits) in
/-- A walk terminates: it ends by itself within the levels that a search allows for, and is the same
walk if it may go down more of them. -/
structure Terminates (start : String) : Prop where
  ends : (walk client state start pattern limits).stop ≠ some .endless
  settled : ∀ more, levels client state limits ≤ more →
    visitFolder client state pattern limits more 0 start "" 0 =
      walk client state start pattern limits

/-- A walk that terminates is what it is within any number of levels within which it ends. -/
theorem Terminates.walk_eq {fewer : Nat} {start : String}
    (h : Terminates client state pattern limits start)
    (ends : (visitFolder client state pattern limits fewer 0 start "" 0).stop ≠ some .endless) :
    walk client state start pattern limits = visitFolder client state pattern limits fewer 0
      start "" 0 := by
  rw [← h.settled _ (Nat.le_max_right fewer _)]
  exact visitFolder_more (Nat.le_max_left _ _) ends

/-- A walk that ends by itself within some levels terminates if a search allows for as many. -/
theorem terminates_of_ends {fewer : Nat} {start : String}
    (ends : (visitFolder client state pattern limits fewer 0 start "" 0).stop ≠ some .endless)
    (allowed : fewer ≤ levels client state limits) :
    Terminates client state pattern limits start := by
  have same := visitFolder_more allowed ends
  refine ⟨by rwa [walk, same], fun more generous => ?_⟩
  rw [walk, same, visitFolder_more (allowed.trans generous) ends]

theorem terminates_of_suffices {fewer : Nat} {start : String}
    (enough : Suffices client state limits fewer 0 start)
    (allowed : fewer ≤ levels client state limits) :
    Terminates client state pattern limits start :=
  terminates_of_ends (enough.ends "" 0) allowed

theorem terminates_of_maxDepth {most : Nat} (limit : limits.maxDepth = some most) (start : String) :
    Terminates client state pattern limits start := by
  have enough : Suffices client state limits (most + 2) 0 start :=
    suffices_of_maxDepth limit (by omega) (by omega) start
  exact terminates_of_suffices enough (by simp [levels, limit])

/-- A walk that ends by itself within some levels terminates if the storage is estimated to be
nested as deep. -/
theorem terminates_withHeight {fewer height : Nat} {start : String}
    (ends : (visitFolder client state pattern limits fewer 0 start "" 0).stop ≠ some .endless)
    (generous : fewer ≤ height) :
    Terminates (client.withHeight height) state pattern limits start := by
  cases limit : limits.maxDepth with
  | some most => exact terminates_of_maxDepth limit start
  | none =>
    have ends' :
      (visitFolder (client.withHeight height) state pattern limits fewer 0 start "" 0).stop ≠
        some .endless := by
      rwa [visitFolder_withHeight]
    refine terminates_of_ends ends' ?_
    rw [levels, limit]
    exact generous.trans ((Nat.le_succ _).trans (Nat.le_mul_of_pos_right _ (Nat.succ_pos _)))

theorem search_ne_endless {folder : Option String}
    (terminates : ∀ start, Begins client state folder start →
      Terminates client state pattern limits start) :
    (search client state folder pattern limits).result ≠ .error .endless := by
  rcases begins_or client state folder with ⟨start, begins⟩ | ⟨rfl, e, root⟩
  · have ends := (terminates start begins).ends
    rw [search_result begins, conclude]
    split
    · next stop stopped =>
      rintro same
      obtain rfl := Except.error.inj same
      exact ends stopped
    · simp
  · rw [(search_of_root root).1]
    simp

variable (pattern limits) in
/-- What a search asks for are the ends of chains from the folder where it begins. -/
theorem search_chains {folder : Option String} {start : String}
    (begins : Begins client state folder start) :
    ∃ chains, Follows (Chain client state limits 0 start)
      (Event.calls (search client state folder pattern limits).events) chains := by
  rw [search_calls begins, walk]
  exact visitFolder_chains _ 0 start "" 0

end

end Search

end TreeFetch.Storage

/-! ## Local storages -/

namespace TreeFetch.Storage

namespace Local

open FileSystem Search

variable {s : Local} {fs : FileSystem} {limits : Limits} {id lower lower' : String}
  {segments : List String} {at_ : Location} {depth : Nat} {steps steps' : List Nat}

theorem terminates (s : Local) (fs : FileSystem) (pattern : Regex.Pattern) (limits : Limits)
    (start : String) : Terminates s.client fs pattern limits start := by
  have alike : ∀ seen, seen = fs → Alike fs seen := by
    rintro seen rfl
    exact .refl seen
  exact terminates_of_suffices
    (sufficesIn_iff.1 (sufficesIn_levels (.deaf fs) alike s limits start)) le_rfl

/-! ## No folder twice -/

/-- A chain leads straight down, over as many names as it has steps. -/
theorem Chain.below (chain : Chain s.client fs limits depth id steps lower)
    (leads : s.LeadsToFolder fs id segments at_) :
    ∃ names, names.length = steps.length ∧ s.place? fs lower = some (at_.down names) := by
  induction chain generalizing segments at_ with
  | here _ => exact ⟨[], rfl, leads.place?_eq⟩
  | @down depth id lower entries i e steps opened here down _ ih =>
    obtain ⟨names, length, place⟩ :=
      ih (leads_of_listed leads opened.listed (List.mem_of_getElem? here) down.kind)
    exact ⟨e.name :: names, by rw [List.length_cons, length, List.length_cons], place⟩

theorem Chain.steps_eq (chain : Chain s.client fs limits depth id steps lower)
    (chain' : Chain s.client fs limits depth id steps' lower')
    (leads : s.LeadsToFolder fs id segments at_) (same : s.place? fs lower = s.place? fs lower') :
    steps = steps' := by
  have lengths : steps.length = steps'.length := by
    obtain ⟨names, length, place⟩ := Chain.below chain leads
    obtain ⟨names', length', place'⟩ := Chain.below chain' leads
    rw [place, place', Option.some.injEq, Location.down_inj] at same
    rw [← length, ← length', same]
  induction chain generalizing segments at_ steps' with
  | here _ => exact (List.length_eq_zero_iff.1 lengths.symm).symm
  | @down depth id lower entries i e steps opened here down inner ih =>
    cases chain' with
    | here _ => cases lengths
    | @down _ _ _ entries' i' e' steps' opened' here' down' inner' =>
      obtain rfl := Opens.unique opened.listed opened'
      have entry := leads_of_listed leads opened.listed (List.mem_of_getElem? here) down.kind
      have entry' := leads_of_listed leads opened.listed (List.mem_of_getElem? here') down'.kind
      -- the places lie below the two entries, which therefore have one name
      obtain ⟨names, _, place⟩ := Chain.below inner entry
      obtain ⟨names', _, place'⟩ := Chain.below inner' entry'
      have name : e.name = e'.name := by
        rw [place, place', ← Location.down_cons, ← Location.down_cons, Option.some.injEq,
          Location.down_inj] at same
        exact (List.cons.inj same).1
      have step : i = i' := by
        have short : i < (entries'.map (·.name)).length := by
          rw [List.length_map]
          exact (List.getElem?_eq_some_iff.1 here).1
        refine (List.getElem?_inj short (list_distinct opened.listed)).1 ?_
        rw [List.getElem?_map, List.getElem?_map, here, here', Option.map_some,
          Option.map_some, name]
      subst step
      obtain rfl := Option.some.inj (here.symm.trans here')
      rw [ih inner' entry same (by simpa using lengths)]

/-- The place of the folder that is asked for, links followed. -/
def placeAsked? (s : Local) (fs : FileSystem) : Call → Option Location
  | .list id => s.place? fs id
  | .download .. => none

theorem nodup_of_follows {calls : List Call} {chains : List (List Nat × String)} {start : String}
    (h : Follows (Chain s.client fs limits 0 start) calls chains) :
    (calls.filterMap (s.placeAsked? fs)).Nodup := by
  have apart : chains.Pairwise fun c d =>
      ∀ a, s.place? fs c.2 = some a → ∀ b, s.place? fs d.2 = some b → a ≠ b := by
    refine (List.pairwise_map.1 h.ordered).imp_of_mem fun {c d} first second less => ?_
    rintro a here b there rfl
    have chain := h.each d second
    -- a chain that comes after another one has a step, so that its first folder is one of the tree
    obtain ⟨segments, at_, leads⟩ : ∃ segments at_,
        s.LeadsToFolder fs start segments at_ := by
      generalize d.1 = steps at less chain
      cases chain with
      | here _ => exact absurd less (List.not_lt_nil _)
      | down opened _ _ _ =>
        obtain ⟨segments, at_, leads, _⟩ := list_lists opened.listed
        exact ⟨segments, at_, leads⟩
    have same := Chain.steps_eq (h.each c first) chain leads (here.trans there.symm)
    exact absurd less (same ▸ List.lt_irrefl _)
  rw [h.asks, List.filterMap_map]
  exact apart.filterMap _ fun _ _ differ _ here _ there => differ _ here _ there

end Local

open Search

/-- A search with a depth limit terminates, whatever its storage holds: the folders that it asks for
are the ends of chains no longer than the limit, each chain once. A search of a local storage
terminates with any limits, wherever links lead, and never asks for what lies at one place twice. -/
theorem search_ends :
    (∀ (σ : Type) (client : Client σ) (state : σ) (folder : Option String)
      (pattern : Regex.Pattern)
        (limits : Limits) (most : Nat), limits.maxDepth = some most →
      let run := search client state folder pattern limits
      run.result ≠ .error .endless ∧
        (∀ start, Begins client state folder start →
          Terminates client state pattern limits start) ∧
        ∃ chains, Follows (fun steps lower => steps.length ≤ most ∧ ∃ start,
          Begins client state folder start ∧ Chain client state limits 0 start steps lower)
            (Event.calls run.events) chains) ∧
    ∀ (s : Local) (fs : FileSystem) (folder : Option String) (pattern : Regex.Pattern)
        (limits : Limits),
      let run := search s.client fs folder pattern limits
      run.result ≠ .error .endless ∧
        (∀ start, Begins s.client fs folder start →
          Terminates s.client fs pattern limits start) ∧
        ((Event.calls run.events).filterMap (s.placeAsked? fs)).Nodup := by
  constructor
  · intro σ client state folder pattern limits most limit run
    have terminates : ∀ start, Begins client state folder start →
        Terminates client state pattern limits start := fun start _ =>
      terminates_of_maxDepth limit start
    refine ⟨search_ne_endless terminates, terminates, ?_⟩
    rcases begins_or client state folder with ⟨start, begins⟩ | ⟨rfl, e, root⟩
    · obtain ⟨chains, follows⟩ := search_chains pattern limits begins
      refine ⟨chains, follows.imp fun steps lower chain => ⟨?_, start, begins, chain⟩⟩
      simpa using chain.admitted.shallow most limit
    · have nothing : Event.calls run.events = [] := (search_of_root root).2
      rw [nothing]
      exact ⟨[], .nil⟩
  · intro s fs folder pattern limits run
    have terminates : ∀ start, Begins s.client fs folder start →
        Terminates s.client fs pattern limits start := fun start _ =>
      s.terminates fs pattern limits start
    refine ⟨search_ne_endless terminates, terminates, ?_⟩
    rcases begins_or s.client fs folder with ⟨start, begins⟩ | ⟨_, e, root⟩
    · obtain ⟨chains, follows⟩ := search_chains pattern limits begins
      exact Local.nodup_of_follows follows
    · cases root

/-! ## A link that leads up -/

/-- A root that holds a folder and a link that leads back to the root. -/
def Local.circle : FileSystem where
  tree := FileSystem.Tree.empty |>.add [.text "o"] (.folder 1) |>.add [.text "l"] (.link "/")

set_option maxRecDepth 100000 in
theorem Catalogue.loop_calls :
    Event.calls
      (search Catalogue.client Catalogue.loop none default { maxDepth := some 2 }).events =
      [.list "r", .list "r", .list "r"] := by
  cbv

set_option maxRecDepth 100000 in
theorem Local.circle_calls :
    Event.calls (search (Local.client ⟨"/"⟩) Local.circle (some "l") default {}).events =
      [.list "l", .list "l/o"] := by
  cbv

/-- A folder that holds itself is searched down to the limit. A local storage is searched from the
link that leads to its root, and the link is not followed when it is met again. -/
theorem search_ends_circle :
    let limits : Limits := { maxDepth := some 2 }
    let looped := search Catalogue.client Catalogue.loop none default limits
    let linked := search (Local.client ⟨"/"⟩) Local.circle (some "l") default {}
    (limits.maxDepth = some 2 ∧ Begins Catalogue.client Catalogue.loop none "r" ∧
      Begins (Local.client ⟨"/"⟩) Local.circle (some "l") "l") ∧
    (looped.result ≠ .error .endless ∧
      Terminates Catalogue.client Catalogue.loop default limits "r" ∧
      ∃ chains, Follows (fun steps lower => steps.length ≤ 2 ∧ ∃ start,
        Begins Catalogue.client Catalogue.loop none start ∧
          Chain Catalogue.client Catalogue.loop limits 0 start steps lower)
            (Event.calls looped.events) chains) ∧
    linked.result ≠ .error .endless ∧
      Terminates (Local.client ⟨"/"⟩) Local.circle default {} "l" ∧
      ((Event.calls linked.events).filterMap (Local.placeAsked? ⟨"/"⟩ Local.circle)).Nodup ∧
      Event.calls looped.events = [.list "r", .list "r", .list "r"] ∧
      Event.calls linked.events = [.list "l", .list "l/o"] := by
  intro limits looped linked
  obtain ⟨ends, terminates, chains⟩ :=
    search_ends.1 _ Catalogue.client Catalogue.loop none default limits 2 rfl
  obtain ⟨ends', terminates', once⟩ :=
    search_ends.2 ⟨"/"⟩ Local.circle (some "l") default {}
  exact ⟨⟨rfl, rfl, rfl⟩, ⟨ends, terminates "r" rfl, chains⟩, ends',
    terminates' "l" rfl, once,
    Catalogue.loop_calls, Local.circle_calls⟩

end TreeFetch.Storage
