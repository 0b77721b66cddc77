import Mathlib.Data.Set.Card
import Mathlib.Logic.Relation
import TreeFetch.PathText
import TreeFetch.Storage.Catalogue
import TreeFetch.Proofs.Storage.Unheard

/-!
# What a search finds

A file is found once for every way that leads to it from the folder where the search begins. A way
goes down through folders that are neither trashed nor excluded nor too deep, and ends at a file
that is not trashed and whose name matches. Its steps are the places of its entries in their
listings, so that the lexicographic order of ways is the order in which a depth-first walk meets
them.

Results:
1. `visitFolder_enumerates`: a walk without a result limit that cannot run out of levels finds the
   files of all ways, in their order and each way once.
2. `newestFirst_sortedStably`: the result of a search is what was found, newest first and stable.
3. `search_enumerates`: both together for `search`, for every storage in which the folders below
   the start are finite in number and never contain themselves, or any storage if the depth is
   limited.
-/

namespace TreeFetch.Storage

/-- A folder that a walk goes on to. -/
structure Entry.Descends (e : Entry) : Prop where
  kind : e.kind = .folder
  kept : e.trashed = false

/-- A file that a walk keeps. -/
structure Entry.Matches (pattern : Regex.Pattern) (e : Entry) : Prop where
  kind : e.kind = .file
  kept : e.trashed = false
  named : pattern.matches e.name = true

namespace Search

section

variable {σ : Type} (client : Client σ) (state : σ) (pattern : Regex.Pattern) (limits : Limits)

/-! ## Ways -/

/-- A folder is no deeper than the search may go and is not excluded. -/
structure Admitted (limits : Limits) (depth : Nat) (id : String) : Prop where
  shallow : ∀ most, limits.maxDepth = some most → depth ≤ most
  included : id ∉ limits.excluded

/-- A walk that comes to the folder with an id at a depth goes into it and finds `entries`. -/
structure Opens (depth : Nat) (id : String) (entries : List Entry) : Prop where
  admitted : Admitted limits depth id
  listed : (client.list state id).result = .ok entries

/-- A way from the folder with an id at a depth down to a file. `names` are the names of the
folders passed before, and the steps of the way are places in the listings. -/
inductive Way : (depth : Nat) → (id : String) → (names : List String) →
    List Nat → File → Prop
  | file {depth : Nat} {id : String} {names : List String} {entries : List Entry} {i : Nat}
      {e : Entry} :
      Opens client state limits depth id entries → entries[i]? = some e →
      e.Matches pattern →
      Way depth id names [i] ⟨e.id, e.name, PathText.ofSegments (names ++ [e.name]), e.modified⟩
  | folder {depth : Nat} {id : String} {names : List String} {entries : List Entry} {i : Nat}
      {e : Entry} {steps : List Nat} {f : File} :
      Opens client state limits depth id entries → entries[i]? = some e → e.Descends →
      Way (depth + 1) e.id (names ++ [e.name]) steps f → Way depth id names (i :: steps) f

/-- What lies on a way after its step to the entry `e` of a folder at a depth. -/
def Beyond (depth : Nat) (names : List String) (e : Entry) (steps : List Nat) (f : File) : Prop :=
  (e.Matches pattern ∧ steps = [] ∧
    f = ⟨e.id, e.name, PathText.ofSegments (names ++ [e.name]), e.modified⟩) ∨
  (e.Descends ∧ Way client state pattern limits (depth + 1) e.id (names ++ [e.name]) steps f)

/-- A walk comes to the folder with an id at a depth when it begins at `start`. -/
inductive Comes (start : String) : (depth : Nat) → (id : String) → Prop
  | start : Comes start 0 start
  | step {depth : Nat} {id : String} {entries : List Entry} {e : Entry} :
      Comes start depth id → Opens client state limits depth id entries → e ∈ entries →
      e.Descends → Comes start (depth + 1) e.id

/-- Every listing succeeds that a walk from `start` makes. -/
def ListsAll (start : String) : Prop :=
  ∀ depth id, Comes client state limits start depth id → Admitted limits depth id →
    ∃ entries, (client.list state id).result = .ok entries

variable {client state pattern limits}

/-- A walk goes into a folder exactly if it passes both tests. -/
theorem admitted_iff {depth : Nat} {id : String} :
    Admitted limits depth id ↔
      ¬(limits.maxDepth.any fun most => depth > most) = true ∧
      ¬limits.excluded.contains id = true := by
  constructor
  · rintro ⟨shallow, included⟩
    refine ⟨fun deep => ?_, fun out => included (List.contains_iff_mem.1 out)⟩
    obtain ⟨most, limit, deeper⟩ := Option.any_eq_true _ _ |>.1 deep
    exact absurd (shallow most limit) (Nat.not_le.2 (of_decide_eq_true deeper))
  · rintro ⟨shallow, included⟩
    refine ⟨fun most limit => ?_, fun present => included (List.contains_iff_mem.2 present)⟩
    simpa [limit] using shallow

theorem way_iff {depth : Nat} {id : String} {names : List String} {steps : List Nat} {f : File} :
    Way client state pattern limits depth id names steps f ↔
      ∃ entries i e rest, Opens client state limits depth id entries ∧ entries[i]? = some e ∧
        steps = i :: rest ∧ Beyond client state pattern limits depth names e rest f := by
  constructor
  · intro way
    cases way with
    | file opened at_ found => exact ⟨_, _, _, [], opened, at_, rfl, .inl ⟨found, rfl, rfl⟩⟩
    | folder opened at_ down way => exact ⟨_, _, _, _, opened, at_, rfl, .inr ⟨down, way⟩⟩
  · rintro ⟨entries, i, e, rest, opened, at_, rfl, beyond⟩
    rcases beyond with ⟨found, rfl, rfl⟩ | ⟨down, way⟩
    · exact .file opened at_ found
    · exact .folder opened at_ down way

/-! ## Enumerations -/

/-- `ways` lists the ways with a property and their files: all of them, each one once, and in
lexicographic order. -/
structure Enumerates (P : List Nat → File → Prop) (ways : List (List Nat × File)) : Prop where
  ordered : (ways.map (·.1)).Pairwise (· < ·)
  complete : ∀ steps f, (steps, f) ∈ ways ↔ P steps f

namespace Enumerates

/-- The ways with a property can be listed in one manner only. -/
theorem unique {P : List Nat → File → Prop} {ways others : List (List Nat × File)}
    (h : Enumerates P ways) (h' : Enumerates P others) : ways = others := by
  have strict := List.pairwise_map.1 h.ordered
  have strict' := List.pairwise_map.1 h'.ordered
  have distinct : ∀ l : List (List Nat × File),
      (l.Pairwise fun a b => a.1 < b.1) → l.Nodup := by
    intro l ordered
    refine List.Pairwise.imp ?_ ordered
    rintro a _ lt rfl
    exact List.lt_irrefl a.1 lt
  have perm : ways.Perm others :=
    (List.perm_ext_iff_of_nodup (distinct _ strict) (distinct _ strict')).2 fun w =>
      (h.complete w.1 w.2).trans (h'.complete w.1 w.2).symm
  exact perm.eq_of_pairwise (fun a b _ _ lt gt => absurd (List.lt_trans lt gt) (List.lt_irrefl _))
    strict strict'

theorem congr {P Q : List Nat → File → Prop} {ways : List (List Nat × File)}
    (h : Enumerates P ways) (same : ∀ steps f, P steps f ↔ Q steps f) : Enumerates Q ways :=
  ⟨h.ordered, fun steps f => (h.complete steps f).trans (same steps f)⟩

theorem nil {P : List Nat → File → Prop} (none_ : ∀ steps f, ¬ P steps f) :
    Enumerates P [] :=
  ⟨List.Pairwise.nil, fun steps f => by simp [none_ steps f]⟩

theorem singleton {P : List Nat → File → Prop} {file : File}
    (only : ∀ steps f, P steps f ↔ steps = [] ∧ f = file) : Enumerates P [([], file)] :=
  ⟨by simp, fun steps f => by simp [only steps f]⟩

/-- The ways into a list of entries, from those into the first entry and those into the others. -/
def branch (first rest : List (List Nat × File)) : List (List Nat × File) :=
  first.map (fun w => (0 :: w.1, w.2)) ++
    rest.map (fun w => (w.1.modifyHead (· + 1), w.2))

theorem branch_files (first rest : List (List Nat × File)) :
    (branch first rest).map (·.2) = first.map (·.2) ++ rest.map (·.2) := by
  simp [branch, Function.comp_def]

/-- Steps into a list of entries, given what lies beyond each entry. -/
def Into (beyond : Entry → List Nat → File → Prop) (entries : List Entry) (steps : List Nat)
    (f : File) : Prop :=
  ∃ i e rest, entries[i]? = some e ∧ steps = i :: rest ∧ beyond e rest f

theorem into_cons {beyond : Entry → List Nat → File → Prop} {e : Entry} {entries : List Entry}
    {steps : List Nat} {f : File} :
    Into beyond (e :: entries) steps f ↔
      (∃ rest, steps = 0 :: rest ∧ beyond e rest f) ∨
      ∃ later, steps = later.modifyHead (· + 1) ∧ Into beyond entries later f := by
  constructor
  · rintro ⟨i, at_, rest, here, rfl, past⟩
    cases i with
    | zero =>
      simp only [List.getElem?_cons_zero, Option.some.injEq] at here
      exact .inl ⟨rest, rfl, here ▸ past⟩
    | succ i =>
      rw [List.getElem?_cons_succ] at here
      exact .inr ⟨i :: rest, rfl, i, at_, rest, here, rfl, past⟩
  · rintro (⟨rest, rfl, past⟩ | ⟨later, rfl, i, at_, rest, here, rfl, past⟩)
    · exact ⟨0, e, rest, rfl, rfl, past⟩
    · exact ⟨i + 1, at_, rest, by simpa using here, rfl, past⟩

theorem cons {beyond : Entry → List Nat → File → Prop} {e : Entry} {entries : List Entry}
    {first rest : List (List Nat × File)} (head : Enumerates (beyond e) first)
    (tail : Enumerates (Into beyond entries) rest) :
    Enumerates (Into beyond (e :: entries)) (branch first rest) := by
  -- the steps of a way into the remaining entries are not empty
  have headed : ∀ w ∈ rest, ∃ i more, w.1 = i :: more := by
    rintro ⟨steps, f⟩ present
    obtain ⟨i, _, more, _, same, _⟩ := (tail.complete steps f).1 present
    exact ⟨i, more, same⟩
  constructor
  · simp only [branch, List.map_append, List.map_map, List.pairwise_append, List.pairwise_map,
      Function.comp_apply]
    refine ⟨?_, ?_, ?_⟩
    · exact (List.pairwise_map.1 head.ordered).imp fun lt => by simpa using lt
    · refine (List.pairwise_map.1 tail.ordered).imp_of_mem fun ha hb lt => ?_
      obtain ⟨i, more, hi⟩ := headed _ ha
      obtain ⟨j, less, hj⟩ := headed _ hb
      rw [hi, hj, List.cons_lt_cons_iff] at lt
      simp only [hi, hj, List.modifyHead_cons, List.cons_lt_cons_iff]
      exact lt.imp (by omega) (And.imp_left (by omega))
    · intro a ha b hb
      obtain ⟨w, _, rfl⟩ := List.mem_map.1 ha
      obtain ⟨v, present, rfl⟩ := List.mem_map.1 hb
      obtain ⟨i, more, hi⟩ := headed _ present
      simp [hi, List.cons_lt_cons_iff]
  · intro steps f
    simp only [branch, List.mem_append, List.mem_map, Prod.mk.injEq, Prod.exists, into_cons]
    refine or_congr ⟨?_, ?_⟩ ⟨?_, ?_⟩
    · rintro ⟨a, b, present, rfl, rfl⟩
      exact ⟨a, rfl, (head.complete a b).1 present⟩
    · rintro ⟨a, rfl, past⟩
      exact ⟨a, f, (head.complete a f).2 past, rfl, rfl⟩
    · rintro ⟨a, b, present, rfl, rfl⟩
      exact ⟨a, rfl, (tail.complete a b).1 present⟩
    · rintro ⟨a, rfl, past⟩
      exact ⟨a, f, (tail.complete a f).2 past, rfl, rfl⟩

end Enumerates

/-! ## Walks -/

/-- A visit comes to its end and finds the files of `ways`. -/
structure Visit.Finds (visit : Visit) (ways : List (List Nat × File)) : Prop where
  files : visit.files = ways.map (·.2)
  ended : visit.stop = none

theorem Visit.Finds.andThen {first : Visit} {next : Nat → Visit}
    {ways more : List (List Nat × File)}
    (h : Visit.Finds first ways) (hn : Visit.Finds (next first.files.length) more) :
    Visit.Finds (first.andThen next) (Enumerates.branch ways more) := by
  constructor
  · simp only [Storage.Visit.andThen, h.ended, hn.files, Enumerates.branch_files]
    rw [h.files]
  · simp only [Storage.Visit.andThen, h.ended, hn.ended]

theorem childPath_ofSegments {names : List String} (named : ∀ n ∈ names, n ≠ "")
    (name : String) :
    childPath (PathText.ofSegments names) name = PathText.ofSegments (names ++ [name]) := by
  cases names with
  | nil => simp [childPath, PathText.ofSegments]
  | cons first rest =>
    have filled : PathText.ofSegments (first :: rest) ≠ "" := by
      intro blank
      have chars := congrArg String.toList blank
      cases rest with
      | nil => simp_all [PathText.ofSegments]
      | cons _ _ => simp [PathText.ofSegments] at chars
    rw [childPath, if_neg filled]
    have joined := String.intercalate_append_of_ne_nil (s := "/") (List.cons_ne_nil first rest)
      (List.cons_ne_nil name [])
    simpa [PathText.ofSegments] using joined.symm

theorem isFull_unlimited (unlimited : limits.maxResults = none) (found : Nat) :
    isFull limits found = false := by
  simp [isFull, unlimited]

/-- What the visit of one entry of a folder is: a folder is entered, a file is kept, and everything
else is passed over. -/
structure VisitsEntry (pattern : Regex.Pattern) (path : String)
    (enter : (id path : String) → (found : Nat) → Visit) (found : Nat) (e : Entry)
    (visit : Visit) : Prop where
  entered : e.Descends → visit = enter e.id path found
  kept : e.Matches pattern → visit.files = [⟨e.id, e.name, path, e.modified⟩] ∧
    visit.stop = none
  passed : ¬e.Descends → ¬e.Matches pattern → visit.files = [] ∧ visit.stop = none

theorem visitEntry_visits (pattern : Regex.Pattern) (parent : String)
    (enter : (id path : String) → (found : Nat) → Visit) (e : Entry) (found : Nat) :
    VisitsEntry pattern (childPath parent e.name) enter found e
      (visitEntry pattern parent enter e found) := by
  unfold visitEntry
  by_cases trashed : e.trashed = true
  · rw [if_pos trashed]
    refine ⟨fun down => ?_, fun found => ?_, fun _ _ => ⟨rfl, rfl⟩⟩
    · exact absurd trashed (by simp [down.kept])
    · exact absurd trashed (by simp [found.kept])
  · have kept : e.trashed = false := by simpa using trashed
    rw [if_neg trashed]
    cases kind : e.kind with
    | folder =>
      refine ⟨fun _ => rfl, fun found => ?_, fun stays _ => absurd ⟨kind, kept⟩ stays⟩
      exact absurd (kind.symm.trans found.kind) (by decide)
    | file =>
      have stays : ¬e.Descends := fun down => absurd (kind.symm.trans down.kind) (by decide)
      by_cases named : pattern.matches e.name = true
      · simp only [named, if_true]
        exact ⟨fun down => absurd down stays, fun _ => ⟨rfl, rfl⟩,
          fun _ other => absurd ⟨kind, kept, named⟩ other⟩
      · simp only [named, Bool.false_eq_true, if_false]
        exact ⟨fun down => absurd down stays, fun found => absurd found.named named,
          fun _ _ => ⟨rfl, rfl⟩⟩

/-- The visit of an entry depends on what a folder is only if the entry is one that is entered. -/
theorem visitEntry_congr {parent : String}
    {enter enter' : (id path : String) → (found : Nat) → Visit} {e : Entry} {found : Nat}
    (same : e.Descends → ∀ path, enter e.id path found = enter' e.id path found) :
    visitEntry pattern parent enter e found = visitEntry pattern parent enter' e found := by
  unfold visitEntry
  by_cases trashed : e.trashed = true
  · rw [if_pos trashed, if_pos trashed]
  · rw [if_neg trashed, if_neg trashed]
    cases kind : e.kind with
    | file => rfl
    | folder => exact same ⟨kind, by simpa using trashed⟩ _

/-- A walk that is not full visits the first entry, and then the others. -/
theorem visitEntries_cons (pattern : Regex.Pattern) (parent : String)
    (enter : (id path : String) → (found : Nat) → Visit) {found : Nat} (e : Entry)
    (entries : List Entry) (open_ : isFull limits found = false) :
    ∃ visit, VisitsEntry pattern (childPath parent e.name) enter found e visit ∧
      visitEntries pattern limits parent enter (e :: entries) found =
        visit.andThen fun more =>
          visitEntries pattern limits parent enter entries (found + more) := by
  rw [visitEntries_next, if_neg (by simp [open_])]
  exact ⟨_, visitEntry_visits pattern parent enter e found, rfl⟩

/-- The visit of a list of entries finds what lies beyond each of them, if every folder among them
is visited to its end. -/
theorem visitEntries_enumerates {depth : Nat} {names : List String}
    {enter : (id path : String) → (found : Nat) → Visit} (unlimited : limits.maxResults = none)
    (named : ∀ n ∈ names, n ≠ "") (entries : List Entry)
    (enters : ∀ e ∈ entries, e.Descends → ∀ found, ∃ ways,
      Enumerates (Way client state pattern limits (depth + 1) e.id (names ++ [e.name])) ways ∧
        Visit.Finds (enter e.id (PathText.ofSegments (names ++ [e.name])) found) ways)
    (found : Nat) :
    ∃ ways,
      Enumerates (Enumerates.Into (Beyond client state pattern limits depth names) entries) ways ∧
        Visit.Finds
          (visitEntries pattern limits (PathText.ofSegments names) enter entries found) ways := by
  induction entries generalizing found with
  | nil => exact ⟨[], .nil (by simp [Enumerates.Into]), rfl, rfl⟩
  | cons e entries ih =>
    obtain ⟨visit, visits, whole⟩ :=
      visitEntries_cons pattern (PathText.ofSegments names) enter e
      entries (isFull_unlimited unlimited found)
    rw [childPath_ofSegments named] at visits
    suffices here : ∃ ways, Enumerates (Beyond client state pattern limits depth names e) ways ∧
        Visit.Finds visit ways by
      obtain ⟨first, listed, visited⟩ := here
      obtain ⟨rest, others, finds⟩ :=
        ih (fun e present => enters e (List.mem_cons_of_mem _ present))
          (found + first.length)
      refine ⟨_, listed.cons others, whole ▸ visited.andThen ?_⟩
      simpa [visited.files] using finds
    by_cases down : e.Descends
    · obtain ⟨ways, listed, visited⟩ := enters e (List.mem_cons_self ..) down found
      refine ⟨ways, listed.congr fun steps f => ?_, visits.entered down ▸ visited⟩
      simp only [Beyond, down, true_and, iff_or_self, and_imp]
      intro found
      exact absurd (down.kind.symm.trans found.kind) (by decide)
    · by_cases found : e.Matches pattern
      · obtain ⟨files, ended⟩ := visits.kept found
        refine ⟨_, .singleton (fun steps f => ?_), files, ended⟩
        simp only [Beyond, found, down, true_and, false_and, or_false]
      · obtain ⟨files, ended⟩ := visits.passed down found
        refine ⟨[], .nil (fun steps f => ?_), files, ended⟩
        simp only [Beyond, found, down, false_and, or_false, not_false_eq_true]

variable (client state limits) in
/-- The levels suffice for a walk from the folder with an id at a depth: those that are left in a
folder that is gone into suffice for every folder in it. -/
inductive Suffices : (levels depth : Nat) → (id : String) → Prop
  | intro {levels depth : Nat} {id : String} :
      (∀ entries e, Opens client state limits depth id entries →
        e ∈ entries → e.Descends → Suffices levels (depth + 1) e.id) →
      Suffices (levels + 1) depth id

theorem way_false {depth : Nat} {id : String} {names : List String}
    (shut : ∀ entries, ¬ Opens client state limits depth id entries)
    (steps : List Nat) (f : File) : ¬ Way client state pattern limits depth id names steps f := by
  rw [way_iff]
  rintro ⟨entries, _, _, _, opened, _⟩
  exact shut entries opened

theorem Opens.unique {depth : Nat} {id : String} {entries : List Entry}
    (listed : (client.list state id).result = .ok entries) {others : List Entry}
    (opened : Opens client state limits depth id others) : others = entries := by
  have same := opened.listed.symm.trans listed
  injection same

theorem way_iff_into {depth : Nat} {id : String} {names : List String} {entries : List Entry}
    (opened : Opens client state limits depth id entries) (steps : List Nat) (f : File) :
    Way client state pattern limits depth id names steps f ↔
      Enumerates.Into (Beyond client state pattern limits depth names) entries steps f := by
  rw [way_iff]
  constructor
  · rintro ⟨others, i, e, rest, opened', at_, same, beyond⟩
    obtain rfl := Opens.unique opened.listed opened'
    exact ⟨i, e, rest, at_, same, beyond⟩
  · rintro ⟨i, e, rest, at_, same, beyond⟩
    exact ⟨entries, i, e, rest, opened, at_, same, beyond⟩

/-- A walk without a result limit finds the files of all ways, in their order and each way once, if
its levels suffice and every listing that it makes succeeds. -/
theorem visitFolder_enumerates {start : String} (unlimited : limits.maxResults = none)
    (lists : ListsAll client state limits start)
    (filled : ∀ id entries, (client.list state id).result = .ok entries →
      ∀ e ∈ entries, e.name ≠ "")
    {levels depth : Nat} {id : String} (enough : Suffices client state limits levels depth id)
    (comes : Comes client state limits start depth id) {names : List String}
    (named : ∀ n ∈ names, n ≠ "") (found : Nat) :
    ∃ ways, Enumerates (Way client state pattern limits depth id names) ways ∧
      Visit.Finds
        (visitFolder client state pattern limits levels depth id (PathText.ofSegments names) found)
        ways := by
  induction enough generalizing names found with
  | @intro levels depth id inside ih =>
    rw [visitFolder_succ]
    by_cases deep : limits.maxDepth.any (fun most => depth > most) = true
    · refine ⟨[], .nil (way_false fun entries opened => ?_), ?_⟩
      · exact (admitted_iff.1 opened.admitted).1 deep
      · rw [if_pos deep]
        exact ⟨rfl, rfl⟩
    · rw [if_neg deep, isFull_unlimited unlimited]
      by_cases out : limits.excluded.contains id = true
      · refine ⟨[], .nil (way_false fun entries opened => ?_), ?_⟩
        · exact (admitted_iff.1 opened.admitted).2 out
        · simp only [Bool.false_eq_true, if_false, if_pos out]
          exact ⟨rfl, rfl⟩
      · have admitted : Admitted limits depth id := admitted_iff.2 ⟨deep, out⟩
        obtain ⟨entries, listed⟩ := lists depth id comes admitted
        have opened : Opens client state limits depth id entries := ⟨admitted, listed⟩
        simp only [Bool.false_eq_true, if_false, if_neg out, listed]
        have enters : ∀ e ∈ entries, e.Descends → ∀ found, ∃ ways,
            Enumerates (Way client state pattern limits (depth + 1) e.id (names ++ [e.name]))
              ways ∧
              Visit.Finds (visitFolder client state pattern limits levels (depth + 1) e.id
                (PathText.ofSegments (names ++ [e.name])) found) ways := by
          intro e present down found
          refine ih entries e opened present down (comes.step opened present down) ?_ found
          intro n member
          rcases List.mem_append.1 member with above | here
          · exact named n above
          · rw [List.mem_singleton.1 here]
            exact filled id entries listed e present
        obtain ⟨ways, all, finds⟩ :=
          visitEntries_enumerates unlimited named entries enters found
        refine ⟨ways, all.congr fun steps f => (way_iff_into opened steps f).symm, ?_⟩
        exact ⟨by simpa [Storage.Visit.andThen, Storage.Visit.say] using finds.files,
          by simpa [Storage.Visit.andThen, Storage.Visit.say] using finds.ended⟩

/-! ## Levels -/

/-- The levels suffice for a walk from the folder with an id at a depth, in whichever of the states
its folders are listed. -/
inductive SufficesIn {σ : Type} (valid : σ → Prop) (client : Client σ) (limits : Limits) :
    (levels depth : Nat) → (id : String) → Prop
  | intro {levels depth : Nat} {id : String} :
      (∀ state entries e, valid state → Opens client state limits depth id entries →
        e ∈ entries → e.Descends → SufficesIn valid client limits levels (depth + 1) e.id) →
      SufficesIn valid client limits (levels + 1) depth id

theorem sufficesIn_iff {levels depth : Nat} {id : String} :
    SufficesIn (· = state) client limits levels depth id ↔
      Suffices client state limits levels depth id := by
  constructor
  · intro enough
    induction enough with
    | intro _ ih => exact .intro fun entries e => ih state entries e rfl
  · intro enough
    induction enough with
    | intro _ ih =>
      refine .intro fun state' entries e same opened present down => ?_
      obtain rfl := same
      exact ih entries e opened present down

/-- With a depth limit, two levels more than may be entered suffice: the one of the start, and the
one on which the walk turns back. -/
theorem sufficesIn_of_maxDepth {valid : σ → Prop} {most : Nat}
    (limit : limits.maxDepth = some most) {levels depth : Nat}
    (enough : most + 2 ≤ depth + levels) (shallow : depth ≤ most + 1) (id : String) :
    SufficesIn valid client limits levels depth id := by
  induction levels generalizing depth id with
  | zero => omega
  | succ levels ih =>
    refine .intro fun state entries e _ opened _ _ => ih (by omega) ?_ e.id
    have := opened.admitted.shallow most limit
    omega

theorem suffices_of_maxDepth {most : Nat} (limit : limits.maxDepth = some most) {levels depth : Nat}
    (enough : most + 2 ≤ depth + levels) (shallow : depth ≤ most + 1) (id : String) :
    Suffices client state limits levels depth id :=
  sufficesIn_iff.1 (sufficesIn_of_maxDepth limit enough shallow id)

variable (client state) in
def Holds (upper lower : String) : Prop :=
  ∃ entries e, (client.list state upper).result = .ok entries ∧ e ∈ entries ∧ e.Descends ∧
    e.id = lower

variable (client state) in
def below (id : String) : Set String :=
  {lower | Relation.ReflTransGen (Holds client state) id lower}

variable (client state) in
/-- The folders below a folder are finite in number, and none of them contains itself. -/
structure Grounded (start : String) : Prop where
  finite : (below client state start).Finite
  acyclic : ∀ id ∈ below client state start, ¬ Relation.TransGen (Holds client state) id id

theorem Grounded.inside {start id : String} (h : Grounded client state start)
    (held : Holds client state start id) : Grounded client state id := by
  have smaller : below client state id ⊆ below client state start :=
    fun lower reached => Relation.ReflTransGen.head held reached
  exact ⟨h.finite.subset smaller, fun lower reached => h.acyclic lower (smaller reached)⟩

/-- What lies at and below a folder is less than what lies at and below the folder that holds it. -/
theorem Grounded.ncard_lt {start id : String} (h : Grounded client state start)
    (held : Holds client state start id) :
    (below client state id).ncard < (below client state start).ncard := by
  refine Set.ncard_lt_ncard ⟨fun lower reached =>
    Relation.ReflTransGen.head held reached, ?_⟩ h.finite
  intro all
  have back : Relation.ReflTransGen (Holds client state) id start := all Relation.ReflTransGen.refl
  exact h.acyclic start Relation.ReflTransGen.refl (Relation.TransGen.head' held back)

/-- One level for each folder at and below the start suffices if none contains itself. -/
theorem Grounded.suffices_of_ncard_le {levels depth : Nat} {id : String}
    (h : Grounded client state id) (enough : (below client state id).ncard ≤ levels) :
    Suffices client state limits levels depth id := by
  induction levels generalizing depth id with
  | zero =>
    have here : id ∈ below client state id := Relation.ReflTransGen.refl
    have := (Set.ncard_pos h.finite).2 ⟨id, here⟩
    omega
  | succ levels ih =>
    refine .intro fun entries e opened present down => ?_
    have held : Holds client state id e.id := ⟨entries, e, opened.listed, present, down, rfl⟩
    have := h.ncard_lt held
    exact ih (h.inside held) (by omega)

end

/-! ## The order of the result -/

/-- Files as a search returns them: the files that were found, the newest first, and files of equal
time in the order in which they were found. -/
structure SortedStably (found sorted : List File) : Prop where
  perm : sorted.Perm found
  newest : sorted.Pairwise fun a b => b.modified ≤ a.modified
  stable : ∀ t : Time, (sorted.filter fun f => f.modified = t) = found.filter fun f =>
    f.modified = t

theorem newestFirst_sortedStably (found : List File) : SortedStably found (newestFirst found) := by
  have trans : ∀ a b c : File, decide (b.modified ≤ a.modified) = true →
      decide (c.modified ≤ b.modified) = true → decide (c.modified ≤ a.modified) = true := by
    simp only [decide_eq_true_eq]
    exact fun a b c newer older => older.trans newer
  have total : ∀ a b : File,
      (decide (b.modified ≤ a.modified) || decide (a.modified ≤ b.modified)) = true := by
    simp only [Bool.or_eq_true, decide_eq_true_eq]
    exact fun a b => le_total b.modified a.modified
  have perm : (newestFirst found).Perm found := List.mergeSort_perm found _
  refine ⟨perm, ?_, fun t => ?_⟩
  · exact (List.pairwise_mergeSort trans total found).imp fun le => by simpa using le
  · -- files of one time are in order already, so that sorting keeps them as a sublist
    have equal : (found.filter fun f => f.modified = t).Pairwise
        fun a b => decide (b.modified ≤ a.modified) = true := by
      refine List.pairwise_iff_forall_sublist.2 fun {a b} both => ?_
      have times := both.subset
      simp only [List.cons_subset, List.mem_filter, decide_eq_true_eq] at times ⊢
      exact (times.2.1.2.trans times.1.2.symm).le
    have kept := (List.sublist_mergeSort trans total equal List.filter_sublist).filter
      fun f : File => decide (f.modified = t)
    rw [List.filter_filter] at kept
    simp only [Bool.and_self] at kept
    exact (kept.eq_of_length ((perm.filter _).length_eq.symm)).symm

/-! ## Searches -/

variable {σ : Type} (client : Client σ) (state : σ) (pattern : Regex.Pattern) (limits : Limits)

def Begins (folder : Option String) (start : String) : Prop :=
  match folder with
  | some id => id = start
  | none => client.rootId state = .ok start

end Search

/-- The same storage with another estimate of how many of its folders stand inside one another. -/
def Client.withHeight {σ : Type} (client : Client σ) (height : Nat) : Client σ :=
  { client with height := fun _ => height }

open Search

variable {σ : Type} {client : Client σ} {state : σ} {pattern : Regex.Pattern} {limits : Limits}

namespace Search

theorem levels_withHeight (unlimited : limits.maxResults = none) (height : Nat) :
    levels (client.withHeight height) state limits =
      match limits.maxDepth with
      | some most => most + 2
      | none => height + 1 := by
  cases limit : limits.maxDepth <;> simp [levels, Client.withHeight, unlimited, limit]

/-- How a storage is walked does not depend on the estimate of its nesting. -/
theorem visitFolder_withHeight (height levels : Nat) :
    visitFolder (client.withHeight height) state pattern limits levels =
      visitFolder client state pattern limits levels := by
  induction levels with
  | zero => rfl
  | succ levels ih =>
    funext depth id path found
    rw [visitFolder_succ, visitFolder_succ, ih]
    rfl

/-- A depth limit, or an estimate of the nesting that counts every folder below the start, allows
for enough levels. -/
theorem suffices_withHeight {start : String} (unlimited : limits.maxResults = none)
    (ends : limits.maxDepth ≠ none ∨ Grounded client state start) {height : Nat}
    (generous : limits.maxDepth ≠ none ∨ (below client state start).ncard ≤ height) :
    Suffices client state limits (levels (client.withHeight height) state limits) 0 start := by
  rw [levels_withHeight unlimited]
  cases limit : limits.maxDepth with
  | some most => exact suffices_of_maxDepth limit (by simp) (by omega) start
  | none =>
    have grounded := ends.resolve_left (not_not.2 limit)
    have counted := generous.resolve_left (not_not.2 limit)
    exact grounded.suffices_of_ncard_le (by simp only; omega)

def conclude (limits : Limits) (visit : Storage.Visit) : Except Stop (List File) :=
  match visit.stop with
  | some stop => .error stop
  | none =>
    .ok (match limits.maxResults with
      | some most => (newestFirst visit.files).take most
      | none => newestFirst visit.files)

theorem search_result {folder : Option String} {start : String}
    (begins : Begins client state folder start) :
    (search client state folder pattern limits).result =
      conclude limits (walk client state start pattern limits) := by
  rw [conclude]
  cases folder with
  | none =>
    have root : client.rootId state = .ok start := begins
    simp only [search_unheard, root, Except.map]
    cases (walk client state start pattern limits).stop <;> rfl
  | some id =>
    obtain rfl : id = start := begins
    simp only [search_unheard]
    cases (walk client state id pattern limits).stop <;> rfl

theorem search_result_of_walk {folder : Option String} {start : String}
    (begins : Begins client state folder start) (unlimited : limits.maxResults = none)
    (ended : (walk client state start pattern limits).stop = none) :
    (search client state folder pattern limits).result =
      .ok (newestFirst (walk client state start pattern limits).files) := by
  simp only [search_result begins, conclude, ended, unlimited]

/-- A search returns the newest of the files that its walk finds. -/
theorem prefix_of_search {folder : Option String} {start : String} {files : List File}
    (begins : Begins client state folder start)
    (h : (search client state folder pattern limits).result = .ok files) :
    files <+: newestFirst (walk client state start pattern limits).files := by
  rw [search_result begins, conclude] at h
  split at h
  · cases h
  · obtain rfl := Except.ok.inj h
    split
    · exact List.take_prefix _ _
    · exact List.prefix_refl _

theorem mem_walk_of_search {folder : Option String} {start : String} {files : List File} {f : File}
    (begins : Begins client state folder start)
    (h : (search client state folder pattern limits).result = .ok files) (present : f ∈ files) :
    f ∈ (walk client state start pattern limits).files :=
  (List.mergeSort_perm _ _).mem_iff.1 ((prefix_of_search begins h).subset present)

/-- A search without a limit of results that succeeds returns what its walk finds. -/
theorem walk_of_search {folder : Option String} {start : String} {files : List File}
    (begins : Begins client state folder start) (unlimited : limits.maxResults = none)
    (h : (search client state folder pattern limits).result = .ok files) :
    (walk client state start pattern limits).stop = none ∧
      files = newestFirst (walk client state start pattern limits).files := by
  rw [search_result begins, conclude, unlimited] at h
  split at h
  · cases h
  · next ended => exact ⟨ended, (Except.ok.inj h).symm⟩

end Search

/-- A search without a result limit returns the files of all ways from its start, each way once:
sorted by time, the newest first, where files of equal time keep the depth-first order of their
ways. Either the depth is limited, or the folders below the start are finite in number and none of
them contains itself. In the second case the storage has to allow for as many folders inside one
another as there are; how much more it allows for makes no difference. -/
theorem search_enumerates {folder : Option String} {start : String}
    (begins : Begins client state folder start) (unlimited : limits.maxResults = none)
    (filled : ∀ id entries, (client.list state id).result = .ok entries →
      ∀ e ∈ entries, e.name ≠ "")
    (ends : limits.maxDepth ≠ none ∨ Grounded client state start)
    (lists : ListsAll client state limits start) :
    ∃ ways files, Enumerates (Way client state pattern limits 0 start []) ways ∧
      SortedStably (ways.map (·.2)) files ∧
      ∀ height, (limits.maxDepth ≠ none ∨ (below client state start).ncard ≤ height) →
        (search (client.withHeight height) state folder pattern limits).result = .ok files := by
  have walks : ∀ height,
    (limits.maxDepth ≠ none ∨ (below client state start).ncard ≤ height) →
      ∃ ways, Enumerates (Way client state pattern limits 0 start []) ways ∧
        Visit.Finds (walk (client.withHeight height) state start pattern limits) ways := by
    intro height generous
    rw [walk, visitFolder_withHeight]
    exact visitFolder_enumerates unlimited lists filled
      (suffices_withHeight unlimited ends generous) .start (List.forall_mem_nil _) 0
  obtain ⟨ways, all, _⟩ := walks _ (.inr le_rfl)
  refine ⟨ways, _, all, newestFirst_sortedStably _, fun height generous => ?_⟩
  obtain ⟨others, same, finds⟩ := walks height generous
  have begins' : Begins (client.withHeight height) state folder start := begins
  rw [search_result_of_walk begins' unlimited finds.ended, finds.files, all.unique same]

/-! ## A folder that contains itself -/

/-- A folder that holds itself, a file, and an older file that is trashed. -/
def Catalogue.loop : Catalogue where
  folders := [("r", [⟨"r", "again", .folder, 3, false⟩, ⟨"x", "a", .file, 2, false⟩,
    ⟨"y", "b", .file, 1, true⟩])]
  root := some "r"
  localId := none
  failing := []

theorem Catalogue.loop_list {id : String} {entries : List Entry}
    (listed : (Catalogue.client.list Catalogue.loop id).result = .ok entries) :
    id = "r" ∧ entries = [⟨"r", "again", .folder, 3, false⟩, ⟨"x", "a", .file, 2, false⟩,
      ⟨"y", "b", .file, 1, true⟩] := by
  by_cases here : id = "r"
  · subst here
    refine ⟨rfl, ?_⟩
    simpa [Catalogue.client, Catalogue.loop, eq_comm] using listed
  · have other : (id == "r") = false := by simpa using here
    simp [Catalogue.client, Catalogue.loop, List.lookup_cons, other] at listed

/-- With a depth limit the result is as stated also for a folder that contains itself. -/
theorem search_enumerates_loop :
    let limits : Limits := { maxDepth := some 2, excluded := ["s"] }
    let client := Catalogue.client
    let pattern := (Regex.Pattern.compile "a").toOption.getD default
    (Begins client Catalogue.loop none "r" ∧ limits.maxResults = none ∧
      limits.maxDepth ≠ none ∧
      (∀ id entries, (client.list Catalogue.loop id).result = .ok entries →
        ∀ e ∈ entries, e.name ≠ "") ∧
      ListsAll client Catalogue.loop limits "r") ∧
    ∃ ways files, Enumerates (Way client Catalogue.loop pattern limits 0 "r" []) ways ∧
      SortedStably (ways.map (·.2)) files ∧
      ∀ height,
        (limits.maxDepth ≠ none ∨ (below client Catalogue.loop "r").ncard ≤ height) →
        (search (client.withHeight height) Catalogue.loop none pattern limits).result =
          .ok files := by
  intro limits client pattern
  have filled : ∀ id entries, (client.list Catalogue.loop id).result = .ok entries →
      ∀ e ∈ entries, e.name ≠ "" := by
    intro id entries listed e present
    obtain ⟨rfl, rfl⟩ := Catalogue.loop_list listed
    simp only [List.mem_cons, List.not_mem_nil, or_false] at present
    rcases present with rfl | rfl | rfl <;> decide
  have lists : ListsAll client Catalogue.loop limits "r" := by
    intro depth id comes _
    have here : id = "r" := by
      cases comes with
      | start => rfl
      | step _ opened present down =>
        obtain ⟨rfl, rfl⟩ := Catalogue.loop_list opened.listed
        simp only [List.mem_cons, List.not_mem_nil, or_false] at present
        rcases present with rfl | rfl | rfl
        · rfl
        · exact absurd down.kind (by decide)
        · exact absurd down.kind (by decide)
    subst here
    exact ⟨_, rfl⟩
  exact ⟨⟨rfl, rfl, by decide, filled, lists⟩,
    search_enumerates rfl rfl filled (.inl (by decide)) lists⟩

end TreeFetch.Storage
