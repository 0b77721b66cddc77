import TreeFetch.Proofs.Storage.Termination

/-!
# Searches for a number of files

A search for a number of files goes the way of the search for all of them. It ends where it has
collected enough, whatever would have come after that, and asks for nothing more. If the search for
all files does not find enough, whether it ends or fails, the other one is the same search.

Results:
1. `Search.visitFolder_cuts`: a limited walk is the unlimited one, or a part of it from its
   beginning.
2. `search_atMost`: the same for searches, and what the limited one returns.
-/

namespace TreeFetch.Storage

/-- The same limits, but all files are returned. -/
def Limits.unlimited (limits : Limits) : Limits := { limits with maxResults := none }

/-- The same limits, but not more than a number of files are returned. -/
def Limits.atMost (limits : Limits) (most : Nat) : Limits := { limits with maxResults := some most }

namespace Search

section

variable {σ : Type} (client : Client σ) (state : σ) (pattern : Regex.Pattern) (limits : Limits)

/-! ## Collecting -/

/-- What a walk says when it collects a file. -/
def announces (f : File) : Event := .told ⟨.debug, .search, s!"Found matching file: {f.path}"⟩

/-- What a walk asks and says while it collects files: it announces each of them, in their order.
What the storage says with its answers does not count. -/
inductive Collects : List Event → List File → Prop
  | nil : Collects [] []
  | asked {id : String} {events : List Event} {files : List File} :
      Collects events files →
      Collects (.asked (.list id) :: (client.list state id).notes.map .told ++ events) files
  | told {record : Record} {events : List Event} {files : List File} :
      (∀ f, announces f ≠ .told record) → Collects events files →
      Collects (.told record :: events) files
  | found {f : File} {events : List Event} {files : List File} :
      Collects events files → Collects (announces f :: events) (f :: files)

/-- Two courses of events are one until the file at place `n` is collected. After it, nothing is
asked for in the second one. -/
inductive PartsAfter (n : Nat) (found : List File) : (whole limited : List Event) → Prop
  | intro {f : File} {earlier later rest : List Event} :
      found[n]? = some f → Collects client state earlier (found.take n) →
        Event.calls rest = [] →
      PartsAfter n found (earlier ++ announces f :: later) (earlier ++ announces f :: rest)

/-- Two visits are one if fewer files are found than are wanted. Otherwise the second one comes to
its end with the first files of the first one. -/
inductive Cuts : (wanted : Nat) → (whole limited : Storage.Visit) → Prop
  | same {wanted : Nat} {visit : Storage.Visit} :
      visit.files.length < wanted → Collects client state visit.events visit.files →
      Cuts wanted visit visit
  | cut {n : Nat} {whole limited : Storage.Visit} :
      PartsAfter client state n whole.files whole.events limited.events →
      limited.files = whole.files.take (n + 1) → limited.stop = none →
        Cuts (n + 1) whole limited

variable {client state pattern limits}

theorem announces_ne_of_severity {severity : Severity} (other : severity ≠ .debug)
    (message : String) (f : File) : announces f ≠ .told ⟨severity, .search, message⟩ := by
  intro same
  simp only [announces, Event.told.injEq, Record.mk.injEq] at same
  exact other same.1.symm

theorem announces_ne_of_head {message : String} (other : message.toList.head? ≠ some 'F')
    (severity : Severity) (f : File) : announces f ≠ .told ⟨severity, .search, message⟩ := by
  intro same
  simp only [announces, Event.told.injEq, Record.mk.injEq] at same
  refine other ?_
  rw [← same.2.2]
  simp [toString]

namespace Collects

variable {events more : List Event} {files others : List File}

theorem append (h : Collects client state events files) (h' : Collects client state more others) :
    Collects client state (events ++ more) (files ++ others) := by
  induction h with
  | nil => exact h'
  | asked _ ih =>
    rw [List.append_assoc]
    exact .asked ih
  | told plain _ ih => exact .told plain ih
  | found _ ih => exact .found ih

theorem say {severity : Severity} {message : String}
    (plain : ∀ f, announces f ≠ .told ⟨severity, .search, message⟩) :
    Collects client state (Storage.Visit.say severity message).events [] :=
  .told plain .nil

end Collects

namespace PartsAfter

variable {n : Nat} {found files : List File} {whole limited events : List Event}

theorem before (h : PartsAfter client state n found whole limited)
    (collects : Collects client state events files) :
    PartsAfter client state (files.length + n) (files ++ found) (events ++ whole)
      (events ++ limited) := by
  cases h with
  | intro at_ earlier quiet =>
    rw [← List.append_assoc, ← List.append_assoc]
    refine .intro ?_ ?_ quiet
    · rw [List.getElem?_append_right (Nat.le_add_right _ _), Nat.add_sub_cancel_left, at_]
    · rw [List.take_length_add_append]
      exact collects.append earlier

theorem after (h : PartsAfter client state n found whole limited) (more : List File)
    (later : List Event) {rest : List Event} (quiet : Event.calls rest = []) :
    PartsAfter client state n (found ++ more) (whole ++ later) (limited ++ rest) := by
  cases h with
  | intro at_ earlier silent =>
    have short : n < found.length := (List.getElem?_eq_some_iff.1 at_).1
    rw [List.append_assoc, List.append_assoc, List.cons_append, List.cons_append]
    refine .intro ?_ ?_ ?_
    · rw [List.getElem?_append_left short, at_]
    · rw [List.take_append_of_le_length (Nat.le_of_lt short)]
      exact earlier
    · rw [Event.calls_append, silent, quiet, List.append_nil]

theorem lt_length (h : PartsAfter client state n found whole limited) : n < found.length := by
  cases h with
  | intro at_ _ _ => exact (List.getElem?_eq_some_iff.1 at_).1

end PartsAfter

namespace Cuts

variable {wanted : Nat} {whole limited first first' : Storage.Visit}
    {next next' : Nat → Storage.Visit}

/-- What is said and asked before any file is found makes no difference. -/
theorem before {events : List Event} (h : Cuts client state wanted whole limited)
    (collects : Collects client state events []) :
    Cuts client state wanted { whole with events := events ++ whole.events }
      { limited with events := events ++ limited.events } := by
  cases h with
  | same short inside => exact .same short (collects.append inside)
  | cut parts files stop =>
    refine .cut ?_ files stop
    simpa using parts.before collects

/-- A later part of the limited visit finds nothing and asks for nothing if enough is found
before. -/
theorem andThen (h : Cuts client state wanted first first')
    (later : first.files.length < wanted →
      Cuts client state (wanted - first.files.length) (next first.files.length)
        (next' first.files.length))
    (silent : (next' wanted).files = [] ∧ Event.calls (next' wanted).events = [] ∧
      (next' wanted).stop = none) :
    Cuts client state wanted (first.andThen next) (first'.andThen next') := by
  cases h with
  | same short collects =>
    cases stop : first.stop with
    | some reason =>
      rw [Visit.andThen_of_stop stop, Visit.andThen_of_stop stop]
      exact .same short collects
    | none =>
      simp only [Storage.Visit.andThen, stop]
      have rest := later short
      generalize next first.files.length = second, next' first.files.length = second' at rest ⊢
      generalize left : wanted - first.files.length = more at rest
      cases rest with
      | same few inside =>
        refine .same ?_ (collects.append inside)
        rw [List.length_append]
        omega
      | @cut n _ _ parts files ended =>
        obtain rfl : wanted = first.files.length + n + 1 := by omega
        refine .cut (parts.before collects) ?_ ended
        rw [files, Nat.add_assoc, List.take_length_add_append]
  | @cut n _ _ parts files ended =>
    have enough : first'.files.length = n + 1 := by
      have := parts.lt_length
      rw [files, List.length_take]
      omega
    have limited : first'.andThen next' =
        { first' with events := first'.events ++ (next' (n + 1)).events } := by
      simp [Storage.Visit.andThen, ended, enough, silent.1, silent.2.2]
    obtain ⟨others, events, stop, whole⟩ : ∃ others events stop, first.andThen next =
        ⟨first.files ++ others, first.events ++ events, stop⟩ := by
      cases stop : first.stop with
      | some reason =>
        rw [Visit.andThen_of_stop stop]
        exact ⟨[], [], first.stop, by simp⟩
      | none => exact ⟨_, _, _, by simp only [Storage.Visit.andThen, stop]; rfl⟩
    rw [limited, whole]
    refine .cut (parts.after others events silent.2.1) ?_ ended
    show first'.files = (first.files ++ others).take (n + 1)
    rw [files, List.take_append_of_le_length parts.lt_length]

theorem eq_of_lt (h : Cuts client state wanted whole limited) (few : whole.files.length < wanted) :
    limited = whole ∧ Collects client state whole.events whole.files := by
  cases h with
  | same _ collects => exact ⟨rfl, collects⟩
  | cut parts _ _ =>
    have := parts.lt_length
    omega

theorem parts_of_lt {n : Nat} (h : Cuts client state (n + 1) whole limited)
    (enough : n < whole.files.length) :
    PartsAfter client state n whole.files whole.events limited.events ∧
      limited.files = whole.files.take (n + 1) ∧ limited.stop = none := by
  cases h with
  | same few _ => omega
  | cut parts files stop => exact ⟨parts, files, stop⟩

end Cuts

/-! ## Walks -/

theorem isFull_atMost {most found : Nat} :
    isFull (limits.atMost most) found = decide (most ≤ found) :=
  rfl

theorem not_isFull_unlimited (found : Nat) : ¬isFull limits.unlimited found = true := by
  rw [@isFull_unlimited limits.unlimited rfl]
  exact Bool.false_ne_true

theorem visitEntries_of_room {parent : String}
    {enter : (id path : String) → (found : Nat) → Visit}
    {e : Entry} {rest : List Entry} {found : Nat} (room : ¬isFull limits found = true) :
    visitEntries pattern limits parent enter (e :: rest) found =
      (visitEntry pattern parent enter e found).andThen fun more =>
        visitEntries pattern limits parent enter rest (found + more) := by
  rw [visitEntries_next, if_neg room]

theorem visitEntries_silent {parent : String}
    {enter : (id path : String) → (found : Nat) → Visit}
    {found : Nat} (full : isFull limits found = true) (entries : List Entry) :
    let visit := visitEntries pattern limits parent enter entries found
    visit.files = [] ∧ Event.calls visit.events = [] ∧ visit.stop = none := by
  refine ⟨?_, visitEntries_calls_full pattern parent enter full entries⟩
  cases entries with
  | nil => rfl
  | cons e rest =>
    rw [visitEntries_next, if_pos full]
    rfl

theorem visitEntry_cuts {parent : String}
    {enter enter' : (id path : String) → (found : Nat) → Visit}
    {e : Entry} {found wanted : Nat} (some_ : 0 < wanted)
    (enters : ∀ path, Cuts client state wanted (enter e.id path found) (enter' e.id path found)) :
    Cuts client state wanted (visitEntry pattern parent enter e found)
      (visitEntry pattern parent enter' e found) := by
  rw [visitEntry, visitEntry]
  split
  · exact .same some_ (.say (announces_ne_of_severity (by decide) _))
  · cases e.kind with
    | folder => exact enters _
    | file =>
      simp only
      split
      · generalize one : (⟨e.id, e.name, childPath parent e.name, e.modified⟩ : File) = f
        have path : childPath parent e.name = f.path := by rw [← one]
        rw [path]
        rcases Nat.lt_or_eq_of_le some_ with more | last
        · exact .same more (.found .nil)
        · have only : PartsAfter client state 0 [f] ([] ++ [announces f]) ([] ++ [announces f]) :=
            .intro rfl .nil rfl
          rw [← last]
          exact .cut only rfl rfl
      · exact .same some_ .nil

/-- The visits of a list of entries, when fewer files are found than are wanted. -/
theorem visitEntries_cuts {most : Nat} {parent : String}
    {enter enter' : (id path : String) → (found : Nat) → Visit} (entries : List Entry)
    (enters : ∀ id path found, found < most →
      Cuts client state (most - found) (enter id path found) (enter' id path found))
    {found : Nat} (room : found < most) :
    Cuts client state (most - found)
      (visitEntries pattern limits.unlimited parent enter entries found)
      (visitEntries pattern (limits.atMost most) parent enter' entries found) := by
  induction entries generalizing found with
  | nil => exact .same (Nat.sub_pos_of_lt room) .nil
  | cons e rest ih =>
    have open_ : ¬isFull (limits.atMost most) found = true := by
      rw [isFull_atMost]
      simpa using room
    rw [visitEntries_of_room (not_isFull_unlimited found), visitEntries_of_room open_]
    have here : Cuts client state (most - found) (visitEntry pattern parent enter e found)
        (visitEntry pattern parent enter' e found) :=
      visitEntry_cuts (Nat.sub_pos_of_lt room) fun path => enters e.id path found room
    refine here.andThen (fun few => ?_) (visitEntries_silent ?_ rest)
    · rw [Nat.sub_sub]
      exact ih (by omega)
    · rw [isFull_atMost]
      simp only [decide_eq_true_eq]
      omega

/-- Two walks with the same levels, of which one is limited, when fewer files are found than are
wanted. -/
theorem visitFolder_cuts {most levels depth : Nat} {id path : String} {found : Nat}
    (room : found < most) :
    Cuts client state (most - found)
      (visitFolder client state pattern limits.unlimited levels depth id path found)
      (visitFolder client state pattern (limits.atMost most) levels depth id path found) := by
  have some_ : 0 < most - found := Nat.sub_pos_of_lt room
  induction levels generalizing depth id path found with
  | zero => exact .same some_ .nil
  | succ levels ih =>
    have open_ : ¬isFull (limits.atMost most) found = true := by
      rw [isFull_atMost]
      simpa using room
    rw [visitFolder_succ, visitFolder_succ, if_neg (not_isFull_unlimited found), if_neg open_]
    -- both walks make the same tests, and ask for the same folder if none of them ends the visit
    have deep : (limits.atMost most).maxDepth = limits.unlimited.maxDepth := rfl
    have out : (limits.atMost most).excluded = limits.unlimited.excluded := rfl
    rw [deep, out]
    split
    · exact .same some_ (.say (announces_ne_of_severity (by decide) _))
    · split
      · exact .same some_ (.say (announces_ne_of_head (by simp [toString]) _))
      · have asked : Collects client state
            (.asked (.list id) :: (client.list state id).notes.map .told) [] := by
          simpa using @Collects.asked σ client state id [] [] .nil
        simp only
        split
        · exact .same some_ asked
        · next entries _ =>
          have inside : Cuts client state (most - found)
              (visitEntries pattern limits.unlimited path
                (visitFolder client state pattern limits.unlimited levels (depth + 1))
                entries found)
              (visitEntries pattern (limits.atMost most) path
                (visitFolder client state pattern (limits.atMost most) levels (depth + 1)) entries
                found) :=
            visitEntries_cuts entries (fun _ _ _ room => ih room (Nat.sub_pos_of_lt room)) room
          refine Cuts.before inside ?_
          exact asked.append (.say (announces_ne_of_severity (by decide) _))

/-! ## Searches -/

variable {folder : Option String} {start : String}

/-- What a search says when it is done. -/
def closing : Except Stop (List File) → List Event
  | .ok files => [.told ⟨.debug, .search, s!"Search completed, {files.length} matching files"⟩]
  | .error _ => []

theorem collects_closing (result : Except Stop (List File)) :
    Collects client state (closing result) [] := by
  cases result with
  | error stop => exact .nil
  | ok files => exact .say (announces_ne_of_head (by simp [toString]) .debug)

theorem calls_closing (result : Except Stop (List File)) : Event.calls (closing result) = [] := by
  cases result <;> rfl

variable (pattern) in
/-- What happens in a search is what happens on its walk. Before and after it only the search itself
speaks. -/
theorem search_eq (begins : Begins client state folder start) :
    ∃ before, Collects client state before [] ∧ ∀ limits,
      let visit := walk client state start pattern limits
      search client state folder pattern limits =
        ⟨conclude limits visit, before ++
          (visit.events ++ closing (conclude limits visit))⟩ := by
  have started : Collects client state
      [.told ⟨.debug, .search, s!"Starting search with pattern: {pattern.source}"⟩] [] :=
    .say (announces_ne_of_head (by simp [toString]) .debug)
  cases folder with
  | none =>
    have root : client.rootId state = .ok start := begins
    have noted : Collects client state
        [.told ⟨.debug, .search, s!"No folder given, using root folder: '{start}'"⟩] [] :=
      .say (announces_ne_of_head (by simp [toString]) .debug)
    refine ⟨_, started.append noted, fun limits => ?_⟩
    simp only [search_unheard, root, Except.map, conclude]
    cases (walk client state start pattern limits).stop with
    | some stop => exact congrArg _ (congrArg _ (List.append_nil _).symm)
    | none => exact congrArg _ (List.append_assoc ..)
  | some id =>
    obtain rfl : id = start := begins
    refine ⟨_, started, fun limits => ?_⟩
    simp only [search_unheard, List.append_nil, conclude]
    cases (walk client state id pattern limits).stop with
    | some stop => exact congrArg _ (congrArg _ (List.append_nil _).symm)
    | none => exact congrArg _ (List.append_assoc ..)

/-- A limit makes no difference that is more than what is found. -/
theorem conclude_atMost {visit : Storage.Visit} {most : Nat} (few : visit.files.length < most) :
    conclude (limits.atMost most) visit = conclude limits.unlimited visit := by
  have all : (newestFirst visit.files).take most = newestFirst visit.files := by
    refine List.take_of_length_le ?_
    rw [newestFirst, List.length_mergeSort]
    exact Nat.le_of_lt few
  rw [conclude, conclude]
  cases visit.stop with
  | some stop => rfl
  | none => exact congrArg Except.ok all

/-- More levels are allowed for if the number of files is limited. -/
theorem levels_le_atMost (most : Nat) :
    levels client state limits.unlimited ≤ levels client state (limits.atMost most) := by
  cases limit : limits.maxDepth with
  | some deepest => simp [levels, Limits.unlimited, Limits.atMost, limit]
  | none =>
    simp only [levels, Limits.unlimited, Limits.atMost, limit]
    exact Nat.mul_le_mul_left _ (Nat.succ_le_succ (Nat.zero_le most))

/-- A limited walk, if some files are wanted and the unlimited walk terminates. -/
theorem walk_cuts {most : Nat} (terminates : Terminates client state pattern limits.unlimited start)
    (some_ : 0 < most) :
    Cuts client state most (walk client state start pattern limits.unlimited)
      (walk client state start pattern (limits.atMost most)) := by
  rw [← terminates.settled _ (levels_le_atMost most)]
  exact visitFolder_cuts some_

theorem walk_atMost_zero :
    let visit := walk client state start pattern (limits.atMost 0)
    visit.files = [] ∧ Event.calls visit.events = [] ∧ visit.stop = none := by
  obtain ⟨more, allowed⟩ : ∃ more, levels client state (limits.atMost 0) = more + 1 := by
    cases limit : limits.maxDepth <;> simp [levels, Limits.atMost, limit]
  have full : isFull (limits.atMost 0) 0 = true := rfl
  rw [walk, allowed, visitFolder_succ, if_pos full]
  split
  · exact ⟨rfl, rfl, rfl⟩
  · exact ⟨rfl, rfl, rfl⟩

theorem walk_collects (terminates : Terminates client state pattern limits.unlimited start) :
    Collects client state (walk client state start pattern limits.unlimited).events
      (walk client state start pattern limits.unlimited).files :=
  ((walk_cuts terminates (Nat.succ_pos _)).eq_of_lt (Nat.lt_succ_self _)).2

variable (limits) in
/-- A search succeeds if its walk finds no more files than are wanted and comes to its end. -/
theorem conclude_atMost_ok {visit : Storage.Visit} {most : Nat} {found : List File}
    (few : found.length ≤ most) (files : visit.files = found) (stop : visit.stop = none) :
    ∃ files, conclude (limits.atMost most) visit = .ok files ∧ SortedStably found files := by
  refine ⟨newestFirst found, ?_, newestFirst_sortedStably found⟩
  rw [conclude, stop, files]
  refine congrArg Except.ok (List.take_of_length_le ?_)
  rwa [newestFirst, List.length_mergeSort]

end

end Search

open Search

/-- A search for a number of files, if the walk of the search for all of them ends by itself. If
that one collects fewer files, until it ends or fails, both searches are the same. If it collects as
many, the limited search succeeds with the first of them, sorted by time, the newest first, where
files of equal time keep the order in which they were collected. Both searches are one until the
last file that is wanted is collected, and the limited one asks for no folder after that, or for
none at all if no file is wanted. -/
theorem search_atMost {σ : Type} {client : Client σ} {state : σ} {pattern : Regex.Pattern}
    {limits : Limits} {folder : Option String} {start : String} {fewer height : Nat}
    (begins : Begins client state folder start)
    (finite : (visitFolder client state pattern limits.unlimited fewer 0 start "" 0).stop ≠
      some .endless)
    (generous : fewer ≤ height) :
    let storage := client.withHeight height
    let found := (walk storage state start pattern limits.unlimited).files
    let whole := search storage state folder pattern limits.unlimited
    (Collects storage state whole.events found ∧
      ∀ files, whole.result = .ok files → SortedStably found files) ∧
    ∀ most,
      let run := search storage state folder pattern (limits.atMost most)
      (found.length < most → run = whole) ∧
      (most ≤ found.length →
        (∃ files, run.result = .ok files ∧ SortedStably (found.take most) files) ∧
        (most = 0 → Event.calls run.events = []) ∧
        ∀ n, most = n + 1 → PartsAfter storage state n found whole.events run.events) := by
  intro storage found whole
  have begins' : Begins storage state folder start := begins
  have terminates : Terminates storage state pattern limits.unlimited start :=
    terminates_withHeight finite generous
  obtain ⟨before, started, course⟩ := search_eq pattern begins'
  have whole_ : whole = _ := course limits.unlimited
  rw [whole_]
  refine ⟨⟨?_, fun files ended => ?_⟩, fun most => ?_⟩
  · simpa using started.append ((walk_collects terminates).append (collects_closing _))
  · simp only [conclude] at ended
    split at ended
    · cases ended
    · obtain rfl := Except.ok.inj ended
      exact newestFirst_sortedStably _
  intro run
  have run_ : run = _ := course (limits.atMost most)
  cases most with
  | zero =>
    obtain ⟨files, calls, stop⟩ := @walk_atMost_zero _ storage state pattern limits start
    have quiet : Event.calls run.events = [] := (search_calls begins').trans calls
    refine ⟨fun none_ => absurd none_ (Nat.not_lt_zero _), fun _ =>
      ⟨?_, fun _ => quiet, fun n same => absurd same (Nat.succ_ne_zero n).symm⟩⟩
    rw [run_]
    exact conclude_atMost_ok limits (Nat.zero_le _) files stop
  | succ n =>
    rw [run_]
    have cuts := walk_cuts terminates (Nat.succ_pos n)
    refine ⟨fun few => ?_, fun enough => ?_⟩
    · simp only [(cuts.eq_of_lt few).1, conclude_atMost few]
    · obtain ⟨parts, files, stop⟩ := cuts.parts_of_lt enough
      refine ⟨conclude_atMost_ok limits (List.length_take_le _ _) files stop, fun none_ =>
        absurd none_ (Nat.succ_ne_zero n), ?_⟩
      rintro _ ⟨⟩
      simpa using (parts.after [] _ (calls_closing _)).before started

/-! ## A folder that cannot be listed -/

/-- A root with a file, a folder with another one, and a folder that cannot be listed. -/
def Catalogue.barred : Catalogue where
  folders := [
    ("r", [⟨"a", "a", .file, 1, false⟩, ⟨"b", "b", .file, 6, false⟩,
      ⟨"s", "s", .folder, 2, false⟩,
      ⟨"m", "m", .folder, 3, false⟩]),
    ("s", [⟨"c", "ca", .file, 4, false⟩, ⟨"t", "t", .folder, 5, false⟩]), ("t", [])]
  root := some "r"
  localId := none
  failing := []

def Catalogue.barredPattern : Regex.Pattern := (Regex.Pattern.compile "a").toOption.getD default

set_option maxRecDepth 100000 in
theorem Catalogue.barred_stop :
    (visitFolder Catalogue.client Catalogue.barred Catalogue.barredPattern {} 3 0 "r" "" 0).stop =
      some (.failed (.pathOperation "m" "list folder")) := by
  cbv

set_option maxRecDepth 100000 in
theorem Catalogue.barred_files :
    (walk (Catalogue.client.withHeight 3) Catalogue.barred "r" Catalogue.barredPattern {}).files =
      [⟨"a", "a", "a", 1⟩, ⟨"c", "ca", "s/ca", 4⟩] := by
  cbv

set_option maxRecDepth 100000 in
theorem Catalogue.barred_result :
    (search (Catalogue.client.withHeight 3) Catalogue.barred none
      Catalogue.barredPattern {}).result =
      .error (.failed (.pathOperation "m" "list folder")) := by
  cbv

/-- A search for two files ends with them before it comes to a folder that cannot be listed. A
search for three comes to it, and fails like the search for all files. -/
theorem search_atMost_barred :
    let limits : Limits := {}
    let client := Catalogue.client
    let storage := client.withHeight 3
    let pattern := Catalogue.barredPattern
    let found : List File := [⟨"a", "a", "a", 1⟩, ⟨"c", "ca", "s/ca", 4⟩]
    let whole := search storage Catalogue.barred none pattern {}
    let two := search storage Catalogue.barred none pattern (limits.atMost 2)
    (Begins client Catalogue.barred none "r" ∧
      (visitFolder client Catalogue.barred pattern limits.unlimited 3 0 "r" "" 0).stop ≠
        some .endless) ∧
    whole.result = .error (.failed (.pathOperation "m" "list folder")) ∧
    Collects storage Catalogue.barred whole.events found ∧
    (∃ files, two.result = .ok files ∧ SortedStably found files) ∧
    PartsAfter storage Catalogue.barred 1 found whole.events two.events ∧
    search storage Catalogue.barred none pattern (limits.atMost 3) = whole ∧
    Event.calls (search storage Catalogue.barred none pattern (limits.atMost 0)).events = [] := by
  intro limits client storage pattern found whole two
  have begins : Begins client Catalogue.barred none "r" := rfl
  have finite : (visitFolder client Catalogue.barred pattern limits.unlimited 3 0 "r" "" 0).stop ≠
      some .endless := by
    rw [show limits.unlimited = {} from rfl, Catalogue.barred_stop]
    simp
  have files : (walk storage Catalogue.barred "r" pattern limits.unlimited).files = found :=
    Catalogue.barred_files
  obtain ⟨⟨collects, _⟩, limited⟩ := search_atMost begins finite le_rfl
  rw [files] at collects limited
  obtain ⟨ends, _, parts⟩ := (limited 2).2 le_rfl
  exact ⟨⟨begins, finite⟩, Catalogue.barred_result, collects, ends, parts 1 rfl,
    (limited 3).1 (Nat.lt_succ_self _), ((limited 0).2 (Nat.zero_le _)).2.1 rfl⟩

end TreeFetch.Storage
