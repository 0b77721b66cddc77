import TreeFetch.Proofs.Storage.Listing
import TreeFetch.Proofs.Storage.Requests

/-!
# Searches in which messages change the storage

Messages may be kept in the storage that is searched. Every folder is then listed in the state that
the messages before have left. Here is what is true of a search in all states that messages can lead
to.

Results:
1. `Search.SufficesIn.ends`: levels that suffice in all these states are not used up.
2. `Local.listWith_lists`: the entries of a listing lie in the listed folder, although messages are
   told while it is made.
3. `Local.sufficesIn_levels`: a search of a local storage allows for levels that suffice, if
   messages change nothing but the contents of files.
-/

namespace TreeFetch.Storage

variable {σ : Type} {hear : Hearing σ} {valid : σ → Prop}

/-- What is true of a state is true of it after a message. -/
def Preserves (hear : Hearing σ) (valid : σ → Prop) : Prop :=
  ∀ state r, valid state → valid (hear state r)

theorem Preserves.deaf (state : σ) : Preserves Storage.deaf (· = state) := fun _ _ now => now

namespace Event

theorem heard_append (state : σ) (first rest : List Event) :
    heard hear state (first ++ rest) = heard hear (heard hear state first) rest := by
  simp only [heard, records, List.filterMap_append, List.foldl_append]

theorem heard_kept (keeps : Preserves hear valid) {state : σ} (events : List Event)
    (now : valid state) : valid (heard hear state events) := by
  unfold heard
  induction records events generalizing state with
  | nil => exact now
  | cons r rest ih => exact ih (keeps state r now)

end Event

namespace Search

variable {client : Client σ} {pattern : Regex.Pattern} {limits : Limits} {levels depth : Nat}
  {id path : String} {state : σ}

theorem visitEntry_ends {parent : String} {enter : (id path : String) → (found : Nat) → Visit}
    {e : Entry} (enters : e.Descends → ∀ path found,
      (enter e.id path found).stop ≠ some .endless)
    (found : Nat) : (visitEntry pattern parent enter e found).stop ≠ some .endless := by
  unfold visitEntry
  split
  · simp [Visit.say]
  · next kept =>
    split
    · next kind => exact enters ⟨kind, by simpa using kept⟩ _ _
    · split <;> simp [Visit.say]

theorem visitEntriesWith_ends (keeps : Preserves hear valid) {parent : String}
    {enter : (id path : String) → (found : Nat) → σ → Visit} (entries : List Entry)
    (enters : ∀ state, valid state → ∀ e ∈ entries, e.Descends → ∀ path found,
      (enter e.id path found state).stop ≠ some .endless) (found : Nat) (now : valid state) :
    (visitEntriesWith hear pattern limits parent enter entries found state).stop ≠
      some .endless := by
  induction entries generalizing found state with
  | nil => simp [visitEntriesWith]
  | cons e rest ih =>
    rw [visitEntriesWith]
    split
    · simp [Visit.say]
    · have here : (visitEntry pattern parent (fun id path found => enter id path found state) e
          found).stop ≠ some .endless :=
        visitEntry_ends (enters state now e (List.mem_cons_self ..)) found
      generalize visitEntry pattern parent _ e found = visit at here ⊢
      cases stop : visit.stop with
      | some reason =>
        rw [Visit.andThen_of_stop stop]
        exact here
      | none =>
        rw [Visit.stop_andThen stop]
        exact ih (fun state now x present => enters state now x (List.mem_cons_of_mem e present)) _
          (Event.heard_kept keeps visit.events now)

/-- Levels that suffice are not used up, whatever is heard on the way. -/
theorem SufficesIn.ends (keeps : Preserves hear valid)
    (enough : SufficesIn valid client limits levels depth id) (path : String) (found : Nat)
    (now : valid state) :
    (visitFolderWith hear client pattern limits levels depth id path found state).stop ≠
      some .endless := by
  induction enough generalizing path found state with
  | @intro levels depth id inside ih =>
    rw [visitFolderWith]
    split
    · simp [Visit.say]
    · next shallow =>
      split
      · simp
      · split
        · simp [Visit.say]
        · next included =>
          simp only
          split
          · simp
          · next entries listed =>
            have opened : Opens client state limits depth id entries :=
              ⟨admitted_iff.2 ⟨shallow, included⟩, listed⟩
            rw [Visit.stop_andThen rfl]
            refine visitEntriesWith_ends keeps entries (fun state' now' e present down path found =>
              ih state entries e now opened present down path found now') found ?_
            exact Event.heard_kept keeps _ now

theorem searchWith_ne_endless (keeps : Preserves hear valid) (now : valid state)
    (enough : ∀ state start, valid state →
      SufficesIn valid client limits (Search.levels client state limits) 0 start)
    (folder : Option String) :
    (searchWith hear client state folder pattern limits).result ≠ .error .endless := by
  unfold searchWith
  simp only
  split
  · simp
  · next id noted _ =>
    split
    · next stop stopped =>
      rintro same
      obtain rfl := Except.error.inj same
      have later := Event.heard_kept keeps noted (Event.heard_kept keeps
        [.told ⟨.debug, .search, s!"Starting search with pattern: {pattern.source}"⟩] now)
      exact (enough _ id later).ends keeps "" 0 later stopped
    · simp

end Search

end TreeFetch.Storage

/-! ## Local storages -/

namespace TreeFetch.Storage.Local

open FileSystem Search

variable {s : Local} {fs : FileSystem} {hear : Hearing FileSystem} {valid : FileSystem → Prop}
  {pattern : Regex.Pattern} {limits : Limits} {id : String} {segments : List String}
  {at_ : Location} {depth levels : Nat}

/-- Every entry of a listing is made of a name in the folder, in the state in which it is
examined. -/
theorem examined_of_gatherWith (keeps : Preserves hear valid) {folder : String}
    {children : List (Name × Node)} {entries : List Entry} (now : valid fs)
    (h : (gatherWith hear segments folder fs children).result = .ok entries) :
    ∀ e ∈ entries, ∃ seen child, valid seen ∧ child ∈ children ∧
      examine seen segments folder child = .entry e := by
  induction children generalizing fs entries with
  | nil =>
    obtain rfl := Except.ok.inj h
    exact List.forall_mem_nil _
  | cons child rest ih =>
    have later : ∀ {entries : List Entry} {fs : FileSystem}, valid fs →
        (gatherWith hear segments folder fs rest).result = .ok entries →
        ∀ e ∈ entries, ∃ seen other, valid seen ∧ other ∈ child :: rest ∧
          examine seen segments folder other = .entry e := by
      intro entries fs now gathered e present
      obtain ⟨seen, other, valid_, among, made⟩ := ih now gathered e present
      exact ⟨seen, other, valid_, List.mem_cons_of_mem child among, made⟩
    rw [gatherWith] at h
    split at h
    · next first made =>
      cases gathered : (gatherWith hear segments folder fs rest).result with
      | error fault => simp [gathered, Except.map] at h
      | ok others =>
        simp only [gathered, Except.map, Except.ok.injEq] at h
        obtain rfl := h
        exact List.forall_mem_cons.2
          ⟨⟨fs, child, now, List.mem_cons_self .., made⟩, later now gathered⟩
    · next note _ => exact later (keeps fs _ now) h
    · cases h

/-- The entries of a listing lie in the listed folder, each in the state in which it is examined. -/
theorem listWith_lists (keeps : Preserves hear valid)
    (alike : ∀ seen, valid seen → Alike fs seen) (now : valid fs) {entries : List Entry}
    (h : (s.listWith hear fs id).result = .ok entries) :
    ∃ segments at_, s.LeadsToFolder fs id segments at_ ∧
      ∀ e ∈ entries, ∃ seen, valid seen ∧ s.Lists seen segments at_ e := by
  unfold listWith at h
  split at h
  · cases h
  · next segments folder opened =>
    obtain ⟨cut, rfl⟩ := resolve_eq_ok.1 opened
    split at h
    · cases h
    · next children read =>
      unfold readFolder at read
      split at read
      · cases read
      · next at_ t found =>
        obtain rfl := Except.ok.inj read
        obtain ⟨leads, there⟩ := stat_eq_ok.1 found
        have goes : s.LeadsToFolder fs id segments at_ :=
          ⟨cut, leads, Tree.isFolder_iff_node?.2 ⟨t, there⟩⟩
        refine ⟨segments, at_, goes, ?_⟩
        simp only at h
        split at h
        · cases h
        · next gathered result =>
          obtain rfl := Except.ok.inj h
          intro e present
          obtain ⟨seen, ⟨childName, node⟩, valid_, among, made⟩ :=
            examined_of_gatherWith keeps now result e ((newestFirst_perm _).mem_iff.1 present)
          refine ⟨seen, valid_, ?_⟩
          cases childName with
          | raw bytes => cases made
          | text name =>
            have held := Tree.shape?_of_node? (Tree.mem_children among)
            obtain ⟨node', here, same⟩ := Option.map_eq_some_iff.1
              (((alike seen valid_).shapes (.text name :: at_)).trans held)
            refine lists_of_examineText (goes.extend (alike seen valid_).extension) made here ?_
            rintro target rfl
            rw [Node.shape_eq_link.1 same.symm]
      · cases read

theorem LeadsToFolder.length_le (h : s.LeadsToFolder fs id segments at_) :
    at_.length ≤ fs.tree.depth := by
  obtain ⟨t, there⟩ := Tree.isFolder_iff_node?.1 h.folder
  exact Tree.length_le_depth there

section

variable (keeps : Preserves hear valid) (alike : ∀ seen, valid seen → Alike fs seen)

include keeps alike

theorem listed_in {seen : FileSystem} (now : valid seen) {entries : List Entry} {e : Entry}
    (listed : (s.listWith hear seen id).result = .ok entries) (present : e ∈ entries)
    (kind : e.kind = .folder) :
    ∃ segments at_, s.LeadsToFolder fs id segments at_ ∧
      s.LeadsToFolder fs e.id (segments ++ [e.name]) (.text e.name :: at_) := by
  have among : ∀ other, valid other → Alike seen other := fun other now' =>
    (alike seen now).symm.trans (alike other now')
  obtain ⟨segments, at_, leads, lists⟩ := listWith_lists keeps among now listed
  obtain ⟨examined, now', lists⟩ := lists e present
  exact ⟨segments, at_, leads.extend (alike seen now).symm.extension,
    (lists.folder kind).extend (alike examined now').symm.extension⟩

/-- Below a folder, as many levels suffice as the tree has below it. -/
theorem LeadsToFolder.sufficesIn (h : s.LeadsToFolder fs id segments at_)
    (enough : fs.tree.depth < at_.length + levels) :
    SufficesIn valid (s.clientWith hear) limits levels depth id := by
  induction levels generalizing depth id segments at_ with
  | zero =>
    have := h.length_le
    omega
  | succ levels ih =>
    refine .intro fun seen entries e now opened present down => ?_
    obtain ⟨others, other, leads, inner⟩ :=
      listed_in keeps alike now opened.listed present down.kind
    obtain ⟨rfl, rfl⟩ := h.unique leads
    refine ih inner ?_
    rw [List.length_cons]
    omega

/-- As many levels as the tree has suffice, and one for a start that leads nowhere. -/
theorem sufficesIn_depth (s : Local) (limits : Limits) (enough : fs.tree.depth + 2 ≤ levels)
    (depth : Nat) (id : String) : SufficesIn valid (s.clientWith hear) limits levels depth id := by
  obtain ⟨levels, rfl⟩ : ∃ fewer, levels = fewer + 1 := ⟨levels - 1, by omega⟩
  refine .intro fun seen entries e now opened present down => ?_
  obtain ⟨segments, at_, _, inner⟩ := listed_in keeps alike now opened.listed present down.kind
  exact inner.sufficesIn keeps alike (by rw [List.length_cons]; omega)

/-- The levels that a search of a local storage allows for suffice. -/
theorem sufficesIn_levels (s : Local) (limits : Limits) (id : String) :
    SufficesIn valid (s.clientWith hear) limits
      (Search.levels (s.clientWith hear) fs limits) 0 id := by
  unfold Search.levels
  cases limit : limits.maxDepth with
  | some most => exact sufficesIn_of_maxDepth limit (Nat.le_add_left _ _) (Nat.zero_le _) id
  | none =>
    exact sufficesIn_depth keeps alike s limits (Nat.le_mul_of_pos_right _ (Nat.succ_pos _)) 0 id

end

end TreeFetch.Storage.Local
