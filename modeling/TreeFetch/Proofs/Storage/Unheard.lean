import TreeFetch.Storage.Search

/-!
# Searches in which messages change nothing

Where messages change nothing, all folders are listed in the state in which the search began. The
equations of `visitEntries`, `visitFolder` and `search` say so without any state in between.
-/

namespace TreeFetch.Storage

variable {σ : Type} {client : Client σ} {state : σ} {pattern : Regex.Pattern} {limits : Limits}

@[simp] theorem deaf_eq (state : σ) (r : Record) : deaf state r = state := rfl

@[simp] theorem heard_deaf (state : σ) (events : List Event) :
    Event.heard deaf state events = state := by
  unfold Event.heard
  induction Event.records events with
  | nil => rfl
  | cons r rest ih => exact ih

namespace Search

section Entries

variable {parent : String} {enter : (id path : String) → (found : Nat) → Visit} {found : Nat}

theorem visitEntries_nil : visitEntries pattern limits parent enter [] found = {} := rfl

theorem visitEntries_next (e : Entry) (rest : List Entry) :
    visitEntries pattern limits parent enter (e :: rest) found =
      if isFull limits found then .say .debug "Reached max results, stopping search"
      else
        (visitEntry pattern parent enter e found).andThen fun more =>
          visitEntries pattern limits parent enter rest (found + more) :=
  rfl

theorem visitEntriesWith_deaf (enter : (id path : String) → (found : Nat) → σ → Visit)
    (entries : List Entry) :
    visitEntriesWith deaf pattern limits parent enter entries found state =
      visitEntries pattern limits parent (fun id path found => enter id path found state) entries
        found := by
  induction entries generalizing found with
  | nil => rfl
  | cons e rest ih =>
    rw [visitEntriesWith, visitEntries_next]
    simp only [heard_deaf, ih]

end Entries

section Folders

variable {levels depth found : Nat} {id path : String}

theorem visitFolder_zero :
    visitFolder client state pattern limits 0 depth id path found = { stop := some .endless } :=
  rfl

theorem visitFolder_succ :
    visitFolder client state pattern limits (levels + 1) depth id path found =
      if limits.maxDepth.any fun most => depth > most then
        .say .trace s!"Reached max depth at '{path}'"
      else if isFull limits found then {}
      else if limits.excluded.contains id then .say .debug s!"Skipping excluded folder '{path}'"
      else
        let answer := client.list state id
        let asked : List Event := .asked (.list id) :: answer.notes.map .told
        match answer.result with
        | .error e => { events := asked, stop := some (.failed e) }
        | .ok entries =>
          let entered :=
            Visit.say .trace s!"Entering '{path}' (depth {depth}), {entries.length} entries"
          { entered with events := asked ++ entered.events }.andThen fun _ =>
            visitEntries pattern limits path
              (visitFolder client state pattern limits levels (depth + 1)) entries found := by
  simp only [visitFolder, visitFolderWith, heard_deaf, visitEntriesWith_deaf]
  rfl

end Folders

end Search

theorem search_unheard (folder : Option String) :
    search client state folder pattern limits =
      let say (message : String) : Event := .told ⟨.debug, .search, message⟩
      let started := [say s!"Starting search with pattern: {pattern.source}"]
      let start : Except Error (String × List Event) :=
        match folder with
        | some id => .ok (id, [])
        | none =>
          (client.rootId state).map fun root =>
            (root, [say s!"No folder given, using root folder: '{root}'"])
      match start with
      | .error e => ⟨.error (.failed e), started⟩
      | .ok (id, noted) =>
        let visit := Search.walk client state id pattern limits
        let events := started ++ noted ++ visit.events
        match visit.stop with
        | some stop => ⟨.error stop, events⟩
        | none =>
          let sorted := Search.newestFirst visit.files
          let files :=
            match limits.maxResults with
            | some most => sorted.take most
            | none => sorted
          ⟨.ok files, events ++ [say s!"Search completed, {files.length} matching files"]⟩ := by
  unfold search searchWith
  simp only [heard_deaf]
  rfl

end TreeFetch.Storage
