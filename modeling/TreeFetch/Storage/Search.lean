import TreeFetch.Regex.Pattern
import TreeFetch.Storage.Client

/-!
# Searching a storage

A search walks the folders of a storage depth first, each folder in the order of its listing, and
collects the files whose names match a pattern. Trashed entries, excluded folders and folders below
the depth limit are left out with everything below them, and the walk ends as soon as enough files
are collected. The result is ordered by time, the newest first; files of equal time keep the order
in which they were found.

A `Visit` is what one part of the walk did. `Visit.andThen` puts a later part after it, unless the
earlier one had to stop. The walk carries the number of levels that it may still go down, so that it
ends also in a storage whose folders contain one another; `levels` allows enough of them for every
walk that ends by itself.

The functions whose names end in `With` take what messages do to the storage: each folder is listed
in the state in which the messages before have left the storage. `search` and the parts of it that
are named like the ones of `searchWith` are about storages in which messages change nothing.
-/

namespace TreeFetch.Storage

structure Limits where
  /-- The deepest level to enter; the folder where the search begins is level 0. -/
  maxDepth : Option Nat := none
  /-- How many files to return at most. -/
  maxResults : Option Nat := none
  /-- Ids of folders that are never entered. -/
  excluded : List String := []
deriving Repr, DecidableEq, Inhabited

/-- Why a walk stopped before its end. -/
inductive Stop
  /-- The storage could not answer. -/
  | failed (e : Error)
  /-- Folders stand inside themselves, and nothing else ends the walk. -/
  | endless
deriving Repr, DecidableEq, Inhabited

/-- What a part of a walk did: the files found, what happened, and why it stopped early. -/
structure Visit where
  files : List File := []
  events : List Event := []
  stop : Option Stop := none
deriving Repr, DecidableEq, Inhabited

namespace Visit

def say (severity : Severity) (message : String) : Visit :=
  { events := [.told ⟨severity, .search, message⟩] }

/-- A later part of a walk, which knows how many files the earlier one found. -/
def andThen (first : Visit) (next : Nat → Visit) : Visit :=
  match first.stop with
  | some _ => first
  | none =>
    let second := next first.files.length
    { files := first.files ++ second.files
      events := first.events ++ second.events
      stop := second.stop }

end Visit

namespace Search

def isFull (limits : Limits) (found : Nat) : Bool :=
  limits.maxResults.any fun most => found ≥ most

/-- The path of an entry below the folder with the given path. -/
def childPath (parent name : String) : String := if parent = "" then name else parent ++ "/" ++ name

/-- Visits one entry of the folder with the given path. `enter` visits a folder with an id and a
path. -/
def visitEntry (pattern : Regex.Pattern) (parent : String)
    (enter : (id path : String) → (found : Nat) → Visit) (e : Entry) (found : Nat) : Visit :=
  let path := childPath parent e.name
  if e.trashed then .say .trace s!"Skipping trashed entry: {e.name}"
  else
    match e.kind with
    | .folder => enter e.id path found
    | .file =>
      if pattern.matches e.name then
        { Visit.say .debug s!"Found matching file: {path}" with
          files := [⟨e.id, e.name, path, e.modified⟩] }
      else {}

/-- Visits the entries of a folder one after the other, when `found` files are found already. -/
def visitEntriesWith {σ : Type} (hear : Hearing σ) (pattern : Regex.Pattern) (limits : Limits)
    (parent : String) (enter : (id path : String) → (found : Nat) → σ → Visit) :
    List Entry → (found : Nat) → σ → Visit
  | [], _, _ => {}
  | e :: rest, found, state =>
    if isFull limits found then .say .debug "Reached max results, stopping search"
    else
      let visit :=
        visitEntry pattern parent (fun id path found => enter id path found state) e found
      visit.andThen fun more =>
        visitEntriesWith hear pattern limits parent enter rest (found + more)
          (Event.heard hear state visit.events)

/-- Visits the folder with an id and a path at a depth, when `found` files are found already. -/
def visitFolderWith {σ : Type} (hear : Hearing σ) (client : Client σ) (pattern : Regex.Pattern)
    (limits : Limits) :
    (levels depth : Nat) → (id path : String) → (found : Nat) → σ → Visit
  | 0, _, _, _, _, _ => { stop := some .endless }
  | levels + 1, depth, id, path, found, state =>
    if limits.maxDepth.any fun most => depth > most then
      .say .trace s!"Reached max depth at '{path}'"
    else if isFull limits found then {}
    else if limits.excluded.contains id then .say .debug s!"Skipping excluded folder '{path}'"
    else
      let answer := client.list state id
      let asked : List Event := .asked (.list id) :: answer.notes.map .told
      match answer.result with
      | .error e => { events := asked, stop := some (.failed e) }
      | .ok entries =>
        let entered :=
          Visit.say .trace s!"Entering '{path}' (depth {depth}), {entries.length} entries"
        let listed := asked ++ entered.events
        { entered with events := listed }.andThen fun _ =>
          visitEntriesWith hear pattern limits path
            (visitFolderWith hear client pattern limits levels (depth + 1)) entries found
            (Event.heard hear state listed)

def visitEntries (pattern : Regex.Pattern) (limits : Limits) (parent : String)
    (enter : (id path : String) → (found : Nat) → Visit) (entries : List Entry) (found : Nat) :
    Visit :=
  visitEntriesWith deaf pattern limits parent (fun id path found (_ : Unit) => enter id path found)
    entries found ()

/-- `visitFolderWith` where messages change nothing. -/
def visitFolder {σ : Type} (client : Client σ) (state : σ) (pattern : Regex.Pattern)
    (limits : Limits) (levels depth : Nat) (id path : String) (found : Nat) : Visit :=
  visitFolderWith deaf client pattern limits levels depth id path found state

/-- How many levels a walk may need: one more than the depth limit allows to enter, or else one for
each folder inside one another and again for each file that may be found on the way. -/
def levels {σ : Type} (client : Client σ) (state : σ) (limits : Limits) : Nat :=
  match limits.maxDepth with
  | some most => most + 2
  | none => (client.height state + 1) * (limits.maxResults.getD 0 + 1)

def walkWith {σ : Type} (hear : Hearing σ) (client : Client σ) (state : σ) (start : String)
    (pattern : Regex.Pattern) (limits : Limits) : Visit :=
  visitFolderWith hear client pattern limits (levels client state limits) 0 start "" 0 state

/-- `walkWith` where messages change nothing. -/
def walk {σ : Type} (client : Client σ) (state : σ) (start : String) (pattern : Regex.Pattern)
    (limits : Limits) : Visit :=
  visitFolder client state pattern limits (levels client state limits) 0 start "" 0

def newestFirst (files : List File) : List File :=
  files.mergeSort fun a b => b.modified ≤ a.modified

end Search

/-- The result of a search, with what happened on the way. -/
structure SearchResult where
  result : Except Stop (List File)
  events : List Event

/-- Searches a storage from a folder, or from its root, for the files whose names match. -/
def searchWith {σ : Type} (hear : Hearing σ) (client : Client σ) (state : σ)
    (folder : Option String) (pattern : Regex.Pattern) (limits : Limits) : SearchResult :=
  let say (message : String) : Event := .told ⟨.debug, .search, message⟩
  let started := [say s!"Starting search with pattern: {pattern.source}"]
  let state := Event.heard hear state started
  let start : Except Error (String × List Event) :=
    match folder with
    | some id => .ok (id, [])
    | none =>
      (client.rootId state).map fun root =>
        (root, [say s!"No folder given, using root folder: '{root}'"])
  match start with
  | .error e => ⟨.error (.failed e), started⟩
  | .ok (id, noted) =>
    let visit := Search.walkWith hear client (Event.heard hear state noted) id pattern limits
    let events := started ++ noted ++ visit.events
    match visit.stop with
    | some stop => ⟨.error stop, events⟩
    | none =>
      let sorted := Search.newestFirst visit.files
      let files :=
        match limits.maxResults with
        | some most => sorted.take most
        | none => sorted
      ⟨.ok files, events ++ [say s!"Search completed, {files.length} matching files"]⟩

/-- `searchWith` where messages change nothing. -/
def search {σ : Type} (client : Client σ) (state : σ) (folder : Option String)
    (pattern : Regex.Pattern) (limits : Limits) : SearchResult :=
  searchWith deaf client state folder pattern limits

end TreeFetch.Storage
