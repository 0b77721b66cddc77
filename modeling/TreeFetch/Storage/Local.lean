import TreeFetch.FileSystem.Canonical
import TreeFetch.FileSystem.Change
import TreeFetch.Storage.Client

/-!
# Folders of the local machine as a storage

A local storage serves what lies below one folder, its root. The id of an entry is the path that
leads to it from the root, and the root's own id is empty. An id may not climb. A listing leaves out
what has no name that is a text, links that lead nowhere, and links to folders, so that a walk
cannot go in circles; a link to a file counts as that file.
-/

namespace TreeFetch.Storage

/-- A storage of which the root is a folder of the local machine. -/
structure Local where
  root : String
deriving Repr, DecidableEq, Inhabited

namespace Local

/-- The storage below a path, which has to lead to a folder. -/
def ofRoot (fs : FileSystem) (root : String) : Except Error Local :=
  if fs.isFolder root then .ok ⟨root⟩ else .error (.pathOperation root "open storage root")

/-- The segments of an id and the path of what it names. -/
def resolve (s : Local) (id : String) : Except Error (List String × String) :=
  match PathText.segments? id with
  | none => .error (.pathOperation id "find storage folder")
  | some segments => .ok (segments, PathText.pushAll s.root segments)

/-- The id of an entry of the folder with the given segments. -/
def childId (segments : List String) (name : String) : String :=
  PathText.ofSegments (segments ++ [name])

/-! ## Listing -/

/-- What a listing makes of one name: an entry, nothing but a message, or a failure of the whole
listing. -/
inductive Finding
  | entry (e : Entry)
  | skipped (note : String)
  | failed (e : Error)
deriving Repr, DecidableEq, Inhabited

/-- What a listing makes of the text `name` in the folder with the given segments and path. -/
def examineText (fs : FileSystem) (segments : List String) (folder name : String)
    (isLink : Bool) : Finding :=
  let path := PathText.push folder name
  match fs.stat path with
  | .error fault =>
    if isLink then .skipped s!"Skipping broken symlink {path}: {fault.message}"
    else .failed (.fileOperation path "read metadata of" fault.message)
  | .ok (_, node) =>
    if isLink && node.isFolder then .skipped s!"Not following symlinked folder: {path}"
    else
      .entry
        { id := childId segments name
          name
          kind := if node.isFolder then .folder else .file
          modified := node.time?.getD 0
          trashed := name.startsWith "." }

/-- What a listing makes of a name and what it names. -/
def examine (fs : FileSystem) (segments : List String) (folder : String) :
    FileSystem.Name × FileSystem.Node → Finding
  | (.raw bytes, _) =>
    let shown := (FileSystem.Name.raw bytes).display
    .skipped s!"Skipping entry with non-unicode name: {PathText.push folder shown}"
  | (.text name, node) => examineText fs segments folder name (node matches .link _)

def say (severity : Severity) (message : String) : Record := ⟨severity, .localStorage, message⟩

/-- The entries among the names in a folder, with the messages up to the first failure. A message
is heard before the next name is examined. -/
def gatherWith (hear : Hearing FileSystem) (segments : List String) (folder : String) :
    FileSystem → List (FileSystem.Name × FileSystem.Node) → Answer (List Entry)
  | _, [] => ⟨[], .ok []⟩
  | fs, child :: rest =>
    match examine fs segments folder child with
    | .entry e =>
      let answer := gatherWith hear segments folder fs rest
      ⟨answer.notes, answer.result.map (e :: ·)⟩
    | .skipped note =>
      let told := say .debug note
      let answer := gatherWith hear segments folder (hear fs told) rest
      ⟨told :: answer.notes, answer.result⟩
    | .failed e => ⟨[], .error e⟩

/-- Entries by time, the newest first. -/
def newestFirst (entries : List Entry) : List Entry :=
  entries.mergeSort fun a b => b.modified ≤ a.modified

/-- The entries of the folder with an id, the newest first. -/
def listWith (s : Local) (hear : Hearing FileSystem) (fs : FileSystem) (id : String) :
    Answer (List Entry) :=
  match s.resolve id with
  | .error e => ⟨[], .error e⟩
  | .ok (segments, folder) =>
    match fs.readFolder folder with
    | .error fault => ⟨[], .error (.fileOperation folder "list" fault.message)⟩
    | .ok children =>
      let answer := gatherWith hear segments folder fs children
      match answer.result with
      | .error e => ⟨answer.notes, .error e⟩
      | .ok entries =>
        let told := say .trace s!"Listed {entries.length} entries in {folder}"
        ⟨answer.notes ++ [told], .ok (newestFirst entries)⟩

/-- `listWith` where messages change nothing. -/
def list (s : Local) (fs : FileSystem) (id : String) : Answer (List Entry) := s.listWith deaf fs id

/-! ## Downloading -/

/-- Makes the folders above a path. -/
def makeParents (fs : FileSystem) (path : String) : Except Error Unit × FileSystem :=
  match (PathText.parents path).head? with
  | none => (.ok (), fs)
  | some parent =>
    let (made, fs) := fs.makeFolders parent
    (made.mapError fun fault => .fileOperation parent "create directory" fault.message, fs)

/-- Saves the file with an id at a path. Missing folders above the path are made first, and stay
also if the file cannot be copied then. -/
def download (s : Local) (fs : FileSystem) (id path : String) : Answer Unit × FileSystem :=
  match s.resolve id with
  | .error e => (⟨[], .error e⟩, fs)
  | .ok (_, source) =>
    match makeParents fs path with
    | (.error e, fs) => (⟨[], .error e⟩, fs)
    | (.ok (), fs) =>
      match fs.copyFile source path with
      | .error fault => (⟨[], .error (.fileOperation source "download" fault.message)⟩, fs)
      | .ok copied => (⟨[say .debug s!"Downloaded {source} -> {path}"], .ok ()⟩, copied)

/-! ## Ids of paths -/

/-- The id of the folder or file that a path leads to, links followed, if it is the root or lies
below it and all names on the way are texts. -/
def folderIdAt (s : Local) (fs : FileSystem) (path : String) : Option String := do
  let root ← fs.canonical? s.root
  let target ← fs.canonical? path
  let names ← FileSystem.Location.below? root target
  let segments ← FileSystem.Location.texts? names
  return PathText.ofSegments segments

def client (s : Local) : Client FileSystem where
  rootId _ := .ok ""
  list := s.list
  download fs file path := s.download fs file.id path
  folderIdAt := s.folderIdAt
  height fs := fs.tree.depth + 1

/-- How a local storage answers that holds the file in which messages are kept. -/
def clientWith (s : Local) (hear : Hearing FileSystem) : Client FileSystem :=
  { s.client with list := s.listWith hear }

end Local

end TreeFetch.Storage
