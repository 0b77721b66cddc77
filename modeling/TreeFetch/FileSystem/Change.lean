import TreeFetch.FileSystem.Basic

/-!
# Changes to a file system

Folders are made, files are written and entries are removed. Every change happens at the time of the
clock, which then goes on. Where an entry appears or disappears the folder that holds it changes
too; writing a file changes that file only.
-/

namespace TreeFetch.FileSystem

/-- The file system with another tree, after one more change. -/
def advance (fs : FileSystem) (tree : Tree) : FileSystem :=
  { fs with tree, clock := fs.clock + 1 }

/-- A new entry, made now. -/
def create (fs : FileSystem) (folder : Location) (name : Name) (node : Node) : FileSystem :=
  fs.advance ((fs.tree.add (name :: folder) node).touch folder fs.clock)

def overwrite (fs : FileSystem) (at_ : Location) (content : ByteArray) : FileSystem :=
  fs.advance (fs.tree.write at_ content fs.clock)

/-- Another time for what a path leads to, links followed. -/
def setTime (fs : FileSystem) (path : String) (time : Time) : FileSystem :=
  match fs.locate? path with
  | some at_ => { fs with tree := fs.tree.touch at_ time }
  | none => fs

/-! ## Folders -/

/-- Makes a folder where a path leads to a free name. -/
def makeFolder (fs : FileSystem) (path : String) : Except Fault FileSystem :=
  match fs.resolveLast path with
  | .error fault => .error fault
  | .ok (.entry _) => .error .exists
  | .ok (.vacancy folder name) => .ok (fs.create folder name (.folder fs.clock))

/-- Makes the folder at the first path. Where the folder above it is missing, that one is made
first; the paths after the first one are those of the folders above. Folders that were made stay
also when a later one cannot be made. -/
def makeFoldersAlong (fs : FileSystem) : List String → Except Fault Unit × FileSystem
  | [] => (.error .notFound, fs)
  | path :: above =>
    if path = "" then (.ok (), fs)
    else
      let settle (fs : FileSystem) (fault : Fault) : Except Fault Unit × FileSystem :=
        (if fs.isFolder path then .ok () else .error fault, fs)
      match fs.makeFolder path with
      | .ok made => (.ok (), made)
      | .error .notFound =>
        match makeFoldersAlong fs above with
        | (.error fault, made) => (.error fault, made)
        | (.ok (), made) =>
          match made.makeFolder path with
          | .ok made => (.ok (), made)
          | .error fault => settle made fault
      | .error fault => settle fs fault

/-- Makes the folder of a path and all folders above it that are missing. -/
def makeFolders (fs : FileSystem) (path : String) : Except Fault Unit × FileSystem :=
  fs.makeFoldersAlong (path :: PathText.parents path)

/-! ## Files -/

/-- Opens a file for writing: its location, and the file system in which it exists. Links are
followed, also one that leads to a free name. A path that ends with a slash is one of a folder,
whatever is there. -/
def openFile (fs : FileSystem) (path : String) : Except Fault (Location × FileSystem) :=
  let place := if path.back = '/' then fs.resolveHolder path else fs.resolve path
  match place with
  | .error fault => .error fault
  | .ok (.vacancy folder name) =>
    .ok (name :: folder, fs.create folder name (.file .empty fs.clock))
  | .ok (.entry at_) => if fs.tree.isFolder at_ then .error .isFolder else .ok (at_, fs)

/-- Writes a file, which is created if it does not exist. -/
def writeFile (fs : FileSystem) (path : String) (content : ByteArray) : Except Fault FileSystem :=
  (fs.openFile path).map fun (at_, fs) => fs.overwrite at_ content

/-- Copies a file over another one, which is created if it does not exist. The target is emptied
before the source is read, so that a file copied onto itself is left empty. -/
def copyFile (fs : FileSystem) (source target : String) : Except Fault FileSystem :=
  match fs.stat source with
  | .error fault => .error fault
  | .ok (held, .file ..) =>
    match fs.openFile target with
    | .error fault => .error fault
    | .ok (place, opened) =>
      let emptied := opened.overwrite place .empty
      match emptied.tree.node? held with
      | some (.file content _) => .ok (emptied.overwrite place content)
      | _ => .ok emptied
  | .ok _ => .error .isFolder

/-- Removes what a path names, with everything below it; a link itself is removed, not its
target. -/
def removeAll (fs : FileSystem) (path : String) : Except Fault FileSystem :=
  match fs.resolveLast path with
  | .error fault => .error fault
  | .ok (.vacancy ..) => .error .notFound
  | .ok (.entry at_) => .ok (fs.advance ((fs.tree.remove at_).touch at_.tail fs.clock))

end TreeFetch.FileSystem
