import TreeFetch.Program

/-!
# The command

The command takes a picture of what a session can reach on the disk, runs the program on the
picture, and repeats on the disk what the program changed in the picture. Everything that is decided
is decided by the program; this module reads and writes.
-/

namespace TreeFetch.Disk

def place (path : String) := (IO.FS.DirEntry.mk path "").root

/-- The path without links and climbs that a path leads to, if it leads somewhere. -/
def real? (path : String) : IO (Option String) := do
  try
    if ← (place path).pathExists then return some (← IO.FS.realPath (place path)).toString
    else return none
  catch _ => return none

/-- The location of a path without links and climbs. -/
def location (path : String) : FileSystem.Location :=
  ((PathText.parts path).filter fun part => !PathText.isIdle part).reverse.map .text

def pathOf (at_ : FileSystem.Location) : String :=
  "/" ++ PathText.ofSegments (at_.reverse.map FileSystem.Name.display)

def timeOf (t : IO.FS.SystemTime) : Time := t.sec * 1000000000 + t.nsec.toNat

/-- The time on the disk, which is that of a file just made. -/
def now : IO Time := do
  let (_, path) ← IO.FS.createTempFile
  let data ← path.metadata
  IO.FS.removeFile path
  return timeOf data.modified

mutual

/-- The picture with one entry of a folder, and with what it leads to if it is a link. A link that
leads nowhere does so in the picture too, through a folder that cannot exist. -/
partial def enter (fs : FileSystem) (folder name : String) : IO FileSystem := do
  let path := PathText.push folder name
  let at_ := location path
  if (fs.tree.node? at_).isSome then return fs
  try
    let data ← (place path).symlinkMetadata
    let time := timeOf data.modified
    match data.type with
    | .dir => return { fs with tree := fs.tree.add at_ (.folder time) }
    | .symlink =>
      match ← real? path with
      | none => return { fs with tree := fs.tree.add at_ (.link ("\x00/" ++ name)) }
      | some target => approach { fs with tree := fs.tree.add at_ (.link target) } target
    | _ =>
      let content ← IO.FS.readBinFile (place path)
      return { fs with tree := fs.tree.add at_ (.file content time) }
  catch _ => return fs

/-- The picture with everything on the way to a path. -/
partial def approach (fs : FileSystem) (path : String) : IO FileSystem := do
  let mut fs := fs
  let mut reached := if path.front = '/' then "/" else "."
  for part in PathText.parts path do
    unless PathText.isIdle part do
      match ← real? reached with
      | none => return fs
      | some folder =>
        unless PathText.climbs part do fs ← enter fs folder part
        reached := PathText.push reached part
  return fs

end

/-- The picture with everything below a folder. -/
partial def survey (fs : FileSystem) (folder : String) : IO FileSystem := do
  let mut fs := fs
  for entry in ← (place folder).readDir do
    fs ← enter fs folder entry.fileName
    let path := PathText.push folder entry.fileName
    if fs.tree.node? (location path) matches some (.folder _) then fs ← survey fs path
  return fs

/-- The picture with everything on the way to a path and everything below it. -/
def take (fs : FileSystem) (path : String) : IO FileSystem := do
  let fs ← approach fs path
  match ← real? path with
  | none => return fs
  | some folder => if ← (place folder).isDir then survey fs folder else return fs

/-- The picture of what a session with the given arguments can reach. -/
def picture (env : Config.Environment) (fs : FileSystem) (a : CommandLine.Arguments) :
    IO FileSystem := do
  let mut fs := fs
  for path in [a.config.or (Config.defaultFile? env), a.logFile].reduceOption do
    fs ← approach fs path
  match (Config.resolve env fs a.config).result with
  | .error _ => return fs
  | .ok base =>
    let config := a.apply env base
    fs ← take fs config.source
    take fs config.outputDir

/-- Repeats on the disk what changed in the picture. Nothing is ever removed. -/
def repeatChanges (before after : FileSystem) : IO Unit := do
  for (at_, node) in after.tree.entries do
    match node, before.tree.node? at_ with
    | .folder _, none => IO.FS.createDir (place (pathOf at_))
    | .file content _, some (.file old _) =>
      if content.data ≠ old.data then IO.FS.writeBinFile (place (pathOf at_)) content
    | .file content _, none => IO.FS.writeBinFile (place (pathOf at_)) content
    | _, _ => pure ()

end TreeFetch.Disk

open TreeFetch in
def main (words : List String) : IO UInt32 := do
  let env : Config.Environment :=
    { home := ← IO.getEnv "HOME", configHome := ← IO.getEnv "XDG_CONFIG_HOME" }
  let here := (← IO.FS.realPath (Disk.place ".")).toString
  let empty : FileSystem :=
    { tree := .empty, current := Disk.location here, clock := ← Disk.now }
  let start ← Disk.approach empty here
  let before ←
    match CommandLine.Arguments.parse words with
    | .error _ => pure start
    | .ok a => Disk.picture env start a
  let exit := Program.run env before words
  Disk.repeatChanges before exit.fs
  (← IO.getStdout).putStr exit.output
  (← IO.getStderr).putStr exit.complaint
  return exit.code.toUInt32
