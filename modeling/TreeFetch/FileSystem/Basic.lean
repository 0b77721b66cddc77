import TreeFetch.FileSystem.Fault
import TreeFetch.FileSystem.Tree
import TreeFetch.PathText

/-!
# File systems and paths

A file system is a tree with a current folder, a clock and the limits of the operating system.
`resolve` follows the text of a path through the tree: from the root if it begins with a slash, else
from the current folder; symbolic links are replaced by their targets, as many as the limit allows.
It ends at an entry, or at a name that is still free in an existing folder.
-/

namespace TreeFetch

namespace FileSystem

/-- What the operating system allows. -/
structure Limits where
  /-- How many bytes a name may have. -/
  nameBytes : Nat := 255
  /-- How many bytes a path may have. -/
  pathBytes : Nat := 4095
  /-- How many links are followed in one path. -/
  links : Nat := 40
deriving Repr, DecidableEq, Inhabited

end FileSystem

/-- A tree as a program sees it. -/
structure FileSystem where
  tree : FileSystem.Tree
  /-- The folder where paths begin that do not begin at the root. -/
  current : FileSystem.Location := []
  /-- The time of the next change. -/
  clock : Time := 0
  limits : FileSystem.Limits := {}
deriving Inhabited

namespace FileSystem

/-! ## Following a path -/

/-- Where a path leads. -/
inductive Place
  /-- To something that exists. -/
  | entry (at_ : Location)
  /-- To a free name in a folder. -/
  | vacancy (folder : Location) (name : Name)
deriving Repr, DecidableEq, Inhabited

/-- How far a path can be followed without following a link. -/
inductive Descent
  | done (place : Place)
  | refused (fault : Fault)
  /-- A link in a folder, and the parts of the path after it. -/
  | link (folder : Location) (target : String) (rest : List String)
deriving Repr, DecidableEq, Inhabited

/-- Follows the parts of a path from a location up to the first link. A link at the very end is only
followed if `follow` says so. -/
def descend (tree : Tree) (nameBytes : Nat) (follow : Bool) : Location → List String → Descent
  | at_, [] => .done (.entry at_)
  | at_, part :: rest =>
    if !tree.isFolder at_ then .refused .notFolder
    else if PathText.isIdle part then descend tree nameBytes follow at_ rest
    else if PathText.climbs part then descend tree nameBytes follow at_.tail rest
    else if part.utf8ByteSize > nameBytes then .refused .nameTooLong
    else
      match tree.node? (.text part :: at_) with
      | none =>
        if rest.all (· = "") then .done (.vacancy at_ (.text part)) else .refused .notFound
      | some (.link target) =>
        if rest.isEmpty && !follow then .done (.entry (.text part :: at_))
        else .link at_ target rest
      | some _ => descend tree nameBytes follow (.text part :: at_) rest

/-- Where a path text begins when it is used in a folder. -/
def start (path : String) (folder : Location) : Location := if path.front = '/' then [] else folder

/-- Follows the parts of a path from a location, through at most `links` links. -/
def follow (tree : Tree) (nameBytes : Nat) (last : Bool) :
    (links : Nat) → Location → List String → Except Fault Place
  | links, at_, parts =>
    match descend tree nameBytes last at_ parts with
    | .done place => .ok place
    | .refused fault => .error fault
    | .link folder target rest =>
      match links with
      | 0 => .error .tooManyLinks
      | left + 1 =>
        follow tree nameBytes last left (start target folder) (PathText.parts target ++ rest)

/-- Whether the text of a path can be used at all. -/
def checkText (fs : FileSystem) (path : String) : Except Fault Unit :=
  if path.contains '\x00' then .error .nulInPath
  else if path = "" then .error .notFound
  else if path.utf8ByteSize > fs.limits.pathBytes then .error .nameTooLong
  else .ok ()

/-- Where a path leads, links followed. -/
def resolve (fs : FileSystem) (path : String) : Except Fault Place :=
  (fs.checkText path).bind fun _ =>
    follow fs.tree fs.limits.nameBytes true fs.limits.links (start path fs.current)
      (PathText.parts path)

/-- Where a path leads when slashes at its end and a link at its end are not followed. -/
def resolveLast (fs : FileSystem) (path : String) : Except Fault Place :=
  (fs.checkText path).bind fun _ =>
    let parts := (PathText.parts path).reverse.dropWhile (· = "")
    follow fs.tree fs.limits.nameBytes false fs.limits.links (start path fs.current) parts.reverse

/-- Where the folder lies that holds what a path names. It has to exist. -/
def resolveHolder (fs : FileSystem) (path : String) : Except Fault Place :=
  (fs.checkText path).bind fun _ =>
    let parts := (PathText.parts path).reverse.dropWhile (· = "")
    (follow fs.tree fs.limits.nameBytes true fs.limits.links (start path fs.current)
      ((parts.drop 1).reverse ++ [""])).bind fun
    | .vacancy .. => .error .notFound
    | .entry at_ => .ok (.entry at_)

/-! ## Questions -/

/-- What a path leads to, with its location, links followed. -/
def stat (fs : FileSystem) (path : String) : Except Fault (Location × Node) :=
  match fs.resolve path with
  | .error fault => .error fault
  | .ok (.vacancy ..) => .error .notFound
  | .ok (.entry at_) =>
    match fs.tree.node? at_ with
    | none => .error .notFound
    | some node => .ok (at_, node)

/-- The location of what a path leads to, links followed. -/
def locate? (fs : FileSystem) (path : String) : Option Location :=
  match fs.stat path with
  | .ok (at_, _) => some at_
  | .error _ => none

def isFolder (fs : FileSystem) (path : String) : Bool :=
  match fs.stat path with
  | .ok (_, .folder _) => true
  | _ => false

def isFile (fs : FileSystem) (path : String) : Bool :=
  match fs.stat path with
  | .ok (_, .file ..) => true
  | _ => false

/-- The bytes of the file that a path leads to. -/
def readFile (fs : FileSystem) (path : String) : Except Fault ByteArray :=
  match fs.stat path with
  | .error fault => .error fault
  | .ok (_, .file content _) => .ok content
  | .ok (_, .folder _) => .error .isFolder
  | .ok (_, .link _) => .error .tooManyLinks

/-- The names in the folder that a path leads to, with what they name. -/
def readFolder (fs : FileSystem) (path : String) : Except Fault (List (Name × Node)) :=
  match fs.stat path with
  | .error fault => .error fault
  | .ok (at_, .folder _) => .ok (fs.tree.children at_)
  | .ok _ => .error .notFolder

end FileSystem

end TreeFetch
