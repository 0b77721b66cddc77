import TreeFetch.FileSystem.Basic

/-!
# Canonical paths

The canonical path of an entry names the way from the root to it, with a slash before every name.
To make a path canonical, each of its names is looked up by the canonical path of what it names,
links included. So these texts must not be too long, whereas the length of the path itself does not
matter.
-/

namespace TreeFetch.FileSystem

/-- How many bytes the canonical path of a location has, below the root. -/
def Location.canonicalBytes : Location → Nat
  | [] => 0
  | name :: folder => canonicalBytes folder + 1 + name.toBytes.length

/-- Whether the parts of a path after a slash can only follow the name of a folder: a part that
climbs comes before the first name, or there is no name. -/
def asksForFolder : List String → Bool
  | [] => true
  | part :: rest => if PathText.isIdle part then asksForFolder rest else PathText.climbs part

/-- How many bytes the text has by which an entry is looked up. A slash is added to what is no link
where the parts after it ask for a folder. -/
def lookupBytes (at_ : Location) (node : Node) (rest : List String) : Nat :=
  let slash := !(node matches .link _) && !rest.isEmpty && asksForFolder rest
  at_.canonicalBytes + if slash then 1 else 0

/-- Follows the parts of a path from a location up to the first link, and looks all names up by
their canonical paths. -/
def retrace (tree : Tree) (limits : Limits) : Location → List String → Descent
  | at_, [] => .done (.entry at_)
  | at_, part :: rest =>
    if !tree.isFolder at_ then .refused .notFolder
    else if PathText.isIdle part then retrace tree limits at_ rest
    else if PathText.climbs part then retrace tree limits at_.tail rest
    else if part.utf8ByteSize > limits.nameBytes then .refused .nameTooLong
    else
      match tree.node? (.text part :: at_) with
      | none => .refused .notFound
      | some node =>
        if lookupBytes (.text part :: at_) node rest > limits.pathBytes then .refused .nameTooLong
        else
          match node with
          | .link target => .link at_ target rest
          | _ => retrace tree limits (.text part :: at_) rest

/-- Follows the parts of a path from a location, through at most `links` links, and looks all names
up by their canonical paths. -/
def retraceAll (tree : Tree) (limits : Limits) :
    (links : Nat) → Location → List String → Except Fault Place
  | links, at_, parts =>
    match retrace tree limits at_ parts with
    | .done place => .ok place
    | .refused fault => .error fault
    | .link folder target rest =>
      match links with
      | 0 => .error .tooManyLinks
      | left + 1 =>
        retraceAll tree limits left (start target folder) (PathText.parts target ++ rest)

/-- The location of what a path leads to, links followed, if its canonical path can be found. -/
def canonical? (fs : FileSystem) (path : String) : Option Location :=
  if path = "" || path.contains '\x00' then none
  else
    match retraceAll fs.tree fs.limits fs.limits.links (start path fs.current)
      (PathText.parts path) with
    | .ok (.entry at_) => some at_
    | _ => none

end TreeFetch.FileSystem
