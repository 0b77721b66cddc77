/-!
# Path texts

A path text is cut at its slashes. The parts that say where to go are its segments: an empty part
and `.` stay where they are and are left out, `..` climbs. `push` appends one segment to a path
text, with a slash in between unless the text is empty or ends with one.
-/

namespace TreeFetch.PathText

/-- The parts of a text between its slashes; there is one more than there are slashes. -/
def splitSlash : List Char → List (List Char)
  | [] => [[]]
  | c :: rest =>
    if c = '/' then [] :: splitSlash rest
    else
      match splitSlash rest with
      | [] => [[c]]
      | part :: parts => (c :: part) :: parts

def parts (path : String) : List String := (splitSlash path.toList).map String.ofList

def isIdle (part : String) : Bool := part = "" || part = "."

/-- Whether a part leads to the folder above. -/
def climbs (part : String) : Bool := part = ".."

/-- The segments of a path text that never climbs. -/
def segments? (path : String) : Option (List String) :=
  let parts := parts path
  if parts.any climbs then none else some (parts.filter fun part => !isIdle part)

def push (base segment : String) : String :=
  if base = "" || base.back = '/' then base ++ segment else base ++ "/" ++ segment

def pushAll (base : String) (segments : List String) : String := segments.foldl push base

/-! ## The folders above -/

/-- The beginnings of a list of parts that end with a part that leads somewhere, the shortest one
first. `seen` are the parts before. The first part of all leads somewhere also when it is `.`. -/
def beginnings (seen : List String) : List String → List (List String)
  | [] => []
  | part :: rest =>
    let seen := seen ++ [part]
    if !isIdle part || seen = ["."] then seen :: beginnings seen rest else beginnings seen rest

/-- The texts of the folders above what a path names, the nearest one first. The last one is the
root or, for a path that does not begin there, the empty text. -/
def parents (path : String) : List String :=
  match (beginnings [] (parts path)).reverse with
  | [] => []
  | _ :: above =>
    above.map (fun parts => "/".intercalate parts) ++ [if path.front = '/' then "/" else ""]

def ofSegments (segments : List String) : String := "/".intercalate segments

end TreeFetch.PathText
