import TreeFetch.PathText
import TreeFetch.Unicode.Encoding

/-!
# Names of entries

The name of an entry is a text, or else bytes that are none. A location is the list of names that
leads from an entry up to the root, the entry's own name first; the root is the empty location. So
the folder that holds an entry is the tail of its location, and what lies below a folder are the
locations that end with it.
-/

namespace TreeFetch.FileSystem

inductive Name
  | text (value : String)
  | raw (bytes : List UInt8)
deriving Repr, DecidableEq, Inhabited

namespace Name

def ofBytes (bytes : List UInt8) : Name :=
  match Unicode.decode bytes with
  | .ok value => text value
  | .error _ => raw bytes

def toBytes : Name → List UInt8
  | text value => value.toUTF8.toList
  | raw bytes => bytes

def text? : Name → Option String
  | text value => some value
  | raw _ => none

/-- Whether an entry can have the name: a text that is one part of a path and leads somewhere, or
bytes that are no text. -/
def isValid : Name → Bool
  | text value =>
    !value.toList.contains '/' && !PathText.isIdle value && !PathText.climbs value
  | raw _ => true

def display : Name → String
  | text value => value
  | raw bytes => Unicode.decodeLossy bytes

end Name

/-- The names from an entry up to the root. -/
abbrev Location := List Name

namespace Location

/-- The names of a location as texts, from the root down, if all of them are texts. -/
def texts? (at_ : Location) : Option (List String) := at_.reverse.mapM Name.text?

/-- Where an entry lies below a folder: the names that lead from the entry up to the folder. -/
def below? (folder : Location) : Location → Option Location
  | [] => if folder = [] then some [] else none
  | name :: up =>
    if name :: up = folder then some [] else (below? folder up).map (name :: ·)

end Location

end TreeFetch.FileSystem
