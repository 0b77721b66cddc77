import TreeFetch.Storage.Search

/-!
# Settings

A `Config` is what one run is asked to do. Every setting has a default. A configuration fits
together if it has a pattern for file names, and if the pattern and the template for transforming
paths are given both or not at all.
-/

namespace TreeFetch

/-- The settings of a run. -/
structure Config where
  /-- Root directory of the storage. -/
  source : String := "."
  /-- Where the search begins, the storage root if nothing is given. -/
  folderId : Option String := none
  /-- Pattern for the names of files. -/
  pattern : String := ""
  /-- The deepest folder level to search. -/
  maxDepth : Option Nat := none
  /-- How many files to fetch at most. -/
  maxResults : Option Nat := none
  /-- Whether the run only shows what it would do. -/
  dryRun : Bool := false
  /-- Where downloaded files are saved. -/
  outputDir : String := "output"
  /-- Pattern that captures parts of a path. -/
  pathPattern : Option String := none
  /-- Template for transformed paths. -/
  pathFormat : Option String := none
deriving Repr, DecidableEq, Inhabited

namespace Config

/-- Why settings do not fit together. -/
inductive Problem
  | noPattern
  | unpairedTransform
deriving Repr, DecidableEq, Inhabited

def Problem.message : Problem → String
  | noPattern =>
    "No file pattern specified. Use --pattern or set \x60pattern\x60 in the configuration file."
  | unpairedTransform => "Both path-pattern and path-format must be provided together."

def problem? (c : Config) : Option Problem :=
  if c.pattern = "" then some .noPattern
  else if c.pathPattern.isSome != c.pathFormat.isSome then some .unpairedTransform
  else none

/-- The pattern and the template for transforming paths, if both are given. -/
def pathTransform (c : Config) : Option (String × String) :=
  match c.pathPattern, c.pathFormat with
  | some pattern, some format => some (pattern, format)
  | _, _ => none

def searchLimits (c : Config) : Storage.Limits :=
  { maxDepth := c.maxDepth, maxResults := c.maxResults }

end Config

end TreeFetch
