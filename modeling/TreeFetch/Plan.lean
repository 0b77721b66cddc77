import TreeFetch.Storage.Client
import TreeFetch.Transformer

/-!
# Plans

A plan says for every found file under which path it will be saved, relative to the output
directory. Without a transformer a file keeps its path. With one, a file whose path cannot be
transformed keeps its path too, and the reason is part of the plan. Files are planned one by one, in
their order, and none depends on another.
-/

namespace TreeFetch

open Storage (File)

/-- How the path of a file was decided. -/
inductive Outcome
  /-- There is no transformer. -/
  | unchanged
  /-- The transformer changed the path. -/
  | transformed
  /-- The path could not be transformed and is kept. -/
  | fallback (reason : Error)
  /-- The transformer failed for a reason that is not about this path; the file is left out. -/
  | failed (reason : Error)
deriving Repr, DecidableEq, Inhabited

/-- A file and the path under which it will be saved. -/
structure Planned where
  file : File
  destination : String
  outcome : Outcome
deriving Repr, DecidableEq, Inhabited

namespace Planned

/-- The plan for a file, given the result of transforming its path. -/
def ofResult (file : File) : Except Error String → Planned
  | .ok path => ⟨file, path, .transformed⟩
  | .error e => ⟨file, file.path, if e.isPerItem then .fallback e else .failed e⟩

def ofFile (transformer : Option Transformer) (file : File) : Planned :=
  match transformer with
  | none => ⟨file, file.path, .unchanged⟩
  | some t => ofResult file (t.transform file.path)

def records (p : Planned) : List Record :=
  match p.outcome with
  | .unchanged => []
  | .transformed => [⟨.debug, .plan, s!"Transformed '{p.file.path}' to '{p.destination}'"⟩]
  | .fallback e =>
    [⟨.warn, .plan, s!"Could not transform path, keeping original: {e.message}"⟩]
  | .failed e => [⟨.error, .plan, s!"Could not transform path of {p.file.path}: {e.message}"⟩]

end Planned

def plan (transformer : Option Transformer) (files : List File) : List Planned :=
  files.map (Planned.ofFile transformer)

end TreeFetch
