import TreeFetch.Regex.Error

/-!
# What can go wrong

`Error` names every failure by its cause. `Error.message` is its wording, `Error.cause?` the wording
of what lies below it, and `Error.isPerItem` tells the failures that concern one file only, so that
the work on other files goes on.
-/

namespace TreeFetch

/-- A failure of the program. -/
inductive Error
  /-- What was given does not fit together. -/
  | invalidArguments (detail : String)
  /-- A pattern cannot be used. -/
  | invalidPattern (pattern : String) (fault : Regex.PatternError)
  /-- A template names none of the groups of its pattern. -/
  | templateUnused (pattern template : String)
  /-- A pattern does not match a path. -/
  | noMatch (pattern input : String)
  /-- A placeholder is left in a transformed path. -/
  | unresolvedPlaceholder (result : String)
  /-- Something could not be done with a file, for the given reason. -/
  | fileOperation (path operation reason : String)
  /-- Something could not be done with a path. -/
  | pathOperation (path operation : String)
  /-- A configuration file cannot be read as settings, for the given reason. -/
  | configParsing (detail reason : String)
  /-- A path leads out of the output directory. -/
  | unsafePath (path : String)
deriving Repr, DecidableEq, Inhabited

namespace Error

def message : Error → String
  | invalidArguments detail => s!"Invalid arguments: {detail}"
  | invalidPattern pattern fault => s!"Invalid regex pattern '{pattern}': {fault.message}"
  | templateUnused pattern template =>
    s!"Format string '{template}' does not reference any captured variable of '{pattern}'"
  | noMatch pattern input => s!"Path '{input}' does not match pattern '{pattern}'"
  | unresolvedPlaceholder result => s!"Some placeholders were not replaced: {result}"
  | fileOperation path operation _ => s!"Failed to {operation} file: {path}"
  | pathOperation path operation => s!"Failed to {operation} path: {path}"
  | configParsing detail _ => s!"Configuration parsing error: {detail}"
  | unsafePath path => s!"Refusing to write outside the output directory: {path}"

/-- The wording of what lies below a failure, if something does. -/
def cause? : Error → Option String
  | invalidPattern _ fault => some fault.message
  | fileOperation _ _ reason => some reason
  | configParsing _ reason => some reason
  | _ => none

/-- The wording of a failure followed by that of its cause. -/
def fullMessage (e : Error) : String :=
  match e.cause? with
  | some reason => s!"{e.message}: {reason}"
  | none => e.message

/-- Whether a failure concerns one path only. -/
def isPerItem : Error → Bool
  | noMatch .. | unresolvedPlaceholder .. => true
  | _ => false

end Error

end TreeFetch
