import TreeFetch.Error
import TreeFetch.Regex.Pattern
import TreeFetch.Template

/-!
# Transforming paths

A transformer is a pattern with named groups and a template that mentions at least one of them.
`transform` changes a path that the pattern matches: the template, with the text that each group
took in the place of its name. A path is refused where the pattern does not match, and where the
result still holds something that looks like a placeholder.
-/

namespace TreeFetch

/-- A pattern and the template for what it captures. -/
structure Transformer where
  pattern : Regex.Pattern
  template : String

namespace Transformer

/-- A transformer for a pattern and a template; it must be able to capture and to use something. -/
def create (pattern template : String) : Except Error Transformer :=
  if pattern = "" || template = "" then
    .error (.invalidArguments "both pattern and format must be non-empty")
  else
    match Regex.Pattern.compile pattern with
    | .error fault => .error (.invalidPattern pattern fault)
    | .ok compiled =>
      if compiled.groupNames.any (Template.mentions template) then .ok ⟨compiled, template⟩
      else .error (.templateUnused pattern template)

/-- The names that the pattern captures, in the order in which their groups open. -/
def groupNames (t : Transformer) : List String := t.pattern.groupNames

/-- The placeholders of the template that the pattern never captures, each one once. -/
def undeclared (t : Transformer) : List String :=
  ((Template.placeholderNames t.template).filter fun name => !t.groupNames.contains name).eraseDups

/-- What each name stands for: nothing, where its group took no part in the match. -/
def values (captures : List Regex.Capture) : Template.Assignment :=
  captures.map fun (name, taken) => (name, taken.getD "")

def transform (t : Transformer) (path : String) : Except Error String :=
  match t.pattern.captures? path with
  | none => .error (.noMatch t.pattern.source path)
  | some captures =>
    let result := Template.substitute (values captures) t.template
    if Template.hasPlaceholder result then .error (.unresolvedPlaceholder result) else .ok result

end Transformer

end TreeFetch
