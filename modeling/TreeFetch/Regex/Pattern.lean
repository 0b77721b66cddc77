import TreeFetch.Regex.Match
import TreeFetch.Regex.Parse
import TreeFetch.Regex.Size
import TreeFetch.Regex.Modes

/-!
# Patterns

A `Pattern` is a pattern that can be used: its source text, the names of its groups, and its
program. `Pattern.compile` makes one or says why not. `Pattern.matches` tells whether a text has a
match anywhere, and `Pattern.captures?` what the named groups took of the first one.
-/

namespace TreeFetch.Regex

/-- A pattern ready for use. -/
structure Pattern where
  source : String
  /-- The named groups with their indices, in the order in which they open. -/
  named : List (Nat × String)
  groups : Nat
  program : Program
deriving Inhabited

/-- Part of a match: a group name with the text that the group took, if it took part. -/
abbrev Capture := String × Option String

namespace Pattern

def compile (source : String) : Except PatternError Pattern := do
  let tree ← (parse source).mapError .malformed
  let expr ← (Expr.ofTree tree).mapError .malformed
  if !fits expr then throw (.tooLarge sizeLimit)
  let groups := expr.groups
  return {
    source
    named := groups.filterMap fun (index, name) => name.map fun n => (index, n)
    groups := groups.foldl (fun most (index, _) => max most index) 0
    program := .ofExpr expr }

def groupNames (p : Pattern) : List String := p.named.map (·.2)

/-- The text between two positions. -/
def slice (text : Array Char) (first last : Option Nat) : Option String :=
  match first, last with
  | some a, some b => some (String.ofList (text.extract a b).toList)
  | _, _ => none

def «matches» (p : Pattern) (text : String) : Bool :=
  (p.program.find p.groups text.toList.toArray).isSome

/-- What the named groups took in the first match in the text, if there is one. -/
def captures? (p : Pattern) (text : String) : Option (List Capture) :=
  let chars := text.toList.toArray
  (p.program.find p.groups chars).map fun slots =>
    p.named.map fun (index, name) =>
      (name, slice chars (slots[2 * index]?.join) (slots[2 * index + 1]?.join))

end Pattern

end TreeFetch.Regex
