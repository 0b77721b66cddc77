import TreeFetch.Unicode.CharSet

/-!
# Patterns with their flags applied

An expression says what a pattern matches and nothing else: flags have been worked into the sets,
the conditions and the order in which repetitions try their rounds. `Expr.onlyEmpty` and
`Expr.canBeEmpty` say what is known about the length of a match.
-/

namespace TreeFetch.Regex

open Unicode (CharSet)

/-- A condition on a place in a text, with its flags applied. -/
inductive Look
  | textStart
  | textEnd
  | lineStart
  | lineEnd
  | lineStartCrlf
  | lineEndCrlf
  | word (unicode : Bool)
  | notWord (unicode : Bool)
  | wordStart (unicode : Bool)
  | wordEnd (unicode : Bool)
  | wordStartHalf (unicode : Bool)
  | wordEndHalf (unicode : Bool)
deriving Repr, DecidableEq, Inhabited

/-- What a pattern matches. -/
inductive Expr
  | empty
  | char (c : Char)
  | set (members : CharSet)
  | look (condition : Look)
  | repetition (least : Nat) (most : Option Nat) (greedy : Bool) (body : Expr)
  | capture (index : Nat) (name : Option String) (body : Expr)
  | concat (parts : List Expr)
  | alternation (branches : List Expr)
deriving Inhabited

namespace Expr

mutual

def onlyEmpty : Expr → Bool
  | .empty => true
  | .char _ => false
  | .set _ => false
  | .look _ => true
  | .repetition _ most _ body => most = some 0 || onlyEmpty body
  | .capture _ _ body => onlyEmpty body
  | .concat parts => allOnlyEmpty parts
  | .alternation branches => allOnlyEmpty branches

/-- Whether every expression of a list matches nothing but the empty text. -/
def allOnlyEmpty : List Expr → Bool
  | [] => true
  | e :: rest => onlyEmpty e && allOnlyEmpty rest

end

mutual

def canBeEmpty : Expr → Bool
  | .empty => true
  | .char _ => false
  | .set members => members.isEmpty
  | .look _ => true
  | .repetition least _ _ body => least = 0 || canBeEmpty body
  | .capture _ _ body => canBeEmpty body
  | .concat parts => allCanBeEmpty parts
  | .alternation branches => anyCanBeEmpty branches

/-- Whether every expression of a list may match the empty text. -/
def allCanBeEmpty : List Expr → Bool
  | [] => true
  | e :: rest => canBeEmpty e && allCanBeEmpty rest

/-- Whether some expression of a list may match the empty text. -/
def anyCanBeEmpty : List Expr → Bool
  | [] => false
  | e :: rest => canBeEmpty e || anyCanBeEmpty rest

end

/-- A repetition in its simplest form. One round is as good as many when a round matches only the
empty text, no rounds match the empty text, and exactly one round is the body itself. -/
def mkRepetition (least : Nat) (most : Option Nat) (greedy : Bool) (body : Expr) : Expr :=
  let (least, most) :=
    if body.onlyEmpty then (min least 1, some ((most.map (min · 1)).getD 1)) else (least, most)
  if least = 0 ∧ most = some 0 then .empty
  else if least = 1 ∧ most = some 1 then body
  else .repetition least most greedy body

mutual

/-- The groups of an expression, as index and name, in the order in which they open. -/
def groups : Expr → List (Nat × Option String)
  | .repetition _ _ _ body => groups body
  | .capture index name body => (index, name) :: groups body
  | .concat parts => groupsOfAll parts
  | .alternation branches => groupsOfAll branches
  | _ => []

def groupsOfAll : List Expr → List (Nat × Option String)
  | [] => []
  | e :: rest => groups e ++ groupsOfAll rest

end

def groupNames (e : Expr) : List String := e.groups.filterMap (·.2)

end Expr

end TreeFetch.Regex
