/-!
# The syntax of patterns

The tree that the text of a pattern stands for, before flags are applied. A tree keeps what the
reader saw: `concat` and `alternation` hold two or more parts, a group remembers how it was opened,
and flags set in passing, as in `(?i)`, are a part of their own. `Ast.depth` is the nesting that the
limit `nestingLimit` is about.
-/

namespace TreeFetch.Regex

/-- A switch that changes how a pattern is read. -/
inductive Flag
  | ignoreCase
  | multiLine
  | dotMatchesNewLine
  | swapGreed
  | unicode
  | crlf
  | verbose
deriving Repr, DecidableEq, Inhabited

/-- The flags that `(?i-m)` or `(?i-m:…)` turns on and off. -/
structure FlagChange where
  on : List Flag
  off : List Flag
deriving Repr, DecidableEq, Inhabited

def FlagChange.state? (change : FlagChange) (flag : Flag) : Option Bool :=
  if change.on.contains flag then some true
  else if change.off.contains flag then some false
  else none

/-- A condition on a place in the text. -/
inductive Assertion
  | lineStart
  | lineEnd
  | textStart
  | textEnd
  | wordBoundary
  | notWordBoundary
  | wordStart
  | wordEnd
  | wordStartHalf
  | wordEndHalf
deriving Repr, DecidableEq, Inhabited

/-- A character written in a pattern. The form `\xNN` stands for a byte where Unicode is off. -/
structure Literal where
  char : Char
  twoDigitHex : Bool
deriving Repr, DecidableEq, Inhabited

/-- The classes `\d`, `\s` and `\w`. -/
inductive ShortClass
  | digit
  | space
  | word
deriving Repr, DecidableEq, Inhabited

/-- The class asked for by `\p`: by the name of a set, or by a property and its value. -/
inductive PropertyQuery
  | name (name : String)
  | value (property value : String)
deriving Repr, DecidableEq, Inhabited

/-- The bracketed classes such as `[:alpha:]`. -/
inductive AsciiClass
  | alnum
  | alpha
  | ascii
  | blank
  | cntrl
  | digit
  | graph
  | lower
  | print
  | punct
  | space
  | upper
  | word
  | xdigit
deriving Repr, DecidableEq, Inhabited

def AsciiClass.ofName? : String → Option AsciiClass
  | "alnum" => some alnum
  | "alpha" => some alpha
  | "ascii" => some ascii
  | "blank" => some blank
  | "cntrl" => some cntrl
  | "digit" => some digit
  | "graph" => some graph
  | "lower" => some lower
  | "print" => some print
  | "punct" => some punct
  | "space" => some space
  | "upper" => some upper
  | "word" => some word
  | "xdigit" => some xdigit
  | _ => none

/-- What one escape or one plain character stands for. -/
inductive Atom
  | literal (lit : Literal)
  | dot
  | assertion (kind : Assertion)
  | short (kind : ShortClass) (negated : Bool)
  | property (query : PropertyQuery) (negated : Bool)
deriving Repr, Inhabited

/-- The operators between sets inside brackets. -/
inductive SetOp
  | intersection
  | difference
  | symmetricDifference
deriving Repr, DecidableEq, Inhabited

/-- What stands between brackets. -/
inductive ClassSet
  | literal (lit : Literal)
  | range (first last : Literal)
  | ascii (kind : AsciiClass) (negated : Bool)
  | short (kind : ShortClass) (negated : Bool)
  | property (query : PropertyQuery) (negated : Bool)
  | bracketed (negated : Bool) (set : ClassSet)
  | union (items : List ClassSet)
  | binary (op : SetOp) (left right : ClassSet)
deriving Inhabited

/-- How a group was opened. -/
inductive GroupKind
  | capture (index : Nat) (name : Option String)
  | flags (change : FlagChange)
deriving Repr, Inhabited

/-- How often a part repeats. -/
structure Repetition where
  least : Nat
  most : Option Nat
  greedy : Bool
deriving Repr, DecidableEq, Inhabited

/-- The tree of a pattern. -/
inductive Ast
  | empty
  | flags (change : FlagChange)
  | atom (atom : Atom)
  | bracketed (negated : Bool) (set : ClassSet)
  | repetition (count : Repetition) (body : Ast)
  | group (kind : GroupKind) (body : Ast)
  | alternation (branches : List Ast)
  | concat (parts : List Ast)
deriving Inhabited

def ClassSet.ofItems : List ClassSet → ClassSet
  | [item] => item
  | items => .union items

def Ast.ofParts : List Ast → Ast
  | [] => .empty
  | [part] => part
  | parts => .concat parts

def Ast.ofBranches : List Ast → Ast
  | [branch] => branch
  | branches => .alternation branches

/-! ## Nesting -/

mutual

/-- How deeply brackets, unions and operators are nested in a set. An empty union counts as no
level. -/
def ClassSet.depth : ClassSet → Nat
  | .bracketed _ set => set.depth + 1
  | .union [] => 0
  | .union items => ClassSet.depthOfAll items + 1
  | .binary _ left right => max left.depth right.depth + 1
  | _ => 0

def ClassSet.depthOfAll : List ClassSet → Nat
  | [] => 0
  | item :: rest => max item.depth (ClassSet.depthOfAll rest)

end

mutual

/-- How deeply groups, sequences, repetitions, alternations and brackets are nested. -/
def Ast.depth : Ast → Nat
  | .bracketed _ set => set.depth + 1
  | .repetition _ body => body.depth + 1
  | .group _ body => body.depth + 1
  | .alternation branches => Ast.depthOfAll branches + 1
  | .concat parts => Ast.depthOfAll parts + 1
  | _ => 0

def Ast.depthOfAll : List Ast → Nat
  | [] => 0
  | part :: rest => max part.depth (Ast.depthOfAll rest)

end

end TreeFetch.Regex
