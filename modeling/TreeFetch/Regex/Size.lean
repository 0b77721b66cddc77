import Std.Data.HashMap
import TreeFetch.Regex.Expr

/-!
# The size of a compiled pattern

A pattern is compiled to an automaton over the bytes of UTF-8, once to read forward and once to read
backward. Both must fit in `sizeLimit`; `fits` says whether they do without building them. A state
costs `stateSize`, and more for every transition or alternative it lists. A set of characters is an
automaton of its own: forward, states with the same continuation are shared (`forwardSetSize`);
backward, the first bytes that two characters have in common are shared (`backwardSetSize`).
-/

namespace TreeFetch.Regex

open Unicode (CharSet Span)

/-- The most bytes that a compiled pattern may take. -/
def sizeLimit : Nat := 10485760

def stateSize : Nat := 32

/-- The cost of a state with `n` transitions on bytes. -/
def branchingSize (n : Nat) : Nat := stateSize + 8 * n

/-- The cost of a state that leads to one of `n` others. -/
def choiceSize (n : Nat) : Nat := stateSize + 4 * n

/-- The number of bytes that encode a character. -/
def utf8Length (n : Nat) : Nat :=
  if n < 0x80 then 1 else if n < 0x800 then 2 else if n < 0x10000 then 3 else 4

/-! ## Byte sequences of a set -/

abbrev ByteSpan := Nat × Nat

/-- The code points from `lo` to `hi`, all encoded with `k` bytes after the first, as sequences of
byte spans in ascending order. The first byte is given by its number among the first bytes of its
length, a later one by its low six bits. -/
def byteSpans : (k lo hi : Nat) → List (List ByteSpan)
  | 0, lo, hi => [[(lo, hi)]]
  | k + 1, lo, hi =>
    let m := Nat.pow 64 (k + 1)
    let under (lead : Nat) (rests : List (List ByteSpan)) := rests.map ((lead, lead) :: ·)
    if lo / m = hi / m then under (lo / m) (byteSpans k (lo % m) (hi % m))
    else
      let fromStart := lo % m = 0
      let toEnd := hi % m = m - 1
      let a := if fromStart then lo / m else lo / m + 1
      let b := if toEnd then hi / m else hi / m - 1
      (if fromStart then [] else under (lo / m) (byteSpans k (lo % m) (m - 1)))
        ++ (if a ≤ b then [(a, b) :: List.replicate (k + 1) (0, 63)] else [])
        ++ (if toEnd then [] else under (hi / m) (byteSpans k 0 (hi % m)))

/-- The part of a span between two code points. -/
def clip (s : Span) (lo hi : Nat) : Option Span :=
  if max s.first lo ≤ min s.last hi then some ⟨max s.first lo, min s.last hi⟩ else none

/-- The characters whose encoding has `k` bytes after the first, as intervals. -/
def lengthClasses : List (Nat × Nat × Nat) :=
  [(0, 0, 0x7f), (1, 0x80, 0x7ff), (2, 0x800, 0xd7ff), (2, 0xe000, 0xffff), (3, 0x10000, 0x10ffff)]

/-- The sequences of byte spans that encode the characters of a set. The first span of a sequence is
moved by 256 for each byte that follows, so that sequences of different lengths never agree. -/
def setSequences (s : CharSet) : List (List ByteSpan) :=
  s.spans.toList.flatMap fun sp =>
    lengthClasses.flatMap fun (k, lo, hi) =>
      match clip sp lo hi with
      | none => []
      | some part =>
        (byteSpans k part.first part.last).map fun
          | [] => []
          | (a, b) :: rest => (a + 256 * k, b + 256 * k) :: rest

/-! ## The automaton of a set -/

/-- Joins neighbouring sequences that begin with the same span. -/
def groupByHead : List (List ByteSpan) → List (ByteSpan × List (List ByteSpan))
  | [] => []
  | [] :: rest => groupByHead rest
  | (head :: tail) :: rest =>
    match groupByHead rest with
    | (other, tails) :: groups =>
      if other = head then (head, tail :: tails) :: groups
      else (head, [tail]) :: (other, tails) :: groups
    | [] => [(head, [tail])]

/-- The states made so far, by their transitions, and what they cost. -/
structure StateTable where
  known : Std.HashMap (List (ByteSpan × Nat)) Nat := {}
  cost : Nat := 0

/-- The state that accepts the given sequences of at most `depth` spans. Number 0 is the state after
the last byte. A state that exists already is used again. -/
def stateFor : (depth : Nat) → List (List ByteSpan) → StateTable → Nat × StateTable
  | 0, _, table => (0, table)
  | depth + 1, sequences, table =>
    match groupByHead sequences with
    | [] => (0, table)
    | groups =>
      let (transitions, table) := groups.foldl
        (fun (done, table) (head, tails) =>
          let (target, table) := stateFor depth tails table
          ((head, target) :: done, table))
        ([], table)
      match table.known[transitions]? with
      | some state => (state, table)
      | none =>
        let state := table.known.size + 1
        (state, { known := table.known.insert transitions state
                  cost := table.cost + branchingSize transitions.length })

def forwardSetSize (s : CharSet) : Nat :=
  if s.isAscii then stateSize + branchingSize s.spans.size
  else stateSize + (stateFor 4 (setSequences s) {}).2.cost

/-- The number of different non-empty beginnings of the given sequences of at most `depth` spans. -/
def countBeginnings : (depth : Nat) → List (List ByteSpan) → Nat
  | 0, _ => 0
  | depth + 1, sequences =>
    (groupByHead sequences).foldl (fun n (_, tails) => n + 1 + countBeginnings depth tails) 0

def backwardSetSize (s : CharSet) : Nat :=
  if s.isAscii then stateSize + branchingSize s.spans.size
  else
    let sequences := setSequences s
    choiceSize sequences.length + stateSize + stateSize * countBeginnings 4 sequences

/-! ## Whole patterns -/

def onlyMember? (s : CharSet) : Option Nat :=
  match s.spans.toList with
  | [sp] => if sp.first = sp.last then some sp.first else none
  | _ => none

/-- Which of the two automata of a pattern is meant. Only the forward one records groups. -/
inductive Direction
  | forward
  | backward
deriving DecidableEq

/-- The cost of a set. One with a single member is the bytes of that character. -/
def setSize (d : Direction) (s : CharSet) : Nat :=
  match onlyMember? s with
  | some n => stateSize * utf8Length n
  | none =>
    match d with
    | .forward => forwardSetSize s
    | .backward => backwardSetSize s

/-- The cost of repeating a part that costs `body` and may be empty or not. -/
def repetitionSize (least : Nat) (most : Option Nat) (bodyEmpty : Bool) (body : Nat) : Nat :=
  let exactly (n : Nat) := if n = 0 then stateSize else n * body
  match least, most with
  | 0, none =>
    if bodyEmpty then body + 2 * choiceSize 2 + stateSize else body + choiceSize 2
  | least, none => least * body + choiceSize 2
  | 0, some 1 => body + choiceSize 2 + stateSize
  | least, some most =>
    if least = most then exactly least
    else exactly least + stateSize + (most - least) * (body + choiceSize 2)

mutual

def exprSize (d : Direction) : Expr → Nat
  | .empty => stateSize
  | .char c => stateSize * utf8Length c.toNat
  | .set s => setSize d s
  | .look _ => stateSize
  | .repetition least most _ body =>
    repetitionSize least most body.canBeEmpty (exprSize d body)
  | .capture _ _ body =>
    match d with
    | .forward => exprSize d body + 2 * stateSize
    | .backward => exprSize d body
  | .concat parts => totalSize d parts
  | .alternation branches =>
    totalSize d branches + choiceSize branches.length + stateSize

def totalSize (d : Direction) : List Expr → Nat
  | [] => 0
  | e :: rest => exprSize d e + totalSize d rest

end

/-- The cost of the states around a pattern: where it starts, what may stand before it, where it
ends. -/
def frameSize : Direction → Nat
  | .forward => 3 * stateSize + choiceSize 2 + stateSize + branchingSize 1
  | .backward => 2 * stateSize

/-- Whether both automata of a pattern fit in the limit. -/
def fits (e : Expr) : Bool :=
  exprSize .forward e + frameSize .forward ≤ sizeLimit
    && exprSize .backward e + frameSize .backward ≤ sizeLimit

end TreeFetch.Regex
