/-!
# Sets of characters

A set of characters is written as spans of code points. `CharSet.ofSpans` puts any list of spans in
normal form: ascending, no two spans touching. The algebra below (union, complement, intersection,
difference, symmetric difference) keeps that form, and `CharSet.contains` is a binary search in it.

The tables of the Unicode character database are kept as text, for instance `"41-5a 61-7a aa"`:
hexadecimal code points and spans, separated by spaces. `CharSet.ofTable` reads that text.
-/

namespace TreeFetch.Unicode

/-- The code points from `first` to `last`, both included. -/
structure Span where
  first : Nat
  last : Nat
deriving Repr, DecidableEq, Inhabited

def maxCodePoint : Nat := 0x10ffff

/-- A set of characters, as ascending spans no two of which touch. -/
structure CharSet where
  spans : Array Span
deriving Repr, DecidableEq, Inhabited

namespace CharSet

def empty : CharSet := ⟨#[]⟩

def all : CharSet := ⟨#[⟨0, maxCodePoint⟩]⟩

def isEmpty (s : CharSet) : Bool := s.spans.isEmpty

/-! ## Normal form -/

/-- Joins each span to the one before it when they touch. The spans come in ascending order of their
first code point. -/
def joinTouching (spans : List Span) : List Span :=
  (spans.foldl step []).reverse
where
  /-- `done` holds the spans joined so far, the last one first. -/
  step (done : List Span) (s : Span) : List Span :=
    match done with
    | [] => [s]
    | p :: rest =>
      if s.first ≤ p.last + 1 then ⟨p.first, max p.last s.last⟩ :: rest else s :: done

/-- The set of the code points in any of the given spans. -/
def ofSpans (spans : List Span) : CharSet :=
  ⟨(joinTouching (spans.mergeSort fun a b => a.first ≤ b.first)).toArray⟩

def singleton (c : Char) : CharSet := ⟨#[⟨c.toNat, c.toNat⟩]⟩

def range (a b : Char) : CharSet := ⟨#[⟨a.toNat, b.toNat⟩]⟩

/-- The characters of a text. -/
def ofString (s : String) : CharSet := ofSpans (s.toList.map fun c => ⟨c.toNat, c.toNat⟩)

/-! ## Algebra -/

def union (s t : CharSet) : CharSet :=
  if s.isEmpty then t else if t.isEmpty then s else ofSpans (s.spans.toList ++ t.spans.toList)

/-- The spans between `next` and the largest code point that the ascending `spans` leave out. -/
def gaps (next : Nat) : List Span → List Span
  | [] => if next ≤ maxCodePoint then [⟨next, maxCodePoint⟩] else []
  | s :: rest =>
    if next < s.first then ⟨next, s.first - 1⟩ ::
      gaps (s.last + 1) rest else gaps (s.last + 1) rest

def complement (s : CharSet) : CharSet := ⟨(gaps 0 s.spans.toList).toArray⟩

def inter (s t : CharSet) : CharSet := (s.complement.union t.complement).complement

def diff (s t : CharSet) : CharSet := s.inter t.complement

def symmDiff (s t : CharSet) : CharSet := (s.union t).diff (s.inter t)

def unions (sets : List CharSet) : CharSet := ofSpans (sets.flatMap fun s => s.spans.toList)

/-! ## Membership -/

/-- Binary search for the code point `n` among the spans with index from `lo` up to, but without,
`hi`. -/
def search (spans : Array Span) (n : Nat) (lo hi : Nat) : Bool :=
  if _h : lo < hi then
    let mid := (lo + hi) / 2
    match spans[mid]? with
    | none => false
    | some s =>
      if n < s.first then search spans n lo mid
      else if s.last < n then search spans n (mid + 1) hi
      else true
  else false
termination_by hi - lo
decreasing_by all_goals omega

def containsCode (s : CharSet) (n : Nat) : Bool := search s.spans n 0 s.spans.size

def contains (s : CharSet) (c : Char) : Bool := s.containsCode c.toNat

def isAscii (s : CharSet) : Bool := s.spans.all fun sp => sp.last < 0x80

/-! ## Tables as text -/

/-- The value of a hexadecimal digit in lower case. -/
def hexDigit (c : Char) : Nat :=
  if '0' ≤ c ∧ c ≤ '9' then c.toNat - '0'.toNat
  else if 'a' ≤ c ∧ c ≤ 'f' then c.toNat - 'a'.toNat + 10
  else 0

/-- What has been read of a table: the finished spans, the last one first, the first code point of a
span whose dash has been read, and the number being read. -/
structure TableReader where
  done : List Span := []
  first : Option Nat := none
  number : Option Nat := none

namespace TableReader

/-- Finishes the span being read. -/
def close (r : TableReader) : TableReader :=
  match r.number with
  | none => { r with first := none }
  | some n => { done := ⟨r.first.getD n, n⟩ :: r.done, first := none, number := none }

def step (r : TableReader) (c : Char) : TableReader :=
  if c = ' ' || c = '\n' then r.close
  else if c = '-' then { r with first := r.number, number := none }
  else { r with number := some (r.number.getD 0 * 16 + hexDigit c) }

end TableReader

/-- The set that a table lists. The table is in normal form already. -/
def ofTable (text : String) : CharSet :=
  ⟨((text.toList.foldl TableReader.step {}).close.done.reverse).toArray⟩

end CharSet

end TreeFetch.Unicode
