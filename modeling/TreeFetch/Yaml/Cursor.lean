import TreeFetch.Yaml.Fault

/-!
# Reading a YAML text

The classes of characters that the format tells apart, and a cursor: the text that is still to be
read and the place where it begins. A carriage return and a line feed together are one line break.
The end of the text counts as a blank where a blank is asked for.
-/

namespace TreeFetch.Yaml

/-! ## Characters -/

/-- Whether a character may be in a text at all. -/
def isAllowed (c : Char) : Bool :=
  let n := c.toNat
  n = 0x09 || n = 0x0a || n = 0x0d || (0x20 ≤ n && n ≤ 0x7e) || n = 0x85 ||
    (0xa0 ≤ n && n ≤ 0xfffd) || 0x10000 ≤ n

def isBlank (c : Char) : Bool := c = ' ' || c = '\t'

def isBreak (c : Char) : Bool :=
  c = '\r' || c = '\n' || c = '\u0085' || c = '\u2028' || c = '\u2029'

/-- Whether a character is a blank or ends a line. -/
def isSpacing (c : Char) : Bool := isBlank c || isBreak c

/-- Whether a character belongs to a word: anchors, handles and names of directives. -/
def isWord (c : Char) : Bool := c.isAlphanum || c = '_' || c = '-'

/-- Whether a character begins, ends or separates collections in brackets. -/
def isBracketMark (c : Char) : Bool :=
  c = ',' || c = '[' || c = ']' || c = '\x7b' || c = '\x7d'

def hexValue? (c : Char) : Option Nat :=
  if '0' ≤ c ∧ c ≤ '9' then some (c.toNat - '0'.toNat)
  else if 'a' ≤ c ∧ c ≤ 'f' then some (c.toNat - 'a'.toNat + 10)
  else if 'A' ≤ c ∧ c ≤ 'F' then some (c.toNat - 'A'.toNat + 10)
  else none

/-! ## The cursor -/

/-- The text that is still to be read, and where it begins. -/
structure Cursor where
  rest : List Char
  mark : Mark := {}
deriving Inhabited

namespace Cursor

/-- The number of characters that are still to be read. -/
def size (c : Cursor) : Nat := c.rest.length

def peek? (c : Cursor) : Option Char := c.rest.head?

def peekAt? (c : Cursor) (n : Nat) : Option Char := c.rest[n]?

def next (c : Cursor) (p : Char → Bool) : Bool := c.peek?.any p

def looksAt (c : Cursor) (a : Char) : Bool := c.peek? = some a

/-- Whether a blank, a line break or the end of the text comes after `n` characters. -/
def spacingAt (c : Cursor) (n : Nat) : Bool := (c.peekAt? n).all isSpacing

/-- Whether a line break or the end of the text comes next. -/
def lineEnds (c : Cursor) : Bool := c.peek?.all isBreak

/-- Passes `n` characters of a line. -/
def skip (c : Cursor) (n : Nat := 1) : Cursor :=
  let n := min n c.rest.length
  { rest := c.rest.drop n
    mark := { c.mark with index := c.mark.index + n, column := c.mark.column + n } }

/-- Passes the characters that satisfy `p` up to the first one that does not. -/
def skipWhile (c : Cursor) (p : Char → Bool) : Cursor := c.skip (c.rest.takeWhile p).length

/-- The characters that satisfy `p` up to the first one that does not. -/
def taken (c : Cursor) (p : Char → Bool) : List Char := c.rest.takeWhile p

/-- What a line break counts as in the text of a scalar. -/
def breakText : List Char → List Char
  | '\u2028' :: _ => ['\u2028']
  | '\u2029' :: _ => ['\u2029']
  | c :: _ => if isBreak c then ['\n'] else []
  | [] => []

def skipBreak (c : Cursor) : Cursor :=
  let next (n : Nat) (rest : List Char) : Cursor :=
    { rest, mark := { index := c.mark.index + n, line := c.mark.line + 1, column := 0 } }
  match c.rest with
  | '\r' :: '\n' :: rest => next 2 rest
  | a :: rest => if isBreak a then next 1 rest else c
  | [] => c

def skipComment (c : Cursor) : Cursor :=
  if c.looksAt '#' then c.skipWhile fun a => !isBreak a else c

/-- Whether a line that begins here holds three times the character `a` and nothing right after
it. -/
def threeOf (c : Cursor) (a : Char) : Bool :=
  c.mark.column = 0 && c.rest.take 3 = [a, a, a] && c.spacingAt 3

def atDocumentMark (c : Cursor) : Bool := c.threeOf '-' || c.threeOf '.'

def refuse {α : Type} (c : Cursor) (problem : Problem) :
    Except Fault α := .error ⟨problem, c.mark⟩

end Cursor

end TreeFetch.Yaml
