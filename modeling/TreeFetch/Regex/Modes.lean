import TreeFetch.Regex.Error
import TreeFetch.Regex.Expr
import TreeFetch.Regex.Syntax
import TreeFetch.Unicode.CaseFolding
import TreeFetch.Unicode.Lookup

/-!
# Flags in force

`Modes` are the flags in force at a place of a pattern, and `Expr.ofTree` is the expression that a
tree stands for once its flags have taken effect. A flag change holds from where it stands to the
end of the group around it. Where Unicode is off, sets hold bytes; since texts are always
well-formed Unicode, a set with a byte outside ASCII is refused (`SyntaxError.invalidUtf8`).
-/

namespace TreeFetch.Regex

open Unicode (CharSet)

/-- The flags in force at a place of a pattern. -/
structure Modes where
  ignoreCase : Bool := false
  multiLine : Bool := false
  dotMatchesNewLine : Bool := false
  swapGreed : Bool := false
  unicode : Bool := true
  crlf : Bool := false
deriving Repr, DecidableEq, Inhabited

def Modes.apply (m : Modes) (change : FlagChange) : Modes :=
  { ignoreCase := (change.state? .ignoreCase).getD m.ignoreCase
    multiLine := (change.state? .multiLine).getD m.multiLine
    dotMatchesNewLine := (change.state? .dotMatchesNewLine).getD m.dotMatchesNewLine
    swapGreed := (change.state? .swapGreed).getD m.swapGreed
    unicode := (change.state? .unicode).getD m.unicode
    crlf := (change.state? .crlf).getD m.crlf }

/-! ## Sets -/

def ShortClass.asciiSet : ShortClass → CharSet
  | .digit => .ofTable "30-39"
  | .space => .ofTable "9-d 20"
  | .word => .ofTable "30-39 41-5a 5f 61-7a"

def ShortClass.unicodeSet : ShortClass → CharSet
  | .digit => Unicode.decimalNumber
  | .space => Unicode.whiteSpace
  | .word => Unicode.wordChar

def AsciiClass.members : AsciiClass → CharSet
  | .alnum => .ofTable "30-39 41-5a 61-7a"
  | .alpha => .ofTable "41-5a 61-7a"
  | .ascii => .ofTable "0-7f"
  | .blank => .ofTable "9 20"
  | .cntrl => .ofTable "0-1f 7f"
  | .digit => .ofTable "30-39"
  | .graph => .ofTable "21-7e"
  | .lower => .ofTable "61-7a"
  | .print => .ofTable "20-7e"
  | .punct => .ofTable "21-2f 3a-40 5b-60 7b-7e"
  | .space => .ofTable "9-d 20"
  | .upper => .ofTable "41-5a"
  | .word => .ofTable "30-39 41-5a 5f 61-7a"
  | .xdigit => .ofTable "30-39 41-46 61-66"

def byteRange : CharSet := .ofTable "0-ff"

/-- The letters of ASCII with both cases of each letter in the set. -/
def foldAscii (s : CharSet) : CharSet :=
  let shifted (first other : Char) : List Unicode.Span :=
    let part := s.inter (.range first (Char.ofNat (first.toNat + 25)))
    part.spans.toList.map fun sp =>
      ⟨sp.first - first.toNat + other.toNat, sp.last - first.toNat + other.toNat⟩
  s.union (.ofSpans (shifted 'a' 'A' ++ shifted 'A' 'a'))

namespace Modes

/-- Closes a set under case, if case is ignored. -/
def fold (m : Modes) (s : CharSet) : CharSet :=
  if !m.ignoreCase then s else if m.unicode then s.foldCase else foldAscii s

/-- What is left out of a set: of all characters, or of all bytes. -/
def complement (m : Modes) (s : CharSet) : CharSet :=
  if m.unicode then s.complement else s.complement.inter byteRange

/-- Refuses a set of bytes that reaches beyond ASCII. -/
def checkBytes (m : Modes) (s : CharSet) : Except SyntaxError CharSet :=
  if m.unicode || s.isAscii then .ok s else .error .invalidUtf8

/-- Closes a set under case, then negates it if asked to. -/
def foldAndNegate (m : Modes) (negated : Bool) (s : CharSet) : Except SyntaxError CharSet :=
  let folded := m.fold s
  m.checkBytes (if negated then m.complement folded else folded)

def shortSet (m : Modes) (kind : ShortClass) (negated : Bool) : Except SyntaxError CharSet :=
  let members := if m.unicode then kind.unicodeSet else kind.asciiSet
  m.checkBytes (if negated then m.complement members else members)

def propertySet (m : Modes) (query : PropertyQuery) (negated : Bool) :
    Except SyntaxError CharSet :=
  if !m.unicode then .error .unicodeNotAllowed
  else
    let found :=
      match query with
      | .name name => Unicode.setNamed name
      | .value property value => Unicode.setOfValue property value
    match found with
    | .error .noProperty => .error .propertyNotFound
    | .error .noValue => .error .propertyValueNotFound
    | .ok members => m.foldAndNegate negated members

/-- The code point of a literal in brackets. Where Unicode is off, it must be a byte. -/
def classCode (m : Modes) (lit : Literal) : Except SyntaxError Nat :=
  if m.unicode || lit.char.toNat < 0x80 || (lit.twoDigitHex && lit.char.toNat ≤ 0xff) then
    .ok lit.char.toNat
  else .error .unicodeNotAllowed

/-- The set that stands between brackets, before the brackets negate it. -/
def classSet (m : Modes) : ClassSet → Except SyntaxError CharSet
  | .literal lit => do
    let n ← m.classCode lit
    return .ofSpans [⟨n, n⟩]
  | .range first last => do
    let a ← m.classCode first
    let b ← m.classCode last
    return .ofSpans [⟨a, b⟩]
  | .ascii kind negated => m.foldAndNegate negated kind.members
  | .short kind negated => m.shortSet kind negated
  | .property query negated => m.propertySet query negated
  | .bracketed negated set => do m.foldAndNegate negated (← classSet m set)
  | .union items => do
    let sets ← items.attach.mapM fun ⟨item, _⟩ => classSet m item
    return .unions sets
  | .binary op left right => do
    let l := m.fold (← classSet m left)
    let r := m.fold (← classSet m right)
    match op with
    | .intersection => return l.inter r
    | .difference => return l.diff r
    | .symmetricDifference => return l.symmDiff r

/-! ## Atoms -/

/-- What a literal matches: one character, or every character equal to it up to case. -/
def literal (m : Modes) (lit : Literal) : Except SyntaxError Expr :=
  let c := lit.char
  if !m.unicode && lit.twoDigitHex && 0x80 ≤ c.toNat then .error .invalidUtf8
  else if !m.ignoreCase then .ok (.char c)
  else if m.unicode then
    if Unicode.hasCaseVariants c then .ok (.set (CharSet.singleton c).foldCase) else .ok (.char c)
  else if c.isAlpha then .ok (.set (foldAscii (.singleton c)))
  else .ok (.char c)

def dot (m : Modes) : Except SyntaxError Expr :=
  if !m.unicode then .error .invalidUtf8
  else if m.dotMatchesNewLine then .ok (.set .all)
  else if m.crlf then .ok (.set (CharSet.ofString "\r\n").complement)
  else .ok (.set (CharSet.singleton '\n').complement)

def look (m : Modes) : Assertion → Look
  | .lineStart => if !m.multiLine then .textStart else if m.crlf then .lineStartCrlf else .lineStart
  | .lineEnd => if !m.multiLine then .textEnd else if m.crlf then .lineEndCrlf else .lineEnd
  | .textStart => .textStart
  | .textEnd => .textEnd
  | .wordBoundary => .word m.unicode
  | .notWordBoundary => .notWord m.unicode
  | .wordStart => .wordStart m.unicode
  | .wordEnd => .wordEnd m.unicode
  | .wordStartHalf => .wordStartHalf m.unicode
  | .wordEndHalf => .wordEndHalf m.unicode

def atom (m : Modes) : Atom → Except SyntaxError Expr
  | .literal lit => m.literal lit
  | .dot => m.dot
  | .assertion kind => .ok (.look (m.look kind))
  | .short kind negated => (m.shortSet kind negated).map .set
  | .property query negated => (m.propertySet query negated).map .set

end Modes

/-! ## Trees -/

mutual

/-- What a tree matches under the flags in force where it stands, and the flags in force after
it. -/
def exprOfTree (m : Modes) : Ast → Except SyntaxError (Expr × Modes)
  | .empty => .ok (.empty, m)
  | .flags change => .ok (.empty, m.apply change)
  | .atom atom => (m.atom atom).map fun e => (e, m)
  | .bracketed negated set => do
    let members ← m.foldAndNegate negated (← m.classSet set)
    return (.set members, m)
  | .repetition count body => do
    let (e, m') ← exprOfTree m body
    return (.mkRepetition count.least count.most (count.greedy != m'.swapGreed) e, m')
  | .group (.capture index name) body => do
    let (e, _) ← exprOfTree m body
    return (.capture index name e, m)
  | .group (.flags change) body => do
    let (e, _) ← exprOfTree (m.apply change) body
    return (e, m)
  | .alternation branches => do
    let (es, m) ← exprsOfTrees m branches
    return (.alternation es, m)
  | .concat parts => do
    let (es, m) ← exprsOfTrees m parts
    return (.concat es, m)

/-- What trees match in their order, each under the flags that the ones before it leave. -/
def exprsOfTrees (m : Modes) : List Ast → Except SyntaxError (List Expr × Modes)
  | [] => .ok ([], m)
  | part :: rest => do
    let (e, m) ← exprOfTree m part
    let (es, m) ← exprsOfTrees m rest
    return (e :: es, m)

end

def Expr.ofTree (tree : Ast) : Except SyntaxError Expr := (exprOfTree {} tree).map (·.1)

end TreeFetch.Regex
