import TreeFetch.Yaml.Token.Property
import TreeFetch.Yaml.Token.Scalar

/-!
# From text to tokens

Indentation opens and closes block collections, brackets open and close flow collections. A key is
only known by the colon after it: while a token could be a key its place is kept (`PossibleKey`),
and when the colon comes the tokens for the key, and for the mapping if it begins there, are put in
front of it. Such a key stands on one line and has at most 1024 characters.
-/

namespace TreeFetch.Yaml

/-- A token that may turn out to be a key. -/
structure PossibleKey where
  /-- Whether it has to be one. -/
  required : Bool
  /-- How many tokens come before it. -/
  index : Nat
  mark : Mark
deriving Repr, DecidableEq, Inhabited

/-- What has been read of a text. -/
structure Scanner where
  cursor : Cursor
  /-- How many brackets are open. -/
  flow : Nat := 0
  /-- The indentation of the innermost block collection, -1 outside of all. -/
  indent : Int := -1
  /-- The indentations around it. -/
  outer : List Int := []
  /-- Whether a key may begin here. -/
  keyAllowed : Bool := true
  /-- The possible key outside of all brackets or in the innermost ones. -/
  key : Option PossibleKey := none
  /-- The possible keys around it. -/
  outerKeys : List (Option PossibleKey) := []
  tokens : Array Placed := #[]
deriving Inhabited

namespace Scanner

def refuse {α : Type} (s : Scanner) (problem : Problem) :
    Except Fault α := s.cursor.refuse problem

/-- The scanner after one more token, which ends where `after` begins. -/
def push (s : Scanner) (token : Token) (after : Cursor) : Scanner :=
  { s with cursor := after, tokens := s.tokens.push ⟨token, s.cursor.mark⟩ }

/-! ## Possible keys -/

/-- Whether a possible key can no longer be one. -/
def isStale (s : Scanner) (k : PossibleKey) : Bool :=
  k.mark.line < s.cursor.mark.line || k.mark.index + 1024 < s.cursor.mark.index

/-- Gives up the possible key, unless it has to be one. -/
def dropKey (s : Scanner) : Except Fault Scanner :=
  match s.key with
  | none => .ok s
  | some k =>
    if k.required then .error ⟨.keyWithoutColon, k.mark⟩ else .ok { s with key := none }

/-- Gives up every possible key that can no longer be one. -/
def dropStale (s : Scanner) : Except Fault Scanner := do
  let fresh (k : Option PossibleKey) : Except Fault (Option PossibleKey) :=
    match k with
    | none => .ok none
    | some k =>
      if !s.isStale k then .ok (some k)
      else if k.required then .error ⟨.keyWithoutColon, k.mark⟩
      else .ok none
  return { s with key := ← fresh s.key, outerKeys := ← s.outerKeys.mapM fresh }

/-- Remembers that the next token may be a key, if one may begin here. -/
def saveKey (s : Scanner) : Except Fault Scanner := do
  if !s.keyAllowed then return s
  let required := s.flow = 0 && s.indent = s.cursor.mark.column
  let s ← s.dropKey
  return { s with key := some ⟨required, s.tokens.size, s.cursor.mark⟩ }

/-! ## Indentation -/

/-- Opens a block collection at a column, if it is deeper than the innermost one. Its token is put
before the token with number `index`. -/
def openBlock (s : Scanner) (column : Nat) (index : Nat) (token : Token) (mark : Mark) : Scanner :=
  if s.flow = 0 && s.indent < column then
    { s with
      indent := column
      outer := s.indent :: s.outer
      tokens := s.tokens.insertIdxIfInBounds index ⟨token, mark⟩ }
  else s

/-- Closes the block collections that are deeper than a column. -/
def closeBlocksFrom (column : Int) (mark : Mark) (indent : Int) (tokens : Array Placed) :
    List Int → Int × List Int × Array Placed
  | [] => (indent, [], tokens)
  | above :: outer =>
    if indent > column then
      closeBlocksFrom column mark above (tokens.push ⟨.blockEnd, mark⟩) outer
    else (indent, above :: outer, tokens)

/-- Closes the block collections that are deeper than a column, unless brackets are open. -/
def closeBlocks (s : Scanner) (column : Int) : Scanner :=
  if s.flow ≠ 0 then s
  else
    let (indent, outer, tokens) :=
      closeBlocksFrom column s.cursor.mark s.indent s.tokens s.outer
    { s with indent, outer, tokens }

/-! ## One token -/

/-- A directive or a mark between documents, which ends all block collections. -/
def outermost (s : Scanner) (read : Cursor → Except Fault (Token × Cursor)) :
    Except Fault Scanner := do
  let s ← (s.closeBlocks (-1)).dropKey
  let (token, after) ← read s.cursor
  return { s with keyAllowed := false }.push token after

def openFlow (s : Scanner) (token : Token) : Except Fault Scanner := do
  let s ← s.saveKey
  return { s with
    outerKeys := s.key :: s.outerKeys
    key := none
    flow := s.flow + 1
    keyAllowed := true }.push token s.cursor.skip

def closeFlow (s : Scanner) (token : Token) : Except Fault Scanner := do
  let s ← s.dropKey
  let s :=
    match s.outerKeys with
    | key :: outerKeys => { s with key, outerKeys, flow := s.flow - 1 }
    | [] => s
  return { s with keyAllowed := false }.push token s.cursor.skip

def flowEntry (s : Scanner) : Except Fault Scanner := do
  let s ← s.dropKey
  return { s with keyAllowed := true }.push .flowEntry s.cursor.skip

def blockEntry (s : Scanner) : Except Fault Scanner := do
  if s.flow = 0 && !s.keyAllowed then s.refuse .entryNotAllowed
  let mark := s.cursor.mark
  let s ← (s.openBlock mark.column s.tokens.size .blockSequenceStart mark).dropKey
  return { s with keyAllowed := true }.push .blockEntry s.cursor.skip

def keyMark (s : Scanner) : Except Fault Scanner := do
  if s.flow = 0 && !s.keyAllowed then s.refuse .keyNotAllowed
  let mark := s.cursor.mark
  let s ← (s.openBlock mark.column s.tokens.size .blockMappingStart mark).dropKey
  return { s with keyAllowed := s.flow = 0 }.push .key s.cursor.skip

def valueMark (s : Scanner) : Except Fault Scanner := do
  match s.key with
  | some k =>
    let s := { s with tokens := s.tokens.insertIdxIfInBounds k.index ⟨.key, k.mark⟩ }
    let s := s.openBlock k.mark.column k.index .blockMappingStart k.mark
    return { s with key := none, keyAllowed := false }.push .value s.cursor.skip
  | none =>
    if s.flow = 0 && !s.keyAllowed then s.refuse .valueNotAllowed
    let mark := s.cursor.mark
    let s := s.openBlock mark.column s.tokens.size .blockMappingStart mark
    return { s with keyAllowed := s.flow = 0 }.push .value s.cursor.skip

/-- An anchor, an alias, a tag or a quoted scalar. -/
def word (s : Scanner) (read : Cursor → Except Fault (Token × Cursor)) :
    Except Fault Scanner := do
  let s ← s.saveKey
  let (token, after) ← read s.cursor
  return { s with keyAllowed := false }.push token after

def block (s : Scanner) (literal : Bool) : Except Fault Scanner := do
  let s ← s.dropKey
  let (token, after) ← readBlock literal s.indent s.cursor
  return { s with keyAllowed := true }.push token after

def plain (s : Scanner) : Except Fault Scanner := do
  let s ← s.saveKey
  let (token, after, broken) ← readPlain (s.flow ≠ 0) (s.indent + 1) s.cursor
  return { s with keyAllowed := broken }.push token after

/-- Whether a plain scalar can begin with a character, whatever follows it. -/
def beginsPlain (a : Char) : Bool :=
  !(isSpacing a || isBracketMark a || "-?:#&*!|>'\"%@\x60".toList.contains a)

def token (s : Scanner) (a : Char) : Except Fault Scanner :=
  let c := s.cursor
  let inBlock := s.flow = 0
  let alone := c.spacingAt 1
  if c.mark.column = 0 && a = '%' then s.outermost readDirective
  else if c.threeOf '-' then s.outermost fun c => .ok (.documentStart, c.skip 3)
  else if c.threeOf '.' then s.outermost fun c => .ok (.documentEnd, c.skip 3)
  else if a = '[' then s.openFlow .flowSequenceStart
  else if a = '\x7b' then s.openFlow .flowMappingStart
  else if a = ']' then s.closeFlow .flowSequenceEnd
  else if a = '\x7d' then s.closeFlow .flowMappingEnd
  else if a = ',' then s.flowEntry
  else if a = '-' && alone then s.blockEntry
  else if a = '?' && (!inBlock || alone) then s.keyMark
  else if a = ':' && (!inBlock || alone) then s.valueMark
  else if a = '*' then s.word (readAnchor true)
  else if a = '&' then s.word (readAnchor false)
  else if a = '!' then s.word (readTag (!inBlock))
  else if a = '|' && inBlock then s.block true
  else if a = '>' && inBlock then s.block false
  else if a = '\'' then s.word (readQuoted true)
  else if a = '"' then s.word (readQuoted false)
  else if beginsPlain a || (a = '-' && !(c.peekAt? 1).any isBlank) ||
      (inBlock && (a = '?' || a = ':') && !alone) then s.plain
  else s.refuse .noTokenStarts

/-! ## All tokens -/

/-- Passes blanks, comments and line breaks. A tab may not stand where a key may begin, except
inside brackets. In a block a new line allows a key. -/
def skipSpace (s : Scanner) : Scanner :=
  let c := if s.cursor.mark.column = 0 && s.cursor.looksAt '\ufeff' then s.cursor.skip else s.cursor
  let c := c.skipWhile fun a => a = ' ' || (a = '\t' && (s.flow ≠ 0 || !s.keyAllowed))
  let c := c.skipComment
  if c.next isBreak then
    let after := c.skipBreak
    let next := { s with cursor := after, keyAllowed := s.keyAllowed || s.flow = 0 }
    if _h : next.cursor.size < s.cursor.size then skipSpace next else next
  else { s with cursor := c }
termination_by s.cursor.size
decreasing_by exact _h

/-- The tokens that are left when the text is at its end. -/
def finish (s : Scanner) : Except Fault Scanner :=
  (s.closeBlocks (-1)).dropKey

def run (s : Scanner) : Except Fault Scanner :=
  let spaced := s.skipSpace
  match spaced.dropStale with
  | .error fault => .error fault
  | .ok ready =>
    let ready := ready.closeBlocks ready.cursor.mark.column
    match ready.cursor.peek? with
    | none => ready.finish
    | some a =>
      match ready.token a with
      | .error fault => .error fault
      | .ok after => if _h : after.cursor.size < s.cursor.size then run after else after.finish
termination_by s.cursor.size

end Scanner

/-- The first character of a text that may not be in it. -/
def firstForbidden (index : Nat) : List Char → Option Nat
  | [] => none
  | c :: rest => if isAllowed c then firstForbidden (index + 1) rest else some index

def tokenize (text : String) : Except Fault (List Placed) :=
  match firstForbidden 0 text.toList with
  | some index => .error ⟨.characterNotAllowed, { index }⟩
  | none =>
    (Scanner.run { cursor := { rest := text.toList } }).map fun s => s.tokens.toList

end TreeFetch.Yaml
