import TreeFetch.Yaml.Cursor
import TreeFetch.Yaml.Token

/-!
# Scalars

A scalar is written plainly, between quotes, or as a block of indented lines. In plain and quoted
scalars a line break counts as a space and each further one as itself; in a literal block every
break is kept, and in a folded block those between lines that begin with no blank are treated like
the breaks of a plain scalar.

The readers go on as long as they pass characters, so the number of characters that are left bounds
their loops.
-/

namespace TreeFetch.Yaml

/-! ## Blanks and breaks inside a scalar -/

/-- The blanks and line breaks after a part of a scalar. -/
structure Gap where
  /-- Blanks before the first break. -/
  blanks : List Char := []
  /-- Whether a line break is among them. -/
  broken : Bool := false
  /-- The first break. -/
  first : List Char := []
  /-- The breaks after the first one. -/
  more : List Char := []
deriving Repr, DecidableEq, Inhabited

namespace Gap

/-- What a gap counts as when text follows it. -/
def text (g : Gap) : List Char :=
  if !g.broken then g.blanks
  else if g.first = ['\n'] then if g.more.isEmpty then [' '] else g.more
  else g.first ++ g.more

def addBreak (g : Gap) (text : List Char) : Gap :=
  if g.broken then { g with more := g.more ++ text }
  else { blanks := [], broken := true, first := text }

/-- The gap with blanks at its end; at the beginning of a line they do not count. -/
def addBlanks (g : Gap) (text : List Char) : Gap :=
  if g.broken then g else { g with blanks := g.blanks ++ text }

/-- Passes blanks and line breaks. `refused` tells where a blank must not be. -/
def read (refused : Gap → Cursor → Bool) (g : Gap) (c : Cursor) :
    Except Fault (Gap × Cursor) :=
  if c.next isBlank then
    if refused g c then c.refuse .tabInIndentation
    else
      let after := c.skip
      if _h : after.size < c.size then read refused (g.addBlanks (c.rest.take 1)) after
      else .ok (g, c)
  else if c.next isBreak then
    let after := c.skipBreak
    if _h : after.size < c.size then read refused (g.addBreak (Cursor.breakText c.rest)) after
    else .ok (g, c)
  else .ok (g, c)
termination_by c.size

end Gap

/-! ## Quoted scalars -/

def escaped? : Char → Option Char
  | '0' => some '\x00'
  | 'a' => some '\x07'
  | 'b' => some '\x08'
  | 't' | '\t' => some '\t'
  | 'n' => some '\n'
  | 'v' => some '\x0b'
  | 'f' => some '\x0c'
  | 'r' => some '\r'
  | 'e' => some '\x1b'
  | ' ' => some ' '
  | '"' => some '"'
  | '/' => some '/'
  | '\\' => some '\\'
  | 'N' => some '\u0085'
  | '_' => some '\u00a0'
  | 'L' => some '\u2028'
  | 'P' => some '\u2029'
  | _ => none

/-- How many digits follow a letter after a backslash. -/
def escapedDigits? : Char → Option Nat
  | 'x' => some 2
  | 'u' => some 4
  | 'U' => some 8
  | _ => none

/-- The character with the code point that hexadecimal digits write. -/
def codeEscape (c : Cursor) (digits : List Char) (count : Nat) : Except Fault Char :=
  match digits.mapM hexValue? with
  | none => c.refuse .escapeDigits
  | some values =>
    let code := values.foldl (fun n v => n * 16 + v) 0
    if digits.length < count then c.refuse .escapeDigits
    else if h : code.isValidChar then .ok (Char.ofNatAux code h)
    else c.refuse .escapeInvalid

/-- What was read of a quoted scalar between two gaps. -/
structure QuotedPart where
  text : List Char
  /-- Whether it ends with an escaped line break. -/
  escapedBreak : Bool
  cursor : Cursor

/-- Reads up to the closing quote, a blank, or a line break. `before` is the text read so far, the
last character first. -/
def quotedPart (single : Bool) (before : List Char) (c : Cursor) : Except Fault QuotedPart :=
  let ended (c : Cursor) : QuotedPart := ⟨before.reverse, false, c⟩
  let go (a : Char) (after : Cursor) : Except Fault QuotedPart :=
    if _h : after.size < c.size then quotedPart single (a :: before) after else .ok (ended c)
  match c.rest with
  | [] => .ok (ended c)
  | a :: rest =>
    if isSpacing a then .ok (ended c)
    else if single then
      if a = '\'' then if rest.head? = some '\'' then go '\'' (c.skip 2) else .ok (ended c)
      else go a c.skip
    else if a = '"' then .ok (ended c)
    else if a = '\\' then
      match rest with
      | [] => c.refuse .escapeUnknown
      | letter :: more =>
        if isBreak letter then .ok ⟨before.reverse, true, c.skip.skipBreak⟩
        else
          match escaped? letter, escapedDigits? letter with
          | some meant, _ => go meant (c.skip 2)
          | none, some count =>
            match codeEscape c (more.take count) count with
            | .error fault => .error fault
            | .ok meant => go meant (c.skip (2 + count))
          | none, none => c.refuse .escapeUnknown
    else go a c.skip
termination_by c.size

def quotedRest (single : Bool) (before : List Char) (c : Cursor) :
    Except Fault (List Char × Cursor) :=
  if c.atDocumentMark then c.refuse .documentMarkInQuotes
  else if c.rest.isEmpty then c.refuse .quotesUnclosed
  else
    match quotedPart single [] c with
    | .error fault => .error fault
    | .ok part =>
      let text := before ++ part.text
      if part.cursor.looksAt (if single then '\'' else '"') then .ok (text, part.cursor.skip)
      else
        match Gap.read (fun _ _ => false) { broken := part.escapedBreak } part.cursor with
        | .error fault => .error fault
        | .ok (gap, after) =>
          if _h : after.size < c.size then quotedRest single (text ++ gap.text) after
          else c.refuse .quotesUnclosed
termination_by c.size

def readQuoted (single : Bool) (c : Cursor) : Except Fault (Token × Cursor) :=
  (quotedRest single [] c.skip).map fun (text, after) =>
    (.scalar (String.ofList text) (if single then .singleQuoted else .doubleQuoted), after)

/-! ## Plain scalars -/

/-- Reads up to the end of the scalar, a blank, or a line break. Inside brackets (`flow`) the marks
of collections end a plain scalar too. -/
def plainPart (flow : Bool) (before : List Char) (c : Cursor) :
    Except Fault (List Char × Cursor) :=
  match c.rest with
  | [] => .ok (before.reverse, c)
  | a :: rest =>
    if isSpacing a then .ok (before.reverse, c)
    else if flow && a = ':' && rest.head?.any fun b => isBracketMark b || b = '?' then
      c.refuse .colonInFlow
    else if (a = ':' && c.spacingAt 1) || (flow && isBracketMark a) then .ok (before.reverse, c)
    else
      let after := c.skip
      if _h : after.size < c.size then plainPart flow (a :: before) after
      else .ok (before.reverse, c)
termination_by c.size

structure PlainScalar where
  text : List Char
  cursor : Cursor
  /-- Whether a line break comes after its text. -/
  broken : Bool

/-- Reads the rest of a plain scalar after the text `before` and a gap. Its lines are indented by at
least `indent` blanks, unless it stands inside brackets. -/
def plainRest (flow : Bool) (indent : Int) (before : List Char) (gap : Gap) (c : Cursor) :
    Except Fault PlainScalar :=
  let ended : PlainScalar := ⟨before, c, gap.broken⟩
  if c.atDocumentMark || c.looksAt '#' then .ok ended
  else
    match plainPart flow [] c with
    | .error fault => .error fault
    | .ok (part, after) =>
      let (text, gap) := if part.isEmpty then (before, gap) else (before ++ gap.text ++ part, {})
      if !after.next isSpacing then .ok ⟨text, after, gap.broken⟩
      else
        let early (g : Gap) (c : Cursor) : Bool :=
          g.broken && c.mark.column < indent && c.looksAt '\t'
        match Gap.read early gap after with
        | .error fault => .error fault
        | .ok (gap, after) =>
          if !flow && after.mark.column < indent then .ok ⟨text, after, gap.broken⟩
          else if _h : after.size < c.size then plainRest flow indent text gap after
          else .ok ⟨text, after, gap.broken⟩
termination_by c.size

/-- Reads a plain scalar. The last part tells whether a line break comes after it. -/
def readPlain (flow : Bool) (indent : Int) (c : Cursor) : Except Fault (Token × Cursor × Bool) :=
  (plainRest flow indent [] {} c).map fun s =>
    (.scalar (String.ofList s.text) .plain, s.cursor, s.broken)

/-! ## Block scalars -/

/-- What becomes of the line breaks at the end of a block. -/
inductive Chomping
  | strip
  | clip
  | keep
deriving Repr, DecidableEq, Inhabited

/-- The sign for what becomes of the breaks at the end. -/
def chomping? : Option Char → Option Chomping
  | some '+' => some .keep
  | some '-' => some .strip
  | _ => none

def digit? (c : Option Char) : Option Nat :=
  c.bind fun a => if a.isDigit then some (a.toNat - '0'.toNat) else none

/-- Reads what stands on the line that begins a block: the chomping, and the indentation if it is
given. -/
def blockHeader (c : Cursor) : Except Fault (Chomping × Option Nat × Cursor) :=
  let indentation (c : Cursor) : Except Fault (Option Nat × Cursor) :=
    match digit? c.peek? with
    | none => .ok (none, c)
    | some 0 => c.refuse .blockIndentation
    | some n => .ok (some n, c.skip)
  match chomping? c.peek? with
  | some chomping => (indentation c.skip).map fun (indent, c) => (chomping, indent, c)
  | none =>
    (indentation c).map fun (indent, c) =>
      match indent, chomping? c.peek? with
      | some _, some chomping => (chomping, indent, c.skip)
      | _, _ => (.clip, indent, c)

/-- Passes indentation and empty lines. `indent` is the indentation, 0 while it is unknown, and
`most` the greatest column so far. The breaks passed come with the greatest column. -/
def blockBreaks (indent most : Nat) (before : List Char) (c : Cursor) :
    Except Fault (List Char × Nat × Cursor) :=
  let spaces := (c.rest.takeWhile (· = ' ')).length
  let inner :=
    c.skip (if indent = 0 then spaces else min spaces (indent - c.mark.column))
  let most := max most inner.mark.column
  if (indent = 0 || inner.mark.column < indent) && inner.looksAt '\t' then
    inner.refuse .tabInIndentation
  else if !inner.next isBreak then .ok (before, most, inner)
  else
    let after := inner.skipBreak
    if _h : after.size < c.size then
      blockBreaks indent most (before ++ Cursor.breakText inner.rest) after
    else .ok (before, most, inner)
termination_by c.size

structure Block where
  text : List Char := []
  /-- The break after the last line. -/
  last : List Char := []
  /-- The breaks of the empty lines after it. -/
  empty : List Char := []
  /-- Whether the last line began with a blank. -/
  blank : Bool := false

def blockLines (literal : Bool) (indent : Nat) (b : Block) (c : Cursor) :
    Except Fault (Block × Cursor) :=
  if c.mark.column ≠ indent || c.rest.isEmpty then .ok (b, c)
  else
    let blank := c.next isBlank
    let folds := !literal && b.last = ['\n'] && !b.blank && !blank
    let joint := if folds then if b.empty.isEmpty then [' '] else [] else b.last
    let line := c.taken fun a => !isBreak a
    let ended := c.skip line.length
    let text := b.text ++ joint ++ b.empty ++ line
    match blockBreaks indent 0 [] ended.skipBreak with
    | .error fault => .error fault
    | .ok (empty, _, after) =>
      let b : Block := { text, last := Cursor.breakText ended.rest, empty, blank }
      if _h : after.size < c.size then blockLines literal indent b after else .ok (b, after)
termination_by c.size

/-- Reads a block scalar of a collection with the given indentation, which is -1 outside of all
collections. -/
def readBlock (literal : Bool) (parent : Int) (c : Cursor) : Except Fault (Token × Cursor) := do
  let (chomping, given, c) ← blockHeader c.skip
  let c := (c.skipWhile isBlank).skipComment
  if !c.lineEnds then c.refuse .blockHeader
  let c := c.skipBreak
  let known := given.elim 0 fun n => if parent ≥ 0 then parent.toNat + n else n
  let (empty, most, c) ← blockBreaks known 0 [] c
  let indent := if known = 0 then max most (max (parent + 1).toNat 1) else known
  let (b, c) ← blockLines literal indent { empty } c
  let tail :=
    match chomping with
    | .strip => []
    | .clip => b.last
    | .keep => b.last ++ b.empty
  return (.scalar (String.ofList (b.text ++ tail)) (if literal then .literal else .folded), c)

end TreeFetch.Yaml
