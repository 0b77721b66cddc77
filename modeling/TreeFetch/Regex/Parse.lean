import TreeFetch.Regex.Reader

/-!
# From the text of a pattern to its tree

The text is read once from left to right. What has been opened and not closed yet waits on a stack:
`Frame` for groups and alternations, `ClassFrame` for brackets and the operators between sets. Each
step of `parseFrom` and of `classFrom` leaves less text unread, which is why both end.

`parse` gives the tree of a pattern or the first fault met, and checks the nesting at the end.
-/

namespace TreeFetch.Regex

open SyntaxError

/-! ## Brackets -/

/-- What waits for a bracket or for the right side of an operator. -/
inductive ClassFrame
  /-- An open bracket; `outer` holds the items before it, the last one first. -/
  | bracket (outer : List ClassSet) (negated : Bool)
  /-- An operator whose left side has been read. -/
  | op (op : SetOp) (left : ClassSet)
deriving Inhabited

/-- Reading inside brackets: the items of the innermost bracket so far, the last one first. -/
structure ClassReader where
  reader : Reader
  items : List ClassSet
  stack : List ClassFrame
deriving Inhabited

/-- Reads dashes that stand first in brackets, which are plain characters there. -/
def leadingDashes (r : Reader) (items : List ClassSet) :
    Except SyntaxError (List ClassSet × Reader) :=
  match h : r.rest with
  | [] => .error classUnclosed
  | c :: cs =>
    have : (r.advance cs).rest.length < r.rest.length := by
      have := Reader.length_advance_le r cs
      rw [h, List.length_cons]
      omega
    if c = '-' then leadingDashes (r.advance cs) (.literal ⟨'-', false⟩ :: items)
    else .ok (items, r)
termination_by r.rest.length

/-- Reads what an opening bracket, already read, may be followed by: a caret that negates, then
dashes, or else a closing bracket that is a plain character. -/
def openBracket (r : Reader) : Except SyntaxError (Bool × List ClassSet × Reader) := do
  let (negated, r) ←
    match r.rest with
    | [] => throw classUnclosed
    | '^' :: cs => pure (true, r.advance cs)
    | _ => pure (false, r)
  let (items, r) ← leadingDashes r []
  match items, r.rest with
  | [], ']' :: cs =>
    let r := r.advance cs
    if r.rest.isEmpty then throw classUnclosed
    return (negated, [.literal ⟨']', false⟩], r)
  | _, _ => return (negated, items, r)

/-- The class between `[:` and `:]`, if that is what the text holds. -/
def asciiClass? (cs : List Char) : Option (ClassSet × List Char) :=
  match cs with
  | '[' :: ':' :: cs =>
    let (negated, cs) :=
      match cs with
      | '^' :: more => (true, more)
      | _ => (false, cs)
    match cs.dropWhile (· ≠ ':') with
    | ':' :: ']' :: rest =>
      (AsciiClass.ofName? (String.ofList (cs.takeWhile (· ≠ ':')))).map fun kind =>
        (.ascii kind negated, rest)
    | _ => none
  | _ => none

/-- Reads one character or escape in brackets. -/
def classAtom (r : Reader) : Except SyntaxError (Atom × Reader) :=
  match r.rest with
  | [] => .error classUnclosed
  | '\\' :: cs => readEscape { r with rest := cs }
  | c :: cs => .ok (.literal ⟨c, false⟩, { r with rest := cs })

def Atom.toItem : Atom → Except SyntaxError ClassSet
  | .literal lit => .ok (.literal lit)
  | .short kind negated => .ok (.short kind negated)
  | .property query negated => .ok (.property query negated)
  | .dot | .assertion _ => .error classEscapeInvalid

def Atom.toRangeEnd : Atom → Except SyntaxError Literal
  | .literal lit => .ok lit
  | _ => .error classRangeBoundary

/-- Reads one item of a bracket: a character, a class or a range. -/
def classItem (r : Reader) : Except SyntaxError (ClassSet × Reader) := do
  let (first, r) ← classAtom r
  let r := r.skip
  match r.rest with
  | [] => throw classUnclosed
  | '-' :: cs =>
    let next := r.afterDash cs
    if next = some ']' || next = some '-' then return (← first.toItem, r)
    let r := r.advance cs
    if r.rest.isEmpty then throw classUnclosed
    let (last, r) ← classAtom r
    let first ← first.toRangeEnd
    let last ← last.toRangeEnd
    if last.char < first.char then throw classRangeInvalid
    return (.range first last, r)
  | _ => return (← first.toItem, r)

/-- Applies the operator on top of the stack, if there is one, to the set that ends here. -/
def applyOp (right : ClassSet) : List ClassFrame → ClassSet × List ClassFrame
  | .op op left :: stack => (.binary op left right, stack)
  | stack => (right, stack)

/-- One step inside brackets: either more of the bracket, or the finished bracket. -/
def classStep (s : ClassReader) :
    Except SyntaxError (ClassReader ⊕ (Bool × ClassSet × Reader)) := do
  let r := s.reader.skip
  let operator (op : SetOp) (cs : List Char) :
      Except SyntaxError (ClassReader ⊕ (Bool × ClassSet × Reader)) :=
    let (left, stack) := applyOp (ClassSet.ofItems s.items.reverse) s.stack
    .ok (.inl ⟨{ r with rest := cs }, [], .op op left :: stack⟩)
  match r.rest with
  | [] => throw classUnclosed
  | '[' :: cs =>
    match asciiClass? r.rest with
    | some (item, rest) => return .inl ⟨{ r with rest := rest }, item :: s.items, s.stack⟩
    | none =>
      let (negated, items, r) ← openBracket (r.advance cs)
      return .inl ⟨r, items, .bracket s.items negated :: s.stack⟩
  | ']' :: cs =>
    let (set, stack) := applyOp (ClassSet.ofItems s.items.reverse) s.stack
    let r : Reader := { r with rest := cs }
    match stack with
    | [.bracket _ negated] => return .inr (negated, set, r)
    | .bracket outer negated :: stack => return .inl ⟨r, .bracketed negated set :: outer, stack⟩
    | _ => return .inr (false, set, r)
  | '&' :: '&' :: cs => operator .intersection cs
  | '-' :: '-' :: cs => operator .difference cs
  | '~' :: '~' :: cs => operator .symmetricDifference cs
  | _ =>
    let (item, r) ← classItem r
    return .inl ⟨r, item :: s.items, s.stack⟩

/-- Reads up to the end of the outermost bracket. -/
def classFrom (s : ClassReader) : Except SyntaxError (Bool × ClassSet × Reader) :=
  match classStep s with
  | .error e => .error e
  | .ok (.inr done) => .ok done
  | .ok (.inl next) =>
    if next.reader.rest.length < s.reader.rest.length then classFrom next
    else .error classUnclosed
termination_by s.reader.rest.length

/-- Reads a bracket whose opening character has been read. -/
def bracket (r : Reader) : Except SyntaxError (Ast × Reader) := do
  let (negated, items, r) ← openBracket r
  let (negated, set, r) ← classFrom ⟨r, items, [.bracket [] negated]⟩
  return (.bracketed negated set, r)

/-! ## Groups, branches and repetitions -/

/-- What waits for the end of a group or of a branch. -/
inductive Frame
  /-- An open group; `before` holds the parts before it, the last one first, and `verbose` is the
  switch to go back to after it. -/
  | group (before : List Ast) (kind : GroupKind) (verbose : Bool)
  /-- The finished branches of an alternation, the last one first. -/
  | branches (done : List Ast)
deriving Inhabited

/-- A pattern read in part: the unread text, the number and the names of the groups so far, the
parts of the innermost sequence, the last one first, and what waits. -/
structure Parser where
  reader : Reader
  groups : Nat := 0
  names : List String := []
  parts : List Ast := []
  stack : List Frame := []
deriving Inhabited

namespace Parser

/-- The parts read last, as one tree. -/
def sequence (p : Parser) : Ast := Ast.ofParts p.parts.reverse

/-- Adds a part and goes on at `r`. -/
def push (p : Parser) (part : Ast) (r : Reader) : Parser :=
  { p with reader := r, parts := part :: p.parts }

def openGroup (p : Parser) (kind : GroupKind) (r : Reader) : Parser :=
  { p with
    reader := r
    parts := []
    stack := .group p.parts kind p.reader.verbose :: p.stack }

/-- Opens a capture group, which takes the next index. -/
def openCapture (p : Parser) (name : Option String) (r : Reader) : Parser :=
  let index := p.groups + 1
  { p.openGroup (.capture index name) r with groups := index }

def readGroup (p : Parser) (r : Reader) : Except SyntaxError Parser :=
  let named (cs : List Char) : Except SyntaxError Parser := do
    let (name, rest) ← readName true cs
    if name.isEmpty then throw groupNameEmpty
    let name := String.ofList name
    if p.names.contains name then throw groupNameDuplicate
    return { p.openCapture (some name) { r with rest := rest } with names := name :: p.names }
  match r.rest with
  | '?' :: '=' :: _ | '?' :: '!' :: _ | '?' :: '<' :: '=' :: _ | '?' :: '<' :: '!' :: _ =>
    .error lookAround
  | '?' :: 'P' :: '<' :: cs | '?' :: '<' :: cs => named cs
  | ['?'] => .error groupUnclosed
  | '?' :: cs => do
    let (change, closer, rest) ← readFlags ⟨[], []⟩ false false cs
    let verbose := (change.state? .verbose).getD r.verbose
    let next : Reader := ⟨rest, verbose⟩
    if closer = ')' then
      if change = ⟨[], []⟩ then throw repetitionMissing
      return p.push (.flags change) next
    return p.openGroup (.flags change) next
  | _ => .ok (p.openCapture none r)

def endBranch (p : Parser) (r : Reader) : Parser :=
  match p.stack with
  | .branches done :: stack =>
    { p with reader := r, parts := [], stack := .branches (p.sequence :: done) :: stack }
  | stack => { p with reader := r, parts := [], stack := .branches [p.sequence] :: stack }

/-- The tree that ends here, with the branches before it, and what waits below. -/
def finish (p : Parser) : Ast × List Frame :=
  match p.stack with
  | .branches done :: stack => (Ast.ofBranches (p.sequence :: done).reverse, stack)
  | stack => (p.sequence, stack)

def closeGroup (p : Parser) (cs : List Char) : Except SyntaxError Parser :=
  let (body, stack) := p.finish
  match stack with
  | .group before kind verbose :: stack =>
    .ok { p with reader := ⟨cs, verbose⟩, parts := .group kind body :: before, stack := stack }
  | _ => .error groupUnopened

/-- Repeats the last part, which must be one that can repeat. -/
def repeatLast (p : Parser) (count : Repetition) (r : Reader) : Except SyntaxError Parser :=
  match p.parts with
  | [] | .empty :: _ | .flags _ :: _ => .error repetitionMissing
  | part :: before => .ok { p with reader := r, parts := .repetition count part :: before }

/-- A question mark after an operator makes it prefer fewer rounds. -/
def lazyMark (r : Reader) : Bool × Reader :=
  match r.rest with
  | '?' :: cs => (false, { r with rest := cs })
  | _ => (true, r)

/-- Reads the bounds between braces and the closing brace. -/
def readBounds (r : Reader) : Except SyntaxError (Nat × Option Nat × Reader) := do
  if r.rest.isEmpty then throw repetitionUnclosed
  let (least, r) := r.count
  match r.rest with
  | [] => throw repetitionUnclosed
  | ',' :: cs =>
    let r := r.advance cs
    match r.rest with
    | [] => throw repetitionUnclosed
    | '\x7d' :: cs => return (← least, none, r.advance cs)
    | _ =>
      let least ← least
      let (most, r) := r.count
      let most ← most
      match r.rest with
      | '\x7d' :: cs => return (least, some most, r.advance cs)
      | _ => throw repetitionUnclosed
  | c :: cs =>
    let least ← least
    if c = '\x7d' then return (least, some least, r.advance cs)
    throw repetitionUnclosed

/-- Reads a repetition between braces, whose opening brace has been read. -/
def readRepetition (p : Parser) (r : Reader) : Except SyntaxError Parser := do
  let _ ← p.repeatLast ⟨0, none, true⟩ r
  let (least, most, r) ← readBounds r
  let (greedy, r) := lazyMark r
  if most.any (· < least) then throw repetitionRangeInvalid
  p.repeatLast ⟨least, most, greedy⟩ r

/-- Reads the next part of a pattern. `c` is the next character and `cs` what follows it. -/
def step (p : Parser) (c : Char) (cs : List Char) : Except SyntaxError Parser :=
  let next : Reader := { p.reader with rest := cs }
  let operator (least : Nat) (most : Option Nat) : Except SyntaxError Parser :=
    let (greedy, r) := lazyMark next
    p.repeatLast ⟨least, most, greedy⟩ r
  match c with
  | '(' => p.readGroup next.skip
  | ')' => p.closeGroup cs
  | '|' => .ok (p.endBranch next)
  | '[' => (bracket next.skip).map fun (part, r) => p.push part r
  | '?' => operator 0 (some 1)
  | '*' => operator 0 none
  | '+' => operator 1 none
  | '\x7b' => p.readRepetition next.skip
  | '\\' => (readEscape next).map fun (atom, r) => p.push (.atom atom) r
  | '.' => .ok (p.push (.atom .dot) next)
  | '^' => .ok (p.push (.atom (.assertion .lineStart)) next)
  | '$' => .ok (p.push (.atom (.assertion .lineEnd)) next)
  | c => .ok (p.push (.atom (.literal ⟨c, false⟩)) next)

end Parser

def parseFrom (p : Parser) : Except SyntaxError Ast :=
  match (p.reader.skip).rest with
  | [] =>
    match p.finish with
    | (tree, []) => .ok tree
    | (_, _ :: _) => .error groupUnclosed
  | c :: cs =>
    match Parser.step { p with reader := p.reader.skip } c cs with
    | .error e => .error e
    | .ok next =>
      if next.reader.rest.length < p.reader.rest.length then parseFrom next
      else .error groupUnclosed
termination_by p.reader.rest.length

/-- The tree of a pattern, or what is wrong with it. -/
def parse (pattern : String) : Except SyntaxError Ast := do
  let tree ← parseFrom { reader := ⟨pattern.toList, false⟩ }
  if nestingLimit < tree.depth then throw nestingTooDeep
  return tree

end TreeFetch.Regex
