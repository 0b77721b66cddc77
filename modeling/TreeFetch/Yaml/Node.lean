import TreeFetch.Yaml.Token.Scan

/-!
# From tokens to a document

A document is a tree of scalars, sequences and mappings, with aliases to nodes that carry an anchor.
An alias holds the number of its anchor; what the numbers stand for is part of the document. An
anchor that is given again gets a new number, the number of different anchors so far.

`Document.read?` reads the only document of a text. A text without a document has none; one with
more than one is refused.
-/

namespace TreeFetch.Yaml

/-- A scalar with its tag, if it has one. -/
structure Scalar where
  text : String
  style : Style
  tag : Option String
deriving Repr, DecidableEq, Inhabited

inductive Node
  | scalar (s : Scalar)
  | alias_ (anchor : Nat)
  | sequence (items : List Node)
  | mapping (pairs : List (Node × Node))
deriving Repr, Inhabited

inductive Anchored
  | scalar (s : Scalar)
  | collection
deriving Repr, DecidableEq, Inhabited

structure Document where
  root : Node
  /-- What the anchors stand on, by number; the last one given comes first. -/
  anchored : List (Nat × Anchored)
deriving Repr, Inhabited

/-! ## Reading nodes -/

/-- The tokens that are still to be read, and what is known from those before. -/
structure Reading where
  tokens : List Placed
  /-- The numbers of the anchors by name. -/
  anchors : List (String × Nat) := []
  anchored : List (Nat × Anchored) := []
  /-- What the handles of tags stand for. -/
  handles : List (String × String) := []

namespace Reading

def peek? (r : Reading) : Option Token := r.tokens.head?.map (·.token)

def mark (r : Reading) : Mark := (r.tokens.head?.map (·.mark)).getD {}

/-- Whether the next token is one of the given ones. -/
def sees (r : Reading) (tokens : List Token) : Bool := r.peek?.any tokens.contains

def skip (r : Reading) : Reading := { r with tokens := r.tokens.drop 1 }

def refuse {α : Type} (r : Reading) (problem : Problem) : Except Fault α :=
  .error ⟨problem, r.mark⟩

def register (r : Reading) (anchor : Option String) (on : Anchored) : Reading :=
  match anchor with
  | none => r
  | some name =>
    let number := r.anchors.length
    { r with
      anchors := (name, number) :: r.anchors.filter (·.1 ≠ name)
      anchored := (number, on) :: r.anchored }

end Reading

structure Properties where
  anchor : Option String := none
  tag : Option String := none

namespace Properties

/-- The tag that a handle and a suffix stand for. -/
def resolveTag (r : Reading) (handle suffix : String) : Except Fault String :=
  if handle = "" then .ok suffix
  else
    match r.handles.lookup handle with
    | some start => .ok (start ++ suffix)
    | none => r.refuse .tagHandleUndefined

/-- Reads an anchor and a tag in either order, at most one of each. -/
def read (r : Reading) : Except Fault (Properties × Reading) :=
  match r.peek?, r.skip.peek? with
  | some (.anchor name), some (.tag handle suffix) =>
    (resolveTag r handle suffix).map fun tag => (⟨some name, some tag⟩, r.skip.skip)
  | some (.anchor name), _ => .ok (⟨some name, none⟩, r.skip)
  | some (.tag handle suffix), some (.anchor name) =>
    (resolveTag r handle suffix).map fun tag => (⟨some name, some tag⟩, r.skip.skip)
  | some (.tag handle suffix), _ =>
    (resolveTag r handle suffix).map fun tag => (⟨none, some tag⟩, r.skip)
  | _, _ => .ok ({}, r)

def isEmpty (p : Properties) : Bool := p.anchor.isNone && p.tag.isNone

end Properties

def emptyScalar : Scalar := ⟨"", .plain, none⟩

def emptyNode : Node := .scalar emptyScalar

mutual

/-- Reads a node. `block` tells whether it may be a block collection, and `indentless` whether it
may be a sequence without indentation of its own. -/
def readNode (fuel : Nat) (block indentless : Bool) (r : Reading) :
    Except Fault (Node × Reading) :=
  match fuel with
  | 0 => r.refuse .nestingTooDeep
  | fuel + 1 =>
    match r.peek? with
    | some (.alias_ name) =>
      match r.anchors.lookup name with
      | some number => .ok (.alias_ number, r.skip)
      | none => r.refuse .anchorUnknown
    | _ =>
      match Properties.read r with
      | .error fault => .error fault
      | .ok (properties, r) =>
        let opened := r.register properties.anchor .collection
        let scalar (text : String) (style : Style) (r : Reading) : Except Fault (Node × Reading) :=
          let s : Scalar := ⟨text, style, properties.tag⟩
          .ok (.scalar s, r.register properties.anchor (.scalar s))
        match r.peek? with
        | some .blockEntry =>
          if indentless then readIndentless fuel [] opened
          else if properties.isEmpty then r.refuse .nodeContent
          else scalar "" .plain r
        | some (.scalar text style) => scalar text style r.skip
        | some .flowSequenceStart => readFlowSequence fuel [] opened.skip
        | some .flowMappingStart => readFlowMapping fuel [] opened.skip
        | some .blockSequenceStart =>
          if block then readBlockSequence fuel [] opened.skip
          else if properties.isEmpty then r.refuse .nodeContent
          else scalar "" .plain r
        | some .blockMappingStart =>
          if block then readBlockMapping fuel [] opened.skip
          else if properties.isEmpty then r.refuse .nodeContent
          else scalar "" .plain r
        | _ => if properties.isEmpty then r.refuse .nodeContent else scalar "" .plain r

/-- Reads a node unless one of the given tokens comes next. -/
def readUnless (fuel : Nat) (ends : List Token) (block indentless : Bool) (r : Reading) :
    Except Fault (Node × Reading) :=
  match fuel with
  | 0 => r.refuse .nestingTooDeep
  | fuel + 1 => if r.sees ends then .ok (emptyNode, r) else readNode fuel block indentless r

def readBlockSequence (fuel : Nat) (items : List Node) (r : Reading) :
    Except Fault (Node × Reading) :=
  match fuel with
  | 0 => r.refuse .nestingTooDeep
  | fuel + 1 =>
    match r.peek? with
    | some .blockEntry =>
      match readUnless fuel [.blockEntry, .blockEnd] true false r.skip with
      | .error fault => .error fault
      | .ok (item, r) => readBlockSequence fuel (item :: items) r
    | some .blockEnd => .ok (.sequence items.reverse, r.skip)
    | _ => r.refuse .blockEntry

/-- Reads the rest of a sequence without indentation of its own. -/
def readIndentless (fuel : Nat) (items : List Node) (r : Reading) :
    Except Fault (Node × Reading) :=
  match fuel with
  | 0 => r.refuse .nestingTooDeep
  | fuel + 1 =>
    match r.peek? with
    | some .blockEntry =>
      match readUnless fuel [.blockEntry, .key, .value, .blockEnd] true false r.skip with
      | .error fault => .error fault
      | .ok (item, r) => readIndentless fuel (item :: items) r
    | _ => .ok (.sequence items.reverse, r)

def readBlockMapping (fuel : Nat) (pairs : List (Node × Node)) (r : Reading) :
    Except Fault (Node × Reading) :=
  match fuel with
  | 0 => r.refuse .nestingTooDeep
  | fuel + 1 =>
    let ends : List Token := [.key, .value, .blockEnd]
    match r.peek? with
    | some .key =>
      match readUnless fuel ends true true r.skip with
      | .error fault => .error fault
      | .ok (key, r) =>
        match r.peek? with
        | some .value =>
          match readUnless fuel ends true true r.skip with
          | .error fault => .error fault
          | .ok (value, r) => readBlockMapping fuel ((key, value) :: pairs) r
        | _ => readBlockMapping fuel ((key, emptyNode) :: pairs) r
    | some .blockEnd => .ok (.mapping pairs.reverse, r.skip)
    | _ => r.refuse .blockKey

/-- Reads a pair that stands in a sequence in brackets, after its question mark or before its
colon. -/
def readSinglePair (fuel : Nat) (r : Reading) : Except Fault (Node × Reading) :=
  match fuel with
  | 0 => r.refuse .nestingTooDeep
  | fuel + 1 =>
    let key : Except Fault (Node × Reading) :=
      if r.sees [.value, .flowEntry, .flowSequenceEnd] then .ok (emptyNode, r.skip)
      else readNode fuel false false r
    match key with
    | .error fault => .error fault
    | .ok (key, r) =>
      match r.peek? with
      | some .value =>
        match readUnless fuel [.flowEntry, .flowSequenceEnd] false false r.skip with
        | .error fault => .error fault
        | .ok (value, r) => .ok (.mapping [(key, value)], r)
      | _ => .ok (.mapping [(key, emptyNode)], r)

def readFlowSequence (fuel : Nat) (items : List Node) (r : Reading) :
    Except Fault (Node × Reading) :=
  match fuel with
  | 0 => r.refuse .nestingTooDeep
  | fuel + 1 =>
    if r.sees [.flowSequenceEnd] then .ok (.sequence items.reverse, r.skip)
    else if !items.isEmpty && !r.sees [.flowEntry] then r.refuse .flowSequence
    else
      let r := if items.isEmpty then r else r.skip
      match r.peek? with
      | some .key =>
        match readSinglePair fuel r.skip with
        | .error fault => .error fault
        | .ok (item, r) => readFlowSequence fuel (item :: items) r
      | some .flowSequenceEnd => .ok (.sequence items.reverse, r.skip)
      | _ =>
        match readNode fuel false false r with
        | .error fault => .error fault
        | .ok (item, r) => readFlowSequence fuel (item :: items) r

def readFlowMapping (fuel : Nat) (pairs : List (Node × Node)) (r : Reading) :
    Except Fault (Node × Reading) :=
  match fuel with
  | 0 => r.refuse .nestingTooDeep
  | fuel + 1 =>
    let ends : List Token := [.value, .flowEntry, .flowMappingEnd]
    if r.sees [.flowMappingEnd] then .ok (.mapping pairs.reverse, r.skip)
    else if !pairs.isEmpty && !r.sees [.flowEntry] then r.refuse .flowMapping
    else
      let r := if pairs.isEmpty then r else r.skip
      match r.peek? with
      | some .key =>
        match readUnless fuel ends false false r.skip with
        | .error fault => .error fault
        | .ok (key, r) =>
          match r.peek? with
          | some .value =>
            match readUnless fuel [.flowEntry, .flowMappingEnd] false false r.skip with
            | .error fault => .error fault
            | .ok (value, r) => readFlowMapping fuel ((key, value) :: pairs) r
          | _ => readFlowMapping fuel ((key, emptyNode) :: pairs) r
      | some .flowMappingEnd => .ok (.mapping pairs.reverse, r.skip)
      | _ =>
        match readNode fuel false false r with
        | .error fault => .error fault
        | .ok (key, r) => readFlowMapping fuel ((key, emptyNode) :: pairs) r

end

/-! ## Reading a document -/

def knownHandles : List (String × String) := [("!", "!"), ("!!", "tag:yaml.org,2002:")]

/-- Whether a directive or a mark between documents comes next, or nothing at all. -/
def atDocumentEdge (r : Reading) : Bool :=
  match r.peek? with
  | none => true
  | some (.versionDirective ..) | some (.tagDirective ..) => true
  | some .documentStart | some .documentEnd => true
  | _ => false

/-- Reads directives. `versioned` tells whether the version is given already. -/
def readDirectives (versioned : Bool) (handles : List (String × String)) (tokens : List Placed) :
    Except Fault (List (String × String) × List Placed) :=
  match tokens with
  | ⟨.versionDirective major minor, mark⟩ :: rest =>
    if versioned then .error ⟨.directiveDuplicate, mark⟩
    else if major ≠ 1 || (minor ≠ 1 && minor ≠ 2) then .error ⟨.versionUnsupported, mark⟩
    else readDirectives true handles rest
  | ⟨.tagDirective handle start, mark⟩ :: rest =>
    if handles.any (·.1 = handle) then .error ⟨.directiveDuplicate, mark⟩
    else readDirectives versioned (handles ++ [(handle, start)]) rest
  | _ => .ok (handles, tokens)

namespace Document

/-- More steps than reading a document of some tokens can take. -/
def steps (tokens : List Placed) : Nat := 4 * tokens.length + 8

def readRoot (explicit : Bool) (handles : List (String × String)) (tokens : List Placed) :
    Except Fault (Node × Reading) :=
  let r : Reading := { tokens, handles := handles ++ knownHandles }
  if !explicit then readNode (steps tokens) true false r
  else if !r.sees [.documentStart] then r.refuse .documentStart
  else if atDocumentEdge r.skip then .ok (emptyNode, r.skip)
  else readNode (steps tokens) true false r.skip

/-- Reads the only document among tokens. -/
def ofTokens? (tokens : List Placed) : Except Fault (Option Document) := do
  if tokens.isEmpty then return none
  let explicit :=
    match tokens.head?.map (·.token) with
    | some (.versionDirective ..) | some (.tagDirective ..) | some .documentStart => true
    | _ => false
  let (handles, tokens) ← readDirectives false [] tokens
  let (root, r) ← readRoot explicit handles tokens
  let after := { r with tokens := r.tokens.dropWhile fun t => t.token = Token.documentEnd }
  if !after.tokens.isEmpty then after.refuse .moreDocuments
  return some ⟨root, r.anchored⟩

def read? (text : String) : Except Fault (Option Document) := do
  ofTokens? (← tokenize text)

def scalar? (d : Document) : Node → Option Scalar
  | .scalar s => some s
  | .alias_ number =>
    match d.anchored.lookup number with
    | some (.scalar s) => some s
    | _ => none
  | _ => none

end Document

end TreeFetch.Yaml
