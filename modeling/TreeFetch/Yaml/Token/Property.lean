import TreeFetch.Yaml.Cursor
import TreeFetch.Yaml.Token

/-!
# Anchors, tags and directives

What may stand before a node, to name it or to tell its kind, and before a document.
-/

namespace TreeFetch.Yaml

/-! ## Anchors -/

def readAnchor (isAlias : Bool) (c : Cursor) : Except Fault (Token × Cursor) :=
  let name := c.skip.taken isWord
  let after := c.skip.skip name.length
  let ends :=
    after.spacingAt 0 || after.next (['?', ':', ',', ']', '\x7d', '%', '@', '\x60'].contains ·)
  if name.isEmpty || !ends then after.refuse .anchorName
  else
    let name := String.ofList name
    .ok (if isAlias then .alias_ name else .anchor name, after)

/-! ## Tags -/

/-- Whether a character may be in the text of a tag; some only between angle brackets. -/
def isTagText (bracketed : Bool) (c : Char) : Bool :=
  isWord c || ";/?:@&=+$.%!~*'()".toList.contains c ||
    (bracketed && (c = ',' || c = '[' || c = ']'))

/-- The number of bytes of a character that begins with a byte. -/
def utf8Width (byte : Nat) : Nat :=
  if byte < 0x80 then 1 else if 0xc0 ≤ byte ∧ byte < 0xe0 then 2
  else if 0xe0 ≤ byte ∧ byte < 0xf0 then 3 else if 0xf0 ≤ byte ∧ byte < 0xf8 then 4 else 0

/-- The byte that a percent sign and two hexadecimal digits write. -/
def percentByte? (c : Cursor) : Option Nat :=
  match c.rest with
  | '%' :: high :: low :: _ => do return (← hexValue? high) * 16 + (← hexValue? low)
  | _ => none

/-- Reads `count` more bytes of a character that is written byte by byte. -/
def percentRest (code : Nat) (c : Cursor) : (count : Nat) → Except Fault (Char × Cursor)
  | 0 => .ok (Char.ofNat code, c)
  | count + 1 =>
    match percentByte? c with
    | some byte =>
      if byte / 64 = 2 then percentRest (code * 64 + byte % 64) (c.skip 3) count
      else c.refuse .tagEscape
    | none => c.refuse .tagEscape

/-- Reads a character that is written byte by byte. -/
def percentChar (c : Cursor) : Except Fault (Char × Cursor) :=
  match percentByte? c with
  | none => c.refuse .tagEscape
  | some byte =>
    match utf8Width byte with
    | 0 => c.refuse .tagEscape
    | 1 => .ok (Char.ofNat byte, c.skip 3)
    | width + 2 => percentRest (byte % (32 >>> width)) (c.skip 3) (width + 1)

/-- Reads the text of a tag. `before` is the text read so far, the last character first. -/
def tagText (bracketed : Bool) (before : List Char) (c : Cursor) :
    Except Fault (List Char × Cursor) :=
  match c.rest with
  | [] => .ok (before.reverse, c)
  | a :: _ =>
    if !isTagText bracketed a then .ok (before.reverse, c)
    else
      let step : Except Fault (Char × Cursor) := if a = '%' then percentChar c else .ok (a, c.skip)
      match step with
      | .error fault => .error fault
      | .ok (meant, after) =>
        if _h : after.size < c.size then tagText bracketed (meant :: before) after
        else .ok (before.reverse, c)
termination_by c.size

/-- Reads the handle of a tag: an exclamation mark, and perhaps a word and one more. -/
def tagHandle (c : Cursor) : Except Fault (List Char × Cursor) :=
  if !c.looksAt '!' then c.refuse .tagHandle
  else
    let word := c.skip.taken isWord
    let after := c.skip (1 + word.length)
    if after.looksAt '!' then .ok ('!' :: word ++ ['!'], after.skip) else .ok ('!' :: word, after)

/-- Whether a handle ends with an exclamation mark of its own. -/
def isClosedHandle (handle : List Char) : Bool := handle.length > 1 && handle.getLast? = some '!'

def readTag (flow : Bool) (c : Cursor) : Except Fault (Token × Cursor) := do
  let (handle, suffix, after) : List Char × List Char × Cursor ←
    if c.peekAt? 1 = some '<' then do
      let (text, after) ← tagText true [] (c.skip 2)
      if text.isEmpty then after.refuse .tagText
      if !after.looksAt '>' then after.refuse .tagEnd
      pure ([], text, after.skip)
    else do
      let (handle, after) ← tagHandle c
      let (text, end_) ← tagText false [] after
      if isClosedHandle handle then
        if text.isEmpty then end_.refuse .tagText
        pure (handle, text, end_)
      else
        let suffix := handle.drop 1 ++ text
        pure (if suffix.isEmpty then ([], ['!'], end_) else (['!'], suffix, end_))
  if after.spacingAt 0 || (flow && after.looksAt ',') then
    return (.tag (String.ofList handle) (String.ofList suffix), after)
  else after.refuse .tagEnd

/-! ## Directives -/

/-- The number that up to nine digits write. -/
def directiveNumber (c : Cursor) : Except Fault (Nat × Cursor) :=
  let digits := c.taken Char.isDigit
  if digits.isEmpty || digits.length > 9 then c.refuse .directiveVersion
  else .ok (digits.foldl (fun n d => n * 10 + (d.toNat - '0'.toNat)) 0, c.skip digits.length)

def versionDirective (c : Cursor) : Except Fault (Token × Cursor) := do
  let (major, c) ← directiveNumber (c.skipWhile isBlank)
  if !c.looksAt '.' then c.refuse .directiveVersion
  let (minor, c) ← directiveNumber c.skip
  return (.versionDirective major minor, c)

/-- Reads the handle and what it stands for after the name of a directive. -/
def tagDirective (c : Cursor) : Except Fault (Token × Cursor) := do
  let (handle, c) ← tagHandle (c.skipWhile isBlank)
  if handle ≠ ['!'] && !isClosedHandle handle then c.refuse .tagHandle
  if !c.next isBlank then c.refuse .tagEnd
  let (start, c) ← tagText true [] (c.skipWhile isBlank)
  if start.isEmpty then c.refuse .tagText
  if !c.spacingAt 0 then c.refuse .tagEnd
  return (.tagDirective (String.ofList handle) (String.ofList start), c)

def readDirective (c : Cursor) : Except Fault (Token × Cursor) := do
  let name := c.skip.taken isWord
  let after := c.skip (1 + name.length)
  if name.isEmpty || !after.spacingAt 0 then after.refuse .directiveName
  let (token, after) ←
    if name = "YAML".toList then versionDirective after
    else if name = "TAG".toList then tagDirective after
    else after.refuse .directiveUnknown
  let after := (after.skipWhile isBlank).skipComment
  if !after.lineEnds then after.refuse .directiveEnd
  return (token, after.skipBreak)

end TreeFetch.Yaml
