import TreeFetch.Regex.Error
import TreeFetch.Regex.Syntax
import TreeFetch.Unicode.Property

/-!
# Reading the small parts of a pattern

A `Reader` is the unread text of a pattern together with the verbose switch, under which white space
and comments between the parts of a pattern are skipped. The functions here read one small part
each: a decimal number, a group name, flags, an escape. Each loop ends because the unread text gets
shorter (`Reader.length_advance_le`).
-/

namespace TreeFetch.Regex

open Unicode (isWhiteSpace isAlphabetic isAlphanumeric)

/-- The unread text of a pattern. Under `verbose`, white space and comments are skipped. -/
structure Reader where
  rest : List Char
  verbose : Bool
deriving Repr, Inhabited

/-- Drops white space and comments in front. A comment runs from `#` to the end of its line. -/
def dropBlanks (inComment : Bool) : List Char → List Char
  | [] => []
  | c :: cs =>
    if inComment then dropBlanks (c ≠ '\n') cs
    else if isWhiteSpace c then dropBlanks false cs
    else if c = '#' then dropBlanks true cs
    else c :: cs

theorem length_dropBlanks_le (inComment : Bool) (cs : List Char) :
    (dropBlanks inComment cs).length ≤ cs.length := by
  induction cs generalizing inComment with
  | nil => simp [dropBlanks]
  | cons c cs ih =>
    have h (b : Bool) : (dropBlanks b cs).length ≤ cs.length + 1 := Nat.le_succ_of_le (ih b)
    unfold dropBlanks
    repeat' split
    all_goals first | exact h _ | simp

namespace Reader

/-- Skips white space and comments, if the reader is verbose. -/
def skip (r : Reader) : Reader :=
  if r.verbose then { r with rest := dropBlanks false r.rest } else r

/-- Goes on at `cs`, past white space and comments if the reader is verbose. -/
def advance (r : Reader) (cs : List Char) : Reader := { r with rest := cs }.skip

theorem length_advance_le (r : Reader) (cs : List Char) :
    (r.advance cs).rest.length ≤ cs.length := by
  unfold advance skip
  split
  · exact length_dropBlanks_le false cs
  · exact Nat.le_refl _

/-- The character that decides whether a dash in brackets makes a range: the one after the dash.
In a verbose pattern white space, and one `#`, in between are passed over. -/
def afterDash (r : Reader) (cs : List Char) : Option Char :=
  if r.verbose then
    let past := (cs.dropWhile isWhiteSpace)
    match past with
    | '#' :: more =>
      match more.dropWhile isWhiteSpace with
      | [] => cs.head?
      | c :: _ => some c
    | [] => cs.head?
    | c :: _ => some c
  else cs.head?

/-! ## Numbers -/

def digits (r : Reader) : List Char × Reader :=
  match h : r.rest with
  | [] => ([], r)
  | c :: cs =>
    if c.isDigit then
      have : (r.advance cs).rest.length < r.rest.length := by
        have := length_advance_le r cs
        rw [h, List.length_cons]
        omega
      let (more, end_) := digits (r.advance cs)
      (c :: more, end_)
    else ([], r)
termination_by r.rest.length

def decimalValue (ds : List Char) : Nat :=
  ds.foldl (fun n c => n * 10 + (c.toNat - '0'.toNat)) 0

/-- The largest count that a repetition may name. -/
def maxCount : Nat := 4294967295

/-- Reads a count, with white space around it. The second part is where reading goes on, also when
there is no count. -/
def count (r : Reader) : Except SyntaxError Nat × Reader :=
  let (ds, r) := digits { r with rest := r.rest.dropWhile isWhiteSpace }
  let r := { r with rest := r.rest.dropWhile isWhiteSpace }
  if ds.isEmpty then (.error .repetitionCountMissing, r)
  else if decimalValue ds ≤ maxCount then (.ok (decimalValue ds), r)
  else (.error .decimalInvalid, r)

end Reader

/-! ## Group names -/

/-- Whether a character may stand in a group name, `first` of all or later. -/
def isNameChar (first : Bool) (c : Char) : Bool :=
  if first then c = '_' || isAlphabetic c
  else c = '_' || c = '.' || c = '[' || c = ']' || isAlphanumeric c

/-- Reads a group name and the bracket that closes it. -/
def readName (first : Bool) : List Char → Except SyntaxError (List Char × List Char)
  | [] => .error .groupNameUnclosed
  | c :: cs =>
    if c = '>' then .ok ([], cs)
    else if isNameChar first c then
      match readName false cs with
      | .ok (name, rest) => .ok (c :: name, rest)
      | .error e => .error e
    else .error .groupNameInvalid

/-! ## Flags -/

def Flag.ofChar? : Char → Option Flag
  | 'i' => some .ignoreCase
  | 'm' => some .multiLine
  | 's' => some .dotMatchesNewLine
  | 'U' => some .swapGreed
  | 'u' => some .unicode
  | 'R' => some .crlf
  | 'x' => some .verbose
  | _ => none

/-- Reads flags up to the colon or the parenthesis that ends them, and gives that character too.
`negated` tells that the dash has been read, `dangling` that nothing has followed it yet. -/
def readFlags (change : FlagChange) (negated dangling : Bool) :
    List Char → Except SyntaxError (FlagChange × Char × List Char)
  | [] => .error .flagUnfinished
  | c :: cs =>
    if c = ':' || c = ')' then
      if dangling then .error .flagDanglingNegation else .ok (change, c, cs)
    else if c = '-' then
      if negated then .error .flagRepeatedNegation else readFlags change true true cs
    else
      match Flag.ofChar? c with
      | none => .error .flagUnrecognized
      | some flag =>
        if (change.state? flag).isSome then .error .flagDuplicate
        else if negated then readFlags { change with off := flag :: change.off } negated false cs
        else readFlags { change with on := flag :: change.on } negated false cs

/-! ## Escapes -/

/-- Whether a character has a meaning of its own in patterns. -/
def isMeta (c : Char) : Bool := "\\.+*?()|[]\x7b\x7d^$#&-~".contains c

/-- Whether a backslash may stand in front of a character without giving it another meaning: any
ASCII character but letters, digits and angle brackets. -/
def isEscapable (c : Char) : Bool :=
  isMeta c || (c.toNat < 0x80 && !c.isAlphanum && c ≠ '<' && c ≠ '>')

def hexDigit? (c : Char) : Option Nat :=
  if c.isDigit then some (c.toNat - '0'.toNat)
  else if 'a' ≤ c && c ≤ 'f' then some (c.toNat - 'a'.toNat + 10)
  else if 'A' ≤ c && c ≤ 'F' then some (c.toNat - 'A'.toNat + 10)
  else none

/-- The character with the given code point, if it is one. -/
def scalar? (n : Nat) : Except SyntaxError Char :=
  if n.isValidChar then .ok (Char.ofNat n) else .error .hexNotScalar

/-- Reads exactly `more` further hexadecimal digits after those that write `value`. -/
def readHexDigits (r : Reader) (value : Nat) : Nat → Except SyntaxError (Nat × Reader)
  | 0 => .ok (value, r)
  | more + 1 =>
    match r.rest with
    | [] => .error .escapeUnfinished
    | c :: cs =>
      match hexDigit? c with
      | none => .error .hexDigitInvalid
      | some d => readHexDigits (r.advance cs) (value * 16 + d) more

/-- Reads hexadecimal digits up to the closing brace. -/
def readHexBraces (r : Reader) (value : Option Nat) : Except SyntaxError (Char × Reader) :=
  match h : r.rest with
  | [] => .error .escapeUnfinished
  | c :: cs =>
    have : (r.advance cs).rest.length < r.rest.length := by
      have := Reader.length_advance_le r cs
      rw [h, List.length_cons]
      omega
    if c = '\x7d' then
      match value with
      | none => .error .hexEmpty
      | some n => (scalar? n).map fun ch => (ch, r.advance cs)
    else
      match hexDigit? c with
      | none => .error .hexDigitInvalid
      | some d => readHexBraces (r.advance cs) (some (value.getD 0 * 16 + d))
termination_by r.rest.length

/-- Reads the digits of a hexadecimal escape: between braces, or as many as `width` says. -/
def readHex (r : Reader) (width : Nat) : Except SyntaxError (Literal × Reader) :=
  match r.rest with
  | [] => .error .escapeUnfinished
  | '\x7b' :: cs => (readHexBraces (r.advance cs) none).map fun (c, r) => (⟨c, false⟩, r)
  | _ => do
    let (n, r) ← readHexDigits r 0 width
    let c ← scalar? n
    return (⟨c, width = 2⟩, r)

/-- Reads the name of a property up to the closing brace. -/
def readPropertyName (r : Reader) (name : List Char) : Except SyntaxError (String × Reader) :=
  match h : r.rest with
  | [] => .error .escapeUnfinished
  | c :: cs =>
    have : (r.advance cs).rest.length < r.rest.length := by
      have := Reader.length_advance_le r cs
      rw [h, List.length_cons]
      omega
    if c = '\x7d' then .ok (String.ofList name.reverse, { r with rest := cs })
    else readPropertyName (r.advance cs) (c :: name)
termination_by r.rest.length

/-- Splits a text at the first place where `sep` stands. -/
def splitAtFirst? (sep : List Char) : List Char → Option (List Char × List Char)
  | [] => none
  | c :: cs =>
    if sep.isPrefixOf (c :: cs) then some ([], (c :: cs).drop sep.length)
    else (splitAtFirst? sep cs).map fun (before, after) => (c :: before, after)

/-- The query that stands between the braces of `\p`. A value may be joined to its property by `!=`,
by a colon or by an equals sign, looked for in this order. -/
def PropertyQuery.ofText (text : String) : PropertyQuery :=
  let at? (sep : String) := splitAtFirst? sep.toList text.toList
  match ((at? "!=").orElse fun _ => at? ":").orElse fun _ => at? "=" with
  | some (property, wanted) => .value (String.ofList property) (String.ofList wanted)
  | none => .name text

def readProperty (r : Reader) : Except SyntaxError (PropertyQuery × Reader) :=
  match r.rest with
  | [] => .error .escapeUnfinished
  | '\x7b' :: cs =>
    (readPropertyName (r.advance cs) []).map fun (name, r) => (.ofText name, r)
  | '\\' :: _ => .error .propertyClassInvalid
  | c :: cs => .ok (.name (String.singleton c), r.advance cs)

/-- Reads letters and dashes up to the closing brace of a word boundary. -/
def readBoundaryName (r : Reader) (name : List Char) : Except SyntaxError (String × Reader) :=
  match h : r.rest with
  | [] => .error .wordBoundaryUnclosed
  | c :: cs =>
    have : (r.advance cs).rest.length < r.rest.length := by
      have := Reader.length_advance_le r cs
      rw [h, List.length_cons]
      omega
    if c = '\x7d' then .ok (String.ofList name.reverse, { r with rest := cs })
    else if c.isAlpha || c = '-' then readBoundaryName (r.advance cs) (c :: name)
    else .error .wordBoundaryUnclosed
termination_by r.rest.length

/-- Reads what follows `\b`: a brace with a name in it makes a special word boundary. A brace with
anything else in it is left for the repetition that it opens. -/
def readBoundary (r : Reader) : Except SyntaxError (Assertion × Reader) :=
  match r.rest with
  | '\x7b' :: cs =>
    let inner := r.advance cs
    match inner.rest with
    | [] => .error .wordBoundaryUnfinished
    | c :: _ =>
      if c.isAlpha || c = '-' then do
        let (name, r) ← readBoundaryName inner []
        match name with
        | "start" => return (.wordStart, r)
        | "end" => return (.wordEnd, r)
        | "start-half" => return (.wordStartHalf, r)
        | "end-half" => return (.wordEndHalf, r)
        | _ => .error .wordBoundaryUnrecognized
      else .ok (.wordBoundary, r)
  | _ => .ok (.wordBoundary, r)

def readEscape (r : Reader) : Except SyntaxError (Atom × Reader) :=
  match r.rest with
  | [] => .error .escapeUnfinished
  | c :: cs =>
    let next : Reader := { r with rest := cs }
    let plain (ch : Char) : Except SyntaxError (Atom × Reader) :=
      .ok (.literal ⟨ch, false⟩, next)
    let assertion (kind : Assertion) : Except SyntaxError (Atom × Reader) :=
      .ok (.assertion kind, next)
    let short (kind : ShortClass) (negated : Bool) : Except SyntaxError (Atom × Reader) :=
      .ok (.short kind negated, next)
    let property (negated : Bool) : Except SyntaxError (Atom × Reader) :=
      (readProperty (r.advance cs)).map fun (query, r) => (.property query negated, r)
    let hex (width : Nat) : Except SyntaxError (Atom × Reader) :=
      (readHex (r.advance cs) width).map fun (lit, r) => (.literal lit, r)
    if c.isDigit then .error .backreference
    else if isEscapable c then plain c
    else
      match c with
      | 'x' => hex 2
      | 'u' => hex 4
      | 'U' => hex 8
      | 'p' => property false
      | 'P' => property true
      | 'd' => short .digit false
      | 'D' => short .digit true
      | 's' => short .space false
      | 'S' => short .space true
      | 'w' => short .word false
      | 'W' => short .word true
      | 'a' => plain '\x07'
      | 'f' => plain '\x0c'
      | 't' => plain '\t'
      | 'n' => plain '\n'
      | 'r' => plain '\r'
      | 'v' => plain '\x0b'
      | 'A' => assertion .textStart
      | 'z' => assertion .textEnd
      | 'B' => assertion .notWordBoundary
      | '<' => assertion .wordStart
      | '>' => assertion .wordEnd
      | 'b' => (readBoundary next).map fun (kind, r) => (.assertion kind, r)
      | _ => .error .escapeUnrecognized

end TreeFetch.Regex
