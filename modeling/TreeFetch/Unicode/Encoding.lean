/-!
# Text as bytes

Texts are written in UTF-8. `decode` reads bytes as a text and names the first fault where they are
none; `decodeLossy` puts the replacement character in the place of each fault. A fault is a sequence
that no character begins with, of the bytes up to the first one that could not follow, or a sequence
that the end of the bytes cuts off.
-/

namespace TreeFetch.Unicode

/-- Why bytes are no text. `index` counts the bytes before the fault. -/
inductive EncodingFault
  /-- `length` bytes that cannot be read. -/
  | invalid (length index : Nat)
  /-- A character that is cut off. -/
  | incomplete (index : Nat)
deriving Repr, DecidableEq, Inhabited

def EncodingFault.message : EncodingFault → String
  | invalid length index => s!"invalid utf-8 sequence of {length} bytes from index {index}"
  | incomplete index => s!"incomplete utf-8 byte sequence from index {index}"

/-- The ranges in which the bytes after a first byte must lie, and the bits that the first byte
gives to the code point; nothing, if no character begins so. -/
def shape? (first : UInt8) : Option (Nat × List (UInt8 × UInt8)) :=
  let rest : UInt8 × UInt8 := (0x80, 0xbf)
  if first < 0x80 then some (first.toNat, [])
  else if first < 0xc2 then none
  else if first < 0xe0 then some (first.toNat - 0xc0, [rest])
  else if first = 0xe0 then some (0, [(0xa0, 0xbf), rest])
  else if first = 0xed then some (0xd, [(0x80, 0x9f), rest])
  else if first < 0xf0 then some (first.toNat - 0xe0, [rest, rest])
  else if first = 0xf0 then some (0, [(0x90, 0xbf), rest, rest])
  else if first < 0xf4 then some (first.toNat - 0xf0, [rest, rest, rest])
  else if first = 0xf4 then some (4, [(0x80, 0x8f), rest, rest])
  else none

/-- What the next bytes are. -/
inductive Reading
  /-- A character, and what follows it. -/
  | char (c : Char) (rest : List UInt8)
  /-- A fault of some length, and what follows it. -/
  | invalid (length : Nat) (rest : List UInt8)
  /-- A character that is cut off. -/
  | incomplete

/-- Reads the bytes after the first one. `code` is what is known of the code point and `length` the
number of bytes read. -/
def readRest (code length : Nat) : List (UInt8 × UInt8) → List UInt8 → Reading
  | [], rest => .char (Char.ofNat code) rest
  | _ :: _, [] => .incomplete
  | (low, high) :: ranges, byte :: rest =>
    if low ≤ byte ∧ byte ≤ high then
      readRest (code * 64 + (byte.toNat - 0x80)) (length + 1) ranges rest
    else .invalid length (byte :: rest)

/-- Reads the next bytes, of which there is at least one. -/
def readChar (first : UInt8) (rest : List UInt8) : Reading :=
  match shape? first with
  | none => .invalid 1 rest
  | some (code, ranges) => readRest code 1 ranges rest

theorem readRest_char {code length : Nat} {ranges : List (UInt8 × UInt8)} {bytes rest : List UInt8}
    {c : Char} (h : readRest code length ranges bytes = .char c rest) :
    rest.length ≤ bytes.length := by
  fun_induction readRest code length ranges bytes with
  | case1 => cases h; exact Nat.le_refl _
  | case2 => cases h
  | case3 _ _ _ _ _ _ _ _ ih => exact Nat.le_succ_of_le (ih h)
  | case4 => cases h

theorem readRest_invalid {code length n : Nat} {ranges : List (UInt8 × UInt8)}
    {bytes rest : List UInt8} (h : readRest code length ranges bytes = .invalid n rest) :
    rest.length ≤ bytes.length := by
  fun_induction readRest code length ranges bytes with
  | case1 => cases h
  | case2 => cases h
  | case3 _ _ _ _ _ _ _ _ ih => exact Nat.le_succ_of_le (ih h)
  | case4 => cases h; exact Nat.le_refl _

theorem readChar_char {first : UInt8} {bytes rest : List UInt8} {c : Char}
    (h : readChar first bytes = .char c rest) : rest.length ≤ bytes.length := by
  unfold readChar at h
  split at h
  · cases h
  · exact readRest_char h

theorem readChar_invalid {first : UInt8} {bytes rest : List UInt8} {n : Nat}
    (h : readChar first bytes = .invalid n rest) : rest.length ≤ bytes.length := by
  unfold readChar at h
  split at h
  · cases h; exact Nat.le_refl _
  · exact readRest_invalid h

/-- The characters that bytes write, after `index` bytes and the characters `before`, the last one
first. -/
def decodeFrom (index : Nat) (before : List Char) (bytes : List UInt8) :
    Except EncodingFault String :=
  match bytes with
  | [] => .ok (String.ofList before.reverse)
  | first :: more =>
    match h : readChar first more with
    | .char c rest =>
      have := readChar_char h
      decodeFrom (index + (more.length + 1 - rest.length)) (c :: before) rest
    | .invalid length _ => .error (.invalid length index)
    | .incomplete => .error (.incomplete index)
termination_by bytes.length

def decode (bytes : List UInt8) : Except EncodingFault String := decodeFrom 0 [] bytes

/-- The character that stands for what cannot be read. -/
def replacement : Char := '\ufffd'

/-- The characters that bytes write, with a replacement for each fault, after the characters
`before`, the last one first. -/
def decodeLossyFrom (before : List Char) (bytes : List UInt8) : String :=
  match bytes with
  | [] => String.ofList before.reverse
  | first :: more =>
    match h : readChar first more with
    | .char c rest =>
      have := readChar_char h
      decodeLossyFrom (c :: before) rest
    | .invalid _ rest =>
      have := readChar_invalid h
      decodeLossyFrom (replacement :: before) rest
    | .incomplete => String.ofList (replacement :: before).reverse
termination_by bytes.length

/-- The text that bytes write, with a replacement for each fault. -/
def decodeLossy (bytes : List UInt8) : String := decodeLossyFrom [] bytes

end TreeFetch.Unicode
