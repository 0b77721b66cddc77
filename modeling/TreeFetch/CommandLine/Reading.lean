import TreeFetch.CommandLine.Stop

/-!
# From words to flags

A command line is a list of words. A word after two hyphens is the long name of a flag, with a value
after an equals sign if there is one; the characters after one hyphen are letters of flags, of which
the first that takes a value takes the rest of the word. A flag that takes a value and has none in
its own word takes the next word, unless that is made of flags again. Two hyphens alone end the
flags.

A `Reading` holds what is given in its order, up to the first word that cannot be read. A flag with
a value from another word counts only when the word after it can be read.
-/

namespace TreeFetch.CommandLine

/-- A flag in the place where it is given, with its value if it has one there. -/
structure Occurrence where
  flag : Flag
  value : Option String := none
deriving Repr, DecidableEq, Inhabited

/-! ## Words -/

inductive Word
  /-- Two hyphens alone. -/
  | separator
  /-- No flag. -/
  | text (value : String)
  /-- Flags, of which the last one may still need its value. -/
  | flags (given : List Occurrence) (needy : Option Flag)
  /-- Flags, and then something that cannot be read. -/
  | broken (given : List Occurrence) (stop : Stop)
deriving Repr, DecidableEq, Inhabited

namespace Word

/-- A word with one more flag in front. Words without flags are left alone. -/
def cons (o : Occurrence) : Word → Word
  | flags given needy => flags (o :: given) needy
  | broken given stop => broken (o :: given) stop
  | word => word

/-- The word of a long name, with a value if there is one. -/
def ofLong (name : String) (value : Option String) : Word :=
  match Flag.ofLong? name with
  | none => broken [] (.unknown ("--" ++ name))
  | some flag =>
    match value with
    | some value =>
      if flag.takesValue then flags [⟨flag, some value⟩] none
      else broken [] (.unneededValue flag value)
    | none => if flag.takesValue then flags [] (some flag) else flags [⟨flag, none⟩] none

def ofLetters : List Char → Word
  | [] => flags [] none
  | letter :: rest =>
    match Flag.ofLetter? letter with
    | none => broken [] (.unknown s!"-{letter}")
    | some flag =>
      if !flag.takesValue then (ofLetters rest).cons ⟨flag, none⟩
      else
        match rest with
        | [] => flags [] (some flag)
        | '=' :: value => flags [⟨flag, some (String.ofList value)⟩] none
        | value => flags [⟨flag, some (String.ofList value)⟩] none

/-- The long name after two hyphens, with the value after the first equals sign. -/
def splitLong (chars : List Char) : String × Option String :=
  let name := String.ofList (chars.takeWhile (· ≠ '='))
  match chars.dropWhile (· ≠ '=') with
  | [] => (name, none)
  | _ :: value => (name, some (String.ofList value))

def ofText (s : String) : Word :=
  match s.toList with
  | ['-', '-'] => separator
  | '-' :: '-' :: long =>
    let (name, value) := splitLong long
    ofLong name value
  | '-' :: c :: letters => ofLetters (c :: letters)
  | _ => text s

end Word

/-! ## Negative numbers -/

/-- Where a reader of a number stands: `first` at its beginning, then in the digits, then after a
point or after the letter of an exponent. -/
inductive NumberPart
  | first
  | digits
  | fraction
  | exponent
deriving Repr, DecidableEq

/-- Whether characters go on like a number: digits with at most one point and one exponent, neither
of them first, and the exponent not last. -/
def looksNumeric : NumberPart → List Char → Bool
  | _, [] => true
  | part, c :: rest =>
    if c.isDigit then looksNumeric (if part = .first then .digits else part) rest
    else if c = '.' && part = .digits then looksNumeric .fraction rest
    else if c = 'e' && (part = .digits || part = .fraction) then
      !rest.isEmpty && looksNumeric .exponent rest
    else false

def isNegativeNumber (word : String) : Bool :=
  match word.toList with
  | '-' :: c :: rest => looksNumeric .first (c :: rest)
  | _ => false

/-! ## Command lines -/

/-- What is given on a command line, and why the rest of it cannot be read, if so. -/
structure Reading where
  given : List Occurrence
  stop : Option Stop
deriving Repr, DecidableEq, Inhabited

namespace Reading

def after (earlier : List Occurrence) (r : Reading) : Reading :=
  { r with given := earlier ++ r.given }

/-- What a word says after the flag that was given last, if that one got no value in its own
word. -/
def wordAfter (last : Option Occurrence) (word : String) : Word :=
  match last with
  | some ⟨flag, none⟩ =>
    if flag.takesNegative && isNegativeNumber word then .text word else .ofText word
  | _ => .ofText word

/-- Reads words. `last` is the flag that was given last if its value is not in its own word; it
counts when the word after it can be read. -/
def ofWords (last : Option Occurrence) : List String → Reading
  | [] => ⟨last.toList, none⟩
  | word :: rest =>
    match wordAfter last word with
    | .separator =>
      match rest with
      | [] => ⟨last.toList, none⟩
      | stray :: _ => ⟨[], some (.unknown stray)⟩
    | .text value =>
      match last with
      | some ⟨flag, none⟩ => ofWords (some ⟨flag, some value⟩) rest
      | _ => ⟨[], some (.unknown value)⟩
    | .flags given needy =>
      (ofWords (needy.map fun flag => ⟨flag, none⟩) rest).after (last.toList ++ given)
    | .broken [] stop => ⟨[], some stop⟩
    | .broken given stop => ⟨last.toList ++ given, some stop⟩

end Reading

end TreeFetch.CommandLine
