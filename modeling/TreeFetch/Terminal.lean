/-!
# Text on a terminal

A text may hold control sequences that move the cursor or change colours. `Terminal.visible` is what
is left of a text when these sequences are taken out, and with them all control characters that are
no white space. A sequence begins with an escape character; white space in the middle of a short
one, and the characters cancel and substitute anywhere, break it off.
-/

namespace TreeFetch.Terminal

/-- Where a reader of a text stands. -/
inductive Mode
  /-- Outside of every sequence. -/
  | shown
  /-- After an escape character. -/
  | escape
  /-- After an escape character and characters that announce one more. -/
  | announced
  /-- In a sequence with parameters, which a letter ends. -/
  | parameters
  /-- In a string for the device, which nothing but another sequence ends. -/
  | device
  /-- In a string for the operating system, which a bell ends. -/
  | title
deriving Repr, DecidableEq, Inhabited

/-- Where a reader stands after a character that is not shown. Controls have no meaning here but the
bell, and `c` is neither escape nor cancel nor substitute. -/
def Mode.next (mode : Mode) (c : Char) : Mode :=
  if c < ' ' || c = '\x7f' then if mode = title && c = '\x07' then shown else mode
  else
    match mode with
    | shown => shown
    | escape =>
      if c ≤ '/' then announced
      else if c = '[' then parameters
      else if c = ']' then title
      else if ['P', 'X', '^', '_'].contains c then device
      else shown
    | announced => if c ≤ '/' then announced else shown
    | parameters => if c ≤ '?' then parameters else shown
    | device => device
    | title => title

/-- White space among the control characters. -/
def isBlank (c : Char) : Bool := ['\t', '\n', '\x0c', '\r'].contains c

/-- Whether a character is shown where a reader stands. -/
def Mode.shows (mode : Mode) (c : Char) : Bool :=
  if c > '\x7f' then true
  else if isBlank c then mode ≠ device && mode ≠ title
  else mode = shown && c ≥ ' ' && c ≠ '\x7f'

def visibleChars : Mode → List Char → List Char
  | _, [] => []
  | mode, c :: rest =>
    if c = '\x1b' then visibleChars .escape rest
    else if c = '\x18' || c = '\x1a' then visibleChars .shown rest
    else if mode.shows c then c :: visibleChars .shown rest
    else visibleChars (mode.next c) rest

def visible (text : String) : String := String.ofList (visibleChars .shown text.toList)

end TreeFetch.Terminal
