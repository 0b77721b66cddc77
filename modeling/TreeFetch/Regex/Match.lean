import TreeFetch.Regex.Program
import TreeFetch.Unicode.Property

/-!
# Finding a match

The leftmost match is looked for, and among the matches that begin there the one that the program
prefers. A search visits each pair of an instruction and a position at most once, also over all
starting positions: a pair that did not lead to a match before does not lead to one later. The
number of pairs not visited yet is what makes `Search.run` end.
-/

namespace TreeFetch.Regex

open Unicode (CharSet)

/-! ## Conditions -/

/-- Whether a character belongs to a word, among all characters or in ASCII. -/
def isWordChar (unicode : Bool) (c : Char) : Bool :=
  if unicode then Unicode.wordChar.contains c else c.isAlphanum || c = '_'

/-- Whether a condition holds between the characters `before` and `after`, of which one is missing
at an end of the text. -/
def Look.holds (condition : Look) (before after : Option Char) : Bool :=
  let wordBefore (unicode : Bool) := before.any (isWordChar unicode)
  let wordAfter (unicode : Bool) := after.any (isWordChar unicode)
  match condition with
  | .textStart => before.isNone
  | .textEnd => after.isNone
  | .lineStart => before.all (· = '\n')
  | .lineEnd => after.all (· = '\n')
  | .lineStartCrlf =>
    before.isNone || before = some '\n' || (before = some '\r' && after ≠ some '\n')
  | .lineEndCrlf =>
    after.isNone || after = some '\r' || (after = some '\n' && before ≠ some '\r')
  | .word u => wordBefore u != wordAfter u
  | .notWord u => wordBefore u == wordAfter u
  | .wordStart u => !wordBefore u && wordAfter u
  | .wordEnd u => wordBefore u && !wordAfter u
  | .wordStartHalf u => !wordBefore u
  | .wordEndHalf u => !wordAfter u

/-! ## The search -/

/-- Where groups begin and end, by slot: `2 * i` is where group `i` begins and `2 * i + 1` where it
ends. -/
abbrev Slots := Array (Option Nat)

/-- A place in the program and in the text, with the groups found on the way. -/
structure Thread where
  pc : Nat
  pos : Nat
  slots : Slots
deriving Inhabited

namespace Search

/-- The threads that one instruction leads to, in the order of preference. -/
def successors (text : Array Char) (instr : Instr) (t : Thread) : List Thread :=
  match instr with
  | .accept => []
  | .char c next => if text[t.pos]? = some c then [{ t with pc := next, pos := t.pos + 1 }] else []
  | .set members next =>
    if text[t.pos]?.any members.contains then [{ t with pc := next, pos := t.pos + 1 }] else []
  | .look condition next =>
    let before := if t.pos = 0 then none else text[t.pos - 1]?
    if condition.holds before text[t.pos]? then [{ t with pc := next }] else []
  | .save slot next =>
    [{ t with pc := next, slots := t.slots.setIfInBounds slot (some t.pos) }]
  | .choice targets => targets.map fun target => { t with pc := target }

/-- Follows the pending threads, the first one first, until one is accepted. `unvisited` bounds the
number of pairs that are still to be visited. The second part is what has been visited then. -/
def run (program : Program) (text : Array Char) (unvisited : Nat) (visited : ByteArray)
    (pending : List Thread) : Option Thread × ByteArray :=
  match pending with
  | [] => (none, visited)
  | t :: rest =>
    let cell := t.pc * (text.size + 1) + t.pos
    if visited.get! cell ≠ 0 then run program text unvisited visited rest
    else
      match unvisited with
      | 0 => (none, visited)
      | unvisited + 1 =>
        let visited := visited.set! cell 1
        match program.code[t.pc]? with
        | none => run program text unvisited visited rest
        | some .accept => (some t, visited)
        | some instr => run program text unvisited visited (successors text instr t ++ rest)
termination_by (unvisited, pending.length)

/-- Looks for a match from position `pos` on, at `left` starting positions. -/
def from_ (program : Program) (text : Array Char) (slots : Slots) (visited : ByteArray)
    (pos : Nat) : (left : Nat) → Option Thread
  | 0 => none
  | left + 1 =>
    let thread : Thread := ⟨program.start, pos, slots.setIfInBounds 0 (some pos)⟩
    match run program text visited.size visited [thread] with
    | (some t, _) => some { t with slots := t.slots.setIfInBounds 1 (some t.pos) }
    | (none, visited) => from_ program text slots visited (pos + 1) left

end Search

/-- The slots of the preferred match of a program with the given number of groups in a text. -/
def Program.find (program : Program) (groups : Nat) (text : Array Char) : Option Slots :=
  let cells := program.code.size * (text.size + 1)
  let visited : ByteArray := ⟨Array.replicate cells 0⟩
  let slots : Slots := Array.replicate (2 * (groups + 1)) none
  (Search.from_ program text slots visited 0 (text.size + 1)).map (·.slots)

end TreeFetch.Regex
