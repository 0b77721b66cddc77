import TreeFetch.CommandLine.Flag
import TreeFetch.CommandLine.Number
import TreeFetch.Terminal

/-!
# Command lines that begin no run

A command line stops the program when it asks for help or for the version, and when it makes no
sense. What the user wrote appears in the message as a terminal shows it.
-/

namespace TreeFetch.CommandLine

/-- Why a command line begins no run. -/
inductive Stop
  | help
  | version
  /-- A word that is neither a flag nor the value of one. -/
  | unknown (word : String)
  /-- A value for a flag that takes none. -/
  | unneededValue (flag : Flag) (value : String)
  /-- A flag without the value that it takes. -/
  | noValue (flag : Flag)
  /-- A flag that is given again. -/
  | repeated (flag : Flag)
  | wrongValue (flag : Flag) (value : String) (fault : NumberFault)
  /-- A flag that others need and that is not given. -/
  | missing (flag : Flag)
deriving Repr, DecidableEq, Inhabited

def versionText : String := "drive_fetch 0.3.0\n"

/-- The words that show how the program is called. -/
def usage : String := "Usage: dfetch [OPTIONS]"

/-- A flag at the left of its line in the help text. -/
def helpLabel (f : Flag) : String :=
  let letter :=
    match f.letter? with
    | some letter => s!"-{letter}, "
    | none => "    "
  s!"  {letter}{f.shown}"

/-- The line of a flag in the help text. Purposes begin two columns after the longest label. -/
def helpLine (f : Flag) : String :=
  let width := (Flag.all.map fun f => (helpLabel f).length).foldl max 0
  let label := helpLabel f
  let gap := String.ofList (List.replicate (width + 2 - label.length) ' ')
  s!"{label}{gap}{f.purpose}\n"

def helpText : String :=
  "Finds files in a storage tree by pattern and downloads them, " ++
    "optionally rewriting their paths\n\n" ++
    usage ++ "\n\nOptions:\n" ++ String.join (Flag.all.map helpLine)

namespace Stop

def isAnswer : Stop → Bool
  | help | version => true
  | _ => false

def message : Stop → String
  | help => helpText
  | version => versionText
  | unknown word => s!"error: unexpected argument '{Terminal.visible word}' found"
  | unneededValue flag value =>
    let shown := Terminal.visible value
    s!"error: unexpected value '{shown}' for '{flag.shown}' found; no more were expected"
  | noValue flag => s!"error: a value is required for '{flag.shown}' but none was supplied"
  | repeated flag => s!"error: the argument '{flag.shown}' cannot be used multiple times"
  | wrongValue flag value fault =>
    s!"error: invalid value '{Terminal.visible value}' for '{flag.shown}': {fault.message}"
  | missing flag =>
    s!"error: the following required arguments were not provided:\n  {flag.shown}"

def exitCode (s : Stop) : Nat := if s.isAnswer then 0 else 2

end Stop

end TreeFetch.CommandLine
