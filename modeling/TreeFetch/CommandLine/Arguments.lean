import TreeFetch.CommandLine.Reading
import TreeFetch.Config.Document

/-!
# Arguments

`Arguments` is what a command line asks for. No flag but the one for verbosity may be given twice,
and the two flags for transforming paths are given both or not at all. Applied to settings,
arguments replace what they name and keep everything else.
-/

namespace TreeFetch.CommandLine

structure Arguments where
  pattern : Option String := none
  source : Option String := none
  folderId : Option String := none
  /-- The deepest folder level to search, or -1 for no limit. -/
  maxDepth : Option Int := none
  /-- How many files to fetch at most, or 0 for no limit. -/
  maxResults : Option Nat := none
  dryRun : Bool := false
  outputDir : Option String := none
  pathPattern : Option String := none
  pathFormat : Option String := none
  /-- The file to read settings from. -/
  config : Option String := none
  /-- The file to write messages to. -/
  logFile : Option String := none
  /-- How often the flag for verbosity is given. -/
  verbose : Nat := 0
deriving Repr, DecidableEq, Inhabited

/-! ## Values -/

/-- The value of a flag that is given once: it must not have a value `before`, and `read` has to
accept the text. -/
def once {α : Type} (before : Option α) (o : Occurrence) (read : String → Except Stop α) :
    Except Stop (Option α) :=
  match o.value with
  | none => .error (.noValue o.flag)
  | some text => if before.isSome then .error (.repeated o.flag) else (read text).map some

def anyText (text : String) : Except Stop String := .ok text

def filePath (flag : Flag) (text : String) : Except Stop String :=
  if text = "" then .error (.noValue flag) else .ok text

def level (text : String) : Except Stop Int :=
  let checked :=
    (readWhole (greatestLevel + 1) greatestLevel text).bind fun n =>
      if n < -1 then .error (.outside n (-1) greatestLevel) else .ok n
  checked.mapError (.wrongValue .maxDepth text)

def count (text : String) : Except Stop Nat :=
  (readNatural greatestCount text).mapError (.wrongValue .maxResults text)

namespace Arguments

def take (a : Arguments) (o : Occurrence) : Except Stop Arguments :=
  match o.flag with
  | .help => .error .help
  | .version => .error .version
  | .verbose => .ok { a with verbose := a.verbose + 1 }
  | .dryRun => if a.dryRun then .error (.repeated .dryRun) else .ok { a with dryRun := true }
  | .pattern => (once a.pattern o anyText).map fun v => { a with pattern := v }
  | .source => (once a.source o anyText).map fun v => { a with source := v }
  | .folderId => (once a.folderId o anyText).map fun v => { a with folderId := v }
  | .maxDepth => (once a.maxDepth o level).map fun v => { a with maxDepth := v }
  | .maxResults => (once a.maxResults o count).map fun v => { a with maxResults := v }
  | .outputDir => (once a.outputDir o anyText).map fun v => { a with outputDir := v }
  | .pathPattern => (once a.pathPattern o anyText).map fun v => { a with pathPattern := v }
  | .pathFormat => (once a.pathFormat o anyText).map fun v => { a with pathFormat := v }
  | .config => (once a.config o (filePath .config)).map fun v => { a with config := v }
  | .logFile => (once a.logFile o (filePath .logFile)).map fun v => { a with logFile := v }

/-- The flag that is needed beside those that are given. -/
def missing? (a : Arguments) : Option Flag :=
  match a.pathPattern, a.pathFormat with
  | some _, none => some .pathFormat
  | none, some _ => some .pathPattern
  | _, _ => none

def ofOccurrences (given : List Occurrence) : Except Stop Arguments := given.foldlM take {}

/-- What a command line asks for, without the name of the program. -/
def parse (words : List String) : Except Stop Arguments := do
  let reading := Reading.ofWords none words
  let a ← ofOccurrences reading.given
  match reading.stop with
  | some stop => throw stop
  | none =>
    match a.missing? with
    | some flag => throw (.missing flag)
    | none => return a

/-- How much the user wants to be told. -/
def verbosity (a : Arguments) : Verbosity := .ofOccurrences a.verbose

/-- Settings with everything replaced that the arguments name. -/
def apply (env : Config.Environment) (a : Arguments) (c : Config) : Config :=
  { source := (a.source.map (Config.expandPath env)).getD c.source
    folderId := a.folderId.or c.folderId
    pattern := a.pattern.getD c.pattern
    maxDepth :=
      match a.maxDepth with
      | some n => if n < 0 then none else some n.toNat
      | none => c.maxDepth
    maxResults :=
      match a.maxResults with
      | some n => if n = 0 then none else some n
      | none => c.maxResults
    dryRun := a.dryRun || c.dryRun
    outputDir := (a.outputDir.map (Config.expandPath env)).getD c.outputDir
    pathPattern := a.pathPattern.or c.pathPattern
    pathFormat := a.pathFormat.or c.pathFormat }

end Arguments

end TreeFetch.CommandLine
