import TreeFetch.CommandLine.Arguments
import TreeFetch.Config.File
import TreeFetch.Fetch
import TreeFetch.Journal
import TreeFetch.Storage.Local

/-!
# The program

The program reads its command line, opens the log file, finds its settings, lets the command line
replace some of them, opens the storage and fetches. It succeeds if every step does and nothing goes
wrong with a single file. Why it gives up is the last message that it tells. The log file may lie in
the storage; so everything happens in the file system that the messages before have left.
-/

namespace TreeFetch

namespace Program

/-- What the program leaves behind. -/
structure Exit where
  code : Nat
  /-- What is written to the standard output. -/
  output : String := ""
  /-- What is written to the standard error stream. -/
  complaint : String := ""
  fs : FileSystem

def greeting (v : Verbosity) : Record :=
  ⟨.debug, .logging, s!"Logger initialized with verbosity level: {v.label}"⟩

/-- The last message of a session that fails. -/
def farewell (failure : Failure) : Record := ⟨.error, .program, failure.fullMessage⟩

/-- Checks settings after the arguments have replaced some of them, and opens the storage. -/
def prepare (env : Config.Environment) (a : CommandLine.Arguments) (fs : FileSystem)
    (base : Config) : Except Failure (Storage.Local × Config) :=
  let config := a.apply env base
  match config.problem? with
  | some problem => .error (.invalidConfig problem)
  | none =>
    match Storage.Local.ofRoot fs config.source with
    | .error e => .error (.failed e)
    | .ok store => .ok (store, config)

/-- What happens between the first message and the last. -/
structure Session where
  result : Except Failure Report
  records : List Record
  fs : FileSystem

/-- Finds the settings and fetches, once the log file is open. -/
def session (env : Config.Environment) (a : CommandLine.Arguments) (j : Journal)
    (fs : FileSystem) : Session :=
  let loaded := Config.resolve env fs a.config
  let noted := j.tellAll fs loaded.notes
  match loaded.result.bind (prepare env a noted) with
  | .error failure => ⟨.error failure, loaded.notes, noted⟩
  | .ok (store, config) =>
    let ending := fetchWith j.tell (store.clientWith j.tell) noted config
    ⟨ending.result, loaded.notes ++ Storage.Event.records ending.events, ending.state⟩

def Session.succeeds (s : Session) : Bool :=
  match s.result with
  | .ok report => !report.hasErrors
  | .error _ => false

/-- A session from the first message to the last. -/
def whole (env : Config.Environment) (a : CommandLine.Arguments) (j : Journal)
    (fs : FileSystem) : Exit :=
  let first := greeting j.verbosity
  let s := session env a j (j.tell fs first)
  let last :=
    match s.result with
    | .ok _ => []
    | .error failure => [farewell failure]
  { code := if s.succeeds then 0 else 1
    output := j.console (first :: s.records ++ last)
    fs := j.tellAll s.fs last }

/-- What the program leaves behind when no session begins. -/
def halt (stop : CommandLine.Stop) (fs : FileSystem) : Exit :=
  if stop.isAnswer then { code := stop.exitCode, output := stop.message, fs }
  else
    let hint := "For more information, try '--help'."
    { code := stop.exitCode, complaint := s!"{stop.message}\n\n{hint}\n", fs }

/-- What the program leaves behind when the log file cannot be opened. -/
def unopened (file : Option String) (fault : FileSystem.Fault) (fs : FileSystem) : Exit :=
  let path := file.getD ""
  let reason := s!"Failed to open log file {path}: {fault.message}"
  { code := 1, complaint := s!"Failed to initialise logger: {reason}\n", fs }

/-- Runs the program with the words of its command line. -/
def run (env : Config.Environment) (fs : FileSystem) (words : List String) : Exit :=
  match CommandLine.Arguments.parse words with
  | .error stop => halt stop fs
  | .ok a =>
    match Journal.start fs a.verbosity a.logFile with
    | .error fault => unopened a.logFile fault fs
    | .ok (j, fs) => whole env a j fs

end Program

end TreeFetch
