import TreeFetch.Config
import TreeFetch.Unicode.Encoding

/-!
# Why the program gives up

An `Error` concerns one step. A `Failure` ends the whole run: an error, alone or with the words that
say where it arose, or something that is wrong with what the user asked for.
-/

namespace TreeFetch

/-- Why a run ends without a report. -/
inductive Failure
  | failed (e : Error)
  | transformer (e : Error)
  | invalidConfig (problem : Config.Problem)
  /-- The output directory is the storage root. -/
  | outputIsRoot (directory : String)
  /-- The folders of the storage contain one another without end. -/
  | endlessWalk
  | configMissing (file : String)
  | configUnreadable (file reason : String)
  | configNotText (file : String) (fault : Unicode.EncodingFault)
deriving Repr, DecidableEq, Inhabited

namespace Failure

def message : Failure → String
  | failed e => e.message
  | transformer _ => "Error creating path transformer"
  | invalidConfig problem => problem.message
  | outputIsRoot directory => s!"Output directory {directory} must not be the storage root"
  | endlessWalk => "Folders of the storage contain one another"
  | configMissing file => s!"Configuration file does not exist: {file}"
  | configUnreadable file reason => s!"Failed to read configuration file {file}: {reason}"
  | configNotText file fault =>
    s!"Configuration file {file} contains invalid UTF-8 characters: {fault.message}"

def error? : Failure → Option Error
  | failed e | transformer e => some e
  | _ => none

/-- A failure with everything that lies below it, from the outside in. -/
def fullMessage : Failure → String
  | failed e => e.fullMessage
  | transformer e => s!"{message (transformer e)}: {e.fullMessage}"
  | failure => failure.message

end Failure

end TreeFetch
