/-!
# Messages

What the program tells its user is a list of records: how serious each one is, which component
speaks, and the text. A verbosity admits the records up to a severity; the order of the records is
never changed.
-/

namespace TreeFetch

/-- How serious a message is, the most serious first. -/
inductive Severity
  | error
  | warn
  | info
  | debug
  | trace
deriving Repr, DecidableEq, Inhabited

namespace Severity

/-- The severity as it is written in a log line. -/
def label : Severity → String
  | error => "ERROR"
  | warn => "WARN"
  | info => "INFO"
  | debug => "DEBUG"
  | trace => "TRACE"

/-- The place of a severity in the order, 0 for the most serious one. -/
def rank : Severity → Nat
  | error => 0
  | warn => 1
  | info => 2
  | debug => 3
  | trace => 4

end Severity

/-- How much the user wants to be told. -/
inductive Verbosity
  | info
  | debug
  | trace
deriving Repr, DecidableEq, Inhabited

namespace Verbosity

/-- The verbosity asked for by giving the verbosity flag a number of times. -/
def ofOccurrences : Nat → Verbosity
  | 0 => info
  | 1 => debug
  | _ => trace

def label : Verbosity → String
  | info => "Info"
  | debug => "Debug"
  | trace => "Trace"

/-- The least serious messages that a verbosity admits. -/
def limit : Verbosity → Severity
  | info => .info
  | debug => .debug
  | trace => .trace

def admits (v : Verbosity) (s : Severity) : Bool := s.rank ≤ v.limit.rank

end Verbosity

/-- A part of the program that speaks. -/
inductive Component
  | program
  | logging
  | settings
  | search
  | localStorage
  | plan
  | engine
deriving Repr, DecidableEq, Inhabited

def Component.label : Component → String
  | program => "dfetch"
  | logging => "drive_fetch::logging"
  | settings => "drive_fetch::config::loader"
  | search => "drive_fetch::storage::search"
  | localStorage => "drive_fetch::storage::local"
  | plan => "drive_fetch::workflow::plan"
  | engine => "drive_fetch::workflow::engine"

structure Record where
  severity : Severity
  component : Component
  message : String
deriving Repr, DecidableEq, Inhabited

def Verbosity.select (v : Verbosity) (records : List Record) : List Record :=
  records.filter fun r => v.admits r.severity

def Record.line (r : Record) : String :=
  s!"{r.severity.label} {r.component.label}] {r.message}"

end TreeFetch
