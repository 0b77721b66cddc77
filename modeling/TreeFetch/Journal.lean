import TreeFetch.FileSystem.Change
import TreeFetch.Log

/-!
# Log files

A `Journal` knows which messages are told and the log file that keeps them, if there is one. The log
file is opened before anything else happens, and every message is added at its end when it is told,
whatever became of the file in the meantime. This renews the time of the file.
-/

namespace TreeFetch

/-- Where messages are kept. -/
structure Journal where
  verbosity : Verbosity
  /-- The place of the log file. -/
  file : Option FileSystem.Location := none
deriving Repr, DecidableEq, Inhabited

namespace Journal

/-- Opens the log file, which is created if it does not exist. -/
def start (fs : FileSystem) (verbosity : Verbosity) (file : Option String) :
    Except FileSystem.Fault (Journal × FileSystem) :=
  match file with
  | none => .ok (⟨verbosity, none⟩, fs)
  | some path => (fs.openFile path).map fun (at_, fs) => (⟨verbosity, some at_⟩, fs)

/-- The line of a record that is told at a time. -/
def line (t : Time) (r : Record) : String := s!"[{t.stamp} {r.line}\n"

def tell (j : Journal) (fs : FileSystem) (r : Record) : FileSystem :=
  match j.file with
  | none => fs
  | some at_ =>
    if !j.verbosity.admits r.severity then fs
    else
      match fs.tree.node? at_ with
      | some (.file content _) => fs.overwrite at_ (content ++ (line fs.clock r).toUTF8)
      | _ => fs

def tellAll (j : Journal) (fs : FileSystem) (records : List Record) : FileSystem :=
  records.foldl j.tell fs

def console (j : Journal) (records : List Record) : String :=
  String.join ((j.verbosity.select records).map fun r => r.message ++ "\n")

end Journal

end TreeFetch
