import TreeFetch.Config.Document
import TreeFetch.Failure
import TreeFetch.FileSystem.Basic

/-!
# Configuration files

The settings come from the file that the user names, or else from the one in the user's
configuration directory, or else they are the defaults. A file that is named has to exist.
-/

namespace TreeFetch.Config

/-- The place of the default configuration file, whether or not there is one. A configuration
directory counts only if its path begins at the root. -/
def defaultFile? (env : Environment) : Option String :=
  let chosen := env.configHome.filter fun path => path.front = '/'
  let directory := chosen.or (env.home.map fun home => PathText.push home ".config")
  directory.map fun path => PathText.pushAll path ["drive_fetch", "config.yaml"]

def defaultPath? (env : Environment) (fs : FileSystem) : Option String :=
  (defaultFile? env).filter fs.isFile

def say (message : String) : Record := ⟨.debug, .settings, message⟩

def load (env : Environment) (fs : FileSystem) (file : String) : Except Failure Config :=
  match fs.readFile file with
  | .error fault => .error (.configUnreadable file fault.message)
  | .ok content =>
    match Unicode.decode content.toList with
    | .error fault => .error (.configNotText file fault)
    | .ok text =>
      (ofYaml env text).mapError fun fault =>
        let detail := s!"Failed to parse configuration file {file}. Please check the YAML syntax."
        .failed (.configParsing detail fault.message)

/-- Settings, or why there are none, with the messages on the way. -/
structure Loaded where
  result : Except Failure Config
  notes : List Record

def loadNoted (env : Environment) (fs : FileSystem) (file : String) : Loaded :=
  match load env fs file with
  | .ok config => ⟨.ok config, [say s!"Loaded configuration from {file}"]⟩
  | .error failure => ⟨.error failure, []⟩

/-- Finds the settings: in the file that is asked for, in the default file, or nowhere. -/
def resolve (env : Environment) (fs : FileSystem) (asked : Option String) : Loaded :=
  match asked with
  | some file =>
    if fs.isFile file then loadNoted env fs file else ⟨.error (.configMissing file), []⟩
  | none =>
    match defaultPath? env fs with
    | some file => loadNoted env fs file
    | none => ⟨.ok {}, [say "No configuration file found, using defaults"]⟩

end TreeFetch.Config
