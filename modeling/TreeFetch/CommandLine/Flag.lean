/-!
# Flags

A flag is a word of the command line that says what is asked for. Every flag has a long name, most
have a letter too, and some take a value. The table of all flags is what the help text shows.
-/

namespace TreeFetch.CommandLine

inductive Flag
  | pattern
  | source
  | folderId
  | maxDepth
  | maxResults
  | dryRun
  | outputDir
  | pathPattern
  | pathFormat
  | config
  | logFile
  | verbose
  | help
  | version
deriving Repr, DecidableEq, Inhabited

namespace Flag

def all : List Flag :=
  [pattern, source, folderId, maxDepth, maxResults, dryRun, outputDir, pathPattern, pathFormat,
    config, logFile, verbose, help, version]

/-- The long name, which is written after two hyphens. -/
def long : Flag → String
  | pattern => "pattern"
  | source => "source"
  | folderId => "folder-id"
  | maxDepth => "max-depth"
  | maxResults => "max"
  | dryRun => "dry-run"
  | outputDir => "output-dir"
  | pathPattern => "path-pattern"
  | pathFormat => "path-format"
  | config => "config"
  | logFile => "log-file"
  | verbose => "verbose"
  | help => "help"
  | version => "version"

def letter? : Flag → Option Char
  | pattern => some 'p'
  | source => some 's'
  | folderId => some 'f'
  | maxDepth => some 'd'
  | maxResults => some 'm'
  | dryRun => some 'n'
  | outputDir => some 'o'
  | pathPattern => none
  | pathFormat => none
  | config => some 'c'
  | logFile => some 'l'
  | verbose => some 'v'
  | help => some 'h'
  | version => some 'V'

def value? : Flag → Option String
  | pattern => some "REGEX"
  | source => some "DIR"
  | folderId => some "ID"
  | maxDepth => some "N"
  | maxResults => some "N"
  | dryRun => none
  | outputDir => some "DIR"
  | pathPattern => some "REGEX"
  | pathFormat => some "FORMAT"
  | config => some "FILE"
  | logFile => some "FILE"
  | verbose => none
  | help => none
  | version => none

def purpose : Flag → String
  | pattern => "Regex pattern to match file names"
  | source => "Root directory of the storage tree to search"
  | folderId => "Folder to start the search from (defaults to the storage root)"
  | maxDepth => "Maximum folder depth to search (-1 for unlimited)"
  | maxResults => "Maximum number of files to return (0 for unlimited)"
  | dryRun => "Only list files and preview destinations, don't download"
  | outputDir => "Directory to save downloaded files"
  | pathPattern =>
    "Regex pattern with named groups to transform output paths " ++
      "(e.g. 'Zoom Recordings/(?P<date>[^/]+)/.*\\.TRANSCRIPT')"
  | pathFormat =>
    "Format string for transformed paths using named groups (e.g. '$\x7bdate\x7d.TRANSCRIPT')"
  | config => "Read settings from a specific config file"
  | logFile => "Also write log messages to this file"
  | verbose => "Increase verbosity level (can be used multiple times)"
  | help => "Print help"
  | version => "Print version"

def takesValue (f : Flag) : Bool := f.value?.isSome

/-- Whether the value of a flag may be a negative number. -/
def takesNegative (f : Flag) : Bool := f = maxDepth

/-- A flag as messages show it: the long name, with the name of its value, or with dots if the flag
counts how often it is given. -/
def shown (f : Flag) : String :=
  match f.value? with
  | some value => s!"--{f.long} <{value}>"
  | none => if f = verbose then s!"--{f.long}..." else s!"--{f.long}"

def ofLong? (name : String) : Option Flag := all.find? fun f => f.long = name

def ofLetter? (letter : Char) : Option Flag := all.find? fun f => f.letter? = some letter

end Flag

end TreeFetch.CommandLine
