/-!
# Why a text is no YAML

Every rule of the format that a text can break, with its wording, and the place where it is broken.
-/

namespace TreeFetch.Yaml

/-- A rule that is broken. -/
inductive Problem
  | characterNotAllowed
  | keyWithoutColon
  | entryNotAllowed
  | keyNotAllowed
  | valueNotAllowed
  | noTokenStarts
  | directiveName
  | directiveUnknown
  | directiveVersion
  | directiveEnd
  | directiveDuplicate
  | versionUnsupported
  | anchorName
  | tagHandle
  | tagText
  | tagEscape
  | tagEnd
  | tagHandleUndefined
  | blockIndentation
  | blockHeader
  | tabInIndentation
  | documentMarkInQuotes
  | quotesUnclosed
  | escapeUnknown
  | escapeDigits
  | escapeInvalid
  | colonInFlow
  | documentStart
  | nodeContent
  | blockEntry
  | blockKey
  | flowSequence
  | flowMapping
  | anchorUnknown
  | moreDocuments
  | nestingTooDeep
deriving Repr, DecidableEq, Inhabited

def Problem.message : Problem → String
  | characterNotAllowed => "control characters are not allowed"
  | keyWithoutColon => "could not find expected ':'"
  | entryNotAllowed => "block sequence entries are not allowed in this context"
  | keyNotAllowed => "mapping keys are not allowed in this context"
  | valueNotAllowed => "mapping values are not allowed in this context"
  | noTokenStarts => "found character that cannot start any token"
  | directiveName => "could not find expected directive name"
  | directiveUnknown => "found unknown directive name"
  | directiveVersion => "did not find expected version number"
  | directiveEnd => "did not find expected comment or line break"
  | directiveDuplicate => "found duplicate directive"
  | versionUnsupported => "found incompatible YAML document"
  | anchorName => "did not find expected alphabetic or numeric character"
  | tagHandle => "did not find expected '!'"
  | tagText => "did not find expected tag URI"
  | tagEscape => "did not find URI escaped octet"
  | tagEnd => "did not find expected whitespace or line break"
  | tagHandleUndefined => "found undefined tag handle"
  | blockIndentation => "found an indentation indicator equal to 0"
  | blockHeader => "did not find expected comment or line break"
  | tabInIndentation => "found a tab character where an indentation space is expected"
  | documentMarkInQuotes => "found unexpected document indicator"
  | quotesUnclosed => "found unexpected end of stream"
  | escapeUnknown => "found unknown escape character"
  | escapeDigits => "did not find expected hexadecimal number"
  | escapeInvalid => "found invalid Unicode character escape code"
  | colonInFlow => "found unexpected ':'"
  | documentStart => "did not find expected <document start>"
  | nodeContent => "did not find expected node content"
  | blockEntry => "did not find expected '-' indicator"
  | blockKey => "did not find expected key"
  | flowSequence => "did not find expected ',' or ']'"
  | flowMapping => "did not find expected ',' or '\x7d'"
  | anchorUnknown => "unknown anchor"
  | moreDocuments => "expected a single document but found more than one"
  | nestingTooDeep => "nested too deeply"

/-- A place in a text, counted from 0. -/
structure Mark where
  index : Nat := 0
  line : Nat := 0
  column : Nat := 0
deriving Repr, DecidableEq, Inhabited

/-- A broken rule and where it is broken. -/
structure Fault where
  problem : Problem
  mark : Mark
deriving Repr, DecidableEq, Inhabited

/-- The wording of a fault; lines and columns are counted from 1. -/
def Fault.message (f : Fault) : String :=
  s!"{f.problem.message} at line {f.mark.line + 1} column {f.mark.column + 1}"

end TreeFetch.Yaml
