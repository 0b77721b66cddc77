import TreeFetch.Yaml.Fault

/-!
# Tokens of YAML

The pieces that a YAML text consists of, in the order of the text. Where a collection is told by its
indentation alone, tokens without a text of their own mark its beginning and its end.
-/

namespace TreeFetch.Yaml

/-- How a scalar is written. -/
inductive Style
  | plain
  | singleQuoted
  | doubleQuoted
  | literal
  | folded
deriving Repr, DecidableEq, Inhabited

/-- A piece of a YAML text. -/
inductive Token
  | versionDirective (major minor : Nat)
  | tagDirective (handle start : String)
  | documentStart
  | documentEnd
  | blockSequenceStart
  | blockMappingStart
  | blockEnd
  | flowSequenceStart
  | flowSequenceEnd
  | flowMappingStart
  | flowMappingEnd
  | blockEntry
  | flowEntry
  | key
  | value
  | alias_ (name : String)
  | anchor (name : String)
  | tag (handle suffix : String)
  | scalar (text : String) (style : Style)
deriving Repr, DecidableEq, Inhabited

structure Placed where
  token : Token
  mark : Mark
deriving Repr, DecidableEq, Inhabited

end TreeFetch.Yaml
