/-!
# Why a pattern is refused

`SyntaxError` names every fault of a pattern's text. `PatternError` adds the one fault of a pattern
that is well formed: its compiled form is too large. `PatternError.message` words them all.
-/

namespace TreeFetch.Regex

/-- A fault in the text of a pattern. -/
inductive SyntaxError
  | classUnclosed
  | classRangeInvalid
  | classRangeBoundary
  | classEscapeInvalid
  | groupUnclosed
  | groupUnopened
  | groupNameDuplicate
  | groupNameEmpty
  | groupNameInvalid
  | groupNameUnclosed
  | repetitionMissing
  | repetitionUnclosed
  | repetitionCountMissing
  | repetitionRangeInvalid
  | decimalInvalid
  | hexEmpty
  | hexNotScalar
  | hexDigitInvalid
  | escapeUnfinished
  | escapeUnrecognized
  | backreference
  | lookAround
  | flagDanglingNegation
  | flagDuplicate
  | flagRepeatedNegation
  | flagUnfinished
  | flagUnrecognized
  | propertyClassInvalid
  | propertyNotFound
  | propertyValueNotFound
  | wordBoundaryUnclosed
  | wordBoundaryUnrecognized
  | wordBoundaryUnfinished
  | unicodeNotAllowed
  | invalidUtf8
  | nestingTooDeep
deriving Repr, DecidableEq, Inhabited

/-- How many groups and classes may stand inside one another. -/
def nestingLimit : Nat := 250

def SyntaxError.message : SyntaxError → String
  | classUnclosed => "unclosed character class"
  | classRangeInvalid => "invalid character class range, the start must be <= the end"
  | classRangeBoundary => "invalid range boundary, must be a literal"
  | classEscapeInvalid => "invalid escape sequence found in character class"
  | groupUnclosed => "unclosed group"
  | groupUnopened => "unopened group"
  | groupNameDuplicate => "duplicate capture group name"
  | groupNameEmpty => "empty capture group name"
  | groupNameInvalid => "invalid capture group character"
  | groupNameUnclosed => "unclosed capture group name"
  | repetitionMissing => "repetition operator missing expression"
  | repetitionUnclosed => "unclosed counted repetition"
  | repetitionCountMissing => "repetition quantifier expects a valid decimal"
  | repetitionRangeInvalid => "invalid repetition count range, the start must be <= the end"
  | decimalInvalid => "decimal literal invalid"
  | hexEmpty => "hexadecimal literal empty"
  | hexNotScalar => "hexadecimal literal is not a Unicode scalar value"
  | hexDigitInvalid => "invalid hexadecimal digit"
  | escapeUnfinished => "incomplete escape sequence, reached end of pattern prematurely"
  | escapeUnrecognized => "unrecognized escape sequence"
  | backreference => "backreferences are not supported"
  | lookAround => "look-around, including look-ahead and look-behind, is not supported"
  | flagDanglingNegation => "dangling flag negation operator"
  | flagDuplicate => "duplicate flag"
  | flagRepeatedNegation => "flag negation operator repeated"
  | flagUnfinished => "expected flag but got end of regex"
  | flagUnrecognized => "unrecognized flag"
  | propertyClassInvalid => "invalid Unicode character class"
  | propertyNotFound => "Unicode property not found"
  | propertyValueNotFound => "Unicode property value not found"
  | wordBoundaryUnclosed =>
    "special word boundary assertion is either unclosed or contains an invalid character"
  | wordBoundaryUnrecognized =>
    "unrecognized special word boundary assertion, valid choices are: " ++
      "start, end, start-half or end-half"
  | wordBoundaryUnfinished =>
    "found either the beginning of a special word boundary or a bounded repetition on a \\b " ++
      "with an opening brace, but no closing brace"
  | unicodeNotAllowed => "Unicode not allowed here"
  | invalidUtf8 => "pattern can match invalid UTF-8"
  | nestingTooDeep =>
    s!"exceed the maximum number of nested parentheses/brackets ({nestingLimit})"

/-- Why a pattern cannot be used. -/
inductive PatternError
  | malformed (fault : SyntaxError)
  | tooLarge (limit : Nat)
deriving Repr, DecidableEq, Inhabited

def PatternError.message : PatternError → String
  | malformed fault => "error: " ++ fault.message
  | tooLarge limit => s!"Compiled regex exceeds size limit of {limit} bytes."

end TreeFetch.Regex
