import AnchorOutline.Regex.Span

/-!
# What can be wrong with a pattern

* `Cause` : the reasons, with `Cause.message` for their wording;
* `Fault` : a cause at a span; a duplicate also has the span of the first occurrence;
* `CompileError` : a fault in a pattern, or a pattern whose program would be too large.
-/

namespace AnchorOutline.Regex

/-- The deepest nesting of groups, classes and repetitions that is accepted. -/
def nestLimit : Nat := 250

/-- The most bytes that a compiled pattern may take. -/
def sizeLimit : Nat := 10485760

inductive Cause where
  | classEscapeInvalid
  | classRangeInvalid
  | classRangeLiteral
  | classUnclosed
  | decimalInvalid
  | escapeHexEmpty
  | escapeHexInvalid
  | escapeHexInvalidDigit
  | escapeUnexpectedEnd
  | escapeUnrecognized
  | flagDanglingNegation
  | flagDuplicate
  | flagRepeatedNegation
  | flagUnexpectedEnd
  | flagUnrecognized
  | groupNameDuplicate
  | groupNameEmpty
  | groupNameInvalid
  | groupNameUnexpectedEnd
  | groupUnclosed
  | groupUnopened
  | nestLimitExceeded
  | repetitionCountInvalid
  | repetitionCountEmpty
  | repetitionCountUnclosed
  | repetitionMissing
  | specialBoundaryUnclosed
  | specialBoundaryUnrecognized
  | specialBoundaryUnexpectedEnd
  | unicodeClassInvalid
  | backreference
  | lookAround
  | invalidUtf8
  | unicodeNotAllowed
  | propertyNotFound
  | propertyValueNotFound
  deriving Repr, DecidableEq

namespace Cause

def message : Cause → String
  | classEscapeInvalid => "invalid escape sequence found in character class"
  | classRangeInvalid => "invalid character class range, the start must be <= the end"
  | classRangeLiteral => "invalid range boundary, must be a literal"
  | classUnclosed => "unclosed character class"
  | decimalInvalid => "decimal literal invalid"
  | escapeHexEmpty => "hexadecimal literal empty"
  | escapeHexInvalid => "hexadecimal literal is not a Unicode scalar value"
  | escapeHexInvalidDigit => "invalid hexadecimal digit"
  | escapeUnexpectedEnd => "incomplete escape sequence, reached end of pattern prematurely"
  | escapeUnrecognized => "unrecognized escape sequence"
  | flagDanglingNegation => "dangling flag negation operator"
  | flagDuplicate => "duplicate flag"
  | flagRepeatedNegation => "flag negation operator repeated"
  | flagUnexpectedEnd => "expected flag but got end of regex"
  | flagUnrecognized => "unrecognized flag"
  | groupNameDuplicate => "duplicate capture group name"
  | groupNameEmpty => "empty capture group name"
  | groupNameInvalid => "invalid capture group character"
  | groupNameUnexpectedEnd => "unclosed capture group name"
  | groupUnclosed => "unclosed group"
  | groupUnopened => "unopened group"
  | nestLimitExceeded =>
    s!"exceed the maximum number of nested parentheses/brackets ({nestLimit})"
  | repetitionCountInvalid =>
    "invalid repetition count range, the start must be <= the end"
  | repetitionCountEmpty => "repetition quantifier expects a valid decimal"
  | repetitionCountUnclosed => "unclosed counted repetition"
  | repetitionMissing => "repetition operator missing expression"
  | specialBoundaryUnclosed =>
    "special word boundary assertion is either unclosed or contains an invalid character"
  | specialBoundaryUnrecognized =>
    "unrecognized special word boundary assertion, valid choices are: start, end, " ++
      "start-half or end-half"
  | specialBoundaryUnexpectedEnd =>
    "found either the beginning of a special word boundary or a bounded repetition on a \\b " ++
      "with an opening brace, but no closing brace"
  | unicodeClassInvalid => "invalid Unicode character class"
  | backreference => "backreferences are not supported"
  | lookAround => "look-around, including look-ahead and look-behind, is not supported"
  | invalidUtf8 => "pattern can match invalid UTF-8"
  | unicodeNotAllowed => "Unicode not allowed here"
  | propertyNotFound => "Unicode property not found"
  | propertyValueNotFound => "Unicode property value not found"

end Cause

structure Fault where
  cause : Cause
  span : Span
  /-- The first occurrence, when the fault is that something occurs again. -/
  earlier : Option Span := none
  deriving Repr, DecidableEq

inductive CompileError where
  | syntaxFault (pattern : String) (fault : Fault)
  | tooLarge
  deriving Repr, DecidableEq

end AnchorOutline.Regex
