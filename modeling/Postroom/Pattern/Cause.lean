/-!
# Why a pattern is refused

The causes for which a pattern that is not plain text is refused as a regular expression, and their
wording.
-/

namespace Postroom.Pattern

/-- Why a pattern is no regular expression. -/
inductive Cause where
  | escapeInClass
  | classRangeReversed
  | classRangeBoundary
  | classUnclosed
  | numberMissing
  | numberTooLarge
  | hexMissing
  | hexNoCharacter
  | hexDigitInvalid
  | escapeCutShort
  | escapeUnknown
  | modeNegationDangling
  | modeRepeated
  | modeNegationRepeated
  | modeCutShort
  | modeUnknown
  | nameRepeated
  | nameMissing
  | nameInvalid
  | nameUnclosed
  | groupUnclosed
  | groupUnopened
  | nestedTooDeep (limit : Nat)
  | countReversed
  | countNumberMissing
  | countUnclosed
  | repetitionOfNothing
  | boundaryUnclosed
  | boundaryUnknown
  | boundaryCutShort
  | propertyInvalid
  | backreference
  | lookAround
  | unicodeNotAllowed
  | invalidUtf8
  | propertyUnknown
  | propertyValueUnknown
  | tooLarge (limit : Nat)
deriving Repr, DecidableEq

/-- A cause in words. -/
def Cause.message : Cause → String
  | escapeInClass => "invalid escape sequence found in character class"
  | classRangeReversed => "invalid character class range, the start must be <= the end"
  | classRangeBoundary => "invalid range boundary, must be a literal"
  | classUnclosed => "unclosed character class"
  | numberMissing => "decimal literal empty"
  | numberTooLarge => "decimal literal invalid"
  | hexMissing => "hexadecimal literal empty"
  | hexNoCharacter => "hexadecimal literal is not a Unicode scalar value"
  | hexDigitInvalid => "invalid hexadecimal digit"
  | escapeCutShort => "incomplete escape sequence, reached end of pattern prematurely"
  | escapeUnknown => "invalid escape sequence"
  | modeNegationDangling => "dangling flag negation operator"
  | modeRepeated => "duplicate flag"
  | modeNegationRepeated => "flag negation operator repeated"
  | modeCutShort => "expected flag but got end of regex"
  | modeUnknown => "unrecognized flag"
  | nameRepeated => "duplicate capture group name"
  | nameMissing => "empty capture group name"
  | nameInvalid => "invalid capture group character"
  | nameUnclosed => "unclosed capture group name"
  | groupUnclosed => "unclosed group"
  | groupUnopened => "unopened group"
  | nestedTooDeep limit =>
    "exceed the maximum number of nested parentheses/brackets (" ++ limit.repr ++ ")"
  | countReversed => "invalid repetition count range, the start must be <= the end"
  | countNumberMissing => "repetition quantifier expects a valid decimal"
  | countUnclosed => "unclosed counted repetition"
  | repetitionOfNothing => "repetition operator missing expression"
  | boundaryUnclosed =>
    "special word boundary assertion is either unclosed or contains an invalid character"
  | boundaryUnknown =>
    "unrecognized special word boundary assertion, valid choices are: start, end, start-half or "
      ++ "end-half"
  | boundaryCutShort =>
    "found either the beginning of a special word boundary or a bounded repetition on a \\b with an "
      ++ "opening brace, but no closing brace"
  | propertyInvalid => "invalid Unicode character class"
  | backreference => "backreferences are not supported"
  | lookAround => "look-around, including look-ahead and look-behind, is not supported"
  | unicodeNotAllowed => "Unicode not allowed here"
  | invalidUtf8 => "pattern can match invalid UTF-8"
  | propertyUnknown => "Unicode property not found"
  | propertyValueUnknown => "Unicode property value not found"
  | tooLarge limit => "Compiled regex exceeds size limit of " ++ limit.repr ++ " bytes."

/-- A pattern that was refused. -/
structure Refusal where
  /-- The pattern. -/
  pattern : String
  /-- Why. -/
  cause : Cause
deriving Repr, DecidableEq

/-- A refusal in words. -/
def Refusal.message (r : Refusal) : String :=
  "error parsing regexp: " ++ r.cause.message ++ ": \x60" ++ r.pattern ++ "\x60"

end Postroom.Pattern
