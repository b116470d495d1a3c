import Remedy.Text

/-!
# Faults of regular expressions

Why an expression cannot be read.
-/

namespace Remedy.Pattern

inductive Fault where
  | flags
  | tooLarge
  | unterminatedGroup
  | unmatchedParenthesis
  | invalidGroup
  | invalidGroupName
  | repeatedGroupName
  | invalidReference
  | unknownReference
  | escapeAtEnd
  | invalidEscape
  | invalidDecimalEscape
  | invalidClassEscape
  | invalidUnicodeEscape
  | invalidProperty
  | nothingToRepeat
  | loneBracket
  | incompleteQuantifier
  | quantifierOutOfOrder
  | unterminatedClass
  | invalidClass
  | classOutOfOrder
  | invalidClassCharacter
  | invalidClassOperation
  | negatedStrings
  deriving DecidableEq, Repr

namespace Fault

def message : Fault → Text
  | .flags => "Invalid flags"
  | .tooLarge => "Regular expression too large"
  | .unterminatedGroup => "Unterminated group"
  | .unmatchedParenthesis => "Unmatched ')'"
  | .invalidGroup => "Invalid group"
  | .invalidGroupName => "Invalid capture group name"
  | .repeatedGroupName => "Duplicate capture group name"
  | .invalidReference => "Invalid named reference"
  | .unknownReference => "Invalid named capture referenced"
  | .escapeAtEnd => "\\ at end of pattern"
  | .invalidEscape => "Invalid escape"
  | .invalidDecimalEscape => "Invalid decimal escape"
  | .invalidClassEscape => "Invalid class escape"
  | .invalidUnicodeEscape => "Invalid Unicode escape"
  | .invalidProperty => "Invalid property name"
  | .nothingToRepeat => "Nothing to repeat"
  | .loneBracket => "Lone quantifier brackets"
  | .incompleteQuantifier => "Incomplete quantifier"
  | .quantifierOutOfOrder => "numbers out of order in \x7b\x7d quantifier"
  | .unterminatedClass => "Unterminated character class"
  | .invalidClass => "Invalid character class"
  | .classOutOfOrder => "Range out of order in character class"
  | .invalidClassCharacter => "Invalid character in character class"
  | .invalidClassOperation => "Invalid set operation in character class"
  | .negatedStrings => "Negated character class may contain strings"

/-- The fault with the expression that has it. -/
def describe (fault : Fault) (source flags : Text) : Text :=
  "Invalid regular expression: /" ++ source ++ "/" ++ flags ++ ": " ++ fault.message

end Fault

end Remedy.Pattern
