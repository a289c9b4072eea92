/-!
# What can be wrong with a filter

The causes for which a filter expression is refused, each with the place where it was found.
Positions count characters from the start of the expression.
-/

namespace DocumentFilter

/-- A fault that shows while the expression is cut into tokens. -/
inductive LexError where
  /-- No token starts with this character. -/
  | unexpectedCharacter (character : Char) (position : Nat)
  /-- A quoted text has no closing quote. -/
  | unterminatedString (position : Nat)
  /-- A number is too large for a signed word of 64 bits. -/
  | numberOutOfRange (text : String) (position : Nat)
  /-- A text has the form of a date but the calendar has no such instant. -/
  | invalidDate (text : String) (position : Nat)
deriving DecidableEq, Repr

namespace LexError

/-- What is wrong, for the author of the filter. -/
def message : LexError → String
  | unexpectedCharacter character position =>
    s!"Unexpected character '{character}' at position {position}"
  | unterminatedString position =>
    s!"Unterminated quoted string starting at position {position}"
  | numberOutOfRange text position =>
    s!"Number '{text}' at position {position} does not fit in a 64-bit integer"
  | invalidDate text position => s!"Invalid date '{text}' at position {position}"

end LexError

/-- What stood in the place of an unexpected token. -/
inductive Expectation where
  | openParen
  | property
  | string
  | number
  | date
  | simpleValue
deriving DecidableEq, Repr

namespace Expectation

/-- The name of what was expected. -/
def text : Expectation → String
  | openParen => "'('"
  | property => "property"
  | string => "string"
  | number => "number"
  | date => "date"
  | simpleValue => "simple value"

end Expectation

/-- A fault that shows while tokens are put together to a tree. -/
inductive ParseError where
  /-- More was to come: an operand, an operator or a closing parenthesis. -/
  | unexpectedEndOfExpression
  /-- A member of a group starts with something that is not a word. -/
  | expectedWord (found : String) (position : Nat)
  /-- Two members are not joined by a connective. -/
  | expectedLogicalOperator (found : String) (position : Nat)
  /-- A property is not followed by a comparison. -/
  | expectedComparisonOperator (found : String) (position : Nat)
  /-- Both connectives stand in one group. -/
  | mixedOperatorsWithoutGrouping (position : Nat)
  /-- A method is called without arguments. -/
  | missingMethodArguments (method : String) (position : Nat)
  /-- Two arguments are not parted by a comma. -/
  | missingArgumentSeparator (found : String) (position : Nat)
  /-- A token of another kind was due. -/
  | unexpectedToken (expected : Expectation) (found : String) (position : Nat)
  /-- A method with a fixed number of arguments has another number. -/
  | wrongArgumentCount (method : String) (expected found position : Nat)
  /-- A group is nested deeper than the limit allows. -/
  | nestingTooDeep (limit position : Nat)
deriving DecidableEq, Repr

namespace ParseError

/-- What is wrong, for the author of the filter. -/
def message : ParseError → String
  | unexpectedEndOfExpression => "Unexpected end of expression"
  | expectedWord found position => s!"Expected word but got '{found}' at position {position}"
  | expectedLogicalOperator found position =>
    s!"Expected logical operator (and, or) but got '{found}' at position {position}"
  | expectedComparisonOperator found position =>
    "Expected comparison operator (eq, ne, lt, le, gt, ge) but got " ++
      s!"'{found}' at position {position}"
  | mixedOperatorsWithoutGrouping position =>
    s!"Cannot mix 'and' and 'or' at position {position} without grouping; use parentheses"
  | missingMethodArguments method position =>
    s!"Missing arguments for method '{method}' at position {position}"
  | missingArgumentSeparator found position =>
    s!"Missing separator between method arguments, got '{found}' at position {position}"
  | unexpectedToken expected found position =>
    s!"Unexpected token '{found}' at position {position} (expected {expected.text})"
  | wrongArgumentCount method expected found position =>
    s!"Method '{method}' at position {position} takes {expected} arguments " ++
      s!"but {found} were given"
  | nestingTooDeep limit position =>
    s!"Grouping at position {position} is nested deeper than the limit of {limit}"

end ParseError

/-- A fault of a filter expression, by the stage that finds it. -/
inductive FilterError where
  | lex (error : LexError)
  | parse (error : ParseError)
deriving DecidableEq, Repr

namespace FilterError

/-- What is wrong, for the author of the filter. -/
def message : FilterError → String
  | lex error => "Invalid filter expression: " ++ error.message
  | parse error => "Invalid filter expression: " ++ error.message

/-- Every fault of a filter comes from the client, so trying again does not help. -/
def isClientError (_ : FilterError) : Bool := true

end FilterError
end DocumentFilter
