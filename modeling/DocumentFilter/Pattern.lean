import DocumentFilter.Text.Blank

/-!
# Patterns

Regular expressions that match one text literally.
-/

namespace DocumentFilter
namespace Pattern

/-- The characters that a backslash has to take their meaning from. -/
def isSpecial (c : Char) : Bool :=
  Text.isBlank c ||
    ['-', '[', ']', '\x7b', '\x7d', '(', ')', '*', '+', '?', '.', ',', '\\', '^', '$', '|',
      '#'].contains c

/-- One character of a literal pattern. -/
def escapeChar (c : Char) : List Char := if isSpecial c then ['\\', c] else [c]

/-- The pattern that matches a text literally. -/
def literal (text : List Char) : List Char := text.flatMap escapeChar

/-- Matches where the text occurs. -/
def containing (text : String) : String := String.ofList (literal text.toList)

/-- Matches where a subject starts with the text. -/
def startingWith (text : String) : String := String.ofList ('^' :: literal text.toList)

/-- Matches where a subject ends with the text. -/
def endingWith (text : String) : String := String.ofList (literal text.toList ++ ['$'])

end Pattern
end DocumentFilter
