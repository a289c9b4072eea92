import DocumentFilter.Error
import DocumentFilter.Instant
import DocumentFilter.Token.Basic

/-!
# Cutting an expression into tokens

Each step looks at the characters from one place on and takes the longest token that starts there.
A token that starts with a digit looks further: the whole run of word characters decides whether
it is a date, and otherwise only its digits are taken.
-/

namespace DocumentFilter
namespace Token

/-- The characters that continue a word. -/
def isWordChar (c : Char) : Bool :=
  c.isAlphanum || c = '_' || c = '.' || c = '/' || c = '*' || c = '-' || c = ':'

/-- The characters that start a word. -/
def isWordStart (c : Char) : Bool := c.isAlpha || c = '_' || c = '*'

/-- The characters that are a token of their own. -/
def isSymbol (c : Char) : Bool := c = ',' || c = '.' || c = '+' || c = '='

/-- A token at the front of a text. -/
structure Lexeme where
  kind : TokenKind
  text : List Char
  /-- How many characters the token takes after the first one. -/
  more : Nat

namespace Lexeme

/-- The first character with the run of characters of a class that follows it. -/
def run (kind : TokenKind) (p : Char → Bool) (first : Char) (rest : List Char) : Lexeme where
  kind := kind
  text := first :: rest.takeWhile p
  more := (rest.takeWhile p).length

/-- A token of one character. -/
def single (kind : TokenKind) (c : Char) : Lexeme where
  kind := kind
  text := [c]
  more := 0

/-- A date, or the digits in front of whatever it is. -/
def numeral (position : Nat) (first : Char) (rest : List Char) : Except LexError Lexeme :=
  let word := run .date isWordChar first rest
  let digits := run .number Char.isDigit first rest
  if Instant.hasForm word.text then
    if (Instant.ofText? word.text).isSome then .ok word
    else .error (.invalidDate (String.ofList word.text) position)
  else if Decimal.value digits.text ≤ Decimal.maxSigned64 then .ok digits
  else .error (.numberOutOfRange (String.ofList digits.text) position)

/-- The token that starts with the given character. -/
def read (position : Nat) (first : Char) (rest : List Char) : Except LexError Lexeme :=
  if first = ' ' then .ok (run .whitespace (· = ' ') first rest)
  else if first = '\'' then
    match Quoted.unquote? rest with
    | some (text, size) => .ok ⟨.string, text, size⟩
    | none => .error (.unterminatedString position)
  else if first.isDigit then numeral position first rest
  else if isWordStart first then .ok (run .word isWordChar first rest)
  else if first = '(' then .ok (single .openParen first)
  else if first = ')' then .ok (single .closeParen first)
  else if isSymbol first then .ok (single .symbol first)
  else .error (.unexpectedCharacter first position)

end Lexeme

/-- The tokens of a text that starts at the given position. -/
def readAll (position : Nat) : List Char → Except LexError (List Token)
  | [] => .ok []
  | first :: rest => do
    let lexeme ← Lexeme.read position first rest
    let tokens ← readAll (position + 1 + lexeme.more) (rest.drop lexeme.more)
    return ⟨lexeme.kind, String.ofList lexeme.text, position⟩ :: tokens
termination_by text => text.length
decreasing_by
  simp only [List.length_drop, List.length_cons]
  omega

end Token

/-- The tokens of a filter expression, spaces included. -/
def tokenize (filter : String) : Except LexError (List Token) := Token.readAll 0 filter.toList

end DocumentFilter
