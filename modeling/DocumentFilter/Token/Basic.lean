import DocumentFilter.Text.Quoted
import DocumentFilter.Vocabulary

/-!
# Tokens

The pieces into which a filter expression is cut, each with its place in the expression.
-/

namespace DocumentFilter

/-- The kinds of token. -/
inductive TokenKind where
  /-- A run of spaces. -/
  | whitespace
  /-- A text between quotes. -/
  | string
  /-- A keyword, a property or the name of a literal. -/
  | word
  /-- A run of digits. -/
  | number
  /-- An instant in its written form. -/
  | date
  | openParen
  | closeParen
  /-- One of `,`, `.`, `+` and `=`. -/
  | symbol
deriving DecidableEq, Repr

namespace TokenKind

/-- The name of a kind. -/
def name : TokenKind → String
  | whitespace => "whitespace"
  | string => "string"
  | word => "word"
  | number => "number"
  | date => "date"
  | openParen => "open-paren"
  | closeParen => "close-paren"
  | symbol => "symbol"

/-- The kind of a name. -/
def ofName? : String → Option TokenKind
  | "whitespace" => some whitespace
  | "string" => some string
  | "word" => some word
  | "number" => some number
  | "date" => some date
  | "open-paren" => some openParen
  | "close-paren" => some closeParen
  | "symbol" => some symbol
  | _ => none

theorem ofName?_name (kind : TokenKind) : ofName? kind.name = some kind := by cases kind <;> rfl

end TokenKind

/-- A piece of a filter expression. -/
structure Token where
  kind : TokenKind
  /-- The characters of the token; for a quoted text what it stands for. -/
  text : String
  /-- The number of characters before the token. -/
  position : Nat
deriving DecidableEq, Repr

namespace Token

/-- The token is a word that joins members. -/
def isLogical (token : Token) : Bool :=
  token.kind = .word && Connective.words.contains token.text

/-- The token is a word that calls a method. -/
def isMethod (token : Token) : Bool :=
  token.kind = .word && MethodName.words.contains token.text

/-- The token is a word that compares. -/
def isComparison (token : Token) : Bool :=
  token.kind = .word && ComparisonOp.words.contains token.text

/-- The token as the expression spells it. -/
def sourceText (token : Token) : String :=
  if token.kind = .string then Quoted.quoteString token.text else token.text

theorem isLogical_eq (token : Token) :
    token.isLogical = (token.kind = .word && (Connective.ofWord? token.text).isSome) := by
  rw [isLogical, Connective.contains_words]

theorem isMethod_eq (token : Token) :
    token.isMethod = (token.kind = .word && (MethodName.ofWord? token.text).isSome) := by
  rw [isMethod, MethodName.contains_words]

theorem isComparison_eq (token : Token) :
    token.isComparison = (token.kind = .word && (ComparisonOp.ofWord? token.text).isSome) := by
  rw [isComparison, ComparisonOp.contains_words]

end Token
end DocumentFilter
