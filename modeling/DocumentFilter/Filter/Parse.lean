import DocumentFilter.Fallible
import DocumentFilter.Filter.Grouping
import DocumentFilter.Token.Lexer

/-!
# Reading a filter expression

From the text of a filter to its tree.
-/

namespace DocumentFilter

/-- How deep groups may be nested where nothing else is set. -/
def defaultMaxDepth : Nat := 32

/-- The tree of a filter expression whose groups are nested no deeper than the limit. -/
def parse (filter : String) (maxDepth : Nat) : Except FilterError Group :=
  match tokenize filter with
  | .error e => .error (.lex e)
  | .ok tokens => (resolve tokens maxDepth).mapError .parse

theorem parse_of_tokenize {filter : String} {tokens : List Token}
    (h : tokenize filter = .ok tokens) (maxDepth : Nat) :
    parse filter maxDepth = (resolve tokens maxDepth).mapError .parse := by
  rw [parse, h]

/-- A filter has a tree if it can be cut into tokens and they can be put together to the tree. -/
theorem parse_eq_ok_iff {filter : String} {maxDepth : Nat} {root : Group} :
    parse filter maxDepth = .ok root ↔
      ∃ tokens, tokenize filter = .ok tokens ∧ resolve tokens maxDepth = .ok root := by
  cases htokens : tokenize filter with
  | error e => simp [parse, htokens]
  | ok tokens =>
      cases hroot : resolve tokens maxDepth <;> simp [parse, htokens, hroot]

end DocumentFilter
