import DocumentFilter.Text.Decimal
import DocumentFilter.Text.Grid
import DocumentFilter.Text.Visible
import DocumentFilter.Token.Basic

/-!
# Token tables

The tokens of an expression as a table for a person.
-/

namespace DocumentFilter
namespace Token

/-- The text of a token in a table; spaces and quoted texts are shown in their visible form. -/
def tableText (token : Token) : String :=
  match token.kind with
  | .whitespace | .string => Text.visible token.text
  | _ => token.text

/-- The cells of a token. -/
def tableRow (token : Token) (index : Nat) : List String :=
  [String.ofList (Decimal.natText index), token.kind.name, token.tableText,
    String.ofList (Decimal.natText token.position)]

/-- The tokens, one in a row. -/
def table (tokens : List Token) : String :=
  Grid.render ⟨["#", "Kind", "Text", "Position"], tokens.mapIdx fun index token =>
    token.tableRow index⟩

end Token
end DocumentFilter
