import DocumentFilter.Text.Blank

/-!
# Sort orders

An order is written as clauses between commas, each a field with an optional direction.  A document
store takes it as the fields between spaces, with a minus sign before a descending one.
-/

namespace DocumentFilter

/-- A field to sort by. -/
structure SortKey where
  field : List Char
  descending : Bool
deriving DecidableEq, Repr

namespace SortKey

/-- Reads a clause: a field, and after blank characters `asc`, `desc` or nothing. -/
def ofClause? (clause : List Char) : Option SortKey :=
  let field := clause.takeWhile (!Text.isBlank ·)
  let direction := (clause.dropWhile (!Text.isBlank ·)).dropWhile Text.isBlank
  if field.isEmpty then none
  else if direction.isEmpty || direction = ['a', 's', 'c'] then some ⟨field, false⟩
  else if direction = ['d', 'e', 's', 'c'] then some ⟨field, true⟩
  else none

/-- The field, with a minus sign if the order is descending. -/
def text (key : SortKey) : List Char := if key.descending then '-' :: key.field else key.field

end SortKey

namespace SortOrder

/-- The clauses of an order, without the blank characters round them. -/
def clauses (order : String) : List (List Char) :=
  (order.toList.splitOn ',').map Text.trim

/-- The fields of an order; a clause that cannot be read is left out. -/
def keys (order : String) : List SortKey := (clauses order).filterMap SortKey.ofClause?

/-- The clauses of an order that cannot be read. -/
def unreadable (order : String) : List (List Char) :=
  (clauses order).filter fun clause => (SortKey.ofClause? clause).isNone

/-- An order as the document store takes it, if it has a clause that can be read. -/
def translate (order : String) : Option String :=
  let keys := keys order
  if keys.isEmpty then none
  else some (String.ofList ([' '].intercalate (keys.map SortKey.text)))

end SortOrder
end DocumentFilter
