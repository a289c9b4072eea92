import DocumentFilter.Json
import DocumentFilter.Predicate.Basic

/-!
# Predicates as JSON

The form in which a document store takes a predicate.  An instant is an object of its own, so that
it is not taken for a string.
-/

namespace DocumentFilter

mutual

/-- A value as JSON. -/
def Value.toJson : Value → Json
  | .null => .null
  | .string value => .string value
  | .number value => .number value
  | .boolean value => .bool value
  | .date value => .object [("$date", .string value.text)]
  | .list values => .array (Value.toJsonList values)

/-- Several values as JSON. -/
def Value.toJsonList : List Value → List Json
  | [] => []
  | value :: rest => value.toJson :: Value.toJsonList rest

end

mutual

/-- A condition as JSON. -/
def Condition.toJson : Condition → Json
  | .operator op value => .object [(op.key, value.toJson)]
  | .logical predicates => .array (Condition.toJsonPredicates predicates)

/-- Several predicates as JSON. -/
def Condition.toJsonPredicates : List (List (String × Condition)) → List Json
  | [] => []
  | entries :: rest => .object (Condition.toJsonEntries entries) :: toJsonPredicates rest

/-- The members of a predicate as JSON. -/
def Condition.toJsonEntries : List (String × Condition) → List (String × Json)
  | [] => []
  | (key, condition) :: rest => (key, condition.toJson) :: toJsonEntries rest

end

/-- A predicate as JSON, with its keys in order. -/
def Predicate.toJson (p : Predicate) : Json := .object (Condition.toJsonEntries p.entries)

end DocumentFilter
