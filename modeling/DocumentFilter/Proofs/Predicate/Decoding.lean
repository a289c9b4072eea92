import DocumentFilter.Predicate.Json
import DocumentFilter.Proofs.Instant
import DocumentFilter.Proofs.Json.Reading

/-!
# Predicates from their JSON

The JSON of a predicate can be taken apart again: an object with the one member `$date` is an
instant, any other value is the value of a condition as it stands, and a condition is an operator
with its value or else the list of a connective.  So predicates that are written alike are equal.
-/

namespace DocumentFilter

/-- The instant of an object that stands for one. -/
def Instant.ofJson? : List (String × Json) → Option Instant
  | [(key, .string text)] => if key = "$date" then ofText? text.toList else none
  | _ => none

mutual

/-- The value that is written as a JSON value. -/
def Value.ofJson? : Json → Option Value
  | .null => some .null
  | .string value => some (.string value)
  | .number value => some (.number value)
  | .bool value => some (.boolean value)
  | .object members => (Instant.ofJson? members).map .date
  | .array items => (Value.ofJsonList? items).map .list

/-- The values that are written as several JSON values. -/
def Value.ofJsonList? : List Json → Option (List Value)
  | [] => some []
  | item :: rest =>
    (Value.ofJson? item).bind fun value => (Value.ofJsonList? rest).map (value :: ·)

end

mutual

/-- The condition that is written as a JSON value. -/
def Condition.ofJson? : Json → Option Condition
  | .object [(key, value)] =>
    (Operator.ofKey? key).bind fun op => (Value.ofJson? value).map (.operator op)
  | .array items => (Condition.ofJsonPredicates? items).map .logical
  | _ => none

/-- The predicates that are written as several JSON values. -/
def Condition.ofJsonPredicates? : List Json → Option (List (List (String × Condition)))
  | [] => some []
  | .object members :: rest =>
    (Condition.ofJsonEntries? members).bind fun entries =>
      (Condition.ofJsonPredicates? rest).map (entries :: ·)
  | _ => none

/-- The entries that are written as the members of an object. -/
def Condition.ofJsonEntries? : List (String × Json) → Option (List (String × Condition))
  | [] => some []
  | (key, value) :: rest =>
    (Condition.ofJson? value).bind fun condition =>
      (Condition.ofJsonEntries? rest).map ((key, condition) :: ·)

end

/-- The predicate that is written as a JSON value. -/
def Predicate.ofJson? : Json → Option Predicate
  | .object members => (Condition.ofJsonEntries? members).map Predicate.mk
  | _ => none

/-- The predicate that is written as a text. -/
def Predicate.ofText? (text : String) : Option Predicate := (Json.read? text).bind ofJson?

mutual

theorem Value.ofJson?_toJson : ∀ value : Value, ofJson? value.toJson = some value
  | .null => rfl
  | .string _ => rfl
  | .number _ => rfl
  | .boolean _ => rfl
  | .date instant => by
      have hinstant := instant.ofText?_text
      rw [toJson, ofJson?, Instant.ofJson?, if_pos rfl, hinstant, Option.map_some]
  | .list values => by
      have hvalues := Value.ofJsonList?_toJsonList values
      rw [toJson, ofJson?, hvalues, Option.map_some]

theorem Value.ofJsonList?_toJsonList : ∀ values : List Value,
    ofJsonList? (toJsonList values) = some values
  | [] => rfl
  | value :: rest => by
      have hvalue := Value.ofJson?_toJson value
      have hrest := Value.ofJsonList?_toJsonList rest
      rw [toJsonList, ofJsonList?, hvalue, Option.bind_some, hrest, Option.map_some]

end

mutual

theorem Condition.ofJson?_toJson : ∀ condition : Condition,
    ofJson? condition.toJson = some condition
  | .operator op value => by
      rw [toJson, ofJson?, op.ofKey?_key, Option.bind_some, value.ofJson?_toJson, Option.map_some]
  | .logical predicates => by
      have hpredicates := Condition.ofJsonPredicates?_toJsonPredicates predicates
      rw [toJson, ofJson?, hpredicates, Option.map_some]

theorem Condition.ofJsonPredicates?_toJsonPredicates :
    ∀ predicates : List (List (String × Condition)),
      ofJsonPredicates? (toJsonPredicates predicates) = some predicates
  | [] => rfl
  | entries :: rest => by
      have hentries := Condition.ofJsonEntries?_toJsonEntries entries
      have hrest := Condition.ofJsonPredicates?_toJsonPredicates rest
      rw [toJsonPredicates, ofJsonPredicates?, hentries, Option.bind_some, hrest, Option.map_some]

theorem Condition.ofJsonEntries?_toJsonEntries : ∀ entries : List (String × Condition),
    ofJsonEntries? (toJsonEntries entries) = some entries
  | [] => rfl
  | (key, condition) :: rest => by
      have hcondition := Condition.ofJson?_toJson condition
      have hrest := Condition.ofJsonEntries?_toJsonEntries rest
      rw [toJsonEntries, ofJsonEntries?, hcondition, Option.bind_some, hrest, Option.map_some]

end

/-- A predicate is found again in its JSON. -/
theorem Predicate.ofJson?_toJson (p : Predicate) : ofJson? p.toJson = some p := by
  rw [toJson, ofJson?, Condition.ofJsonEntries?_toJsonEntries, Option.map_some]

theorem Predicate.ofText?_compact_toJson (p : Predicate) : ofText? p.toJson.compact = some p := by
  rw [ofText?, Json.read?_compact, Option.bind_some, ofJson?_toJson]

theorem Condition.compact_toJson_injective :
    Function.Injective fun condition : Condition => condition.toJson.compact := by
  intro condition other h
  have hjson : condition.toJson = other.toJson := Json.compact_injective h
  have hsome := condition.ofJson?_toJson
  rw [hjson, other.ofJson?_toJson] at hsome
  exact (Option.some.inj hsome).symm

/-- No two predicates are written alike. -/
theorem Predicate.compact_toJson_injective :
    Function.Injective fun p : Predicate => p.toJson.compact := by
  intro p q h
  have hsome := p.ofText?_compact_toJson
  rw [show p.toJson.compact = q.toJson.compact from h, q.ofText?_compact_toJson] at hsome
  exact (Option.some.inj hsome).symm

/-- The text of a predicate says which predicate it is: it can be read again, and predicates with
the same text are equal.  So an instant, the text with the same characters and the list of a
connective are told apart. -/
theorem Predicate.text_unambiguous :
    (∀ p : Predicate, ofText? p.toJson.compact = some p) ∧
    (∀ p q : Predicate, p.toJson.compact = q.toJson.compact → p = q) ∧
    ∀ (op op' : Operator) (instant : Instant) (predicates : List (List (String × Condition))),
      ((Condition.operator op (.date instant)).toJson.compact ≠
        (Condition.operator op' (.string instant.text)).toJson.compact) ∧
      ((Condition.operator op (.date instant)).toJson.compact ≠
        (Condition.logical predicates).toJson.compact) ∧
      (Condition.operator op' (.string instant.text)).toJson.compact ≠
        (Condition.logical predicates).toJson.compact := by
  refine ⟨ofText?_compact_toJson, fun p q h => compact_toJson_injective h, ?_⟩
  intro op op' instant predicates
  refine ⟨fun h => ?_, fun h => ?_, fun h => ?_⟩
  · cases Condition.compact_toJson_injective h
  · cases Condition.compact_toJson_injective h
  · cases Condition.compact_toJson_injective h

end DocumentFilter
