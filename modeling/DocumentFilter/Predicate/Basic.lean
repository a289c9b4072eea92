import DocumentFilter.Instant

/-!
# Predicates of a document store

A predicate maps fields to conditions, in the order in which the fields came first.  The keys
`$and` and `$or` have a list of predicates instead of a condition on a field.
-/

namespace DocumentFilter

/-- What a condition does with the value of a field. -/
inductive Operator where
  | eq
  | ne
  | gt
  | gte
  | lt
  | lte
  | isIn
  | notIn
  | regex
deriving DecidableEq, Repr

namespace Operator

/-- The key of an operator. -/
def key : Operator → String
  | eq => "$eq"
  | ne => "$ne"
  | gt => "$gt"
  | gte => "$gte"
  | lt => "$lt"
  | lte => "$lte"
  | isIn => "$in"
  | notIn => "$nin"
  | regex => "$regex"

/-- The operator of a key. -/
def ofKey? : String → Option Operator
  | "$eq" => some eq
  | "$ne" => some ne
  | "$gt" => some gt
  | "$gte" => some gte
  | "$lt" => some lt
  | "$lte" => some lte
  | "$in" => some isIn
  | "$nin" => some notIn
  | "$regex" => some regex
  | _ => none

theorem ofKey?_key (op : Operator) : ofKey? op.key = some op := by cases op <;> rfl

end Operator

/-- A value that a field is compared with. -/
inductive Value where
  | null
  | string (value : String)
  | number (value : Int)
  | boolean (value : Bool)
  | date (value : Instant)
  | list (values : List Value)

/-- What a predicate says under one key. -/
inductive Condition where
  /-- The field stands in a relation to a value. -/
  | operator (op : Operator) (value : Value)
  /-- The predicates that a connective joins, each given by its entries. -/
  | logical (predicates : List (List (String × Condition)))

/-- Conditions by key, in the order in which the keys came first. -/
structure Predicate where
  entries : List (String × Condition) := []

namespace Predicate

/-- Replaces the condition of a key in its place, or adds the key at the end. -/
def insertEntry (key : String) (condition : Condition) :
    List (String × Condition) → List (String × Condition)
  | [] => [(key, condition)]
  | entry :: rest =>
    if entry.1 = key then (key, condition) :: rest
    else entry :: insertEntry key condition rest

/-- Sets the condition of a key; a key that is there already keeps its place. -/
def insert (p : Predicate) (key : String) (condition : Condition) : Predicate where
  entries := insertEntry key condition p.entries

/-- The condition of a key. -/
def get? (p : Predicate) (key : String) : Option Condition :=
  (p.entries.find? (·.1 = key)).map (·.2)

/-- The keys in order. -/
def keys (p : Predicate) : List String := p.entries.map (·.1)

/-- The number of keys. -/
def size (p : Predicate) : Nat := p.entries.length

/-- The predicate that holds of every document. -/
def isEmpty (p : Predicate) : Bool := p.entries.isEmpty

/-- The predicate with the given conditions, inserted one after the other. -/
def ofList (entries : List (String × Condition)) : Predicate :=
  entries.foldl (fun p (key, condition) => p.insert key condition) {}

theorem find?_insertEntry (key other : String) (condition : Condition)
    (entries : List (String × Condition)) :
    (insertEntry key condition entries).find? (·.1 = other) =
      if key = other then some (key, condition) else entries.find? (·.1 = other) := by
  induction entries with
  | nil => by_cases h : key = other <;> simp [insertEntry, h]
  | cons entry rest ih =>
    by_cases hentry : entry.1 = key <;> by_cases h : key = other <;>
      by_cases hother : entry.1 = other <;> simp_all [insertEntry]

/-- A condition that has been set is found under its key, and the other keys keep theirs. -/
theorem get?_insert (p : Predicate) (key other : String) (condition : Condition) :
    (p.insert key condition).get? other =
      if key = other then some condition else p.get? other := by
  rw [get?, insert, find?_insertEntry]
  split <;> rfl

theorem map_fst_insertEntry (key : String) (condition : Condition)
    (entries : List (String × Condition)) :
    (insertEntry key condition entries).map (·.1) =
      if key ∈ entries.map (·.1) then entries.map (·.1) else entries.map (·.1) ++ [key] := by
  induction entries with
  | nil => simp [insertEntry]
  | cons entry rest ih =>
    by_cases hentry : entry.1 = key
    · simp [insertEntry, hentry]
    · have hne : key ≠ entry.1 := fun h => hentry h.symm
      simp only [insertEntry, hentry, if_false, List.map_cons, ih, List.mem_cons, hne, false_or]
      split <;> simp

/-- Setting the condition of a key adds the key at the end unless it is there. -/
theorem keys_insert (p : Predicate) (key : String) (condition : Condition) :
    (p.insert key condition).keys = if key ∈ p.keys then p.keys else p.keys ++ [key] :=
  map_fst_insertEntry key condition p.entries

end Predicate
end DocumentFilter
