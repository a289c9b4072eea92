/-!
# The words of a filter

The words that a filter expression gives a meaning of their own: connectives, comparisons and
methods.  Every other word names a property or, as `true`, `false` or `null`, a literal.
-/

namespace DocumentFilter

/-- A list has just the words that stand for something. -/
theorem contains_eq_isSome {α : Type} {words : List String} {ofWord? : String → Option α}
    (hlisted : ∀ listed ∈ words, (ofWord? listed).isSome = true)
    (hmem : ∀ word found, ofWord? word = some found → word ∈ words) (word : String) :
    words.contains word = (ofWord? word).isSome := by
  rw [Bool.eq_iff_iff, List.contains_iff_mem]
  refine ⟨hlisted word, fun h => ?_⟩
  obtain ⟨found, hfound⟩ := Option.isSome_iff_exists.mp h
  exact hmem word found hfound

/-- The connective that joins the members of a group. -/
inductive Connective where
  | conjunction
  | disjunction
deriving DecidableEq, Repr

namespace Connective

/-- The word of a connective. -/
def word : Connective → String
  | conjunction => "and"
  | disjunction => "or"

/-- The connective of a word. -/
def ofWord? : String → Option Connective
  | "and" => some conjunction
  | "or" => some disjunction
  | _ => none

theorem ofWord?_word (c : Connective) : ofWord? c.word = some c := by cases c <;> rfl

/-- A connective has no other word. -/
theorem eq_word_of_ofWord? {word : String} {c : Connective} (h : ofWord? word = some c) :
    word = c.word := by
  unfold ofWord? at h
  split at h <;> cases h <;> rfl

/-- The words of the connectives. -/
def words : List String := ["and", "or"]

theorem contains_words (word : String) : words.contains word = (ofWord? word).isSome := by
  refine contains_eq_isSome (by decide) (fun word found hfound => ?_) word
  rw [eq_word_of_ofWord? hfound]
  cases found <;> decide

end Connective

/-- The relation that a comparison asserts. -/
inductive ComparisonOp where
  | eq
  | ne
  | lt
  | le
  | gt
  | ge
deriving DecidableEq, Repr

namespace ComparisonOp

/-- The word of a comparison. -/
def word : ComparisonOp → String
  | eq => "eq"
  | ne => "ne"
  | lt => "lt"
  | le => "le"
  | gt => "gt"
  | ge => "ge"

/-- The comparison of a word. -/
def ofWord? : String → Option ComparisonOp
  | "eq" => some eq
  | "ne" => some ne
  | "lt" => some lt
  | "le" => some le
  | "gt" => some gt
  | "ge" => some ge
  | _ => none

theorem ofWord?_word (op : ComparisonOp) : ofWord? op.word = some op := by cases op <;> rfl

/-- A comparison has no other word. -/
theorem eq_word_of_ofWord? {word : String} {op : ComparisonOp} (h : ofWord? word = some op) :
    word = op.word := by
  unfold ofWord? at h
  split at h <;> cases h <;> rfl

/-- The words of the comparisons. -/
def words : List String := ["eq", "ne", "lt", "le", "gt", "ge"]

theorem contains_words (word : String) : words.contains word = (ofWord? word).isSome := by
  refine contains_eq_isSome (by decide) (fun word found hfound => ?_) word
  rw [eq_word_of_ofWord? hfound]
  cases found <;> decide

end ComparisonOp

/-- The methods that a filter may call. -/
inductive MethodName where
  | contains
  | startsWith
  | endsWith
  | isIn
  | notIn
deriving DecidableEq, Repr

namespace MethodName

/-- The word of a method. -/
def word : MethodName → String
  | contains => "contains"
  | startsWith => "startswith"
  | endsWith => "endswith"
  | isIn => "in"
  | notIn => "notin"

/-- The method of a word. -/
def ofWord? : String → Option MethodName
  | "contains" => some contains
  | "startswith" => some startsWith
  | "endswith" => some endsWith
  | "in" => some isIn
  | "notin" => some notIn
  | _ => none

theorem ofWord?_word (m : MethodName) : ofWord? m.word = some m := by cases m <;> rfl

/-- A method has no other word. -/
theorem eq_word_of_ofWord? {word : String} {m : MethodName} (h : ofWord? word = some m) :
    word = m.word := by
  unfold ofWord? at h
  split at h <;> cases h <;> rfl

/-- The words of the methods. -/
def words : List String := ["contains", "startswith", "endswith", "in", "notin"]

theorem contains_words (word : String) : words.contains word = (ofWord? word).isSome := by
  refine contains_eq_isSome (by decide) (fun word found hfound => ?_) word
  rw [eq_word_of_ofWord? hfound]
  cases found <;> decide

/-- The number of arguments, with the property; the membership tests take any number. -/
def arity? : MethodName → Option Nat
  | contains | startsWith | endsWith => some 2
  | isIn | notIn => none

end MethodName
end DocumentFilter
