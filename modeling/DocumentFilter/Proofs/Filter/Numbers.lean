import DocumentFilter.Proofs.Decimal
import DocumentFilter.Proofs.Filter.Leaves
import DocumentFilter.Proofs.Filter.Soundness
import DocumentFilter.Proofs.Token.Lexical

/-!
# The numbers of a filter

A number of a filter is what the digits of its token denote, and fits into a signed word.  So no
number is refused after the expression has been cut into tokens, and the numbers of a tree are those
of the expression, in their order.
-/

namespace DocumentFilter

/-- The number that an operand is. -/
def Operand.numbers : Operand → List Int
  | literal (.number n) => [n]
  | _ => []

/-- The numbers of a tree, in order. -/
def Group.numbers (group : Group) : List Int :=
  group.leaves.flatMap (·.operands.flatMap Operand.numbers)

namespace Token

/-- What the digits of a token denote. -/
def number (token : Token) : Int := Decimal.value token.text.toList

namespace Valid

variable {token : Token}

theorem signed64?_text (hvalid : token.Valid) (hkind : token.kind = .number) :
    Decimal.signed64? token.text.toList = some token.number := by
  simp only [Valid, hkind] at hvalid
  obtain ⟨hne, hdigits, hvalue⟩ := hvalid
  exact Decimal.signed64?_of_digits (by simpa using hne) hdigits hvalue

theorem isNumeral_text (hvalid : token.Valid) (hkind : token.kind = .number) :
    Decimal.isNumeral token.text.toList = true := by
  simp only [Valid, hkind] at hvalid
  obtain ⟨hne, hdigits, _⟩ := hvalid
  exact Decimal.isNumeral_of_digits (by simpa using hne) hdigits

theorem number_fits (hvalid : token.Valid) (hkind : token.kind = .number) :
    0 ≤ token.number ∧ token.number ≤ Decimal.maxSigned64 := by
  simp only [Valid, hkind] at hvalid
  exact ⟨Int.natCast_nonneg _, Int.ofNat_le.mpr hvalid.2.2⟩

/-- A token of an expression is refused as an operand for its kind alone, never for its text. -/
theorem expected_of_operand (hvalid : token.Valid) {expected : Expectation} {found : String}
    {position : Nat} (h : token.operand = .error (.unexpectedToken expected found position)) :
    expected = .simpleValue := by
  obtain ⟨kind, text, place⟩ := token
  cases kind with
  | string => cases h
  | word => cases h
  | number =>
      have hnumber : Decimal.signed64? text.toList = some _ := hvalid.signed64?_text rfl
      simp [Token.operand, hnumber] at h
  | date =>
      obtain ⟨instant, hdate⟩ := Option.isSome_iff_exists.mp hvalid
      simp [Token.operand, hdate] at h
  | _ =>
      cases h
      rfl

end Valid
end Token

open Token Grammar

theorem takesValues_numbers {tokens : List Token} (hvalid : ∀ token ∈ tokens, token.Valid) :
    TakesValues .number number Operand.numbers tokens := by
  rintro token htoken operand hvalue
  cases hvalue with
  | number hnumber =>
      rw [(hvalid _ htoken).signed64?_text rfl] at hnumber
      cases hnumber
      rfl
  | _ => rfl

/-- The numbers of a tree that is read are the numbers of the expression. -/
theorem numbers_of_resolve {tokens : List Token} {maxDepth : Nat} {root : Group}
    (hvalid : ∀ token ∈ tokens, token.Valid) (h : resolve tokens maxDepth = .ok root) :
    root.numbers = valuesOf .number number tokens := by
  rw [← valuesOf_dropSpaces rfl]
  obtain ⟨hblank, rfl⟩ | ⟨hroot, _⟩ := isExpression_of_resolve h
  · rw [hblank]
    rfl
  · have hkept : ∀ token ∈ dropSpaces tokens, token.Valid :=
      fun token htoken => hvalid token (List.mem_of_mem_filter htoken)
    exact hroot.areLeaves.flatMap_operands rfl (takesValues_numbers hkept)

end DocumentFilter
