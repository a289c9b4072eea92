import DocumentFilter.Proofs.Filter.Clauses

/-!
# Faults of operands

A token is unexpected where an operand is due and it is none, where the operand that it is does not
suit its comparison or method, or where it closes a group that nobody has opened.  That a method is
not followed by its arguments does not occur in a level.
-/

namespace DocumentFilter

open Clause Grammar Item

variable {items rest : List Item} {expected : Expectation} {found : String} {position : Nat}

/-- The fault is that of an operand among the items. -/
def IsOperandFault (items : List Item) (fault : ParseError) : Prop :=
  ∃ item ∈ items, item.operand = .error fault

variable {fault : ParseError}

theorem IsOperandFault.of_suffix (h : IsOperandFault rest fault) (hsuffix : rest <:+ items) :
    IsOperandFault items fault := by
  obtain ⟨item, hitem, hoperand⟩ := h
  exact ⟨item, hsuffix.subset hitem, hoperand⟩

theorem isOperandFault_of_readArgument
    (h : readArgument items = .error (.unexpectedToken expected found position)) :
    IsOperandFault items (.unexpectedToken expected found position) := by
  revert h
  fun_cases readArgument items with
  | case2 item rest hitem fault hoperand =>
      rintro ⟨⟩
      exact ⟨item, mem_of_next? hitem, hoperand⟩
  | _ => rintro ⟨⟩

theorem isOperandFault_of_readArguments
    (h : readArguments items = .error (.unexpectedToken expected found position)) :
    IsOperandFault items (.unexpectedToken expected found position) := by
  fun_induction readArguments items with
  | case1 items fault hargument =>
      cases h
      exact isOperandFault_of_readArgument hargument
  | case2 => cases h
  | case3 items argument separator rest hargument _ _ ih =>
      exact (ih (Except.map_eq_error_iff.mp h)).of_suffix (suffix_of_readArgument hargument)
  | case4 => cases h

theorem expected_of_checkArguments {method : MethodName} {place : Nat} {first : Argument}
    {others : List Argument} (h : checkArguments method place first others =
      .error (.unexpectedToken expected found position)) :
    expected = .property ∨ expected = .string := by
  revert h
  fun_cases checkArguments method place first others <;> rintro ⟨⟩
  · exact .inl rfl
  · exact .inr rfl

variable (hproperty : expected ≠ .property) (hstring : expected ≠ .string)
include hproperty hstring

theorem isOperandFault_of_readMethod {method : MethodName} {place : Nat} (hcall : OpensCall items)
    (h : readMethod method place items = .error (.unexpectedToken expected found position)) :
    IsOperandFault items (.unexpectedToken expected found position) := by
  revert h
  fun_cases readMethod method place items with
  | case2 opening rest hopening hother =>
      obtain ⟨parenthesis, _, hnext, hkind, _⟩ := hcall
      rw [hopening] at hnext
      cases hnext
      simp [isKind, hkind] at hother
  | case4 opening rest hopening _ _ fault harguments =>
      rintro ⟨⟩
      exact (isOperandFault_of_readArguments harguments).of_suffix (suffix_of_next? hopening)
  | case5 opening rest hopening _ _ first others left _ fault hcheck =>
      rintro ⟨⟩
      obtain rfl | rfl := expected_of_checkArguments hcheck
      · exact absurd rfl hproperty
      · exact absurd rfl hstring
  | _ => rintro ⟨⟩

omit hproperty hstring in
theorem isOperandFault_of_readRelation
    (h : readRelation items = .error (.unexpectedToken expected found position)) :
    IsOperandFault items (.unexpectedToken expected found position) := by
  revert h
  fun_cases readRelation items with
  | case4 first rest hfirst op value left hvalue _ =>
      intro h
      exact IsOperandFault.of_suffix ⟨value, mem_of_next? hvalue, Except.map_eq_error_iff.mp h⟩
        (suffix_of_next? hfirst)
  | _ => rintro ⟨⟩

omit hstring in
theorem isOperandFault_of_readComparison {word : Token}
    (h : readComparison word items = .error (.unexpectedToken expected found position)) :
    IsOperandFault (.token word :: items) (.unexpectedToken expected found position) := by
  revert h
  fun_cases readComparison word items with
  | case1 fault hword =>
      rintro ⟨⟩
      exact ⟨.token word, List.mem_cons_self, hword⟩
  | case2 =>
      rintro ⟨⟩
      exact absurd rfl hproperty
  | case3 =>
      intro h
      exact (isOperandFault_of_readRelation (Except.map_eq_error_iff.mp h)).of_suffix
        (List.suffix_cons _ _)

theorem isOperandFault_of_readMember (hitems : IsLevel items)
    (h : readMember items = .error (.unexpectedToken expected found position)) :
    IsOperandFault items (.unexpectedToken expected found position) := by
  revert h
  fun_cases readMember items with
  | case2 => rintro ⟨⟩
  | case3 name rest hnext hkind method hmethod =>
      intro h
      have hcall := hitems.opensCall hnext (by simp [Token.isMethod_eq, hkind, hmethod])
      exact (isOperandFault_of_readMethod hproperty hstring hcall h).of_suffix
        (suffix_of_next? hnext)
  | case4 word rest hnext hkind hnone =>
      intro h
      exact (isOperandFault_of_readComparison hproperty h).of_suffix (suffix_cons_of_next? hnext)
  | _ => rintro ⟨⟩

theorem isOperandFault_of_readJoined {joint : Option Connective} (hitems : IsLevel items)
    (h : readJoined joint items = .error (.unexpectedToken expected found position)) :
    IsOperandFault items (.unexpectedToken expected found position) := by
  revert h
  fun_cases readJoined joint items with
  | case1 fault hmember =>
      rintro ⟨⟩
      exact isOperandFault_of_readMember hproperty hstring hitems hmember
  | _ => rintro ⟨⟩

theorem isOperandFault_of_readMembers {joint : Option Connective} (hitems : IsLevel items)
    (h : readMembers joint items = .error (.unexpectedToken expected found position)) :
    IsOperandFault items (.unexpectedToken expected found position) := by
  fun_induction readMembers joint items with
  | case1 joint items fault hjoined =>
      cases h
      exact isOperandFault_of_readJoined hproperty hstring hitems hjoined
  | case2 => cases h
  | case3 joint items node connective rest hjoined ih =>
      exact (ih (hitems.of_readJoined hjoined) (Except.map_eq_error_iff.mp h)).of_suffix
        (suffix_of_readJoined hjoined)

/-- A token that is unexpected in a level is one that is read as an operand, unless it is an
operand that does not suit its method or comparison. -/
theorem isOperandFault_of_readClause (hitems : IsLevel items)
    (h : readClause items = .error (.unexpectedToken expected found position)) :
    IsOperandFault items (.unexpectedToken expected found position) :=
  isOperandFault_of_readMembers hproperty hstring hitems (Except.map_eq_error_iff.mp h)

end DocumentFilter
