import DocumentFilter.Filter.Grouping
import DocumentFilter.Proofs.Filter.Readers

/-!
# The depth of clauses

A clause is one deeper than the deepest group among its items, because every one of these groups
becomes a member.  The depth itself is no fault of a clause, and none of a scan either.
-/

namespace DocumentFilter

/-! ## The depth of what is read from items -/

namespace Item

/-- How many groups are nested in an item. -/
def depth : Item → Nat
  | token _ => 0
  | group g _ => g.depth

/-- The greatest depth of several items. -/
def depthOfItems : List Item → Nat
  | [] => 0
  | item :: rest => max item.depth (depthOfItems rest)

theorem depthOfItems_append (left right : List Item) :
    depthOfItems (left ++ right) = max (depthOfItems left) (depthOfItems right) := by
  induction left with
  | nil => simp [depthOfItems]
  | cons item left ih => rw [List.cons_append, depthOfItems, ih, depthOfItems, Nat.max_assoc]

theorem depthOfItems_tokens (tokens : List Token) : depthOfItems (tokens.map token) = 0 := by
  induction tokens with
  | nil => rfl
  | cons token tokens ih => rw [List.map_cons, depthOfItems, ih, depth, Nat.max_self]

variable {items rest : List Item} {item : Item}

theorem depth_of_isKind {kind : TokenKind} (h : item.isKind kind = true) : item.depth = 0 := by
  cases item with
  | token => rfl
  | group => cases h

theorem depth_of_isComma (h : item.isComma = true) : item.depth = 0 := by
  cases item with
  | token => rfl
  | group => cases h

theorem depth_of_connective? {connective : Connective} (h : item.connective? = some connective) :
    item.depth = 0 := by
  cases item with
  | token => rfl
  | group => cases h

theorem depth_of_comparison? {op : ComparisonOp} (h : item.comparison? = some op) :
    item.depth = 0 := by
  cases item with
  | token => rfl
  | group => cases h

theorem depth_of_operand {operand : Operand} (h : item.operand = .ok operand) :
    item.depth = 0 := by
  cases item with
  | token => rfl
  | group => cases h

theorem depthOfItems_of_next? (h : next? items = some (item, rest)) :
    depthOfItems items = max item.depth (depthOfItems rest) := by
  induction items with
  | nil => cases h
  | cons first items ih =>
      rw [next?] at h
      split at h
      · next hblank =>
          rw [depthOfItems, depth_of_isKind hblank, ih h, Nat.zero_max]
      · cases h
        rfl

theorem depthOfItems_of_next?_none (h : next? items = none) : depthOfItems items = 0 := by
  induction items with
  | nil => rfl
  | cons first items ih =>
      rw [next?] at h
      split at h
      · next hblank => rw [depthOfItems, depth_of_isKind hblank, ih h, Nat.max_self]
      · cases h

end Item

namespace Clause

open Item

variable {items rest : List Item} {node : Node}

theorem depthOfItems_of_readArgument {argument : Argument} {separator : Item}
    (h : readArgument items = .ok ((argument, separator), rest)) :
    depthOfItems items = max separator.depth (depthOfItems rest) := by
  obtain ⟨item, tail, hitem, hoperand, _, hseparator⟩ := readArgument_eq_ok_iff.mp h
  rw [depthOfItems_of_next? hitem, depth_of_operand hoperand, Nat.zero_max,
    depthOfItems_of_next? hseparator]

theorem depthOfItems_of_readArguments {arguments : Argument × List Argument}
    (h : readArguments items = .ok (arguments, rest)) :
    depthOfItems items = depthOfItems rest := by
  fun_induction readArguments items generalizing arguments rest with
  | case2 items argument separator tail hargument hclosing =>
      cases h
      rw [depthOfItems_of_readArgument hargument, depth_of_isKind hclosing, Nat.zero_max]
  | case3 items argument separator tail hargument _ hcomma ih =>
      obtain ⟨⟨_, left⟩, hmore, hresult⟩ := Except.map_eq_ok_iff.mp h
      cases hresult
      rw [depthOfItems_of_readArgument hargument, depth_of_isComma hcomma, Nat.zero_max, ih hmore]
  | _ => cases h

theorem depthOfItems_of_readMethod {method : MethodName} {position : Nat}
    (h : readMethod method position items = .ok (node, rest)) :
    depthOfItems items = max node.depth (depthOfItems rest) := by
  obtain ⟨opening, tail, first, others, hopening, hparen, _, harguments, _, rfl⟩ :=
    readMethod_eq_ok_iff.mp h
  rw [depthOfItems_of_next? hopening, depth_of_isKind hparen,
    depthOfItems_of_readArguments harguments]
  rfl

theorem depthOfItems_of_readComparison {word : Token}
    (h : readComparison word items = .ok (node, rest)) :
    depthOfItems items = max node.depth (depthOfItems rest) := by
  obtain ⟨left, op, right, _, _, hrelation, rfl⟩ := readComparison_eq_ok_iff.mp h
  obtain ⟨item, tail, value, hitem, hop, hvalue, hoperand⟩ := readRelation_eq_ok_iff.mp hrelation
  rw [depthOfItems_of_next? hitem, depth_of_comparison? hop, depthOfItems_of_next? hvalue,
    depth_of_operand hoperand, Nat.zero_max]
  rfl

theorem depthOfItems_of_readMember (h : readMember items = .ok (node, rest)) :
    depthOfItems items = max node.depth (depthOfItems rest) := by
  obtain ⟨group, position, hgroup, rfl⟩ |
      ⟨token, tail, htoken, _, ⟨method, _, hread⟩ | ⟨_, hread⟩⟩ := readMember_eq_ok_iff.mp h
  · rw [depthOfItems_of_next? hgroup]
    rfl
  · rw [depthOfItems_of_next? htoken, depthOfItems_of_readMethod hread, depth, Nat.zero_max]
  · rw [depthOfItems_of_next? htoken, depthOfItems_of_readComparison hread, depth, Nat.zero_max]

theorem depthOfItems_of_readMembers {joint connective : Option Connective} {nodes : List Node}
    (h : readMembers joint items = .ok (connective, nodes)) :
    depthOfItems items = Node.depthOfMembers nodes := by
  fun_induction readMembers joint items generalizing connective nodes with
  | case1 => cases h
  | case2 joint items node hlast =>
      cases h
      obtain ⟨tail, hmember, ⟨hend, _⟩ | ⟨_, _, _, _, _, _, hmore⟩⟩ :=
        readJoined_eq_ok_iff.mp hlast
      · rw [depthOfItems_of_readMember hmember, depthOfItems_of_next?_none hend,
          Node.depthOfMembers, Node.depthOfMembers]
      · cases hmore
  | case3 joint items node connective tail hjoined ih =>
      obtain ⟨⟨found, others⟩, hothers, hresult⟩ := Except.map_eq_ok_iff.mp h
      cases hresult
      obtain ⟨left, hmember, ⟨_, hlast⟩ | ⟨item, _, _, hnext, hconnective, _, hmore⟩⟩ :=
        readJoined_eq_ok_iff.mp hjoined
      · cases hlast
      · cases hmore
        rw [depthOfItems_of_readMember hmember, depthOfItems_of_next? hnext,
          depth_of_connective? hconnective, Nat.zero_max, ih hothers, Node.depthOfMembers]

end Clause

/-- A group is one deeper than the deepest group among the items from which it is read. -/
theorem depth_of_readClause {items : List Item} {group : Group}
    (h : readClause items = .ok group) : group.depth = Item.depthOfItems items + 1 := by
  rw [Clause.depthOfItems_of_readMembers (readClause_eq_ok_iff.mp h), Group.depth]

/-! ## The faults that are not the depth of a group -/

/-- The fault is the depth of a group. -/
def ParseError.isDepth : ParseError → Bool
  | nestingTooDeep _ _ => true
  | _ => false

theorem Token.isDepth_of_operand {token : Token} {fault : ParseError}
    (h : token.operand = .error fault) : fault.isDepth = false := by
  obtain ⟨_, _, _, _, rfl⟩ := token.operand_eq_error h
  rfl

theorem Item.isDepth_of_operand {item : Item} {fault : ParseError}
    (h : item.operand = .error fault) : fault.isDepth = false := by
  obtain ⟨_, _, _, _, rfl⟩ := item.operand_eq_error h
  rfl

namespace Clause

variable {items : List Item} {fault : ParseError}

theorem isDepth_of_readArgument (h : readArgument items = .error fault) :
    fault.isDepth = false := by
  revert h
  fun_cases readArgument items with
  | case2 item rest hitem e hoperand =>
      rintro ⟨⟩
      exact Item.isDepth_of_operand hoperand
  | case4 => rintro ⟨⟩
  | _ =>
      rintro ⟨⟩
      rfl

theorem isDepth_of_readArguments (h : readArguments items = .error fault) :
    fault.isDepth = false := by
  fun_induction readArguments items with
  | case1 items e hargument =>
      cases h
      exact isDepth_of_readArgument hargument
  | case2 => cases h
  | case3 items argument separator tail _ _ _ ih => exact ih (Except.map_eq_error_iff.mp h)
  | case4 =>
      cases h
      rfl

theorem isDepth_of_checkArguments {method : MethodName} {position : Nat} {first : Argument}
    {others : List Argument} (h : checkArguments method position first others = .error fault) :
    fault.isDepth = false := by
  revert h
  fun_cases checkArguments method position first others <;> rintro ⟨⟩ <;> rfl

theorem isDepth_of_readMethod {method : MethodName} {position : Nat}
    (h : readMethod method position items = .error fault) : fault.isDepth = false := by
  revert h
  fun_cases readMethod method position items with
  | case4 opening tail _ _ _ e harguments =>
      rintro ⟨⟩
      exact isDepth_of_readArguments harguments
  | case5 opening tail _ _ _ first others left _ e hcheck =>
      rintro ⟨⟩
      exact isDepth_of_checkArguments hcheck
  | case6 => rintro ⟨⟩
  | _ =>
      rintro ⟨⟩
      rfl

theorem isDepth_of_readRelation (h : readRelation items = .error fault) :
    fault.isDepth = false := by
  revert h
  fun_cases readRelation items with
  | case4 first tail _ op item left _ _ =>
      exact fun h => Item.isDepth_of_operand (Except.map_eq_error_iff.mp h)
  | _ =>
      rintro ⟨⟩
      rfl

theorem isDepth_of_readComparison {word : Token} (h : readComparison word items = .error fault) :
    fault.isDepth = false := by
  revert h
  fun_cases readComparison word items with
  | case1 e hleft =>
      rintro ⟨⟩
      exact Token.isDepth_of_operand hleft
  | case2 =>
      rintro ⟨⟩
      rfl
  | case3 => exact fun h => isDepth_of_readRelation (Except.map_eq_error_iff.mp h)

theorem isDepth_of_readMember (h : readMember items = .error fault) : fault.isDepth = false := by
  revert h
  fun_cases readMember items with
  | case2 => rintro ⟨⟩
  | case3 => exact isDepth_of_readMethod
  | case4 => exact isDepth_of_readComparison
  | _ =>
      rintro ⟨⟩
      rfl

theorem isDepth_of_readJoined {joint : Option Connective}
    (h : readJoined joint items = .error fault) : fault.isDepth = false := by
  revert h
  fun_cases readJoined joint items with
  | case1 e hmember =>
      rintro ⟨⟩
      exact isDepth_of_readMember hmember
  | case2 => rintro ⟨⟩
  | case5 => rintro ⟨⟩
  | _ =>
      rintro ⟨⟩
      rfl

theorem isDepth_of_readMembers {joint : Option Connective}
    (h : readMembers joint items = .error fault) : fault.isDepth = false := by
  fun_induction readMembers joint items with
  | case1 joint items e hjoined =>
      cases h
      exact isDepth_of_readJoined hjoined
  | case2 => cases h
  | case3 joint items node connective tail _ ih => exact ih (Except.map_eq_error_iff.mp h)

end Clause

/-- A clause has other faults than the depth of a group. -/
theorem isDepth_of_readClause {items : List Item} {fault : ParseError}
    (h : readClause items = .error fault) : fault.isDepth = false :=
  Clause.isDepth_of_readMembers (Except.map_eq_error_iff.mp h)

theorem Scan.fault_of_run {scan : Scan} {stage : Stage} {items : List Item} {fault : ParseError}
    (h : scan.run stage items = .error fault) :
    fault = .unexpectedEndOfExpression ∨
      ∃ position, fault = .unexpectedToken .openParen ")" position := by
  fun_induction run scan stage items with
  | case2 => cases h
  | case4 scan item rest _ ih => exact ih h
  | case5 scan item rest _ _ ih => exact ih h
  | case7 scan item rest ih => exact ih h
  | case8 scan group position rest ih => exact ih h
  | case9 scan token rest _ ih => exact ih h
  | case10 scan token rest _ _ ih => exact ih h
  | case11 => cases h
  | case12 scan token =>
      cases h
      exact .inr ⟨token.position, rfl⟩
  | case13 scan token rest _ _ _ ih => exact ih h
  | _ =>
      cases h
      exact .inl rfl

/-- Parentheses have other faults than the depth of a group. -/
theorem Scan.isDepth_of_run {scan : Scan} {stage : Stage} {items : List Item} {fault : ParseError}
    (h : scan.run stage items = .error fault) : fault.isDepth = false := by
  obtain rfl | ⟨position, rfl⟩ := fault_of_run h
  · rfl
  · rfl

end DocumentFilter
