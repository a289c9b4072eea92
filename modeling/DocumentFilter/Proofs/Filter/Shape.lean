import DocumentFilter.Proofs.Filter.Soundness

/-!
# The shape of trees

Every tree that is read has a property on the left of a comparison and in front of the arguments of
a call, a text in the methods that look into one, and a connective in just the groups that have
something to join.
-/

namespace DocumentFilter

open Grammar

/-- A member of the shape that the grammar gives it. -/
inductive Node.WellFormed : Node → Prop
  | comparison {op : ComparisonOp} {name : String} {right : Operand} :
      IsProperty name → WellFormed (.comparison op (.property name) right)
  | call {method : MethodName} {name : String} {operands : List Operand} :
      IsProperty name → TakesArguments method operands →
      WellFormed (.method method (.property name :: operands))
  | single {node : Node} : WellFormed node → WellFormed (.group none [node])
  | joined {connective : Connective} {members : List Node} :
      2 ≤ members.length → (∀ node ∈ members, WellFormed node) →
      WellFormed (.group (some connective) members)

namespace Grammar

theorem IsLeaf.wellFormed {tokens : List Token} {node : Node} (h : IsLeaf tokens node) :
    node.WellFormed := by
  cases h with
  | comparison _ _ hname _ _ => exact .comparison hname
  | call _ _ _ hname _ htakes => exact .call hname htakes

theorem IsJoined.length_pos {connective : Connective} {tokens : List Token} {nodes : List Node}
    (h : IsJoined connective tokens nodes) : 1 ≤ nodes.length := by
  cases h <;> simp

mutual

theorem IsMember.wellFormed {tokens : List Token} {node : Node} :
    IsMember tokens node → node.WellFormed
  | .leaf hleaf => hleaf.wellFormed
  | .group _ _ hinside => hinside.wellFormed

theorem IsJoined.wellFormed {connective : Connective} {tokens : List Token} {nodes : List Node} :
    IsJoined connective tokens nodes → ∀ node ∈ nodes, node.WellFormed
  | .last hmember => by
      have hlast := hmember.wellFormed
      exact List.forall_mem_singleton.mpr hlast
  | .more hmember hjoined => by
      have hfirst := hmember.wellFormed
      have hothers := hjoined.wellFormed
      exact List.forall_mem_cons.mpr ⟨hfirst, hothers⟩

/-- The tree of an expression is well-formed. -/
theorem IsExpression.wellFormed {tokens : List Token} {group : Group} :
    IsExpression tokens group → group.toNode.WellFormed
  | .single hmember => .single hmember.wellFormed
  | .joined hmember hjoined => by
      have hfirst := hmember.wellFormed
      have hothers := hjoined.wellFormed
      exact .joined (Nat.succ_le_succ hjoined.length_pos)
        (List.forall_mem_cons.mpr ⟨hfirst, hothers⟩)

end

end Grammar

/-- A tree that is read has no members at all or is well-formed. -/
theorem wellFormed_of_resolve {tokens : List Token} {maxDepth : Nat} {root : Group}
    (h : resolve tokens maxDepth = .ok root) : root = {} ∨ root.toNode.WellFormed := by
  obtain ⟨_, rfl⟩ | ⟨hroot, _⟩ := isExpression_of_resolve h
  · exact .inl rfl
  · exact .inr hroot.wellFormed

end DocumentFilter
