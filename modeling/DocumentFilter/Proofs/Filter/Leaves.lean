import DocumentFilter.Proofs.Filter.Grammar
import DocumentFilter.Proofs.Filter.Spacing

/-!
# The leaves of a tree

The comparisons and calls of a filter are the leaves of its tree.  An expression is made of the
tokens of its leaves in their order, and besides them has nothing but parentheses and connectives.
So the values of one kind that the operands of the leaves have are those that the tokens of the kind
denote.
-/

namespace DocumentFilter

namespace Node

mutual

/-- The comparisons and calls at a node and below it, in order. -/
def leaves : Node → List Node
  | comparison op left right => [comparison op left right]
  | method name arguments => [method name arguments]
  | group _ members => leavesOfMembers members

/-- The comparisons and calls at several nodes and below them, in order. -/
def leavesOfMembers : List Node → List Node
  | [] => []
  | node :: rest => node.leaves ++ leavesOfMembers rest

end

end Node

/-- The comparisons and calls of a tree, in order. -/
def Group.leaves (group : Group) : List Node := Node.leavesOfMembers group.members

namespace Grammar

/-- The tokens are those of the leaves, in the same order, and of parentheses and connectives. -/
inductive AreLeaves : List Token → List Node → Prop
  | nil : AreLeaves [] []
  | leaf {span rest : List Token} {node : Node} {nodes : List Node} :
      IsLeaf span node → AreLeaves rest nodes → AreLeaves (span ++ rest) (node :: nodes)
  | paren {token : Token} {rest : List Token} {nodes : List Node} :
      token.kind = .openParen ∨ token.kind = .closeParen → AreLeaves rest nodes →
      AreLeaves (token :: rest) nodes
  | connective {connective : Connective} {position : Nat} {rest : List Token}
      {nodes : List Node} :
      AreLeaves rest nodes → AreLeaves (⟨.word, connective.word, position⟩ :: rest) nodes

namespace AreLeaves

theorem append {tokens more : List Token} {nodes others : List Node}
    (h : AreLeaves tokens nodes) (hmore : AreLeaves more others) :
    AreLeaves (tokens ++ more) (nodes ++ others) := by
  induction h with
  | nil => exact hmore
  | leaf hleaf _ ih =>
      rw [List.append_assoc]
      exact .leaf hleaf ih
  | paren hparen _ ih => exact .paren hparen ih
  | connective _ ih => exact .connective ih

theorem exists_span {tokens : List Token} {nodes : List Node} (h : AreLeaves tokens nodes) :
    ∀ node ∈ nodes, ∃ span, IsLeaf span node ∧ span ⊆ tokens := by
  induction h with
  | nil => exact fun node hnode => absurd hnode List.not_mem_nil
  | @leaf span rest first nodes hleaf _ ih =>
      intro node hnode
      obtain rfl | hnode := List.mem_cons.mp hnode
      · exact ⟨span, hleaf, List.subset_append_left span rest⟩
      · obtain ⟨other, hother, hsubset⟩ := ih node hnode
        exact ⟨other, hother, List.subset_append_of_subset_right span hsubset⟩
  | paren _ _ ih =>
      intro node hnode
      obtain ⟨span, hspan, hsubset⟩ := ih node hnode
      exact ⟨span, hspan, List.subset_cons_of_subset _ hsubset⟩
  | connective _ ih =>
      intro node hnode
      obtain ⟨span, hspan, hsubset⟩ := ih node hnode
      exact ⟨span, hspan, List.subset_cons_of_subset _ hsubset⟩

end AreLeaves

theorem IsLeaf.areLeaves {tokens : List Token} {node : Node} (h : IsLeaf tokens node) :
    AreLeaves tokens node.leaves := by
  have hleaf := AreLeaves.leaf h .nil
  rw [List.append_nil] at hleaf
  cases h with
  | comparison => exact hleaf
  | call => exact hleaf

mutual

theorem IsMember.areLeaves {tokens : List Token} {node : Node} :
    IsMember tokens node → AreLeaves tokens node.leaves
  | .leaf hleaf => hleaf.areLeaves
  | .group hopening hclosing hinside => by
      have hleaves := hinside.areLeaves.append (.paren (.inr hclosing) .nil)
      rw [List.append_nil] at hleaves
      exact .paren (.inl hopening) hleaves

theorem IsJoined.areLeaves {connective : Connective} {tokens : List Token} {nodes : List Node} :
    IsJoined connective tokens nodes → AreLeaves tokens (Node.leavesOfMembers nodes)
  | .last hmember => by
      rw [Node.leavesOfMembers, Node.leavesOfMembers, List.append_nil]
      exact .connective hmember.areLeaves
  | .more hmember hjoined => .connective (hmember.areLeaves.append hjoined.areLeaves)

/-- The tokens of an expression are those of the leaves of its tree, in order, and of parentheses
and connectives. -/
theorem IsExpression.areLeaves {tokens : List Token} {group : Group} :
    IsExpression tokens group → AreLeaves tokens group.leaves
  | .single hmember => by
      rw [Group.leaves, Node.leavesOfMembers, Node.leavesOfMembers, List.append_nil]
      exact hmember.areLeaves
  | .joined hmember hjoined => hmember.areLeaves.append hjoined.areLeaves

end

end Grammar

/-! ## The values of an expression -/

/-- The operands of a comparison or a call, in order. -/
def Node.operands : Node → List Operand
  | comparison _ left right => [left, right]
  | method _ arguments => arguments
  | group _ _ => []

/-- A token of the kind is a value wherever it stands. -/
@[simp]
def TokenKind.isLiteral : TokenKind → Bool
  | string | number | date => true
  | _ => false

variable {β : Type} {kind : TokenKind} {f : Token → β}

namespace Token

/-- What the tokens of a kind denote, in order. -/
def valuesOf (kind : TokenKind) (f : Token → β) (tokens : List Token) : List β :=
  (tokens.filter (·.kind = kind)).map f

theorem valuesOf_append (left right : List Token) :
    valuesOf kind f (left ++ right) = valuesOf kind f left ++ valuesOf kind f right := by
  rw [valuesOf, List.filter_append, List.map_append]
  rfl

theorem valuesOf_cons_of_ne {token : Token} (hkind : token.kind ≠ kind) (rest : List Token) :
    valuesOf kind f (token :: rest) = valuesOf kind f rest := by
  rw [valuesOf, List.filter_cons_of_neg (by simpa using hkind)]
  rfl

theorem kind_ne_of_not_isLiteral {token : Token} (hkind : kind.isLiteral = true)
    (htoken : token.kind.isLiteral = false) : token.kind ≠ kind := by
  rintro rfl
  rw [hkind] at htoken
  cases htoken

theorem valuesOf_cons_of_not_isLiteral {token : Token} (hkind : kind.isLiteral = true)
    (htoken : token.kind.isLiteral = false) (rest : List Token) :
    valuesOf kind f (token :: rest) = valuesOf kind f rest :=
  valuesOf_cons_of_ne (kind_ne_of_not_isLiteral hkind htoken) rest

theorem valuesOf_cons (token : Token) (rest : List Token) :
    valuesOf kind f (token :: rest) = valuesOf kind f [token] ++ valuesOf kind f rest :=
  valuesOf_append [token] rest

theorem valuesOf_dropSpaces (hkind : kind.isLiteral = true) (tokens : List Token) :
    valuesOf kind f (dropSpaces tokens) = valuesOf kind f tokens := by
  rw [valuesOf, dropSpaces, List.filter_filter]
  refine congrArg (List.map f) (List.filter_congr fun token _ => ?_)
  by_cases hblank : token.kind = .whitespace
  · have hother : token.kind ≠ kind := kind_ne_of_not_isLiteral hkind (by simp [hblank])
    simp [hother]
  · simp [hblank]

end Token

namespace Grammar

open Token

variable {ofOperand : Operand → List β} {tokens : List Token}

/-- What is taken from an operand is what its token denotes, if the token is of the kind. -/
def TakesValues (kind : TokenKind) (f : Token → β) (ofOperand : Operand → List β)
    (tokens : List Token) : Prop :=
  ∀ token ∈ tokens, ∀ operand, IsValue token operand → ofOperand operand = valuesOf kind f [token]

theorem TakesValues.property_eq_nil (h : TakesValues kind f ofOperand tokens)
    (hkind : kind.isLiteral = true) {word : Token} (hmem : word ∈ tokens) (hword : word.kind = .word)
    (hproperty : IsProperty word.text) : ofOperand (.property word.text) = [] := by
  obtain ⟨_, text, position⟩ := word
  cases hword
  rw [h _ hmem _ (.property hproperty), valuesOf_cons_of_not_isLiteral hkind rfl]
  rfl

theorem IsFurther.flatMap_operands {operands : List Operand} (h : IsFurther tokens operands)
    (hkind : kind.isLiteral = true) (htakes : TakesValues kind f ofOperand tokens) :
    operands.flatMap ofOperand = valuesOf kind f tokens := by
  induction h with
  | nil => rfl
  | @cons value operand tokens operands position hvalue _ ih =>
      obtain ⟨_, hfirst, hrest⟩ := by simpa only [TakesValues, List.forall_mem_cons] using htakes
      rw [valuesOf_cons_of_not_isLiteral hkind rfl, valuesOf_cons, List.flatMap_cons,
        hfirst operand hvalue, ih hrest]

theorem IsLeaf.flatMap_operands {node : Node} (h : IsLeaf tokens node)
    (hkind : kind.isLiteral = true) (htakes : TakesValues kind f ofOperand tokens) :
    node.operands.flatMap ofOperand = valuesOf kind f tokens := by
  cases h with
  | @comparison word value op right position hword _ hproperty hvalue _ =>
      have hpath := htakes.property_eq_nil hkind (by simp) hword hproperty
      have hright := htakes value (by simp) right hvalue
      rw [valuesOf_cons_of_not_isLiteral hkind (by simp [hword]),
        valuesOf_cons_of_not_isLiteral hkind rfl, ← hright]
      simp [Node.operands, hpath]
  | @call method opening property closing further operands position hopening hclosing hproperty
      hname hfurther _ =>
      have hpath := htakes.property_eq_nil hkind (by simp) hproperty hname
      have hfurther := hfurther.flatMap_operands hkind fun value hmem =>
        htakes value (by simp [hmem])
      rw [valuesOf_cons_of_not_isLiteral hkind rfl,
        valuesOf_cons_of_not_isLiteral hkind (by simp [hopening]),
        valuesOf_cons_of_not_isLiteral hkind (by simp [hproperty]),
        valuesOf_append, ← hfurther,
        valuesOf_cons_of_not_isLiteral hkind (by simp [hclosing])]
      simp [Node.operands, hpath, valuesOf]

/-- The operands of all leaves have the values of the expression. -/
theorem AreLeaves.flatMap_operands {nodes : List Node} (h : AreLeaves tokens nodes)
    (hkind : kind.isLiteral = true) (htakes : TakesValues kind f ofOperand tokens) :
    nodes.flatMap (·.operands.flatMap ofOperand) = valuesOf kind f tokens := by
  induction h with
  | nil => rfl
  | leaf hleaf _ ih =>
      obtain ⟨hspan, hrest⟩ := List.forall_mem_append.mp htakes
      rw [List.flatMap_cons, valuesOf_append, hleaf.flatMap_operands hkind hspan, ih hrest]
  | @paren token rest nodes hparen _ ih =>
      have hother : token.kind.isLiteral = false := by
        rcases hparen with hopening | hclosing
        · simp [hopening]
        · simp [hclosing]
      rw [valuesOf_cons_of_not_isLiteral hkind hother, ih (List.forall_mem_cons.mp htakes).2]
  | connective _ ih =>
      rw [valuesOf_cons_of_not_isLiteral hkind rfl, ih (List.forall_mem_cons.mp htakes).2]

end Grammar
end DocumentFilter
