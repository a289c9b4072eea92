import DocumentFilter.Filter.Clause

/-!
# The grammar of filters

The grammar says which tokens are an expression, and of which tree.  Spaces do not occur in it: an
expression is a member, or several members joined by one connective, and a member is a comparison,
a call or an expression in parentheses.
-/

namespace DocumentFilter

namespace Node

mutual

/-- The groups in parentheses at a node and below it. -/
def groups : Node → List Group
  | group connective members => ⟨connective, members⟩ :: groupsOfMembers members
  | _ => []

/-- The groups in parentheses at several nodes and below them. -/
def groupsOfMembers : List Node → List Group
  | [] => []
  | node :: rest => node.groups ++ groupsOfMembers rest

end

mutual

/-- A node is as deep as the deepest of its groups. -/
theorem depth_le_iff (limit : Nat) : ∀ node : Node,
    node.depth ≤ limit ↔ ∀ inner ∈ node.groups, inner.depth ≤ limit
  | comparison _ _ _ => by simp [depth, groups]
  | method _ _ => by simp [depth, groups]
  | group connective members => by
      have hmembers := depthOfMembers_le_iff limit members
      simp only [depth, groups, List.mem_cons, forall_eq_or_imp, Group.depth]
      constructor
      · intro hdepth
        exact ⟨hdepth, hmembers.mp (by omega)⟩
      · exact fun hdepth => hdepth.1

theorem depthOfMembers_le_iff (limit : Nat) : ∀ members : List Node,
    depthOfMembers members ≤ limit ↔
      ∀ inner ∈ groupsOfMembers members, inner.depth ≤ limit
  | [] => by simp [depthOfMembers, groupsOfMembers]
  | node :: rest => by
      have hnode := depth_le_iff limit node
      have hrest := depthOfMembers_le_iff limit rest
      simp only [depthOfMembers, groupsOfMembers, List.mem_append, Nat.max_le, hnode, hrest]
      constructor
      · rintro ⟨hinner, houter⟩ inner (hmem | hmem)
        · exact hinner inner hmem
        · exact houter inner hmem
      · intro hall
        exact ⟨fun inner hmem => hall inner (.inl hmem), fun inner hmem => hall inner (.inr hmem)⟩

end

end Node

namespace Grammar

/-- A word that names a property, not a literal. -/
def IsProperty (text : String) : Prop := text ≠ "true" ∧ text ≠ "false" ∧ text ≠ "null"

/-- A token that stands for a value. -/
inductive IsValue : Token → Operand → Prop
  | string {text : String} {position : Nat} :
      IsValue ⟨.string, text, position⟩ (.literal (.string (some text)))
  | number {text : String} {position : Nat} {n : Int} :
      Decimal.signed64? text.toList = some n →
      IsValue ⟨.number, text, position⟩ (.literal (.number n))
  | date {text : String} {position : Nat} {instant : Instant} :
      Instant.ofText? text.toList = some instant →
      IsValue ⟨.date, text, position⟩ (.literal (.date instant))
  | trueWord {position : Nat} : IsValue ⟨.word, "true", position⟩ (.literal (.boolean true))
  | falseWord {position : Nat} : IsValue ⟨.word, "false", position⟩ (.literal (.boolean false))
  | nullWord {position : Nat} : IsValue ⟨.word, "null", position⟩ (.literal (.string none))
  | property {text : String} {position : Nat} :
      IsProperty text → IsValue ⟨.word, text, position⟩ (.property text)

/-- Values, each after a comma. -/
inductive IsFurther : List Token → List Operand → Prop
  | nil : IsFurther [] []
  | cons {value : Token} {operand : Operand} {tokens : List Token} {operands : List Operand}
      {position : Nat} :
      IsValue value operand → IsFurther tokens operands →
      IsFurther (⟨.symbol, ",", position⟩ :: value :: tokens) (operand :: operands)

/-- The methods that look into a text take a quoted text after the property and nothing else; the
others take any values. -/
def TakesArguments (method : MethodName) (operands : List Operand) : Prop :=
  method = .contains ∨ method = .startsWith ∨ method = .endsWith →
    ∃ text, operands = [.literal (.string (some text))]

/-- A comparison or a call.  A comparison has no method name for its sides, because such a word
starts a call; the arguments of a call are free. -/
inductive IsLeaf : List Token → Node → Prop
  | comparison {word value : Token} {op : ComparisonOp} {right : Operand} {position : Nat} :
      word.kind = .word → word.isMethod = false → IsProperty word.text →
      IsValue value right → value.isMethod = false →
      IsLeaf [word, ⟨.word, op.word, position⟩, value] (.comparison op (.property word.text) right)
  | call {method : MethodName} {opening property closing : Token} {further : List Token}
      {operands : List Operand} {position : Nat} :
      opening.kind = .openParen → closing.kind = .closeParen →
      property.kind = .word → IsProperty property.text →
      IsFurther further operands → TakesArguments method operands →
      IsLeaf (⟨.word, method.word, position⟩ :: opening :: property :: (further ++ [closing]))
        (.method method (.property property.text :: operands))

mutual

/-- A member of a group. -/
inductive IsMember : List Token → Node → Prop
  | leaf {tokens : List Token} {node : Node} : IsLeaf tokens node → IsMember tokens node
  | group {opening closing : Token} {tokens : List Token} {group : Group} :
      opening.kind = .openParen → closing.kind = .closeParen → IsExpression tokens group →
      IsMember (opening :: (tokens ++ [closing])) group.toNode

/-- Members, at least one, each after the word of a connective. -/
inductive IsJoined : Connective → List Token → List Node → Prop
  | last {connective : Connective} {tokens : List Token} {node : Node} {position : Nat} :
      IsMember tokens node →
      IsJoined connective (⟨.word, connective.word, position⟩ :: tokens) [node]
  | more {connective : Connective} {tokens rest : List Token} {node : Node} {nodes : List Node}
      {position : Nat} :
      IsMember tokens node → IsJoined connective rest nodes →
      IsJoined connective (⟨.word, connective.word, position⟩ :: (tokens ++ rest)) (node :: nodes)

/-- One member, or several that the same connective joins. -/
inductive IsExpression : List Token → Group → Prop
  | single {tokens : List Token} {node : Node} :
      IsMember tokens node → IsExpression tokens ⟨none, [node]⟩
  | joined {connective : Connective} {tokens rest : List Token} {node : Node}
      {nodes : List Node} :
      IsMember tokens node → IsJoined connective rest nodes →
      IsExpression (tokens ++ rest) ⟨some connective, node :: nodes⟩

end

theorem wordOperand_of_isProperty {text : String} (h : IsProperty text) :
    Token.wordOperand text = .property text := by
  obtain ⟨htrue, hfalse, hnull⟩ := h
  unfold Token.wordOperand
  split
  · exact absurd rfl htrue
  · exact absurd rfl hfalse
  · exact absurd rfl hnull
  · rfl

theorem isValue_wordOperand (text : String) (position : Nat) :
    IsValue ⟨.word, text, position⟩ (Token.wordOperand text) := by
  unfold Token.wordOperand
  split
  · exact .trueWord
  · exact .falseWord
  · exact .nullWord
  · next htrue hfalse hnull => exact .property ⟨htrue, hfalse, hnull⟩

/-- A token is read as a value just as the grammar says. -/
theorem operand_eq_ok_iff {token : Token} {operand : Operand} :
    token.operand = .ok operand ↔ IsValue token operand := by
  constructor
  · intro h
    obtain ⟨kind, text, position⟩ := token
    cases kind with
    | string =>
        cases h
        exact .string
    | word =>
        cases h
        exact isValue_wordOperand text position
    | number =>
        cases hnumber : Decimal.signed64? text.toList with
        | none => simp [Token.operand, hnumber] at h
        | some n =>
            simp only [Token.operand, hnumber, Except.ok.injEq] at h
            rw [← h]
            exact .number hnumber
    | date =>
        cases hdate : Instant.ofText? text.toList with
        | none => simp [Token.operand, hdate] at h
        | some instant =>
            simp only [Token.operand, hdate, Except.ok.injEq] at h
            rw [← h]
            exact .date hdate
    | whitespace => cases h
    | openParen => cases h
    | closeParen => cases h
    | symbol => cases h
  · intro h
    cases h with
    | string => rfl
    | number hnumber => simp [Token.operand, hnumber]
    | date hdate => simp [Token.operand, hdate]
    | trueWord => rfl
    | falseWord => rfl
    | nullWord => rfl
    | property hproperty => simp [Token.operand, wordOperand_of_isProperty hproperty]

theorem IsValue.kind_ne {token : Token} {operand : Operand} {kind : TokenKind}
    (h : IsValue token operand)
    (hkind : kind ∈ [TokenKind.whitespace, .openParen, .closeParen, .symbol]) :
    token.kind ≠ kind := by
  rintro rfl
  cases h <;> simp at hkind

theorem checkArguments_of_arity {method : MethodName} (harity : method.arity? = some 2)
    {position : Nat} {first : Clause.Argument} (hfirst : first.operand.isProperty = true)
    (others : List Clause.Argument) :
    Clause.checkArguments method position first others = .ok () ↔
      ∃ text, others.map (·.operand) = [.literal (.string (some text))] := by
  unfold Clause.checkArguments
  simp only [hfirst, harity]
  match others with
  | [] => simp
  | [⟨operand, place⟩] =>
      cases operand with
      | property name => simp [Operand.isText]
      | literal value =>
          cases value with
          | string text => cases text <;> simp [Operand.isText]
          | number _ => simp [Operand.isText]
          | boolean _ => simp [Operand.isText]
          | date _ => simp [Operand.isText]
  | _ :: _ :: _ => simp

/-- The checks on arguments let those pass that the method takes after a property. -/
theorem checkArguments_eq_ok_iff {method : MethodName} {position : Nat}
    {first : Clause.Argument} {others : List Clause.Argument} :
    Clause.checkArguments method position first others = .ok () ↔
      first.operand.isProperty = true ∧ TakesArguments method (others.map (·.operand)) := by
  cases hfirst : first.operand.isProperty with
  | false => simp [Clause.checkArguments, hfirst]
  | true =>
      cases method with
      | contains => simpa [TakesArguments] using checkArguments_of_arity rfl hfirst others
      | startsWith => simpa [TakesArguments] using checkArguments_of_arity rfl hfirst others
      | endsWith => simpa [TakesArguments] using checkArguments_of_arity rfl hfirst others
      | isIn => simp [Clause.checkArguments, hfirst, TakesArguments, MethodName.arity?]
      | notIn => simp [Clause.checkArguments, hfirst, TakesArguments, MethodName.arity?]

end Grammar
end DocumentFilter
