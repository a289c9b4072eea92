import DocumentFilter.Proofs.Filter.Grammar
import DocumentFilter.Proofs.Filter.Readers
import DocumentFilter.Proofs.Filter.Spacing

/-!
# Expressions of the grammar are read

What the grammar derives is read as the tree that it derives.  A leaf is read wherever it stands;
one pass over the tokens of a member leaves an item or items on the level from which the member is
read, and a group in parentheses has become a single item by then.
-/

namespace DocumentFilter

namespace Item

theorem next?_token {token : Token} (hblank : token.kind ≠ .whitespace) (rest : List Item) :
    next? (.token token :: rest) = some (.token token, rest) := by
  rw [next?, if_neg (by simp [isBlank, isKind, hblank])]

end Item

namespace Clause

open Grammar Item

theorem readArgument_of_isValue {value : Token} {operand : Operand}
    (hvalue : IsValue value operand) (separator : Token) (hseparator : separator.kind ≠ .whitespace)
    (rest : List Item) :
    readArgument (.token value :: .token separator :: rest) =
      .ok ((⟨operand, value.position⟩, .token separator), rest) := by
  have hkind : value.kind ≠ .whitespace := hvalue.kind_ne (by decide)
  rw [readArgument_eq_ok_iff]
  exact ⟨_, _, next?_token hkind _, operand_eq_ok_iff.mpr hvalue, rfl, next?_token hseparator rest⟩

theorem readArguments_of_isFurther {further : List Token} {operands : List Operand}
    (hfurther : IsFurther further operands) {value closing : Token} {operand : Operand}
    (hvalue : IsValue value operand) (hclosing : closing.kind = .closeParen) (rest : List Item) :
    ∃ others : List Argument, others.map (·.operand) = operands ∧
      readArguments (.token value :: (further.map .token ++ .token closing :: rest)) =
        .ok ((⟨operand, value.position⟩, others), rest) := by
  induction hfurther generalizing value operand with
  | nil =>
      have hargument := readArgument_of_isValue hvalue closing (by simp [hclosing]) rest
      refine ⟨[], rfl, readArguments_eq_ok_iff.mpr ⟨_, _, hargument, .inl ⟨?_, rfl, rfl⟩⟩⟩
      simp [isKind, hclosing]
  | @cons next nextOperand tokens operands position hnext _ ih =>
      obtain ⟨others, hothers, hmore⟩ := ih hnext
      have hargument := readArgument_of_isValue hvalue ⟨.symbol, ",", position⟩ (by simp)
        (.token next :: (tokens.map .token ++ .token closing :: rest))
      refine ⟨⟨nextOperand, next.position⟩ :: others, by simp [hothers],
        readArguments_eq_ok_iff.mpr ⟨_, _, hargument, .inr ⟨?_, ?_, _, _, hmore, rfl⟩⟩⟩
      · simp [isKind]
      · simp [isComma]

theorem readComparison_of_isValue {word value : Token} {right : Operand}
    (hkind : word.kind = .word) (hproperty : IsProperty word.text) (op : ComparisonOp)
    (position : Nat) (hvalue : IsValue value right) (rest : List Item) :
    readComparison word (.token ⟨.word, op.word, position⟩ :: .token value :: rest) =
      .ok (.comparison op (.property word.text) right, rest) := by
  have hleft : word.operand = .ok (.property word.text) := by
    simp only [Token.operand, hkind, wordOperand_of_isProperty hproperty]
  have hop : (Item.token ⟨.word, op.word, position⟩).comparison? = some op :=
    comparison?_eq_some_iff.mpr ⟨rfl, ComparisonOp.ofWord?_word op⟩
  have hrelation : readRelation (.token ⟨.word, op.word, position⟩ :: .token value :: rest) =
      .ok ((op, right), rest) := by
    rw [readRelation_eq_ok_iff]
    exact ⟨_, _, _, next?_token (by simp) _, hop, next?_token (hvalue.kind_ne (by decide)) rest,
      operand_eq_ok_iff.mpr hvalue⟩
  rw [readComparison_eq_ok_iff]
  exact ⟨_, op, right, hleft, rfl, hrelation, rfl⟩

theorem readMethod_of_isFurther {opening property closing : Token} {further : List Token}
    {operands : List Operand} (method : MethodName) (position : Nat)
    (hopening : opening.kind = .openParen) (hclosing : closing.kind = .closeParen)
    (hkind : property.kind = .word) (hproperty : IsProperty property.text)
    (hfurther : IsFurther further operands) (htakes : TakesArguments method operands)
    (rest : List Item) :
    readMethod method position
        (.token opening :: .token property :: (further.map .token ++ .token closing :: rest)) =
      .ok (.method method (.property property.text :: operands), rest) := by
  have hvalue : IsValue property (.property property.text) := by
    obtain ⟨kind, text, place⟩ := property
    cases hkind
    exact .property hproperty
  obtain ⟨others, hothers, harguments⟩ := readArguments_of_isFurther hfurther hvalue hclosing rest
  have hcheck : checkArguments method position ⟨.property property.text, property.position⟩ others =
      .ok () := by
    rw [checkArguments_eq_ok_iff, hothers]
    exact ⟨rfl, htakes⟩
  rw [readMethod_eq_ok_iff]
  refine ⟨.token opening, _, _, others, next?_token (by simp [hopening]) _, ?_, ?_, harguments,
    hcheck, by rw [hothers]⟩
  · simp [isKind, hopening]
  · rw [next?_token (by simp [hkind])]
    simp [isKind, hkind]

/-- A leaf is read wherever it stands. -/
theorem readMember_of_isLeaf {tokens : List Token} {node : Node} (hleaf : IsLeaf tokens node)
    (rest : List Item) :
    readMember (tokens.map .token ++ rest) = .ok (node, rest) := by
  rw [readMember_eq_ok_iff]
  cases hleaf with
  | @comparison word value op right position hword hname hproperty hvalue _ =>
      have hmethod : MethodName.ofWord? word.text = none := by
        simpa [Token.isMethod_eq, hword] using hname
      refine .inr ⟨word, _, next?_token (by simp [hword]) _, hword, .inr ⟨hmethod, ?_⟩⟩
      exact readComparison_of_isValue hword hproperty op position hvalue rest
  | @call method opening property closing further operands position hopening hclosing hproperty
      hname hfurther htakes =>
      have hread := readMethod_of_isFurther method position hopening hclosing hproperty hname
        hfurther htakes rest
      refine .inr ⟨⟨.word, method.word, position⟩, _, next?_token (by simp) _, rfl,
        .inl ⟨method, MethodName.ofWord?_word method, ?_⟩⟩
      simpa using hread

theorem readMembers_of_last {items : List Item} {node : Node} (joint : Option Connective)
    (hread : readMember items = .ok (node, [])) :
    readMembers joint items = .ok (joint, [node]) := by
  have hjoined : readJoined joint items = .ok (node, none) :=
    readJoined_eq_ok_iff.mpr ⟨[], hread, .inl ⟨rfl, rfl⟩⟩
  exact readMembers_eq_ok_iff.mpr (.inl ⟨node, hjoined, rfl, rfl⟩)

theorem readMembers_of_more {items rest : List Item} {node : Node} {nodes : List Node}
    {joint : Option Connective} {connective : Connective} {position : Nat}
    (hread : readMember items = .ok (node, .token ⟨.word, connective.word, position⟩ :: rest))
    (hjoint : ∀ other ∈ joint, other = connective)
    (hmore : readMembers (some connective) rest = .ok (some connective, nodes)) :
    readMembers joint items = .ok (some connective, node :: nodes) := by
  have hconnective : (Item.token ⟨.word, connective.word, position⟩).connective? =
      some connective :=
    connective?_eq_some_iff.mpr ⟨rfl, Connective.ofWord?_word connective⟩
  have hjoined : readJoined joint items = .ok (node, some (connective, rest)) := by
    rw [readJoined_eq_ok_iff]
    refine ⟨_, hread, .inr ⟨_, rest, connective, ?_, hconnective, hjoint, rfl⟩⟩
    exact next?_token (by simp) rest
  exact readMembers_eq_ok_iff.mpr (.inr ⟨node, connective, rest, nodes, hjoined, hmore, rfl⟩)

end Clause

namespace OnePass

/-- One pass over the tokens, whatever stands before and after them, adds the items to the level
that is read. -/
def Passes (maxDepth : Nat) (tokens : List Token) (items : List Item) : Prop :=
  ∀ pending level rest,
    run maxDepth pending level (tokens ++ rest) = run maxDepth pending (level ++ items) rest

namespace Passes

variable {maxDepth : Nat}

theorem append {tokens more : List Token} {items others : List Item}
    (htokens : Passes maxDepth tokens items) (hmore : Passes maxDepth more others) :
    Passes maxDepth (tokens ++ more) (items ++ others) := by
  intro pending level rest
  rw [List.append_assoc, htokens, hmore, List.append_assoc]

theorem plain {token : Token} (hname : token.isMethod = false) (hopening : token.kind ≠ .openParen)
    (hclosing : token.kind ≠ .closeParen) : Passes maxDepth [token] [.token token] :=
  fun _ _ _ => run_plain hname hopening hclosing

theorem call {name opening closing : Token} {arguments : List Token}
    (hname : name.isMethod = true) (hopening : opening.kind = .openParen)
    (hclosing : closing.kind = .closeParen)
    (harguments : ∀ token ∈ arguments, token.kind ≠ .closeParen) :
    Passes maxDepth (name :: opening :: (arguments ++ [closing]))
      ((name :: opening :: (arguments ++ [closing])).map .token) := by
  intro pending level rest
  have hcall : Token.throughCall (opening :: (arguments ++ closing :: rest)) =
      .ok (opening :: (arguments ++ [closing]), rest) := by
    have hclosed : Token.throughClosing (arguments ++ closing :: rest) =
        .ok (arguments ++ [closing], rest) :=
      Token.throughClosing_eq_ok_iff.mpr ⟨arguments, closing, rfl, rfl, hclosing, harguments⟩
    rw [Token.throughCall, if_neg (by simp [hopening]), if_pos hopening, hclosed]
    rfl
  rw [List.map_cons, List.cons_append, List.cons_append, List.append_assoc, List.singleton_append,
    run_call hname hcall]

/-- A group in parentheses is passed as a single item, unless it is too deep. -/
theorem group {opening closing : Token} {tokens : List Token} {items : List Item} {group : Group}
    (hopening : opening.kind = .openParen) (hclosing : closing.kind = .closeParen)
    (htokens : Passes maxDepth tokens items) (hread : readClause items = .ok group)
    (hdepth : group.depth ≤ maxDepth) :
    Passes maxDepth (opening :: (tokens ++ [closing])) [.group group opening.position] := by
  intro pending level rest
  rw [List.cons_append, run_opening hopening, List.append_assoc, htokens, List.nil_append,
    List.singleton_append, run_closing hclosing, hread, Except.bind,
    if_neg (Nat.not_lt.mpr hdepth)]

end Passes
end OnePass

namespace Grammar

open OnePass

theorem isMethod_word (connective : Connective) (position : Nat) :
    Token.isMethod ⟨.word, connective.word, position⟩ = false := by
  cases connective <;> rfl

theorem isMethod_comparison (op : ComparisonOp) (position : Nat) :
    Token.isMethod ⟨.word, op.word, position⟩ = false := by
  cases op <;> rfl

theorem passes_word (maxDepth : Nat) {text : String} {position : Nat}
    (hname : Token.isMethod ⟨.word, text, position⟩ = false) :
    Passes maxDepth [⟨.word, text, position⟩] [.token ⟨.word, text, position⟩] :=
  .plain hname (by simp) (by simp)

theorem IsFurther.kind_ne {tokens : List Token} {operands : List Operand}
    (h : IsFurther tokens operands) : ∀ token ∈ tokens, token.kind ≠ .closeParen := by
  induction h with
  | nil => exact fun token htoken => absurd htoken List.not_mem_nil
  | @cons value operand tokens operands position hvalue _ ih =>
      intro token htoken
      obtain rfl | htoken := List.mem_cons.mp htoken
      · simp
      · obtain rfl | htoken := List.mem_cons.mp htoken
        · exact hvalue.kind_ne (by decide)
        · exact ih token htoken

theorem IsLeaf.passes {tokens : List Token} {node : Node} (h : IsLeaf tokens node)
    (maxDepth : Nat) : Passes maxDepth tokens (tokens.map .token) := by
  cases h with
  | @comparison word value op right position hword hname _ hvalue hvalueName =>
      have hleft : Passes maxDepth [word] [.token word] :=
        .plain hname (by simp [hword]) (by simp [hword])
      have hop := passes_word maxDepth (isMethod_comparison op position)
      have hright : Passes maxDepth [value] [.token value] :=
        .plain hvalueName (hvalue.kind_ne (by decide)) (hvalue.kind_ne (by decide))
      exact hleft.append (hop.append hright)
  | @call method opening property closing further operands position hopening hclosing hproperty
      _ hfurther _ =>
      have harguments : ∀ token ∈ property :: further, token.kind ≠ .closeParen := by
        intro token htoken
        obtain rfl | htoken := List.mem_cons.mp htoken
        · simp [hproperty]
        · exact hfurther.kind_ne token htoken
      have hname : Token.isMethod ⟨.word, method.word, position⟩ = true := by
        simp [Token.isMethod_eq, MethodName.ofWord?_word]
      exact Passes.call hname hopening hclosing harguments

variable {maxDepth : Nat}

mutual

/-- One pass over a member that is not too deep leaves items from which the member is read. -/
theorem IsMember.reads {tokens : List Token} {node : Node} :
    IsMember tokens node → node.depth ≤ maxDepth →
      ∃ items, Passes maxDepth tokens items ∧
        ∀ rest, Clause.readMember (items ++ rest) = .ok (node, rest)
  | .leaf hleaf, _ => ⟨_, hleaf.passes maxDepth, Clause.readMember_of_isLeaf hleaf⟩
  | @IsMember.group opening closing tokens group hopening hclosing hinside, hdepth => by
      have hmembers : Node.depthOfMembers group.members ≤ maxDepth := by
        rw [Group.depth_toNode, Group.depth] at hdepth
        omega
      obtain ⟨items, hpasses, hread⟩ := hinside.reads hmembers
      exact ⟨_, .group hopening hclosing hpasses hread hdepth, fun rest => rfl⟩

/-- One pass over joined members leaves the connective and items from which they are read. -/
theorem IsJoined.reads {connective : Connective} {tokens : List Token} {nodes : List Node} :
    IsJoined connective tokens nodes → Node.depthOfMembers nodes ≤ maxDepth →
      ∃ position items,
        Passes maxDepth tokens (.token ⟨.word, connective.word, position⟩ :: items) ∧
          Clause.readMembers (some connective) items = .ok (some connective, nodes)
  | @IsJoined.last _ tokens node position hmember, hdepth => by
      have hnode := (Nat.max_le.mp hdepth).1
      obtain ⟨items, hpasses, hread⟩ := hmember.reads hnode
      have hword := passes_word maxDepth (isMethod_word connective position)
      have hlast : Clause.readMember items = .ok (node, []) := by
        simpa using hread []
      exact ⟨position, items, hword.append hpasses, Clause.readMembers_of_last _ hlast⟩
  | @IsJoined.more _ tokens rest node nodes position hmember hjoined, hdepth => by
      obtain ⟨hnode, hnodes⟩ := Nat.max_le.mp hdepth
      obtain ⟨items, hpasses, hread⟩ := hmember.reads hnode
      obtain ⟨next, others, hpassesMore, hmore⟩ := hjoined.reads hnodes
      have hword := passes_word maxDepth (isMethod_word connective position)
      have hjoint : ∀ other ∈ some connective, other = connective := by simp
      exact ⟨position, _, hword.append (hpasses.append hpassesMore),
        Clause.readMembers_of_more (hread _) hjoint hmore⟩

/-- One pass over an expression that is not too deep leaves a clause that is read as its tree. -/
theorem IsExpression.reads {tokens : List Token} {group : Group} :
    IsExpression tokens group → Node.depthOfMembers group.members ≤ maxDepth →
      ∃ items, Passes maxDepth tokens items ∧ readClause items = .ok group
  | @IsExpression.single tokens node hmember, hdepth => by
      have hnode := (Nat.max_le.mp hdepth).1
      obtain ⟨items, hpasses, hread⟩ := hmember.reads hnode
      have hlast : Clause.readMember items = .ok (node, []) := by
        simpa using hread []
      exact ⟨items, hpasses, readClause_eq_ok_iff.mpr (Clause.readMembers_of_last none hlast)⟩
  | @IsExpression.joined connective tokens rest node nodes hmember hjoined, hdepth => by
      obtain ⟨hnode, hnodes⟩ := Nat.max_le.mp hdepth
      obtain ⟨items, hpasses, hread⟩ := hmember.reads hnode
      obtain ⟨next, others, hpassesMore, hmore⟩ := hjoined.reads hnodes
      exact ⟨_, hpasses.append hpassesMore,
        readClause_eq_ok_iff.mpr (Clause.readMembers_of_more (hread _) (by simp) hmore)⟩

end

end Grammar
end DocumentFilter
