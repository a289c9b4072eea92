import DocumentFilter.Proofs.Filter.Completeness

/-!
# What is read is an expression of the grammar

The levels of one pass over an expression without spaces stand for its tokens: a token for itself
and a group for the expression between its parentheses.  What is read from a level is what the
grammar derives from the tokens that the level stands for.
-/

namespace DocumentFilter
namespace Grammar

open Clause Item

theorem IsValue.property_of_isProperty {value : Token} {operand : Operand}
    (h : IsValue value operand) (hproperty : operand.isProperty = true) :
    value.kind = .word ∧ IsProperty value.text ∧ operand = .property value.text := by
  cases h with
  | property hname => exact ⟨rfl, hname, rfl⟩
  | _ => cases hproperty

/-- The items of a level stand for tokens. -/
inductive StandsFor (maxDepth : Nat) : List Item → List Token → Prop
  | nil : StandsFor maxDepth [] []
  | group {opening closing : Token} {inside tokens : List Token} {group : Group}
      {items : List Item} :
      opening.kind = .openParen → closing.kind = .closeParen → IsExpression inside group →
      group.depth ≤ maxDepth → StandsFor maxDepth items tokens →
      StandsFor maxDepth (.group group opening.position :: items)
        (opening :: (inside ++ closing :: tokens))
  | plain {token : Token} {tokens : List Token} {items : List Item} :
      token.kind ≠ .whitespace → token.isMethod = false → token.kind ≠ .openParen →
      token.kind ≠ .closeParen → StandsFor maxDepth items tokens →
      StandsFor maxDepth (.token token :: items) (token :: tokens)
  | call {name opening closing : Token} {arguments tokens : List Token} {items : List Item} :
      name.isMethod = true → opening.kind = .openParen → closing.kind = .closeParen →
      (∀ token ∈ arguments, token.kind ≠ .whitespace ∧ token.kind ≠ .closeParen) →
      StandsFor maxDepth items tokens →
      StandsFor maxDepth
        (.token name :: .token opening :: (arguments.map .token ++ .token closing :: items))
        (name :: opening :: (arguments ++ closing :: tokens))

variable {maxDepth : Nat}

namespace StandsFor

theorem append {items others : List Item} {tokens more : List Token}
    (h : StandsFor maxDepth items tokens) (hmore : StandsFor maxDepth others more) :
    StandsFor maxDepth (items ++ others) (tokens ++ more) := by
  induction h with
  | nil => exact hmore
  | @group opening closing inside tokens group items hopening hclosing hinside hdepth _ ih =>
      rw [List.cons_append, List.cons_append, List.append_assoc, List.cons_append]
      exact .group hopening hclosing hinside hdepth ih
  | plain hblank hname hopening hclosing _ ih => exact .plain hblank hname hopening hclosing ih
  | call hname hopening hclosing harguments _ ih =>
      simp only [List.cons_append, List.append_assoc]
      exact .call hname hopening hclosing harguments ih

theorem eq_cons_of_next? {items rest : List Item} {tokens : List Token} {item : Item}
    (h : StandsFor maxDepth items tokens) (hnext : next? items = some (item, rest)) :
    items = item :: rest := by
  cases h with
  | nil => cases hnext
  | group =>
      cases hnext
      rfl
  | plain hblank =>
      rw [next?_token hblank] at hnext
      cases hnext
      rfl
  | call hname =>
      rw [next?_token (Token.kind_ne_whitespace_of_isMethod hname)] at hnext
      cases hnext
      rfl

theorem eq_nil_of_next? {items : List Item} {tokens : List Token}
    (h : StandsFor maxDepth items tokens) (hend : next? items = none) : tokens = [] := by
  cases h with
  | nil => rfl
  | group => cases hend
  | plain hblank =>
      rw [next?_token hblank] at hend
      cases hend
  | call hname =>
      rw [next?_token (Token.kind_ne_whitespace_of_isMethod hname)] at hend
      cases hend

end StandsFor

theorem isValue_of_readArgument {value : Token} (hvalue : value.kind ≠ .whitespace)
    {items rest : List Item} {argument : Argument} {separator : Item}
    (hread : readArgument (.token value :: items) = .ok ((argument, separator), rest)) :
    IsValue value argument.operand ∧ next? items = some (separator, rest) := by
  obtain ⟨item, tail, hitem, hoperand, _, hseparator⟩ := readArgument_eq_ok_iff.mp hread
  rw [next?_token hvalue] at hitem
  cases hitem
  exact ⟨operand_eq_ok_iff.mp hoperand, hseparator⟩

theorem isFurther_of_readArguments {closing : Token} (hclosing : closing.kind = .closeParen)
    {items rest : List Item} : ∀ (arguments : List Token) {first : Argument}
      {others : List Argument},
    (∀ token ∈ arguments, token.kind ≠ .whitespace ∧ token.kind ≠ .closeParen) →
    readArguments (arguments.map .token ++ .token closing :: items) =
      .ok ((first, others), rest) →
    rest = items ∧ ∃ value further, arguments = value :: further ∧
      IsValue value first.operand ∧ IsFurther further (others.map (·.operand))
  | [], first, others, _, hread => by
      obtain ⟨_, _, hargument, _⟩ := readArguments_eq_ok_iff.mp hread
      have hvalue := (isValue_of_readArgument (by simp [hclosing]) hargument).1
      exact absurd hclosing (hvalue.kind_ne (by decide))
  | [value], first, others, harguments, hread => by
      obtain ⟨separator, tail, hargument, hafter⟩ := readArguments_eq_ok_iff.mp hread
      have hblank := (harguments value List.mem_cons_self).1
      obtain ⟨hvalue, hnext⟩ := isValue_of_readArgument hblank hargument
      change next? (.token closing :: items) = some (separator, tail) at hnext
      rw [next?_token (by simp [hclosing])] at hnext
      cases hnext
      obtain ⟨_, rfl, rfl⟩ | ⟨hopen, _⟩ := hafter
      · exact ⟨rfl, value, [], rfl, hvalue, .nil⟩
      · simp [isKind, hclosing] at hopen
  | value :: separator :: further, first, others, harguments, hread => by
      obtain ⟨item, tail, hargument, hafter⟩ := readArguments_eq_ok_iff.mp hread
      have hblank := (harguments value List.mem_cons_self).1
      obtain ⟨hspace, hparen⟩ :=
        harguments separator (List.mem_cons_of_mem value List.mem_cons_self)
      have hfurther : ∀ token ∈ further, token.kind ≠ .whitespace ∧ token.kind ≠ .closeParen :=
        fun token htoken =>
          harguments token (List.mem_cons_of_mem value (List.mem_cons_of_mem separator htoken))
      obtain ⟨hvalue, hnext⟩ := isValue_of_readArgument hblank hargument
      change next? (.token separator :: (further.map .token ++ .token closing :: items)) =
        some (item, tail) at hnext
      rw [next?_token hspace] at hnext
      cases hnext
      obtain ⟨hclosed, _⟩ | ⟨_, hcomma, next, more, hmore, rfl⟩ := hafter
      · simp [isKind, hparen] at hclosed
      · obtain ⟨hrest, nextValue, others, rfl, hnextValue, hothers⟩ :=
          isFurther_of_readArguments hclosing further hfurther hmore
        obtain ⟨kind, text, position⟩ := separator
        simp only [isComma, Bool.and_eq_true, decide_eq_true_eq] at hcomma
        obtain ⟨rfl, rfl⟩ := hcomma
        exact ⟨hrest, value, _, rfl, hvalue, .cons hnextValue hothers⟩

/-- A call that is read is a call of the grammar, and takes the items up to its closing
parenthesis. -/
theorem isLeaf_of_readMethod {opening closing : Token} {arguments : List Token}
    {method : MethodName} {position : Nat} (hopening : opening.kind = .openParen)
    (hclosing : closing.kind = .closeParen)
    (harguments : ∀ token ∈ arguments, token.kind ≠ .whitespace ∧ token.kind ≠ .closeParen)
    {items rest : List Item} {node : Node}
    (hread : readMethod method position
      (.token opening :: (arguments.map .token ++ .token closing :: items)) = .ok (node, rest)) :
    rest = items ∧
      IsLeaf (⟨.word, method.word, position⟩ :: opening :: (arguments ++ [closing])) node := by
  obtain ⟨found, tail, first, others, hfound, _, _, hmore, hcheck, rfl⟩ :=
    readMethod_eq_ok_iff.mp hread
  rw [next?_token (by simp [hopening])] at hfound
  cases hfound
  obtain ⟨rfl, value, further, rfl, hvalue, hfurther⟩ :=
    isFurther_of_readArguments hclosing arguments harguments hmore
  obtain ⟨hproperty, htakes⟩ := checkArguments_eq_ok_iff.mp hcheck
  obtain ⟨hkind, hname, hoperand⟩ := hvalue.property_of_isProperty hproperty
  rw [hoperand]
  exact ⟨rfl, .call hopening hclosing hkind hname hfurther htakes⟩

theorem eq_word_of_comparison? {token : Token} {op : ComparisonOp}
    (h : (Item.token token).comparison? = some op) :
    token = ⟨.word, op.word, token.position⟩ := by
  obtain ⟨hkind, hword⟩ := comparison?_eq_some_iff.mp h
  rw [← ComparisonOp.eq_word_of_ofWord? hword, ← hkind]

theorem eq_word_of_connective? {token : Token} {connective : Connective}
    (h : (Item.token token).connective? = some connective) :
    token = ⟨.word, connective.word, token.position⟩ := by
  obtain ⟨hkind, hword⟩ := connective?_eq_some_iff.mp h
  rw [← Connective.eq_word_of_ofWord? hword, ← hkind]

/-- An operand on a level is a value, unless it is the name of a method; then an opening parenthesis
follows. -/
theorem StandsFor.value_of_operand {item : Item} {rest : List Item} {tokens : List Token}
    {operand : Operand} (h : StandsFor maxDepth (item :: rest) tokens)
    (hoperand : item.operand = .ok operand) :
    (∃ value left, tokens = value :: left ∧ IsValue value operand ∧ value.isMethod = false ∧
      StandsFor maxDepth rest left) ∨
    ∃ opening more, rest = .token opening :: more ∧ opening.kind = .openParen := by
  cases h with
  | group => cases hoperand
  | plain _ hname _ _ hrest => exact .inl ⟨_, _, rfl, operand_eq_ok_iff.mp hoperand, hname, hrest⟩
  | call _ hopening => exact .inr ⟨_, _, rfl, hopening⟩

theorem tokens_of_readRelation {items rest : List Item} {tokens : List Token}
    {op : ComparisonOp} {right : Operand} (h : StandsFor maxDepth items tokens)
    (hread : readRelation items = .ok ((op, right), rest)) :
    (∃ position value left, tokens = ⟨.word, op.word, position⟩ :: value :: left ∧
      IsValue value right ∧ value.isMethod = false ∧ StandsFor maxDepth rest left) ∨
    ∃ opening more, rest = .token opening :: more ∧ opening.kind = .openParen := by
  obtain ⟨item, tail, found, hitem, hop, hfound, hoperand⟩ := readRelation_eq_ok_iff.mp hread
  obtain rfl := h.eq_cons_of_next? hitem
  cases h with
  | group => cases hop
  | plain _ _ _ _ htail =>
      obtain rfl := htail.eq_cons_of_next? hfound
      obtain ⟨value, left, rfl, hvalue⟩ | hcall := htail.value_of_operand hoperand
      · rw [eq_word_of_comparison? hop]
        exact .inl ⟨_, value, left, rfl, hvalue⟩
      · exact .inr hcall
  | call hname =>
      rw [eq_word_of_comparison? hop, isMethod_comparison] at hname
      cases hname

theorem IsLeaf.depth_eq_zero {tokens : List Token} {node : Node} (h : IsLeaf tokens node) :
    node.depth = 0 := by
  cases h <;> rfl

/-- A comparison that is read is one of the grammar, unless the name of a method stands on its
right; then an opening parenthesis follows. -/
theorem isLeaf_of_readComparison {word : Token} {items rest : List Item} {tokens : List Token}
    {node : Node} (h : StandsFor maxDepth items tokens) (hkind : word.kind = .word)
    (hname : word.isMethod = false) (hread : readComparison word items = .ok (node, rest)) :
    (∃ taken left, tokens = taken ++ left ∧ IsLeaf (word :: taken) node ∧
      StandsFor maxDepth rest left) ∨
    ∃ opening more, rest = .token opening :: more ∧ opening.kind = .openParen := by
  obtain ⟨left, op, right, hleft, hproperty, hrelation, rfl⟩ := readComparison_eq_ok_iff.mp hread
  obtain ⟨_, hword, rfl⟩ := (operand_eq_ok_iff.mp hleft).property_of_isProperty hproperty
  obtain ⟨position, value, more, rfl, hvalue, hvalueName, hrest⟩ | hcall :=
    tokens_of_readRelation h hrelation
  · refine .inl ⟨[⟨.word, op.word, position⟩, value], more, rfl, ?_, hrest⟩
    exact .comparison hkind hname hword hvalue hvalueName
  · exact .inr hcall

/-- What is read as a member of a level is a member of the grammar, unless the name of a method
stands on the right of a comparison; then an opening parenthesis follows. -/
theorem isMember_of_readMember {items rest : List Item} {tokens : List Token} {node : Node}
    (h : StandsFor maxDepth items tokens) (hread : readMember items = .ok (node, rest)) :
    (∃ taken left, tokens = taken ++ left ∧ IsMember taken node ∧ node.depth ≤ maxDepth ∧
      StandsFor maxDepth rest left) ∨
    ∃ opening more, rest = .token opening :: more ∧ opening.kind = .openParen := by
  obtain ⟨group, position, hgroup, rfl⟩ | ⟨token, tail, htoken, hkind, hleaf⟩ :=
    readMember_eq_ok_iff.mp hread
  · obtain rfl := h.eq_cons_of_next? hgroup
    cases h with
    | @group opening closing inside tokens _ _ hopening hclosing hinside hdepth hrest =>
        refine .inl ⟨opening :: (inside ++ [closing]), tokens, by simp, ?_, hdepth, hrest⟩
        exact .group hopening hclosing hinside
  · obtain rfl := h.eq_cons_of_next? htoken
    have hmethod : token.isMethod = (MethodName.ofWord? token.text).isSome := by
      simp [Token.isMethod_eq, hkind]
    cases h with
    | @plain _ tokens _ _ hname _ _ htail =>
        obtain ⟨method, hfound, _⟩ | ⟨_, hcomparison⟩ := hleaf
        · simp [hmethod, hfound] at hname
        · obtain ⟨taken, left, rfl, hleaf, hrest⟩ | hcall :=
            isLeaf_of_readComparison htail hkind hname hcomparison
          · refine .inl ⟨token :: taken, left, rfl, .leaf hleaf, ?_, hrest⟩
            rw [hleaf.depth_eq_zero]
            exact Nat.zero_le maxDepth
          · exact .inr hcall
    | @call _ opening closing arguments tokens items hname hopening hclosing harguments hrest =>
        obtain ⟨method, hfound, hcall⟩ | ⟨hnone, _⟩ := hleaf
        · obtain ⟨rfl, hleaf⟩ := isLeaf_of_readMethod hopening hclosing harguments hcall
          have hword : token = ⟨.word, method.word, token.position⟩ := by
            rw [← MethodName.eq_word_of_ofWord? hfound, ← hkind]
          rw [← hword] at hleaf
          refine .inl ⟨token :: opening :: (arguments ++ [closing]), tokens, by simp,
            .leaf hleaf, ?_, hrest⟩
          rw [hleaf.depth_eq_zero]
          exact Nat.zero_le maxDepth
        · simp [hmethod, hnone] at hname

theorem isMember_of_readJoined_none {joint : Option Connective} {items : List Item}
    {tokens : List Token} {node : Node} (h : StandsFor maxDepth items tokens)
    (hread : readJoined joint items = .ok (node, none)) :
    IsMember tokens node ∧ node.depth ≤ maxDepth := by
  obtain ⟨rest, hmember, ⟨hend, _⟩ | ⟨_, _, _, _, _, _, hresult⟩⟩ := readJoined_eq_ok_iff.mp hread
  · obtain ⟨taken, left, rfl, htaken, hdepth, hrest⟩ | ⟨opening, more, rfl, hopening⟩ :=
      isMember_of_readMember h hmember
    · rw [hrest.eq_nil_of_next? hend, List.append_nil]
      exact ⟨htaken, hdepth⟩
    · rw [next?_token (by simp [hopening])] at hend
      cases hend
  · cases hresult

theorem isMember_of_readJoined_some {joint : Option Connective} {items rest : List Item}
    {tokens : List Token} {node : Node} {connective : Connective}
    (h : StandsFor maxDepth items tokens)
    (hread : readJoined joint items = .ok (node, some (connective, rest))) :
    (∀ other ∈ joint, other = connective) ∧ ∃ taken left position,
      tokens = taken ++ ⟨.word, connective.word, position⟩ :: left ∧ IsMember taken node ∧
        node.depth ≤ maxDepth ∧ StandsFor maxDepth rest left := by
  obtain ⟨after, hmember, ⟨_, hresult⟩ |
    ⟨item, tail, found, hnext, hconnective, hjoint, hresult⟩⟩ := readJoined_eq_ok_iff.mp hread
  · cases hresult
  · cases hresult
    refine ⟨hjoint, ?_⟩
    obtain ⟨taken, left, rfl, htaken, hdepth, hrest⟩ | ⟨opening, more, rfl, hopening⟩ :=
      isMember_of_readMember h hmember
    · obtain rfl := hrest.eq_cons_of_next? hnext
      cases hrest with
      | group => cases hconnective
      | @plain token tokens _ _ _ _ _ htail =>
          refine ⟨taken, tokens, token.position, ?_, htaken, hdepth, htail⟩
          rw [← eq_word_of_connective? hconnective]
      | call hname =>
          rw [eq_word_of_connective? hconnective, isMethod_word] at hname
          cases hname
    · rw [next?_token (by simp [hopening])] at hnext
      cases hnext
      simp [connective?_eq_some_iff, hopening] at hconnective

theorem isJoined_of_readMembers {connective : Connective} {result : Option Connective}
    {items : List Item} {tokens : List Token} {nodes : List Node}
    (h : StandsFor maxDepth items tokens)
    (hread : readMembers (some connective) items = .ok (result, nodes)) :
    result = some connective ∧ Node.depthOfMembers nodes ≤ maxDepth ∧
      ∀ position, IsJoined connective (⟨.word, connective.word, position⟩ :: tokens) nodes := by
  induction nodes generalizing items tokens with
  | nil =>
      obtain ⟨_, _, _, hnodes⟩ | ⟨_, _, _, _, _, _, hnodes⟩ := readMembers_eq_ok_iff.mp hread
      · cases hnodes
      · cases hnodes
  | cons node nodes ih =>
      obtain ⟨_, hlast, rfl, hnodes⟩ | ⟨_, next, rest, _, hjoined, hmore, hnodes⟩ :=
        readMembers_eq_ok_iff.mp hread
      · cases hnodes
        obtain ⟨hmember, hdepth⟩ := isMember_of_readJoined_none h hlast
        exact ⟨rfl, Nat.max_le.mpr ⟨hdepth, Nat.zero_le maxDepth⟩, fun _ => .last hmember⟩
      · cases hnodes
        obtain ⟨hjoint, taken, left, place, rfl, hmember, hdepth, hrest⟩ :=
          isMember_of_readJoined_some h hjoined
        obtain rfl := hjoint connective rfl
        obtain ⟨hresult, hdepths, hothers⟩ := ih hrest hmore
        exact ⟨hresult, Nat.max_le.mpr ⟨hdepth, hdepths⟩, fun _ => .more hmember (hothers place)⟩

/-- A clause that is read from a level is an expression, without a group that is too deep. -/
theorem isExpression_of_readClause {items : List Item} {tokens : List Token} {group : Group}
    (h : StandsFor maxDepth items tokens) (hread : readClause items = .ok group) :
    IsExpression tokens group ∧ Node.depthOfMembers group.members ≤ maxDepth := by
  obtain ⟨result, nodes⟩ := group
  have hmembers := readClause_eq_ok_iff.mp hread
  obtain ⟨node, hlast, rfl, rfl⟩ | ⟨node, connective, rest, others, hjoined, hmore, rfl⟩ :=
    readMembers_eq_ok_iff.mp hmembers
  · obtain ⟨hmember, hdepth⟩ := isMember_of_readJoined_none h hlast
    exact ⟨.single hmember, Nat.max_le.mpr ⟨hdepth, Nat.zero_le maxDepth⟩⟩
  · obtain ⟨_, taken, left, place, rfl, hmember, hdepth, hrest⟩ :=
      isMember_of_readJoined_some h hjoined
    obtain ⟨rfl, hdepths, hothers⟩ := isJoined_of_readMembers hrest hmore
    exact ⟨.joined hmember (hothers place), Nat.max_le.mpr ⟨hdepth, hdepths⟩⟩

end Grammar

namespace Token

theorem throughCall_cases {tokens call rest : List Token}
    (hblank : ∀ token ∈ tokens, token.kind ≠ .whitespace)
    (h : throughCall tokens = .ok (call, rest)) :
    ∃ opening arguments closing, call = opening :: (arguments ++ [closing]) ∧
      tokens = opening :: (arguments ++ closing :: rest) ∧ opening.kind = .openParen ∧
      closing.kind = .closeParen ∧ ∀ token ∈ arguments, token.kind ≠ .closeParen := by
  cases tokens with
  | nil => cases h
  | cons opening tokens =>
      rw [throughCall, if_neg (hblank opening List.mem_cons_self)] at h
      split at h
      · next hopening =>
          obtain ⟨⟨call, left⟩, hmore, hresult⟩ := Except.map_eq_ok_iff.mp h
          cases hresult
          obtain ⟨arguments, closing, rfl, rfl, hclosing, harguments⟩ :=
            throughClosing_eq_ok_iff.mp hmore
          exact ⟨opening, arguments, closing, rfl, rfl, hopening, hclosing, harguments⟩
      · cases h

end Token

namespace Grammar

/-- The open groups of one pass stand for the tokens up to the last opening parenthesis. -/
inductive StandForPending (maxDepth : Nat) : List Pending → List Token → Prop
  | nil : StandForPending maxDepth [] []
  | cons {outer : List Pending} {before : List Item} {opening : Token}
      {tokens inside : List Token} :
      StandForPending maxDepth outer tokens → StandsFor maxDepth before inside →
      opening.kind = .openParen →
      StandForPending maxDepth (⟨before, opening⟩ :: outer) (tokens ++ inside ++ [opening])

theorem StandsFor.of_throughCall {name : Token} {tokens call rest : List Token}
    (hname : name.isMethod = true) (hblank : ∀ token ∈ tokens, token.kind ≠ .whitespace)
    (hcall : Token.throughCall tokens = .ok (call, rest)) :
    tokens = call ++ rest ∧ StandsFor maxDepth (.token name :: call.map .token) (name :: call) := by
  obtain ⟨opening, arguments, closing, rfl, rfl, hopening, hclosing, harguments⟩ :=
    Token.throughCall_cases hblank hcall
  have hinside : ∀ token ∈ arguments, token.kind ≠ .whitespace ∧ token.kind ≠ .closeParen :=
    fun token htoken => ⟨hblank token (by simp [htoken]), harguments token htoken⟩
  refine ⟨by simp, ?_⟩
  simpa using StandsFor.call hname hopening hclosing hinside .nil

/-- What one pass over tokens without spaces reads is an expression: that of the tokens for which
the open groups and the level stand, and of the tokens that are left. -/
theorem isExpression_of_run {pending : List Pending} {level : List Item}
    {tokens passed inside : List Token} {root : Group}
    (hblank : ∀ token ∈ tokens, token.kind ≠ .whitespace)
    (hpending : StandForPending maxDepth pending passed) (hlevel : StandsFor maxDepth level inside)
    (hrun : OnePass.run maxDepth pending level tokens = .ok root) :
    IsExpression (passed ++ inside ++ tokens) root ∧
      Node.depthOfMembers root.members ≤ maxDepth := by
  fun_induction OnePass.run maxDepth pending level tokens generalizing passed inside with
  | case1 pending level hempty =>
      obtain rfl := List.isEmpty_iff.mp hempty
      cases hpending
      rw [List.nil_append, List.append_nil]
      exact isExpression_of_readClause hlevel hrun
  | case2 => cases hrun
  | case3 => cases hrun
  | case4 pending level token tokens hname call rest hcall ih =>
      obtain ⟨_, htokens⟩ := List.forall_mem_cons.mp hblank
      obtain ⟨rfl, hcallStands⟩ := StandsFor.of_throughCall hname htokens hcall
      have hrest := (List.forall_mem_append.mp htokens).2
      have hresult := ih hrest hpending (hlevel.append hcallStands) hrun
      simpa using hresult
  | case5 pending level token rest hname hopening ih =>
      obtain ⟨_, hrest⟩ := List.forall_mem_cons.mp hblank
      have hresult := ih hrest (.cons hpending hlevel hopening) .nil hrun
      simpa using hresult
  | case6 => cases hrun
  | case7 => cases hrun
  | case8 => cases hrun
  | case9 level token rest _ _ hclosing before opening outer group hread hdepth ih =>
      obtain ⟨_, hrest⟩ := List.forall_mem_cons.mp hblank
      obtain ⟨hinside, _⟩ := isExpression_of_readClause hlevel hread
      cases hpending with
      | cons houter hbefore hopening =>
          have hgroup : StandsFor maxDepth [.group group opening.position] _ :=
            .group hopening hclosing hinside (Nat.not_lt.mp hdepth) .nil
          have hresult := ih hrest houter (hbefore.append hgroup) hrun
          simpa using hresult
  | case10 pending level token rest hname hopening hclosing ih =>
      obtain ⟨htoken, hrest⟩ := List.forall_mem_cons.mp hblank
      have hplain : StandsFor maxDepth [.token token] [token] :=
        .plain htoken (by simpa using hname) hopening hclosing .nil
      have hresult := ih hrest hpending (hlevel.append hplain) hrun
      simpa using hresult

theorem IsMember.ne_nil {tokens : List Token} {node : Node} (h : IsMember tokens node) :
    tokens ≠ [] := by
  rintro rfl
  cases h with
  | leaf hleaf => cases hleaf

theorem IsExpression.ne_nil {tokens : List Token} {group : Group} (h : IsExpression tokens group) :
    tokens ≠ [] := by
  cases h with
  | single hmember => exact hmember.ne_nil
  | joined hmember => exact List.append_ne_nil_of_left_ne_nil hmember.ne_nil _

/-- One pass over tokens without spaces reads just the expressions of the grammar. -/
theorem run_eq_ok_iff {tokens : List Token} {root : Group}
    (hblank : ∀ token ∈ tokens, token.kind ≠ .whitespace) :
    OnePass.run maxDepth [] [] tokens = .ok root ↔
      IsExpression tokens root ∧ Node.depthOfMembers root.members ≤ maxDepth := by
  constructor
  · intro hrun
    exact isExpression_of_run hblank .nil .nil hrun
  · rintro ⟨hroot, hdepth⟩
    obtain ⟨items, hpasses, hread⟩ := hroot.reads hdepth
    have hrun := hpasses [] [] []
    rw [List.append_nil, List.nil_append, OnePass.run_nil] at hrun
    rw [hrun, hread]

end Grammar

theorem resolve_of_blank {tokens : List Token} (maxDepth : Nat)
    (hblank : Token.dropSpaces tokens = []) : resolve tokens maxDepth = .ok {} := by
  rw [← resolve_dropSpaces, hblank]
  rfl

theorem resolve_eq_run {tokens : List Token} (maxDepth : Nat)
    (hblank : Token.dropSpaces tokens ≠ []) :
    resolve tokens maxDepth = OnePass.run maxDepth [] [] (Token.dropSpaces tokens) := by
  have hnone : Pending.Sound [] := fun group hgroup => absurd hgroup List.not_mem_nil
  have htree := Reduction.tree_eq_run maxDepth (Token.dropSpaces tokens) hnone .nil
  obtain ⟨token, rest, hdropped⟩ := List.exists_cons_of_ne_nil hblank
  have hkept : token ∈ Token.dropSpaces tokens := by simp [hdropped]
  have hblank : ((Token.dropSpaces tokens).map Item.token).all Item.isBlank = false := by
    simp [hdropped, Item.isBlank, Item.isKind, Token.kind_ne_of_mem_dropSpaces hkept]
  rw [← resolve_dropSpaces, resolve, hblank]
  exact htree

/-- A tree that is read belongs to an expression of spaces or is that of the grammar. -/
theorem isExpression_of_resolve {tokens : List Token} {maxDepth : Nat} {root : Group}
    (h : resolve tokens maxDepth = .ok root) :
    Token.dropSpaces tokens = [] ∧ root = {} ∨
      Grammar.IsExpression (Token.dropSpaces tokens) root ∧
        Node.depthOfMembers root.members ≤ maxDepth := by
  by_cases hblank : Token.dropSpaces tokens = []
  · rw [resolve_of_blank maxDepth hblank] at h
    cases h
    exact .inl ⟨hblank, rfl⟩
  · have hkept : ∀ token ∈ Token.dropSpaces tokens, token.kind ≠ .whitespace :=
      fun _ => Token.kind_ne_of_mem_dropSpaces
    rw [resolve_eq_run maxDepth hblank] at h
    exact .inr ((Grammar.run_eq_ok_iff hkept).mp h)

/-- The trees of expressions are those of the grammar in which no group in parentheses is deeper
than the limit, and the tree without members for an expression of spaces. -/
theorem resolve_eq_ok_iff (tokens : List Token) (maxDepth : Nat) (root : Group) :
    resolve tokens maxDepth = .ok root ↔
      (∀ token ∈ tokens, token.kind = .whitespace) ∧ root = {} ∨
        Grammar.IsExpression (Token.dropSpaces tokens) root ∧
          ∀ inner ∈ Node.groupsOfMembers root.members, inner.depth ≤ maxDepth := by
  rw [← Node.depthOfMembers_le_iff, ← Token.dropSpaces_eq_nil_iff]
  by_cases hblank : Token.dropSpaces tokens = []
  · rw [resolve_of_blank maxDepth hblank]
    constructor
    · intro hresult
      cases hresult
      exact .inl ⟨hblank, rfl⟩
    · rintro (⟨_, rfl⟩ | ⟨hroot, _⟩)
      · rfl
      · exact absurd hblank hroot.ne_nil
  · rw [resolve_eq_run maxDepth hblank,
      Grammar.run_eq_ok_iff fun _ => Token.kind_ne_of_mem_dropSpaces]
    simp [hblank]

end DocumentFilter
