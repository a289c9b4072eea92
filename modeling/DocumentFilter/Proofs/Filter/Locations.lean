import Mathlib.Data.List.Infix
import DocumentFilter.Proofs.Filter.Soundness
import DocumentFilter.Proofs.Token.Lexical

/-!
# Where faults point

Every fault of an expression but its early end has a place, which is that of one of its tokens, and
is right about what stands there.  This file says what each fault may say of the token at its place,
and follows the readers of clauses through every way in which they fail.
-/

namespace DocumentFilter

/-- How a fault may call a token of an expression. -/
inductive Token.IsCalled (maxDepth : Nat) (tokens : List Token) (token : Token) : String → Prop
  /-- By the characters of the token. -/
  | spelled : token.sourceText ≠ "(...)" → IsCalled maxDepth tokens token token.sourceText
  /-- By the group between the token and its closing parenthesis, which has been put together. -/
  | group {before inside after : List Token} {closing : Token} {group : Group} :
      tokens = before ++ token :: (inside ++ closing :: after) →
      token.sourceText = "(" → closing.sourceText = ")" →
      Grammar.IsExpression inside group → group.depth ≤ maxDepth →
      IsCalled maxDepth tokens token "(...)"

namespace ParseError

/-- Where the fault was found, unless it is that the expression ends. -/
def position? : ParseError → Option Nat
  | unexpectedEndOfExpression => none
  | expectedWord _ position | expectedLogicalOperator _ position
  | expectedComparisonOperator _ position | mixedOperatorsWithoutGrouping position
  | missingMethodArguments _ position | missingArgumentSeparator _ position
  | unexpectedToken _ _ position | wrongArgumentCount _ _ _ position
  | nestingTooDeep _ position => some position

/-- The fault points at a token of an expression without spaces, and is right about it. -/
inductive PointsAt (maxDepth : Nat) (tokens : List Token) (token : Token) : ParseError → Prop
  | expectedWord {found : String} : token.IsCalled maxDepth tokens found →
      PointsAt maxDepth tokens token (.expectedWord found token.position)
  | expectedLogicalOperator {found : String} : token.IsCalled maxDepth tokens found →
      PointsAt maxDepth tokens token (.expectedLogicalOperator found token.position)
  | expectedComparisonOperator {found : String} : token.IsCalled maxDepth tokens found →
      PointsAt maxDepth tokens token (.expectedComparisonOperator found token.position)
  | mixedOperatorsWithoutGrouping {connective : Connective} :
      token.sourceText = connective.word →
      PointsAt maxDepth tokens token (.mixedOperatorsWithoutGrouping token.position)
  | missingMethodArguments {method : MethodName} : token.sourceText = method.word →
      PointsAt maxDepth tokens token (.missingMethodArguments method.word token.position)
  | missingArgumentSeparator {found : String} : token.IsCalled maxDepth tokens found →
      PointsAt maxDepth tokens token (.missingArgumentSeparator found token.position)
  | wrongArgumentCount {method : MethodName} {expected found : Nat} :
      token.sourceText = method.word →
      PointsAt maxDepth tokens token
        (.wrongArgumentCount method.word expected found token.position)
  | nestingTooDeep : token.sourceText = "(" →
      PointsAt maxDepth tokens token (.nestingTooDeep maxDepth token.position)
  /-- An opening parenthesis or a simple value was due. -/
  | unexpectedToken {expected : Expectation} {found : String} :
      expected ≠ .property → expected ≠ .string → token.IsCalled maxDepth tokens found →
      PointsAt maxDepth tokens token (.unexpectedToken expected found token.position)
  /-- The left word of a comparison is a literal. -/
  | leftLiteral {operand : Operand} : token.kind = .word → token.isMethod = false →
      token.operand = .ok operand → operand.isProperty = false →
      PointsAt maxDepth tokens token (.unexpectedToken .property token.sourceText token.position)
  /-- The first argument of a method, which the token names, is no property. -/
  | firstArgument {method : MethodName} {opening first : Token} {operand : Operand} :
      token.sourceText = method.word → [token, opening, first] <:+: tokens →
      opening.kind = .openParen → first.operand = .ok operand → operand.isProperty = false →
      PointsAt maxDepth tokens token
        (.unexpectedToken .property operand.messageText token.position)
  /-- The token is the second argument of a method that looks into a text, and no text. -/
  | secondArgument {method : MethodName} {name opening first comma : Token} {operand : Operand} :
      name.sourceText = method.word → method.arity? = some 2 →
      [name, opening, first, comma, token] <:+: tokens → opening.kind = .openParen →
      comma.sourceText = "," → token.operand = .ok operand → operand.isText = false →
      PointsAt maxDepth tokens token
        (.unexpectedToken .string operand.messageText token.position)

/-- The fault is that the expression ends, or it points at one of the tokens. -/
def IsPlaced (maxDepth : Nat) (tokens : List Token) (e : ParseError) : Prop :=
  e = .unexpectedEndOfExpression ∨ ∃ token ∈ tokens, e.PointsAt maxDepth tokens token

variable {maxDepth : Nat} {tokens : List Token} {token : Token} {e : ParseError}

theorem PointsAt.position?_eq (h : e.PointsAt maxDepth tokens token) :
    e.position? = some token.position := by
  cases h <;> rfl

end ParseError

namespace Token

variable {token : Token}

theorem sourceText_of_ne (hkind : token.kind ≠ .string) : token.sourceText = token.text :=
  if_neg hkind

theorem Valid.sourceText_of_openParen (hvalid : token.Valid) (hkind : token.kind = .openParen) :
    token.sourceText = "(" := by
  simp only [Valid, hkind] at hvalid
  rw [sourceText_of_ne (by simp [hkind]), hvalid]

theorem Valid.sourceText_of_closeParen (hvalid : token.Valid) (hkind : token.kind = .closeParen) :
    token.sourceText = ")" := by
  simp only [Valid, hkind] at hvalid
  rw [sourceText_of_ne (by simp [hkind]), hvalid]

/-- No token has the spelling that faults have for groups. -/
theorem Valid.sourceText_ne (hvalid : token.Valid) : token.sourceText ≠ "(...)" := by
  intro htext
  obtain ⟨first, rest, hspelling, hstarts⟩ := hvalid.starts
  rw [spelling, htext] at hspelling
  obtain rfl : '(' = first := (List.cons.inj hspelling).1
  cases hkind : token.kind with
  | openParen =>
      rw [hvalid.sourceText_of_openParen hkind] at htext
      revert htext
      decide
  | _ =>
      rw [hkind] at hstarts
      revert hstarts
      decide

end Token

namespace Grammar

open Clause Item

variable {maxDepth : Nat} {tokens : List Token} {items rest : List Item} {item : Item}
  {e : ParseError}

/-! ## Items of an expression -/

theorem eq_token_of_isKind {kind : TokenKind} (h : item.isKind kind = true) :
    ∃ token, item = .token token ∧ token.kind = kind := by
  cases item with
  | token token => exact ⟨token, rfl, of_decide_eq_true h⟩
  | group => cases h

theorem eq_token_of_isComma (h : item.isComma = true) :
    ∃ token, item = .token token ∧ token.sourceText = "," := by
  cases item with
  | token token =>
      simp only [isComma, Bool.and_eq_true, decide_eq_true_eq] at h
      obtain ⟨hkind, htext⟩ := h
      exact ⟨token, rfl, by rw [Token.sourceText_of_ne (by simp [hkind]), htext]⟩
  | group => cases h

theorem eq_token_of_connective? {connective : Connective} (h : item.connective? = some connective) :
    ∃ token, item = .token token ∧ token.sourceText = connective.word := by
  cases item with
  | token token =>
      refine ⟨token, rfl, ?_⟩
      rw [eq_word_of_connective? h]
      rfl
  | group => cases h

theorem eq_two_of_arity? {method : MethodName} {arity : Nat} (h : method.arity? = some arity) :
    arity = 2 := by
  cases method <;> cases h <;> rfl

/-- What the readers of clauses have to know about items: there are no spaces among them, a fault
may call them as their messages do, and tokens next to each other are so in the expression. -/
structure LieIn (maxDepth : Nat) (tokens : List Token) (items : List Item) : Prop where
  solid : ∀ item ∈ items, item.isBlank = false
  called : ∀ item ∈ items, ∃ token ∈ tokens, token.position = item.position ∧
    token.IsCalled maxDepth tokens item.messageText
  together : ∀ run : List Token, run.map .token <:+: items → run <:+: tokens

namespace LieIn

theorem of_suffix (h : LieIn maxDepth tokens items) (hsuffix : rest <:+ items) :
    LieIn maxDepth tokens rest where
  solid item hitem := h.solid item (hsuffix.subset hitem)
  called item hitem := h.called item (hsuffix.subset hitem)
  together run hrun := h.together run (hrun.trans hsuffix.isInfix)

theorem eq_cons (h : LieIn maxDepth tokens items) (hnext : next? items = some (item, rest)) :
    items = item :: rest := by
  cases items with
  | nil => cases hnext
  | cons first items =>
      rw [next?, if_neg (by simp [h.solid first List.mem_cons_self])] at hnext
      cases hnext
      rfl

theorem mem (h : LieIn maxDepth tokens items) (hnext : next? items = some (item, rest)) :
    item ∈ items := by
  rw [h.eq_cons hnext]
  exact List.mem_cons_self

theorem tail (h : LieIn maxDepth tokens items) (hnext : next? items = some (item, rest)) :
    LieIn maxDepth tokens rest := h.of_suffix (suffix_of_next? hnext)

theorem token_mem (h : LieIn maxDepth tokens items) {token : Token} (hitem : .token token ∈ items) :
    token ∈ tokens := by
  have hrun : [token].map Item.token <:+: items := (List.singleton_infix_iff _ _).mpr hitem
  exact (List.singleton_infix_iff _ _).mp (h.together [token] hrun)

theorem isPlaced (h : LieIn maxDepth tokens items) (hitem : item ∈ items)
    {fault : String → Nat → ParseError}
    (hfault : ∀ {token : Token} {found : String}, token.IsCalled maxDepth tokens found →
      (fault found token.position).PointsAt maxDepth tokens token) :
    (fault item.messageText item.position).IsPlaced maxDepth tokens := by
  obtain ⟨token, htoken, hposition, hcalled⟩ := h.called item hitem
  rw [← hposition]
  exact .inr ⟨token, htoken, hfault hcalled⟩

theorem isPlaced_of_operand (h : LieIn maxDepth tokens items) (hitem : item ∈ items)
    (hoperand : item.operand = .error e) : e.IsPlaced maxDepth tokens := by
  obtain ⟨expected, hproperty, hstring, _, rfl⟩ := item.operand_eq_error hoperand
  exact h.isPlaced hitem (.unexpectedToken hproperty hstring)

/-! ## The faults of the readers -/

theorem isPlaced_of_readArgument (h : LieIn maxDepth tokens items)
    (hread : readArgument items = .error e) : e.IsPlaced maxDepth tokens := by
  revert hread
  fun_cases readArgument items with
  | case2 item rest hitem fault hoperand =>
      intro hread
      cases hread
      exact h.isPlaced_of_operand (h.mem hitem) hoperand
  | case4 =>
      intro hread
      cases hread
  | _ =>
      intro hread
      cases hread
      exact .inl rfl

theorem eq_of_readArgument (h : LieIn maxDepth tokens items) {argument : Argument}
    {separator : Item} (hread : readArgument items = .ok ((argument, separator), rest)) :
    ∃ value, items = .token value :: separator :: rest ∧ value.operand = .ok argument.operand ∧
      value.position = argument.position := by
  obtain ⟨item, tail, hitem, hoperand, hposition, hseparator⟩ := readArgument_eq_ok_iff.mp hread
  obtain rfl := (h.tail hitem).eq_cons hseparator
  obtain rfl := h.eq_cons hitem
  cases item with
  | token value => exact ⟨value, rfl, hoperand, hposition⟩
  | group => cases hoperand

theorem isPlaced_of_readArguments (h : LieIn maxDepth tokens items)
    (hread : readArguments items = .error e) : e.IsPlaced maxDepth tokens := by
  fun_induction readArguments items with
  | case1 items fault hargument =>
      cases hread
      exact h.isPlaced_of_readArgument hargument
  | case2 => cases hread
  | case3 items argument separator rest hargument _ _ ih =>
      have hrest := h.of_suffix (suffix_of_readArgument hargument)
      exact ih hrest (Except.map_eq_error_iff.mp hread)
  | case4 items argument separator rest hargument _ _ =>
      cases hread
      obtain ⟨value, rfl, _⟩ := h.eq_of_readArgument hargument
      exact h.isPlaced (by simp) .missingArgumentSeparator

/-- The checks of arguments point at the name of the method, or at the second argument. -/
theorem isPlaced_of_checkArguments {method : MethodName} {name : Token} {opening : Item}
    {first : Argument} {others : List Argument}
    (h : LieIn maxDepth tokens (.token name :: opening :: items))
    (hname : name.sourceText = method.word) (hopening : opening.isKind .openParen = true)
    (harguments : readArguments items = .ok ((first, others), rest))
    (hcheck : checkArguments method name.position first others = .error e) :
    e.IsPlaced maxDepth tokens := by
  have hmem : name ∈ tokens := h.token_mem List.mem_cons_self
  have hitems : LieIn maxDepth tokens items := h.of_suffix ⟨[.token name, opening], rfl⟩
  obtain ⟨parenthesis, rfl, hparenthesis⟩ := eq_token_of_isKind hopening
  obtain ⟨separator, left, hargument, hafter⟩ := readArguments_eq_ok_iff.mp harguments
  obtain ⟨value, rfl, hvalue, _⟩ := hitems.eq_of_readArgument hargument
  revert hcheck
  fun_cases checkArguments method name.position first others with
  | case1 hproperty =>
      intro hcheck
      cases hcheck
      have hrun : [name, parenthesis, value] <:+: tokens :=
        h.together [name, parenthesis, value] ⟨[], separator :: left, rfl⟩
      have hliteral : first.operand.isProperty = false := by simpa using hproperty
      exact .inr ⟨name, hmem, .firstArgument hname hrun hparenthesis hvalue hliteral⟩
  | case2 =>
      intro hcheck
      cases hcheck
  | case3 =>
      intro hcheck
      cases hcheck
      exact .inr ⟨name, hmem, .wrongArgumentCount hname⟩
  | case4 =>
      intro hcheck
      cases hcheck
  | case5 hproperty arity harity hlength wrong hwrong =>
      intro hcheck
      cases hcheck
      obtain rfl := eq_two_of_arity? harity
      obtain ⟨_, rfl, _⟩ | ⟨_, hcomma, next, more, hmore, rfl⟩ := hafter
      · cases hwrong
      · obtain rfl : more = [] := by simpa using hlength
        obtain rfl := List.mem_singleton.mp (List.mem_of_find?_eq_some hwrong)
        have hother : wrong.operand.isText = false := by simpa using List.find?_some hwrong
        obtain ⟨comma, rfl, hcommaText⟩ := eq_token_of_isComma hcomma
        obtain ⟨closing, last, hlast, _⟩ := readArguments_eq_ok_iff.mp hmore
        have hleft := hitems.of_suffix (suffix_of_readArgument hargument)
        obtain ⟨second, rfl, hsecond, hposition⟩ := hleft.eq_of_readArgument hlast
        have hrun : [name, parenthesis, value, comma, second] <:+: tokens :=
          h.together [name, parenthesis, value, comma, second] ⟨[], closing :: last, rfl⟩
        rw [← hposition]
        exact .inr ⟨second, h.token_mem (by simp),
          .secondArgument hname harity hrun hparenthesis hcommaText hsecond hother⟩

theorem isPlaced_of_readMethod {method : MethodName} {name : Token}
    (h : LieIn maxDepth tokens (.token name :: items)) (hname : name.sourceText = method.word)
    (hread : readMethod method name.position items = .error e) : e.IsPlaced maxDepth tokens := by
  have hitems : LieIn maxDepth tokens items := h.of_suffix (List.suffix_cons _ _)
  revert hread
  fun_cases readMethod method name.position items with
  | case1 =>
      intro hread
      cases hread
      exact .inl rfl
  | case2 opening rest hopening _ =>
      intro hread
      cases hread
      exact hitems.isPlaced (hitems.mem hopening) (.unexpectedToken (by decide) (by decide))
  | case3 =>
      intro hread
      cases hread
      exact .inr ⟨name, h.token_mem List.mem_cons_self, .missingMethodArguments hname⟩
  | case4 opening rest hopening _ _ fault harguments =>
      intro hread
      cases hread
      exact (hitems.tail hopening).isPlaced_of_readArguments harguments
  | case5 opening rest hopening hkind _ first others left harguments fault hcheck =>
      intro hread
      cases hread
      obtain rfl := hitems.eq_cons hopening
      exact h.isPlaced_of_checkArguments hname (by simpa using hkind) harguments hcheck
  | case6 =>
      intro hread
      cases hread

theorem isPlaced_of_readRelation (h : LieIn maxDepth tokens items)
    (hread : readRelation items = .error e) : e.IsPlaced maxDepth tokens := by
  revert hread
  fun_cases readRelation items with
  | case2 item rest hitem _ =>
      intro hread
      cases hread
      exact h.isPlaced (h.mem hitem) .expectedComparisonOperator
  | case4 item rest hitem op value left hvalue _ =>
      intro hread
      exact (h.tail hitem).isPlaced_of_operand ((h.tail hitem).mem hvalue)
        (Except.map_eq_error_iff.mp hread)
  | _ =>
      intro hread
      cases hread
      exact .inl rfl

theorem isPlaced_of_readComparison {word : Token}
    (h : LieIn maxDepth tokens (.token word :: items)) (hword : word.kind = .word)
    (hmethod : word.isMethod = false) (hread : readComparison word items = .error e) :
    e.IsPlaced maxDepth tokens := by
  revert hread
  fun_cases readComparison word items with
  | case1 fault hoperand =>
      intro hread
      cases hread
      exact h.isPlaced_of_operand List.mem_cons_self hoperand
  | case2 left hleft hproperty =>
      intro hread
      cases hread
      have hliteral : left.isProperty = false := by simpa using hproperty
      exact .inr ⟨word, h.token_mem List.mem_cons_self,
        .leftLiteral hword hmethod hleft hliteral⟩
  | case3 =>
      intro hread
      exact (h.of_suffix (List.suffix_cons _ _)).isPlaced_of_readRelation
        (Except.map_eq_error_iff.mp hread)

theorem isPlaced_of_readMember (h : LieIn maxDepth tokens items)
    (hread : readMember items = .error e) : e.IsPlaced maxDepth tokens := by
  revert hread
  fun_cases readMember items with
  | case1 =>
      intro hread
      cases hread
      exact .inl rfl
  | case2 =>
      intro hread
      cases hread
  | case3 name rest hitem hkind method hmethod =>
      intro hread
      obtain rfl := h.eq_cons hitem
      have hname : name.sourceText = method.word := by
        rw [Token.sourceText_of_ne (by simp [hkind]), MethodName.eq_word_of_ofWord? hmethod]
      exact h.isPlaced_of_readMethod hname hread
  | case4 word rest hitem hkind hnone =>
      intro hread
      obtain rfl := h.eq_cons hitem
      exact h.isPlaced_of_readComparison hkind (by simp [Token.isMethod_eq, hnone]) hread
  | case5 token rest hitem _ =>
      intro hread
      cases hread
      exact h.isPlaced (h.mem hitem) .expectedWord

theorem isPlaced_of_readJoined {joint : Option Connective} (h : LieIn maxDepth tokens items)
    (hread : readJoined joint items = .error e) : e.IsPlaced maxDepth tokens := by
  revert hread
  fun_cases readJoined joint items with
  | case1 fault hmember =>
      intro hread
      cases hread
      exact h.isPlaced_of_readMember hmember
  | case2 =>
      intro hread
      cases hread
  | case3 node rest hmember item left hitem _ =>
      intro hread
      cases hread
      have hrest := h.of_suffix (suffix_of_readMember hmember)
      exact hrest.isPlaced (hrest.mem hitem) .expectedLogicalOperator
  | case4 node rest hmember item left hitem connective hconnective _ =>
      intro hread
      cases hread
      have hrest := h.of_suffix (suffix_of_readMember hmember)
      obtain ⟨token, rfl, hword⟩ := eq_token_of_connective? hconnective
      exact .inr ⟨token, hrest.token_mem (hrest.mem hitem), .mixedOperatorsWithoutGrouping hword⟩
  | case5 =>
      intro hread
      cases hread

theorem isPlaced_of_readMembers {joint : Option Connective} (h : LieIn maxDepth tokens items)
    (hread : readMembers joint items = .error e) : e.IsPlaced maxDepth tokens := by
  fun_induction readMembers joint items with
  | case1 joint items fault hjoined =>
      cases hread
      exact h.isPlaced_of_readJoined hjoined
  | case2 => cases hread
  | case3 joint items node connective rest hjoined ih =>
      exact ih (h.of_suffix (suffix_of_readJoined hjoined)) (Except.map_eq_error_iff.mp hread)

/-- The fault of a clause is placed in the expression in which the clause lies. -/
theorem isPlaced_of_readClause (h : LieIn maxDepth tokens items)
    (hread : readClause items = .error e) : e.IsPlaced maxDepth tokens :=
  h.isPlaced_of_readMembers (Except.map_eq_error_iff.mp hread)

end LieIn

end Grammar
end DocumentFilter
