import DocumentFilter.Proofs.Filter.Faults
import DocumentFilter.Proofs.Filter.Numbers
import DocumentFilter.Proofs.Filter.OperandFaults

/-!
# What the stages leave to each other

Tokens that were cut from an expression can be read as what their kinds say, and in every clause
that a scan finds the name of a method is followed by its arguments.  So two faults of numbers and
dates and one of methods do not occur, though the readers look out for them; what is left of the last
one is the closing parenthesis that no open one belongs to.
-/

namespace DocumentFilter

open Item

/-! ## Parentheses without a partner -/

/-- Tokens in which every parenthesis has its partner: that of a group outside of calls, and in a
call the first closing one. -/
inductive IsBalanced : List Token → Prop
  | nil : IsBalanced []
  | plain {token : Token} {rest : List Token} :
      token.isMethod = false → token.kind ≠ .openParen → token.kind ≠ .closeParen →
      IsBalanced rest → IsBalanced (token :: rest)
  | call {name : Token} {call rest : List Token} :
      name.isMethod = true → ClosesCall .named (call.map .token) → IsBalanced rest →
      IsBalanced (name :: (call ++ rest))
  | group {opening closing : Token} {inside rest : List Token} :
      opening.kind = .openParen → closing.kind = .closeParen → IsBalanced inside →
      IsBalanced rest → IsBalanced (opening :: (inside ++ closing :: rest))

theorem IsBalanced.append {left right : List Token} (hleft : IsBalanced left)
    (hright : IsBalanced right) : IsBalanced (left ++ right) := by
  induction hleft with
  | nil => exact hright
  | plain hname hopening hclosing _ ih => exact .plain hname hopening hclosing ih
  | call hname hcall _ ih =>
      rw [List.cons_append, List.append_assoc]
      exact .call hname hcall ih
  | group hopening hclosing hinside _ _ ih =>
      rw [List.cons_append, List.append_assoc, List.cons_append]
      exact .group hopening hclosing hinside ih

/-- The closing parenthesis at the position has no partner among the tokens. -/
def IsStray (tokens : List Token) (position : Nat) : Prop :=
  ∃ before closing after, tokens = before ++ closing :: after ∧ IsBalanced before ∧
    closing.kind = .closeParen ∧ closing.position = position

/-- Tokens after which just the given groups are open. -/
inductive LeavesOpen : List Pending → List Token → Prop
  | none {tokens : List Token} : IsBalanced tokens → LeavesOpen [] tokens
  | more {group : Pending} {outer : List Pending} {tokens inside : List Token} :
      LeavesOpen outer tokens → group.opening.kind = .openParen → IsBalanced inside →
      LeavesOpen (group :: outer) (tokens ++ group.opening :: inside)

namespace LeavesOpen

variable {pending outer : List Pending} {tokens more : List Token}

theorem append (h : LeavesOpen pending tokens) (hmore : IsBalanced more) :
    LeavesOpen pending (tokens ++ more) := by
  cases h with
  | none htokens => exact .none (htokens.append hmore)
  | more houter hopening hinside =>
      rw [List.append_assoc, List.cons_append]
      exact .more houter hopening (hinside.append hmore)

theorem close {group : Pending} {closing : Token} (h : LeavesOpen (group :: outer) tokens)
    (hclosing : closing.kind = .closeParen) : LeavesOpen outer (tokens ++ [closing]) := by
  cases h with
  | more houter hopening hinside =>
      rw [List.append_assoc, List.cons_append]
      exact houter.append (.group hopening hclosing hinside .nil)

end LeavesOpen

variable {maxDepth : Nat} {tokens : List Token} {found : String} {position : Nat}

theorem readClause_ne_openParen {items : List Item} (hitems : IsLevel items) :
    readClause items ≠ .error (.unexpectedToken .openParen found position) := by
  intro hread
  obtain ⟨item, _, hoperand⟩ :=
    isOperandFault_of_readClause (by decide) (by decide) hitems hread
  obtain ⟨expected, _, _, hother, hsame⟩ := item.operand_eq_error hoperand
  cases hsame
  exact hother rfl

/-- One pass expects an opening parenthesis only where it comes to a closing one while no group is
open. -/
theorem isStray_of_run {pending : List Pending} {level : List Item} {passed : List Token}
    (hpassed : LeavesOpen pending passed) (hsound : Pending.Sound pending)
    (hlevel : IsLevel level)
    (h : OnePass.run maxDepth pending level tokens =
      .error (.unexpectedToken .openParen found position)) :
    found = ")" ∧ IsStray (passed ++ tokens) position := by
  fun_induction OnePass.run maxDepth pending level tokens generalizing passed with
  | case1 => exact absurd h (readClause_ne_openParen hlevel)
  | case2 => cases h
  | case3 pending level token rest hname fault hcall =>
      cases h
      cases Token.throughCall_eq_error hcall
  | case4 pending level token tokens hname call rest hcall ih =>
      obtain ⟨rfl, hcloses⟩ := Token.throughCall_eq_ok hcall
      have htoken : IsLevel (.token token :: call.map Item.token) := by
        simpa using IsLevel.call hname hcloses .nil
      have hbalanced : IsBalanced (token :: call) := by
        simpa using IsBalanced.call hname hcloses .nil
      simpa using ih (hpassed.append hbalanced) hsound (hlevel.append htoken) h
  | case5 pending level token rest hname hopening ih =>
      have hopened : LeavesOpen (⟨level, token⟩ :: pending) (passed ++ [token]) :=
        .more hpassed hopening .nil
      have hentered : Pending.Sound (⟨level, token⟩ :: pending) :=
        List.forall_mem_cons.mpr ⟨⟨hlevel, hopening⟩, hsound⟩
      simpa using ih hopened hentered .nil h
  | case6 level token rest hname hopening hclosing =>
      cases h
      cases hpassed with
      | none hbalanced => exact ⟨rfl, passed, token, rest, rfl, hbalanced, hclosing, rfl⟩
  | case7 level token rest _ _ _ before opening outer fault hread =>
      cases h
      exact absurd hread (readClause_ne_openParen hlevel)
  | case8 => cases h
  | case9 level token rest _ _ hclosing before opening outer group hread hdepth ih =>
      obtain ⟨⟨hbefore, _⟩, houter⟩ := List.forall_mem_cons.mp hsound
      simpa using ih (hpassed.close hclosing) houter (hbefore.append (.group .nil)) h
  | case10 pending level token rest hname hopening hclosing ih =>
      have hplain : token.isMethod = false := by simpa using hname
      have hbalanced : IsBalanced [token] := .plain hplain hopening hclosing .nil
      simpa using ih (hpassed.append hbalanced) hsound (hlevel.snoc hplain hopening hclosing) h

theorem isStray_of_resolve
    (h : resolve tokens maxDepth = .error (.unexpectedToken .openParen found position)) :
    found = ")" ∧ IsStray tokens position := by
  have hnone : Pending.Sound [] := by simp [Pending.Sound]
  rw [resolve] at h
  split at h
  · cases h
  · have hrun := Reduction.tree_eq_run maxDepth tokens hnone .nil
    exact isStray_of_run (.none .nil) hnone .nil (hrun.symm.trans h)

/-! ## Tokens that are read for what they are -/

/-- Unless an operand does not suit its comparison or method, an expression lacks an opening
parenthesis or a simple value where a token is unexpected. -/
theorem expected_of_resolve (hvalid : ∀ token ∈ tokens, token.Valid) {expected : Expectation}
    (hproperty : expected ≠ .property) (hstring : expected ≠ .string)
    (h : resolve tokens maxDepth = .error (.unexpectedToken expected found position)) :
    expected = .openParen ∨ expected = .simpleValue := by
  rw [resolve] at h
  split at h
  · cases h
  obtain ⟨left, hscan⟩ | ⟨place, hdepth⟩ | ⟨clause, hclause, hread⟩ := Reduction.fault_of_tree h
  · obtain hend | ⟨place, hparen⟩ := Scan.fault_of_run hscan
    · cases hend
    · cases hparen
      exact .inl rfl
  · cases hdepth
  · obtain ⟨item, hitem, hoperand⟩ :=
      isOperandFault_of_readClause hproperty hstring hclause.isLevel hread
    cases item with
    | group =>
        cases hoperand
        exact .inr rfl
    | token token =>
        have htoken : token ∈ tokens := by simpa using hclause.token_mem hitem
        exact .inr ((hvalid token htoken).expected_of_operand hoperand)

/-! ## What every stage can rely on -/

/-- The clauses that are read when the tokens are put together to a tree. -/
def IsReadClause (tokens : List Token) (maxDepth : Nat) (clause : List Item) : Prop :=
  (∃ token ∈ tokens, token.kind ≠ .whitespace) ∧ IsClauseOf maxDepth (tokens.map .token) clause

/-- The tokens of an expression can be read as what they have been cut as: no number and no date is
refused any more, and the numbers of a tree are what the digits of the number tokens denote, in
their order, none of them beyond a signed word.  In every clause that is read the name of a method
that starts a member is followed by its arguments.  So an opening parenthesis is only expected where
a closing one has no partner. -/
theorem stages_agree :
    (∀ (filter : String) (maxDepth : Nat),
      (∀ expected found position,
        parse filter maxDepth = .error (.parse (.unexpectedToken expected found position)) →
          expected ≠ .number ∧ expected ≠ .date) ∧
      ∀ root, parse filter maxDepth = .ok root →
        ∃ tokens, tokenize filter = .ok tokens ∧
          root.numbers = (tokens.filter (·.kind = .number)).map
            (fun token => (Decimal.value token.text.toList : Int)) ∧
          (∀ token ∈ tokens, token.kind = .number →
            Decimal.isNumeral token.text.toList = true) ∧
          ∀ n ∈ root.numbers, 0 ≤ n ∧ n ≤ Decimal.maxSigned64) ∧
    ∀ (tokens : List Token) (maxDepth : Nat),
      (∀ clause member name rest, IsReadClause tokens maxDepth clause →
        StartsMember none clause member → next? member = some (.token name, rest) →
        name.isMethod = true → OpensCall rest) ∧
      ∀ found position,
        resolve tokens maxDepth = .error (.unexpectedToken .openParen found position) →
          found = ")" ∧ IsStray tokens position := by
  refine ⟨fun filter maxDepth => ⟨?_, ?_⟩, fun tokens maxDepth => ⟨?_, ?_⟩⟩
  · intro expected found position h
    cases htokens : tokenize filter with
    | error fault =>
        rw [parse, htokens] at h
        cases h
    | ok tokens =>
        rw [parse_of_tokenize htokens, Except.mapError_eq_error_iff] at h
        obtain ⟨fault, hfault, hsame⟩ := h
        cases hsame
        have hvalid := Token.valid_of_readAll htokens
        constructor
        · rintro rfl
          simpa using expected_of_resolve hvalid (by decide) (by decide) hfault
        · rintro rfl
          simpa using expected_of_resolve hvalid (by decide) (by decide) hfault
  · intro root h
    obtain ⟨tokens, htokens, hroot⟩ := parse_eq_ok_iff.mp h
    have hvalid := Token.valid_of_readAll htokens
    have hnumbers := numbers_of_resolve hvalid hroot
    refine ⟨tokens, htokens, hnumbers,
      fun token htoken hkind => (hvalid token htoken).isNumeral_text hkind, fun n hn => ?_⟩
    rw [hnumbers] at hn
    obtain ⟨token, htoken, rfl⟩ := List.mem_map.mp hn
    obtain ⟨hmem, hkind⟩ := List.mem_filter.mp htoken
    exact (hvalid token hmem).number_fits (of_decide_eq_true hkind)
  · intro clause member name rest hclause hmember hnext hname
    exact (hmember.isLevel hclause.2.isLevel).opensCall hnext hname
  · exact fun found position h => isStray_of_resolve h

/-- The name of a method as a property, as an argument and as a method, and a closing parenthesis
too many. -/
theorem stages_agree_names :
    let tokens : List Token := [⟨.openParen, "(", 0⟩, ⟨.word, "n", 1⟩, ⟨.word, "eq", 3⟩,
      ⟨.word, "a", 6⟩, ⟨.word, "or", 8⟩, ⟨.word, "in", 11⟩, ⟨.openParen, "(", 13⟩,
      ⟨.word, "in", 14⟩, ⟨.symbol, ",", 16⟩, ⟨.number, "1", 17⟩, ⟨.closeParen, ")", 18⟩,
      ⟨.closeParen, ")", 19⟩, ⟨.closeParen, ")", 20⟩]
    (∃ root, parse "(in(in,7) or n eq 08)" 1 = .ok root ∧ root.numbers = [7, 8] ∧
      ∀ n ∈ root.numbers, 0 ≤ n ∧ n ≤ Decimal.maxSigned64) ∧
    OpensCall (((tokens.drop 6).take 5).map .token) ∧
    resolve tokens 1 = .error (.unexpectedToken .openParen ")" 20) ∧ IsStray tokens 20 := by
  intro tokens
  have htext : "(in(in,7) or n eq 08)".toList = ['(', 'i', 'n', '(', 'i', 'n', ',', '7', ')', ' ',
    'o', 'r', ' ', 'n', ' ', 'e', 'q', ' ', '0', '8', ')'] := by decide
  obtain ⟨hfilters, hexpressions⟩ := stages_agree
  obtain ⟨hcalls, hstray⟩ := hexpressions tokens 1
  let root : Group := ⟨none, [.group (some .disjunction)
    [.method .isIn [.property "in", .literal (.number 7)],
      .comparison .eq (.property "n") (.literal (.number 8))]]⟩
  have hparse : parse "(in(in,7) or n eq 08)" 1 = .ok root := by
    rw [parse, tokenize, htext]
    with_unfolding_all rfl
  obtain ⟨_, _, _, _, hfits⟩ := (hfilters _ 1).2 root hparse
  have hclause : IsReadClause tokens 1 (((tokens.drop 1).take 10).map .token) := by
    refine ⟨by decide, ?_⟩
    have hfound : Item.innermost? (tokens.map .token) = .ok (some
        ⟨[], ⟨.openParen, "(", 0⟩, ((tokens.drop 1).take 10).map .token,
          [.token ⟨.closeParen, ")", 20⟩]⟩) := by with_unfolding_all rfl
    exact .inside hfound
  have hmember : StartsMember none (((tokens.drop 1).take 10).map .token)
      (((tokens.drop 5).take 6).map .token) := by
    have hjoined : Clause.readJoined none (((tokens.drop 1).take 10).map .token) =
        .ok (.comparison .eq (.property "n") (.property "a"),
          some (.disjunction, ((tokens.drop 5).take 6).map .token)) := by with_unfolding_all rfl
    exact .next hjoined .first
  have hopens := hcalls _ _ ⟨.word, "in", 11⟩ _ hclause hmember rfl (by decide)
  have hfault : resolve tokens 1 = .error (.unexpectedToken .openParen ")" 20) := by
    with_unfolding_all rfl
  exact ⟨⟨root, hparse, by decide, hfits⟩, hopens, hfault, (hstray _ _ hfault).2⟩

end DocumentFilter
