import DocumentFilter.Proofs.Filter.Rewording

/-!
# Reading reworded expressions

Every reader takes the reworded items from a reworded clause, and one pass over a reworded
expression has reworded groups on its levels.  So an expression has a tree just when the reworded
expression has one.
-/

namespace DocumentFilter

namespace Clause

open Item

variable (r : Rewording)

theorem follows_readArgument (items : List Item) :
    r.Follows (Prod.map (Prod.map (Argument.reword r) (Item.reword r)) (List.map (Item.reword r)))
      (readArgument items) (readArgument (items.map (Item.reword r))) := by
  unfold readArgument
  rw [next?_reword]
  cases next? items with
  | none => exact .error .unexpectedEndOfExpression
  | some found =>
      obtain ⟨item, rest⟩ := found
      have hoperand := item.follows_operand r
      simp only [Option.map_some, Prod.map_apply, next?_reword]
      generalize item.operand = read, (item.reword r).operand = read' at hoperand ⊢
      cases hoperand with
      | error halike => exact .error halike
      | ok operand =>
          cases next? rest with
          | none => exact .error .unexpectedEndOfExpression
          | some found =>
              rw [position_reword]
              exact .ok (((⟨operand, item.position⟩ : Argument), found.1), found.2)

theorem follows_readArguments (items : List Item) :
    r.Follows (Prod.map (Prod.map (Argument.reword r) (List.map (Argument.reword r)))
        (List.map (Item.reword r)))
      (readArguments items) (readArguments (items.map (Item.reword r))) := by
  fun_induction readArguments items with
  | case1 items e hargument =>
      have hfollows := follows_readArgument r items
      rw [hargument] at hfollows
      obtain ⟨e', hargument', halike⟩ := hfollows.eq_error
      rw [readArguments.eq_def (items.map (Item.reword r)), hargument']
      exact .error halike
  | case2 items argument separator rest hargument hclosing =>
      have hfollows := follows_readArgument r items
      rw [hargument] at hfollows
      rw [readArguments.eq_def (items.map (Item.reword r)), hfollows.eq_ok]
      simp only [Prod.map_apply, isKind_reword, hclosing, if_true]
      exact .ok ((argument, []), rest)
  | case3 items argument separator rest hargument hclosing hcomma ih =>
      have hfollows := follows_readArgument r items
      rw [hargument] at hfollows
      rw [readArguments.eq_def (items.map (Item.reword r)), hfollows.eq_ok]
      simp only [Prod.map_apply, isKind_reword, isComma_reword, hclosing, hcomma, if_true]
      exact ih.map fun read => rfl
  | case4 items argument separator rest hargument hclosing hcomma =>
      have hfollows := follows_readArgument r items
      rw [hargument] at hfollows
      rw [readArguments.eq_def (items.map (Item.reword r)), hfollows.eq_ok]
      simp only [Prod.map_apply, isKind_reword, isComma_reword, hclosing, hcomma]
      exact .error (.missingArgumentSeparator (found_messageText r separator)
        (position_reword r separator))

theorem follows_checkArguments (method : MethodName) (position : Nat) (first : Argument)
    (others : List Argument) :
    r.Follows id (checkArguments method position first others)
      (checkArguments method (r.place position) (first.reword r) (others.map (Argument.reword r))) := by
  have hproperty : (first.reword r).operand.isProperty = first.operand.isProperty :=
    first.operand.isProperty_mapText r.text
  have hfind : (others.map (Argument.reword r)).find? (!·.operand.isText) =
      (others.find? (!·.operand.isText)).map (Argument.reword r) := by
    rw [List.find?_map]
    congr 2
    funext argument
    simp [Argument.reword]
  unfold checkArguments
  rw [hproperty, hfind, List.length_map]
  split
  · exact .error (.unexpectedToken (first.operand.found_messageText r) rfl)
  split
  · exact .ok ()
  split
  · exact .error (.wrongArgumentCount rfl)
  cases others.find? (!·.operand.isText) with
  | none => exact .ok ()
  | some wrong => exact .error (.unexpectedToken (wrong.operand.found_messageText r) rfl)

theorem follows_readMethod (method : MethodName) (position : Nat) (items : List Item) :
    r.Follows (Prod.map (Node.mapText r.text) (List.map (Item.reword r)))
      (readMethod method position items)
      (readMethod method (r.place position) (items.map (Item.reword r))) := by
  unfold readMethod
  rw [next?_reword]
  cases next? items with
  | none => exact .error .unexpectedEndOfExpression
  | some found =>
      obtain ⟨opening, rest⟩ := found
      have hempty : (next? (rest.map (Item.reword r))).any (·.1.isKind .closeParen) =
          (next? rest).any (·.1.isKind .closeParen) := by
        rw [next?_reword, Option.any_map]
        simp
      simp only [Option.map_some, Prod.map_apply, isKind_reword, hempty]
      split
      · exact .error (.unexpectedToken (found_messageText r opening) (position_reword r opening))
      split
      · exact .error (.missingMethodArguments rfl)
      have harguments := follows_readArguments r rest
      generalize readArguments rest = read, readArguments (rest.map (Item.reword r)) = read'
        at harguments ⊢
      cases harguments with
      | error halike => exact .error halike
      | ok read =>
          obtain ⟨⟨first, others⟩, left⟩ := read
          have hcheck := follows_checkArguments r method position first others
          simp only [Prod.map_apply]
          generalize checkArguments method position first others = checked,
            checkArguments method (r.place position) (first.reword r)
              (others.map (Argument.reword r)) = checked' at hcheck ⊢
          cases hcheck with
          | error halike => exact .error halike
          | ok _ =>
              have hnode : (Node.method method (first.operand :: others.map (·.operand))).mapText
                  r.text = .method method ((first.reword r).operand ::
                    (others.map (Argument.reword r)).map (·.operand)) := by
                simp [Node.mapText, Argument.reword, Function.comp_def]
              rw [← hnode]
              exact .ok (_, left)

theorem follows_readRelation (items : List Item) :
    r.Follows (Prod.map (Prod.map id (Operand.mapText r.text)) (List.map (Item.reword r)))
      (readRelation items) (readRelation (items.map (Item.reword r))) := by
  unfold readRelation
  rw [next?_reword]
  cases next? items with
  | none => exact .error .unexpectedEndOfExpression
  | some found =>
      obtain ⟨item, rest⟩ := found
      simp only [Option.map_some, Prod.map_apply, comparison?_reword, next?_reword]
      cases item.comparison? with
      | none =>
          exact .error (.expectedComparisonOperator (found_messageText r item)
            (position_reword r item))
      | some op =>
          cases next? rest with
          | none => exact .error .unexpectedEndOfExpression
          | some found => exact (found.1.follows_operand r).map fun right => rfl

theorem follows_readComparison (word : Token) (items : List Item) :
    r.Follows (Prod.map (Node.mapText r.text) (List.map (Item.reword r)))
      (readComparison word items) (readComparison (word.reword r) (items.map (Item.reword r))) := by
  have hleft := word.follows_operand r
  unfold readComparison
  generalize word.operand = left, (word.reword r).operand = left' at hleft ⊢
  cases hleft with
  | error halike => exact .error halike
  | ok left =>
      simp only [Operand.isProperty_mapText]
      split
      · exact .error (.unexpectedToken (word.found_sourceText r) rfl)
      · exact (follows_readRelation r items).map fun _ => rfl

theorem follows_readMember (items : List Item) :
    r.Follows (Prod.map (Node.mapText r.text) (List.map (Item.reword r)))
      (readMember items) (readMember (items.map (Item.reword r))) := by
  unfold readMember
  rw [next?_reword]
  cases next? items with
  | none => exact .error .unexpectedEndOfExpression
  | some found =>
      obtain ⟨item, rest⟩ := found
      cases item with
      | group group position => exact .ok (group.toNode, rest)
      | token token =>
          simp only [Option.map_some, Prod.map_apply, Item.reword]
          by_cases hword : token.kind = .word
          · have hword' : (token.reword r).kind = .word := hword
            rw [if_pos hword, if_pos hword', token.text_reword r (by simp [hword])]
            cases MethodName.ofWord? token.text with
            | some method => exact follows_readMethod r method token.position rest
            | none => exact follows_readComparison r token rest
          · have hword' : (token.reword r).kind ≠ .word := hword
            rw [if_neg hword, if_neg hword']
            exact .error (.expectedWord (token.found_sourceText r) rfl)

theorem follows_readJoined (joint : Option Connective) (items : List Item) :
    r.Follows (Prod.map (Node.mapText r.text)
        (Option.map (Prod.map id (List.map (Item.reword r)))))
      (readJoined joint items) (readJoined joint (items.map (Item.reword r))) := by
  have hmember := follows_readMember r items
  unfold readJoined
  generalize readMember items = read, readMember (items.map (Item.reword r)) = read' at hmember ⊢
  cases hmember with
  | error halike => exact .error halike
  | ok read =>
      obtain ⟨node, rest⟩ := read
      simp only [Prod.map_apply, next?_reword]
      cases next? rest with
      | none => exact .ok (node, none)
      | some found =>
          obtain ⟨item, left⟩ := found
          simp only [Option.map_some, Prod.map_apply, connective?_reword, position_reword]
          cases item.connective? with
          | none => exact .error (.expectedLogicalOperator (found_messageText r item) rfl)
          | some connective =>
              dsimp only
              split
              · exact .error (.mixedOperatorsWithoutGrouping rfl)
              · exact .ok (node, some (connective, left))

theorem follows_readMembers (joint : Option Connective) (items : List Item) :
    r.Follows (Prod.map id (Node.mapTextOfMembers r.text))
      (readMembers joint items) (readMembers joint (items.map (Item.reword r))) := by
  fun_induction readMembers joint items with
  | case1 joint items e hread =>
      have hfollows := follows_readJoined r joint items
      rw [hread] at hfollows
      obtain ⟨e', hread', halike⟩ := hfollows.eq_error
      rw [readMembers.eq_def joint (items.map (Item.reword r)), hread']
      exact .error halike
  | case2 joint items node hread =>
      have hfollows := follows_readJoined r joint items
      rw [hread] at hfollows
      rw [readMembers.eq_def joint (items.map (Item.reword r)), hfollows.eq_ok]
      exact .ok (joint, [node])
  | case3 joint items node connective rest hread ih =>
      have hfollows := follows_readJoined r joint items
      rw [hread] at hfollows
      rw [readMembers.eq_def joint (items.map (Item.reword r)), hfollows.eq_ok]
      exact ih.map fun read => rfl

end Clause

/-- A reworded clause is read as the reworded group, or has the same fault. -/
theorem follows_readClause (r : Rewording) (items : List Item) :
    r.Follows (Group.mapText r.text) (readClause items)
      (readClause (items.map (Item.reword r))) :=
  (Clause.follows_readMembers r none items).map fun _ => rfl

namespace Token

variable (r : Rewording)

theorem follows_throughClosing (tokens : List Token) :
    r.Follows (Prod.map (List.map (reword r)) (List.map (reword r)))
      (throughClosing tokens) (throughClosing (tokens.map (reword r))) := by
  induction tokens with
  | nil => exact .error .unexpectedEndOfExpression
  | cons token rest ih =>
      have hkind : (token.reword r).kind = token.kind := rfl
      rw [List.map_cons, throughClosing, throughClosing, hkind]
      split
      · exact .ok ([token], rest)
      · exact ih.map fun _ => rfl

theorem follows_throughCall (tokens : List Token) :
    r.Follows (Prod.map (List.map (reword r)) (List.map (reword r)))
      (throughCall tokens) (throughCall (tokens.map (reword r))) := by
  induction tokens with
  | nil => exact .error .unexpectedEndOfExpression
  | cons token rest ih =>
      have hkind : (token.reword r).kind = token.kind := rfl
      rw [List.map_cons, throughCall, throughCall, hkind]
      split
      · exact ih.map fun _ => rfl
      split
      · exact (follows_throughClosing r rest).map fun _ => rfl
      · exact .error .unexpectedEndOfExpression

theorem map_token_reword (tokens : List Token) :
    (tokens.map Item.token).map (Item.reword r) = (tokens.map (reword r)).map Item.token := by
  rw [List.map_map, List.map_map]
  rfl

end Token

/-- The reworded open group. -/
def Pending.reword (r : Rewording) (pending : Pending) : Pending :=
  ⟨pending.before.map (Item.reword r), pending.opening.reword r⟩

/-- One pass over a reworded expression gives the reworded tree, or has the same fault. -/
theorem OnePass.follows_run (r : Rewording) (maxDepth : Nat) (pending : List Pending)
    (level : List Item) (tokens : List Token) :
    r.Follows (Group.mapText r.text) (run maxDepth pending level tokens)
      (run maxDepth (pending.map (Pending.reword r)) (level.map (Item.reword r))
        (tokens.map (Token.reword r))) := by
  fun_induction run maxDepth pending level tokens with
  | case1 pending level hempty =>
      obtain rfl := List.isEmpty_iff.mp hempty
      rw [List.map_nil, List.map_nil, run_nil]
      exact follows_readClause r level
  | case2 pending level hopen =>
      obtain ⟨group, outer, rfl⟩ := List.exists_cons_of_ne_nil (mt List.isEmpty_iff.mpr hopen)
      rw [List.map_nil, List.map_cons, run_cons_nil]
      exact .error .unexpectedEndOfExpression
  | case3 pending level token rest hname e hcall =>
      have hname' : (token.reword r).isMethod = true := by rwa [Token.isMethod_reword]
      have hfollows := Token.follows_throughCall r rest
      rw [hcall] at hfollows
      obtain ⟨e', hcall', halike⟩ := hfollows.eq_error
      rw [List.map_cons, run_broken hname' hcall']
      exact .error halike
  | case4 pending level token tokens hname call rest hcall ih =>
      have hname' : (token.reword r).isMethod = true := by rwa [Token.isMethod_reword]
      have hfollows := Token.follows_throughCall r tokens
      rw [hcall] at hfollows
      rw [List.map_cons, run_call hname' hfollows.eq_ok]
      rw [List.map_append, List.map_cons, Token.map_token_reword] at ih
      exact ih
  | case5 pending level token rest _ hopening ih =>
      have hopening' : (token.reword r).kind = .openParen := hopening
      rw [List.map_cons, run_opening hopening']
      exact ih
  | case6 level token rest _ _ hclosing =>
      have hclosing' : (token.reword r).kind = .closeParen := hclosing
      rw [List.map_nil, List.map_cons, run_stray hclosing']
      exact .error (.unexpectedToken (.same _) rfl)
  | case7 level token rest _ _ hclosing before opening outer e hread =>
      have hclosing' : (token.reword r).kind = .closeParen := hclosing
      have hfollows := follows_readClause r level
      rw [hread] at hfollows
      obtain ⟨e', hread', halike⟩ := hfollows.eq_error
      rw [List.map_cons, List.map_cons, Pending.reword, run_closing hclosing',
        hread']
      exact .error halike
  | case8 level token rest _ _ hclosing before opening outer group hread hdepth =>
      have hclosing' : (token.reword r).kind = .closeParen := hclosing
      have hfollows := follows_readClause r level
      rw [hread] at hfollows
      rw [List.map_cons, List.map_cons, Pending.reword, run_closing hclosing',
        hfollows.eq_ok, Except.bind,
        Group.depth_mapText, if_pos hdepth]
      exact .error (.nestingTooDeep rfl)
  | case9 level token rest _ _ hclosing before opening outer group hread hdepth ih =>
      have hclosing' : (token.reword r).kind = .closeParen := hclosing
      have hfollows := follows_readClause r level
      rw [hread] at hfollows
      rw [List.map_cons, List.map_cons, Pending.reword, run_closing hclosing',
        hfollows.eq_ok, Except.bind,
        Group.depth_mapText, if_neg hdepth]
      rw [List.map_append] at ih
      exact ih
  | case10 pending level token rest hname hopening hclosing ih =>
      have hname' : (token.reword r).isMethod = false := by
        rw [Token.isMethod_reword]
        simpa using hname
      rw [List.map_cons, run_plain hname' hopening hclosing]
      rw [List.map_append] at ih
      exact ih

/-- A reworded expression has the reworded tree, or the same fault. -/
theorem follows_resolve (r : Rewording) (tokens : List Token) (maxDepth : Nat) :
    r.Follows (Group.mapText r.text) (resolve tokens maxDepth)
      (resolve (tokens.map (Token.reword r)) maxDepth) := by
  have hblank : ((tokens.map (Token.reword r)).map Item.token).all Item.isBlank =
      (tokens.map Item.token).all Item.isBlank := by
    rw [← Token.map_token_reword, List.all_map]
    congr 1
    funext item
    exact item.isBlank_reword r
  have hnone : Pending.Sound [] := fun group hgroup => absurd hgroup List.not_mem_nil
  have hplain := Reduction.tree_eq_run maxDepth tokens hnone .nil
  have hreworded := Reduction.tree_eq_run maxDepth (tokens.map (Token.reword r)) hnone .nil
  have hfollows := OnePass.follows_run r maxDepth [] [] tokens
  rw [resolve, resolve, hblank]
  split
  · exact .ok ({} : Group)
  · rw [List.map_nil, List.map_nil, ← hplain, ← hreworded] at hfollows
    exact hfollows

end DocumentFilter
