import DocumentFilter.Proofs.Filter.OnePass

/-!
# Spaces between items

Spaces part the tokens of an expression and mean nothing else: without them every reader takes the
same items and gives the same result, so the tree of an expression, or the fault that it has, does
not depend on where spaces stand.
-/

namespace DocumentFilter

namespace Item

/-- The items other than spaces. -/
def dropSpaces (items : List Item) : List Item := items.filter (!·.isBlank)

@[simp]
theorem dropSpaces_append (left right : List Item) :
    dropSpaces (left ++ right) = dropSpaces left ++ dropSpaces right := List.filter_append ..

theorem dropSpaces_cons_of_blank {item : Item} (hblank : item.isBlank = true)
    (rest : List Item) : dropSpaces (item :: rest) = dropSpaces rest := by
  simp [dropSpaces, hblank]

theorem dropSpaces_cons {item : Item} (hblank : item.isBlank = false) (rest : List Item) :
    dropSpaces (item :: rest) = item :: dropSpaces rest := by
  simp [dropSpaces, hblank]

theorem next?_dropSpaces (items : List Item) :
    next? (dropSpaces items) = (next? items).map (Prod.map id dropSpaces) := by
  induction items with
  | nil => rfl
  | cons item rest ih =>
      cases hblank : item.isBlank with
      | true => rw [dropSpaces_cons_of_blank hblank, ih, next?, if_pos hblank]
      | false =>
          rw [dropSpaces_cons hblank, next?, if_neg (by simp [hblank]), next?,
            if_neg (by simp [hblank])]
          rfl

theorem next?_dropSpaces_of_none {items : List Item} (h : next? items = none) :
    next? (dropSpaces items) = none := by
  rw [next?_dropSpaces, h, Option.map_none]

theorem next?_dropSpaces_of_some {items rest : List Item} {item : Item}
    (h : next? items = some (item, rest)) :
    next? (dropSpaces items) = some (item, dropSpaces rest) := by
  rw [next?_dropSpaces, h, Option.map_some]
  rfl

end Item

namespace Clause

open Item

theorem readArgument_dropSpaces (items : List Item) :
    readArgument (dropSpaces items) = (readArgument items).map (Prod.map id dropSpaces) := by
  unfold readArgument
  cases hitem : next? items with
  | none =>
      rw [next?_dropSpaces_of_none hitem]
      rfl
  | some found =>
      obtain ⟨item, rest⟩ := found
      rw [next?_dropSpaces_of_some hitem]
      cases hoperand : item.operand with
      | error e => simp [hoperand, Except.map]
      | ok operand =>
          cases hseparator : next? rest with
          | none => simp [hoperand, hseparator, next?_dropSpaces_of_none hseparator, Except.map]
          | some found =>
              simp [hoperand, hseparator, next?_dropSpaces_of_some hseparator, Except.map]

theorem readArguments_dropSpaces (items : List Item) :
    readArguments (dropSpaces items) =
      (readArguments items).map (Prod.map id dropSpaces) := by
  fun_induction readArguments items with
  | case1 items e hargument =>
      rw [readArguments, readArgument_dropSpaces, hargument]
      rfl
  | case2 items argument separator rest hargument hclosing =>
      rw [readArguments, readArgument_dropSpaces, hargument]
      simp [hclosing, Except.map]
  | case3 items argument separator rest hargument hclosing hcomma ih =>
      rw [readArguments, readArgument_dropSpaces, hargument]
      cases hmore : readArguments rest <;> simp [hclosing, hcomma, ih, hmore, Except.map]
  | case4 items argument separator rest hargument hclosing hcomma =>
      rw [readArguments, readArgument_dropSpaces, hargument]
      simp [hclosing, hcomma, Except.map]

theorem readMethod_dropSpaces (method : MethodName) (position : Nat) (items : List Item) :
    readMethod method position (dropSpaces items) =
      (readMethod method position items).map (Prod.map id dropSpaces) := by
  unfold readMethod
  cases hopening : next? items with
  | none =>
      rw [next?_dropSpaces_of_none hopening]
      rfl
  | some found =>
      obtain ⟨opening, rest⟩ := found
      rw [next?_dropSpaces_of_some hopening]
      cases hparen : opening.isKind .openParen with
      | false => simp [hparen, Except.map]
      | true =>
          have hany : (next? (dropSpaces rest)).any (·.1.isKind .closeParen) =
              (next? rest).any (·.1.isKind .closeParen) := by
            rw [next?_dropSpaces, Option.any_map]
            rfl
          cases hempty : (next? rest).any (·.1.isKind .closeParen) with
          | true => simp [hparen, hany, hempty, Except.map]
          | false =>
              cases harguments : readArguments rest with
              | error e =>
                  simp [hparen, hany, hempty, readArguments_dropSpaces, harguments, Except.map]
              | ok read =>
                  obtain ⟨⟨first, others⟩, rest⟩ := read
                  cases hcheck : checkArguments method position first others <;>
                    simp [hparen, hany, hempty, readArguments_dropSpaces, harguments, hcheck,
                      Except.map]

theorem readRelation_dropSpaces (items : List Item) :
    readRelation (dropSpaces items) = (readRelation items).map (Prod.map id dropSpaces) := by
  unfold readRelation
  cases hitem : next? items with
  | none =>
      rw [next?_dropSpaces_of_none hitem]
      rfl
  | some found =>
      obtain ⟨item, rest⟩ := found
      rw [next?_dropSpaces_of_some hitem]
      cases hop : item.comparison? with
      | none => simp [hop, Except.map]
      | some op =>
          cases hright : next? rest with
          | none => simp [hop, hright, next?_dropSpaces_of_none hright, Except.map]
          | some found =>
              cases hoperand : found.1.operand <;>
                simp [hop, hright, next?_dropSpaces_of_some hright, hoperand, Except.map]

theorem readComparison_dropSpaces (word : Token) (items : List Item) :
    readComparison word (dropSpaces items) =
      (readComparison word items).map (Prod.map id dropSpaces) := by
  unfold readComparison
  cases word.operand with
  | error e => rfl
  | ok left =>
      cases hproperty : left.isProperty with
      | false => simp [hproperty, Except.map]
      | true =>
          cases hrelation : readRelation items <;>
            simp [hproperty, readRelation_dropSpaces, hrelation, Except.map]

theorem readMember_dropSpaces (items : List Item) :
    readMember (dropSpaces items) = (readMember items).map (Prod.map id dropSpaces) := by
  unfold readMember
  cases hitem : next? items with
  | none =>
      rw [next?_dropSpaces_of_none hitem]
      rfl
  | some found =>
      obtain ⟨item, rest⟩ := found
      rw [next?_dropSpaces_of_some hitem]
      cases item with
      | group group position => rfl
      | token token =>
          by_cases hword : token.kind = .word
          · cases hmethod : MethodName.ofWord? token.text with
            | none => simp [hword, hmethod, readComparison_dropSpaces]
            | some method => simp [hword, hmethod, readMethod_dropSpaces]
          · simp [hword, Except.map]

theorem readJoined_dropSpaces (joint : Option Connective) (items : List Item) :
    readJoined joint (dropSpaces items) =
      (readJoined joint items).map (Prod.map id (Option.map (Prod.map id dropSpaces))) := by
  unfold readJoined
  rw [readMember_dropSpaces]
  cases hmember : readMember items with
  | error e => rfl
  | ok read =>
      obtain ⟨node, rest⟩ := read
      cases hitem : next? rest with
      | none => simp [hitem, next?_dropSpaces_of_none hitem, Except.map]
      | some found =>
          cases hconnective : found.1.connective? with
          | none => simp [hitem, next?_dropSpaces_of_some hitem, hconnective, Except.map]
          | some connective =>
              simp only [Except.map, Prod.map_apply, id, hitem, next?_dropSpaces_of_some hitem,
                hconnective]
              split <;> rfl

theorem readMembers_dropSpaces (joint : Option Connective) (items : List Item) :
    readMembers joint (dropSpaces items) = readMembers joint items := by
  fun_induction readMembers joint items with
  | case1 joint items e hread =>
      rw [readMembers, readJoined_dropSpaces, hread]
      rfl
  | case2 joint items node hread =>
      rw [readMembers, readJoined_dropSpaces, hread]
      rfl
  | case3 joint items node connective rest hread ih =>
      rw [readMembers, readJoined_dropSpaces, hread]
      simp [Except.map, ih]

end Clause

/-- A clause reads the same without its spaces. -/
theorem readClause_dropSpaces (items : List Item) :
    readClause (Item.dropSpaces items) = readClause items := by
  rw [readClause, Clause.readMembers_dropSpaces, readClause]

namespace Token

/-- The tokens other than spaces. -/
def dropSpaces (tokens : List Token) : List Token := tokens.filter (·.kind ≠ .whitespace)

theorem dropSpaces_cons_of_blank {token : Token} (hblank : token.kind = .whitespace)
    (rest : List Token) : dropSpaces (token :: rest) = dropSpaces rest := by
  simp [dropSpaces, hblank]

theorem dropSpaces_cons {token : Token} (hblank : token.kind ≠ .whitespace)
    (rest : List Token) : dropSpaces (token :: rest) = token :: dropSpaces rest := by
  simp [dropSpaces, hblank]

theorem kind_ne_whitespace_of_isMethod {token : Token} (hname : token.isMethod = true) :
    token.kind ≠ .whitespace := by
  intro hblank
  simp [isMethod, hblank] at hname

theorem dropSpaces_eq_nil_iff {tokens : List Token} :
    dropSpaces tokens = [] ↔ ∀ token ∈ tokens, token.kind = .whitespace := by
  simp [dropSpaces, List.filter_eq_nil_iff]

theorem kind_ne_of_mem_dropSpaces {tokens : List Token} {token : Token}
    (h : token ∈ dropSpaces tokens) : token.kind ≠ .whitespace := by
  simpa using (List.mem_filter.mp h).2

theorem dropSpaces_map_token (tokens : List Token) :
    Item.dropSpaces (tokens.map .token) = (dropSpaces tokens).map .token := by
  rw [Item.dropSpaces, List.filter_map, dropSpaces]
  congr 1
  apply List.filter_congr
  intro token _
  simp [Item.isBlank, Item.isKind]

theorem throughClosing_dropSpaces (tokens : List Token) :
    throughClosing (dropSpaces tokens) =
      (throughClosing tokens).map (Prod.map dropSpaces dropSpaces) := by
  induction tokens with
  | nil => rfl
  | cons token tokens ih =>
      by_cases hclosing : token.kind = .closeParen
      · have hblank : token.kind ≠ .whitespace := by simp [hclosing]
        rw [dropSpaces_cons hblank, throughClosing, if_pos hclosing, throughClosing,
          if_pos hclosing, Except.map, Prod.map_apply, dropSpaces_cons hblank]
        rfl
      · rw [throughClosing, if_neg hclosing]
        by_cases hblank : token.kind = .whitespace
        · rw [dropSpaces_cons_of_blank hblank, ih]
          cases throughClosing tokens <;>
            simp [Except.map, Prod.map, dropSpaces_cons_of_blank hblank]
        · rw [dropSpaces_cons hblank, throughClosing, if_neg hclosing, ih]
          cases throughClosing tokens <;> simp [Except.map, dropSpaces_cons hblank]

theorem throughCall_dropSpaces (tokens : List Token) :
    throughCall (dropSpaces tokens) =
      (throughCall tokens).map (Prod.map dropSpaces dropSpaces) := by
  induction tokens with
  | nil => rfl
  | cons token tokens ih =>
      rw [throughCall]
      by_cases hblank : token.kind = .whitespace
      · rw [if_pos hblank, dropSpaces_cons_of_blank hblank, ih]
        cases throughCall tokens <;>
          simp [Except.map, Prod.map, dropSpaces_cons_of_blank hblank]
      · rw [if_neg hblank, dropSpaces_cons hblank, throughCall, if_neg hblank]
        by_cases hopening : token.kind = .openParen
        · rw [if_pos hopening, if_pos hopening, throughClosing_dropSpaces]
          cases throughClosing tokens <;> simp [Except.map, dropSpaces_cons hblank]
        · rw [if_neg hopening, if_neg hopening]
          rfl

end Token

namespace OnePass

/-- The open groups without the spaces of the levels that they interrupt. -/
def dropSpaces (pending : List Pending) : List Pending :=
  pending.map fun group => { group with before := Item.dropSpaces group.before }

/-- One pass without the spaces ends as one pass with them does. -/
theorem run_dropSpaces (maxDepth : Nat) (pending : List Pending) (level : List Item)
    (tokens : List Token) :
    run maxDepth (dropSpaces pending) (Item.dropSpaces level) (Token.dropSpaces tokens) =
      run maxDepth pending level tokens := by
  fun_induction run maxDepth pending level tokens with
  | case1 pending level hempty =>
      obtain rfl := List.isEmpty_iff.mp hempty
      exact run_nil.trans (readClause_dropSpaces level)
  | case2 pending level hopen =>
      obtain ⟨group, outer, rfl⟩ := List.exists_cons_of_ne_nil (mt List.isEmpty_iff.mpr hopen)
      exact run_cons_nil
  | case3 pending level token rest hname e hcall =>
      have hblank := Token.kind_ne_whitespace_of_isMethod hname
      rw [Token.dropSpaces_cons hblank, run_broken hname]
      rw [Token.throughCall_dropSpaces, hcall]
      rfl
  | case4 pending level token tokens hname call rest hcall ih =>
      have hblank := Token.kind_ne_whitespace_of_isMethod hname
      have hcall' : Token.throughCall (Token.dropSpaces tokens) =
          .ok (Token.dropSpaces call, Token.dropSpaces rest) := by
        rw [Token.throughCall_dropSpaces, hcall]
        rfl
      have htoken : Item.dropSpaces (.token token :: call.map .token) =
          .token token :: (Token.dropSpaces call).map .token := by
        rw [← List.map_cons, Token.dropSpaces_map_token, Token.dropSpaces_cons hblank,
          List.map_cons]
      rw [Token.dropSpaces_cons hblank, run_call hname hcall', ← ih, Item.dropSpaces_append, htoken]
  | case5 pending level token rest _ hopening ih =>
      rw [Token.dropSpaces_cons (by simp [hopening]), run_opening hopening, ← ih]
      rfl
  | case6 level token rest _ _ hclosing =>
      rw [Token.dropSpaces_cons (by simp [hclosing])]
      exact run_stray hclosing
  | case7 level token rest _ _ hclosing before opening outer e hread =>
      rw [Token.dropSpaces_cons (by simp [hclosing]), dropSpaces, List.map_cons,
        run_closing hclosing, readClause_dropSpaces, hread, Except.bind]
  | case8 level token rest _ _ hclosing before opening outer group hread hdepth =>
      rw [Token.dropSpaces_cons (by simp [hclosing]), dropSpaces, List.map_cons,
        run_closing hclosing, readClause_dropSpaces, hread, Except.bind, if_pos hdepth]
  | case9 level token rest _ _ hclosing before opening outer group hread hdepth ih =>
      rw [Token.dropSpaces_cons (by simp [hclosing]), dropSpaces, List.map_cons,
        run_closing hclosing, readClause_dropSpaces, hread, Except.bind, if_neg hdepth, ← ih,
        Item.dropSpaces_append]
      rfl
  | case10 pending level token rest hname hopening hclosing ih =>
      by_cases hblank : token.kind = .whitespace
      · have hitem : Item.isBlank (.token token) = true := by
          simp [Item.isBlank, Item.isKind, hblank]
        rw [Token.dropSpaces_cons_of_blank hblank, ← ih, Item.dropSpaces_append,
          Item.dropSpaces_cons_of_blank hitem]
        simp [Item.dropSpaces]
      · have hitem : Item.isBlank (.token token) = false := by
          simp [Item.isBlank, Item.isKind, hblank]
        rw [Token.dropSpaces_cons hblank, run_plain (by simpa using hname) hopening hclosing, ← ih,
          Item.dropSpaces_append, Item.dropSpaces_cons hitem]
        rfl

end OnePass

/-- The tree of an expression does not depend on its spaces. -/
theorem resolve_dropSpaces (tokens : List Token) (maxDepth : Nat) :
    resolve (Token.dropSpaces tokens) maxDepth = resolve tokens maxDepth := by
  have hblank : ((Token.dropSpaces tokens).map Item.token).all Item.isBlank =
      (tokens.map Item.token).all Item.isBlank := by
    rw [← Token.dropSpaces_map_token, Item.dropSpaces, List.all_filter]
    congr 1
    funext item
    cases item.isBlank <;> rfl
  have hnone : Pending.Sound [] := fun group hgroup => absurd hgroup List.not_mem_nil
  have hfull := Reduction.tree_eq_run maxDepth tokens hnone .nil
  have hshort := Reduction.tree_eq_run maxDepth (Token.dropSpaces tokens) hnone .nil
  have hpass := OnePass.run_dropSpaces maxDepth [] [] tokens
  rw [resolve, resolve, hblank]
  split
  · rfl
  · exact hshort.trans (hpass.trans hfull.symm)

end DocumentFilter
