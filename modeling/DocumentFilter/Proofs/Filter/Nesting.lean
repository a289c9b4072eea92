import DocumentFilter.Proofs.Filter.Soundness

/-!
# Expressions that are too deep

An expression of the grammar has no other fault than its depth.  If a group in parentheses is deeper
than the limit, one pass stops at the first such group and says so.
-/

namespace DocumentFilter

theorem Node.depthOfMembers_le_iff_forall {limit : Nat} {nodes : List Node} :
    depthOfMembers nodes ≤ limit ↔ ∀ node ∈ nodes, node.depth ≤ limit := by
  induction nodes with
  | nil => simp [depthOfMembers]
  | cons node rest ih => rw [depthOfMembers, Nat.max_le, ih, List.forall_mem_cons]

namespace OnePass

/-- One pass stops at the tokens because of a group that is too deep, whatever stands before and
after them. -/
def TooDeep (maxDepth : Nat) (tokens : List Token) : Prop :=
  ∃ position, ∀ pending level rest,
    run maxDepth pending level (tokens ++ rest) = .error (.nestingTooDeep maxDepth position)

namespace TooDeep

variable {maxDepth : Nat}

theorem append_right {tokens : List Token} (h : TooDeep maxDepth tokens) (more : List Token) :
    TooDeep maxDepth (tokens ++ more) := by
  obtain ⟨position, hstop⟩ := h
  refine ⟨position, fun pending level rest => ?_⟩
  rw [List.append_assoc, hstop]

theorem append_left {passed tokens : List Token} {items : List Item}
    (hpassed : Passes maxDepth passed items) (h : TooDeep maxDepth tokens) :
    TooDeep maxDepth (passed ++ tokens) := by
  obtain ⟨position, hstop⟩ := h
  refine ⟨position, fun pending level rest => ?_⟩
  rw [List.append_assoc, hpassed, hstop]

theorem enclosed {opening : Token} {tokens : List Token} (hopening : opening.kind = .openParen)
    (h : TooDeep maxDepth tokens) : TooDeep maxDepth (opening :: tokens) := by
  obtain ⟨position, hstop⟩ := h
  refine ⟨position, fun pending level rest => ?_⟩
  rw [List.cons_append, run_opening hopening, hstop]

/-- A group is refused when it is closed, after all groups in it have been accepted. -/
theorem group {opening closing : Token} {tokens : List Token} {items : List Item} {group : Group}
    (hopening : opening.kind = .openParen) (hclosing : closing.kind = .closeParen)
    (htokens : Passes maxDepth tokens items) (hread : readClause items = .ok group)
    (hdepth : maxDepth < group.depth) : TooDeep maxDepth (opening :: (tokens ++ [closing])) := by
  refine ⟨opening.position, fun pending level rest => ?_⟩
  rw [List.cons_append, run_opening hopening, List.append_assoc, htokens, List.nil_append,
    List.singleton_append, run_closing hclosing, hread, Except.bind, if_pos hdepth]

end TooDeep
end OnePass

namespace Grammar

open OnePass

variable {maxDepth : Nat}

private theorem lt_depthOfMembers_cons {node : Node} {nodes : List Node}
    (h : maxDepth < Node.depthOfMembers (node :: nodes)) :
    maxDepth < node.depth ∨ node.depth ≤ maxDepth ∧ maxDepth < Node.depthOfMembers nodes := by
  rw [Node.depthOfMembers] at h
  omega

mutual

theorem IsMember.tooDeep {tokens : List Token} {node : Node} :
    IsMember tokens node → maxDepth < node.depth → TooDeep maxDepth tokens
  | .leaf hleaf, hdepth => by
      cases hleaf with
      | comparison => exact absurd hdepth (Nat.not_lt_zero maxDepth)
      | call => exact absurd hdepth (Nat.not_lt_zero maxDepth)
  | @IsMember.group opening closing tokens group hopening hclosing hinside, hdepth => by
      -- Groups are closed from the inside out: a group inside that is too deep is found first.
      by_cases hmembers : maxDepth < Node.depthOfMembers group.members
      · have hstop := (hinside.tooDeep hmembers).append_right [closing]
        exact hstop.enclosed hopening
      · obtain ⟨items, hpasses, hread⟩ := hinside.reads (Nat.not_lt.mp hmembers)
        exact .group hopening hclosing hpasses hread hdepth

theorem IsJoined.tooDeep {connective : Connective} {tokens : List Token} {nodes : List Node} :
    IsJoined connective tokens nodes → maxDepth < Node.depthOfMembers nodes →
      TooDeep maxDepth tokens
  | @IsJoined.last _ tokens node position hmember, hdepth => by
      have hword := passes_word maxDepth (isMethod_word connective position)
      have hnode : maxDepth < node.depth := by simpa [Node.depthOfMembers] using hdepth
      exact .append_left hword (hmember.tooDeep hnode)
  | @IsJoined.more _ tokens rest node nodes position hmember hjoined, hdepth => by
      have hword := passes_word maxDepth (isMethod_word connective position)
      obtain hnode | ⟨hnode, hnodes⟩ := lt_depthOfMembers_cons hdepth
      · exact .append_left hword ((hmember.tooDeep hnode).append_right rest)
      · obtain ⟨items, hpasses, _⟩ := hmember.reads hnode
        have hstop := TooDeep.append_left hpasses (hjoined.tooDeep hnodes)
        exact .append_left hword hstop

/-- One pass stops in an expression with a group that is too deep. -/
theorem IsExpression.tooDeep {tokens : List Token} {group : Group} :
    IsExpression tokens group → maxDepth < Node.depthOfMembers group.members →
      TooDeep maxDepth tokens
  | @IsExpression.single tokens node hmember, hdepth => by
      have hnode : maxDepth < node.depth := by simpa [Node.depthOfMembers] using hdepth
      exact hmember.tooDeep hnode
  | @IsExpression.joined connective tokens rest node nodes hmember hjoined, hdepth => by
      obtain hnode | ⟨hnode, hnodes⟩ := lt_depthOfMembers_cons hdepth
      · exact (hmember.tooDeep hnode).append_right rest
      · obtain ⟨items, hpasses, _⟩ := hmember.reads hnode
        exact .append_left hpasses (hjoined.tooDeep hnodes)

end

end Grammar

/-- An expression of the grammar is read if none of its groups is too deep. -/
theorem resolve_of_isExpression {tokens : List Token} {maxDepth : Nat} {group : Group}
    (h : Grammar.IsExpression (Token.dropSpaces tokens) group)
    (hdepth : Node.depthOfMembers group.members ≤ maxDepth) :
    resolve tokens maxDepth = .ok group := by
  have hkept : ∀ token ∈ Token.dropSpaces tokens, token.kind ≠ .whitespace :=
    fun _ => Token.kind_ne_of_mem_dropSpaces
  rw [resolve_eq_run maxDepth h.ne_nil]
  exact (Grammar.run_eq_ok_iff hkept).mpr ⟨h, hdepth⟩

/-- Otherwise its depth is its fault. -/
theorem resolve_of_tooDeep {tokens : List Token} {maxDepth : Nat} {group : Group}
    (h : Grammar.IsExpression (Token.dropSpaces tokens) group)
    (hdepth : maxDepth < Node.depthOfMembers group.members) :
    ∃ position, resolve tokens maxDepth = .error (.nestingTooDeep maxDepth position) := by
  obtain ⟨position, hstop⟩ := h.tooDeep hdepth
  have hrun := hstop [] [] []
  rw [List.append_nil] at hrun
  exact ⟨position, (resolve_eq_run maxDepth h.ne_nil).trans hrun⟩

end DocumentFilter
