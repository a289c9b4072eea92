import DocumentFilter.Filter.Parse
import DocumentFilter.Proofs.Filter.Nesting
import DocumentFilter.Proofs.Filter.RewordedReading
import DocumentFilter.Proofs.Token.Concatenation

/-!
# Filters joined to one filter

Filters are joined by putting each of them in parentheses and the word of a connective between them.
The tokens of each part are those that it has alone, moved on, so the parts are the members of the
whole.
-/

namespace DocumentFilter

/-- A filter in parentheses. -/
def enclose (filter : String) : String := "(" ++ filter ++ ")"

/-- The word of a connective between spaces. -/
def Connective.separator (connective : Connective) : String := " " ++ connective.word ++ " "

/-- Several filters in parentheses, with a connective between them. -/
def joinFilters (connective : Connective) (filters : List String) : String :=
  connective.separator.intercalate (filters.map enclose)

theorem joinFilters_cons_cons (connective : Connective) (filter next : String)
    (rest : List String) :
    joinFilters connective (filter :: next :: rest) =
      enclose filter ++ (connective.separator ++ joinFilters connective (next :: rest)) := by
  rw [joinFilters, List.map_cons, List.map_cons, String.intercalate_cons_cons, String.append_assoc]
  rfl

theorem head?_enclose (filter : String) : (enclose filter).toList.head? = some '(' := by
  simp [enclose]

theorem head?_joinFilters (connective : Connective) (filter : String) (rest : List String) :
    (joinFilters connective (filter :: rest)).toList.head? = some '(' := by
  have hfirst := head?_enclose filter
  cases rest with
  | nil => exact hfirst
  | cons next rest =>
      rw [joinFilters_cons_cons, String.toList_append, List.head?_append, hfirst]
      rfl

/-- The tree of several members: alone, or joined by a connective. -/
def Group.join (connective : Connective) : List Node → Group
  | [node] => ⟨none, [node]⟩
  | nodes => ⟨some connective, nodes⟩

theorem Group.members_join (connective : Connective) (nodes : List Node) :
    (join connective nodes).members = nodes := by
  unfold join
  split <;> rfl

namespace Token

theorem shift_eq_reword (offset : Nat) : shift offset = reword ⟨id, (· + offset)⟩ := by
  funext token
  simp [shift, reword]

theorem dropSpaces_map_shift (offset : Nat) (tokens : List Token) :
    dropSpaces (tokens.map (shift offset)) = (dropSpaces tokens).map (shift offset) := by
  rw [dropSpaces, List.filter_map, dropSpaces]
  rfl

theorem dropSpaces_append (left right : List Token) :
    dropSpaces (left ++ right) = dropSpaces left ++ dropSpaces right := List.filter_append ..

theorem continues_closeParen (kind : TokenKind) : continues kind ')' = false := by
  cases kind <;> decide

theorem continues_whitespace {c : Char} (hc : c ≠ ' ') : continues .whitespace c = false := by
  simpa [continues] using hc

end Token

open Token

/-- The tree of an expression does not depend on what stands before it. -/
theorem resolve_shift {tokens : List Token} {maxDepth : Nat} {root : Group}
    (h : resolve tokens maxDepth = .ok root) (offset : Nat) :
    resolve (tokens.map (shift offset)) maxDepth = .ok root := by
  have hfollows := follows_resolve ⟨id, (· + offset)⟩ tokens maxDepth
  rw [h, ← shift_eq_reword] at hfollows
  rw [hfollows.eq_ok, root.mapText_id]

/-- A filter in parentheses has its own tokens and two more. -/
theorem tokenize_enclose {filter : String} {tokens : List Token}
    (h : tokenize filter = .ok tokens) :
    tokenize (enclose filter) = .ok (⟨.openParen, "(", 0⟩ ::
      (tokens.map (shift 1) ++ [⟨.closeParen, ")", filter.length + 1⟩])) := by
  have hlength : "(".length = 1 := rfl
  have hopening : tokenize "(" = .ok [⟨.openParen, "(", 0⟩] := by with_unfolding_all rfl
  have hclosing : tokenize ")" = .ok [⟨.closeParen, ")", 0⟩] := by with_unfolding_all rfl
  have hbefore : ∀ token ∈ [Token.mk .openParen "(" 0].getLast?, ∀ c ∈ filter.toList.head?,
      continues token.kind c = false ∧ c ≠ '-' := by
    intro token htoken c hc
    cases htoken
    exact ⟨rfl, head?_ne_minus_of_readAll h c hc⟩
  have hwhole := tokenize_append_of_ok hopening h hbefore
  rw [hlength, List.singleton_append] at hwhole
  have hafter : ∀ token ∈ (⟨.openParen, "(", 0⟩ :: tokens.map (shift 1)).getLast?,
      ∀ c ∈ ")".toList.head?, continues token.kind c = false ∧ c ≠ '-' := by
    intro token _ c hc
    cases hc
    exact ⟨continues_closeParen token.kind, by decide⟩
  rw [enclose, tokenize_append_of_ok hwhole hclosing hafter]
  simp [shift, String.length_append, hlength, Nat.add_comm]

/-- A filter of more than spaces that has a tree is an expression, wherever it stands. -/
theorem isExpression_of_parse {filter : String} {maxDepth : Nat} {root : Group}
    (hfilter : ∃ c ∈ filter.toList, c ≠ ' ') (hparse : parse filter maxDepth = .ok root) :
    ∃ tokens, tokenize filter = .ok tokens ∧ Node.depthOfMembers root.members ≤ maxDepth ∧
      ∀ offset, Grammar.IsExpression (dropSpaces (tokens.map (shift offset))) root := by
  obtain ⟨tokens, htokens, hroot⟩ := parse_eq_ok_iff.mp hparse
  have hblank (offset : Nat) : dropSpaces (tokens.map (shift offset)) ≠ [] := by
    rw [dropSpaces_map_shift, Ne, List.map_eq_nil_iff, dropSpaces_eq_nil_iff,
      blank_iff_of_readAll htokens]
    simpa using hfilter
  have hexpression (offset : Nat) :=
    (isExpression_of_resolve (resolve_shift hroot offset)).resolve_left
      fun h => hblank offset h.1
  exact ⟨tokens, htokens, (hexpression 0).2, fun offset => (hexpression offset).1⟩

theorem isMember_enclose {filter : String} {maxDepth : Nat} {group : Group}
    (hfilter : ∃ c ∈ filter.toList, c ≠ ' ') (hparse : parse filter maxDepth = .ok group) :
    ∃ tokens, tokenize (enclose filter) = .ok tokens ∧
      (∀ token ∈ tokens.getLast?, token.kind = .closeParen) ∧
      ∀ offset, Grammar.IsMember (dropSpaces (tokens.map (shift offset))) group.toNode := by
  obtain ⟨tokens, htokens, _, hinside⟩ := isExpression_of_parse hfilter hparse
  refine ⟨_, tokenize_enclose htokens, ?_, fun offset => ?_⟩
  · rw [← List.cons_append, List.getLast?_concat]
    rintro token ⟨⟩
    rfl
  · rw [List.map_cons, List.map_append, map_shift_shift, List.map_singleton,
      dropSpaces_cons (by simp), dropSpaces_append, dropSpaces_cons (by simp)]
    exact .group rfl rfl (hinside (1 + offset))

theorem tokenize_separator (connective : Connective) :
    tokenize connective.separator = .ok [⟨.whitespace, " ", 0⟩, ⟨.word, connective.word, 1⟩,
      ⟨.whitespace, " ", connective.word.length + 1⟩] := by
  cases connective <;> with_unfolding_all rfl

theorem tokenize_enclosed_append {left right : String} {before after : List Token}
    (hleft : tokenize left = .ok before)
    (hlast : ∀ token ∈ before.getLast?, token.kind = .closeParen)
    (hright : tokenize right = .ok after) :
    tokenize (left ++ right) = .ok (before ++ after.map (shift left.length)) := by
  refine tokenize_append_of_ok hleft hright fun token htoken c hc => ⟨?_, ?_⟩
  · rw [hlast token htoken]
    rfl
  · exact head?_ne_minus_of_readAll hright c hc

theorem tokenize_separator_append (connective : Connective) {right : String} {after : List Token}
    (hright : tokenize right = .ok after) (hfirst : right.toList.head? = some '(') :
    tokenize (connective.separator ++ right) = .ok (⟨.whitespace, " ", 0⟩ ::
      ⟨.word, connective.word, 1⟩ :: ⟨.whitespace, " ", connective.word.length + 1⟩ ::
        after.map (shift connective.separator.length)) := by
  refine tokenize_append_of_ok (tokenize_separator connective) hright fun token htoken c hc => ?_
  obtain rfl : '(' = c := Option.some.inj (hfirst.symm.trans hc)
  obtain rfl : ⟨.whitespace, " ", connective.word.length + 1⟩ = token := Option.some.inj htoken
  exact ⟨continues_whitespace (by decide), by decide⟩

theorem isJoined_joinFilters (connective : Connective) {maxDepth : Nat} {filters : List String}
    {tree : String → Group} (hfilters : filters ≠ [])
    (hparts : ∀ filter ∈ filters,
      (∃ c ∈ filter.toList, c ≠ ' ') ∧ parse filter maxDepth = .ok (tree filter)) :
    ∃ tokens, tokenize (joinFilters connective filters) = .ok tokens ∧ ∀ position offset,
      Grammar.IsJoined connective
        (⟨.word, connective.word, position⟩ :: dropSpaces (tokens.map (shift offset)))
        (filters.map fun filter => (tree filter).toNode) := by
  -- The parts after the first one stand behind it, so the induction needs every offset.
  induction filters with
  | nil => exact absurd rfl hfilters
  | cons filter rest ih =>
      obtain ⟨⟨hspace, hparse⟩, hothers⟩ := List.forall_mem_cons.mp hparts
      obtain ⟨tokens, htokens, hlast, hmember⟩ := isMember_enclose hspace hparse
      cases rest with
      | nil => exact ⟨tokens, htokens, fun position offset => .last (hmember offset)⟩
      | cons next others =>
          obtain ⟨more, hmore, hjoined⟩ := ih (List.cons_ne_nil next others) hothers
          have htail := tokenize_separator_append connective hmore
            (head?_joinFilters connective next others)
          have hwhole := tokenize_enclosed_append htokens hlast htail
          rw [← joinFilters_cons_cons] at hwhole
          refine ⟨_, hwhole, fun position offset => ?_⟩
          rw [List.map_append, dropSpaces_append, map_shift_shift]
          simp only [List.map_cons, map_shift_shift]
          rw [dropSpaces_cons_of_blank rfl, dropSpaces_cons (by simp),
            dropSpaces_cons_of_blank rfl]
          exact .more (hmember offset) (hjoined _ _)

theorem isExpression_of_isJoined {connective : Connective} {word : Token} {tokens : List Token}
    {nodes : List Node} (h : Grammar.IsJoined connective (word :: tokens) nodes) :
    Grammar.IsExpression tokens (Group.join connective nodes) := by
  cases h with
  | last hmember => exact .single hmember
  | more hmember hjoined =>
      cases hjoined with
      | last hlast => exact .joined hmember (.last hlast)
      | more hnext hmore => exact .joined hmember (.more hnext hmore)

section

variable (connective : Connective) {maxDepth : Nat} {filters : List String} {tree : String → Group}

theorem depthOfMembers_join_le_iff :
    Node.depthOfMembers
        (Group.join connective (filters.map fun filter => (tree filter).toNode)).members ≤ maxDepth ↔
      ∀ filter ∈ filters, (tree filter).depth ≤ maxDepth := by
  rw [Group.members_join, Node.depthOfMembers_le_iff_forall]
  simp

variable (hfilters : filters ≠ [])
  (hparts : ∀ filter ∈ filters,
    (∃ c ∈ filter.toList, c ≠ ' ') ∧ parse filter maxDepth = .ok (tree filter))
include hfilters hparts

/-- Filters that are joined are an expression of which their trees are the members. -/
theorem isExpression_joinFilters :
    ∃ tokens, tokenize (joinFilters connective filters) = .ok tokens ∧
      Grammar.IsExpression (dropSpaces tokens)
        (Group.join connective (filters.map fun filter => (tree filter).toNode)) := by
  obtain ⟨tokens, htokens, hjoined⟩ := isJoined_joinFilters connective hfilters hparts
  have hexpression := isExpression_of_isJoined (hjoined 0 0)
  have hshift : tokens.map (shift 0) = tokens := List.map_id tokens
  rw [hshift] at hexpression
  exact ⟨tokens, htokens, hexpression⟩

/-- Filters that leave room for one more group can be joined, and the whole has their trees as
members. -/
theorem parse_joinFilters (hdepth : ∀ filter ∈ filters, (tree filter).depth ≤ maxDepth) :
    parse (joinFilters connective filters) maxDepth =
      .ok (Group.join connective (filters.map fun filter => (tree filter).toNode)) := by
  obtain ⟨tokens, htokens, hexpression⟩ := isExpression_joinFilters connective hfilters hparts
  have hmembers := (depthOfMembers_join_le_iff connective).mpr hdepth
  exact parse_eq_ok_iff.mpr ⟨tokens, htokens, resolve_of_isExpression hexpression hmembers⟩

/-- If one of the filters leaves no room, the whole is too deep. -/
theorem parse_joinFilters_of_tooDeep (hdepth : ∃ filter ∈ filters, maxDepth < (tree filter).depth) :
    ∃ position, parse (joinFilters connective filters) maxDepth =
      .error (.parse (.nestingTooDeep maxDepth position)) := by
  obtain ⟨tokens, htokens, hexpression⟩ := isExpression_joinFilters connective hfilters hparts
  have hmembers : maxDepth < Node.depthOfMembers
      (Group.join connective (filters.map fun filter => (tree filter).toNode)).members := by
    rw [← Nat.not_le, depthOfMembers_join_le_iff]
    simpa using hdepth
  obtain ⟨position, hfault⟩ := resolve_of_tooDeep hexpression hmembers
  refine ⟨position, ?_⟩
  rw [parse_of_tokenize htokens, hfault]
  rfl

end

end DocumentFilter
