import Mathlib.Data.List.Infix
import DocumentFilter.Filter.Parse
import DocumentFilter.Proofs.Filter.Locations
import DocumentFilter.Proofs.Token.RoundTrip

/-!
# The faults of a filter

What one pass over an expression has read lies in the expression: the tokens of a level stand for
themselves and a group for the tokens from its opening to its closing parenthesis.  So the faults of
all levels are placed in the expression, and the place of a token is where the filter spells it.
-/

namespace DocumentFilter
namespace Grammar

open Item

variable {maxDepth : Nat} {tokens : List Token} {items : List Item}

/-! ## Levels -/

/-- Items, each beside the tokens that it stands for. -/
inductive Covers (maxDepth : Nat) : List Item → List Token → Prop
  | nil : Covers maxDepth [] []
  | token {token : Token} {items : List Item} {tokens : List Token} :
      token.kind ≠ .whitespace → Covers maxDepth items tokens →
      Covers maxDepth (.token token :: items) (token :: tokens)
  | group {opening closing : Token} {inside tokens : List Token} {group : Group}
      {items : List Item} :
      opening.kind = .openParen → closing.kind = .closeParen → IsExpression inside group →
      group.depth ≤ maxDepth → Covers maxDepth items tokens →
      Covers maxDepth (.group group opening.position :: items)
        (opening :: (inside ++ closing :: tokens))

theorem Covers.tokens_append {run tokens : List Token} (h : Covers maxDepth items tokens)
    (hrun : ∀ token ∈ run, token.kind ≠ .whitespace) :
    Covers maxDepth (run.map .token ++ items) (run ++ tokens) := by
  induction run with
  | nil => exact h
  | cons token run ih =>
      obtain ⟨htoken, hmore⟩ := List.forall_mem_cons.mp hrun
      exact .token htoken (ih hmore)

theorem StandsFor.covers (h : StandsFor maxDepth items tokens) : Covers maxDepth items tokens := by
  induction h with
  | nil => exact .nil
  | group hopening hclosing hinside hdepth _ ih => exact .group hopening hclosing hinside hdepth ih
  | plain hblank _ _ _ _ ih => exact .token hblank ih
  | @call name opening closing arguments tokens items hname hopening hclosing harguments _ ih =>
      have hcall : ∀ token ∈ name :: opening :: (arguments ++ [closing]),
          token.kind ≠ .whitespace := by
        simp only [List.forall_mem_cons, List.forall_mem_append, List.not_mem_nil,
          false_implies, implies_true, and_true]
        exact ⟨Token.kind_ne_whitespace_of_isMethod hname, by simp [hopening],
          fun token htoken => (harguments token htoken).1, by simp [hclosing]⟩
      simpa using ih.tokens_append hcall

theorem Covers.prefix_of_map {run tokens : List Token} (h : Covers maxDepth items tokens)
    (hrun : run.map .token <+: items) : run <+: tokens := by
  induction run generalizing items tokens with
  | nil => exact List.nil_prefix
  | cons token run ih =>
      cases h with
      | nil => cases List.prefix_nil.mp hrun
      | token _ hrest =>
          obtain ⟨hfirst, hmore⟩ := List.cons_prefix_cons.mp hrun
          cases hfirst
          exact List.cons_prefix_cons.mpr ⟨rfl, ih hrest hmore⟩
      | group => cases (List.cons_prefix_cons.mp hrun).1

theorem Covers.infix_of_map {run tokens : List Token} (h : Covers maxDepth items tokens)
    (hrun : run.map .token <:+: items) : run <:+: tokens := by
  induction h with
  | nil =>
      obtain rfl := List.map_eq_nil_iff.mp (List.infix_nil.mp hrun)
      exact List.nil_infix
  | token hblank hrest ih =>
      obtain hfront | hmore := List.infix_cons_iff.mp hrun
      · exact ((Covers.token hblank hrest).prefix_of_map hfront).isInfix
      · exact (ih hmore).trans (List.suffix_cons _ _).isInfix
  | @group opening closing inside tokens group items hopening hclosing hinside hdepth hrest ih =>
      obtain hfront | hmore := List.infix_cons_iff.mp hrun
      · exact ((Covers.group hopening hclosing hinside hdepth hrest).prefix_of_map hfront).isInfix
      · exact (ih hmore).trans ⟨opening :: (inside ++ [closing]), [], by simp⟩

theorem Covers.solid {part : List Token} (h : Covers maxDepth items part) :
    ∀ item ∈ items, item.isBlank = false := by
  induction h with
  | nil => simp
  | token hblank _ ih =>
      exact List.forall_mem_cons.mpr ⟨by simp [isBlank, isKind, hblank], ih⟩
  | group _ _ _ _ _ ih => exact List.forall_mem_cons.mpr ⟨rfl, ih⟩

theorem Covers.called {part : List Token} (h : Covers maxDepth items part)
    (hpart : part <:+: tokens) (hvalid : ∀ token ∈ tokens, token.Valid) :
    ∀ item ∈ items, ∃ token ∈ tokens, token.position = item.position ∧
      token.IsCalled maxDepth tokens item.messageText := by
  induction h with
  | nil => simp
  | @token token items part hblank _ ih =>
      have htoken : token ∈ tokens := hpart.subset List.mem_cons_self
      have hrest := ih ((List.suffix_cons token part).isInfix.trans hpart)
      exact List.forall_mem_cons.mpr
        ⟨⟨token, htoken, rfl, .spelled (hvalid token htoken).sourceText_ne⟩, hrest⟩
  | @group opening closing inside part group items hopening hclosing hinside hdepth _ ih =>
      have hmore : part <:+: opening :: (inside ++ closing :: part) :=
        ⟨opening :: (inside ++ [closing]), [], by simp⟩
      have hrest := ih (hmore.trans hpart)
      have hfirst := hvalid opening (hpart.subset List.mem_cons_self)
      have hlast := hvalid closing (hpart.subset (by simp))
      obtain ⟨before, after, rfl⟩ := hpart
      have hsplit : before ++ (opening :: (inside ++ closing :: part)) ++ after =
          before ++ opening :: (inside ++ closing :: (part ++ after)) := by simp
      have hcalled := Token.IsCalled.group hsplit (hfirst.sourceText_of_openParen hopening)
        (hlast.sourceText_of_closeParen hclosing) hinside hdepth
      exact List.forall_mem_cons.mpr ⟨⟨opening, by simp, rfl, hcalled⟩, hrest⟩

theorem StandsFor.lieIn {part : List Token} (h : StandsFor maxDepth items part)
    (hpart : part <:+: tokens) (hvalid : ∀ token ∈ tokens, token.Valid) :
    LieIn maxDepth tokens items where
  solid := h.covers.solid
  called := h.covers.called hpart hvalid
  together _ hrun := (h.covers.infix_of_map hrun).trans hpart

end Grammar

/-! ## The whole expression -/

namespace Token

variable {tokens : List Token} {e : ParseError}

theorem throughClosing_eq_error (h : throughClosing tokens = .error e) :
    e = .unexpectedEndOfExpression := by
  induction tokens with
  | nil =>
      cases h
      rfl
  | cons token tokens ih =>
      rw [throughClosing] at h
      split at h
      · cases h
      · exact ih (Except.map_eq_error_iff.mp h)

theorem throughCall_eq_error (h : throughCall tokens = .error e) :
    e = .unexpectedEndOfExpression := by
  induction tokens with
  | nil =>
      cases h
      rfl
  | cons token tokens ih =>
      rw [throughCall] at h
      split at h
      · exact ih (Except.map_eq_error_iff.mp h)
      · split at h
        · exact throughClosing_eq_error (Except.map_eq_error_iff.mp h)
        · cases h
          rfl

end Token

namespace Grammar

variable {maxDepth : Nat} {tokens : List Token} {e : ParseError}

/-- The fault of one pass over an expression without spaces is placed in it, where the open groups
and the level stand for the tokens before those that are left. -/
theorem isPlaced_of_run {pending : List Pending} {level : List Item}
    {passed inside rest : List Token} (hblank : ∀ token ∈ tokens, token.kind ≠ .whitespace)
    (hvalid : ∀ token ∈ tokens, token.Valid) (hpending : StandForPending maxDepth pending passed)
    (hlevel : StandsFor maxDepth level inside) (htokens : passed ++ inside ++ rest = tokens)
    (hrun : OnePass.run maxDepth pending level rest = .error e) :
    e.IsPlaced maxDepth tokens := by
  fun_induction OnePass.run maxDepth pending level rest generalizing passed inside with
  | case1 pending level hempty =>
      have hinside : inside <:+: tokens := ⟨passed, [], by simpa using htokens⟩
      exact (hlevel.lieIn hinside hvalid).isPlaced_of_readClause hrun
  | case2 =>
      cases hrun
      exact .inl rfl
  | case3 pending level token rest hname fault hcall =>
      cases hrun
      exact .inl (Token.throughCall_eq_error hcall)
  | case4 pending level token rest hname call left hcall ih =>
      have hrest : ∀ other ∈ rest, other.kind ≠ .whitespace := fun other hother =>
        hblank other (by simp [← htokens, hother])
      obtain ⟨rfl, hcallStands⟩ := StandsFor.of_throughCall hname hrest hcall
      exact ih hpending (hlevel.append hcallStands) (by simpa using htokens) hrun
  | case5 pending level token rest hname hopening ih =>
      exact ih (.cons hpending hlevel hopening) .nil (by simpa using htokens) hrun
  | case6 level token rest hname hopening hclosing =>
      cases hrun
      have htoken : token ∈ tokens := by simp [← htokens]
      have hcalled : token.IsCalled maxDepth tokens token.sourceText :=
        .spelled (hvalid token htoken).sourceText_ne
      rw [(hvalid token htoken).sourceText_of_closeParen hclosing] at hcalled
      exact .inr ⟨token, htoken, .unexpectedToken (by decide) (by decide) hcalled⟩
  | case7 level token rest hname hopening hclosing before opening outer fault hread =>
      cases hrun
      have hinside : inside <:+: tokens := ⟨passed, token :: rest, htokens⟩
      exact (hlevel.lieIn hinside hvalid).isPlaced_of_readClause hread
  | case8 level token rest hname hparen hclosing before opening outer group hread hdepth =>
      cases hrun
      cases hpending with
      | cons houter hbefore hopening =>
          have hmem : opening ∈ tokens := by simp [← htokens]
          exact .inr ⟨opening, hmem,
            .nestingTooDeep ((hvalid opening hmem).sourceText_of_openParen hopening)⟩
  | case9 level token rest _ _ hclosing before opening outer group hread hdepth ih =>
      obtain ⟨hinside, _⟩ := isExpression_of_readClause hlevel hread
      cases hpending with
      | cons houter hbefore hopening =>
          have hgroup : StandsFor maxDepth [.group group opening.position] _ :=
            .group hopening hclosing hinside (Nat.not_lt.mp hdepth) .nil
          exact ih houter (hbefore.append hgroup) (by simpa using htokens) hrun
  | case10 pending level token rest hname hopening hclosing ih =>
      have htoken := hblank token (by simp [← htokens])
      have hplain : StandsFor maxDepth [.token token] [token] :=
        .plain htoken (by simpa using hname) hopening hclosing .nil
      exact ih hpending (hlevel.append hplain) (by simpa using htokens) hrun

end Grammar
theorem isPlaced_of_resolve {tokens : List Token} {maxDepth : Nat} {e : ParseError}
    (hvalid : ∀ token ∈ tokens, token.Valid) (h : resolve tokens maxDepth = .error e) :
    e.IsPlaced maxDepth (Token.dropSpaces tokens) := by
  by_cases hblank : Token.dropSpaces tokens = []
  · rw [resolve_of_blank maxDepth hblank] at h
    cases h
  · have hkept : ∀ token ∈ Token.dropSpaces tokens, token.kind ≠ .whitespace :=
      fun _ => Token.kind_ne_of_mem_dropSpaces
    have hvalid : ∀ token ∈ Token.dropSpaces tokens, token.Valid :=
      fun token htoken => hvalid token (List.mem_of_mem_filter htoken)
    rw [resolve_eq_run maxDepth hblank] at h
    exact Grammar.isPlaced_of_run hkept hvalid .nil .nil rfl h

/-- A token is read at its position. -/
theorem Token.spelling_prefix_of_readAll {text : List Char} {tokens : List Token}
    (h : readAll 0 text = .ok tokens) {token : Token} (htoken : token ∈ tokens) :
    token.spelling <+: text.drop token.position := by
  obtain ⟨hlexical, rfl⟩ := lexicalFrom_of_readAll h
  obtain ⟨before, after, rfl⟩ := List.append_of_mem htoken
  have hplace := ((lexicalFrom_iff 0 _).mp hlexical).1 before token after rfl
  rw [hplace, Nat.zero_add, length_render, List.flatMap_append, List.drop_left, List.flatMap_cons]
  exact List.prefix_append _ _

/-- A fault with a place points at a token of the filter, which is read at the place and is what the
fault says. -/
theorem parse_faults_point_at_source {filter : String} {maxDepth : Nat} {e : ParseError}
    {position : Nat} (h : parse filter maxDepth = .error (.parse e))
    (hposition : e.position? = some position) :
    ∃ tokens token, tokenize filter = .ok tokens ∧ token ∈ tokens ∧ token.position = position ∧
      token.sourceText.toList <+: filter.toList.drop position ∧
      e.PointsAt maxDepth (Token.dropSpaces tokens) token := by
  cases htokens : tokenize filter with
  | error fault =>
      rw [parse, htokens] at h
      cases h
  | ok tokens =>
      rw [parse_of_tokenize htokens, Except.mapError_eq_error_iff] at h
      obtain ⟨fault, hfault, hsame⟩ := h
      cases hsame
      obtain rfl | ⟨token, htoken, hpoints⟩ :=
        isPlaced_of_resolve (Token.valid_of_readAll htokens) hfault
      · cases hposition
      · rw [hpoints.position?_eq] at hposition
        cases hposition
        have hmem := List.mem_of_mem_filter htoken
        exact ⟨tokens, token, rfl, hmem, rfl, Token.spelling_prefix_of_readAll htokens hmem, hpoints⟩

/-- A group where a connective is missing. -/
theorem parse_faults_point_at_source_group :
    parse "a eq 'it''s' (b eq 2)" 1 = .error (.parse (.expectedLogicalOperator "(...)" 13)) ∧
    ∃ tokens token, tokenize "a eq 'it''s' (b eq 2)" = .ok tokens ∧ token ∈ tokens ∧
      token.position = 13 ∧
      token.sourceText.toList <+: "a eq 'it''s' (b eq 2)".toList.drop 13 ∧
      (ParseError.expectedLogicalOperator "(...)" 13).PointsAt 1 (Token.dropSpaces tokens)
        token := by
  have htext : "a eq 'it''s' (b eq 2)".toList = ['a', ' ', 'e', 'q', ' ', '\'', 'i', 't', '\'',
    '\'', 's', '\'', ' ', '(', 'b', ' ', 'e', 'q', ' ', '2', ')'] := by decide
  have hparse : parse "a eq 'it''s' (b eq 2)" 1 =
      .error (.parse (.expectedLogicalOperator "(...)" 13)) := by
    rw [parse, tokenize, htext]
    with_unfolding_all rfl
  exact ⟨hparse, parse_faults_point_at_source hparse rfl⟩

end DocumentFilter
