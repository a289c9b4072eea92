import DocumentFilter.Filter.Parse
import DocumentFilter.Proofs.Filter.RewordedReading
import DocumentFilter.Proofs.Filter.Texts
import DocumentFilter.Proofs.Token.Concatenation

/-!
# Texts in filters made from a template

A program that puts a text between quotes into a filter gets that text back, in one place of the
tree, and nothing else changes with it.  The two expressions that are made from two texts become the
same when their texts and places are forgotten, and reading does not look at either.
-/

namespace DocumentFilter

theorem ParseError.Alike.of_common {found found' : String → String → Prop}
    {place place' : Nat → Nat → Prop} {e e' common : ParseError}
    (h : e.Alike found place common) (h' : e'.Alike found' place' common) :
    e.Alike (fun _ _ => True) (fun _ _ => True) e' := by
  cases h <;> cases h' <;> constructor <;> trivial

/-- Two faults of one variant.  Faults of the tokens differ in the place only, and faults of the tree
in what they show of the expression as well. -/
inductive FilterError.Alike : FilterError → FilterError → Prop
  | lex (error : LexError) (offset offset' : Nat) :
      Alike (.lex (error.shift offset)) (.lex (error.shift offset'))
  | parse {e e' : ParseError} :
      e.Alike (fun _ _ => True) (fun _ _ => True) e' → Alike (.parse e) (.parse e')

namespace Rewording

/-- The rewording that forgets texts and places. -/
def forget : Rewording := ⟨fun _ => "", fun _ => 0⟩

/-- Two outcomes that are the same when they are reworded agree before, up to what is reworded. -/
theorem Follows.agree {r : Rewording} {α β : Type} {f : α → β}
    {outcome outcome' : Except ParseError α} {common : Except ParseError β}
    (h : r.Follows f outcome common) (h' : r.Follows f outcome' common) :
    (∃ a a', outcome = .ok a ∧ outcome' = .ok a' ∧ f a = f a') ∨
      ∃ e e', outcome = .error e ∧ outcome' = .error e' ∧
        e.Alike (fun _ _ => True) (fun _ _ => True) e' := by
  cases h with
  | ok a =>
      generalize hcommon : f a = common at h'
      cases h' with
      | ok a' => exact .inl ⟨a, a', rfl, rfl, hcommon⟩
  | error halike =>
      cases h' with
      | error halike' => exact .inr ⟨_, _, rfl, rfl, halike.of_common halike'⟩

end Rewording

open Token

/-- The tokens round a quoted text. -/
private def templateTokens (before after : List Token) (position offset : Nat) (text : String) :
    List Token :=
  before ++ ⟨.string, text, position⟩ :: after.map (shift offset)

private theorem quotedTexts_templateTokens (before after : List Token) (position offset : Nat)
    (text : String) :
    quotedTexts (templateTokens before after position offset text) =
      quotedTexts before ++ text :: quotedTexts after := by
  have hshift : quotedTexts (after.map (shift offset)) = quotedTexts after := by
    rw [quotedTexts, List.filterMap_map]
    rfl
  have htext : quotedTexts [⟨.string, text, position⟩] = [text] := rfl
  rw [templateTokens, quotedTexts_append, ← List.singleton_append, quotedTexts_append, hshift, htext,
    List.singleton_append]

private theorem map_forget_templateTokens (before after : List Token)
    (position offset offset' : Nat) (text other : String) :
    (templateTokens before after position offset text).map (reword .forget) =
      (templateTokens before after position offset' other).map (reword .forget) := by
  have hshift (offset : Nat) : (after.map (shift offset)).map (reword .forget) =
      after.map (reword .forget) := by
    rw [List.map_map]
    rfl
  rw [templateTokens, templateTokens, List.map_append, List.map_append, List.map_cons,
    List.map_cons, hshift, hshift]
  rfl

/-- The trees of the same tokens round two quoted texts differ in that text only. -/
private theorem resolve_templateTokens (before after : List Token) (position offset offset' : Nat)
    (text other : String) (maxDepth : Nat) :
    (∃ tree, resolve (templateTokens before after position offset text) maxDepth = .ok tree ∧
      tree.texts[(quotedTexts before).length]? = some text ∧
      resolve (templateTokens before after position offset' other) maxDepth =
        .ok (tree.replaceText (quotedTexts before).length other)) ∨
    ∃ e e', resolve (templateTokens before after position offset text) maxDepth = .error e ∧
      resolve (templateTokens before after position offset' other) maxDepth = .error e' ∧
        e.Alike (fun _ _ => True) (fun _ _ => True) e' := by
  -- What is read off the two lists can only differ in what the rewording forgets, and the texts of
  -- the two trees say what that is.
  have hfollows := follows_resolve .forget
    (templateTokens before after position offset text) maxDepth
  have hfollows' := follows_resolve .forget
    (templateTokens before after position offset' other) maxDepth
  rw [← map_forget_templateTokens before after position offset offset' text other] at hfollows'
  obtain ⟨tree, tree', htree, htree', hforget⟩ | hfault := hfollows.agree hfollows'
  · have htexts := texts_of_resolve htree
    have htexts' := texts_of_resolve htree'
    rw [quotedTexts_templateTokens] at htexts htexts'
    refine .inl ⟨tree, htree, ?_, ?_⟩
    · simp [htexts]
    · rw [htree', Group.eq_replaceText_of_mapText hforget htexts htexts']
  · exact .inr hfault

/-- A text that is put between quotes into a filter is never syntax.  In the tokens it is one token
with exactly that text, and the parts of the template on both sides are cut as they are without it.
With any other text in its place the filter has the same tree but for that text, or the same
fault. -/
theorem interpolated_text_not_syntax {left right : String} {before : List Token}
    (hleft : tokenize left = .ok before) (hlast : ∀ token ∈ before.getLast?, token.kind ≠ .string)
    (hquote : right.toList.head? ≠ some '\'') :
    (∀ text : String, tokenize (left ++ Quoted.quoteString text ++ right) =
      ((tokenize right).map fun after => before ++ ⟨.string, text, left.length⟩ ::
        after.map (shift (left.length + (Quoted.quoteString text).length))).mapError
          (LexError.shift (left.length + (Quoted.quoteString text).length))) ∧
    ∀ (maxDepth : Nat) (text other : String),
      (∃ tree, parse (left ++ Quoted.quoteString text ++ right) maxDepth = .ok tree ∧
        tree.texts[(quotedTexts before).length]? = some text ∧
        parse (left ++ Quoted.quoteString other ++ right) maxDepth =
          .ok (tree.replaceText (quotedTexts before).length other)) ∨
      ∃ e e', parse (left ++ Quoted.quoteString text ++ right) maxDepth = .error e ∧
        parse (left ++ Quoted.quoteString other ++ right) maxDepth = .error e' ∧ e.Alike e' := by
  have htokens := tokenize_interpolated hleft hlast hquote
  refine ⟨htokens, fun maxDepth text other => ?_⟩
  rw [parse, parse, htokens text, htokens other]
  cases tokenize right with
  | error e => exact .inr ⟨_, _, rfl, rfl, .lex e _ _⟩
  | ok after =>
      have hresolve := resolve_templateTokens before after left.length
        (left.length + (Quoted.quoteString text).length)
        (left.length + (Quoted.quoteString other).length) text other maxDepth
      obtain ⟨tree, htree, htext, hother⟩ | ⟨e, e', htext, hother, halike⟩ := hresolve
      · refine .inl ⟨tree, ?_, htext, ?_⟩
        · exact congrArg (Except.mapError FilterError.parse) htree
        · exact congrArg (Except.mapError FilterError.parse) hother
      · refine .inr ⟨_, _, ?_, ?_, .parse halike⟩
        · exact congrArg (Except.mapError FilterError.parse) htext
        · exact congrArg (Except.mapError FilterError.parse) hother

/-- A text that tries to close its quotes and the group round it stays one text. -/
theorem interpolated_text_not_syntax_breakout :
    ∃ tree, parse ("(name eq " ++ Quoted.quoteString "') or (a eq '" ++ ") or age gt 3") 1 =
        .ok tree ∧
      tree.texts[0]? = some "') or (a eq '" ∧
      parse ("(name eq " ++ Quoted.quoteString "Ann" ++ ") or age gt 3") 1 =
        .ok (tree.replaceText 0 "Ann") := by
  have hleft : tokenize "(name eq " = .ok [⟨.openParen, "(", 0⟩, ⟨.word, "name", 1⟩,
      ⟨.whitespace, " ", 5⟩, ⟨.word, "eq", 6⟩, ⟨.whitespace, " ", 8⟩] := by
    have htext : "(name eq ".toList = ['(', 'n', 'a', 'm', 'e', ' ', 'e', 'q', ' '] := by decide
    rw [tokenize, htext]
    with_unfolding_all rfl
  have hright : tokenize ") or age gt 3" = .ok [⟨.closeParen, ")", 0⟩, ⟨.whitespace, " ", 1⟩,
      ⟨.word, "or", 2⟩, ⟨.whitespace, " ", 4⟩, ⟨.word, "age", 5⟩, ⟨.whitespace, " ", 8⟩,
      ⟨.word, "gt", 9⟩, ⟨.whitespace, " ", 11⟩, ⟨.number, "3", 12⟩] := by
    have htext : ") or age gt 3".toList =
        [')', ' ', 'o', 'r', ' ', 'a', 'g', 'e', ' ', 'g', 't', ' ', '3'] := by decide
    rw [tokenize, htext]
    with_unfolding_all rfl
  obtain ⟨htokens, hresults⟩ := interpolated_text_not_syntax hleft (by decide)
    (show ") or age gt 3".toList.head? ≠ some '\'' by decide)
  have hother := htokens "Ann"
  rw [hright] at hother
  obtain ⟨tree, htree⟩ | ⟨_, _, _, hfault, _⟩ := hresults 1 "') or (a eq '" "Ann"
  · exact ⟨tree, htree⟩
  · have hparsed : parse ("(name eq " ++ Quoted.quoteString "Ann" ++ ") or age gt 3") 1 =
        .ok ⟨some .disjunction, [.group none [.comparison .eq (.property "name")
          (.literal (.string (some "Ann")))], .comparison .gt (.property "age")
            (.literal (.number 3))]⟩ := by
      rw [parse, hother]
      with_unfolding_all rfl
    rw [hparsed] at hfault
    cases hfault

end DocumentFilter
