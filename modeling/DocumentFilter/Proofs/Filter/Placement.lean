import DocumentFilter.Proofs.Filter.RewordedReading

/-!
# Places and spaces

Reading carries the places of tokens over into faults and looks at them nowhere else, and it passes
over spaces.  So two expressions that are the same token for token, wherever their tokens stand and
whatever spaces are between them, have the same tree or the same fault in different places.
-/

namespace DocumentFilter

/-- The token, wherever it stands. -/
def Token.unplaced (token : Token) : Token := { token with position := 0 }

/-- The fault, wherever it was found. -/
def ParseError.unplaced : ParseError → ParseError
  | unexpectedEndOfExpression => .unexpectedEndOfExpression
  | expectedWord found _ => .expectedWord found 0
  | expectedLogicalOperator found _ => .expectedLogicalOperator found 0
  | expectedComparisonOperator found _ => .expectedComparisonOperator found 0
  | mixedOperatorsWithoutGrouping _ => .mixedOperatorsWithoutGrouping 0
  | missingMethodArguments method _ => .missingMethodArguments method 0
  | missingArgumentSeparator found _ => .missingArgumentSeparator found 0
  | unexpectedToken expected found _ => .unexpectedToken expected found 0
  | wrongArgumentCount method expected found _ => .wrongArgumentCount method expected found 0
  | nestingTooDeep limit _ => .nestingTooDeep limit 0

namespace Rewording

/-- The rewording that forgets places and keeps texts. -/
def displace : Rewording := ⟨id, fun _ => 0⟩

theorem Found.eq {text text' : String} (h : displace.Found text text') : text' = text := by
  cases h <;> rfl

end Rewording

theorem Token.unplaced_eq_reword : unplaced = reword .displace := by
  funext token
  simp [unplaced, reword, Rewording.displace]

/-- The fault of an expression without places differs from the fault with them in the place only. -/
theorem ParseError.Alike.eq_unplaced {e e' : ParseError}
    (h : e.Alike Rewording.displace.Found (fun _ position => position = 0) e') :
    e' = e.unplaced := by
  cases h with
  | unexpectedEndOfExpression => rfl
  | expectedWord hfound hplace => rw [hfound.eq, hplace, unplaced]
  | expectedLogicalOperator hfound hplace => rw [hfound.eq, hplace, unplaced]
  | expectedComparisonOperator hfound hplace => rw [hfound.eq, hplace, unplaced]
  | mixedOperatorsWithoutGrouping hplace => rw [hplace, unplaced]
  | missingMethodArguments hplace => rw [hplace, unplaced]
  | missingArgumentSeparator hfound hplace => rw [hfound.eq, hplace, unplaced]
  | unexpectedToken hfound hplace => rw [hfound.eq, hplace, unplaced]
  | wrongArgumentCount hplace => rw [hplace, unplaced]
  | nestingTooDeep hplace => rw [hplace, unplaced]

/-- Without the places of its tokens an expression has the same tree, or the same fault without its
place. -/
theorem resolve_unplaced (tokens : List Token) (maxDepth : Nat) :
    resolve (tokens.map Token.unplaced) maxDepth =
      (resolve tokens maxDepth).mapError ParseError.unplaced := by
  have hfollows := follows_resolve .displace tokens maxDepth
  rw [← Token.unplaced_eq_reword] at hfollows
  cases hresolve : resolve tokens maxDepth with
  | ok root =>
      rw [hresolve] at hfollows
      have hroot : Group.mapText Rewording.displace.text root = root := root.mapText_id
      rw [hfollows.eq_ok, hroot, Except.mapError_ok]
  | error e =>
      rw [hresolve] at hfollows
      obtain ⟨e', he', halike⟩ := hfollows.eq_error
      rw [he', halike.eq_unplaced, Except.mapError_error]

/-- Spaces and places never influence reading.  Expressions with the same tokens but for spaces and
places have the same tree or the same fault but for its place; if the tokens other than spaces stand
in the same places, the fault has the same place too. -/
theorem resolve_ignores_spaces_and_places {tokens tokens' : List Token} (maxDepth : Nat) :
    ((Token.dropSpaces tokens).map Token.unplaced = (Token.dropSpaces tokens').map Token.unplaced →
      (∃ root, resolve tokens maxDepth = .ok root ∧ resolve tokens' maxDepth = .ok root) ∨
      ∃ e e', resolve tokens maxDepth = .error e ∧ resolve tokens' maxDepth = .error e' ∧
        e.unplaced = e'.unplaced) ∧
    (Token.dropSpaces tokens = Token.dropSpaces tokens' →
      resolve tokens maxDepth = resolve tokens' maxDepth) := by
  have hspaces := resolve_dropSpaces tokens maxDepth
  have hspaces' := resolve_dropSpaces tokens' maxDepth
  constructor
  · intro hsame
    have hunplaced := resolve_unplaced (Token.dropSpaces tokens) maxDepth
    rw [hsame, resolve_unplaced, hspaces, hspaces'] at hunplaced
    cases hresolve : resolve tokens maxDepth with
    | ok root =>
        rw [hresolve, Except.mapError_ok, Except.mapError_eq_ok_iff] at hunplaced
        exact .inl ⟨root, rfl, hunplaced⟩
    | error e =>
        rw [hresolve, Except.mapError_error, Except.mapError_eq_error_iff] at hunplaced
        obtain ⟨e', he', hplaces⟩ := hunplaced
        exact .inr ⟨e, e', rfl, he', hplaces.symm⟩
  · intro hsame
    rw [← hspaces, hsame, hspaces']

/-- A fault in a group, in an expression that is spread out and in one that is not. -/
theorem resolve_ignores_spaces_and_places_spread :
    (∃ e e', resolve [⟨.openParen, "(", 0⟩, ⟨.word, "a", 1⟩, ⟨.whitespace, " ", 2⟩,
        ⟨.word, "is", 3⟩, ⟨.closeParen, ")", 5⟩] 1 = .error e ∧
      resolve [⟨.whitespace, "  ", 0⟩, ⟨.openParen, "(", 2⟩, ⟨.word, "a", 3⟩,
        ⟨.whitespace, "   ", 4⟩, ⟨.word, "is", 7⟩, ⟨.whitespace, " ", 9⟩,
        ⟨.closeParen, ")", 10⟩] 1 = .error e' ∧ e.unplaced = e'.unplaced) ∧
    resolve [⟨.openParen, "(", 0⟩, ⟨.word, "a", 1⟩, ⟨.whitespace, " ", 2⟩,
        ⟨.word, "is", 3⟩, ⟨.closeParen, ")", 5⟩] 1 =
      resolve [⟨.openParen, "(", 0⟩, ⟨.whitespace, " ", 1⟩, ⟨.word, "a", 1⟩,
        ⟨.word, "is", 3⟩, ⟨.closeParen, ")", 5⟩, ⟨.whitespace, " ", 6⟩] 1 := by
  constructor
  · refine ((resolve_ignores_spaces_and_places 1).1 (by decide)).resolve_left ?_
    rintro ⟨root, hroot, _⟩
    have hfault : resolve [⟨.openParen, "(", 0⟩, ⟨.word, "a", 1⟩, ⟨.whitespace, " ", 2⟩,
        ⟨.word, "is", 3⟩, ⟨.closeParen, ")", 5⟩] 1 =
          .error (.expectedComparisonOperator "is" 3) := by with_unfolding_all rfl
    rw [hfault] at hroot
    cases hroot
  · exact (resolve_ignores_spaces_and_places 1).2 (by decide)

end DocumentFilter
