import DocumentFilter.Proofs.Token.RoundTrip

/-!
# Tokens of an expression made of parts

An expression is cut behind a token in the same way whatever stands before it.  If the last token of
one part does not run on into the next part, the tokens of the whole are those of the parts, with
the positions of the second part moved on.  A text between quotes is such a part: it adds one token
and nothing else.
-/

namespace DocumentFilter

/-- The fault when a number of characters stand before the expression. -/
def LexError.shift (offset : Nat) : LexError → LexError
  | unexpectedCharacter character position => .unexpectedCharacter character (position + offset)
  | unterminatedString position => .unterminatedString (position + offset)
  | numberOutOfRange text position => .numberOutOfRange text (position + offset)
  | invalidDate text position => .invalidDate text (position + offset)

theorem LexError.shift_shift (first second : Nat) (error : LexError) :
    (error.shift first).shift second = error.shift (first + second) := by
  cases error <;> simp [shift, Nat.add_assoc]

namespace Token

/-- The token when a number of characters stand before the expression. -/
def shift (offset : Nat) (token : Token) : Token :=
  { token with position := token.position + offset }

@[simp]
theorem kind_shift (offset : Nat) (token : Token) : (token.shift offset).kind = token.kind := rfl

theorem map_shift_shift (first second : Nat) (tokens : List Token) :
    (tokens.map (shift first)).map (shift second) = tokens.map (shift (first + second)) := by
  rw [List.map_map]
  congr 1
  funext token
  simp [shift, Nat.add_assoc]

namespace Lexeme

theorem numeral_shift (offset position : Nat) (first : Char) (rest : List Char) :
    numeral (position + offset) first rest =
      (numeral position first rest).mapError (LexError.shift offset) := by
  simp only [numeral]
  split
  · split <;> rfl
  · split <;> rfl

theorem read_shift (offset position : Nat) (first : Char) (rest : List Char) :
    read (position + offset) first rest =
      (read position first rest).mapError (LexError.shift offset) := by
  unfold read
  split
  · rfl
  split
  · cases Quoted.unquote? rest <;> rfl
  split
  · exact numeral_shift offset position first rest
  split
  · rfl
  split
  · rfl
  split
  · rfl
  split
  · rfl
  · rfl

end Lexeme

/-- What stands before a text shows in positions only. -/
theorem readAll_shift (offset position : Nat) (text : List Char) :
    readAll (position + offset) text =
      ((readAll position text).map (List.map (shift offset))).mapError (LexError.shift offset) := by
  induction position, text using readAll.induct with
  | case1 position =>
      rw [readAll, readAll]
      rfl
  | case2 position first rest ih =>
      rw [readAll_cons, readAll_cons, Lexeme.read_shift]
      cases Lexeme.read position first rest with
      | error e => rfl
      | ok lexeme =>
          have hplace : position + offset + 1 + lexeme.more = position + 1 + lexeme.more + offset := by
            omega
          simp only [Except.mapError_ok, Except.bind, hplace, ih lexeme]
          cases readAll (position + 1 + lexeme.more) (rest.drop lexeme.more) <;> rfl

theorem head?_ne_minus_of_readAll {position : Nat} {text : List Char} {tokens : List Token}
    (h : readAll position text = .ok tokens) : ∀ c ∈ text.head?, c ≠ '-' := by
  obtain ⟨hlexical, rfl⟩ := lexicalFrom_of_readAll h
  intro c hc
  cases tokens with
  | nil => cases hc
  | cons token rest =>
      obtain ⟨first, others, hspelling, hstarts⟩ := hlexical.2.1.starts
      rw [List.flatMap_cons, hspelling] at hc
      cases hc
      exact ne_minus_of_starts hstarts

end Token

open Token

/-- If the last token of an expression does not run on into what follows, the tokens of both
together are the tokens of each, with the positions of the second moved on. -/
theorem tokenize_append {left right : String} {before : List Token}
    (hleft : tokenize left = .ok before)
    (hends : ∀ token ∈ before.getLast?, ∀ c ∈ right.toList.head?,
      continues token.kind c = false ∧ c ≠ '-') :
    tokenize (left ++ right) =
      ((tokenize right).map fun after => before ++ after.map (shift left.length)).mapError
        (LexError.shift left.length) := by
  obtain ⟨hlexical, hspelled⟩ := lexicalFrom_of_readAll hleft
  have hwhole := readAll_append_of_lexicalFrom hlexical hends
  have hright := readAll_shift left.length 0 right.toList
  rw [hspelled, String.length_toList, hright] at hwhole
  rw [tokenize, String.toList_append, hwhole, tokenize]
  cases readAll 0 right.toList <;> rfl

theorem tokenize_append_of_ok {left right : String} {before after : List Token}
    (hleft : tokenize left = .ok before) (hright : tokenize right = .ok after)
    (hends : ∀ token ∈ before.getLast?, ∀ c ∈ right.toList.head?,
      continues token.kind c = false ∧ c ≠ '-') :
    tokenize (left ++ right) = .ok (before ++ after.map (shift left.length)) := by
  rw [tokenize_append hleft hends, hright]
  rfl

/-- A text between quotes is one token, whatever the text is, unless another quote follows. -/
theorem tokenize_quoteString_append (text : String) {right : String}
    (hquote : right.toList.head? ≠ some '\'') :
    tokenize (Quoted.quoteString text ++ right) =
      ((tokenize right).map fun after =>
        ⟨.string, text, 0⟩ :: after.map (shift (Quoted.quoteString text).length)).mapError
          (LexError.shift (Quoted.quoteString text).length) := by
  have hwhole : (Quoted.quoteString text ++ right).toList =
      '\'' :: (Quoted.double text.toList ++ '\'' :: right.toList) := by
    simp [Quoted.quoteString, Quoted.quote]
  have hread : Lexeme.read 0 '\'' (Quoted.double text.toList ++ '\'' :: right.toList) =
      .ok ⟨.string, text.toList, (Quoted.double text.toList).length + 1⟩ := by
    rw [Lexeme.read, if_neg (by decide), if_pos rfl, Quoted.unquote?_double text.toList hquote]
  have hlength : (Quoted.quoteString text).length =
      0 + 1 + ((Quoted.double text.toList).length + 1) := by
    rw [Quoted.quoteString, String.length_ofList, Quoted.quote, List.length_cons,
      List.length_append, List.length_singleton]
    omega
  have hrest : (Quoted.double text.toList ++ '\'' :: right.toList).drop
      ((Quoted.double text.toList).length + 1) = right.toList := by
    simp [List.drop_append]
  have hshift := readAll_shift (Quoted.quoteString text).length 0 right.toList
  rw [Nat.zero_add] at hshift
  rw [tokenize, hwhole, readAll_cons, hread, Except.bind, hrest, ← hlength, hshift, tokenize]
  cases readAll 0 right.toList <;> simp [Except.map, Lexeme.token]

/-- A text that is put between quotes into an expression is one token there.  The expression before
it is cut as it is alone, and so is the expression behind it. -/
theorem tokenize_interpolated {left right : String} {before : List Token}
    (hleft : tokenize left = .ok before) (hlast : ∀ token ∈ before.getLast?, token.kind ≠ .string)
    (hquote : right.toList.head? ≠ some '\'') (text : String) :
    tokenize (left ++ Quoted.quoteString text ++ right) =
      ((tokenize right).map fun after => before ++ ⟨.string, text, left.length⟩ ::
        after.map (shift (left.length + (Quoted.quoteString text).length))).mapError
          (LexError.shift (left.length + (Quoted.quoteString text).length)) := by
  have hends : ∀ token ∈ before.getLast?, ∀ c ∈ (Quoted.quoteString text ++ right).toList.head?,
      continues token.kind c = false ∧ c ≠ '-' := by
    intro token htoken c hc
    have hkind := hlast token htoken
    simp [Quoted.quoteString, Quoted.quote] at hc
    subst hc
    revert hkind
    cases token.kind <;> decide
  rw [String.append_assoc, tokenize_append hleft hends, tokenize_quoteString_append text hquote,
    Nat.add_comm left.length]
  cases tokenize right with
  | error e => simp only [Except.map, Except.mapError_error, LexError.shift_shift]
  | ok after =>
      simp only [Except.map, Except.mapError_ok, List.map_cons, map_shift_shift]
      simp [shift]

end DocumentFilter
