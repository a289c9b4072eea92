import DocumentFilter.Proofs.Token.RoundTrip

/-!
# Faults of tokens

An expression that cannot be cut into tokens can be cut up to the place of its fault, and the fault
says what stands there.  A token looks ahead over more than it takes, so this needs that no token
before the fault depends on what the fault is about.
-/

namespace DocumentFilter

namespace Quoted

/-- What is left of a text when quotes that come in pairs are removed, from left to right. -/
def dropDoubled : List Char → List Char
  | '\'' :: '\'' :: rest => dropDoubled rest
  | c :: rest => c :: dropDoubled rest
  | [] => []

theorem dropDoubled_cons_of_ne {c : Char} (hc : c ≠ '\'') (rest : List Char) :
    dropDoubled (c :: rest) = c :: dropDoubled rest := by
  rw [dropDoubled]
  simp [hc]

theorem unquote?_eq_none_iff {rest : List Char} :
    unquote? rest = none ↔ '\'' ∉ dropDoubled rest := by
  fun_induction unquote? rest with
  | case1 => simp [dropDoubled]
  | case2 => simp [dropDoubled]
  | case3 rest ih => simpa [dropDoubled] using ih
  | case4 d rest hd => simp [dropDoubled, hd]
  | case5 c rest hc ih =>
      rw [dropDoubled_cons_of_ne hc, Option.map_eq_none_iff, ih, List.mem_cons]
      simp [Ne.symm hc]

end Quoted

namespace LexError

/-- Where the fault was found. -/
def position : LexError → Nat
  | unexpectedCharacter _ position => position
  | unterminatedString position => position
  | numberOutOfRange _ position => position
  | invalidDate _ position => position

/-- What a fault says of the text from its place on. -/
def Describes : LexError → List Char → Prop
  | unexpectedCharacter c _, text =>
    text.head? = some c ∧ c.isAlphanum = false ∧
      c ∉ [' ', '\'', '_', '*', '(', ')', ',', '.', '+', '=']
  | unterminatedString _, text =>
    text.head? = some '\'' ∧ '\'' ∉ Quoted.dropDoubled text.tail
  | numberOutOfRange digits _, text =>
    digits.toList = text.takeWhile Char.isDigit ∧ 2 ^ 63 ≤ Decimal.value digits.toList ∧
      Instant.hasForm (text.takeWhile Token.isWordChar) = false
  | invalidDate word _, text =>
    word.toList = text.takeWhile Token.isWordChar ∧ Instant.hasForm word.toList = true ∧
      Instant.ofText? word.toList = none

end LexError

namespace Token
namespace Lexeme

variable {position : Nat} {first : Char} {rest : List Char} {e : LexError}

theorem describes_of_numeral (hfirst : first.isDigit = true)
    (h : numeral position first rest = .error e) :
    e.position = position ∧ e.Describes (first :: rest) := by
  have hword : (first :: rest).takeWhile isWordChar = first :: rest.takeWhile isWordChar :=
    List.takeWhile_cons_of_pos (isWordChar_of_isDigit hfirst)
  have hdigits : (first :: rest).takeWhile Char.isDigit = first :: rest.takeWhile Char.isDigit :=
    List.takeWhile_cons_of_pos hfirst
  revert h
  fun_cases numeral position first rest with
  | case2 word hform hinstant =>
      intro h
      cases h
      refine ⟨rfl, ?_, ?_, ?_⟩
      · rw [String.toList_ofList, hword]
        rfl
      · rwa [String.toList_ofList]
      · rw [String.toList_ofList]
        simpa using hinstant
  | case4 word digits hform hvalue =>
      intro h
      cases h
      refine ⟨rfl, ?_, ?_, ?_⟩
      · rw [String.toList_ofList, hdigits]
        rfl
      · rw [String.toList_ofList]
        exact Nat.lt_of_not_le hvalue
      · rw [hword]
        exact Bool.eq_false_iff.mpr hform
  | _ =>
      intro h
      cases h

/-- What is not read is refused for what stands in its place. -/
theorem describes_of_read (h : read position first rest = .error e) :
    e.position = position ∧ e.Describes (first :: rest) := by
  revert h
  fun_cases read position first rest with
  | case3 _ hquote hnone =>
      intro h
      cases h
      exact ⟨rfl, congrArg some hquote, Quoted.unquote?_eq_none_iff.mp hnone⟩
  | case4 _ _ hdigit => exact describes_of_numeral hdigit
  | case9 hspace hquote hdigit hword hopening hclosing hsymbol =>
      intro h
      cases h
      simp only [isWordStart, Bool.or_eq_true, decide_eq_true_eq, not_or] at hword
      simp only [isSymbol, Bool.or_eq_true, decide_eq_true_eq, not_or] at hsymbol
      obtain ⟨⟨hletter, hunderscore⟩, hasterisk⟩ := hword
      obtain ⟨⟨⟨hcomma, hdot⟩, hplus⟩, hequals⟩ := hsymbol
      refine ⟨rfl, rfl, ?_, ?_⟩
      · simp [Char.isAlphanum, hletter, hdigit]
      · simp [hspace, hquote, hunderscore, hasterisk, hopening, hclosing, hcomma, hdot, hplus,
          hequals]
  | _ =>
      intro h
      cases h

end Lexeme

/-- Before a fault stand lexical tokens, and no token is read in its place. -/
theorem exists_lexicalFrom_of_readAll {position : Nat} {text : List Char} {e : LexError}
    (h : readAll position text = .error e) :
    ∃ tokens first rest, LexicalFrom position tokens ∧
      text = tokens.flatMap spelling ++ first :: rest ∧
      Lexeme.read (position + (tokens.flatMap spelling).length) first rest = .error e := by
  induction position, text using readAll.induct with
  | case1 position =>
      rw [readAll] at h
      cases h
  | case2 position first rest ih =>
      rw [readAll_cons] at h
      cases hread : Lexeme.read position first rest with
      | error fault =>
          rw [hread] at h
          cases h
          exact ⟨[], first, rest, trivial, rfl, hread⟩
      | ok lexeme =>
          rw [hread, Except.bind, Except.map_eq_error_iff] at h
          obtain ⟨tokens, first', rest', hlexical, htext, hfault⟩ := ih lexeme h
          have hfits := Lexeme.fits_of_read hread
          obtain ⟨hcons, hwhole⟩ := hfits.lexicalFrom_cons htext hlexical
          refine ⟨lexeme.token position :: tokens, first', rest', hcons, hwhole, ?_⟩
          rwa [List.flatMap_cons, List.length_append, hfits.length_spelling, ← Nat.add_assoc,
            ← Nat.add_assoc]

end Token

/-- Faults of tokens are exact and local.  An expression that cannot be cut into tokens has its fault
at one of its characters, can be cut up to there, and has in that place what the fault says. -/
theorem lexical_fault_is_exact_and_local {filter : String} {e : LexError}
    (h : tokenize filter = .error e) :
    e.position < filter.length ∧
      (∃ tokens, tokenize (String.ofList (filter.toList.take e.position)) = .ok tokens) ∧
      e.Describes (filter.toList.drop e.position) := by
  obtain ⟨tokens, first, rest, hlexical, htext, hread⟩ := Token.exists_lexicalFrom_of_readAll h
  obtain ⟨hposition, hdescribes⟩ := Token.Lexeme.describes_of_read hread
  rw [Nat.zero_add] at hposition
  rw [hposition, ← String.length_toList, htext, List.take_left, List.drop_left]
  refine ⟨?_, ⟨tokens, ?_⟩, hdescribes⟩
  · simp
  · rw [tokenize, String.toList_ofList]
    exact Token.readAll_of_lexicalFrom hlexical

/-- The day that a year does not have stands behind a text with a doubled quote. -/
theorem lexical_fault_is_exact_and_local_leap_day :
    ∃ e, tokenize "'it''s' 2023-02-29T00:00:00.000Z" = .error e ∧ e.position = 8 ∧
      (∃ tokens, tokenize (String.ofList
        ("'it''s' 2023-02-29T00:00:00.000Z".toList.take e.position)) = .ok tokens) ∧
      e.Describes ("'it''s' 2023-02-29T00:00:00.000Z".toList.drop e.position) := by
  have htext : "'it''s' 2023-02-29T00:00:00.000Z".toList = ['\'', 'i', 't', '\'', '\'', 's', '\'',
    ' ', '2', '0', '2', '3', '-', '0', '2', '-', '2', '9', 'T', '0', '0', ':', '0', '0', ':', '0',
    '0', '.', '0', '0', '0', 'Z'] := by decide
  have hfault : tokenize "'it''s' 2023-02-29T00:00:00.000Z" =
      .error (.invalidDate "2023-02-29T00:00:00.000Z" 8) := by
    rw [tokenize, htext]
    with_unfolding_all rfl
  have hlocal := lexical_fault_is_exact_and_local hfault
  exact ⟨_, hfault, rfl, hlocal.2⟩

end DocumentFilter
