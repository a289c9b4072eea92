import Mathlib.Data.List.Chain
import DocumentFilter.Proofs.Instant

/-!
# Lexical token lists

A token list is lexical when it is what its own spelling is cut into: every text suits its kind,
every position counts the characters before it, and no token runs on into the next one.  Whether it
does can be seen from the first character of the next token alone.
-/

namespace DocumentFilter
namespace Token

/-- The text suits the kind. -/
def Valid (token : Token) : Prop :=
  match token.kind with
  | .whitespace => token.text ≠ "" ∧ ∀ c ∈ token.text.toList, c = ' '
  | .string => True
  | .word =>
    ∃ first rest, token.text.toList = first :: rest ∧ isWordStart first = true ∧
      ∀ c ∈ rest, isWordChar c = true
  | .number =>
    token.text ≠ "" ∧ (∀ c ∈ token.text.toList, c.isDigit = true) ∧
      Decimal.value token.text.toList ≤ Decimal.maxSigned64
  | .date => (Instant.ofText? token.text.toList).isSome = true
  | .openParen => token.text = "("
  | .closeParen => token.text = ")"
  | .symbol => token.text = "," ∨ token.text = "." ∨ token.text = "+" ∨ token.text = "="

/-- The token runs on into the next one. -/
def Merges (token next : Token) : Prop :=
  match token.kind with
  | .whitespace => next.kind = .whitespace
  | .string => next.kind = .string
  | .word | .date =>
    next.kind = .word ∨ next.kind = .number ∨ next.kind = .date ∨
      next.kind = .symbol ∧ next.text = "."
  | .number => next.kind = .number ∨ next.kind = .date
  | .openParen | .closeParen | .symbol => False

/-- The expression that tokens spell. -/
def render (tokens : List Token) : String := String.join (tokens.map sourceText)

/-- The tokens are those of the expression that they spell. -/
structure Lexical (tokens : List Token) : Prop where
  /-- A position is the number of characters before the token. -/
  placed : ∀ before token after, tokens = before ++ token :: after →
    token.position = (render before).length
  valid : ∀ token ∈ tokens, token.Valid
  apart : tokens.IsChain fun token next => ¬ token.Merges next

/-- The characters that a token is spelled with. -/
def spelling (token : Token) : List Char := token.sourceText.toList

theorem toList_render (tokens : List Token) :
    (render tokens).toList = tokens.flatMap spelling := by
  rw [render, String.toList_join, List.flatMap_map]
  rfl

theorem length_render (tokens : List Token) :
    (render tokens).length = (tokens.flatMap spelling).length := by
  rw [← String.length_toList, toList_render]

theorem spelling_of_string {token : Token} (hkind : token.kind = .string) :
    token.spelling = Quoted.quote token.text.toList := by
  simp [spelling, sourceText, hkind, Quoted.quoteString]

theorem spelling_of_ne {token : Token} (hkind : token.kind ≠ .string) :
    token.spelling = token.text.toList := by
  simp [spelling, sourceText, hkind]

/-! ## Tokens from a position on -/

/-- The tokens are lexical when the given number of characters stands before them. -/
def LexicalFrom (position : Nat) : List Token → Prop
  | [] => True
  | token :: rest =>
    token.position = position ∧ token.Valid ∧ (∀ next ∈ rest.head?, ¬ token.Merges next) ∧
      LexicalFrom (position + token.spelling.length) rest

theorem placed_cons_iff (position : Nat) (token : Token) (rest : List Token) :
    (∀ before other after, token :: rest = before ++ other :: after →
        other.position = position + (render before).length) ↔
      token.position = position ∧ ∀ before other after, rest = before ++ other :: after →
        other.position = position + token.spelling.length + (render before).length := by
  constructor
  · intro h
    refine ⟨h [] token rest rfl, ?_⟩
    intro before other after hrest
    have hplace := h (token :: before) other after (by rw [hrest, List.cons_append])
    rw [length_render, List.flatMap_cons, List.length_append] at hplace
    rw [hplace, length_render, Nat.add_assoc]
  · rintro ⟨hfirst, hrest⟩ before other after hsplit
    cases before with
    | nil =>
        obtain ⟨rfl, _⟩ := List.cons.inj hsplit
        exact hfirst
    | cons first before =>
        obtain ⟨rfl, htail⟩ := List.cons.inj hsplit
        have hplace := hrest before other after htail
        rw [hplace, length_render, length_render, List.flatMap_cons, List.length_append,
          Nat.add_assoc]

/-- What stands before lexical tokens shows in their positions only. -/
theorem lexicalFrom_iff (position : Nat) (tokens : List Token) :
    LexicalFrom position tokens ↔
      (∀ before token after, tokens = before ++ token :: after →
        token.position = position + (render before).length) ∧
      (∀ token ∈ tokens, token.Valid) ∧ tokens.IsChain fun token next => ¬ token.Merges next := by
  induction tokens generalizing position with
  | nil => simp [LexicalFrom]
  | cons token rest ih =>
      rw [LexicalFrom, ih, placed_cons_iff, List.forall_mem_cons, List.isChain_cons]
      constructor
      · rintro ⟨hposition, hvalid, hnext, hplaced, hvalids, hapart⟩
        exact ⟨⟨hposition, hplaced⟩, ⟨hvalid, hvalids⟩, hnext, hapart⟩
      · rintro ⟨⟨hposition, hplaced⟩, ⟨hvalid, hvalids⟩, hnext, hapart⟩
        exact ⟨hposition, hvalid, hnext, hplaced, hvalids, hapart⟩

theorem lexicalFrom_zero_iff {tokens : List Token} : LexicalFrom 0 tokens ↔ Lexical tokens := by
  rw [lexicalFrom_iff]
  constructor
  · rintro ⟨hplaced, hvalid, hapart⟩
    exact ⟨by simpa using hplaced, hvalid, hapart⟩
  · rintro ⟨hplaced, hvalid, hapart⟩
    exact ⟨by simpa using hplaced, hvalid, hapart⟩

/-! ## First characters -/

/-- The characters with which a token of a kind starts. -/
def starts : TokenKind → Char → Bool
  | .whitespace, c => c = ' '
  | .string, c => c = '\''
  | .word, c => isWordStart c
  | .number, c => c.isDigit
  | .date, c => c.isDigit
  | .openParen, c => c = '('
  | .closeParen, c => c = ')'
  | .symbol, c => isSymbol c

/-- The characters with which a token of a kind goes on. -/
def continues : TokenKind → Char → Bool
  | .whitespace, c => c = ' '
  | .string, c => c = '\''
  | .word, c => isWordChar c
  | .date, c => isWordChar c
  | .number, c => c.isDigit
  | .openParen, _ => false
  | .closeParen, _ => false
  | .symbol, _ => false

theorem isWordChar_of_isWordStart {c : Char} (h : isWordStart c = true) :
    isWordChar c = true := by
  simp only [isWordStart, isWordChar, Char.isAlphanum, Bool.or_eq_true, decide_eq_true_eq] at h ⊢
  rcases h with (halpha | hunderscore) | hstar <;> simp_all

theorem isWordChar_of_isDigit {c : Char} (h : c.isDigit = true) : isWordChar c = true := by
  simp [isWordChar, Char.isAlphanum, h]

theorem ne_of_isWordChar {c : Char} (h : isWordChar c = true) : c ≠ ' ' ∧ c ≠ '\'' := by
  constructor <;> (rintro rfl; revert h; decide)

theorem toNat_of_isAlpha {c : Char} (h : c.isAlpha = true) :
    'A'.toNat ≤ c.toNat ∧ c.toNat ≤ 'z'.toNat := by
  have hcases : (c.isUpper || c.isLower) = true := h
  obtain hupper | hlower := Bool.or_eq_true_iff.mp hcases
  · have hbounds : decide (c.val ≥ 'A'.val ∧ c.val ≤ 'Z'.val) = true := hupper
    obtain ⟨hleast, hgreatest⟩ := of_decide_eq_true hbounds
    exact ⟨UInt32.le_iff_toNat_le.mp hleast,
      Nat.le_trans (UInt32.le_iff_toNat_le.mp hgreatest) (by decide)⟩
  · have hbounds : (decide (c.val ≥ 'a'.val) && decide (c.val ≤ 'z'.val)) = true := hlower
    obtain ⟨hleast, hgreatest⟩ := Bool.and_eq_true_iff.mp hbounds
    exact ⟨Nat.le_trans (by decide) (UInt32.le_iff_toNat_le.mp (of_decide_eq_true hleast)),
      UInt32.le_iff_toNat_le.mp (of_decide_eq_true hgreatest)⟩

theorem isDigit_of_isWordStart {c : Char} (h : isWordStart c = true) : c.isDigit = false := by
  simp only [isWordStart, Bool.or_eq_true, decide_eq_true_eq] at h
  rcases h with (halpha | rfl) | rfl
  · have hletter := toNat_of_isAlpha halpha
    have hdigits : '9'.toNat < 'A'.toNat := by decide
    rw [Bool.eq_false_iff, ne_eq, Char.isDigit_iff_toNat]
    omega
  · decide
  · decide

theorem ne_minus_of_starts {kind : TokenKind} {c : Char} (h : starts kind c = true) : c ≠ '-' := by
  rintro rfl
  cases kind <;> simp [starts, isWordStart, isSymbol] at h

theorem toNat_of_starts {kind : TokenKind} {c : Char} (h : starts kind c = true) :
    c = ' ' ∨ '!'.toNat ≤ c.toNat ∧ c.toNat ≤ '~'.toNat := by
  have hdigit (h : c.isDigit = true) : c = ' ' ∨ '!'.toNat ≤ c.toNat ∧ c.toNat ≤ '~'.toNat := by
    obtain ⟨hleast, hgreatest⟩ := Char.isDigit_iff_toNat.mp h
    exact .inr ⟨Nat.le_trans (by decide) hleast, Nat.le_trans hgreatest (by decide)⟩
  cases kind with
  | whitespace => exact .inl (by simpa [starts] using h)
  | string =>
      obtain rfl : c = '\'' := by simpa [starts] using h
      decide
  | word =>
      simp only [starts, isWordStart, Bool.or_eq_true, decide_eq_true_eq] at h
      obtain (hletter | rfl) | rfl := h
      · obtain ⟨hleast, hgreatest⟩ := toNat_of_isAlpha hletter
        exact .inr ⟨Nat.le_trans (by decide) hleast, Nat.le_trans hgreatest (by decide)⟩
      · decide
      · decide
  | number => exact hdigit h
  | date => exact hdigit h
  | openParen =>
      obtain rfl : c = '(' := by simpa [starts] using h
      decide
  | closeParen =>
      obtain rfl : c = ')' := by simpa [starts] using h
      decide
  | symbol =>
      simp only [starts, isSymbol, Bool.or_eq_true, decide_eq_true_eq] at h
      obtain ((rfl | rfl) | rfl) | rfl := h <;> decide

theorem Valid.starts {token : Token} (h : token.Valid) :
    ∃ first rest, token.spelling = first :: rest ∧ starts token.kind first = true := by
  obtain ⟨kind, text, position⟩ := token
  cases kind with
  | whitespace =>
      obtain ⟨htext, hspaces⟩ := h
      obtain ⟨first, rest, hcons⟩ :=
        List.exists_cons_of_ne_nil (mt String.toList_eq_nil_iff.mp htext)
      have hfirst := hspaces first (by simp [hcons])
      exact ⟨first, rest, hcons, by simp [Token.starts, hfirst]⟩
  | string => exact ⟨'\'', _, spelling_of_string rfl, rfl⟩
  | word =>
      obtain ⟨first, rest, htext, hfirst, _⟩ := h
      exact ⟨first, rest, htext, hfirst⟩
  | number =>
      obtain ⟨htext, hdigits, _⟩ := h
      obtain ⟨first, rest, hcons⟩ :=
        List.exists_cons_of_ne_nil (mt String.toList_eq_nil_iff.mp htext)
      exact ⟨first, rest, hcons, hdigits first (by simp [hcons])⟩
  | date =>
      obtain ⟨a, b, c, d, rest, htext, hdigit, _⟩ :=
        Instant.exists_year_of_hasForm (Instant.hasForm_of_ofText? h)
      exact ⟨a, _, htext, hdigit⟩
  | openParen =>
      obtain rfl := h
      exact ⟨'(', [], by simp [spelling, sourceText], rfl⟩
  | closeParen =>
      obtain rfl := h
      exact ⟨')', [], by simp [spelling, sourceText], rfl⟩
  | symbol =>
      obtain rfl | rfl | rfl | rfl := h
      · exact ⟨',', [], by simp [spelling, sourceText], rfl⟩
      · exact ⟨'.', [], by simp [spelling, sourceText], rfl⟩
      · exact ⟨'+', [], by simp [spelling, sourceText], rfl⟩
      · exact ⟨'=', [], by simp [spelling, sourceText], rfl⟩

/-- Whether a token runs on into the next one shows in the first character of that one. -/
theorem merges_iff {token next : Token} (hvalid : next.Valid) {c : Char} {rest : List Char}
    (hspelling : next.spelling = c :: rest) :
    token.Merges next ↔ continues token.kind c = true := by
  have hstarts : starts next.kind c = true := by
    obtain ⟨first, others, hfirst, hstarts⟩ := hvalid.starts
    rw [hspelling] at hfirst
    cases hfirst
    exact hstarts
  obtain ⟨kind, text, position⟩ := next
  cases kind with
  | whitespace =>
      obtain rfl : c = ' ' := by simpa [starts] using hstarts
      cases hkind : token.kind <;> simp [Merges, continues, hkind] <;> decide
  | string =>
      obtain rfl : c = '\'' := by simpa [starts] using hstarts
      cases hkind : token.kind <;> simp [Merges, continues, hkind] <;> decide
  | word =>
      have hchar := isWordChar_of_isWordStart hstarts
      obtain ⟨hspace, hquote⟩ := ne_of_isWordChar hchar
      cases hkind : token.kind <;>
        simp [Merges, continues, hkind, hspace, hquote, hchar, isDigit_of_isWordStart hstarts]
  | number =>
      have hdigit : c.isDigit = true := hstarts
      have hchar := isWordChar_of_isDigit hdigit
      obtain ⟨hspace, hquote⟩ := ne_of_isWordChar hchar
      cases hkind : token.kind <;>
        simp [Merges, continues, hkind, hspace, hquote, hchar, hdigit]
  | date =>
      have hdigit : c.isDigit = true := hstarts
      have hchar := isWordChar_of_isDigit hdigit
      obtain ⟨hspace, hquote⟩ := ne_of_isWordChar hchar
      cases hkind : token.kind <;>
        simp [Merges, continues, hkind, hspace, hquote, hchar, hdigit]
  | openParen =>
      obtain rfl : c = '(' := by simpa [starts] using hstarts
      cases hkind : token.kind <;> simp [Merges, continues, hkind] <;> decide
  | closeParen =>
      obtain rfl : c = ')' := by simpa [starts] using hstarts
      cases hkind : token.kind <;> simp [Merges, continues, hkind] <;> decide
  | symbol =>
      obtain rfl | rfl | rfl | rfl := hvalid
      all_goals
        simp [spelling, sourceText] at hspelling
        obtain ⟨rfl, _⟩ := hspelling
        cases hkind : token.kind <;> simp [Merges, continues, hkind] <;> decide

end Token
end DocumentFilter
