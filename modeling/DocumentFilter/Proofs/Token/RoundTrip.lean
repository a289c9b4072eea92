import Mathlib.Data.List.TakeWhile
import DocumentFilter.Fallible
import DocumentFilter.Proofs.Token.Lexical

/-!
# Cutting an expression into tokens and spelling them

The first token of an expression is the one token that suits its kind, is spelled at the front of
the expression and does not run on into what follows.  Cutting an expression into tokens is
therefore the inverse of spelling lexical tokens.
-/

namespace DocumentFilter
namespace Token

section Runs

variable {p : Char → Bool}

theorem takeWhile_append_of_ends {run tail : List Char} (hrun : ∀ c ∈ run, p c = true)
    (htail : ∀ c ∈ tail.head?, p c = false) : (run ++ tail).takeWhile p = run := by
  rw [List.takeWhile_append_of_pos hrun]
  cases tail with
  | nil => simp
  | cons c tail => simp [htail c rfl]

theorem take_length_takeWhile (rest : List Char) :
    rest.take (rest.takeWhile p).length = rest.takeWhile p :=
  (List.prefix_iff_eq_take.mp (List.takeWhile_prefix p)).symm

theorem drop_length_takeWhile (rest : List Char) :
    rest.drop (rest.takeWhile p).length = rest.dropWhile p := by
  induction rest with
  | nil => rfl
  | cons c rest ih =>
      cases hc : p c with
      | true => simpa [List.takeWhile_cons, hc] using ih
      | false => simp [hc]

theorem head?_dropWhile (rest : List Char) : ∀ c ∈ (rest.dropWhile p).head?, p c = false := by
  intro c hc
  have hhead := List.head?_dropWhile_not p rest
  rw [Option.mem_def.mp hc] at hhead
  exact hhead

end Runs

namespace Lexeme

/-- The token of a lexeme. -/
def token (lexeme : Lexeme) (position : Nat) : Token :=
  ⟨lexeme.kind, String.ofList lexeme.text, position⟩

/-- What is true of a lexeme at the front of a text: its token suits its kind and is spelled by the
characters that the lexeme takes, and the next character does not continue it. -/
structure Fits (position : Nat) (first : Char) (rest : List Char) (lexeme : Lexeme) : Prop where
  valid : (lexeme.token position).Valid
  spelled : (lexeme.token position).spelling = first :: rest.take lexeme.more
  more_le : lexeme.more ≤ rest.length
  ends : ∀ c ∈ (rest.drop lexeme.more).head?, continues lexeme.kind c = false

variable {position : Nat} {first : Char} {rest : List Char}

theorem fits_run {kind : TokenKind} {p : Char → Bool} (hkind : kind ≠ .string)
    (hclass : ∀ c, p c = continues kind c)
    (hvalid : ((run kind p first rest).token position).Valid) :
    Fits position first rest (run kind p first rest) where
  valid := hvalid
  spelled := by
    rw [spelling_of_ne hkind]
    simp [token, run, take_length_takeWhile]
  more_le := (List.takeWhile_prefix (l := rest) p).length_le
  ends := by
    rw [run, drop_length_takeWhile]
    exact fun c hc => (hclass c).symm.trans (head?_dropWhile rest c hc)

theorem fits_single {kind : TokenKind} (hkind : kind ≠ .string)
    (hends : ∀ c, continues kind c = false)
    (hvalid : ((single kind first).token position).Valid) :
    Fits position first rest (single kind first) where
  valid := hvalid
  spelled := by
    rw [spelling_of_ne hkind]
    simp [token, single]
  more_le := Nat.zero_le rest.length
  ends := fun c _ => hends c

theorem fits_string {text : List Char} {size : Nat}
    (hread : Quoted.unquote? rest = some (text, size)) :
    Fits position '\'' rest ⟨.string, text, size⟩ := by
  obtain ⟨tail, rfl, htail, rfl⟩ := Quoted.unquote?_eq_some hread
  have hsplit : Quoted.double text ++ '\'' :: tail = (Quoted.double text ++ ['\'']) ++ tail := by
    simp
  have hlength : (Quoted.double text).length + 1 = (Quoted.double text ++ ['\'']).length := by
    simp
  refine ⟨trivial, ?_, ?_, ?_⟩
  · rw [spelling_of_string rfl, hsplit, hlength, List.take_left]
    simp [token, Quoted.quote]
  · simp
  · intro c hc
    rw [hsplit, hlength, List.drop_left] at hc
    have hquote : c ≠ '\'' := by
      rintro rfl
      exact htail hc
    simp [continues, hquote]

theorem fits_numeral {lexeme : Lexeme} (hfirst : first.isDigit = true)
    (h : numeral position first rest = .ok lexeme) : Fits position first rest lexeme := by
  simp only [numeral] at h
  split at h
  · split at h
    · next hdate =>
        cases h
        refine fits_run (by simp) (fun _ => rfl) ?_
        simpa [Valid, token, run] using hdate
    · cases h
  · split at h
    · next hvalue =>
        cases h
        refine fits_run (by simp) (fun _ => rfl)
          ⟨by simp [token, run], ?_, by simpa [token, run] using hvalue⟩
        intro c hc
        obtain rfl | hmore : c = first ∨ c ∈ rest.takeWhile Char.isDigit := by
          simpa [token, run] using hc
        · exact hfirst
        · exact List.mem_takeWhile_imp hmore
    · cases h

theorem valid_whitespace (hspace : first = ' ') :
    ((run .whitespace (· = ' ') first rest).token position).Valid := by
  refine ⟨by simp [token, run], ?_⟩
  intro c hc
  obtain rfl | hmore : c = first ∨ c ∈ rest.takeWhile (· = ' ') := by
    simpa [token, run] using hc
  · exact hspace
  · simpa using List.mem_takeWhile_imp hmore

theorem valid_word (hstart : isWordStart first = true) :
    ((run .word isWordChar first rest).token position).Valid := by
  refine ⟨first, rest.takeWhile isWordChar, ?_, hstart, ?_⟩
  · simp [token, run]
  · exact fun c hc => List.mem_takeWhile_imp hc

theorem valid_symbol (hsymbol : isSymbol first = true) :
    ((single .symbol first).token position).Valid := by
  simp only [isSymbol, Bool.or_eq_true, decide_eq_true_eq] at hsymbol
  obtain ((rfl | rfl) | rfl) | rfl := hsymbol <;> simp [Valid, token, single]

/-- What is read fits. -/
theorem fits_of_read {lexeme : Lexeme} (h : read position first rest = .ok lexeme) :
    Fits position first rest lexeme := by
  revert h
  fun_cases read position first rest with
  | case1 hspace =>
      intro h
      cases h
      exact fits_run (by simp) (fun _ => rfl) (valid_whitespace hspace)
  | case2 hspace hquote text size hread =>
      intro h
      cases h
      rw [hquote]
      exact fits_string hread
  | case3 =>
      intro h
      cases h
  | case4 _ _ hdigit => exact fits_numeral hdigit
  | case5 _ _ _ hstart =>
      intro h
      cases h
      exact fits_run (by simp) (fun _ => rfl) (valid_word hstart)
  | case6 _ _ _ _ hopening =>
      intro h
      cases h
      rw [hopening]
      exact fits_single (by simp) (fun _ => rfl) rfl
  | case7 _ _ _ _ _ hclosing =>
      intro h
      cases h
      rw [hclosing]
      exact fits_single (by simp) (fun _ => rfl) rfl
  | case8 _ _ _ _ _ _ hsymbol =>
      intro h
      cases h
      exact fits_single (by simp) (fun _ => rfl) (valid_symbol hsymbol)
  | case9 =>
      intro h
      cases h

theorem read_of_isDigit (hfirst : first.isDigit = true) :
    read position first rest = numeral position first rest := by
  obtain ⟨hspace, hquote⟩ := ne_of_isWordChar (isWordChar_of_isDigit hfirst)
  rw [read, if_neg hspace, if_neg hquote, if_pos hfirst]

theorem read_of_isWordStart (hfirst : isWordStart first = true) :
    read position first rest = .ok (run .word isWordChar first rest) := by
  obtain ⟨hspace, hquote⟩ := ne_of_isWordChar (isWordChar_of_isWordStart hfirst)
  rw [read, if_neg hspace, if_neg hquote, if_neg (by simp [isDigit_of_isWordStart hfirst]),
    if_pos hfirst]

theorem run_append (kind : TokenKind) (first : Char) {p : Char → Bool} {rest tail : List Char}
    (hrest : ∀ c ∈ rest, p c = true) (htail : ∀ c ∈ tail.head?, p c = false) :
    run kind p first (rest ++ tail) = ⟨kind, first :: rest, rest.length⟩ := by
  rw [run, takeWhile_append_of_ends hrest htail]

theorem numeral_of_digits {tail : List Char} (hfirst : first.isDigit = true)
    (hrest : ∀ c ∈ rest, c.isDigit = true)
    (hvalue : Decimal.value (first :: rest) ≤ Decimal.maxSigned64)
    (htail : ∀ c ∈ tail.head?, c.isDigit = false ∧ c ≠ '-') :
    numeral position first (rest ++ tail) = .ok ⟨.number, first :: rest, rest.length⟩ := by
  have hword : Instant.hasForm (run .date isWordChar first (rest ++ tail)).text = false := by
    have hchars : ∀ c ∈ rest, isWordChar c = true := fun c hc => isWordChar_of_isDigit (hrest c hc)
    have hdigits : ∀ c ∈ first :: rest, c.isDigit = true := List.forall_mem_cons.mpr ⟨hfirst, hrest⟩
    rw [run, List.takeWhile_append_of_pos hchars, ← List.cons_append]
    refine Instant.hasForm_of_digits hdigits fun c hc => htail c ?_
    rw [List.head?_takeWhile] at hc
    exact (Option.mem_filter_iff.mp hc).1
  have hnumber := run_append .number first hrest fun c hc => (htail c hc).1
  simp only [numeral, hword, hnumber]
  simp [hvalue]

theorem numeral_of_ofText? {tail : List Char}
    (hinstant : (Instant.ofText? (first :: rest)).isSome = true)
    (htail : ∀ c ∈ tail.head?, isWordChar c = false) :
    numeral position first (rest ++ tail) = .ok ⟨.date, first :: rest, rest.length⟩ := by
  have hform := Instant.hasForm_of_ofText? hinstant
  have hrest : ∀ c ∈ rest, isWordChar c = true :=
    (List.forall_mem_cons.mp (Instant.isWordChar_of_hasForm hform)).2
  simp only [numeral, run_append .date first hrest htail, hform, hinstant]
  rfl

/-- A valid token is read before anything that neither goes on as it does nor starts with a
minus. -/
theorem read_of_valid {token : Token} (hvalid : token.Valid)
    (hspelling : token.spelling = first :: rest)
    {tail : List Char} (htail : ∀ c ∈ tail.head?, continues token.kind c = false ∧ c ≠ '-') :
    read token.position first (rest ++ tail) =
      .ok ⟨token.kind, token.text.toList, rest.length⟩ := by
  obtain ⟨kind, text, position⟩ := token
  cases kind with
  | whitespace =>
      have htext : text.toList = first :: rest := hspelling
      obtain ⟨_, hspaces⟩ := hvalid
      rw [htext, List.forall_mem_cons] at hspaces
      have hrun := run_append .whitespace first (p := (· = ' ')) (by simpa using hspaces.2)
        fun c hc => (htail c hc).1
      rw [read, if_pos hspaces.1, hrun, htext]
  | string =>
      rw [spelling_of_string rfl, Quoted.quote] at hspelling
      obtain ⟨rfl, rfl⟩ := List.cons.inj hspelling
      have hquote : tail.head? ≠ some '\'' := by
        intro hhead
        simpa [continues] using (htail '\'' hhead).1
      rw [read, if_neg (by decide), if_pos rfl, List.append_assoc, List.singleton_append,
        Quoted.unquote?_double text.toList hquote]
      simp
  | word =>
      have htext : text.toList = first :: rest := hspelling
      obtain ⟨c, others, hcons, hfirst, hothers⟩ := hvalid
      obtain ⟨rfl, rfl⟩ := List.cons.inj (htext.symm.trans hcons)
      rw [read_of_isWordStart hfirst, run_append .word first hothers fun c hc => (htail c hc).1,
        htext]
  | number =>
      have htext : text.toList = first :: rest := hspelling
      obtain ⟨_, hdigits, hvalue⟩ := hvalid
      rw [htext] at hdigits hvalue
      obtain ⟨hfirst, hrest⟩ := List.forall_mem_cons.mp hdigits
      rw [read_of_isDigit hfirst, numeral_of_digits hfirst hrest hvalue htail, htext]
  | date =>
      have htext : text.toList = first :: rest := hspelling
      have hinstant : (Instant.ofText? (first :: rest)).isSome = true := htext ▸ hvalid
      obtain ⟨a, b, c, d, others, hyear, hfirst, _⟩ :=
        Instant.exists_year_of_hasForm (Instant.hasForm_of_ofText? hinstant)
      obtain ⟨rfl, _⟩ := List.cons.inj hyear
      rw [read_of_isDigit hfirst, numeral_of_ofText? hinstant fun c hc => (htail c hc).1, htext]
  | openParen =>
      obtain rfl := hvalid
      obtain ⟨rfl, rfl⟩ : '(' = first ∧ [] = rest := by simpa [spelling, sourceText] using hspelling
      simp [read, single, isWordStart]
  | closeParen =>
      obtain rfl := hvalid
      obtain ⟨rfl, rfl⟩ : ')' = first ∧ [] = rest := by simpa [spelling, sourceText] using hspelling
      simp [read, single, isWordStart]
  | symbol =>
      obtain rfl | rfl | rfl | rfl := hvalid
      all_goals
        simp [spelling, sourceText] at hspelling
        obtain ⟨rfl, rfl⟩ := hspelling
        simp [read, single, isSymbol, isWordStart]

end Lexeme

theorem readAll_cons (position : Nat) (first : Char) (rest : List Char) :
    readAll position (first :: rest) =
      (Lexeme.read position first rest).bind fun lexeme =>
        (readAll (position + 1 + lexeme.more) (rest.drop lexeme.more)).map
          (lexeme.token position :: ·) := by
  rw [readAll]
  cases Lexeme.read position first rest with
  | error e => rfl
  | ok lexeme =>
      change (readAll _ _ >>= _) = Except.map _ _
      cases readAll (position + 1 + lexeme.more) (rest.drop lexeme.more) <;> rfl

theorem continues_of_lexicalFrom {token : Token} {position : Nat} {rest : List Token}
    (hlexical : LexicalFrom position rest) (hnext : ∀ next ∈ rest.head?, ¬ token.Merges next) :
    ∀ c ∈ (rest.flatMap spelling).head?, continues token.kind c = false ∧ c ≠ '-' := by
  intro c hc
  cases rest with
  | nil => cases hc
  | cons next rest =>
      have hvalid : next.Valid := hlexical.2.1
      obtain ⟨first, others, hspelling, hstarts⟩ := hvalid.starts
      rw [List.flatMap_cons, hspelling, List.cons_append] at hc
      cases hc
      have hmerges := (merges_iff hvalid hspelling).not.mp (hnext next rfl)
      exact ⟨by simpa using hmerges, ne_minus_of_starts hstarts⟩

theorem not_merges_of_continues {token : Token} {position : Nat} {rest : List Token}
    (hlexical : LexicalFrom position rest)
    (hends : ∀ c ∈ (rest.flatMap spelling).head?, continues token.kind c = false) :
    ∀ next ∈ rest.head?, ¬ token.Merges next := by
  intro next hnext
  cases rest with
  | nil => cases hnext
  | cons other rest =>
      cases hnext
      have hvalid : next.Valid := hlexical.2.1
      obtain ⟨first, others, hspelling, _⟩ := hvalid.starts
      have hfirst := hends first (by rw [List.flatMap_cons, hspelling]; rfl)
      rw [merges_iff hvalid hspelling, hfirst]
      simp

theorem Lexeme.Fits.length_spelling {position : Nat} {first : Char} {rest : List Char}
    {lexeme : Lexeme} (hfits : lexeme.Fits position first rest) :
    (lexeme.token position).spelling.length = 1 + lexeme.more := by
  have hmore := hfits.more_le
  rw [hfits.spelled, List.length_cons, List.length_take]
  omega

theorem Lexeme.Fits.lexicalFrom_cons {position : Nat} {first : Char} {rest tail : List Char}
    {lexeme : Lexeme} {tokens : List Token} (hfits : lexeme.Fits position first rest)
    (hspelled : rest.drop lexeme.more = tokens.flatMap spelling ++ tail)
    (hlexical : LexicalFrom (position + 1 + lexeme.more) tokens) :
    LexicalFrom position (lexeme.token position :: tokens) ∧
      first :: rest = (lexeme.token position :: tokens).flatMap spelling ++ tail := by
  constructor
  · refine ⟨rfl, hfits.valid, not_merges_of_continues hlexical ?_, ?_⟩
    · intro c hc
      refine hfits.ends c ?_
      rw [hspelled, List.head?_append, Option.mem_def.mp hc]
      rfl
    · rw [hfits.length_spelling, ← Nat.add_assoc]
      exact hlexical
  · rw [List.flatMap_cons, List.append_assoc, ← hspelled, hfits.spelled, List.cons_append,
      List.take_append_drop]

/-- The tokens that are read from a text are lexical and spell it. -/
theorem lexicalFrom_of_readAll {position : Nat} {text : List Char} {tokens : List Token}
    (h : readAll position text = .ok tokens) :
    LexicalFrom position tokens ∧ tokens.flatMap spelling = text := by
  fun_induction readAll position text generalizing tokens with
  | case1 position =>
      cases h
      exact ⟨trivial, rfl⟩
  | case2 position first rest ih =>
      have hsteps : readAll position (first :: rest) = .ok tokens := by
        rw [readAll]
        exact h
      rw [readAll_cons] at hsteps
      obtain ⟨lexeme, hread, hmore⟩ := Except.bind_eq_ok_iff.mp hsteps
      obtain ⟨others, hothers, hresult⟩ := Except.map_eq_ok_iff.mp hmore
      subst hresult
      obtain ⟨hlexical, hspelled⟩ := ih lexeme hothers
      rw [← List.append_nil (others.flatMap spelling)] at hspelled
      obtain ⟨hcons, hwhole⟩ := (Lexeme.fits_of_read hread).lexicalFrom_cons hspelled.symm hlexical
      rw [List.append_nil] at hwhole
      exact ⟨hcons, hwhole.symm⟩

/-- Lexical tokens are read from the text that they spell, whatever follows that neither goes on as
the last of them does nor starts with a minus. -/
theorem readAll_append_of_lexicalFrom {position : Nat} {tokens : List Token} {tail : List Char}
    (h : LexicalFrom position tokens)
    (hends : ∀ token ∈ tokens.getLast?, ∀ c ∈ tail.head?, continues token.kind c = false ∧ c ≠ '-') :
    readAll position (tokens.flatMap spelling ++ tail) =
      (readAll (position + (tokens.flatMap spelling).length) tail).map (tokens ++ ·) := by
  induction tokens generalizing position with
  | nil =>
      change readAll position tail = (readAll position tail).map id
      cases readAll position tail <;> rfl
  | cons token rest ih =>
      obtain ⟨rfl, hvalid, hnext, hrest⟩ := h
      obtain ⟨first, others, hspelling, _⟩ := hvalid.starts
      have htail : ∀ c ∈ (rest.flatMap spelling ++ tail).head?,
          continues token.kind c = false ∧ c ≠ '-' := by
        cases rest with
        | nil => simpa using hends
        | cons next more =>
            obtain ⟨c, text, hcons, _⟩ := hrest.2.1.starts
            have hcontinues := continues_of_lexicalFrom hrest hnext
            rw [List.flatMap_cons, hcons] at hcontinues ⊢
            exact hcontinues
      have hlast : ∀ token ∈ rest.getLast?, ∀ c ∈ tail.head?,
          continues token.kind c = false ∧ c ≠ '-' := by
        cases rest with
        | nil => simp
        | cons next more => simpa using hends
      have hread := Lexeme.read_of_valid hvalid hspelling htail
      have hmore := ih hrest hlast
      have hplace : token.position + 1 + others.length =
          token.position + token.spelling.length := by
        rw [hspelling, List.length_cons]
        omega
      rw [List.flatMap_cons, List.append_assoc, hspelling, List.cons_append, readAll_cons, hread,
        Except.bind, List.drop_left, hplace, hmore, List.length_append, List.length_cons]
      have hend : token.position + token.spelling.length + (rest.flatMap spelling).length =
          token.position + (others.length + 1 + (rest.flatMap spelling).length) := by
        rw [hspelling, List.length_cons, Nat.add_assoc]
      rw [hend]
      cases readAll _ tail <;> simp [Except.map, Lexeme.token]

theorem readAll_of_lexicalFrom {position : Nat} {tokens : List Token}
    (h : LexicalFrom position tokens) :
    readAll position (tokens.flatMap spelling) = .ok tokens := by
  have hread := @readAll_append_of_lexicalFrom position tokens [] h (by simp)
  rw [List.append_nil, readAll, Except.map, List.append_nil] at hread
  exact hread

theorem valid_of_readAll {position : Nat} {text : List Char} {tokens : List Token}
    (h : readAll position text = .ok tokens) : ∀ token ∈ tokens, token.Valid :=
  ((lexicalFrom_iff position tokens).mp (lexicalFrom_of_readAll h).1).2.1

/-- Only spaces are read as spaces. -/
theorem blank_iff_of_readAll {position : Nat} {text : List Char} {tokens : List Token}
    (h : readAll position text = .ok tokens) :
    (∀ token ∈ tokens, token.kind = .whitespace) ↔ ∀ c ∈ text, c = ' ' := by
  have hvalid := valid_of_readAll h
  obtain ⟨_, rfl⟩ := lexicalFrom_of_readAll h
  constructor
  · intro hblank c hc
    obtain ⟨token, htoken, hc⟩ := List.mem_flatMap.mp hc
    have hkind := hblank token htoken
    have hspaces := hvalid token htoken
    rw [spelling_of_ne (by simp [hkind])] at hc
    simp only [Valid, hkind] at hspaces
    exact hspaces.2 c hc
  · intro hspaces token htoken
    obtain ⟨first, rest, hspelling, hstarts⟩ := (hvalid token htoken).starts
    obtain rfl : first = ' ' :=
      hspaces first (List.mem_flatMap.mpr ⟨token, htoken, by simp [hspelling]⟩)
    revert hstarts
    cases token.kind <;> decide

end Token

/-- Cutting an expression into tokens is the inverse of spelling lexical tokens. -/
theorem tokenize_eq_ok_iff (filter : String) (tokens : List Token) :
    tokenize filter = .ok tokens ↔ Token.Lexical tokens ∧ Token.render tokens = filter := by
  rw [tokenize, ← Token.lexicalFrom_zero_iff, ← String.toList_inj, Token.toList_render]
  constructor
  · exact Token.lexicalFrom_of_readAll
  · rintro ⟨hlexical, hspelled⟩
    rw [← hspelled]
    exact Token.readAll_of_lexicalFrom hlexical

end DocumentFilter
