import DocumentFilter.Predicate.Compile
import DocumentFilter.Proofs.Pattern.Matching
import DocumentFilter.Proofs.Token.Lexical
import Mathlib.Data.List.Infix

/-!
# Patterns for texts

A text becomes a pattern by a backslash before every character that could mean something else.  Read
as a regular expression, the pattern consists of the characters of the text and nothing more, so it
matches where the text stands: anywhere, at the start or at the end.
-/

namespace DocumentFilter
namespace Pattern

/-- How an engine reads patterns.  Engines differ in what they take for alphanumeric outside ASCII;
blank characters are never alphanumeric. -/
structure Dialect where
  isAlphanumeric : Char → Bool
  /-- In extended mode blank characters and comments are no part of a pattern. -/
  extended : Bool
  isAlphanumeric_of_ascii : ∀ c : Char, c.toNat < 128 → isAlphanumeric c = c.isAlphanum
  not_isAlphanumeric_of_isBlank : ∀ c : Char, Text.isBlank c = true → isAlphanumeric c = false

/-- The characters that mean something else than themselves in every mode. -/
def metacharacters : List Char :=
  ['.', '*', '+', '?', '(', ')', '[', ']', '\x7b', '\x7d', '|', '^', '$', '\\']

/-- The character means something else than itself. -/
def Dialect.isMeta (dialect : Dialect) (c : Char) : Bool :=
  metacharacters.contains c || dialect.extended && (Text.isBlank c || c = '#')

/-- A character of a pattern, with the backslash before it. -/
inductive Sign where
  | plain (c : Char)
  | escaped (c : Char)
  /-- A backslash with nothing behind it. -/
  | dangling
deriving DecidableEq

/-- The signs of a pattern. -/
def signs : List Char → List Sign
  | [] => []
  | '\\' :: c :: rest => .escaped c :: signs rest
  | ['\\'] => [.dangling]
  | c :: rest => .plain c :: signs rest

/-- The character for which a sign stands, if it stands for one: a plain character must have no
other meaning, and a backslash takes away the meaning of a character that is not alphanumeric. -/
def Sign.character? (dialect : Dialect) : Sign → Option Char
  | plain c => if dialect.isMeta c then none else some c
  | escaped c => if dialect.isAlphanumeric c then none else some c
  | dangling => none

/-- The text for which a pattern stands, if each of its signs stands for a character. -/
def unescape? (dialect : Dialect) (pattern : List Char) : Option (List Char) :=
  (signs pattern).mapM (Sign.character? dialect)

/-- Signs as pieces; the last one may be the anchor at the end. -/
def pieces? (dialect : Dialect) : List Sign → Option (List Piece)
  | [] => some []
  | [.plain '$'] => some [.finish]
  | sign :: rest =>
    (sign.character? dialect).bind fun c => (pieces? dialect rest).map (.char c :: ·)

/-- A pattern as pieces; the first sign may be the anchor at the start. -/
def read? (dialect : Dialect) (pattern : List Char) : Option (List Piece) :=
  match signs pattern with
  | .plain '^' :: rest => (pieces? dialect rest).map (.start :: ·)
  | signs => pieces? dialect signs

/-- Whether a pattern matches a subject, if the pattern can be read. -/
def test? (dialect : Dialect) (pattern subject : String) : Option Bool :=
  (read? dialect pattern.toList).map fun pieces => (find? pieces true subject.toList).isSome

theorem isAlphanum_of_isBlank {c : Char} (h : Text.isBlank c = true) : c.isAlphanum = false := by
  have houtside := Text.toNat_of_isBlank h
  have hbounds : '!'.toNat ≤ '0'.toNat ∧ '9'.toNat ≤ '~'.toNat ∧ '!'.toNat ≤ 'A'.toNat ∧
      'z'.toNat ≤ '~'.toNat := by decide
  rw [Bool.eq_false_iff]
  intro halphanum
  rcases Bool.or_eq_true_iff.mp halphanum with hletter | hdigit
  · have hletters := Token.toNat_of_isAlpha hletter
    omega
  · have hdigits := Char.isDigit_iff_toNat.mp hdigit
    omega

/-- The dialect that knows the letters and digits of ASCII only. -/
def Dialect.ascii (extended : Bool) : Dialect where
  isAlphanumeric := Char.isAlphanum
  extended := extended
  isAlphanumeric_of_ascii _ _ := rfl
  not_isAlphanumeric_of_isBlank _ := isAlphanum_of_isBlank

/-! ## Escaped texts -/

variable {c : Char}

theorem not_isAlphanumeric_of_isSpecial (dialect : Dialect) (h : isSpecial c = true) :
    dialect.isAlphanumeric c = false := by
  rw [isSpecial, Bool.or_eq_true] at h
  rcases h with hblank | hmark
  · exact dialect.not_isAlphanumeric_of_isBlank c hblank
  · have hmarks : ['-', '[', ']', '\x7b', '\x7d', '(', ')', '*', '+', '?', '.', ',', '\\', '^', '$',
        '|', '#'].all (fun mark => mark.toNat < 128 && !mark.isAlphanum) = true := by decide
    have hc := List.all_eq_true.mp hmarks c (List.contains_iff_mem.mp hmark)
    obtain ⟨hrange, halphanum⟩ : c.toNat < 128 ∧ c.isAlphanum = false := by simpa using hc
    rw [dialect.isAlphanumeric_of_ascii c hrange, halphanum]

theorem isSpecial_of_isMeta {dialect : Dialect} (h : dialect.isMeta c = true) :
    isSpecial c = true := by
  rw [Dialect.isMeta, Bool.or_eq_true] at h
  rcases h with hmark | hextended
  · have hmarks : metacharacters.all isSpecial = true := by decide
    exact List.all_eq_true.mp hmarks c (List.contains_iff_mem.mp hmark)
  · simp only [Bool.and_eq_true, Bool.or_eq_true, decide_eq_true_eq] at hextended
    rcases hextended with ⟨_, hblank | rfl⟩
    · rw [isSpecial, hblank, Bool.true_or]
    · decide

/-- The sign by which a character is escaped. -/
def sign (c : Char) : Sign := if isSpecial c then .escaped c else .plain c

theorem signs_cons (h : c ≠ '\\') (rest : List Char) :
    signs (c :: rest) = .plain c :: signs rest := by
  rw [signs]
  · intro _ _ hbackslash
    exact absurd hbackslash h
  · intro hbackslash
    exact absurd hbackslash h

/-- An escaped text has one sign for each character. -/
theorem signs_literal (text rest : List Char) :
    signs (literal text ++ rest) = text.map sign ++ signs rest := by
  induction text with
  | nil => rfl
  | cons c text ih =>
      rw [literal, List.flatMap_cons, List.append_assoc, List.map_cons, List.cons_append]
      cases hspecial : isSpecial c with
      | true =>
          rw [escapeChar, if_pos hspecial, sign, if_pos hspecial, ← ih]
          rfl
      | false =>
          have hne : c ≠ '\\' := by
            rintro rfl
            exact absurd hspecial (by decide)
          rw [escapeChar, hspecial, sign, hspecial, ← ih]
          exact signs_cons hne _

theorem character?_sign (dialect : Dialect) (c : Char) : (sign c).character? dialect = some c := by
  rw [sign]
  split
  · rename_i hspecial
    rw [Sign.character?, not_isAlphanumeric_of_isSpecial dialect hspecial]
    rfl
  · rename_i hplain
    have hmeta : ¬ dialect.isMeta c = true := fun h => hplain (isSpecial_of_isMeta h)
    rw [Sign.character?, if_neg hmeta]

theorem not_mem_map_sign {dialect : Dialect} {mark : Sign} (h : mark.character? dialect = none)
    (text : List Char) : mark ∉ text.map sign := by
  intro hmark
  obtain ⟨c, _, rfl⟩ := List.mem_map.mp hmark
  rw [character?_sign] at h
  cases h

theorem sign_ne_plain {mark : Char} (h : isSpecial mark = true) (c : Char) :
    sign c ≠ .plain mark := by
  rw [sign]
  split
  · simp
  · rename_i hplain
    rintro ⟨⟩
    exact hplain h

theorem signs_literal_eq (text : List Char) : signs (literal text) = text.map sign := by
  have hsigns := signs_literal text []
  rwa [List.append_nil, signs, List.append_nil] at hsigns

/-- Unescaping gives the text back. -/
theorem unescape?_literal (dialect : Dialect) (text : List Char) :
    unescape? dialect (literal text) = some text := by
  rw [unescape?, signs_literal_eq]
  induction text with
  | nil => rfl
  | cons c text ih =>
      rw [List.map_cons, List.mapM_cons, character?_sign, ih]
      rfl

/-! ## Patterns as pieces -/

/-- The signs of an escaped text are read as the characters of the text. -/
theorem pieces?_map_sign (dialect : Dialect) (text : List Char) (rest : List Sign) :
    pieces? dialect (text.map sign ++ rest) =
      (pieces? dialect rest).map (text.map Piece.char ++ ·) := by
  induction text with
  | nil => simp
  | cons c text ih =>
      rw [List.map_cons, List.cons_append, pieces?, character?_sign, Option.bind_some, ih,
        Option.map_map]
      · rfl
      · intro hanchor _
        exact sign_ne_plain (by decide) c hanchor

theorem read?_literal_append (dialect : Dialect) (text rest : List Char)
    (h : ∀ more, signs rest ≠ .plain '^' :: more) :
    read? dialect (literal text ++ rest) =
      (pieces? dialect (signs rest)).map (text.map Piece.char ++ ·) := by
  rw [read?, signs_literal]
  split
  · rename_i more hanchor
    cases text with
    | nil => exact absurd hanchor (h more)
    | cons c text => exact absurd (List.cons.inj hanchor).1 (sign_ne_plain (by decide) c)
  · exact pieces?_map_sign dialect text _

theorem read?_containing (dialect : Dialect) (text : String) :
    read? dialect (containing text).toList = some (text.toList.map .char) := by
  have hread := read?_literal_append dialect text.toList [] (by simp [signs])
  rw [List.append_nil, signs, pieces?, Option.map_some, List.append_nil] at hread
  rw [containing, String.toList_ofList, hread]

theorem read?_startingWith (dialect : Dialect) (text : String) :
    read? dialect (startingWith text).toList = some (.start :: text.toList.map .char) := by
  have hpieces := pieces?_map_sign dialect text.toList []
  rw [List.append_nil, pieces?, Option.map_some, List.append_nil] at hpieces
  rw [startingWith, String.toList_ofList, read?, signs_cons (by decide), signs_literal_eq]
  exact congrArg (Option.map (.start :: ·)) hpieces

theorem read?_endingWith (dialect : Dialect) (text : String) :
    read? dialect (endingWith text).toList = some (text.toList.map .char ++ [.finish]) := by
  rw [endingWith, String.toList_ofList]
  exact read?_literal_append dialect text.toList ['$'] (by simp [signs])

/-! ## Literal matches -/

theorem test?_eq_of_read? {dialect : Dialect} {pattern subject : String} {pieces : List Piece}
    {found : Prop} [Decidable found] (hread : read? dialect pattern.toList = some pieces)
    (hfound : (find? pieces true subject.toList).isSome = true ↔ found) :
    test? dialect pattern subject = some (decide found) := by
  rw [test?, hread, Option.map_some, Option.some_inj, Bool.eq_iff_iff, hfound, decide_eq_true_eq]

end Pattern

/-- The predicate of a filter that only calls a method with a text. -/
def MethodName.predicate (method : MethodName) (field text : String) : Predicate :=
  Group.compile ⟨none, [.method method [.property field, .literal (.string (some text))]]⟩

/-- The predicate that asks for a match with a pattern. -/
def Predicate.matching (field pattern : String) : Predicate where
  entries := [(field, .operator .regex (.string pattern))]

open Pattern in
/-- In the pattern for a text no character is left that means something else than itself, and
unescaping gives the text back; so the patterns match where the text stands.  This holds in every
dialect, whatever the text and the subject are. -/
theorem escaped_text_matches_literally (dialect : Dialect) (text subject : String) :
    (∀ c, dialect.isMeta c = true → .plain c ∉ signs (literal text.toList)) ∧
    (∀ c, dialect.isAlphanumeric c = true → .escaped c ∉ signs (literal text.toList)) ∧
    .dangling ∉ signs (literal text.toList) ∧
    unescape? dialect (literal text.toList) = some text.toList ∧
    ∀ field : String,
      (∃ pattern, MethodName.contains.predicate field text = .matching field pattern ∧
        test? dialect pattern subject = some (decide (text.toList <:+: subject.toList))) ∧
      (∃ pattern, MethodName.startsWith.predicate field text = .matching field pattern ∧
        test? dialect pattern subject = some (decide (text.toList <+: subject.toList))) ∧
      ∃ pattern, MethodName.endsWith.predicate field text = .matching field pattern ∧
        test? dialect pattern subject = some (decide (text.toList <:+ subject.toList)) := by
  rw [signs_literal_eq]
  refine ⟨?_, ?_, ?_, unescape?_literal dialect text.toList, fun field => ⟨?_, ?_, ?_⟩⟩
  · intro c hmeta
    have hnone : (Sign.plain c).character? dialect = none := if_pos hmeta
    exact not_mem_map_sign hnone text.toList
  · intro c halphanumeric
    have hnone : (Sign.escaped c).character? dialect = none := if_pos halphanumeric
    exact not_mem_map_sign hnone text.toList
  · have hnone : Sign.dangling.character? dialect = none := rfl
    exact not_mem_map_sign hnone text.toList
  · exact ⟨containing text, rfl,
      test?_eq_of_read? (read?_containing dialect text) isSome_find?_chars_iff⟩
  · exact ⟨startingWith text, rfl,
      test?_eq_of_read? (read?_startingWith dialect text) isSome_find?_start_iff⟩
  · exact ⟨endingWith text, rfl,
      test?_eq_of_read? (read?_endingWith dialect text) isSome_find?_finish_iff⟩

open Pattern in
/-- A text that ends in a backslash does not take the anchor behind it for its own. -/
theorem escaped_text_matches_literally_backslash :
    Sign.plain '$' ∉ signs (literal "a\\".toList) ∧
      Sign.escaped 'a' ∉ signs (literal "a\\".toList) ∧
      ∃ pattern, MethodName.endsWith.predicate "name" "a\\" = .matching "name" pattern ∧
        test? (.ascii true) pattern "b^a\\" = some true := by
  obtain ⟨hplain, hescaped, _, _, hmatches⟩ :=
    escaped_text_matches_literally (.ascii true) "a\\" "b^a\\"
  obtain ⟨pattern, hpattern, htest⟩ := (hmatches "name").2.2
  have hsuffix : decide ("a\\".toList <:+ "b^a\\".toList) = true := by decide
  exact ⟨hplain '$' (by decide), hescaped 'a' (by decide), pattern, hpattern, hsuffix ▸ htest⟩

end DocumentFilter
