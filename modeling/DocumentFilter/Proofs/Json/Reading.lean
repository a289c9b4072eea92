import DocumentFilter.Json
import DocumentFilter.Proofs.Decimal
import DocumentFilter.Proofs.Token.RoundTrip

/-!
# Reading JSON

A reader for the JSON that is written on one line.  The first character of a value says of what kind
it is, and apart from the end of a number, which the next character has to show, a value says itself
where it ends.  So what has been written is read again, whatever follows, and no two values are
written alike.
-/

namespace DocumentFilter
namespace Json

/-! ## Strings -/

/-- The number of a hexadecimal digit. -/
def hexDigit? (c : Char) : Option Nat := (List.range 16).find? (Nat.digitChar · = c)

theorem hexDigit?_digitChar {d : Nat} (h : d < 16) : hexDigit? (Nat.digitChar d) = some d := by
  revert d
  decide

/-- The character of an escape with one letter. -/
def unescape? (letter : Char) : Option Char :=
  if letter = '"' || letter = '\\' then some letter
  else if letter = 'b' then some '\x08'
  else if letter = 'f' then some '\x0c'
  else if letter = 'n' then some '\n'
  else if letter = 'r' then some '\r'
  else if letter = 't' then some '\t'
  else none

/-- The character of an escape after its backslash, and what follows it. -/
def readEscape? : List Char → Option (Char × List Char)
  | 'u' :: '0' :: '0' :: high :: low :: rest =>
    (hexDigit? high).bind fun high => (hexDigit? low).map fun low =>
      (Char.ofNat (16 * high + low), rest)
  | letter :: rest => (unescape? letter).map (·, rest)
  | [] => none

/-- One character of a string, and what follows it; there is none at the closing quote. -/
def readChar? : List Char → Option (Char × List Char)
  | [] => none
  | c :: rest =>
    if c = '"' then none
    else if c = '\\' then readEscape? rest
    else some (c, rest)

theorem length_readEscape? {text rest : List Char} {c : Char}
    (h : readEscape? text = some (c, rest)) : rest.length < text.length := by
  revert h
  fun_cases readEscape? text with
  | case1 high low tail =>
      intro h
      obtain ⟨_, _, hlow⟩ := Option.bind_eq_some_iff.mp h
      obtain ⟨_, _, hresult⟩ := Option.map_eq_some_iff.mp hlow
      cases hresult
      simp only [List.length_cons]
      omega
  | case2 letter tail =>
      intro h
      obtain ⟨_, _, hresult⟩ := Option.map_eq_some_iff.mp h
      cases hresult
      exact Nat.lt_succ_self _
  | case3 => rintro ⟨⟩

theorem length_readChar? {text rest : List Char} {c : Char} (h : readChar? text = some (c, rest)) :
    rest.length < text.length := by
  revert h
  fun_cases readChar? text with
  | case1 => rintro ⟨⟩
  | case2 => rintro ⟨⟩
  | case3 first tail => exact fun h => Nat.lt_succ_of_lt (length_readEscape? h)
  | case4 =>
      rintro ⟨⟩
      exact Nat.lt_succ_self _

/-- The characters of a string up to its closing quote, and what follows the quote. -/
def readString? (text : List Char) : Option (List Char × List Char) :=
  match _h : readChar? text with
  | none => if text.head? = some '"' then some ([], text.tail) else none
  | some (c, rest) => (readString? rest).map fun (text, rest) => (c :: text, rest)
termination_by text.length
decreasing_by exact length_readChar? _h

theorem readChar?_letter {letter c : Char} (hletter : letter ≠ 'u')
    (hc : unescape? letter = some c) (rest : List Char) :
    readChar? ('\\' :: letter :: rest) = some (c, rest) := by
  rw [readChar?, if_neg (by decide), if_pos rfl, readEscape?, hc, Option.map_some]
  rintro high low rest ⟨⟩
  exact absurd rfl hletter

theorem readChar?_controlEscape {c : Char} (hc : c.toNat < 0x20) (rest : List Char) :
    readChar? (controlEscape c ++ rest) = some (c, rest) := by
  have hhigh := hexDigit?_digitChar (show c.toNat / 16 < 16 by omega)
  have hlow := hexDigit?_digitChar (Nat.mod_lt c.toNat (show 16 > 0 by decide))
  have hnumber : Char.ofNat (16 * (c.toNat / 16) + c.toNat % 16) = c := by
    rw [Nat.div_add_mod, Char.ofNat_toNat]
  rw [controlEscape, List.cons_append, readChar?, if_neg (by decide), if_pos rfl]
  simp only [List.cons_append, List.nil_append, readEscape?, hhigh, hlow, Option.bind_some,
    Option.map_some, hnumber]

theorem readChar?_escapeChar (c : Char) (rest : List Char) :
    readChar? (escapeChar c ++ rest) = some (c, rest) := by
  fun_cases escapeChar c with
  | case1 h =>
      obtain rfl | rfl : c = '"' ∨ c = '\\' := by simpa using h
      · exact readChar?_letter (by decide) rfl rest
      · exact readChar?_letter (by decide) rfl rest
  | case2 _ hc =>
      cases hc
      exact readChar?_letter (by decide) rfl rest
  | case3 _ _ hc =>
      cases hc
      exact readChar?_letter (by decide) rfl rest
  | case4 _ _ _ hc =>
      cases hc
      exact readChar?_letter (by decide) rfl rest
  | case5 _ _ _ _ hc =>
      cases hc
      exact readChar?_letter (by decide) rfl rest
  | case6 _ _ _ _ _ hc =>
      cases hc
      exact readChar?_letter (by decide) rfl rest
  | case7 _ _ _ _ _ _ hcontrol => exact readChar?_controlEscape hcontrol rest
  | case8 hplain =>
      obtain ⟨hquote, hbackslash⟩ : c ≠ '"' ∧ c ≠ '\\' := by simpa using hplain
      rw [List.singleton_append, readChar?, if_neg hquote, if_neg hbackslash]

theorem readString?_flatMap (text rest : List Char) :
    readString? (text.flatMap escapeChar ++ '"' :: rest) = some (text, rest) := by
  induction text with
  | nil =>
      rw [readString?.eq_def]
      rfl
  | cons c text ih =>
      have hc := readChar?_escapeChar c (text.flatMap escapeChar ++ '"' :: rest)
      rw [List.flatMap_cons, List.append_assoc, readString?.eq_def]
      split
      · next hnone => rw [hc] at hnone; cases hnone
      · next hfound =>
          rw [hc] at hfound
          cases hfound
          rw [ih, Option.map_some]

/-- A string is read from its text after the opening quote. -/
theorem readString?_stringText (s : String) (rest : List Char) :
    ∃ tail, stringText s ++ rest = '"' :: tail ∧ readString? tail = some (s.toList, rest) := by
  refine ⟨s.toList.flatMap escapeChar ++ '"' :: rest, ?_, readString?_flatMap _ _⟩
  simp [stringText]

/-! ## Numbers -/

/-- The number that the digits at the front denote, and what follows them. -/
def readNatural? (text : List Char) : Option (Nat × List Char) :=
  (Decimal.nat? (text.takeWhile Char.isDigit)).map (·, text.dropWhile Char.isDigit)

theorem readNatural?_natText (n : Nat) {tail : List Char}
    (htail : ∀ c ∈ tail.head?, c.isDigit = false) :
    readNatural? (Decimal.natText n ++ tail) = some (n, tail) := by
  have hdigits : ∀ c ∈ Decimal.natText n, c.isDigit = true := fun _ =>
    Decimal.isDigit_of_mem_natText
  have hrest : tail.dropWhile Char.isDigit = tail := by
    cases tail with
    | nil => rfl
    | cons c tail => simp [htail c rfl]
  rw [readNatural?, Token.takeWhile_append_of_ends hdigits htail, Decimal.nat?_natText,
    List.dropWhile_append_of_pos hdigits, hrest, Option.map_some]

/-! ## Values -/

/-- The value of a word at the front, and what follows it. -/
def readWord? (text : List Char) : Option (Json × List Char) :=
  [("null", null), ("true", bool true), ("false", bool false)].findSome? fun (word, value) =>
    (text.dropPrefix? word.toList).map (value, ·)

/-- Passes a comma. -/
def skipComma : List Char → List Char
  | ',' :: rest => rest
  | text => text

mutual

/-- The value at the front of a text, and what follows it. -/
def readValue? : Nat → List Char → Option (Json × List Char)
  | 0, _ => none
  | _ + 1, [] => none
  | fuel + 1, c :: rest =>
    if c.isDigit then (readNatural? (c :: rest)).map fun (n, rest) => (.number (.ofNat n), rest)
    else if c = '-' then (readNatural? rest).map fun (n, rest) => (.number (-n), rest)
    else if c = '"' then
      (readString? rest).map fun (text, rest) => (.string (String.ofList text), rest)
    else if c = '[' then (readItems? fuel rest).map fun (items, rest) => (.array items, rest)
    else if c = '\x7b' then
      (readMembers? fuel rest).map fun (members, rest) => (.object members, rest)
    else readWord? (c :: rest)

/-- The items up to the closing bracket of an array, and what follows it. -/
def readItems? : Nat → List Char → Option (List Json × List Char)
  | 0, _ => none
  | fuel + 1, text =>
    if text.head? = some ']' then some ([], text.tail)
    else
      (readValue? fuel text).bind fun (item, rest) =>
        (readItems? fuel (skipComma rest)).map fun (items, rest) => (item :: items, rest)

/-- The members up to the closing brace of an object, and what follows it. -/
def readMembers? : Nat → List Char → Option (List (String × Json) × List Char)
  | 0, _ => none
  | fuel + 1, text =>
    if text.head? = some '\x7d' then some ([], text.tail)
    else
      (readString? text.tail).bind fun (key, rest) =>
        (readValue? fuel rest.tail).bind fun (value, rest) =>
          (readMembers? fuel (skipComma rest)).map fun (members, rest) =>
            ((String.ofList key, value) :: members, rest)

end

/-! ## Reading what has been written -/

theorem exists_head_compactText (value : Json) :
    ∃ c text, value.compactText = c :: text ∧ c ≠ ']' := by
  cases value with
  | null => exact ⟨_, _, rfl, by decide⟩
  | bool b => cases b <;> exact ⟨_, _, rfl, by decide⟩
  | number n =>
      cases n with
      | ofNat n =>
          obtain ⟨c, text, htext⟩ := List.exists_cons_of_ne_nil (Decimal.natText_ne_nil n)
          have hdigit : c.isDigit = true := Decimal.isDigit_of_mem_natText (by rw [htext]; simp)
          refine ⟨c, text, htext, ?_⟩
          rintro rfl
          revert hdigit
          decide
      | negSucc n => exact ⟨_, _, rfl, by decide⟩
  | string s => exact ⟨_, _, rfl, by decide⟩
  | array items => exact ⟨_, _, rfl, by decide⟩
  | object members => exact ⟨_, _, rfl, by decide⟩

theorem length_compactText_pos (value : Json) : 0 < value.compactText.length := by
  obtain ⟨c, text, htext, _⟩ := value.exists_head_compactText
  rw [htext]
  exact Nat.succ_pos _

theorem ends_comma {α : Type} {rest : List α} {closing : Char} {text : List Char}
    (hclosing : closing.isDigit = false) (hend : rest = [] → text.head? = some closing) :
    ∀ c ∈ (comma rest ++ text).head?, c.isDigit = false := by
  cases rest with
  | nil =>
      intro c hc
      rw [comma, List.isEmpty_nil, if_pos rfl, List.nil_append, hend rfl] at hc
      cases hc
      exact hclosing
  | cons item rest =>
      rintro c ⟨⟩
      decide

theorem skipComma_comma {α : Type} {rest : List α} {closing : Char} {text : List Char}
    (hclosing : closing ≠ ',') (hend : rest = [] → text.head? = some closing) :
    skipComma (comma rest ++ text) = text := by
  cases rest with
  | nil =>
      obtain ⟨_, rfl⟩ := List.head?_eq_some_iff.mp (hend rfl)
      rw [comma, List.isEmpty_nil, if_pos rfl, List.nil_append, skipComma]
      rintro tail ⟨⟩
      exact hclosing rfl
  | cons item rest => rfl

theorem head?_compactItems (rest : List Json) (tail : List Char) :
    rest = [] → (compactItems rest ++ tail).head? = some ']' := by
  rintro rfl
  rfl

theorem head?_compactMembers (rest : List (String × Json)) (tail : List Char) :
    rest = [] → (compactMembers rest ++ tail).head? = some '\x7d' := by
  rintro rfl
  rfl

theorem length_compactItems_pos (items : List Json) : 0 < (compactItems items).length := by
  cases items with
  | nil => exact Nat.succ_pos 0
  | cons item rest =>
      have hitem := item.length_compactText_pos
      simp only [compactItems, List.length_append]
      omega

theorem length_compactMembers_pos (members : List (String × Json)) :
    0 < (compactMembers members).length := by
  cases members with
  | nil => exact Nat.succ_pos 0
  | cons member rest =>
      simp only [compactMembers, List.length_append, List.length_cons]
      omega

theorem readValue?_null (fuel : Nat) (tail : List Char) :
    readValue? (fuel + 1) ("null".toList ++ tail) = some (null, tail) := by
  have hword : readWord? ("null".toList ++ tail) = some (null, tail) := by
    simp [readWord?, List.dropPrefix?]
  exact hword

theorem readValue?_boolText (fuel : Nat) (b : Bool) (tail : List Char) :
    readValue? (fuel + 1) (boolText b ++ tail) = some (bool b, tail) := by
  have hword : readWord? (boolText b ++ tail) = some (bool b, tail) := by
    cases b <;> simp [readWord?, boolText, List.dropPrefix?]
  cases b <;> exact hword

theorem readValue?_intText (fuel : Nat) (n : Int) {tail : List Char}
    (htail : ∀ c ∈ tail.head?, c.isDigit = false) :
    readValue? (fuel + 1) (Decimal.intText n ++ tail) = some (.number n, tail) := by
  cases n with
  | ofNat n =>
      obtain ⟨c, text, htext⟩ := List.exists_cons_of_ne_nil (Decimal.natText_ne_nil n)
      have hdigit : c.isDigit = true := Decimal.isDigit_of_mem_natText (by rw [htext]; simp)
      have hread := readNatural?_natText n htail
      rw [Decimal.intText]
      rw [htext, List.cons_append] at hread ⊢
      rw [readValue?, if_pos hdigit, hread, Option.map_some]
  | negSucc n =>
      rw [Decimal.intText, List.cons_append, readValue?, if_neg (by decide), if_pos rfl,
        readNatural?_natText (n + 1) htail, Option.map_some]
      rfl

mutual

/-- A value is read from its text, whatever follows, unless more digits do. -/
theorem readValue?_compactText : ∀ (value : Json) (fuel : Nat) (tail : List Char),
    value.compactText.length ≤ fuel → (∀ c ∈ tail.head?, c.isDigit = false) →
      readValue? fuel (value.compactText ++ tail) = some (value, tail)
  | value, 0, _, hfuel, _ => absurd hfuel (Nat.not_le.mpr value.length_compactText_pos)
  | .null, fuel + 1, tail, _, _ => readValue?_null fuel tail
  | .bool b, fuel + 1, tail, _, _ => readValue?_boolText fuel b tail
  | .number n, fuel + 1, tail, _, htail => readValue?_intText fuel n htail
  | .string s, fuel + 1, tail, _, _ => by
      obtain ⟨text, htext, hread⟩ := readString?_stringText s tail
      rw [compactText, htext, readValue?, if_neg (by decide), if_neg (by decide), if_pos rfl, hread]
      simp only [Option.map_some, String.ofList_toList]
  | .array items, fuel + 1, tail, hfuel, _ => by
      have hitems := readItems?_compactItems items fuel tail (Nat.le_of_succ_le_succ hfuel)
      rw [compactText, List.cons_append, readValue?, if_neg (by decide), if_neg (by decide),
        if_neg (by decide), if_pos rfl, hitems, Option.map_some]
  | .object members, fuel + 1, tail, hfuel, _ => by
      have hmembers := readMembers?_compactMembers members fuel tail (Nat.le_of_succ_le_succ hfuel)
      rw [compactText, List.cons_append, readValue?, if_neg (by decide), if_neg (by decide),
        if_neg (by decide), if_neg (by decide), if_pos rfl, hmembers, Option.map_some]

theorem readItems?_compactItems : ∀ (items : List Json) (fuel : Nat) (tail : List Char),
    (compactItems items).length ≤ fuel →
      readItems? fuel (compactItems items ++ tail) = some (items, tail)
  | items, 0, _, hfuel => absurd hfuel (Nat.not_le.mpr (length_compactItems_pos items))
  | [], _ + 1, _, _ => rfl
  | item :: rest, fuel + 1, tail, hfuel => by
      obtain ⟨c, text, htext, hc⟩ := item.exists_head_compactText
      have hpos := item.length_compactText_pos
      have hrestpos := length_compactItems_pos rest
      simp only [compactItems, List.length_append] at hfuel
      have hend := head?_compactItems rest tail
      have hitem := readValue?_compactText item fuel (comma rest ++ (compactItems rest ++ tail))
        (by omega) (ends_comma (by decide) hend)
      have hrest := readItems?_compactItems rest fuel tail (by omega)
      rw [compactItems, List.append_assoc, List.append_assoc, readItems?,
        if_neg (by rw [htext]; simpa using hc), hitem, Option.bind_some]
      simp only [skipComma_comma (by decide) hend, hrest, Option.map_some]

theorem readMembers?_compactMembers : ∀ (members : List (String × Json)) (fuel : Nat)
    (tail : List Char), (compactMembers members).length ≤ fuel →
      readMembers? fuel (compactMembers members ++ tail) = some (members, tail)
  | members, 0, _, hfuel => absurd hfuel (Nat.not_le.mpr (length_compactMembers_pos members))
  | [], _ + 1, _, _ => rfl
  | (key, value) :: rest, fuel + 1, tail, hfuel => by
      have hpos := value.length_compactText_pos
      have hrestpos := length_compactMembers_pos rest
      simp only [compactMembers, List.length_append, List.length_cons] at hfuel
      have hend := head?_compactMembers rest tail
      have hvalue := readValue?_compactText value fuel (comma rest ++ (compactMembers rest ++ tail))
        (by omega) (ends_comma (by decide) hend)
      have hrest := readMembers?_compactMembers rest fuel tail (by omega)
      obtain ⟨text, htext, hkey⟩ := readString?_stringText key
        (':' :: (value.compactText ++ (comma rest ++ (compactMembers rest ++ tail))))
      have hmembers : compactMembers ((key, value) :: rest) ++ tail = '"' :: text := by
        rw [← htext]
        simp [compactMembers]
      rw [hmembers, readMembers?, if_neg (by simp), List.tail_cons, hkey, Option.bind_some]
      simp only [List.tail_cons, hvalue, Option.bind_some, skipComma_comma (by decide) hend, hrest,
        Option.map_some, String.ofList_toList]

end

/-- The value that is all of a text. -/
def read? (text : String) : Option Json :=
  (readValue? text.toList.length text.toList).bind fun (value, rest) =>
    if rest.isEmpty then some value else none

/-- A value is read from its text on one line. -/
theorem read?_compact (value : Json) : read? value.compact = some value := by
  have hread := readValue?_compactText value value.compactText.length [] (Nat.le_refl _) (by simp)
  rw [List.append_nil] at hread
  rw [read?, compact, String.toList_ofList, hread]
  rfl

/-- No two values are written alike. -/
theorem compact_injective : Function.Injective compact := fun value other h =>
  Option.some.inj (by rw [← read?_compact value, h, read?_compact])

end Json
end DocumentFilter
