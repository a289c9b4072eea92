/-!
# Quoted text

A text between single quotes, in which a quote is written twice.  `quote` writes it and `unquote?`
reads the part after the opening quote, up to the quote that stands alone.
-/

namespace DocumentFilter
namespace Quoted

/-- The inside of a quoted text: a quote is written twice and all else once. -/
def double : List Char → List Char
  | [] => []
  | c :: rest => if c = '\'' then '\'' :: '\'' :: double rest else c :: double rest

/-- The written form of a text. -/
def quote (text : List Char) : List Char := '\'' :: (double text ++ ['\''])

/-- Reads what follows an opening quote: the text, and the number of characters up to and with the
closing quote.  There is none if no quote stands alone. -/
def unquote? : List Char → Option (List Char × Nat)
  | [] => none
  | c :: rest =>
    if c = '\'' then
      match rest with
      | [] => some ([], 1)
      | d :: rest =>
        if d = '\'' then (unquote? rest).map fun (text, size) => ('\'' :: text, size + 2)
        else some ([], 1)
    else (unquote? rest).map fun (text, size) => (c :: text, size + 1)

theorem unquote?_cons_of_ne {c : Char} (hc : c ≠ '\'') (rest : List Char) :
    unquote? (c :: rest) = (unquote? rest).map fun (text, size) => (c :: text, size + 1) := by
  rw [unquote?.eq_def]
  simp [hc]

/-- What is written is read back, whatever follows, unless the next character is a quote too. -/
theorem unquote?_double (text : List Char) {rest : List Char} (h : rest.head? ≠ some '\'') :
    unquote? (double text ++ '\'' :: rest) = some (text, (double text).length + 1) := by
  induction text with
  | nil =>
    cases rest with
    | nil => rfl
    | cons c rest =>
      have hc : c ≠ '\'' := by simpa using h
      simp [double, unquote?, hc]
  | cons c text ih =>
    by_cases hc : c = '\''
    · simp [double, unquote?, hc, ih]
    · simp [double, hc, unquote?_cons_of_ne hc, ih]

/-- What is read has been written, and no quote comes next. -/
theorem unquote?_eq_some {text rest : List Char} {size : Nat}
    (h : unquote? rest = some (text, size)) :
    ∃ tail, rest = double text ++ '\'' :: tail ∧ tail.head? ≠ some '\'' ∧
      size = (double text).length + 1 := by
  fun_induction unquote? rest generalizing text size with
  | case1 => cases h
  | case2 =>
    cases h
    exact ⟨[], by simp [double], by simp, rfl⟩
  | case3 rest ih =>
    obtain ⟨⟨text, size⟩, hmore, hresult⟩ := Option.map_eq_some_iff.mp h
    cases hresult
    obtain ⟨tail, rfl, htail, rfl⟩ := ih hmore
    exact ⟨tail, by simp [double], htail, by simp [double]⟩
  | case4 d rest hd =>
    cases h
    exact ⟨d :: rest, by simp [double], by simpa using hd, rfl⟩
  | case5 c rest hc ih =>
    obtain ⟨⟨text, size⟩, hmore, hresult⟩ := Option.map_eq_some_iff.mp h
    cases hresult
    obtain ⟨tail, rfl, htail, rfl⟩ := ih hmore
    exact ⟨tail, by simp [double, hc], htail, by simp [double, hc]⟩

/-- The written form of a text, as a string. -/
def quoteString (text : String) : String := String.ofList (quote text.toList)

end Quoted
end DocumentFilter
