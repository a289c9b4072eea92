/-!
# Blank characters

The characters with the Unicode property White_Space, and trimming by them.  A filter's own
separator is the ASCII space alone; blank characters in this wider sense decide whether an option
counts as empty, where an order clause is cut, and which characters a pattern escapes.
-/

namespace DocumentFilter
namespace Text

/-- The Unicode property White_Space. -/
def isBlank (c : Char) : Bool :=
  let n := c.toNat
  (0x9 ≤ n && n ≤ 0xD) || n == 0x20 || n == 0x85 || n == 0xA0 || n == 0x1680 ||
    (0x2000 ≤ n && n ≤ 0x200A) || n == 0x2028 || n == 0x2029 || n == 0x202F || n == 0x205F ||
    n == 0x3000

/-- Every character that the standard library calls whitespace is blank. -/
theorem isBlank_of_isWhitespace {c : Char} (h : c.isWhitespace = true) : isBlank c = true := by
  simp only [Char.isWhitespace, Bool.or_eq_true, decide_eq_true_eq] at h
  rcases h with ((rfl | rfl) | rfl) | rfl <;> decide

/-- Every blank character lies outside the range of the printable ones in ASCII. -/
theorem toNat_of_isBlank {c : Char} (h : isBlank c = true) :
    c.toNat < '!'.toNat ∨ '~'.toNat < c.toNat := by
  have hrange : '!'.toNat = 0x21 ∧ '~'.toNat = 0x7E := ⟨rfl, rfl⟩
  simp only [isBlank, Bool.or_eq_true, Bool.and_eq_true, decide_eq_true_eq, beq_iff_eq] at h
  omega

/-- The text without the blank characters at its ends. -/
def trim (text : List Char) : List Char :=
  ((text.dropWhile isBlank).reverse.dropWhile isBlank).reverse

/-- A text of blank characters only. -/
def allBlank (text : String) : Bool := text.toList.all isBlank

end Text
end DocumentFilter
