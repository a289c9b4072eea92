/-!
# Decimal numerals

Reading and writing of whole numbers in ASCII decimal digits.  Numbers are unbounded here; the
readers take the bound of the word that has to hold the number.
-/

namespace DocumentFilter
namespace Decimal

/-- The greatest number of a signed word of 64 bits. -/
def maxSigned64 : Nat := 0x7FFFFFFFFFFFFFFF

/-- The greatest number of an unsigned word of 64 bits. -/
def maxUnsigned64 : Nat := 0xFFFFFFFFFFFFFFFF

/-- The number that a run of digits denotes, most significant digit first. -/
def value (digits : List Char) : Nat :=
  digits.foldl (fun n c => 10 * n + (c.toNat - '0'.toNat)) 0

/-- Digits alone, at least one. -/
def isNumeral (text : List Char) : Bool := !text.isEmpty && text.all Char.isDigit

/-- The number that a text denotes, if it is a numeral. -/
def nat? (text : List Char) : Option Nat :=
  if isNumeral text then some (value text) else none

/-- An unsigned word of 64 bits; a plus sign may stand in front. -/
def unsigned64? (text : List Char) : Option Nat :=
  let digits := match text with
    | '+' :: rest => rest
    | _ => text
  (nat? digits).filter (· ≤ maxUnsigned64)

/-- A signed word of 64 bits; one sign may stand in front. -/
def signed64? : List Char → Option Int
  | '-' :: digits => ((nat? digits).filter (· ≤ maxSigned64 + 1)).map fun n => -(n : Int)
  | '+' :: digits => ((nat? digits).filter (· ≤ maxSigned64)).map Int.ofNat
  | digits => ((nat? digits).filter (· ≤ maxSigned64)).map Int.ofNat

/-- The character of a digit below ten. -/
def digit (n : Nat) : Char := Char.ofNat ('0'.toNat + n)

/-- The last `width` digits of a number, with leading zeros. -/
def padded : Nat → Nat → List Char
  | 0, _ => []
  | width + 1, n => padded width (n / 10) ++ [digit (n % 10)]

@[simp]
theorem length_padded (width n : Nat) : (padded width n).length = width := by
  induction width generalizing n with
  | zero => rfl
  | succ width ih => simp [padded, ih]

/-- The digits of a number, without leading zeros. -/
def natText (n : Nat) : List Char := Nat.toDigits 10 n

/-- The digits of a number, after a minus sign if it is negative. -/
def intText : Int → List Char
  | .ofNat n => natText n
  | .negSucc n => '-' :: natText (n + 1)

end Decimal
end DocumentFilter
