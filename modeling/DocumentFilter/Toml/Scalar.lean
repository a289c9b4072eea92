import DocumentFilter.Instant
import DocumentFilter.Toml.Basic
import DocumentFilter.Toml.Text

/-!
# Scalars of TOML

Numbers, times and truth values.  They are written without a blank character, except that a space
may stand between a date and a time, so the whole run of their characters is taken and then
understood.
-/

namespace DocumentFilter
namespace Toml

/-- Digits with single underscores between them; gives the digits alone. -/
def ungroup? (isDigit : Char → Bool) : List Char → Option (List Char)
  | [] => none
  | [c] => if isDigit c then some [c] else none
  | c :: '_' :: rest => if isDigit c then (ungroup? isDigit rest).map (c :: ·) else none
  | c :: rest => if isDigit c then (ungroup? isDigit rest).map (c :: ·) else none

/-- Decimal digits without a zero in front. -/
def decimalDigits? (text : List Char) : Option (List Char) :=
  (ungroup? Char.isDigit text).filter fun digits => digits.length = 1 || digits.head? ≠ some '0'

/-- A sign, or none, and what follows it. -/
def splitSign : List Char → Bool × List Char
  | '-' :: rest => (true, rest)
  | '+' :: rest => (false, rest)
  | text => (false, text)

/-- The number that digits of a base denote. -/
def baseNumber (base : Nat) (digits : List Char) : Nat :=
  digits.foldl (fun n c => base * n + (hexDigit? c).getD 0) 0

/-- A whole number in base 16, 8 or 2. -/
def prefixedInteger? (text : List Char) : Option Nat :=
  let number (base : Nat) (digits : List Char) : Option Nat :=
    (ungroup? (fun c => (hexDigit? c).any (· < base)) digits).map (baseNumber base)
  match text with
  | '0' :: 'x' :: digits => number 16 digits
  | '0' :: 'o' :: digits => number 8 digits
  | '0' :: 'b' :: digits => number 2 digits
  | _ => none

/-- A whole number that fits in a signed word of 64 bits. -/
def integer? (text : List Char) : Option Int :=
  match prefixedInteger? text with
  | some n => if n ≤ Decimal.maxSigned64 then some n else none
  | none =>
    let (negative, digits) := splitSign text
    (decimalDigits? digits).bind fun digits =>
      let n := Decimal.value digits
      if negative then if n ≤ Decimal.maxSigned64 + 1 then some (-(n : Int)) else none
      else if n ≤ Decimal.maxSigned64 then some n else none

/-- The least number that is too large for a floating-point number of 64 bits. -/
def floatBound : Nat := Nat.pow 2 1024 - Nat.pow 2 970

/-- The number is small enough for a floating-point number.  It is given by all its digits, by how
many of them stand after the point, and by its exponent; powers of ten are computed only where the
number may be close to the bound. -/
def fitsFloat (digits : List Char) (fraction exponent : Nat) (negativeExponent : Bool) : Bool :=
  let mantissa := Decimal.value digits
  if mantissa = 0 then true
  else if negativeExponent then
    digits.length ≤ exponent || mantissa < floatBound * Nat.pow 10 (fraction + exponent)
  else exponent ≤ 400 + fraction &&
      mantissa * Nat.pow 10 exponent < floatBound * Nat.pow 10 fraction

/-- The digits of a fraction after its point, or nothing. -/
def readFraction? : List Char → Option (List Char × List Char)
  | '.' :: rest =>
    let isPart (c : Char) : Bool := c.isDigit || c = '_'
    (ungroup? Char.isDigit (rest.takeWhile isPart)).map fun digits =>
      (digits, rest.dropWhile isPart)
  | text => some ([], text)

/-- The sign and the digits of an exponent, or nothing. -/
def readExponent? : List Char → Option (Bool × List Char)
  | [] => some (false, [])
  | c :: rest =>
    if c = 'e' || c = 'E' then
      let (negative, digits) := splitSign rest
      (ungroup? Char.isDigit digits).map fun digits => (negative, digits)
    else none

/-- A floating-point number: digits with a fraction, an exponent or both, or one of the words `inf`
and `nan`. -/
def isFloat (text : List Char) : Bool :=
  let (_, text) := splitSign text
  let isPart (c : Char) : Bool := c.isDigit || c = '_'
  if text = ['i', 'n', 'f'] || text = ['n', 'a', 'n'] then true
  else
    let number : Option Bool := do
      let whole ← decimalDigits? (text.takeWhile isPart)
      let (fraction, rest) ← readFraction? (text.dropWhile isPart)
      let (negative, exponent) ← readExponent? rest
      if fraction.isEmpty && exponent.isEmpty then none
      else
        some (fitsFloat (whole ++ fraction) fraction.length (Decimal.value exponent) negative)
    number.getD false

/-- Two digits that denote a number within bounds. -/
def isTwoDigits (least greatest : Nat) (a b : Char) : Bool :=
  a.isDigit && b.isDigit && least ≤ Decimal.value [a, b] && Decimal.value [a, b] ≤ greatest

/-- A day of the calendar. -/
def isDate : List Char → Bool
  | [a, b, c, d, '-', e, f, '-', g, h] =>
    [a, b, c, d].all Char.isDigit && isTwoDigits 1 12 e f &&
      isTwoDigits 1 (daysInMonth (Decimal.value [a, b, c, d]) (Decimal.value [e, f])) g h
  | _ => false

/-- A time of day; gives what follows it. -/
def readTime? : List Char → Option (List Char)
  | a :: b :: ':' :: c :: d :: ':' :: e :: f :: rest =>
    if isTwoDigits 0 23 a b && isTwoDigits 0 59 c d && isTwoDigits 0 60 e f then
      match rest with
      | '.' :: rest =>
        if (rest.takeWhile Char.isDigit).isEmpty then none else some (rest.dropWhile Char.isDigit)
      | rest => some rest
    else none
  | _ => none

/-- A distance from universal time. -/
def isOffset : List Char → Bool
  | [c] => c = 'Z' || c = 'z'
  | [sign, a, b, ':', c, d] =>
    (sign = '+' || sign = '-') && isTwoDigits 0 23 a b && isTwoDigits 0 59 c d
  | _ => false

/-- A date, a time, or both with or without an offset. -/
def isTime (text : List Char) : Bool :=
  let date := text.take 10
  match text.drop 10 with
  | [] => isDate date || (readTime? text).any List.isEmpty
  | delimiter :: time =>
    (readTime? text).any List.isEmpty ||
      (isDate date && (delimiter = 'T' || delimiter = 't' || delimiter = ' ') &&
        (readTime? time).any fun rest => rest.isEmpty || isOffset rest)

/-- A character of a number, a time or a word. -/
def isScalarChar (c : Char) : Bool :=
  c.isAlphanum || c = '+' || c = '-' || c = '_' || c = '.' || c = ':'

/-- The run of characters that make up a scalar.  A space belongs to it when it follows a date and
digits follow it. -/
def scalarRun (text : List Char) : List Char :=
  let run := text.takeWhile isScalarChar
  match text.dropWhile isScalarChar with
  | ' ' :: rest =>
    if isDate run && rest.head?.any Char.isDigit then run ++ ' ' :: rest.takeWhile isScalarChar
    else run
  | _ => run

/-- The value of a scalar. -/
def scalar? (run : List Char) : Option Value :=
  if run = ['t', 'r', 'u', 'e'] then some (.boolean true)
  else if run = ['f', 'a', 'l', 's', 'e'] then some (.boolean false)
  else if isTime run then some .time
  else if isFloat run then some .float
  else (integer? run).map .integer

/-- A scalar at the front of a text. -/
def readScalar? (text : List Char) : Option (Value × List Char) :=
  let run := scalarRun text
  (scalar? run).map fun value => (value, text.drop run.length)

end Toml
end DocumentFilter
