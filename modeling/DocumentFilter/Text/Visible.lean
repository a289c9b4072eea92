import DocumentFilter.Text.Ignorable
import DocumentFilter.Text.Mark
import DocumentFilter.Text.Unprintable

/-!
# Visible text

The form in which a text is shown to a person who has to tell every character apart: between double
quotes, with an escape for each character that would not be seen, or not be seen by itself.
-/

namespace DocumentFilter
namespace Text

/-- The escape of a character by its code point. -/
def codePointEscape (c : Char) : List Char :=
  '\\' :: 'u' :: '\x7b' :: (Nat.toDigits 16 c.toNat ++ ['\x7d'])

/-- One character of a visible text. -/
def visibleChar (c : Char) : List Char :=
  if c = '\x00' then ['\\', '0']
  else if c = '\t' then ['\\', 't']
  else if c = '\n' then ['\\', 'n']
  else if c = '\r' then ['\\', 'r']
  else if c = '"' || c = '\\' then ['\\', c]
  else if c.toNat < 0x7F && 0x20 ≤ c.toNat then [c]
  else if marks.contains c || ignorable.contains c || unprintable.contains c then
    codePointEscape c
  else [c]

/-- The visible form of a text. -/
def visible (text : String) : String :=
  String.ofList ('"' :: (text.toList.flatMap visibleChar ++ ['"']))

end Text
end DocumentFilter
