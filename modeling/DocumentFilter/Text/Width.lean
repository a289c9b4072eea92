import DocumentFilter.Text.Emoji
import DocumentFilter.Text.Ligature

/-!
# Display width

How many columns of a terminal a text takes.  The width of a text is the sum of the widths of its
characters, except where several characters are drawn as one: letters that join, emoji that are put
together, and characters that a selector behind them changes.  A text is therefore measured from
its end, and `Measured` keeps of what is already measured the columns and all that a character
before it may still change.
-/

namespace DocumentFilter
namespace Text

/-- What a text starts with, as far as a character before it may be drawn together with it. -/
inductive Opening where
  /-- Nothing that a character before it changes. -/
  | plain
  | lineFeed
  /-- Letters that may be one with a letter before them; behind a joiner or not. -/
  | letters (group : Ligature) (joined : Bool)
  /-- The Kirat Rai vowel sign e, an odd number of times. -/
  | vowelSign
  /-- The Kirat Rai vowel sign e, an even number of times. -/
  | vowelSigns
  | skinTone
  | flagLetter
  /-- Two or more letters of flags. -/
  | flagLetters
  /-- An emoji that is drawn as a picture. -/
  | picture
  /-- A joiner before a picture. -/
  | joined
  /-- The frame of a key, joined to a picture. -/
  | joinedKey
  /-- One letter of a flag, joined to a picture. -/
  | joinedLetter
  /-- Two or more letters of flags, joined to a picture; an even number of them or not. -/
  | joinedLetters (even : Bool)
  /-- The tags of a flag with their end, joined to a picture; the letters and the digits that
  they begin with are counted. -/
  | joinedTags (letters digits : Nat)
deriving DecidableEq, Repr

namespace Opening

/-- What a character is for those before it when nothing that follows changes it. -/
def ofChar (c : Char) : Opening :=
  if c = '\n' then lineFeed
  else
    match Ligature.ofChar? c with
    | some group => letters group false
    | none =>
      if c.toNat = 0x16D67 then vowelSign
      else if c.toNat = 0x16D68 then vowelSigns
      else if isFlagLetter c then flagLetter
      else if isSkinTone c then skinTone
      else if pictures.contains c then picture
      else plain

/-- A picture is joined, and a selector before it does not part the two. -/
def isJoined : Opening → Bool
  | joined | joinedKey => true
  | _ => false

/-- Letters, which no selector parts from the letters before it. -/
def isLetters : Opening → Bool
  | letters _ _ => true
  | _ => false

end Opening

/-- The selectors that change the width of a character before them. -/
inductive Selector where
  /-- Quotation marks in the form of wide scripts. -/
  | wide
  /-- A picture as text. -/
  | text
  /-- An emoji as a picture. -/
  | picture
deriving DecidableEq, Repr

namespace Selector

/-- The selector that a character is. -/
def ofChar? (c : Char) : Option Selector :=
  if c = '\ufe01' then some wide
  else if c = '\ufe0e' then some text
  else if c = '\ufe0f' then some picture
  else none

end Selector

/-- A text as a character before it finds it. -/
structure Measured where
  columns : Nat
  opening : Opening
  /-- The selector that the text starts with. -/
  selector? : Option Selector := none
deriving DecidableEq, Repr

namespace Measured

/-- The empty text. -/
def empty : Measured := ⟨0, .plain, none⟩

/-- The text with a character before it that the selector changes. -/
def select? (text : Measured) (c : Char) : Option Measured :=
  match text.selector? with
  | none => none
  | some .wide =>
    if c = '‘' || c = '’' || c = '“' || c = '”' then some ⟨text.columns + 2, .plain, none⟩
    else none
  | some .text =>
    if textable.contains c then some ⟨text.columns + 1, .plain, none⟩ else none
  | some .picture =>
    if takesPicture c then
      some ⟨if text.opening.isJoined then text.columns else text.columns + 2, .picture, none⟩
    else none

/-- The text for a character that its selector does not change. -/
def unselected (text : Measured) : Measured :=
  if text.selector?.isSome && !text.opening.isLetters then ⟨text.columns, .plain, none⟩
  else ⟨text.columns, text.opening, none⟩

/-- The text with a selector before it. -/
def withSelector (text : Measured) (selector : Selector) : Measured :=
  let kept := text.opening.isLetters || (selector = .picture && text.opening.isJoined)
  ⟨text.columns, if kept then text.opening else .plain, some selector⟩

/-- The text with a joiner before the picture that it starts with. -/
def join? (text : Measured) (c : Char) : Option Measured :=
  if c = joiner then some ⟨text.columns, .joined, none⟩ else none

/-- The text with a character before it that is drawn together with its start. -/
def absorb? (text : Measured) (c : Char) : Option Measured :=
  let keep (opening : Opening) : Option Measured := some ⟨text.columns, opening, none⟩
  match text.opening with
  | .plain | .joinedKey => none
  | .lineFeed => if c = '\r' then keep .plain else none
  | .letters group joined =>
    if group.passes c then keep (.letters group (joined || c = joiner))
    else
      (group.take? joined c text.columns).map fun (columns, group?) =>
        ⟨columns, (group?.map (Opening.letters · false)).getD .plain, none⟩
  | .vowelSign =>
    if c.toNat = 0x16D63 || c.toNat = 0x16D69 then keep .plain
    else if c.toNat = 0x16D67 then keep .vowelSigns
    else if c.toNat = 0x16D68 then some ⟨text.columns + 1, .vowelSign, none⟩
    else none
  | .vowelSigns => if c.toNat = 0x16D63 then keep .plain else none
  | .skinTone => if modifiable.contains c then keep .picture else text.join? c
  | .flagLetter =>
    if isFlagLetter c then some ⟨text.columns + 1, .flagLetters, none⟩ else none
  | .flagLetters =>
    if isFlagLetter c then some ⟨text.columns + 1, .flagLetters, none⟩ else text.join? c
  | .picture => text.join? c
  | .joined =>
    if c = '\u20e3' then keep .joinedKey
    else if isFlagLetter c then some ⟨text.columns + 1, .joinedLetter, none⟩
    else if isSkinTone c then keep .skinTone
    else if c.toNat = 0xE007F then keep (.joinedTags 0 0)
    else if pictures.contains c then keep .picture
    else none
  | .joinedLetter =>
    if isFlagLetter c then some ⟨text.columns - 1, .joinedLetters true, none⟩ else none
  | .joinedLetters true =>
    if isFlagLetter c then some ⟨text.columns + 3, .joinedLetters false, none⟩ else text.join? c
  | .joinedLetters false =>
    if isFlagLetter c then some ⟨text.columns - 1, .joinedLetters true, none⟩ else text.join? c
  | .joinedTags letters digits =>
    if 0xE0061 ≤ c.toNat && c.toNat ≤ 0xE007A && digits = 0 && letters < 6 then
      keep (.joinedTags (letters + 1) 0)
    else if 0xE0030 ≤ c.toNat && c.toNat ≤ 0xE0039 && letters ≤ 4 && digits < 3 then
      keep (.joinedTags letters (digits + 1))
    else if c.toNat = 0x1F3F4 && (digits = 3 || (digits = 0 && 3 ≤ letters)) then keep .picture
    else none

/-- The text with one more character before it. -/
def cons (c : Char) (text : Measured) : Measured :=
  match text.select? c with
  | some text => text
  | none =>
    match Selector.ofChar? c with
    | some selector => text.unselected.withSelector selector
    | none =>
      match text.unselected.absorb? c with
      | some text => text
      | none => ⟨text.columns + charWidth c, Opening.ofChar c, none⟩

end Measured

/-- The columns that a text takes. -/
def width (text : List Char) : Nat := (text.foldr Measured.cons Measured.empty).columns

example : width "e\u0301".toList = 1 ∧ width "日本".toList = 4 ∧ width "a\r\nb".toList = 3 := by
  decide +kernel

-- Two people and a heart in one picture, three letters of flags, lam with a vowel sign and alef.
example :
    width ([0x1F469, 0x200D, 0x2764, 0xFE0F, 0x200D, 0x1F468].map Char.ofNat) = 2 ∧
      width ([0x1F1FA, 0x1F1F8, 0x1F1E9].map Char.ofNat) = 3 ∧
      width ([0x644, 0x64E, 0x627].map Char.ofNat) = 1 := by
  decide +kernel

end Text
end DocumentFilter
