import DocumentFilter.Text.CharWidth

/-!
# Letters that are drawn as one

A few scripts draw two or three letters in the place of one.  Here is what a letter does to the
letters before it: each constructor of `Ligature` is the end of a group of letters that may still
go on to the left.
-/

namespace DocumentFilter
namespace Text

/-- The Arabic letters of the joining group lam. -/
def lamLetters : CodePointSet where
  ranges := [(0x644, 0x644), (0x6b5, 0x6b8), (0x76a, 0x76a), (0x8a6, 0x8a6), (0x8c7, 0x8c7)]

/-- The Arabic letters of the joining group alef. -/
def alefLetters : CodePointSet where
  ranges := [
    (0x622, 0x623), (0x625, 0x625), (0x627, 0x627), (0x671, 0x673), (0x675, 0x675),
    (0x773, 0x774), (0x870, 0x882)]

/-- The Khmer letters that have a form to be written under another letter. -/
def subscriptLetters : CodePointSet where
  ranges := [
    (0x1780, 0x1782), (0x1784, 0x1787), (0x1789, 0x178c), (0x178e, 0x1793), (0x1795, 0x1798),
    (0x179b, 0x179d), (0x17a0, 0x17a0), (0x17a2, 0x17a2), (0x17a7, 0x17a7), (0x17ab, 0x17ac),
    (0x17af, 0x17af)]

/-- The Tifinagh consonants. -/
def tifinaghConsonants : CodePointSet where
  ranges := [(0x2d31, 0x2d65), (0x2d6f, 0x2d6f)]

/-- The marks and selectors that do not come between letters. -/
def passedOver : CodePointSet where
  ranges := [
    (0x34f, 0x34f), (0x17b4, 0x17b5), (0x180b, 0x180d), (0x180f, 0x180f), (0xfe00, 0xfe0f),
    (0xe0100, 0xe01ef)]

/-- Characters without width that keep the letters on their two sides from joining. -/
def unjoined : CodePointSet where
  ranges := [
    (0x605, 0x605), (0x890, 0x891), (0x8e2, 0x8e2), (0x9be, 0x9be), (0x9d7, 0x9d7), (0xb3e, 0xb3e),
    (0xb57, 0xb57), (0xbbe, 0xbbe), (0xbd7, 0xbd7), (0xcc0, 0xcc0), (0xcc2, 0xcc2), (0xcc7, 0xcc8),
    (0xcca, 0xccb), (0xcd5, 0xcd6), (0xd3e, 0xd3e), (0xd4e, 0xd4e), (0xd57, 0xd57), (0xdcf, 0xdcf),
    (0xddf, 0xddf), (0x1160, 0x11ff), (0x1715, 0x1715), (0x1734, 0x1734), (0x180e, 0x180e),
    (0x1b35, 0x1b35), (0x1b3b, 0x1b3b), (0x1b3d, 0x1b3d), (0x1b43, 0x1b44), (0x1baa, 0x1baa),
    (0x1bf2, 0x1bf3), (0x200c, 0x200d), (0x2065, 0x2069), (0x302e, 0x302f), (0x3164, 0x3164),
    (0xa8fa, 0xa8fa), (0xa953, 0xa953), (0xa9c0, 0xa9c0), (0xd7b0, 0xd7c6), (0xd7cb, 0xd7fb),
    (0xffa0, 0xffa0), (0xfff0, 0xfff8), (0x111c0, 0x111c0), (0x111c2, 0x111c3), (0x11235, 0x11235),
    (0x1133e, 0x1133e), (0x1134d, 0x1134d), (0x11357, 0x11357), (0x113b8, 0x113b8),
    (0x113c2, 0x113c2), (0x113c5, 0x113c5), (0x113c7, 0x113c9), (0x113cf, 0x113cf),
    (0x113d1, 0x113d1), (0x114b0, 0x114b0), (0x114bd, 0x114bd), (0x115af, 0x115af),
    (0x116b6, 0x116b6), (0x11930, 0x11930), (0x1193d, 0x1193d), (0x1193f, 0x1193f),
    (0x11941, 0x11941), (0x11a84, 0x11a89), (0x11d46, 0x11d46), (0x11f02, 0x11f02),
    (0x11f41, 0x11f41), (0x16ff0, 0x16ff1), (0x1d165, 0x1d166), (0x1d16d, 0x1d172),
    (0xe0000, 0xe0000), (0xe0002, 0xe001f), (0xe0080, 0xe00ff), (0xe01f0, 0xe0fff)]

/-- The Unicode value Transparent of Joining_Type, for characters without width: what stands
between two Arabic letters that join. -/
def isTransparent (c : Char) : Bool := charWidth c = 0 && !unjoined.contains c

/-- The character that joins what stands on its two sides. -/
def joiner : Char := '\u200d'

/-- The end of a group of letters that may be drawn as one. -/
inductive Ligature where
  /-- An Arabic alef, which a lam takes in. -/
  | alef
  /-- A Hebrew lamed, which a joined alef takes in. -/
  | lamed
  /-- A Buginese ya, which a joined vowel sign takes in. -/
  | ya
  /-- A Buginese ya with the vowel sign before it, which the letter a takes in. -/
  | vowelAndYa
  /-- A Tifinagh consonant, which another one takes in if they are joined. -/
  | tifinagh
  /-- A Tifinagh consonant with the consonant joiner before it. -/
  | joinerAndTifinagh
  /-- The second part of a Lisu tone. -/
  | lisuTone
  /-- The Old Turkic letter i, which a joined letter takes in. -/
  | orkhonI
  /-- A Khmer letter that a sign before it puts under the letter before that. -/
  | khmer
deriving DecidableEq, Repr

namespace Ligature

/-- The group that a character ends when nothing follows. -/
def ofChar? (c : Char) : Option Ligature :=
  if alefLetters.contains c then some alef
  else if c = '\u05dc' then some lamed
  else if c = '\u1a10' then some ya
  else if tifinaghConsonants.contains c then some tifinagh
  else if c = '\ua4fc' || c = '\ua4fd' then some lisuTone
  else if c.toNat = 0x10C03 then some orkhonI
  else if subscriptLetters.contains c then some khmer
  else none

/-- The character may stand inside the group and leaves it as it is. -/
def passes : Ligature → Char → Bool
  | alef, c => isTransparent c
  | _, c => c = joiner || passedOver.contains c

/-- The columns of a group with a character before it that becomes part of it, given the columns
of the group; and the group that goes on, if it does.  Some groups take a character only across the
joiner. -/
def take? (group : Ligature) (joined : Bool) (c : Char) (columns : Nat) :
    Option (Nat × Option Ligature) :=
  match group with
  | alef => if lamLetters.contains c then some (columns, none) else none
  | lamed => if joined && c = '\u05d0' then some (columns, none) else none
  | ya => if joined && c = '\u1a17' then some (columns, some vowelAndYa) else none
  | vowelAndYa => if c = '\u1a15' then some (columns, none) else none
  | tifinagh =>
    if c = '\u2d7f' then some (columns + 1, some joinerAndTifinagh)
    else if joined && tifinaghConsonants.contains c then some (columns, none)
    else none
  | joinerAndTifinagh => if tifinaghConsonants.contains c then some (columns - 1, none) else none
  | lisuTone => if 0xA4F8 ≤ c.toNat && c.toNat ≤ 0xA4FB then some (columns, none) else none
  | orkhonI => if joined && c.toNat = 0x10C32 then some (columns, none) else none
  | khmer => if c = '\u17d2' then some (columns - 1, none) else none

end Ligature
end Text
end DocumentFilter
