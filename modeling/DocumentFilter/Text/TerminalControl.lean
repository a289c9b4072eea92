/-!
# Text without terminal control

A terminal takes some characters as orders: control characters, and whole sequences that an escape
character begins.  `withoutControl` leaves of a text what is there to be read.  Blanks that move to
another place or line stay, even those inside a sequence.
-/

namespace DocumentFilter
namespace Text

/-- The sequence that a terminal is in the middle of. -/
inductive ControlSequence where
  /-- No sequence. -/
  | none
  /-- An escape character, which says that a sequence follows. -/
  | escape
  /-- A short sequence, before its last character. -/
  | escapeTail
  /-- A sequence with parameters, before its last character. -/
  | parameters
  /-- A string for the device, before its head. -/
  | deviceHead
  /-- A string for the device, in the parameters of its head. -/
  | deviceParameters
  /-- A string for the device, at the end of its head. -/
  | deviceTail
  /-- A string that only a control character ends. -/
  | string
  /-- An order to the system around the terminal, which a bell ends. -/
  | command
deriving DecidableEq, Repr

namespace ControlSequence

/-- The character lies between two code points. -/
def isBetween (first last : Nat) (c : Char) : Bool := first ≤ c.toNat && c.toNat ≤ last

/-- Blanks that control characters write. -/
def isMove (c : Char) : Bool := c = '\t' || c = '\n' || c = '\x0c' || c = '\r'

/-- The string terminator among the bytes of a character. -/
def hasTerminator (c : Char) : Bool := (String.utf8EncodeChar c).contains 0x9C

/-- The sequence after one more character. -/
def next (sequence : ControlSequence) (c : Char) : ControlSequence :=
  if c = '\x1b' then escape
  else if c = '\x18' || c = '\x1a' then none
  else
    match sequence with
    | none => none
    | escape =>
      if isBetween 0x20 0x2F c then escapeTail
      else if c = '[' then parameters
      else if c = ']' then command
      else if c = 'P' then deviceHead
      else if c = 'X' || c = '^' || c = '_' then string
      else if isBetween 0x30 0x7E c then none
      else escape
    | escapeTail => if isBetween 0x30 0x7E c then none else escapeTail
    | parameters => if isBetween 0x40 0x7E c then none else parameters
    | deviceHead =>
      if isBetween 0x20 0x2F c then deviceTail
      else if isBetween 0x30 0x3F c then deviceParameters
      else if isBetween 0x40 0x7E c then string
      else deviceHead
    | deviceParameters =>
      if isBetween 0x20 0x2F c then deviceTail
      else if isBetween 0x3C 0x7E c then string
      else deviceParameters
    | deviceTail => if isBetween 0x30 0x7E c then string else deviceTail
    | string => if hasTerminator c then none else string
    | command => if c = '\x07' then none else command

/-- The character is read, not obeyed. -/
def shows (sequence : ControlSequence) (c : Char) : Bool :=
  match sequence with
  | none => isMove c || (0x20 ≤ c.toNat && c.toNat ≠ 0x7F)
  | escape | escapeTail | parameters => isMove c
  | _ => false

end ControlSequence

/-- What there is to read of a text in the middle of a sequence.  Behind a blank inside a sequence
all is read, until the next character that is none to be read: then the sequence goes on, unless a
character beyond ASCII has ended it. -/
def withoutControlFrom (sequence : ControlSequence) (reading : Bool) : List Char → List Char
  | [] => []
  | c :: rest =>
    if reading && ControlSequence.none.shows c then
      c :: withoutControlFrom (if c.toNat < 0x80 then sequence else .none) true rest
    else if sequence.shows c then c :: withoutControlFrom sequence true rest
    else withoutControlFrom (sequence.next c) false rest

/-- What there is to read of a text. -/
def withoutControl (text : List Char) : List Char := withoutControlFrom .none true text

example :
    withoutControl "\x1b[1;31mred\x1b[0m\x07 \x1b]0;title\x07end".toList = "red end".toList := by
  decide +kernel

end Text
end DocumentFilter
