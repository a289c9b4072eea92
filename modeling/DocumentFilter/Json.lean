import DocumentFilter.Text.Decimal

/-!
# JSON values

JSON values whose objects keep their members in order, and the two ways to write them: on one line
without a space, and over several lines with two spaces for each level.
-/

namespace DocumentFilter

/-- A JSON value without fractions; an object is a list of members. -/
inductive Json where
  | null
  | bool (value : Bool)
  | number (value : Int)
  | string (value : String)
  | array (items : List Json)
  | object (members : List (String × Json))

namespace Json

/-- The escape of a control character by its code point. -/
def controlEscape (c : Char) : List Char :=
  '\\' :: 'u' :: '0' :: '0' :: Nat.digitChar (c.toNat / 16) :: [Nat.digitChar (c.toNat % 16)]

/-- One character of a string. -/
def escapeChar (c : Char) : List Char :=
  if c = '"' || c = '\\' then ['\\', c]
  else if c = '\x08' then ['\\', 'b']
  else if c = '\x0c' then ['\\', 'f']
  else if c = '\n' then ['\\', 'n']
  else if c = '\r' then ['\\', 'r']
  else if c = '\t' then ['\\', 't']
  else if c.toNat < 0x20 then controlEscape c
  else [c]

/-- A string between its quotes. -/
def stringText (s : String) : List Char := '"' :: (s.toList.flatMap escapeChar ++ ['"'])

/-- A comma, if more is to come. -/
def comma {α : Type} (rest : List α) : List Char := if rest.isEmpty then [] else [',']

/-- A truth value as a word. -/
def boolText (b : Bool) : List Char := if b then "true".toList else "false".toList

mutual

/-- The value on one line, without a space. -/
def compactText : Json → List Char
  | .null => "null".toList
  | .bool b => boolText b
  | .number n => Decimal.intText n
  | .string s => stringText s
  | .array items => '[' :: compactItems items
  | .object members => '\x7b' :: compactMembers members

/-- The items of an array and its closing bracket. -/
def compactItems : List Json → List Char
  | [] => [']']
  | item :: rest => item.compactText ++ comma rest ++ compactItems rest

/-- The members of an object and its closing brace. -/
def compactMembers : List (String × Json) → List Char
  | [] => ['\x7d']
  | (key, value) :: rest =>
    stringText key ++ ':' :: value.compactText ++ comma rest ++ compactMembers rest

end

/-- A line break, and the indentation of a level. -/
def lineBreak (level : Nat) : List Char := '\n' :: List.replicate (2 * level) ' '

mutual

/-- The value over several lines; the first line stands at the given level. -/
def prettyText (level : Nat) : Json → List Char
  | .null => "null".toList
  | .bool b => boolText b
  | .number n => Decimal.intText n
  | .string s => stringText s
  | .array [] => ['[', ']']
  | .array (item :: rest) => '[' :: prettyItems level (item :: rest)
  | .object [] => ['\x7b', '\x7d']
  | .object (member :: rest) => '\x7b' :: prettyMembers level (member :: rest)

/-- The items of an array, each on a line of its own, and the closing bracket. -/
def prettyItems (level : Nat) : List Json → List Char
  | [] => lineBreak level ++ [']']
  | item :: rest =>
    lineBreak (level + 1) ++ item.prettyText (level + 1) ++ comma rest ++ prettyItems level rest

/-- The members of an object, each on a line of its own, and the closing brace. -/
def prettyMembers (level : Nat) : List (String × Json) → List Char
  | [] => lineBreak level ++ ['\x7d']
  | (key, value) :: rest =>
    lineBreak (level + 1) ++ stringText key ++ ':' :: ' ' :: value.prettyText (level + 1) ++
      comma rest ++ prettyMembers level rest

end

mutual

/-- The value with the members of every object in the order of their keys. -/
def sortKeys : Json → Json
  | .array items => .array (sortKeysItems items)
  | .object members =>
    .object ((sortKeysMembers members).mergeSort fun a b => decide (a.1 ≤ b.1))
  | value => value

/-- Sorts inside each item. -/
def sortKeysItems : List Json → List Json
  | [] => []
  | item :: rest => item.sortKeys :: sortKeysItems rest

/-- Sorts inside each member. -/
def sortKeysMembers : List (String × Json) → List (String × Json)
  | [] => []
  | (key, value) :: rest => (key, value.sortKeys) :: sortKeysMembers rest

end

/-- The value on one line. -/
def compact (value : Json) : String := String.ofList value.compactText

/-- The value over several lines. -/
def pretty (value : Json) : String := String.ofList (value.prettyText 0)

end Json
end DocumentFilter
