/-!
# Outlines

Nested data as text for a person: named records and wrappers, lists and plain words.  An outline
is written on one line, or over several lines with four spaces for each level and a comma after
every part.
-/

namespace DocumentFilter

/-- Nested data under names. -/
inductive Outline where
  | word (text : String)
  /-- One part under a name. -/
  | wrapped (name : String) (part : Outline)
  | record (name : String) (fields : List (String × Outline))
  | list (items : List Outline)

namespace Outline

/-- A comma and a space, if more is to come. -/
def separator {α : Type} (rest : List α) : String := if rest.isEmpty then "" else ", "

mutual

/-- The outline on one line. -/
def inline : Outline → String
  | .word text => text
  | .wrapped name part => name ++ "(" ++ part.inline ++ ")"
  | .record name fields => name ++ " \x7b " ++ inlineFields fields ++ " \x7d"
  | .list items => "[" ++ inlineItems items ++ "]"

/-- The fields of a record on one line. -/
def inlineFields : List (String × Outline) → String
  | [] => ""
  | (name, part) :: rest => name ++ ": " ++ part.inline ++ separator rest ++ inlineFields rest

/-- The items of a list on one line. -/
def inlineItems : List Outline → String
  | [] => ""
  | part :: rest => part.inline ++ separator rest ++ inlineItems rest

end

/-- A line break, and the indentation of a level. -/
def lineBreak (level : Nat) : String := String.ofList ('\n' :: List.replicate (4 * level) ' ')

mutual

/-- The outline over several lines; the first line stands at the given level. -/
def pretty (level : Nat) : Outline → String
  | .word text => text
  | .wrapped name part =>
    name ++ "(" ++ lineBreak (level + 1) ++ part.pretty (level + 1) ++ "," ++ lineBreak level ++ ")"
  | .record name fields =>
    name ++ " \x7b" ++ prettyFields (level + 1) fields ++ lineBreak level ++ "\x7d"
  | .list [] => "[]"
  | .list (item :: rest) =>
    "[" ++ prettyItems (level + 1) (item :: rest) ++ lineBreak level ++ "]"

/-- The fields of a record, each on a line of its own. -/
def prettyFields (level : Nat) : List (String × Outline) → String
  | [] => ""
  | (name, part) :: rest =>
    lineBreak level ++ name ++ ": " ++ part.pretty level ++ "," ++ prettyFields level rest

/-- The items of a list, each on a line of its own. -/
def prettyItems (level : Nat) : List Outline → String
  | [] => ""
  | part :: rest => lineBreak level ++ part.pretty level ++ "," ++ prettyItems level rest

end

end Outline
end DocumentFilter
