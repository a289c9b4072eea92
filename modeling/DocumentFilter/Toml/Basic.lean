/-!
# TOML values

Values of a TOML document, and the rules by which its tables grow.  How a table came about decides
what may be added to it later: an inline table is complete, a table with a header takes no dotted
keys from elsewhere, and only a table that was implied by a longer header may still get its own.
-/

namespace DocumentFilter
namespace Toml

/-- How a table came about. -/
inductive Origin where
  /-- Written as a value, in braces. -/
  | inline
  /-- Opened by a header of its own. -/
  | header
  /-- Named on the way in the header of another table. -/
  | implied
  /-- Named on the way in a dotted key. -/
  | dotted
deriving DecidableEq, Repr

/-- A value.  Floating-point numbers and times keep nothing of what was written, since nothing is
set by one. -/
inductive Value where
  | string (text : String)
  | integer (number : Int)
  | float
  | boolean (value : Bool)
  | time
  | array (items : List Value)
  | table (origin : Origin) (entries : List (String × Value))
  /-- Tables that were added one by one, each under the same header. -/
  | tables (items : List (List (String × Value)))

/-- The values of a table under their keys. -/
abbrev Entries := List (String × Value)

namespace Entries

/-- The value of a key. -/
def find? (entries : Entries) (key : String) : Option Value :=
  (List.find? (·.1 = key) entries).map (·.2)

/-- Sets the value of a key, in its place if it is there already. -/
def set (key : String) (value : Value) : Entries → Entries
  | [] => [(key, value)]
  | entry :: rest => if entry.1 = key then (key, value) :: rest else entry :: set key value rest

/-- Sets a key that is new. -/
def add? (entries : Entries) (key : String) (value : Value) : Option Entries :=
  if (entries.find? key).isSome then none else some (entries.set key value)

/-- Changes the last of several tables. -/
def changeLast? (change : Entries → Option Entries) : List Entries → Option (List Entries)
  | [] => none
  | [entries] => (change entries).map ([·])
  | entries :: rest => (changeLast? change rest).map (entries :: ·)

/-- A dotted key may go on into a table of this origin. -/
def takesDotted (origin : Origin) (isLast : Bool) : Bool :=
  match origin with
  | .dotted => true
  | .implied => !isLast
  | .inline | .header => false

/-- Sets a dotted key, given as the tables on the way and the last part. -/
def addDotted? (value : Value) (key : String) : List String → Entries → Option Entries
  | [], entries => entries.add? key value
  | part :: path, entries =>
    match entries.find? part with
    | none => (addDotted? value key path []).map fun sub => entries.set part (.table .dotted sub)
    | some (.table origin sub) =>
      if takesDotted origin path.isEmpty then
        (addDotted? value key path sub).map fun sub => entries.set part (.table origin sub)
      else none
    | some (.tables items) =>
      if path.isEmpty then none
      else
        (changeLast? (addDotted? value key path) items).map fun items =>
          entries.set part (.tables items)
    | some _ => none

/-- Changes the table that holds the last part of a header, given the tables on the way. -/
def descend? (change : Entries → Option Entries) : List String → Entries → Option Entries
  | [], entries => change entries
  | part :: path, entries =>
    match entries.find? part with
    | none => (descend? change path []).map fun sub => entries.set part (.table .implied sub)
    | some (.table .inline _) => none
    | some (.table origin sub) =>
      (descend? change path sub).map fun sub => entries.set part (.table origin sub)
    | some (.tables items) =>
      (changeLast? (descend? change path) items).map fun items => entries.set part (.tables items)
    | some _ => none

/-- Opens a table, which is new or was only implied, and fills it. -/
def openTable? (key : String) (fill : Entries → Option Entries) (entries : Entries) :
    Option Entries :=
  match entries.find? key with
  | none => (fill []).map fun sub => entries.set key (.table .header sub)
  | some (.table .implied sub) => (fill sub).map fun sub => entries.set key (.table .header sub)
  | some _ => none

/-- Adds a table to those under the same header, and fills it. -/
def appendTable? (key : String) (fill : Entries → Option Entries) (entries : Entries) :
    Option Entries :=
  match entries.find? key with
  | none => (fill []).map fun sub => entries.set key (.tables [sub])
  | some (.tables items) => (fill []).map fun sub => entries.set key (.tables (items ++ [sub]))
  | some _ => none

end Entries
end Toml
end DocumentFilter
