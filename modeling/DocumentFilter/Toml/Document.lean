import DocumentFilter.Toml.Scalar

/-!
# TOML documents

From the text of a document to its table.  The text is read as a list of statements, each a key
with its value or the header of a table; the keys after a header belong to that table.
-/

namespace DocumentFilter
namespace Toml

/-- Skips spaces, line breaks and comments. -/
def skipFiller (inComment : Bool) : List Char → Option (List Char)
  | [] => some []
  | c :: rest =>
    if c = '\n' then skipFiller false rest
    else if inComment then if isPlain c then skipFiller true rest else none
    else if isSpace c then skipFiller false rest
    else if c = '#' then skipFiller true rest
    else some (c :: rest)

/-- Puts a value in front of those that have been read. -/
def consValue (value : Value) : List Value × List Char → List Value × List Char
  | (values, rest) => (value :: values, rest)

mutual

/-- A value inside of `level` others. -/
def readValue? (level : Nat) : Nat → List Char → Option (Value × List Char)
  | 0, _ => none
  | fuel + 1, text =>
    match text with
    | '[' :: rest =>
      if level < maxLevels then
        (readItems? (level + 1) fuel rest).map fun (items, rest) => (.array items, rest)
      else none
    | '\x7b' :: rest =>
      if level < maxLevels then
        match rest.dropWhile isSpace with
        | '\x7d' :: rest => some (.table .inline [], rest)
        | rest =>
          (readMembers? (level + 1) [] fuel rest).map fun (entries, rest) =>
            (.table .inline entries, rest)
      else none
    | '"' :: _ | '\'' :: _ =>
      (readQuoted? text).map fun (text, rest) => (.string (String.ofList text), rest)
    | _ => readScalar? text

/-- The items of an array up to its closing bracket; a comma may follow the last one. -/
def readItems? (level : Nat) : Nat → List Char → Option (List Value × List Char)
  | 0, _ => none
  | fuel + 1, text => do
    match ← skipFiller false text with
    | ']' :: rest => return ([], rest)
    | text =>
      let (value, rest) ← readValue? level fuel text
      match ← skipFiller false rest with
      | ',' :: rest => (readItems? level fuel rest).map (consValue value)
      | ']' :: rest => return ([value], rest)
      | _ => none

/-- The members of an inline table up to its closing brace; no comma follows the last one. -/
def readMembers? (level : Nat) (entries : Entries) :
    Nat → List Char → Option (Entries × List Char)
  | 0, _ => none
  | fuel + 1, text => do
    let ((path, key), rest) ← readKey? text
    match rest with
    | '=' :: rest =>
      let (value, rest) ← readValue? level fuel (rest.dropWhile isSpace)
      let entries ← entries.addDotted? value key path
      match rest.dropWhile isSpace with
      | ',' :: rest => readMembers? level entries fuel rest
      | '\x7d' :: rest => return (entries, rest)
      | _ => none
    | _ => none

end

/-- A statement of a document. -/
inductive Statement where
  /-- A key with the tables on the way to it, and its value. -/
  | member (path : List String) (key : String) (value : Value)
  /-- The header of a table. -/
  | table (path : List String) (key : String)
  /-- The header of a table that is added to others. -/
  | tableOf (path : List String) (key : String)

/-- What may follow a statement on its line: spaces and a comment.  Gives the lines after it. -/
def endLine? (text : List Char) : Option (List Char) :=
  let text := text.dropWhile isSpace
  let text := match text with
    | '#' :: rest => rest.dropWhile isPlain
    | text => text
  match text with
  | [] => some []
  | c :: rest => if c = '\n' then some rest else none

/-- The statement at the front of a text. -/
def readStatement? (text : List Char) : Option (Statement × List Char) :=
  match text with
  | '[' :: '[' :: rest => do
    let ((path, key), rest) ← readKey? rest
    match rest with
    | ']' :: ']' :: rest => return (.tableOf path key, rest)
    | _ => none
  | '[' :: rest => do
    let ((path, key), rest) ← readKey? rest
    match rest with
    | ']' :: rest => return (.table path key, rest)
    | _ => none
  | _ => do
    let ((path, key), rest) ← readKey? text
    match rest with
    | '=' :: rest =>
      let rest := rest.dropWhile isSpace
      let (value, rest) ← readValue? 0 (2 * rest.length + 1) rest
      return (.member path key value, rest)
    | _ => none

/-- The statements of a text, of which there are at most `fuel`. -/
def readStatements? : Nat → List Char → Option (List Statement)
  | 0, _ => none
  | fuel + 1, text => do
    match ← skipFiller false text with
    | [] => return []
    | text =>
      let (statement, rest) ← readStatement? text
      let rest ← endLine? rest
      return statement :: (← readStatements? fuel rest)

/-- A member of a table under its key. -/
structure Member where
  path : List String
  key : String
  value : Value

/-- A header with the members that follow it. -/
structure Section where
  /-- The table is added to others under the same header. -/
  repeated : Bool
  path : List String
  key : String
  members : List Member

/-- The members before the first header, and the sections. -/
def sections : List Statement → List Member × List Section
  | [] => ([], [])
  | .member path key value :: rest =>
    let (members, sections) := sections rest
    (⟨path, key, value⟩ :: members, sections)
  | .table path key :: rest =>
    let (members, sections) := sections rest
    ([], ⟨false, path, key, members⟩ :: sections)
  | .tableOf path key :: rest =>
    let (members, sections) := sections rest
    ([], ⟨true, path, key, members⟩ :: sections)

/-- Adds members to a table. -/
def addMembers? (members : List Member) (entries : Entries) : Option Entries :=
  members.foldlM (fun entries m => entries.addDotted? m.value m.key m.path) entries

/-- Adds a section to a document. -/
def addSection? (entries : Entries) (s : Section) : Option Entries :=
  let fill := addMembers? s.members
  let change :=
    if s.repeated then Entries.appendTable? s.key fill else Entries.openTable? s.key fill
  entries.descend? change s.path

/-- Every line break as a line feed. -/
def normalizeLines : List Char → List Char
  | '\r' :: '\n' :: rest => '\n' :: normalizeLines rest
  | c :: rest => c :: normalizeLines rest
  | [] => []

/-- The text without a byte-order mark at its start. -/
def dropMark : List Char → List Char
  | '\ufeff' :: rest => rest
  | text => text

/-- The table of a document. -/
def document? (text : String) : Option Entries := do
  let text := normalizeLines (dropMark text.toList)
  let (members, sections) := sections (← readStatements? (text.length + 1) text)
  sections.foldlM addSection? (← addMembers? members [])

end Toml
end DocumentFilter
