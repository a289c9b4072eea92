import DocumentFilter.Query.Basic
import DocumentFilter.Text.Decimal

/-!
# Arguments

What a command line asks for.  Words are taken one after the other: options with and without a
value, the name of a command, and the expression that the command works on.  The options that every
command knows may stand before or after its name; after the name they count more.
-/

namespace DocumentFilter
namespace CommandLine

/-- When the output has colours. -/
inductive ColorMode where
  | auto
  | always
  | never
deriving DecidableEq, Repr

/-- The mode of a word. -/
def ColorMode.ofWord? : String → Option ColorMode
  | "auto" => some auto
  | "always" => some always
  | "never" => some never
  | _ => none

/-- What is to be done. -/
inductive Command where
  /-- Prints the predicate of a filter. -/
  | compile (filter : String)
  /-- Prints the tokens of a filter. -/
  | tokens (filter : String)
  /-- Prints the tree of a filter. -/
  | tree (filter : String)
  /-- Prints a whole query. -/
  | query (options : QueryOptions)
deriving DecidableEq, Repr

/-- A command with the options that all commands have. -/
structure Invocation where
  settingsPath? : Option String
  /-- JSON on a single line. -/
  compact : Bool
  /-- How often more log entries were asked for. -/
  verbosity : Nat
  /-- Only errors in the log. -/
  quiet : Bool
  color : ColorMode
  command : Command
deriving DecidableEq, Repr

/-- Why words do not make an invocation. -/
inductive Stop where
  /-- The words are not understood. -/
  | usage
  | help
  | version
deriving DecidableEq, Repr

/-- The names of the commands. -/
inductive CommandName where
  | compile
  | tokens
  | tree
  | query
deriving DecidableEq, Repr

/-- The command of a word. -/
def CommandName.ofWord? : String → Option CommandName
  | "compile" => some compile
  | "tokens" => some tokens
  | "ast" => some tree
  | "query" => some query
  | _ => none

/-- An option without a value. -/
inductive Switch where
  | compact
  | verbose
  | quiet
  | help
  | version
deriving DecidableEq, Repr

/-- The switch of a letter. -/
def Switch.ofLetter? : Char → Option Switch
  | 'c' => some compact
  | 'v' => some verbose
  | 'q' => some quiet
  | 'h' => some help
  | 'V' => some version
  | _ => none

/-- The switch of a name. -/
def Switch.ofName? : String → Option Switch
  | "compact" => some compact
  | "verbose" => some verbose
  | "quiet" => some quiet
  | "help" => some help
  | "version" => some version
  | _ => none

/-- An option with a value. -/
inductive Setting where
  | config
  | color
  | filter
  | orderby
  | top
  | skip
  | select
deriving DecidableEq, Repr

/-- The setting of a name. -/
def Setting.ofName? : String → Option Setting
  | "config" => some config
  | "color" => some color
  | "filter" => some filter
  | "orderby" => some orderby
  | "top" => some top
  | "skip" => some skip
  | "select" => some select
  | _ => none

/-- The shapes of a word on a command line. -/
inductive Word where
  /-- Two minus signs alone: what follows are no options. -/
  | endOfOptions
  /-- A name after two minus signs, with a value if there is an equals sign. -/
  | long (name : String) (value? : Option String)
  /-- Letters after one minus sign. -/
  | letters (letters : List Char)
  /-- Any other word; a minus sign alone is one. -/
  | plain
deriving DecidableEq, Repr

/-- The shape of a word. -/
def Word.ofText : List Char → Word
  | ['-', '-'] => endOfOptions
  | '-' :: '-' :: text =>
    let name := String.ofList (text.takeWhile (· ≠ '='))
    match text.dropWhile (· ≠ '=') with
    | [] => long name none
    | _ :: value => long name (some (String.ofList value))
  | '-' :: letter :: rest => letters (letter :: rest)
  | _ => plain

/-- The options that every command has, as given in one place. -/
structure Shared where
  compact : Bool := false
  verbosity : Nat := 0
  quiet : Bool := false
  color? : Option ColorMode := none
  settingsPath? : Option String := none
deriving DecidableEq, Repr

namespace Shared

/-- What holds when options stand before and after the name of the command. -/
def override (before after : Shared) : Shared where
  compact := before.compact || after.compact
  verbosity := if after.verbosity = 0 then before.verbosity else after.verbosity
  quiet := before.quiet || after.quiet
  color? := after.color? <|> before.color?
  settingsPath? := after.settingsPath? <|> before.settingsPath?

end Shared

/-- How far the words have been understood. -/
structure Reading where
  /-- The options before the name of the command. -/
  before : Shared := {}
  /-- The command, once it has been named. -/
  command? : Option CommandName := none
  /-- The options after the name of the command. -/
  after : Shared := {}
  /-- The expression that the command works on. -/
  filter? : Option String := none
  options : QueryOptions := {}
deriving DecidableEq, Repr

namespace Reading

/-- The options of the place that has been reached. -/
def here (reading : Reading) : Shared :=
  if reading.command?.isSome then reading.after else reading.before

/-- Changes the options of the place that has been reached. -/
def setHere (reading : Reading) (shared : Shared) : Reading :=
  if reading.command?.isSome then { reading with after := shared }
  else { reading with before := shared }

/-- Takes an option without a value; except for more log entries, each may be given once in a
place. -/
def takeSwitch (reading : Reading) : Switch → Except Stop Reading
  | .compact =>
    if reading.here.compact then .error .usage
    else .ok (reading.setHere { reading.here with compact := true })
  | .verbose =>
    .ok (reading.setHere { reading.here with verbosity := min 255 (reading.here.verbosity + 1) })
  | .quiet =>
    if reading.here.quiet then .error .usage
    else .ok (reading.setHere { reading.here with quiet := true })
  | .help => .error .help
  | .version => if reading.command?.isSome then .error .usage else .error .version

/-- The value of a setting, which must not have one yet and must be of the right form. -/
def once {α : Type} (old? : Option α) (new? : Option α) : Except Stop (Option α) :=
  match old?, new? with
  | none, some new => .ok (some new)
  | _, _ => .error .usage

/-- Takes an option with its value; each may be given once in a place. -/
def takeSetting (reading : Reading) (setting : Setting) (value : String) : Except Stop Reading := do
  let here := reading.here
  let options := reading.options
  match setting with
  | .config =>
    let path? ← once here.settingsPath? (if value.isEmpty then none else some value)
    return reading.setHere { here with settingsPath? := path? }
  | .color =>
    let color? ← once here.color? (ColorMode.ofWord? value)
    return reading.setHere { here with color? }
  | .filter =>
    return { reading with options := { options with filter := ← once options.filter value } }
  | .orderby =>
    return { reading with options := { options with orderby := ← once options.orderby value } }
  | .top =>
    let top ← once options.top (Decimal.unsigned64? value.toList)
    return { reading with options := { options with top } }
  | .skip =>
    let skip ← once options.skip (Decimal.unsigned64? value.toList)
    return { reading with options := { options with skip } }
  | .select =>
    return { reading with options := { options with select := ← once options.select value } }

/-- The setting of a name, in a place where it is known. -/
def setting? (reading : Reading) (name : String) : Option Setting :=
  (Setting.ofName? name).filter fun setting =>
    match setting with
    | .config | .color => true
    | _ => reading.command? = some .query

/-- Takes the letters of a word after one minus sign. -/
def takeLetters (reading : Reading) (letters : List Char) : Except Stop Reading :=
  letters.foldlM (fun reading c =>
    match Switch.ofLetter? c with
    | some switch => reading.takeSwitch switch
    | none => .error .usage) reading

/-- Takes the expression that the command works on. -/
def takeOperand (reading : Reading) (word : String) : Except Stop Reading :=
  match reading.command?, reading.filter? with
  | some .compile, none | some .tokens, none | some .tree, none =>
    .ok { reading with filter? := some word }
  | _, _ => .error .usage

/-- What is left to do when help on commands is asked for. -/
def help (names : List String) : Stop :=
  match names with
  | [] => .help
  | [name] => if name = "help" || (CommandName.ofWord? name).isSome then .help else .usage
  | _ => .usage

/-- Takes the words after a mark that ends the options. -/
def takeOperands (reading : Reading) (words : List String) : Except Stop Reading :=
  words.foldlM takeOperand reading

/-- Takes a word that is no option. -/
def takePlain (reading : Reading) (word : String) (rest : List String) : Except Stop Reading :=
  if reading.command?.isSome then reading.takeOperand word
  else
    match CommandName.ofWord? word with
    | some name => .ok { reading with command? := some name }
    | none => if word = "help" then .error (help rest) else .error .usage

/-- Takes all words. -/
def takeAll (reading : Reading) : List String → Except Stop Reading
  | [] => .ok reading
  | word :: rest =>
    match Word.ofText word.toList with
    | .endOfOptions => reading.takeOperands rest
    | .plain => (reading.takePlain word rest).bind fun reading => reading.takeAll rest
    | .letters letters => (reading.takeLetters letters).bind fun reading => reading.takeAll rest
    | .long name (some value) =>
      match reading.setting? name with
      | none => .error .usage
      | some setting =>
        (reading.takeSetting setting value).bind fun reading => reading.takeAll rest
    | .long name none =>
      match reading.setting? name, Switch.ofName? name, rest with
      | some setting, _, value :: rest =>
        match Word.ofText value.toList with
        | .plain => (reading.takeSetting setting value).bind fun reading => reading.takeAll rest
        | _ => .error .usage
      | none, some switch, rest =>
        (reading.takeSwitch switch).bind fun reading => reading.takeAll rest
      | _, _, _ => .error .usage

/-- The command that has been read, if it has what it needs. -/
def command (reading : Reading) : Except Stop Command :=
  match reading.command?, reading.filter? with
  | some .compile, some filter => .ok (.compile filter)
  | some .tokens, some filter => .ok (.tokens filter)
  | some .tree, some filter => .ok (.tree filter)
  | some .query, _ => .ok (.query reading.options)
  | _, _ => .error .usage

/-- The options that hold for the command.  The environment may name a file of settings, which
counts least; where the words leave a place for it, it must not name one by the empty text. -/
def shared (reading : Reading) (environmentPath? : Option String) : Except Stop Shared :=
  let shared := reading.before.override reading.after
  let hasPlace := reading.before.settingsPath?.isNone || reading.after.settingsPath?.isNone
  if environmentPath? = some "" && hasPlace then .error .usage
  else .ok { shared with settingsPath? := shared.settingsPath? <|> environmentPath? }

end Reading

/-- What a command line asks for, given the file of settings that the environment names. -/
def Invocation.ofArguments (words : List String) (environmentPath? : Option String) :
    Except Stop Invocation := do
  let reading ← ({} : Reading).takeAll words
  let command ← reading.command
  let shared ← reading.shared environmentPath?
  return {
    settingsPath? := shared.settingsPath?
    compact := shared.compact
    verbosity := shared.verbosity
    quiet := shared.quiet
    color := shared.color?.getD .auto
    command }

end CommandLine
end DocumentFilter
