import DocumentFilter.CommandLine.Arguments
import DocumentFilter.Filter.Outline
import DocumentFilter.Log
import DocumentFilter.Query.Basic
import DocumentFilter.Settings.Load
import DocumentFilter.Token.Table

/-!
# Running commands

What a command line prints and how it ends.  A run that succeeds prints its result on standard
output; a run that fails prints nothing there and ends its standard error with what is wrong.  The
log goes to standard error and changes nothing else.
-/

namespace DocumentFilter
namespace CommandLine

/-- What a run leaves behind. -/
structure Outcome where
  code : Nat
  stdout : String := ""
  stderr : String := ""
deriving DecidableEq, Repr

/-- What a run takes from its surroundings. -/
structure Environment where
  /-- The file of settings, unless the command line names one. -/
  settingsPath? : Option String := none
  /-- Rules for the log. -/
  logRules? : Option String := none
  /-- The bytes of a file. -/
  read : String → Except ReadFault ByteArray

/-- A value as JSON, on one line or on several. -/
def jsonText (compact : Bool) (value : Json) : String :=
  if compact then value.compact else value.pretty

namespace Command

/-- What a command prints. -/
def output (settings : Settings) (compact : Bool) : Command → Except FilterError String
  | compile filter =>
    (DocumentFilter.compile filter settings.maxDepth).map fun p => jsonText compact p.toJson
  | tokens filter =>
    ((tokenize filter).mapError FilterError.lex).map Token.table
  | tree filter => (parse filter settings.maxDepth).map fun group => group.outline.pretty 0
  | query options => (Query.build options settings).map fun q => jsonText compact q.toJson

end Command

/-- A number in a log entry. -/
def number (n : Nat) : String := String.ofList (Decimal.natText n)

namespace Trace

open Log (Entry)

/-- What is logged while a filter is read. -/
def parse (filter : String) (maxDepth : Nat) : List Entry :=
  match tokenize filter with
  | .error _ => []
  | .ok tokens =>
    ⟨.debug, "odata_filter::filter",
      "Tokenized filter into " ++ number tokens.length ++ " tokens"⟩ ::
    (reductions tokens maxDepth).map fun r =>
      ⟨.debug, "odata_filter::filter::grouping",
        "Reduced group at position " ++ number r.position ++ " (" ++
          number r.group.members.length ++ " members, depth " ++ number r.group.depth ++ ")"⟩

/-- What is logged while a filter is compiled. -/
def compile (filter : String) (maxDepth : Nat) : List Entry :=
  parse filter maxDepth ++
    match DocumentFilter.parse filter maxDepth with
    | .error _ => []
    | .ok group =>
      group.kinds.map (fun kind =>
        ⟨.trace, "odata_filter::filter::compiler", "Compiling " ++ kind.name ++ " node"⟩) ++
      [⟨.debug, "odata_filter",
        "Compiled filter \"" ++ filter ++ "\" into " ++ number group.compile.size ++
          " top-level keys"⟩]

/-- What is logged while an order is read. -/
def sort (order : String) : List Entry :=
  (SortOrder.unreadable order).map (fun clause =>
    ⟨.debug, "odata_filter::query",
      "orderby clause \"" ++ String.ofList clause ++ "\" invalid, ignoring"⟩) ++
  ((SortOrder.translate order).map fun sort =>
    ⟨.debug, "odata_filter::query",
      "Translated orderby \"" ++ order ++ "\" to sort \"" ++ sort ++ "\""⟩).toList

/-- What is logged once the settings are there. -/
def settings (settings : Settings) (path? : Option String) : List Entry :=
  ⟨.debug, "odata_filter", "Config profile: " ++ settings.profileName⟩ ::
    (path?.map fun path => ⟨.debug, "odata_filter", "Config file: " ++ path⟩).toList

/-- What a command logs. -/
def command (settings : Settings) : Command → List Entry
  | .compile filter => compile filter settings.maxDepth
  | .tokens _ => []
  | .tree filter => parse filter settings.maxDepth
  | .query options =>
    ((options.order settings.resource).map sort).getD [] ++
      ((QueryOptions.nonBlank options.filter).map (compile · settings.maxDepth)).getD []

end Trace

/-- The line that says what is wrong. -/
def errorLine (color : ColorMode) (message : String) : String :=
  let label := if color = .always then "\x1b[1;31merror:\x1b[0m" else "error:"
  label ++ " " ++ message ++ "\n"

namespace Invocation

/-- The entries of the log that are shown, and warnings about rules that cannot be read. -/
def selection (inv : Invocation) (logRules? : Option String) : Log.Selection × String :=
  let threshold :=
    if inv.quiet then Log.Level.error.rank
    else
      match inv.verbosity with
      | 0 => Log.Level.warn.rank
      | 1 => Log.Level.debug.rank
      | _ => Log.Level.trace.rank
  let base : Log.Selection := { rules := [⟨none, threshold⟩] }
  match logRules? with
  | some rules => base.extend rules
  | none => (base, "")

/-- Runs a command: what it logs, and what it prints or what is wrong. -/
def result (inv : Invocation) (read : String → Except ReadFault ByteArray) :
    List Log.Entry × Except String String :=
  match Settings.load read inv.settingsPath? with
  | .error e => ([], .error ("Failed to load config: " ++ e.chain))
  | .ok settings =>
    (Trace.settings settings inv.settingsPath? ++ Trace.command settings inv.command,
      (inv.command.output settings inv.compact).mapError FilterError.message)

/-- Runs a command. -/
def run (inv : Invocation) (environment : Environment) : Outcome :=
  let (selection, warnings) := inv.selection environment.logRules?
  let (entries, result) := inv.result environment.read
  let log := warnings ++ selection.render entries
  match result with
  | .ok text => { code := 0, stdout := text ++ "\n", stderr := log }
  | .error message => { code := 1, stderr := log ++ errorLine inv.color message }

end Invocation

/-- How the program is called. -/
def usage : String :=
  "Usage: odata-filter [OPTIONS] <COMMAND>\n\n" ++
  "Commands:\n" ++
  "  compile <FILTER>  Print the predicate of a filter as JSON\n" ++
  "  tokens <FILTER>   Print the tokens of a filter\n" ++
  "  ast <FILTER>      Print the tree of a filter\n" ++
  "  query             Print a whole query; takes --filter, --orderby, --top, --skip, --select\n" ++
  "  help              Print this text\n\n" ++
  "Options:\n" ++
  "      --config <PATH>  TOML file with limits and resource defaults\n" ++
  "  -c, --compact        JSON on a single line\n" ++
  "  -v, --verbose        More log entries; twice for all\n" ++
  "  -q, --quiet          Only errors in the log\n" ++
  "      --color <WHEN>   auto, always or never\n" ++
  "  -h, --help           Print this text\n" ++
  "  -V, --version        Print the version\n"

/-- The name and the version of the program. -/
def version : String := "odata-filter 0.1.0\n"

/-- Runs the program on the words of a command line. -/
def run (words : List String) (environment : Environment) : Outcome :=
  match Invocation.ofArguments words environment.settingsPath? with
  | .ok inv => inv.run environment
  | .error .version => { code := 0, stdout := version }
  | .error .help => { code := 0, stdout := usage }
  | .error .usage => { code := 2, stderr := usage }

end CommandLine
end DocumentFilter
