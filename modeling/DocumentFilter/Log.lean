import DocumentFilter.Text.Blank
import DocumentFilter.Text.TerminalControl

/-!
# Logs

Entries that a run writes about itself, and the rules by which they are shown.  A rule sets the
least severe level for the entries of a topic and of the topics whose names go on from it.
-/

namespace DocumentFilter
namespace Log

/-- How severe an entry is. -/
inductive Level where
  | error
  | warn
  | info
  | debug
  | trace
deriving DecidableEq, Repr

namespace Level

/-- The place of a level, counted from the most severe one. -/
def rank : Level → Nat
  | error => 1
  | warn => 2
  | info => 3
  | debug => 4
  | trace => 5

/-- The name of a level in five columns. -/
def label : Level → String
  | error => "ERROR"
  | warn => "WARN "
  | info => "INFO "
  | debug => "DEBUG"
  | trace => "TRACE"

/-- The least severe level that a word lets pass, by its rank; the word `off` lets none pass.  The
case of ASCII letters does not count. -/
def thresholdOfWord? (word : String) : Option Nat :=
  match word.toLower with
  | "off" => some 0
  | "error" => some error.rank
  | "warn" => some warn.rank
  | "info" => some info.rank
  | "debug" => some debug.rank
  | "trace" => some trace.rank
  | _ => none

end Level

/-- Something that a run says about itself. -/
structure Entry where
  level : Level
  /-- What the entry is about, as a path. -/
  topic : String
  message : String
deriving DecidableEq, Repr

namespace Entry

/-- The entry as a line.  The message goes on over more lines where it has line breaks, and those
are indented. -/
def line (entry : Entry) : List Char :=
  let head := "[" ++ entry.level.label ++ " " ++ entry.topic ++ "] "
  let message := entry.message.toList.flatMap fun c =>
    if c = '\n' then "\n    ".toList else [c]
  head.toList ++ message ++ ['\n']

/-- The entry as it is shown: what is an order to a terminal is left out. -/
def render (entry : Entry) : String := String.ofList (Text.withoutControl entry.line)

end Entry

/-- A rule for the topics that start with a name; without a name it is for all. -/
structure Rule where
  topic? : Option String
  /-- The rank of the least severe level that is shown. -/
  threshold : Nat
deriving DecidableEq, Repr

namespace Rule

/-- The rule speaks about a topic. -/
def covers (rule : Rule) (topic : String) : Bool :=
  rule.topic?.all fun name => name.toList.isPrefixOf topic.toList

/-- The length by which one rule is more particular than another. -/
def length (rule : Rule) : Nat := (rule.topic?.map String.utf8ByteSize).getD 0

/-- Adds a rule, in the place of the one with the same name if there is one. -/
def insert (rule : Rule) : List Rule → List Rule
  | [] => [rule]
  | other :: rest => if other.topic? = rule.topic? then rule :: rest else other :: insert rule rest

/-- Reads one rule: a level for all topics, the name of a topic of which everything is shown, or a
topic with a level.  What cannot be read is given back. -/
def ofText (text : List Char) : Except String Rule :=
  match text.splitOn '=' with
  | [word] =>
    match Level.thresholdOfWord? (String.ofList word) with
    | some threshold => .ok ⟨none, threshold⟩
    | none => .ok ⟨some (String.ofList word), Level.trace.rank⟩
  | [topic, word] =>
    let word := String.ofList (Text.trim word)
    if word.isEmpty then .ok ⟨some (String.ofList topic), Level.trace.rank⟩
    else
      match Level.thresholdOfWord? word with
      | some threshold => .ok ⟨some (String.ofList topic), threshold⟩
      | none => .error word
  | _ => .error (String.ofList text)

end Rule

/-- Which entries are shown. -/
structure Selection where
  rules : List Rule
  /-- A text that the message has to contain. -/
  phrase? : Option String := none
deriving DecidableEq, Repr

namespace Selection

/-- The most particular rule for a topic; of two with names of the same length the later one. -/
def rule? (selection : Selection) (topic : String) : Option Rule :=
  let ascending := selection.rules.mergeSort fun a b => decide (a.length ≤ b.length)
  ascending.reverse.find? (·.covers topic)

/-- The text occurs in the message. -/
def containsPhrase (phrase : List Char) : List Char → Bool
  | [] => phrase.isEmpty
  | c :: rest => phrase.isPrefixOf (c :: rest) || containsPhrase phrase rest

/-- The entry is shown. -/
def shows (selection : Selection) (entry : Entry) : Bool :=
  ((selection.rule? entry.topic).any fun rule => entry.level.rank ≤ rule.threshold) &&
    selection.phrase?.all fun phrase => containsPhrase phrase.toList entry.message.toList

/-- The entries that are shown, as text. -/
def render (selection : Selection) (entries : List Entry) : String :=
  String.join ((entries.filter selection.shows).map Entry.render)

/-- What is said about a rule that cannot be read. -/
def warning (text : String) (reason : String) : String :=
  "warning: invalid logging spec '" ++ text ++ "'" ++ reason ++ ", ignoring it\n"

/-- Adds the rules of a specification: rules between commas, and after a slash the text that a
message has to contain.  Gives the warnings for what cannot be read. -/
def extend (selection : Selection) (specification : String) : Selection × String :=
  let rules (text : List Char) : List (Except String Rule) :=
    (((text.splitOn ',').map Text.trim).filter (!·.isEmpty)).map Rule.ofText
  let add (selection : Selection × String) : Except String Rule → Selection × String
    | .ok rule => ({ selection.1 with rules := rule.insert selection.1.rules }, selection.2)
    | .error text => (selection.1, selection.2 ++ warning text "")
  match specification.toList.splitOn '/' with
  | [text] => (rules text).foldl add ({ selection with phrase? := none }, "")
  | [text, phrase] =>
    (rules text).foldl add ({ selection with phrase? := some (String.ofList phrase) }, "")
  | _ => (selection, warning specification " (too many '/'s)")

end Selection
end Log
end DocumentFilter
