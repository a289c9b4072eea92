import DocumentFilter.Filter.Parse
import DocumentFilter.Pattern
import DocumentFilter.Predicate.Basic

/-!
# From filters to predicates

The conditions of a filter are collected in the order of the expression.  A group with a connective
is one condition, a list of predicates; a group without one adds its members to whatever is being
collected round it.
-/

namespace DocumentFilter

/-- The key under which a connective joins predicates. -/
def Connective.key : Connective → String
  | conjunction => "$and"
  | disjunction => "$or"

/-- The operator of a comparison. -/
def ComparisonOp.operator : ComparisonOp → Operator
  | eq => .eq
  | ne => .ne
  | lt => .lt
  | le => .lte
  | gt => .gt
  | ge => .gte

namespace Operand

/-- The field that an operand names. -/
def field : Operand → String
  | property name => name
  | literal value => value.text

/-- The value that an operand stands for on the right of a comparison. -/
def value : Operand → Value
  | property name => .string name
  | literal (.string (some text)) => .string text
  | literal (.string none) => .null
  | literal (.number n) => .number n
  | literal (.boolean b) => .boolean b
  | literal (.date instant) => .date instant

/-- The text that a pattern is made from; there is none in anything but a text. -/
def patternText : Operand → String
  | literal (.string (some text)) => text
  | _ => ""

end Operand

/-- The condition of a comparison. -/
def ComparisonOp.condition (op : ComparisonOp) (right : Operand) : Condition :=
  .operator op.operator right.value

/-- The condition of a method call, from the arguments after the property. -/
def MethodName.condition (method : MethodName) (arguments : List Operand) : Condition :=
  let text := (arguments.head?.map Operand.patternText).getD ""
  match method with
  | isIn => .operator .isIn (.list (arguments.map Operand.value))
  | notIn => .operator .notIn (.list (arguments.map Operand.value))
  | contains => .operator .regex (.string (Pattern.containing text))
  | startsWith => .operator .regex (.string (Pattern.startingWith text))
  | endsWith => .operator .regex (.string (Pattern.endingWith text))

/-- Where conditions are collected. -/
inductive Collector where
  /-- All in one predicate. -/
  | merged (predicate : Predicate)
  /-- Each in a predicate of its own. -/
  | listed (predicates : List Predicate)

namespace Collector

/-- Adds a condition. -/
def add (collector : Collector) (key : String) (condition : Condition) : Collector :=
  match collector with
  | merged predicate => merged (predicate.insert key condition)
  | listed predicates => listed (predicates ++ [({} : Predicate).insert key condition])

/-- What has been collected, as a list of predicates. -/
def predicates : Collector → List Predicate
  | merged predicate => [predicate]
  | listed predicates => predicates

/-- What has been collected, as one predicate. -/
def predicate : Collector → Predicate
  | merged predicate => predicate
  | listed predicates => .ofList (predicates.flatMap Predicate.entries)

mutual

/-- Collects the conditions of a node. -/
def visit (collector : Collector) : Node → Collector
  | .comparison op left right => collector.add left.field (op.condition right)
  | .method name arguments =>
    collector.add ((arguments.head?.map Operand.field).getD "") (name.condition arguments.tail)
  | .group none members => collector.visitAll members
  | .group (some connective) members =>
    collector.add connective.key
      (.logical (((listed []).visitAll members).predicates.map Predicate.entries))

/-- Collects the conditions of several nodes. -/
def visitAll (collector : Collector) : List Node → Collector
  | [] => collector
  | node :: rest => (collector.visit node).visitAll rest

end

end Collector

/-- The predicate of a filter's tree. -/
def Group.compile (group : Group) : Predicate :=
  ((Collector.merged {}).visit group.toNode).predicate

/-- The predicate of a filter expression. -/
def compile (filter : String) (maxDepth : Nat) : Except FilterError Predicate :=
  (parse filter maxDepth).map Group.compile

end DocumentFilter
