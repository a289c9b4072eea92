import DocumentFilter.Instant
import DocumentFilter.Vocabulary

/-!
# Filters as trees

A filter is a group of members joined by one connective.  A member is a comparison, a method call
or a group again.
-/

namespace DocumentFilter

/-- A value written in a filter. -/
inductive Literal where
  /-- A text; the word `null` is the text literal without a value. -/
  | string (value : Option String)
  | number (value : Int)
  | boolean (value : Bool)
  | date (value : Instant)
deriving DecidableEq

namespace Literal

/-- The value as plain text; the null literal is the empty text. -/
def text : Literal → String
  | string value => value.getD ""
  | number value => String.ofList (Decimal.intText value)
  | boolean value => if value then "true" else "false"
  | date value => value.text

end Literal

/-- What a comparison or a method is applied to. -/
inductive Operand where
  /-- A path into the document, such as `author/name`. -/
  | property (name : String)
  | literal (value : Literal)
deriving DecidableEq

namespace Operand

/-- The operand names a property. -/
def isProperty : Operand → Bool
  | property _ => true
  | literal _ => false

/-- The operand is a text with a value. -/
def isText : Operand → Bool
  | literal (.string (some _)) => true
  | _ => false

/-- The operand as the messages spell it. -/
def messageText : Operand → String
  | property name => name
  | literal (.string none) => "null"
  | literal value => value.text

end Operand

/-- A member of a group. -/
inductive Node where
  | comparison (op : ComparisonOp) (left right : Operand)
  | method (name : MethodName) (arguments : List Operand)
  /-- Members in parentheses; a single member has no connective. -/
  | group (connective : Option Connective) (members : List Node)

/-- Members that stand on one level, joined by at most one connective. -/
structure Group where
  /-- What joins the members; none if there is nothing to join. -/
  connective : Option Connective := none
  /-- The members in the order of the expression. -/
  members : List Node := []

/-- The kind of a node, by which it is compiled. -/
inductive NodeKind where
  | group
  | comparison (op : ComparisonOp)
  | method (name : MethodName)
deriving DecidableEq, Repr

namespace NodeKind

/-- The name of a kind. -/
def name : NodeKind → String
  | group => "group"
  | comparison op => op.word
  | method name => name.word

end NodeKind

namespace Node

/-- The kind of a node. -/
def kind : Node → NodeKind
  | comparison op _ _ => .comparison op
  | method name _ => .method name
  | group _ _ => .group

mutual

/-- How many groups are nested in a node. -/
def depth : Node → Nat
  | group _ members => depthOfMembers members + 1
  | _ => 0

/-- The greatest depth of several nodes. -/
def depthOfMembers : List Node → Nat
  | [] => 0
  | node :: rest => max node.depth (depthOfMembers rest)

end

mutual

/-- The kinds of a node and of every node below it, parents first. -/
def kinds : Node → List NodeKind
  | comparison op _ _ => [.comparison op]
  | method name _ => [.method name]
  | group _ members => .group :: kindsOfMembers members

/-- The kinds of several nodes and of every node below them. -/
def kindsOfMembers : List Node → List NodeKind
  | [] => []
  | node :: rest => node.kinds ++ kindsOfMembers rest

end

end Node

namespace Group

/-- The group as a member of another one. -/
def toNode (group : Group) : Node := .group group.connective group.members

/-- How many groups are nested, with this one. -/
def depth (group : Group) : Nat := Node.depthOfMembers group.members + 1

/-- The group of a filter without conditions. -/
def isEmpty (group : Group) : Bool := group.members.isEmpty

/-- The kinds of all nodes below the group, parents first. -/
def kinds (group : Group) : List NodeKind := Node.kindsOfMembers group.members

@[simp]
theorem depth_toNode (group : Group) : group.toNode.depth = group.depth := rfl

end Group
end DocumentFilter
