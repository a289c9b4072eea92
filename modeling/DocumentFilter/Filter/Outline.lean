import DocumentFilter.Filter.Basic
import DocumentFilter.Outline
import DocumentFilter.Text.Visible

/-!
# The outline of a filter

The tree of a filter with every part under its name, for whoever wants to know how an expression
was understood.
-/

namespace DocumentFilter

/-- The name of a connective in an outline. -/
def Connective.outline : Connective → Outline
  | conjunction => .word "And"
  | disjunction => .word "Or"

/-- The name of a comparison in an outline. -/
def ComparisonOp.outline : ComparisonOp → Outline
  | eq => .word "Eq"
  | ne => .word "Ne"
  | lt => .word "Lt"
  | le => .word "Le"
  | gt => .word "Gt"
  | ge => .word "Ge"

/-- The name of a method in an outline. -/
def MethodName.outline : MethodName → Outline
  | contains => .word "Contains"
  | startsWith => .word "StartsWith"
  | endsWith => .word "EndsWith"
  | isIn => .word "In"
  | notIn => .word "NotIn"

namespace Outline

/-- A part that may be missing. -/
def ofOption : Option Outline → Outline
  | some part => .wrapped "Some" part
  | none => .word "None"

/-- A text in its visible form. -/
def text (s : String) : Outline := .word (Text.visible s)

end Outline

/-- The outline of a literal. -/
def Literal.outline : Literal → Outline
  | string value => .wrapped "String" (.ofOption (value.map .text))
  | number value => .wrapped "Number" (.word (String.ofList (Decimal.intText value)))
  | boolean value => .wrapped "Boolean" (.word (if value then "true" else "false"))
  | date value => .wrapped "Date" (.word value.shortText)

/-- The outline of an operand. -/
def Operand.outline : Operand → Outline
  | property name => .wrapped "Property" (.record "PropertyRef" [("name", .text name)])
  | literal value => .wrapped "Literal" value.outline

/-- The outline of a group with the outlines of its members. -/
def Group.outlineWith (connective : Option Connective) (members : List Outline) : Outline :=
  .record "BooleanGroup"
    [("connective", .ofOption (connective.map Connective.outline)), ("members", .list members)]

mutual

/-- The outline of a node. -/
def Node.outline : Node → Outline
  | .comparison op left right =>
    .wrapped "Comparison"
      (.record "Comparison"
        [("left", left.outline), ("right", right.outline), ("op", op.outline)])
  | .method name arguments =>
    .wrapped "Method"
      (.record "MethodCall"
        [("name", name.outline), ("args", .list (arguments.map Operand.outline))])
  | .group connective members =>
    .wrapped "Group" (Group.outlineWith connective (Node.outlines members))

/-- The outlines of several nodes. -/
def Node.outlines : List Node → List Outline
  | [] => []
  | node :: rest => node.outline :: Node.outlines rest

end

/-- The outline of a filter. -/
def Group.outline (group : Group) : Outline :=
  Group.outlineWith group.connective (Node.outlines group.members)

end DocumentFilter
