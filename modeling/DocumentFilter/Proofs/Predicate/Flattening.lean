import DocumentFilter.Proofs.Predicate.Conditions

/-!
# Predicates by flattening

Any tree, whether a filter can have it or not, is compiled by setting its conditions one after the
other.  Where a condition stands in the tree no longer matters then, so a group that holds one node
and no connective may be put round any node, or be taken away, and the predicate stays as it is.
-/

namespace DocumentFilter

namespace Predicate

/-- Sets several conditions, one after the other. -/
def insertAll (p : Predicate) (entries : List (String × Condition)) : Predicate :=
  entries.foldl (fun p (key, condition) => p.insert key condition) p

end Predicate

namespace Collector

theorem addAll_merged (p : Predicate) (entries : List (String × Condition)) :
    (merged p).addAll entries = merged (p.insertAll entries) := by
  induction entries generalizing p with
  | nil => rfl
  | cons entry entries ih =>
      obtain ⟨key, condition⟩ := entry
      exact ih (p.insert key condition)

end Collector

/-- The predicate of any tree has the conditions of the tree, set in their order. -/
theorem Group.compile_eq_ofList (group : Group) :
    group.compile = .ofList group.toNode.conditions := by
  rw [compile, Collector.visit_eq_addAll, Collector.addAll_merged]
  rfl

namespace Node

/-- The node in a group of its own. -/
def parenthesized (node : Node) : Node := .group none [node]

theorem conditionsOfMembers_append (left right : List Node) :
    conditionsOfMembers (left ++ right) =
      conditionsOfMembers left ++ conditionsOfMembers right := by
  induction left with
  | nil => rfl
  | cons node left ih =>
      rw [List.cons_append, conditionsOfMembers, conditionsOfMembers, ih, List.append_assoc]

theorem conditions_group_congr (connective : Option Connective) {members others : List Node}
    (h : conditionsOfMembers members = conditionsOfMembers others) :
    (group connective members).conditions = (group connective others).conditions := by
  cases connective with
  | none => rw [conditions, conditions, h]
  | some connective => rw [conditions, conditions, h]

theorem conditions_parenthesized (node : Node) :
    node.parenthesized.conditions = node.conditions := by
  rw [parenthesized, conditions, conditionsOfMembers, conditionsOfMembers, List.append_nil]

end Node

/-- A group with room for one more member: what joins the members, and those on either side. -/
structure Siblings where
  connective : Option Connective
  before : List Node
  after : List Node

namespace Siblings

/-- The group with a node between the siblings. -/
def around (siblings : Siblings) (node : Node) : Group where
  connective := siblings.connective
  members := siblings.before ++ node :: siblings.after

/-- A node deep in a tree: the siblings on each level round it, outermost first. -/
def nest (path : List Siblings) (node : Node) : Node :=
  path.foldr (fun siblings inner => (siblings.around inner).toNode) node

variable {node other : Node}

/-- A group sees of a member no more than its conditions. -/
theorem conditions_around (siblings : Siblings) (h : node.conditions = other.conditions) :
    (siblings.around node).toNode.conditions = (siblings.around other).toNode.conditions := by
  apply Node.conditions_group_congr
  simp only [around, Node.conditionsOfMembers_append, Node.conditionsOfMembers, h]

/-- The same holds of a group that has the member some levels further down. -/
theorem conditions_nest (path : List Siblings) (h : node.conditions = other.conditions) :
    (nest path node).conditions = (nest path other).conditions := by
  induction path with
  | nil => exact h
  | cons siblings path ih => exact siblings.conditions_around ih

end Siblings

/-- A tree is compiled by setting the conditions that it has when it is read from left to right.
They are collected in this way whatever has been collected before, in one predicate or in a list.
Putting a group without a connective round a node anywhere in the tree, or round the whole of it,
does not change the predicate. -/
theorem compile_flattens :
    (∀ (node : Node) (p : Predicate) (predicates : List Predicate),
      (Collector.merged p).visit node = .merged (p.insertAll node.conditions) ∧
      (Collector.listed predicates).visit node =
        .listed (predicates ++ node.conditions.map fun entry => .ofList [entry])) ∧
    (∀ group : Group, group.compile = .ofList group.toNode.conditions) ∧
    (∀ (outer : Siblings) (path : List Siblings) (node : Node),
      (outer.around (Siblings.nest path node.parenthesized)).compile =
        (outer.around (Siblings.nest path node)).compile) ∧
    ∀ group : Group, Group.compile ⟨none, [group.toNode]⟩ = group.compile := by
  refine ⟨fun node p predicates => ⟨?_, ?_⟩, Group.compile_eq_ofList, ?_, ?_⟩
  · rw [Collector.visit_eq_addAll, Collector.addAll_merged]
  · rw [Collector.visit_eq_addAll, Collector.addAll_listed]
    rfl
  · intro outer path node
    have hnested := Siblings.conditions_nest path node.conditions_parenthesized
    rw [Group.compile_eq_ofList, Group.compile_eq_ofList, outer.conditions_around hnested]
  · intro group
    have hwhole : Group.toNode ⟨none, [group.toNode]⟩ = group.toNode.parenthesized := rfl
    rw [Group.compile_eq_ofList, Group.compile_eq_ofList, hwhole, Node.conditions_parenthesized]

/-- Two members without a connective, the second in parentheses: the later condition stays. -/
example : Group.compile ⟨none, [.comparison .eq (.property "a") (.literal (.number 1)),
    .group none [.comparison .gt (.property "a") (.literal (.number 2))]]⟩ =
      ⟨[("a", .operator .gt (.number 2))]⟩ := by
  with_unfolding_all rfl

end DocumentFilter
