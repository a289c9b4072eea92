import DocumentFilter.Predicate.Compile
import DocumentFilter.Proofs.Filter.Shape

/-!
# The conditions of a node

The conditions that a node adds are a list that does not depend on what they are added to, whether
they are merged into one predicate or listed in predicates of their own.
-/

namespace DocumentFilter

namespace Node

mutual

/-- The conditions that a node adds, each with its key. -/
def conditions : Node → List (String × Condition)
  | .comparison op left right => [(left.field, op.condition right)]
  | .method name arguments =>
    [((arguments.head?.map Operand.field).getD "", name.condition arguments.tail)]
  | .group none members => conditionsOfMembers members
  | .group (some connective) members =>
    [(connective.key, .logical ((conditionsOfMembers members).map ([·])))]

/-- The conditions that several nodes add. -/
def conditionsOfMembers : List Node → List (String × Condition)
  | [] => []
  | node :: rest => node.conditions ++ conditionsOfMembers rest

end

end Node

namespace Collector

/-- Adds several conditions, one after the other. -/
def addAll (collector : Collector) (entries : List (String × Condition)) : Collector :=
  entries.foldl (fun collected entry => collected.add entry.1 entry.2) collector

theorem addAll_append (collector : Collector) (left right : List (String × Condition)) :
    collector.addAll (left ++ right) = (collector.addAll left).addAll right :=
  List.foldl_append ..

theorem addAll_listed (predicates : List Predicate) (entries : List (String × Condition)) :
    (listed predicates).addAll entries = listed (predicates ++ entries.map fun e => ⟨[e]⟩) := by
  induction entries generalizing predicates with
  | nil => simp [addAll]
  | cons entry entries ih =>
      have hadd : (listed predicates).addAll (entry :: entries) =
          (listed (predicates ++ [⟨[entry]⟩])).addAll entries := rfl
      rw [hadd, ih, List.append_assoc]
      rfl

mutual

/-- A node adds its conditions to whatever has been collected. -/
theorem visit_eq_addAll (collector : Collector) : ∀ node : Node,
    collector.visit node = collector.addAll node.conditions
  | .comparison _ _ _ => by
      simp [visit, Node.conditions, addAll]
  | .method _ _ => by
      simp [visit, Node.conditions, addAll]
  | .group none members => by
      rw [visit, Node.conditions, visitAll_eq_addAll collector members]
  | .group (some connective) members => by
      have hmembers := visitAll_eq_addAll (listed []) members
      rw [addAll_listed, List.nil_append] at hmembers
      simp [visit, hmembers, predicates, Node.conditions, addAll, Function.comp_def]

theorem visitAll_eq_addAll (collector : Collector) : ∀ nodes : List Node,
    collector.visitAll nodes = collector.addAll (Node.conditionsOfMembers nodes)
  | [] => by
      rw [visitAll, Node.conditionsOfMembers]
      rfl
  | node :: rest => by
      rw [visitAll, visit_eq_addAll collector node, visitAll_eq_addAll _ rest,
        Node.conditionsOfMembers, addAll_append]

end

end Collector

/-- A node of the shape that the grammar gives it adds a single condition. -/
theorem Node.WellFormed.conditions_eq_singleton {node : Node} (h : node.WellFormed) :
    ∃ key condition, node.conditions = [(key, condition)] := by
  induction h with
  | comparison _ => exact ⟨_, _, rfl⟩
  | call _ _ => exact ⟨_, _, rfl⟩
  | single _ ih =>
      obtain ⟨key, condition, hconditions⟩ := ih
      refine ⟨key, condition, ?_⟩
      rw [conditions, conditionsOfMembers, hconditions]
      rfl
  | joined _ _ _ => exact ⟨_, _, rfl⟩

/-- The predicate of a tree of that shape has the one condition of the tree and nothing else. -/
theorem Group.entries_compile {group : Group} (h : group.toNode.WellFormed) :
    group.compile.entries = group.toNode.conditions := by
  obtain ⟨key, condition, hconditions⟩ := h.conditions_eq_singleton
  rw [compile, Collector.visit_eq_addAll, hconditions]
  rfl

end DocumentFilter
