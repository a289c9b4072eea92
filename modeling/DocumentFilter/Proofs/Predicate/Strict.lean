import DocumentFilter.Predicate.Compile
import DocumentFilter.Proofs.Filter.Leaves
import DocumentFilter.Proofs.Filter.Shape

/-!
# Compiling without fallbacks

Where a tree lacks a part, the compiler falls back on something else: on the text of a literal for a
field, on the empty field for a call without arguments, and on the empty text for a pattern.  A
strict compiler gives up there instead.  It succeeds on just the trees whose leaves are complete, and
then gives the same predicate; the trees that are read are among them.
-/

namespace DocumentFilter

namespace Operand

/-- The field that an operand names; a literal names none. -/
def field? : Operand → Option String
  | property name => some name
  | literal _ => none

/-- The text that a pattern is made from, if the operand is one. -/
def patternText? : Operand → Option String
  | literal (.string (some text)) => some text
  | _ => none

end Operand

namespace MethodName

/-- The condition of a method call, unless a pattern is to be made and there is no text for it. -/
def condition? (method : MethodName) (operands : List Operand) : Option Condition :=
  let text? := operands.head?.bind Operand.patternText?
  match method with
  | isIn => some (.operator .isIn (.list (operands.map Operand.value)))
  | notIn => some (.operator .notIn (.list (operands.map Operand.value)))
  | contains => text?.map fun text => .operator .regex (.string (Pattern.containing text))
  | startsWith => text?.map fun text => .operator .regex (.string (Pattern.startingWith text))
  | endsWith => text?.map fun text => .operator .regex (.string (Pattern.endingWith text))

/-- A method that looks into a text has one after the property. -/
def HasText (method : MethodName) (operands : List Operand) : Prop :=
  method.arity?.isSome → ∃ text others, operands = .literal (.string (some text)) :: others

end MethodName

namespace Collector

mutual

/-- Collects the conditions of a node, unless a part of it is missing. -/
def visit? (collector : Collector) : Node → Option Collector
  | .comparison op left right =>
    left.field?.map fun field => collector.add field (op.condition right)
  | .method name arguments =>
    (arguments.head?.bind Operand.field?).bind fun field =>
      (name.condition? arguments.tail).map fun condition => collector.add field condition
  | .group none members => collector.visitAll? members
  | .group (some connective) members =>
    ((listed []).visitAll? members).map fun inside =>
      collector.add connective.key (.logical (inside.predicates.map Predicate.entries))

/-- Collects the conditions of several nodes, unless a part of one of them is missing. -/
def visitAll? (collector : Collector) : List Node → Option Collector
  | [] => some collector
  | node :: rest => (collector.visit? node).bind fun collected => collected.visitAll? rest

end

end Collector

/-- The predicate of a filter's tree, unless a part of the tree is missing. -/
def Group.compile? (group : Group) : Option Predicate :=
  ((Collector.merged {}).visit? group.toNode).map Collector.predicate

/-- A comparison or a call with all the parts that its condition is made from. -/
inductive Node.Complete : Node → Prop
  | comparison {op : ComparisonOp} {name : String} {right : Operand} :
      Complete (.comparison op (.property name) right)
  | call {method : MethodName} {name : String} {operands : List Operand} :
      method.HasText operands → Complete (.method method (.property name :: operands))

/-- What a tree has that is compiled without a fallback, and how it is compiled. -/
structure Group.CompilesStrictly (root : Group) (tokens : List Token) : Prop where
  /-- Only an expression of spaces has no member. -/
  members_eq_nil_iff : root.members = [] ↔ ∀ token ∈ tokens, token.kind = .whitespace
  /-- A group in parentheses has a member. -/
  members_ne_nil : ∀ group ∈ Node.groupsOfMembers root.members, group.members ≠ []
  /-- There is a connective if there is something to join. -/
  connective_eq_none_iff : ∀ group ∈ root.toNode.groups,
    group.connective = none ↔ group.members.length ≤ 1
  /-- A comparison has a property on its left. -/
  comparison : ∀ op left right, Node.comparison op left right ∈ root.leaves →
    ∃ name, left = .property name ∧ Grammar.IsProperty name
  /-- A call has a property for its first argument, and then just a text if the method looks into
  one. -/
  call : ∀ method arguments, Node.method method arguments ∈ root.leaves →
    ∃ name operands, arguments = .property name :: operands ∧ Grammar.IsProperty name ∧
      (method = .contains ∨ method = .startsWith ∨ method = .endsWith →
        ∃ text, operands = [.literal (.string (some text))])
  /-- No part is missing. -/
  compile?_eq : root.compile? = some root.compile

/-! ## The trees on which the strict compiler succeeds -/

namespace Operand

theorem field?_eq_some_iff {operand : Operand} {name : String} :
    operand.field? = some name ↔ operand = .property name := by
  cases operand <;> simp [field?]

theorem patternText?_eq_some_iff {operand : Operand} {text : String} :
    operand.patternText? = some text ↔ operand = .literal (.string (some text)) := by
  unfold patternText?
  split <;> simp_all

end Operand

namespace MethodName

theorem hasText_iff_of_isSome {method : MethodName} {operands : List Operand}
    (h : method.arity?.isSome) :
    method.HasText operands ↔
      ∃ text others, operands = .literal (.string (some text)) :: others :=
  ⟨fun htext => htext h, fun htext _ => htext⟩

theorem map_patternText?_eq_some_iff {operands : List Operand} {pattern : String → Condition}
    {condition : Condition} :
    (operands.head?.bind Operand.patternText?).map pattern = some condition ↔
      (∃ text others, operands = .literal (.string (some text)) :: others) ∧
        pattern ((operands.head?.map Operand.patternText).getD "") = condition := by
  constructor
  · intro h
    obtain ⟨text, htext, rfl⟩ := Option.map_eq_some_iff.mp h
    obtain ⟨first, hhead, hfirst⟩ := Option.bind_eq_some_iff.mp htext
    obtain ⟨others, rfl⟩ := List.head?_eq_some_iff.mp hhead
    obtain rfl := Operand.patternText?_eq_some_iff.mp hfirst
    exact ⟨⟨text, others, rfl⟩, rfl⟩
  · rintro ⟨⟨text, others, rfl⟩, rfl⟩
    rfl

theorem condition?_eq_some_iff {method : MethodName} {operands : List Operand}
    {condition : Condition} :
    method.condition? operands = some condition ↔
      method.HasText operands ∧ method.condition operands = condition := by
  cases method with
  | contains =>
      rw [hasText_iff_of_isSome rfl]
      exact map_patternText?_eq_some_iff
  | startsWith =>
      rw [hasText_iff_of_isSome rfl]
      exact map_patternText?_eq_some_iff
  | endsWith =>
      rw [hasText_iff_of_isSome rfl]
      exact map_patternText?_eq_some_iff
  | isIn => simp [HasText, arity?, condition?, MethodName.condition]
  | notIn => simp [HasText, arity?, condition?, MethodName.condition]

end MethodName

namespace Collector

open Node

mutual

/-- The strict compiler succeeds on a node just where its leaves are complete, and then collects
what the compiler collects. -/
theorem visit?_eq_some_iff (collector result : Collector) : ∀ node : Node,
    collector.visit? node = some result ↔
      (∀ leaf ∈ node.leaves, leaf.Complete) ∧ collector.visit node = result
  | .comparison op left right => by
      rw [visit?, Option.map_eq_some_iff, leaves, List.forall_mem_singleton]
      constructor
      · rintro ⟨name, hleft, rfl⟩
        obtain rfl := Operand.field?_eq_some_iff.mp hleft
        exact ⟨.comparison, rfl⟩
      · rintro ⟨hcomplete, rfl⟩
        cases hcomplete
        exact ⟨_, rfl, rfl⟩
  | .method name arguments => by
      rw [visit?, Option.bind_eq_some_iff, leaves, List.forall_mem_singleton]
      constructor
      · rintro ⟨field, hfirst, hcondition⟩
        obtain ⟨first, hhead, hfield⟩ := Option.bind_eq_some_iff.mp hfirst
        obtain ⟨operands, rfl⟩ := List.head?_eq_some_iff.mp hhead
        obtain rfl := Operand.field?_eq_some_iff.mp hfield
        obtain ⟨condition, hstrict, rfl⟩ := Option.map_eq_some_iff.mp hcondition
        obtain ⟨htext, rfl⟩ := MethodName.condition?_eq_some_iff.mp hstrict
        exact ⟨.call htext, rfl⟩
      · rintro ⟨hcomplete, rfl⟩
        cases hcomplete with
        | call htext =>
            have hstrict := MethodName.condition?_eq_some_iff.mpr ⟨htext, rfl⟩
            exact ⟨_, rfl, by rw [List.tail_cons, hstrict]; rfl⟩
  | .group none members => by
      rw [visit?, leaves, visit]
      exact visitAll?_eq_some_iff collector result members
  | .group (some connective) members => by
      rw [visit?, Option.map_eq_some_iff, leaves, visit]
      simp only [visitAll?_eq_some_iff _ _ members]
      constructor
      · rintro ⟨inside, ⟨hcomplete, rfl⟩, rfl⟩
        exact ⟨hcomplete, rfl⟩
      · rintro ⟨hcomplete, rfl⟩
        exact ⟨_, ⟨hcomplete, rfl⟩, rfl⟩

theorem visitAll?_eq_some_iff (collector result : Collector) : ∀ nodes : List Node,
    collector.visitAll? nodes = some result ↔
      (∀ leaf ∈ leavesOfMembers nodes, leaf.Complete) ∧ collector.visitAll nodes = result
  | [] => by simp [visitAll?, leavesOfMembers, visitAll]
  | node :: rest => by
      rw [visitAll?, Option.bind_eq_some_iff, leavesOfMembers, List.forall_mem_append, visitAll]
      constructor
      · rintro ⟨collected, hnode, hrest⟩
        obtain ⟨hcomplete, rfl⟩ := (visit?_eq_some_iff collector collected node).mp hnode
        obtain ⟨hothers, hresult⟩ := (visitAll?_eq_some_iff _ result rest).mp hrest
        exact ⟨⟨hcomplete, hothers⟩, hresult⟩
      · rintro ⟨⟨hcomplete, hothers⟩, hresult⟩
        have hnode := (visit?_eq_some_iff collector _ node).mpr ⟨hcomplete, rfl⟩
        exact ⟨_, hnode, (visitAll?_eq_some_iff _ result rest).mpr ⟨hothers, hresult⟩⟩

end

end Collector

/-- The strict compiler succeeds on the trees with complete leaves, and gives what the compiler
gives. -/
theorem Group.compile?_eq_some_iff {group : Group} {predicate : Predicate} :
    group.compile? = some predicate ↔
      (∀ leaf ∈ group.leaves, leaf.Complete) ∧ group.compile = predicate := by
  have hvisit := fun result => Collector.visit?_eq_some_iff (.merged {}) result group.toNode
  have hleaves : group.toNode.leaves = group.leaves := rfl
  rw [compile?, Option.map_eq_some_iff, compile]
  simp only [hvisit, hleaves]
  constructor
  · rintro ⟨result, ⟨hcomplete, rfl⟩, rfl⟩
    exact ⟨hcomplete, rfl⟩
  · rintro ⟨hcomplete, rfl⟩
    exact ⟨_, ⟨hcomplete, rfl⟩, rfl⟩

/-- A call without arguments has a predicate only because of the fallbacks. -/
example : Group.compile? ⟨none, [.method .contains []]⟩ = none := by with_unfolding_all rfl

/-! ## The parts of a tree that is read -/

namespace Node

theorem mem_groupsOfMembers {group : Group} {nodes : List Node} :
    group ∈ groupsOfMembers nodes ↔ ∃ node ∈ nodes, group ∈ node.groups := by
  induction nodes with
  | nil => simp [groupsOfMembers]
  | cons node rest ih => simp [groupsOfMembers, ih]

theorem mem_leavesOfMembers {leaf : Node} {nodes : List Node} :
    leaf ∈ leavesOfMembers nodes ↔ ∃ node ∈ nodes, leaf ∈ node.leaves := by
  induction nodes with
  | nil => simp [leavesOfMembers]
  | cons node rest ih => simp [leavesOfMembers, ih]

namespace WellFormed

theorem of_mem_groups {node : Node} (h : node.WellFormed) {group : Group}
    (hgroup : group ∈ node.groups) : group.toNode.WellFormed := by
  induction h with
  | comparison => cases hgroup
  | call => cases hgroup
  | @single inner hinner ih =>
      obtain rfl | hinside := List.mem_cons.mp hgroup
      · exact .single hinner
      · obtain ⟨member, hmember, hfound⟩ := mem_groupsOfMembers.mp hinside
        obtain rfl := List.mem_singleton.mp hmember
        exact ih hfound
  | @joined connective members hlength hmembers ih =>
      obtain rfl | hinside := List.mem_cons.mp hgroup
      · exact .joined hlength hmembers
      · obtain ⟨member, hmember, hfound⟩ := mem_groupsOfMembers.mp hinside
        exact ih member hmember hfound

theorem of_mem_leaves {node : Node} (h : node.WellFormed) {leaf : Node}
    (hleaf : leaf ∈ node.leaves) : leaf.WellFormed ∧ leaf.Complete := by
  induction h with
  | @comparison op name right hname =>
      obtain rfl := List.mem_singleton.mp hleaf
      exact ⟨.comparison hname, .comparison⟩
  | @call method name operands hname htakes =>
      obtain rfl := List.mem_singleton.mp hleaf
      refine ⟨.call hname htakes, .call fun harity => ?_⟩
      obtain ⟨text, rfl⟩ := htakes (by cases method <;> simp [MethodName.arity?] at harity ⊢)
      exact ⟨text, [], rfl⟩
  | @single inner hinner ih =>
      obtain ⟨member, hmember, hfound⟩ := mem_leavesOfMembers.mp hleaf
      obtain rfl := List.mem_singleton.mp hmember
      exact ih hfound
  | @joined connective members hlength hmembers ih =>
      obtain ⟨member, hmember, hfound⟩ := mem_leavesOfMembers.mp hleaf
      exact ih member hmember hfound

/-- A well-formed group has a member, and a connective if there are more. -/
theorem members_and_connective {group : Group} (h : group.toNode.WellFormed) :
    group.members ≠ [] ∧ (group.connective = none ↔ group.members.length ≤ 1) := by
  obtain ⟨_, members⟩ := group
  cases h with
  | single => simp
  | joined hlength =>
      have hmember : members ≠ [] := List.ne_nil_of_length_pos (Nat.lt_of_succ_lt hlength)
      exact ⟨hmember, iff_of_false (Option.some_ne_none _) (Nat.not_le.mpr hlength)⟩

end WellFormed
end Node

/-- Every tree that is read is compiled without a fallback: it has all the parts that the compiler
asks for. -/
theorem compilesStrictly_of_resolve {tokens : List Token} {maxDepth : Nat} {root : Group}
    (h : resolve tokens maxDepth = .ok root) : root.CompilesStrictly tokens := by
  rcases isExpression_of_resolve h with ⟨hblank, rfl⟩ | ⟨hexpression, _⟩
  · have hspaces := Token.dropSpaces_eq_nil_iff.mp hblank
    refine ⟨iff_of_true rfl hspaces, ?_, ?_, ?_, ?_, rfl⟩
    · intro group hgroup
      cases hgroup
    · intro group hgroup
      obtain rfl := List.mem_singleton.mp hgroup
      simp
    · intro op left right hleaf
      cases hleaf
    · intro method arguments hleaf
      cases hleaf
  · have hshape := hexpression.wellFormed
    have hgroups : ∀ group ∈ root.toNode.groups, group.members ≠ [] ∧
        (group.connective = none ↔ group.members.length ≤ 1) := fun group hgroup =>
      (hshape.of_mem_groups hgroup).members_and_connective
    have hspaces : ¬ ∀ token ∈ tokens, token.kind = .whitespace := fun hspaces =>
      hexpression.ne_nil (Token.dropSpaces_eq_nil_iff.mpr hspaces)
    refine ⟨?_, ?_, ?_, ?_, ?_, ?_⟩
    · exact iff_of_false (hgroups root List.mem_cons_self).1 hspaces
    · exact fun group hgroup => (hgroups group (List.mem_cons_of_mem _ hgroup)).1
    · exact fun group hgroup => (hgroups group hgroup).2
    · intro op left right hleaf
      cases (hshape.of_mem_leaves hleaf).1 with
      | comparison hname => exact ⟨_, rfl, hname⟩
    · intro method arguments hleaf
      cases (hshape.of_mem_leaves hleaf).1 with
      | call hname htakes => exact ⟨_, _, rfl, hname, htakes⟩
    · exact Group.compile?_eq_some_iff.mpr ⟨fun leaf hleaf => (hshape.of_mem_leaves hleaf).2, rfl⟩

/-- The filter `(contains(a,'') and b eq null) or in(c)`, whose pattern is made from the empty text
that is also what the compiler falls back on. -/
theorem compilesStrictly_of_resolve_empty_text :
    ∃ tokens root, tokens = [⟨.openParen, "(", 0⟩, ⟨.word, "contains", 1⟩, ⟨.openParen, "(", 9⟩,
        ⟨.word, "a", 10⟩, ⟨.symbol, ",", 11⟩, ⟨.string, "", 12⟩, ⟨.closeParen, ")", 14⟩,
        ⟨.word, "and", 16⟩, ⟨.word, "b", 20⟩, ⟨.word, "eq", 22⟩, ⟨.word, "null", 25⟩,
        ⟨.closeParen, ")", 29⟩, ⟨.word, "or", 31⟩, ⟨.word, "in", 34⟩, ⟨.openParen, "(", 36⟩,
        ⟨.word, "c", 37⟩, ⟨.closeParen, ")", 38⟩] ∧
      resolve tokens 1 = .ok root ∧ root.CompilesStrictly tokens := by
  refine ⟨_, ⟨some .disjunction, [.group (some .conjunction) [.method .contains [.property "a",
    .literal (.string (some ""))], .comparison .eq (.property "b") (.literal (.string none))],
    .method .isIn [.property "c"]]⟩, rfl, ?_⟩
  refine (and_iff_left_of_imp compilesStrictly_of_resolve).mpr ?_
  with_unfolding_all rfl

end DocumentFilter
