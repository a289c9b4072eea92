import DocumentFilter.Filter.Parse
import DocumentFilter.Proofs.Filter.Leaves
import DocumentFilter.Proofs.Predicate.Meaning
import DocumentFilter.Proofs.Token.RoundTrip

/-!
# What the predicate of a filter is made of

The entries of a predicate are looked at on every level.  Those with an operator are the comparisons
and calls of the filter, one for one, under words of the filter that name properties; the others
join two or more objects with a single entry each, so that no entry can take the place of another.
-/

namespace DocumentFilter

namespace Condition

mutual

/-- The entries in a condition on all levels, each before those in its own condition. -/
def entries : Condition → List (String × Condition)
  | operator _ _ => []
  | logical objects => entriesOfObjects objects

/-- The entries of several objects on all levels. -/
def entriesOfObjects : List (List (String × Condition)) → List (String × Condition)
  | [] => []
  | object :: rest => entriesOfObject object ++ entriesOfObjects rest

/-- The entries of an object on all levels. -/
def entriesOfObject : List (String × Condition) → List (String × Condition)
  | [] => []
  | (key, condition) :: rest => (key, condition) :: (condition.entries ++ entriesOfObject rest)

end

mutual

/-- How many connectives are nested in a condition. -/
def nesting : Condition → Nat
  | operator _ _ => 0
  | logical objects => nestingOfObjects objects + 1

/-- How many connectives are nested in several objects. -/
def nestingOfObjects : List (List (String × Condition)) → Nat
  | [] => 0
  | object :: rest => max (nestingOfObject object) (nestingOfObjects rest)

/-- How many connectives are nested in an object. -/
def nestingOfObject : List (String × Condition) → Nat
  | [] => 0
  | (_, condition) :: rest => max condition.nesting (nestingOfObject rest)

end

/-- What a condition with an operator states of the field under whose key it stands. -/
def statement? (key : String) : Condition → Option (String × Operator × Value)
  | operator op value => some (key, op, value)
  | logical _ => none

/-- What an object states of fields, on all levels. -/
def statementsOf (object : List (String × Condition)) : List (String × Operator × Value) :=
  (entriesOfObject object).filterMap fun entry => entry.2.statement? entry.1

end Condition

namespace Predicate

/-- The entries of a predicate on all levels, depth first. -/
def allEntries (predicate : Predicate) : List (String × Condition) :=
  Condition.entriesOfObject predicate.entries

/-- How many connectives are nested in a predicate. -/
def nesting (predicate : Predicate) : Nat := Condition.nestingOfObject predicate.entries

/-- The conditions on fields, depth first. -/
def statements (predicate : Predicate) : List (String × Operator × Value) :=
  Condition.statementsOf predicate.entries

/-- What a predicate has in common with the filter whose tokens and whose tree are given. -/
structure Reflects (predicate : Predicate) (filter : String) (tokens : List Token) (root : Group)
    (maxDepth : Nat) : Prop where
  /-- Only spaces let every document pass. -/
  isEmpty_iff : predicate.isEmpty = true ↔ ∀ c ∈ filter.toList, c = ' '
  /-- Every other filter has a single key. -/
  size_eq_one : predicate.isEmpty = false → predicate.size = 1
  /-- A connective joins at least two objects, and each of them has a single entry. -/
  logical : ∀ key objects, (key, Condition.logical objects) ∈ predicate.allEntries →
    (key = "$and" ∨ key = "$or") ∧ 2 ≤ objects.length ∧ ∀ object ∈ objects, object.length = 1
  /-- A condition on a field stands under a word of the filter, which is neither a literal nor the
  key of a connective. -/
  operator : ∀ key op value, (key, Condition.operator op value) ∈ predicate.allEntries →
    (∃ token ∈ tokens, token.kind = .word ∧ token.text = key) ∧ Grammar.IsProperty key ∧
      (∃ first rest, key.toList = first :: rest ∧ Token.isWordStart first = true) ∧
      key ≠ "$and" ∧ key ≠ "$or"
  /-- The conditions on fields are the comparisons and calls of the tree, one for one. -/
  statements_eq : predicate.statements.map some = root.leaves.map Node.statement?
  /-- The comparisons and calls are in the order of the filter, which has nothing else besides
  parentheses and connectives. -/
  areLeaves : Grammar.AreLeaves (Token.dropSpaces tokens) root.leaves
  /-- Connectives are nested one level deeper than groups may be. -/
  nesting_le : predicate.nesting ≤ maxDepth + 1

end Predicate

/-! ## Entries on all levels -/

namespace Condition

theorem entriesOfObject_append (left right : List (String × Condition)) :
    entriesOfObject (left ++ right) = entriesOfObject left ++ entriesOfObject right := by
  induction left with
  | nil => rfl
  | cons entry rest ih =>
      rw [List.cons_append, entriesOfObject, entriesOfObject, ih, List.cons_append,
        List.append_assoc]

theorem entriesOfObjects_map_singleton (object : List (String × Condition)) :
    entriesOfObjects (object.map ([·])) = entriesOfObject object := by
  induction object with
  | nil => rfl
  | cons entry rest ih =>
      rw [List.map_cons, entriesOfObjects, ih, ← entriesOfObject_append, List.singleton_append]

theorem statementsOf_append (left right : List (String × Condition)) :
    statementsOf (left ++ right) = statementsOf left ++ statementsOf right := by
  rw [statementsOf, entriesOfObject_append, List.filterMap_append]
  rfl

theorem mem_statementsOf {object : List (String × Condition)} {key : String} {op : Operator}
    {value : Value} (h : (key, Condition.operator op value) ∈ entriesOfObject object) :
    (key, op, value) ∈ statementsOf object :=
  List.mem_filterMap.mpr ⟨_, h, rfl⟩

theorem nestingOfObject_append (left right : List (String × Condition)) :
    nestingOfObject (left ++ right) = max (nestingOfObject left) (nestingOfObject right) := by
  induction left with
  | nil => rw [List.nil_append, nestingOfObject, Nat.zero_max]
  | cons entry rest ih =>
      rw [List.cons_append, nestingOfObject, nestingOfObject, ih, Nat.max_assoc]

theorem nestingOfObjects_map_singleton (object : List (String × Condition)) :
    nestingOfObjects (object.map ([·])) = nestingOfObject object := by
  induction object with
  | nil => rfl
  | cons entry rest ih =>
      rw [List.map_cons, nestingOfObjects, ih, ← nestingOfObject_append, List.singleton_append]

end Condition

theorem MethodName.condition_eq_operator (method : MethodName) (operands : List Operand) :
    ∃ op value, method.condition operands = .operator op value := by
  cases method <;> exact ⟨_, _, rfl⟩

namespace Node

open Condition

mutual

/-- A node adds no more nested connectives than groups are nested in it. -/
theorem nestingOfObject_conditions_le : ∀ node : Node,
    nestingOfObject node.conditions ≤ node.depth
  | .comparison _ _ _ => Nat.le_refl 0
  | .method name arguments => by
      obtain ⟨op, value, hcondition⟩ := name.condition_eq_operator arguments.tail
      rw [conditions, hcondition]
      exact Nat.le_refl 0
  | .group none members => by
      rw [conditions]
      exact Nat.le_succ_of_le (nestingOfObject_conditionsOfMembers_le members)
  | .group (some connective) members => by
      rw [conditions, nestingOfObject, nestingOfObject, Nat.max_zero, nesting,
        nestingOfObjects_map_singleton]
      exact Nat.succ_le_succ (nestingOfObject_conditionsOfMembers_le members)

theorem nestingOfObject_conditionsOfMembers_le : ∀ members : List Node,
    nestingOfObject (conditionsOfMembers members) ≤ depthOfMembers members
  | [] => Nat.le_refl 0
  | node :: rest => by
      have hnode := nestingOfObject_conditions_le node
      have hrest := nestingOfObject_conditionsOfMembers_le rest
      rw [conditionsOfMembers, nestingOfObject_append, depthOfMembers]
      omega

end

theorem exists_member_of_mem_entries {members : List Node} {entry : String × Condition}
    (h : entry ∈ entriesOfObject (conditionsOfMembers members)) :
    ∃ node ∈ members, entry ∈ entriesOfObject node.conditions := by
  induction members with
  | nil => cases h
  | cons node rest ih =>
      rw [conditionsOfMembers, entriesOfObject_append] at h
      obtain hnode | hrest := List.mem_append.mp h
      · exact ⟨node, List.mem_cons_self, hnode⟩
      · obtain ⟨other, hother, hentry⟩ := ih hrest
        exact ⟨other, List.mem_cons_of_mem node hother, hentry⟩

theorem length_conditionsOfMembers {members : List Node} (h : ∀ node ∈ members, node.WellFormed) :
    (conditionsOfMembers members).length = members.length := by
  induction members with
  | nil => rfl
  | cons node rest ih =>
      obtain ⟨hnode, hrest⟩ := List.forall_mem_cons.mp h
      obtain ⟨key, condition, hconditions⟩ := hnode.conditions_eq_singleton
      rw [conditionsOfMembers, List.length_append, hconditions, ih hrest, List.length_singleton,
        List.length_cons, Nat.add_comm]

/-- On every level a connective joins two or more objects with a single entry each. -/
theorem WellFormed.logical_of_mem_entries {node : Node} (h : node.WellFormed) {key : String}
    {objects : List (List (String × Condition))}
    (hentry : (key, Condition.logical objects) ∈ entriesOfObject node.conditions) :
    (key = "$and" ∨ key = "$or") ∧ 2 ≤ objects.length ∧
      ∀ object ∈ objects, object.length = 1 := by
  induction h with
  | comparison _ =>
      simp [conditions, entriesOfObject, Condition.entries, ComparisonOp.condition] at hentry
  | @call method name operands _ _ =>
      obtain ⟨op, value, hcondition⟩ := method.condition_eq_operator operands
      simp [conditions, entriesOfObject, Condition.entries, hcondition] at hentry
  | @single node _ ih =>
      rw [conditions, conditionsOfMembers, conditionsOfMembers, List.append_nil] at hentry
      exact ih hentry
  | @joined connective members hlength hmembers ih =>
      rw [conditions, entriesOfObject, entriesOfObject, List.append_nil, Condition.entries,
        entriesOfObjects_map_singleton] at hentry
      obtain hfirst | hinside := List.mem_cons.mp hentry
      · cases hfirst
        refine ⟨by cases connective <;> simp [Connective.key], ?_, ?_⟩
        · rw [List.length_map, length_conditionsOfMembers hmembers]
          exact hlength
        · intro object hobject
          obtain ⟨entry, _, rfl⟩ := List.mem_map.mp hobject
          rfl
      · obtain ⟨member, hmember, hentry⟩ := exists_member_of_mem_entries hinside
        exact ih member hmember hentry

theorem statementsOf_conditionsOfMembers {members : List Node}
    (h : ∀ node ∈ members,
      (statementsOf node.conditions).map some = node.leaves.map statement?) :
    (statementsOf (conditionsOfMembers members)).map some =
      (leavesOfMembers members).map statement? := by
  induction members with
  | nil => rfl
  | cons node rest ih =>
      obtain ⟨hnode, hrest⟩ := List.forall_mem_cons.mp h
      rw [conditionsOfMembers, statementsOf_append, List.map_append, hnode, ih hrest,
        leavesOfMembers, List.map_append]

/-- A node adds what its leaves state, in their order, and no other condition on a field. -/
theorem WellFormed.statementsOf_conditions {node : Node} (h : node.WellFormed) :
    (statementsOf node.conditions).map some = node.leaves.map statement? := by
  induction h with
  | @comparison op name right _ =>
      rw [leaves, List.map_singleton, statement?_comparison, ← Operand.value_eq_denotation]
      rfl
  | @call method name operands _ htakes =>
      obtain ⟨op, value, hstatement, hcondition⟩ := statement?_method name htakes
      rw [leaves, List.map_singleton, hstatement, conditions, List.tail_cons, hcondition]
      rfl
  | @single node _ ih =>
      rw [conditions, leaves]
      exact statementsOf_conditionsOfMembers (List.forall_mem_singleton.mpr ih)
  | @joined connective members _ _ ih =>
      have hinside : statementsOf (conditions (.group (some connective) members)) =
          statementsOf (conditionsOfMembers members) := by
        rw [conditions, statementsOf, entriesOfObject, entriesOfObject, List.append_nil,
          Condition.entries, entriesOfObjects_map_singleton]
        rfl
      rw [hinside, leaves]
      exact statementsOf_conditionsOfMembers ih

end Node

/-! ## Words of the filter -/

/-- A leaf states something of a property that it names with one of its words. -/
theorem Grammar.IsLeaf.exists_word {span : List Token} {node : Node} (h : IsLeaf span node)
    {key : String} {op : Operator} {value : Value}
    (hstatement : node.statement? = some (key, op, value)) :
    IsProperty key ∧ ∃ token ∈ span, token.kind = .word ∧ token.text = key := by
  cases h with
  | @comparison word value' op' right position hword _ hproperty _ _ =>
      rw [Node.statement?_comparison] at hstatement
      cases hstatement
      exact ⟨hproperty, word, by simp, hword, rfl⟩
  | @call method opening property closing further operands position _ _ hword hproperty _ htakes =>
      obtain ⟨op', value', hcall, _⟩ := Node.statement?_method property.text htakes
      rw [hcall] at hstatement
      cases hstatement
      exact ⟨hproperty, property, by simp, hword, rfl⟩

theorem Token.exists_first_of_word {token : Token} (hvalid : token.Valid)
    (hword : token.kind = .word) :
    ∃ first rest, token.text.toList = first :: rest ∧ isWordStart first = true := by
  simp only [Valid, hword] at hvalid
  obtain ⟨first, rest, htext, hfirst, _⟩ := hvalid
  exact ⟨first, rest, htext, hfirst⟩

theorem ne_key_of_isWordStart {key : String} {first : Char} {rest : List Char}
    (hkey : key.toList = first :: rest) (hfirst : Token.isWordStart first = true) :
    key ≠ "$and" ∧ key ≠ "$or" := by
  constructor
  · rintro rfl
    obtain rfl : '$' = first := (List.cons.inj hkey).1
    exact absurd hfirst (by decide)
  · rintro rfl
    obtain rfl : '$' = first := (List.cons.inj hkey).1
    exact absurd hfirst (by decide)

theorem exists_word_of_mem_statements {tokens : List Token} {nodes : List Node}
    {statements : List (String × Operator × Value)}
    (hleaves : Grammar.AreLeaves (Token.dropSpaces tokens) nodes)
    (hstatements : statements.map some = nodes.map Node.statement?) {key : String} {op : Operator}
    {value : Value} (h : (key, op, value) ∈ statements) :
    Grammar.IsProperty key ∧ ∃ token ∈ tokens, token.kind = .word ∧ token.text = key := by
  have hsome := List.mem_map_of_mem (f := some) h
  rw [hstatements] at hsome
  obtain ⟨node, hnode, hstatement⟩ := List.mem_map.mp hsome
  obtain ⟨span, hspan, hsubset⟩ := hleaves.exists_span node hnode
  obtain ⟨hproperty, token, htoken, hword, htext⟩ := hspan.exists_word hstatement
  exact ⟨hproperty, token, List.mem_of_mem_filter (hsubset htoken), hword, htext⟩

theorem reflects_of_blank {filter : String} {tokens : List Token} (maxDepth : Nat)
    (hspaces : ∀ c ∈ filter.toList, c = ' ') (hnone : Token.dropSpaces tokens = []) :
    (Group.compile {}).Reflects filter tokens {} maxDepth := by
  refine ⟨⟨fun _ => hspaces, fun _ => rfl⟩, ?_, ?_, ?_, rfl, ?_, Nat.zero_le _⟩
  · intro hempty
    cases hempty
  · intro key objects hentry
    cases hentry
  · intro key op value hentry
    cases hentry
  · rw [hnone]
    exact .nil

/-- No condition of a filter is lost in its predicate, none is there twice, and none comes from
anywhere else. -/
theorem reflects_of_compile {filter : String} {maxDepth : Nat} {predicate : Predicate}
    (h : compile filter maxDepth = .ok predicate) :
    ∃ tokens root, tokenize filter = .ok tokens ∧ parse filter maxDepth = .ok root ∧
      predicate.Reflects filter tokens root maxDepth := by
  obtain ⟨root, hparse, rfl⟩ := Except.map_eq_ok_iff.mp h
  obtain ⟨tokens, htokens, hroot⟩ := parse_eq_ok_iff.mp hparse
  refine ⟨tokens, root, htokens, hparse, ?_⟩
  have hblank := Token.blank_iff_of_readAll htokens
  rw [← Token.dropSpaces_eq_nil_iff] at hblank
  obtain ⟨hnone, rfl⟩ | ⟨hexpression, hdepth⟩ := isExpression_of_resolve hroot
  · exact reflects_of_blank maxDepth (hblank.mp hnone) hnone
  · have hshape := hexpression.wellFormed
    have hentries := Group.entries_compile hshape
    have hsingle : root.compile.entries.length = 1 := by
      obtain ⟨key, condition, hconditions⟩ := hshape.conditions_eq_singleton
      rw [hentries, hconditions, List.length_singleton]
    have hleaves := hexpression.areLeaves
    have hstatements : root.compile.statements.map some = root.leaves.map Node.statement? := by
      rw [Predicate.statements, hentries]
      exact hshape.statementsOf_conditions
    refine ⟨?_, fun _ => hsingle, ?_, ?_, hstatements, hleaves, ?_⟩
    · rw [← hblank, Predicate.isEmpty, List.isEmpty_iff]
      constructor
      · intro hempty
        rw [hempty] at hsingle
        cases hsingle
      · exact fun hnone => absurd hnone hexpression.ne_nil
    · intro key objects hentry
      rw [Predicate.allEntries, hentries] at hentry
      exact hshape.logical_of_mem_entries hentry
    · intro key op value hentry
      have hmem : (key, op, value) ∈ root.compile.statements := Condition.mem_statementsOf hentry
      obtain ⟨hproperty, token, htoken, hword, rfl⟩ :=
        exists_word_of_mem_statements hleaves hstatements hmem
      have hvalid := Token.valid_of_readAll htokens token htoken
      obtain ⟨first, rest, htext, hfirst⟩ := token.exists_first_of_word hvalid hword
      exact ⟨⟨token, htoken, hword, rfl⟩, hproperty, ⟨first, rest, htext, hfirst⟩,
        ne_key_of_isWordStart htext hfirst⟩
    · rw [Predicate.nesting, hentries]
      exact (Node.nestingOfObject_conditions_le root.toNode).trans (Nat.succ_le_succ hdepth)

/-- Two conditions on one field are both kept. -/
theorem reflects_of_compile_same_field :
    ∃ tokens root, tokenize "a eq b and (a ne c)" = .ok tokens ∧
      parse "a eq b and (a ne c)" 1 = .ok root ∧
      Predicate.Reflects ⟨[("$and", .logical [[("a", .operator .eq (.string "b"))],
        [("a", .operator .ne (.string "c"))]])]⟩ "a eq b and (a ne c)" tokens root 1 := by
  have htext : "a eq b and (a ne c)".toList = ['a', ' ', 'e', 'q', ' ', 'b', ' ', 'a', 'n', 'd',
    ' ', '(', 'a', ' ', 'n', 'e', ' ', 'c', ')'] := by decide
  refine reflects_of_compile ?_
  rw [compile, parse, tokenize, htext]
  with_unfolding_all rfl

end DocumentFilter
