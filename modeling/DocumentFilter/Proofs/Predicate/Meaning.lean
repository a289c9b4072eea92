import DocumentFilter.Proofs.Filter.Shape
import DocumentFilter.Proofs.Predicate.Conditions

/-!
# What filters and predicates mean

Once it is known which conditions hold of a document, a filter's tree has a truth value and so has a
predicate.  The predicate that a tree is compiled to has the truth value of the tree.
-/

namespace DocumentFilter

/-- Which conditions hold: does the field stand in the relation of the operator to the value? -/
abbrev Interpretation := String → Operator → Value → Bool

namespace Operand

/-- The value that an operand denotes beside a property: the null literal none, and a property its
own name. -/
def denotation : Operand → Value
  | literal (.string none) => .null
  | literal (.string (some text)) => .string text
  | literal (.number n) => .number n
  | literal (.boolean b) => .boolean b
  | literal (.date instant) => .date instant
  | property name => .string name

end Operand

namespace Node

/-- The pattern for a text, with what it is anchored by. -/
def pattern (before text after : String) : Value :=
  .string (before ++ String.ofList (Pattern.literal text.toList) ++ after)

/-- The field, the operator and the value of a comparison or a call. -/
def statement? : Node → Option (String × Operator × Value)
  | comparison .eq (.property field) right => some (field, .eq, right.denotation)
  | comparison .ne (.property field) right => some (field, .ne, right.denotation)
  | comparison .lt (.property field) right => some (field, .lt, right.denotation)
  | comparison .le (.property field) right => some (field, .lte, right.denotation)
  | comparison .gt (.property field) right => some (field, .gt, right.denotation)
  | comparison .ge (.property field) right => some (field, .gte, right.denotation)
  | method .isIn (.property field :: values) =>
    some (field, .isIn, .list (values.map Operand.denotation))
  | method .notIn (.property field :: values) =>
    some (field, .notIn, .list (values.map Operand.denotation))
  | method .contains [.property field, .literal (.string (some text))] =>
    some (field, .regex, pattern "" text "")
  | method .startsWith [.property field, .literal (.string (some text))] =>
    some (field, .regex, pattern "^" text "")
  | method .endsWith [.property field, .literal (.string (some text))] =>
    some (field, .regex, pattern "" text "$")
  | _ => none

mutual

/-- The truth of a node.  Without a connective a group has at most one member, for which it
stands. -/
def holds (test : Interpretation) : Node → Bool
  | comparison op left right =>
    (comparison op left right).statement?.any fun (field, op, value) => test field op value
  | method name arguments =>
    (method name arguments).statement?.any fun (field, op, value) => test field op value
  | group none [] => true
  | group none [node] => node.holds test
  | group none (_ :: _ :: _) => false
  | group (some .conjunction) members => allHold test members
  | group (some .disjunction) members => anyHolds test members

/-- All of the nodes are true. -/
def allHold (test : Interpretation) : List Node → Bool
  | [] => true
  | node :: rest => node.holds test && allHold test rest

/-- One of the nodes is true. -/
def anyHolds (test : Interpretation) : List Node → Bool
  | [] => false
  | node :: rest => node.holds test || anyHolds test rest

end

end Node

/-- The truth of a tree. -/
def Group.holds (test : Interpretation) (group : Group) : Bool := group.toNode.holds test

namespace Condition

mutual

/-- The truth of a condition under a key. -/
def holds (test : Interpretation) (key : String) : Condition → Bool
  | operator op value => test key op value
  | logical predicates =>
    if key = "$and" then allHold test predicates
    else if key = "$or" then anyHolds test predicates
    else false

/-- All conditions of a predicate are true. -/
def entriesHold (test : Interpretation) : List (String × Condition) → Bool
  | [] => true
  | (key, condition) :: rest => condition.holds test key && entriesHold test rest

/-- All of the predicates are true. -/
def allHold (test : Interpretation) : List (List (String × Condition)) → Bool
  | [] => true
  | entries :: rest => entriesHold test entries && allHold test rest

/-- One of the predicates is true. -/
def anyHolds (test : Interpretation) : List (List (String × Condition)) → Bool
  | [] => false
  | entries :: rest => entriesHold test entries || anyHolds test rest

end

end Condition

/-- The truth of a predicate. -/
def Predicate.holds (test : Interpretation) (predicate : Predicate) : Bool :=
  Condition.entriesHold test predicate.entries

namespace Operand

theorem value_eq_denotation (operand : Operand) : operand.value = operand.denotation := by
  match operand with
  | property _ => rfl
  | literal (.string none) => rfl
  | literal (.string (some _)) => rfl
  | literal (.number _) => rfl
  | literal (.boolean _) => rfl
  | literal (.date _) => rfl

end Operand

namespace Node

theorem statement?_comparison (op : ComparisonOp) (name : String) (right : Operand) :
    (comparison op (.property name) right).statement? =
      some (name, op.operator, right.denotation) := by
  cases op <;> rfl

/-- A call with arguments that its method takes states what it is compiled to. -/
theorem statement?_method {method : MethodName} {operands : List Operand} (name : String)
    (htakes : Grammar.TakesArguments method operands) :
    ∃ op value, (Node.method method (.property name :: operands)).statement? =
      some (name, op, value) ∧ method.condition operands = .operator op value := by
  have hvalues : operands.map Operand.value = operands.map Operand.denotation :=
    List.map_congr_left fun operand _ => operand.value_eq_denotation
  cases method with
  | contains =>
      obtain ⟨text, rfl⟩ := htakes (by simp)
      refine ⟨_, _, rfl, ?_⟩
      simp [MethodName.condition, Operand.patternText, Pattern.containing, pattern]
  | startsWith =>
      obtain ⟨text, rfl⟩ := htakes (by simp)
      refine ⟨_, _, rfl, ?_⟩
      simp [MethodName.condition, Operand.patternText, Pattern.startingWith, pattern]
  | endsWith =>
      obtain ⟨text, rfl⟩ := htakes (by simp)
      refine ⟨_, _, rfl, ?_⟩
      simp [MethodName.condition, Operand.patternText, Pattern.endingWith, pattern]
  | isIn => exact ⟨_, _, rfl, by rw [MethodName.condition, hvalues]⟩
  | notIn => exact ⟨_, _, rfl, by rw [MethodName.condition, hvalues]⟩

/-- The node adds a single condition, and has its truth value. -/
def AddsItsTruth (test : Interpretation) (node : Node) : Prop :=
  ∃ key condition, node.conditions = [(key, condition)] ∧
    condition.holds test key = node.holds test

variable {test : Interpretation}

theorem allHold_conditionsOfMembers {members : List Node}
    (h : ∀ node ∈ members, node.AddsItsTruth test) :
    Condition.allHold test ((conditionsOfMembers members).map ([·])) = allHold test members := by
  induction members with
  | nil => rfl
  | cons node rest ih =>
      obtain ⟨hnode, hrest⟩ := List.forall_mem_cons.mp h
      obtain ⟨key, condition, hconditions, htruth⟩ := hnode
      simp [conditionsOfMembers, hconditions, Condition.allHold, Condition.entriesHold, allHold,
        htruth, ih hrest]

theorem anyHolds_conditionsOfMembers {members : List Node}
    (h : ∀ node ∈ members, node.AddsItsTruth test) :
    Condition.anyHolds test ((conditionsOfMembers members).map ([·])) = anyHolds test members := by
  induction members with
  | nil => rfl
  | cons node rest ih =>
      obtain ⟨hnode, hrest⟩ := List.forall_mem_cons.mp h
      obtain ⟨key, condition, hconditions, htruth⟩ := hnode
      simp [conditionsOfMembers, hconditions, Condition.anyHolds, Condition.entriesHold, anyHolds,
        htruth, ih hrest]

theorem WellFormed.addsItsTruth {node : Node} (h : node.WellFormed) (test : Interpretation) :
    node.AddsItsTruth test := by
  induction h with
  | @comparison op name right _ =>
      refine ⟨name, op.condition right, rfl, ?_⟩
      rw [holds, statement?_comparison, ComparisonOp.condition, Operand.value_eq_denotation,
        Condition.holds, Option.any_some]
  | @call method name operands _ htakes =>
      obtain ⟨op, value, hstatement, hcondition⟩ := statement?_method name htakes
      refine ⟨name, method.condition operands, rfl, ?_⟩
      rw [holds, hstatement, hcondition, Condition.holds, Option.any_some]
  | @single node _ ih =>
      obtain ⟨key, condition, hconditions, htruth⟩ := ih
      refine ⟨key, condition, ?_, ?_⟩
      · rw [conditions, conditionsOfMembers, hconditions]
        rfl
      · rw [htruth, holds]
  | @joined connective members _ _ ih =>
      refine ⟨connective.key, _, rfl, ?_⟩
      cases connective with
      | conjunction =>
          rw [Condition.holds, Connective.key, if_pos rfl, allHold_conditionsOfMembers ih, holds]
      | disjunction =>
          rw [Condition.holds, Connective.key, if_neg (by decide), if_pos rfl,
            anyHolds_conditionsOfMembers ih, holds]

end Node

/-- The predicate of a tree that has been read is true just where the tree is. -/
theorem holds_compile {tokens : List Token} {maxDepth : Nat} {root : Group}
    (h : resolve tokens maxDepth = .ok root) (test : Interpretation) :
    root.compile.holds test = root.holds test := by
  obtain rfl | hshape := wellFormed_of_resolve h
  · rfl
  · obtain ⟨key, condition, hconditions, htruth⟩ := hshape.addsItsTruth test
    have hcompile : root.compile = ⟨[(key, condition)]⟩ := by
      rw [Group.compile, Collector.visit_eq_addAll, hconditions]
      rfl
    rw [hcompile, Predicate.holds, Condition.entriesHold, Condition.entriesHold, Bool.and_true,
      htruth, Group.holds]

/-- The filter `(a ne null) or startswith(b,'x')` of a document of which only conditions on `b`
hold. -/
theorem holds_compile_disjunction :
    ∃ root, resolve [⟨.openParen, "(", 0⟩, ⟨.word, "a", 1⟩, ⟨.word, "ne", 3⟩, ⟨.word, "null", 6⟩,
        ⟨.closeParen, ")", 10⟩, ⟨.word, "or", 12⟩, ⟨.word, "startswith", 15⟩,
        ⟨.openParen, "(", 25⟩, ⟨.word, "b", 26⟩, ⟨.symbol, ",", 27⟩, ⟨.string, "x", 28⟩,
        ⟨.closeParen, ")", 31⟩] 1 = .ok root ∧
      root.compile.holds (fun field _ _ => field = "b") =
        root.holds (fun field _ _ => field = "b") := by
  refine Exists.imp (fun root hread => ⟨hread, holds_compile hread _⟩) ?_
  refine ⟨⟨some .disjunction, [.group none [.comparison .ne (.property "a")
    (.literal (.string none))], .method .startsWith [.property "b",
      .literal (.string (some "x"))]]⟩, ?_⟩
  with_unfolding_all rfl

end DocumentFilter
