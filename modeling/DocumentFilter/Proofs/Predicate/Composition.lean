import DocumentFilter.Proofs.Filter.Composition
import DocumentFilter.Proofs.Predicate.Conditions

/-!
# Predicates of joined filters

The predicate of joined filters lists the predicates that the filters have alone.  A condition is
the same whether it is collected in a list or in a predicate, so nothing is lost when a filter
becomes part of another one.
-/

namespace DocumentFilter

/-- The predicate of several predicates: the predicate itself, or a connective over all of them. -/
def Predicate.join (connective : Connective) : List Predicate → Predicate
  | [predicate] => predicate
  | predicates => ⟨[(connective.key, .logical (predicates.map Predicate.entries))]⟩

theorem map_singleton_conditionsOfMembers {groups : List Group}
    (h : ∀ group ∈ groups, group.toNode.WellFormed) :
    (Node.conditionsOfMembers (groups.map Group.toNode)).map ([·]) =
      (groups.map Group.compile).map Predicate.entries := by
  induction groups with
  | nil => rfl
  | cons group rest ih =>
      obtain ⟨hgroup, hrest⟩ := List.forall_mem_cons.mp h
      obtain ⟨key, condition, hconditions⟩ := hgroup.conditions_eq_singleton
      rw [List.map_cons, Node.conditionsOfMembers, List.map_append, ih hrest, List.map_cons,
        List.map_cons, Group.entries_compile hgroup, hconditions]
      rfl

/-- Joining trees and joining their predicates is the same. -/
theorem compile_join (connective : Connective) {groups : List Group}
    (h : ∀ group ∈ groups, group.toNode.WellFormed) :
    (Group.join connective (groups.map Group.toNode)).compile =
      .join connective (groups.map Group.compile) := by
  have hlisted : Group.compile ⟨some connective, groups.map Group.toNode⟩ =
      ⟨[(connective.key, .logical ((groups.map Group.compile).map Predicate.entries))]⟩ := by
    rw [Group.compile, Collector.visit_eq_addAll, Group.toNode, Node.conditions,
      map_singleton_conditionsOfMembers h]
    rfl
  cases groups with
  | nil => exact hlisted
  | cons first rest =>
      cases rest with
      | nil => rfl
      | cons second rest => exact hlisted

/-- Filters are joined as strings are.  If the trees of all of them leave room for one more group,
the predicate of the whole lists the predicates of the parts; parentheses round a single filter
change nothing.  If one of them leaves no room, the whole is too deep. -/
theorem compile_joinFilters (connective : Connective) {maxDepth : Nat} {filters : List String}
    {tree : String → Group} {predicate : String → Predicate} (hfilters : filters ≠ [])
    (hparts : ∀ filter ∈ filters, (∃ c ∈ filter.toList, c ≠ ' ') ∧
      parse filter maxDepth = .ok (tree filter) ∧
      compile filter maxDepth = .ok (predicate filter)) :
    (∀ filter ∈ filters, (tree filter).depth ≤ maxDepth + 1) ∧
    ((∀ filter ∈ filters, (tree filter).depth ≤ maxDepth) →
      compile (joinFilters connective filters) maxDepth =
        .ok (.join connective (filters.map predicate))) ∧
    ((∃ filter ∈ filters, (tree filter).depth = maxDepth + 1) →
      ∃ position, compile (joinFilters connective filters) maxDepth =
        .error (.parse (.nestingTooDeep maxDepth position))) := by
  have hread : ∀ filter ∈ filters,
      (∃ c ∈ filter.toList, c ≠ ' ') ∧ parse filter maxDepth = .ok (tree filter) :=
    fun filter hfilter => ⟨(hparts filter hfilter).1, (hparts filter hfilter).2.1⟩
  have hpredicates : filters.map predicate = (filters.map tree).map Group.compile := by
    rw [List.map_map]
    refine List.map_congr_left fun filter hfilter => ?_
    obtain ⟨_, hparse, hcompile⟩ := hparts filter hfilter
    rw [compile, hparse] at hcompile
    exact (Except.ok.inj hcompile).symm
  refine ⟨fun filter hfilter => ?_, fun hdepth => ?_, fun hdepth => ?_⟩
  · obtain ⟨hspace, hparse⟩ := hread filter hfilter
    obtain ⟨_, _, hmembers, _⟩ := isExpression_of_parse hspace hparse
    exact Nat.succ_le_succ hmembers
  · have hshapes : ∀ group ∈ filters.map tree, group.toNode.WellFormed := by
      intro group hgroup
      obtain ⟨filter, hfilter, rfl⟩ := List.mem_map.mp hgroup
      obtain ⟨hspace, hparse⟩ := hread filter hfilter
      obtain ⟨_, _, _, hexpression⟩ := isExpression_of_parse hspace hparse
      exact (hexpression 0).wellFormed
    have hjoined := compile_join connective hshapes
    rw [List.map_map] at hjoined
    rw [compile, parse_joinFilters connective hfilters hread hdepth, hpredicates, ← hjoined]
    rfl
  · obtain ⟨filter, hfilter, hlimit⟩ := hdepth
    have hdeep : ∃ filter ∈ filters, maxDepth < (tree filter).depth :=
      ⟨filter, hfilter, by omega⟩
    obtain ⟨position, hfault⟩ :=
      parse_joinFilters_of_tooDeep connective hfilters hread hdeep
    exact ⟨position, by rw [compile, hfault]; rfl⟩

/-- A disjunction keeps its own list when it becomes part of a conjunction. -/
theorem compile_joinFilters_disjunction :
    compile "(a eq b) and (c eq d or e eq f)" 1 = .ok ⟨[("$and", .logical
      [[("a", .operator .eq (.string "b"))],
        [("$or", .logical [[("c", .operator .eq (.string "d"))],
          [("e", .operator .eq (.string "f"))]])]])]⟩ := by
  let equal (name value : String) : Node := .comparison .eq (.property name) (.property value)
  let tree (filter : String) : Group :=
    if filter = "a eq b" then ⟨none, [equal "a" "b"]⟩
    else ⟨some .disjunction, [equal "c" "d", equal "e" "f"]⟩
  have hfirst : parse "a eq b" 1 = .ok (tree "a eq b") := by
    have htext : "a eq b".toList = ['a', ' ', 'e', 'q', ' ', 'b'] := by decide
    rw [parse, tokenize, htext]
    with_unfolding_all rfl
  have hsecond : parse "c eq d or e eq f" 1 = .ok (tree "c eq d or e eq f") := by
    have htext : "c eq d or e eq f".toList = ['c', ' ', 'e', 'q', ' ', 'd', ' ', 'o', 'r', ' ',
      'e', ' ', 'e', 'q', ' ', 'f'] := by decide
    rw [parse, tokenize, htext]
    with_unfolding_all rfl
  have hparts : ∀ filter ∈ ["a eq b", "c eq d or e eq f"], (∃ c ∈ filter.toList, c ≠ ' ') ∧
      parse filter 1 = .ok (tree filter) ∧ compile filter 1 = .ok (tree filter).compile := by
    simp only [List.forall_mem_cons, List.not_mem_nil, false_imp_iff, implies_true, and_true]
    exact ⟨⟨⟨'a', by decide, by decide⟩, hfirst, by rw [compile, hfirst]; rfl⟩,
      ⟨⟨'c', by decide, by decide⟩, hsecond, by rw [compile, hsecond]; rfl⟩⟩
  obtain ⟨_, hjoined, _⟩ := compile_joinFilters .conjunction (by simp) hparts
  have hdepth : ∀ filter ∈ ["a eq b", "c eq d or e eq f"], (tree filter).depth ≤ 1 := by
    decide
  exact hjoined hdepth

end DocumentFilter
