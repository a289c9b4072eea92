import Mathlib.Data.List.TakeWhile
import DocumentFilter.Predicate.Compile
import DocumentFilter.Proofs.Filter.Depth
import DocumentFilter.Proofs.Filter.Nesting

/-!
# The limit for the depth of groups

A limit for the depth of groups does nothing but stop at the first group that is deeper.  To say
this, groups are put together without a limit: a limit then cuts off all from the first group on
that is too deep.  As a group is one deeper than the deepest group in it, the first group beyond a
limit is beyond it by one.
-/

namespace DocumentFilter

namespace Scan

theorem opening_of_run {scan : Scan} {stage : Stage} {items : List Item} {e : Enclosure}
    (hopening : ∀ opening ∈ scan.opening?, opening.kind = .openParen)
    (h : scan.run stage items = .ok (some e)) : e.opening.kind = .openParen := by
  fun_induction run scan stage items with
  | case1 => cases h
  | case2 => cases h
  | case3 => cases h
  | case4 scan item rest _ ih => exact ih hopening h
  | case5 scan item rest _ _ ih => exact ih hopening h
  | case6 => cases h
  | case7 scan item rest ih => exact ih hopening h
  | case8 scan group position rest ih => exact ih hopening h
  | case9 scan token rest _ ih => exact ih hopening h
  | case10 scan token rest _ hkind ih => exact ih (by simpa [enter] using hkind) h
  | case11 scan token rest _ _ _ opening hfound =>
      cases h
      exact hopening opening hfound
  | case12 => cases h
  | case13 scan token rest _ _ _ ih => exact ih hopening h

end Scan

namespace Enclosure

/-- The items in which a pair of parentheses has become a group. -/
def reduced (e : Enclosure) (group : Group) : List Item :=
  e.before ++ .group group e.opening.position :: e.after

variable {items : List Item} {e : Enclosure}

theorem items_eq (h : Item.innermost? items = .ok (some e)) :
    ∃ closing, items = e.before ++ .token e.opening :: (e.inside ++ .token closing :: e.after) := by
  obtain ⟨closing, _, hitems⟩ := Scan.run_eq_some h
  exact ⟨closing, hitems⟩

theorem length_reduced (h : Item.innermost? items = .ok (some e)) (group : Group) :
    (e.reduced group).length < items.length := by
  obtain ⟨closing, hitems⟩ := e.items_eq h
  rw [hitems]
  simp only [reduced, List.length_append, List.length_cons]
  omega

theorem depthOfItems_eq (h : Item.innermost? items = .ok (some e)) :
    Item.depthOfItems items = max (Item.depthOfItems e.before)
      (max (Item.depthOfItems e.inside) (Item.depthOfItems e.after)) := by
  obtain ⟨closing, hitems⟩ := e.items_eq h
  rw [hitems, Item.depthOfItems_append, Item.depthOfItems, Item.depthOfItems_append,
    Item.depthOfItems, Item.depth, Item.depth, Nat.zero_max, Nat.zero_max]

theorem depthOfItems_reduced (e : Enclosure) (group : Group) :
    Item.depthOfItems (e.reduced group) = max (Item.depthOfItems e.before)
      (max group.depth (Item.depthOfItems e.after)) := by
  rw [reduced, Item.depthOfItems_append, Item.depthOfItems, Item.depth]

end Enclosure

namespace Reduction

/-- Puts groups together without a limit: the groups in the order in which they are put together,
and the clause that is left or what is wrong. -/
inductive Unlimited : List Item → List Reduction → Except ParseError (List Item) → Prop
  | broken {items : List Item} {fault : ParseError} :
      Item.innermost? items = .error fault → Unlimited items [] (.error fault)
  | done {items : List Item} : Item.innermost? items = .ok none → Unlimited items [] (.ok items)
  | unread {items : List Item} {e : Enclosure} {fault : ParseError} :
      Item.innermost? items = .ok (some e) → readClause e.inside = .error fault →
      Unlimited items [] (.error fault)
  | step {items : List Item} {e : Enclosure} {group : Group} {more : List Reduction}
      {outcome : Except ParseError (List Item)} :
      Item.innermost? items = .ok (some e) → readClause e.inside = .ok group →
      Unlimited (e.reduced group) more outcome →
      Unlimited items (⟨e.opening.position, group⟩ :: more) outcome

/-- Groups can always be put together without a limit, as there are fewer items each time. -/
theorem exists_unlimited (items : List Item) :
    ∃ groups outcome, Unlimited items groups outcome := by
  cases hfound : Item.innermost? items with
  | error fault => exact ⟨_, _, .broken hfound⟩
  | ok enclosure? =>
      cases enclosure? with
      | none => exact ⟨_, _, .done hfound⟩
      | some e =>
          cases hread : readClause e.inside with
          | error fault => exact ⟨_, _, .unread hfound hread⟩
          | ok group =>
              obtain ⟨more, outcome, hmore⟩ := exists_unlimited (e.reduced group)
              exact ⟨_, _, .step hfound hread hmore⟩
termination_by items.length
decreasing_by exact e.length_reduced hfound group

/-- What a limit leaves of groups and an outcome: the groups before the first one that is too deep,
and the outcome if there is none. -/
def cut (maxDepth : Nat) (groups : List Reduction) (outcome : Except ParseError (List Item)) :
    List Reduction × Except ParseError (List Item) where
  fst := groups.takeWhile (·.group.depth ≤ maxDepth)
  snd :=
    match groups.find? (maxDepth < ·.group.depth) with
    | none => outcome
    | some deep => .error (.nestingTooDeep maxDepth deep.position)

theorem cut_cons (maxDepth : Nat) (first : Reduction) (groups : List Reduction)
    (outcome : Except ParseError (List Item)) :
    cut maxDepth (first :: groups) outcome =
      if maxDepth < first.group.depth then
        ([], .error (.nestingTooDeep maxDepth first.position))
      else (first :: (cut maxDepth groups outcome).1, (cut maxDepth groups outcome).2) := by
  by_cases hdepth : maxDepth < first.group.depth
  · simp [cut, hdepth]
  · have hkept : first.group.depth ≤ maxDepth := Nat.not_lt.mp hdepth
    simp [cut, hdepth, hkept]

/-- A limit cuts what is put together without one. -/
theorem run_eq_cut (maxDepth : Nat) {items : List Item} {groups : List Reduction}
    {outcome : Except ParseError (List Item)} (h : Unlimited items groups outcome) :
    run maxDepth items = cut maxDepth groups outcome := by
  induction h with
  | broken hfound => exact run_of_error hfound
  | done hfound => exact run_of_none hfound
  | unread hfound hread =>
      rw [run_of_some hfound, hread]
      rfl
  | step hfound hread _ ih =>
      rw [run_of_some hfound, hread, cut_cons, ← ih]
      rfl

namespace Unlimited

variable {items : List Item} {groups : List Reduction} {outcome : Except ParseError (List Item)}

theorem exists_opening (h : Unlimited items groups outcome) {r : Reduction} (hr : r ∈ groups) :
    ∃ opening, .token opening ∈ items ∧ opening.kind = .openParen ∧
      opening.position = r.position := by
  induction h with
  | broken => cases hr
  | done => cases hr
  | unread => cases hr
  | @step items e group more outcome hfound hread hmore ih =>
      obtain ⟨closing, hitems⟩ := e.items_eq hfound
      rw [hitems]
      obtain rfl | hlater := List.mem_cons.mp hr
      · have hopening := Scan.opening_of_run (by simp) hfound
        exact ⟨e.opening, by simp, hopening, rfl⟩
      · obtain ⟨opening, hmem, hopening, hposition⟩ := ih hlater
        refine ⟨opening, ?_, hopening, hposition⟩
        simp only [Enclosure.reduced, List.mem_append, List.mem_cons, reduceCtorEq,
          false_or] at hmem
        rcases hmem with hbefore | hafter
        · exact List.mem_append_left _ hbefore
        · exact List.mem_append_right _ (.tail _ (List.mem_append_right _ (.tail _ hafter)))

theorem isDepth_of_error {fault : ParseError} (h : Unlimited items groups (.error fault)) :
    fault.isDepth = false := by
  generalize houtcome : Except.error fault = outcome at h
  induction h with
  | broken hfound =>
      cases houtcome
      exact Scan.isDepth_of_run hfound
  | done => cases houtcome
  | unread _ hread =>
      cases houtcome
      exact isDepth_of_readClause hread
  | step _ _ _ ih => exact ih houtcome

/-- Groups are put together one level at a time: the first one beyond a limit is beyond it by
one. -/
theorem depth_of_find? {limit : Nat} {deep : Reduction} (h : Unlimited items groups outcome)
    (hitems : Item.depthOfItems items ≤ limit)
    (hdeep : groups.find? (limit < ·.group.depth) = some deep) :
    deep.group.depth = limit + 1 := by
  induction h with
  | broken => cases hdeep
  | done => cases hdeep
  | unread => cases hdeep
  | @step items e group more outcome hfound hread hmore ih =>
      rw [e.depthOfItems_eq hfound] at hitems
      have hgroup := depth_of_readClause hread
      by_cases hlimit : limit < group.depth
      · rw [List.find?_cons_of_pos (by simpa using hlimit)] at hdeep
        cases hdeep
        show group.depth = limit + 1
        omega
      · rw [List.find?_cons_of_neg (by simpa using hlimit)] at hdeep
        refine ih ?_ hdeep
        rw [Enclosure.depthOfItems_reduced]
        omega

/-- So the first group beyond a limit is the first one that is beyond it by one. -/
theorem find?_eq_of_find? {limit : Nat} {deep : Reduction} (h : Unlimited items groups outcome)
    (hitems : Item.depthOfItems items ≤ limit)
    (hdeep : groups.find? (limit < ·.group.depth) = some deep) :
    groups.find? (·.group.depth = limit + 1) = some deep := by
  have hdepth := h.depth_of_find? hitems hdeep
  obtain ⟨_, before, after, hgroups, hbefore⟩ := List.find?_eq_some_iff_append.mp hdeep
  refine List.find?_eq_some_iff_append.mpr ⟨by simpa using hdepth, before, after, hgroups, ?_⟩
  intro r hr
  have hkept : r.group.depth ≤ limit := by simpa using hbefore r hr
  simpa using Nat.ne_of_lt (Nat.lt_succ_of_le hkept)

end Unlimited

/-- The depth of the deepest group. -/
def deepest (groups : List Reduction) : Nat :=
  Node.depthOfMembers (groups.map (·.group.toNode))

theorem deepest_cons (first : Reduction) (groups : List Reduction) :
    deepest (first :: groups) = max first.group.depth (deepest groups) := rfl

theorem deepest_le_iff {groups : List Reduction} {limit : Nat} :
    deepest groups ≤ limit ↔ ∀ r ∈ groups, r.group.depth ≤ limit := by
  simp [deepest, Node.depthOfMembers_le_iff_forall]

/-- The clause that is left is as deep as the items and the groups that are put together. -/
theorem Unlimited.depthOfItems_left {items left : List Item} {groups : List Reduction}
    (h : Unlimited items groups (.ok left)) :
    Item.depthOfItems left = max (Item.depthOfItems items) (deepest groups) := by
  generalize houtcome : Except.ok left = outcome at h
  induction h with
  | broken => cases houtcome
  | done =>
      cases houtcome
      exact (Nat.max_zero _).symm
  | unread => cases houtcome
  | @step items e group more outcome hfound hread hmore ih =>
      have hgroup := depth_of_readClause hread
      rw [ih houtcome, e.depthOfItems_reduced, e.depthOfItems_eq hfound, deepest_cons]
      dsimp only
      omega

end Reduction

/-- What a limit for the depth of groups does to an expression: nothing from a threshold on, and
below it it stops at the first group that is deeper by one. -/
structure IsDepthThreshold (tokens : List Token) (threshold : Nat)
    (outcome : Except ParseError Group) : Prop where
  /-- Depth is not what is wrong. -/
  not_depth : ∀ limit position, outcome ≠ .error (.nestingTooDeep limit position)
  /-- A limit that is great enough has no effect. -/
  resolve_eq : ∀ maxDepth, threshold ≤ maxDepth → resolve tokens maxDepth = outcome
  /-- A lesser limit refuses the first group that is one deeper, at its open parenthesis. -/
  refused : ∀ maxDepth < threshold, ∃ r,
    (reductions tokens threshold).find? (·.group.depth = maxDepth + 1) = some r ∧
    (∃ opening ∈ tokens, opening.kind = .openParen ∧ opening.position = r.position) ∧
    resolve tokens maxDepth = .error (.nestingTooDeep maxDepth r.position)
  /-- The groups before the first one that is too deep are put together as always. -/
  reductions_eq : ∀ maxDepth, reductions tokens maxDepth =
    (reductions tokens threshold).takeWhile (·.group.depth ≤ maxDepth)
  /-- The depth of a tree is that of its deepest group and one more. -/
  depth_eq : ∀ root, outcome = .ok root → root.depth = threshold + 1

namespace Reduction.Unlimited

variable {tokens : List Token} {groups : List Reduction} {left : Except ParseError (List Item)}

theorem exists_opening_token (h : Unlimited (tokens.map .token) groups left) {r : Reduction}
    (hr : r ∈ groups) :
    ∃ opening ∈ tokens, opening.kind = .openParen ∧ opening.position = r.position := by
  obtain ⟨opening, hmem, hopening⟩ := h.exists_opening hr
  obtain ⟨_, htoken, ⟨⟩⟩ := List.mem_map.mp hmem
  exact ⟨opening, htoken, hopening⟩

theorem eq_nil_of_blank (h : Unlimited (tokens.map .token) groups left)
    (hblank : Token.dropSpaces tokens = []) : groups = [] := by
  refine List.eq_nil_iff_forall_not_mem.mpr fun r hr => ?_
  obtain ⟨opening, hmem, hopening, _⟩ := h.exists_opening_token hr
  rw [Token.dropSpaces_eq_nil_iff.mp hblank opening hmem] at hopening
  cases hopening

theorem reductions_eq (h : Unlimited (tokens.map .token) groups left) (maxDepth : Nat) :
    reductions tokens maxDepth = groups.takeWhile (·.group.depth ≤ maxDepth) := by
  rw [reductions, run_eq_cut maxDepth h, cut]

theorem reductions_deepest (h : Unlimited (tokens.map .token) groups left) :
    reductions tokens (deepest groups) = groups := by
  have hall := deepest_le_iff.mp (Nat.le_refl (deepest groups))
  rw [h.reductions_eq, List.takeWhile_eq_self_iff]
  exact fun r hr => decide_eq_true (hall r hr)

theorem resolve_eq (h : Unlimited (tokens.map .token) groups left)
    (hblank : Token.dropSpaces tokens ≠ []) (maxDepth : Nat) :
    resolve tokens maxDepth = (cut maxDepth groups left).2.bind readClause := by
  have hsome : ¬ (tokens.map Item.token).all Item.isBlank = true := by
    simpa [Token.dropSpaces_eq_nil_iff, Item.isBlank, Item.isKind] using hblank
  rw [resolve, if_neg hsome, tree, run_eq_cut maxDepth h]

/-- The depth of the deepest group is the threshold. -/
theorem isDepthThreshold (h : Unlimited (tokens.map .token) groups left)
    (hblank : Token.dropSpaces tokens ≠ []) :
    IsDepthThreshold tokens (deepest groups) (left.bind readClause) where
  not_depth limit position houtcome := by
    have hfault : ∀ fault, left.bind readClause = .error fault → fault.isDepth = false := by
      intro fault hfault
      cases left with
      | error other =>
          cases hfault
          exact h.isDepth_of_error
      | ok items => exact isDepth_of_readClause hfault
    exact absurd (hfault _ houtcome) (by simp [ParseError.isDepth])
  resolve_eq maxDepth hdeepest := by
    have hnone : groups.find? (maxDepth < ·.group.depth) = none := by
      simpa using deepest_le_iff.mp hdeepest
    rw [h.resolve_eq hblank, cut, hnone]
  refused maxDepth hdeepest := by
    rw [h.reductions_deepest]
    cases hfind : groups.find? (maxDepth < ·.group.depth) with
    | none =>
        have hall : deepest groups ≤ maxDepth := deepest_le_iff.mpr (by simpa using hfind)
        exact absurd hdeepest (Nat.not_lt.mpr hall)
    | some deep =>
        have hfirst := h.find?_eq_of_find? (by simp [Item.depthOfItems_tokens]) hfind
        have hmem := List.mem_of_find?_eq_some hfind
        refine ⟨deep, hfirst, h.exists_opening_token hmem, ?_⟩
        rw [h.resolve_eq hblank, cut, hfind]
        rfl
  reductions_eq maxDepth := by rw [h.reductions_deepest, h.reductions_eq]
  depth_eq root hroot := by
    obtain ⟨items, rfl, hread⟩ := Except.bind_eq_ok_iff.mp hroot
    rw [depth_of_readClause hread, h.depthOfItems_left, Item.depthOfItems_tokens, Nat.zero_max]

end Reduction.Unlimited

/-- Every expression has a threshold: the limit for the depth of groups does nothing but refuse the
expressions with a deeper group. -/
theorem exists_isDepthThreshold (tokens : List Token) :
    ∃ threshold outcome, IsDepthThreshold tokens threshold outcome := by
  obtain ⟨groups, left, h⟩ := Reduction.exists_unlimited (tokens.map .token)
  by_cases hblank : Token.dropSpaces tokens = []
  · have hnone : ∀ maxDepth, reductions tokens maxDepth = [] := fun maxDepth => by
      rw [h.reductions_eq, h.eq_nil_of_blank hblank, List.takeWhile_nil]
    refine ⟨0, .ok {}, by simp, fun maxDepth _ => resolve_of_blank maxDepth hblank, by simp, ?_, ?_⟩
    · intro maxDepth
      rw [hnone, hnone, List.takeWhile_nil]
    · rintro root ⟨⟩
      rfl
  · exact ⟨_, _, h.isDepthThreshold hblank⟩

namespace IsDepthThreshold

variable {tokens : List Token} {threshold maxDepth : Nat} {outcome : Except ParseError Group}
  {root : Group}

theorem le_of_accepted (h : IsDepthThreshold tokens threshold outcome)
    (hroot : resolve tokens maxDepth = .ok root) : threshold ≤ maxDepth := by
  by_contra hlimit
  obtain ⟨r, _, _, hrefused⟩ := h.refused maxDepth (Nat.not_le.mp hlimit)
  rw [hroot] at hrefused
  cases hrefused

theorem eq_of_accepted (h : IsDepthThreshold tokens threshold outcome)
    (hroot : resolve tokens maxDepth = .ok root) : outcome = .ok root :=
  (h.resolve_eq maxDepth (h.le_of_accepted hroot)).symm.trans hroot

theorem depth_le_of_accepted (h : IsDepthThreshold tokens threshold outcome)
    (hroot : resolve tokens maxDepth = .ok root) : root.depth ≤ maxDepth + 1 := by
  rw [h.depth_eq root (h.eq_of_accepted hroot)]
  exact Nat.succ_le_succ (h.le_of_accepted hroot)

end IsDepthThreshold

/-- The limit for the depth of groups is an exact threshold and has no other effect: a tree that is
accepted is at most one deeper than the limit, and all limits that accept a filter give it the same
predicate. -/
theorem depthLimit_is_threshold :
    (∀ tokens, ∃ threshold outcome, IsDepthThreshold tokens threshold outcome) ∧
    (∀ tokens maxDepth root, resolve tokens maxDepth = .ok root → root.depth ≤ maxDepth + 1) ∧
    ∀ filter maxDepth maxDepth' predicate predicate',
      compile filter maxDepth = .ok predicate → compile filter maxDepth' = .ok predicate' →
        predicate = predicate' := by
  refine ⟨exists_isDepthThreshold, ?_, ?_⟩
  · intro tokens maxDepth root hroot
    obtain ⟨threshold, outcome, h⟩ := exists_isDepthThreshold tokens
    exact h.depth_le_of_accepted hroot
  · intro filter maxDepth maxDepth' predicate predicate' hcompile hcompile'
    obtain ⟨root, hparse, rfl⟩ := Except.map_eq_ok_iff.mp hcompile
    obtain ⟨root', hparse', rfl⟩ := Except.map_eq_ok_iff.mp hcompile'
    obtain ⟨tokens, htokens, hroot⟩ := parse_eq_ok_iff.mp hparse
    obtain ⟨tokens', htokens', hroot'⟩ := parse_eq_ok_iff.mp hparse'
    cases htokens.symm.trans htokens'
    obtain ⟨threshold, outcome, h⟩ := exists_isDepthThreshold tokens
    cases (h.eq_of_accepted hroot).symm.trans (h.eq_of_accepted hroot')
    rfl

end DocumentFilter
