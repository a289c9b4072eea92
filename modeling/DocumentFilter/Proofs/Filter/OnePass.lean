import DocumentFilter.Proofs.Filter.Level

/-!
# Putting groups together in one pass

Groups can be put together in one pass over the tokens with a stack of the groups that are open:
an opening parenthesis puts the level that it interrupts on the stack, and a closing one reads the
level since then and adds the group to the level below.  This file shows that the scan that starts
again after every group gives the same tree or the same fault.
-/

namespace DocumentFilter

namespace Token

/-- The tokens up to and with the first closing parenthesis, and those that follow it. -/
def throughClosing : List Token → Except ParseError (List Token × List Token)
  | [] => .error .unexpectedEndOfExpression
  | token :: rest =>
    if token.kind = .closeParen then .ok ([token], rest)
    else (throughClosing rest).map fun (call, rest) => (token :: call, rest)

/-- What completes a call after the name of its method, and the tokens that follow the call: an
opening parenthesis, with nothing but spaces before it, and all up to a closing one. -/
def throughCall : List Token → Except ParseError (List Token × List Token)
  | [] => .error .unexpectedEndOfExpression
  | token :: rest =>
    if token.kind = .whitespace then
      (throughCall rest).map fun (call, rest) => (token :: call, rest)
    else if token.kind = .openParen then
      (throughClosing rest).map fun (call, rest) => (token :: call, rest)
    else .error .unexpectedEndOfExpression

theorem throughClosing_eq_ok_iff {tokens call rest : List Token} :
    throughClosing tokens = .ok (call, rest) ↔
      ∃ arguments closing, call = arguments ++ [closing] ∧ tokens = arguments ++ closing :: rest ∧
        closing.kind = .closeParen ∧ ∀ token ∈ arguments, token.kind ≠ .closeParen := by
  constructor
  · intro h
    induction tokens generalizing call rest with
    | nil => cases h
    | cons token tokens ih =>
        rw [throughClosing] at h
        split at h
        · next hclosing =>
            cases h
            exact ⟨[], token, rfl, rfl, hclosing, by simp⟩
        · next hother =>
            obtain ⟨⟨more, left⟩, hmore, hresult⟩ := Except.map_eq_ok_iff.mp h
            cases hresult
            obtain ⟨arguments, closing, rfl, rfl, hclosing, harguments⟩ := ih hmore
            exact ⟨token :: arguments, closing, rfl, rfl, hclosing,
              List.forall_mem_cons.mpr ⟨hother, harguments⟩⟩
  · rintro ⟨arguments, closing, rfl, rfl, hclosing, harguments⟩
    induction arguments with
    | nil => rw [List.nil_append, throughClosing, if_pos hclosing, List.nil_append]
    | cons token arguments ih =>
        obtain ⟨htoken, hmore⟩ := List.forall_mem_cons.mp harguments
        rw [List.cons_append, throughClosing, if_neg htoken, ih hmore]
        rfl

theorem closesCall_of_arguments {arguments : List Token} {closing : Token}
    (harguments : ∀ token ∈ arguments, token.kind ≠ .closeParen)
    (hclosing : closing.kind = .closeParen) :
    ClosesCall .called ((arguments ++ [closing]).map Item.token) := by
  induction arguments with
  | nil => exact .closing (by simp [Item.isKind, hclosing])
  | cons token arguments ih =>
      obtain ⟨htoken, hmore⟩ := List.forall_mem_cons.mp harguments
      exact .argument (by simp [Item.isKind, htoken]) (ih hmore)

theorem throughCall_eq_ok {tokens call rest : List Token}
    (h : throughCall tokens = .ok (call, rest)) :
    tokens = call ++ rest ∧ ClosesCall .named (call.map Item.token) := by
  induction tokens generalizing call rest with
  | nil => cases h
  | cons token tokens ih =>
      rw [throughCall] at h
      split at h
      · next hblank =>
          obtain ⟨⟨call', rest'⟩, hrest, hresult⟩ := Except.map_eq_ok_iff.mp h
          cases hresult
          obtain ⟨rfl, hcall⟩ := ih hrest
          exact ⟨rfl, .blank (by simp [Item.isBlank, Item.isKind, hblank]) hcall⟩
      · split at h
        · next hopening =>
            obtain ⟨⟨call', rest'⟩, hrest, hresult⟩ := Except.map_eq_ok_iff.mp h
            cases hresult
            obtain ⟨arguments, closing, rfl, rfl, hclosing, harguments⟩ :=
              throughClosing_eq_ok_iff.mp hrest
            exact ⟨by simp, .opening (by simp [Item.isKind, hopening])
              (closesCall_of_arguments harguments hclosing)⟩
        · cases h

theorem run_called_of_throughClosing {tokens : List Token} {e : ParseError}
    (h : throughClosing tokens = .error e) (scan : Scan) :
    scan.run .called (tokens.map Item.token) = .error e := by
  induction tokens generalizing scan with
  | nil =>
      cases h
      rfl
  | cons token tokens ih =>
      rw [throughClosing] at h
      split at h
      · cases h
      · next hother =>
          rw [List.map_cons, Scan.run, if_neg (by simp [Item.isKind, hother])]
          exact ih (Except.map_eq_error_iff.mp h) (scan.push (.token token))

theorem run_named_of_throughCall {tokens : List Token} {e : ParseError}
    (h : throughCall tokens = .error e) (scan : Scan) :
    scan.run .named (tokens.map Item.token) = .error e := by
  induction tokens generalizing scan with
  | nil =>
      cases h
      rfl
  | cons token tokens ih =>
      rw [throughCall] at h
      rw [List.map_cons, Scan.run]
      split at h
      · next hblank =>
          rw [if_pos (by simp [Item.isBlank, Item.isKind, hblank])]
          exact ih (Except.map_eq_error_iff.mp h) (scan.push (.token token))
      · next hblank =>
          rw [if_neg (by simp [Item.isBlank, Item.isKind, hblank])]
          split at h
          · next hopening =>
              rw [if_pos (by simp [Item.isKind, hopening])]
              exact run_called_of_throughClosing (Except.map_eq_error_iff.mp h)
                (scan.push (.token token))
          · next hopening =>
              cases h
              rw [if_neg (by simp [Item.isKind, hopening])]

end Token

/-- A group that is open, with the level that its opening parenthesis interrupts. -/
structure Pending where
  before : List Item
  opening : Token

namespace Pending

/-- The items in front of the level that is read, the innermost open group first in the stack. -/
def items : List Pending → List Item
  | [] => []
  | pending :: outer => items outer ++ pending.before ++ [.token pending.opening]

/-- A scan that has passed the open groups. -/
def scan : List Pending → Scan
  | [] => {}
  | pending :: outer => ((scan outer).pass pending.before).enter pending.opening

end Pending

namespace OnePass

/-- Reads tokens with a stack of open groups and the level that has been read since the last
opening parenthesis. -/
def run (maxDepth : Nat) (pending : List Pending) (level : List Item) (tokens : List Token) :
    Except ParseError Group :=
  match tokens with
  | [] => if pending.isEmpty then readClause level else .error .unexpectedEndOfExpression
  | token :: rest =>
    if token.isMethod then
      match _h : Token.throughCall rest with
      | .error e => .error e
      | .ok (call, rest) =>
        run maxDepth pending (level ++ .token token :: call.map Item.token) rest
    else if token.kind = .openParen then run maxDepth (⟨level, token⟩ :: pending) [] rest
    else if token.kind = .closeParen then
      match pending with
      | [] => .error (.unexpectedToken .openParen ")" token.position)
      | ⟨before, opening⟩ :: outer =>
        match readClause level with
        | .error e => .error e
        | .ok group =>
          if maxDepth < group.depth then .error (.nestingTooDeep maxDepth opening.position)
          else run maxDepth outer (before ++ [.group group opening.position]) rest
    else run maxDepth pending (level ++ [.token token]) rest
termination_by tokens.length
decreasing_by
  · have hlength := congrArg List.length (Token.throughCall_eq_ok _h).1
    simp only [List.length_append, List.length_cons] at hlength ⊢
    omega
  all_goals simp

section

variable {maxDepth : Nat} {pending : List Pending} {level : List Item} {token : Token}
  {rest : List Token}

@[simp]
theorem run_nil : run maxDepth [] level [] = readClause level := by
  rw [run.eq_def]
  rfl

@[simp]
theorem run_cons_nil {group : Pending} :
    run maxDepth (group :: pending) level [] = .error .unexpectedEndOfExpression := by
  rw [run.eq_def]
  rfl

theorem run_broken {e : ParseError} (hname : token.isMethod = true)
    (hcall : Token.throughCall rest = .error e) :
    run maxDepth pending level (token :: rest) = .error e := by
  rw [run.eq_def]
  simp only [hname, if_true]
  split
  · next hfound => rw [hcall] at hfound; cases hfound; rfl
  · next hfound => rw [hcall] at hfound; cases hfound

theorem run_call {call after : List Token} (hname : token.isMethod = true)
    (hcall : Token.throughCall rest = .ok (call, after)) :
    run maxDepth pending level (token :: rest) =
      run maxDepth pending (level ++ .token token :: call.map Item.token) after := by
  rw [run.eq_def]
  simp only [hname, if_true]
  split
  · next hfound => rw [hcall] at hfound; cases hfound
  · next hfound => rw [hcall] at hfound; cases hfound; rfl

theorem run_opening (hopening : token.kind = .openParen) :
    run maxDepth pending level (token :: rest) =
      run maxDepth (⟨level, token⟩ :: pending) [] rest := by
  rw [run.eq_def]
  simp [Token.isMethod, hopening]

theorem run_stray (hclosing : token.kind = .closeParen) :
    run maxDepth [] level (token :: rest) =
      .error (.unexpectedToken .openParen ")" token.position) := by
  rw [run.eq_def]
  simp [Token.isMethod, hclosing]

theorem run_closing {before : List Item} {opening : Token} (hclosing : token.kind = .closeParen) :
    run maxDepth (⟨before, opening⟩ :: pending) level (token :: rest) =
      (readClause level).bind fun group =>
        if maxDepth < group.depth then .error (.nestingTooDeep maxDepth opening.position)
        else run maxDepth pending (before ++ [.group group opening.position]) rest := by
  rw [run.eq_def]
  cases readClause level <;> simp [Token.isMethod, hclosing, Except.bind]

theorem run_plain (hname : token.isMethod = false) (hopening : token.kind ≠ .openParen)
    (hclosing : token.kind ≠ .closeParen) :
    run maxDepth pending level (token :: rest) =
      run maxDepth pending (level ++ [.token token]) rest := by
  rw [run.eq_def]
  simp [hname, hopening, hclosing]

end

/-- The tree of an expression, read in one pass. -/
def resolve (tokens : List Token) (maxDepth : Nat) : Except ParseError Group :=
  if tokens.all (·.kind = .whitespace) then .ok {} else run maxDepth [] [] tokens

end OnePass

namespace Pending

/-- What holds of the open groups: the interrupted levels are levels, and parentheses opened
them. -/
def Sound (pending : List Pending) : Prop :=
  ∀ group ∈ pending, IsLevel group.before ∧ group.opening.kind = .openParen

theorem items_scan (pending : List Pending) : (scan pending).items = items pending := by
  induction pending with
  | nil => rfl
  | cons group outer ih =>
      rw [scan, Scan.items_enter, Scan.items_pass, ih, items]

theorem run_items {pending : List Pending} (hsound : Sound pending) (rest : List Item) :
    ({} : Scan).run .between (items pending ++ rest) = (scan pending).run .between rest := by
  induction pending generalizing rest with
  | nil => rfl
  | cons group outer ih =>
      obtain ⟨hbefore, hopening⟩ := hsound group List.mem_cons_self
      have houter : Sound outer := fun other hother =>
        hsound other (List.mem_cons_of_mem group hother)
      have hname : group.opening.isMethod = false := by simp [Token.isMethod, hopening]
      rw [items, List.append_assoc, List.append_assoc, ih houter, Scan.run_level hbefore,
        List.singleton_append, Scan.run, if_neg (by simp [hname]), if_pos hopening, scan]

/-- A scan that starts again from the front comes to the same state before the tokens that have not
been read. -/
theorem innermost?_items {pending : List Pending} {level : List Item} (hsound : Sound pending)
    (hlevel : IsLevel level) (rest : List Item) :
    Item.innermost? (items pending ++ level ++ rest) =
      ((scan pending).pass level).run .between rest := by
  rw [Item.innermost?, List.append_assoc, run_items hsound, Scan.run_level hlevel]

end Pending

namespace Reduction

/-- A closing parenthesis after an open group: the level since its opening is read, and the group
goes to the level that was interrupted. -/
theorem tree_closing (maxDepth : Nat) {before level : List Item} {opening closing : Token}
    {outer : List Pending} (rest : List Item) (hsound : Pending.Sound (⟨before, opening⟩ :: outer))
    (hlevel : IsLevel level) (hclosing : closing.kind = .closeParen) :
    tree maxDepth (Pending.items (⟨before, opening⟩ :: outer) ++ level ++ .token closing :: rest) =
      (readClause level).bind fun group =>
        if maxDepth < group.depth then .error (.nestingTooDeep maxDepth opening.position)
        else tree maxDepth
          (Pending.items outer ++ (before ++ [.group group opening.position]) ++ rest) := by
  have hname : closing.isMethod = false := by simp [Token.isMethod, hclosing]
  have hbefore : (Pending.scan (⟨before, opening⟩ :: outer)).before.reverse =
      Pending.items outer ++ before := by
    rw [Pending.scan, Scan.reverse_before_enter, Scan.items_pass, Pending.items_scan]
  have hfound : Item.innermost?
      (Pending.items (⟨before, opening⟩ :: outer) ++ level ++ .token closing :: rest) =
        .ok (some ⟨Pending.items outer ++ before, opening, level, rest⟩) := by
    rw [Pending.innermost?_items hsound hlevel, Scan.run, if_neg (by simp [hname]),
      if_neg (by simp [hclosing]), if_pos hclosing]
    change Except.ok (some (Enclosure.mk (Pending.scan (⟨before, opening⟩ :: outer)).before.reverse
      opening (level.reverse ++ []).reverse rest)) = _
    rw [hbefore, List.append_nil, List.reverse_reverse]
  rw [tree_of_some hfound]
  simp only [List.append_assoc, List.singleton_append]

/-- Starting the scan again after every group gives the tree that one pass gives. -/
theorem tree_eq_run (maxDepth : Nat) {pending : List Pending} {level : List Item}
    (tokens : List Token) (hsound : Pending.Sound pending) (hlevel : IsLevel level) :
    tree maxDepth (Pending.items pending ++ level ++ tokens.map Item.token) =
      OnePass.run maxDepth pending level tokens := by
  fun_induction OnePass.run maxDepth pending level tokens with
  | case1 pending level hempty =>
      obtain rfl := List.isEmpty_iff.mp hempty
      have hfound := Pending.innermost?_items hsound hlevel []
      rw [List.append_nil, Pending.items, List.nil_append] at hfound
      rw [List.map_nil, List.append_nil, Pending.items, List.nil_append]
      exact tree_of_none hfound
  | case2 pending level hopen =>
      obtain ⟨group, outer, rfl⟩ := List.exists_cons_of_ne_nil (mt List.isEmpty_iff.mpr hopen)
      apply tree_of_error
      rw [Pending.innermost?_items hsound hlevel]
      rfl
  | case3 pending level token rest hname e hcall =>
      apply tree_of_error
      rw [Pending.innermost?_items hsound hlevel, List.map_cons, Scan.run, if_pos hname]
      exact Token.run_named_of_throughCall hcall _
  | case4 pending level token tokens hname call rest hcall ih =>
      obtain ⟨rfl, hcloses⟩ := Token.throughCall_eq_ok hcall
      have htoken : IsLevel (.token token :: call.map Item.token) := by
        simpa using IsLevel.call hname hcloses .nil
      rw [← ih hsound (hlevel.append htoken)]
      simp
  | case5 pending level token rest hname hopening ih =>
      have hentered : Pending.Sound (⟨level, token⟩ :: pending) := by
        intro group hgroup
        obtain rfl | houter := List.mem_cons.mp hgroup
        · exact ⟨hlevel, hopening⟩
        · exact hsound group houter
      rw [← ih hentered .nil, Pending.items]
      simp
  | case6 level token rest hname hopening hclosing =>
      apply tree_of_error
      rw [Pending.innermost?_items hsound hlevel, List.map_cons, Scan.run, if_neg hname,
        if_neg hopening, if_pos hclosing]
      rfl
  | case7 level token rest _ _ hclosing before opening outer e hlevelRead =>
      rw [List.map_cons, tree_closing maxDepth _ hsound hlevel hclosing, hlevelRead, Except.bind]
  | case8 level token rest _ _ hclosing before opening outer group hlevelRead hdepth =>
      rw [List.map_cons, tree_closing maxDepth _ hsound hlevel hclosing, hlevelRead, Except.bind,
        if_pos hdepth]
  | case9 level token rest _ _ hclosing before opening outer group hlevelRead hdepth ih =>
      have houter : Pending.Sound outer := fun other hother =>
        hsound other (List.mem_cons_of_mem _ hother)
      have hbefore : IsLevel before := (hsound _ List.mem_cons_self).1
      rw [List.map_cons, tree_closing maxDepth _ hsound hlevel hclosing, hlevelRead, Except.bind,
        if_neg hdepth]
      exact ih houter (hbefore.append (.group .nil))
  | case10 pending level token rest hname hopening hclosing ih =>
      rw [← ih hsound (hlevel.snoc (by simpa using hname) hopening hclosing)]
      simp

end Reduction

/-- Starting again after every group and reading in one pass give the same tree or the same
fault. -/
theorem resolve_eq_onePass (tokens : List Token) (maxDepth : Nat) :
    resolve tokens maxDepth = OnePass.resolve tokens maxDepth := by
  have hblank : (tokens.map Item.token).all Item.isBlank =
      tokens.all (·.kind = .whitespace) := by
    rw [List.all_map]
    rfl
  have hnone : Pending.Sound [] := fun group hgroup => absurd hgroup List.not_mem_nil
  rw [resolve, OnePass.resolve, hblank, ← Reduction.tree_eq_run maxDepth tokens hnone .nil]
  rfl

end DocumentFilter
