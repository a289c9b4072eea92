import DocumentFilter.Filter.Clause

/-!
# Putting groups together

The items of an expression are scanned for the innermost pair of parentheses that groups members;
the clause between them is read and takes the place of the pair, and the scan starts again.  What
is left in the end is one clause.  The parentheses of a method call do not group: a method name is
followed by one, with nothing but spaces between them, and its call ends at the next closing
parenthesis.
-/

namespace DocumentFilter

/-- A pair of grouping parentheses without another pair inside. -/
structure Enclosure where
  before : List Item
  opening : Token
  inside : List Item
  after : List Item

/-- A scan for the innermost pair of grouping parentheses. -/
structure Scan where
  /-- The items before the last open parenthesis, latest first. -/
  before : List Item := []
  /-- The last open parenthesis. -/
  opening? : Option Token := none
  /-- The items since then, latest first. -/
  inside : List Item := []

namespace Scan

/-- Where a scan stands with respect to method calls. -/
inductive Stage where
  /-- Outside every call. -/
  | between
  /-- After the name of a method. -/
  | named
  /-- Among the arguments of a method. -/
  | called
deriving DecidableEq, Repr

/-- Passes an item. -/
def push (scan : Scan) (item : Item) : Scan := { scan with inside := item :: scan.inside }

/-- Passes an open parenthesis. -/
def enter (scan : Scan) (opening : Token) : Scan where
  before := scan.inside ++ (scan.opening?.map Item.token).toList ++ scan.before
  opening? := some opening
  inside := []

/-- All items that have been passed, in order. -/
def items (scan : Scan) : List Item :=
  scan.before.reverse ++ (scan.opening?.map Item.token).toList ++ scan.inside.reverse

@[simp]
theorem items_push (scan : Scan) (item : Item) : (scan.push item).items = scan.items ++ [item] := by
  simp [push, items]

@[simp]
theorem items_enter (scan : Scan) (opening : Token) :
    (scan.enter opening).items = scan.items ++ [.token opening] := by
  cases scan with
  | mk before opening? inside => cases opening? <;> simp [enter, items]

/-- Goes on until a closing parenthesis ends the last open one. -/
def run (scan : Scan) : Stage → List Item → Except ParseError (Option Enclosure)
  | .between, [] => if scan.opening?.isSome then .error .unexpectedEndOfExpression else .ok none
  | _, [] => .error .unexpectedEndOfExpression
  | .named, item :: rest =>
    if item.isBlank then (scan.push item).run .named rest
    else if item.isKind .openParen then (scan.push item).run .called rest
    else .error .unexpectedEndOfExpression
  | .called, item :: rest =>
    (scan.push item).run (if item.isKind .closeParen then .between else .called) rest
  | .between, .group group position :: rest =>
    (scan.push (.group group position)).run .between rest
  | .between, .token token :: rest =>
    if token.isMethod then (scan.push (.token token)).run .named rest
    else if token.kind = .openParen then (scan.enter token).run .between rest
    else if token.kind = .closeParen then
      match scan.opening? with
      | some opening => .ok (some ⟨scan.before.reverse, opening, scan.inside.reverse, rest⟩)
      | none => .error (.unexpectedToken .openParen ")" token.position)
    else (scan.push (.token token)).run .between rest

/-- A pair that a scan finds lies in the items where it says. -/
theorem run_eq_some {scan : Scan} {stage : Stage} {items : List Item} {e : Enclosure}
    (h : scan.run stage items = .ok (some e)) :
    ∃ closing, closing.kind = .closeParen ∧
      scan.items ++ items =
        e.before ++ .token e.opening :: (e.inside ++ .token closing :: e.after) := by
  fun_induction run scan stage items with
  | case1 => cases h
  | case2 => cases h
  | case3 => cases h
  | case4 scan item rest _ ih => simpa using ih h
  | case5 scan item rest _ _ ih => simpa using ih h
  | case6 => cases h
  | case7 scan item rest ih => simpa using ih h
  | case8 scan group position rest ih => simpa using ih h
  | case9 scan token rest _ ih => simpa using ih h
  | case10 scan token rest _ _ ih => simpa using ih h
  | case11 scan token rest _ _ hclose opening hopening =>
    cases h
    exact ⟨token, hclose, by simp [items, hopening]⟩
  | case12 => cases h
  | case13 scan token rest _ _ _ ih => simpa using ih h

end Scan

namespace Item

/-- The innermost pair of grouping parentheses. -/
def innermost? (items : List Item) : Except ParseError (Option Enclosure) :=
  ({} : Scan).run .between items

end Item

/-- A pair of parentheses whose clause has been put together. -/
structure Reduction where
  /-- The place of the opening parenthesis. -/
  position : Nat
  group : Group

namespace Reduction

/-- Puts groups together until no parentheses are left, innermost pairs first.  Gives the groups in
the order in which they were put together, and the clause that is left or what is wrong. -/
def run (maxDepth : Nat) (items : List Item) :
    List Reduction × Except ParseError (List Item) :=
  match _h : Item.innermost? items with
  | .error e => ([], .error e)
  | .ok none => ([], .ok items)
  | .ok (some ⟨before, opening, inside, after⟩) =>
    match readClause inside with
    | .error e => ([], .error e)
    | .ok group =>
      if maxDepth < group.depth then
        ([], .error (.nestingTooDeep maxDepth opening.position))
      else
        let more := run maxDepth (before ++ .group group opening.position :: after)
        (⟨opening.position, group⟩ :: more.1, more.2)
termination_by items.length
decreasing_by
  obtain ⟨closing, _, hitems⟩ := Scan.run_eq_some ‹Item.innermost? items = _›
  have hlength := congrArg List.length hitems
  simp only [Scan.items, List.length_append, List.length_cons, List.length_reverse] at hlength ⊢
  simp at hlength
  omega

section Run

variable {maxDepth : Nat} {items : List Item}

theorem run_of_error {fault : ParseError} (h : Item.innermost? items = .error fault) :
    run maxDepth items = ([], .error fault) := by
  rw [run.eq_def]
  split
  · next hfound => rw [h] at hfound; cases hfound; rfl
  · next hfound => rw [h] at hfound; cases hfound
  · next hfound => rw [h] at hfound; cases hfound

theorem run_of_none (h : Item.innermost? items = .ok none) :
    run maxDepth items = ([], .ok items) := by
  rw [run.eq_def]
  split
  · next hfound => rw [h] at hfound; cases hfound
  · rfl
  · next hfound => rw [h] at hfound; cases hfound

/-- The innermost pair is read, and the group takes its place. -/
theorem run_of_some {e : Enclosure} (h : Item.innermost? items = .ok (some e)) :
    run maxDepth items =
      match readClause e.inside with
      | .error fault => ([], .error fault)
      | .ok group =>
        if maxDepth < group.depth then
          ([], .error (.nestingTooDeep maxDepth e.opening.position))
        else
          let more := run maxDepth (e.before ++ .group group e.opening.position :: e.after)
          (⟨e.opening.position, group⟩ :: more.1, more.2) := by
  rw [run.eq_def]
  split
  · next hfound => rw [h] at hfound; cases hfound
  · next hfound => rw [h] at hfound; cases hfound
  · next hfound =>
    rw [h] at hfound
    cases hfound
    rfl

end Run

/-- The tree of items: the clause that is left when all groups have been put together, read. -/
def tree (maxDepth : Nat) (items : List Item) : Except ParseError Group :=
  (run maxDepth items).2.bind readClause

theorem tree_of_error {maxDepth : Nat} {items : List Item} {e : ParseError}
    (h : Item.innermost? items = .error e) : tree maxDepth items = .error e := by
  rw [tree, run_of_error h]
  rfl

theorem tree_of_none {maxDepth : Nat} {items : List Item}
    (h : Item.innermost? items = .ok none) : tree maxDepth items = readClause items := by
  rw [tree, run_of_none h]
  rfl

theorem tree_of_some {maxDepth : Nat} {items : List Item} {e : Enclosure}
    (h : Item.innermost? items = .ok (some e)) :
    tree maxDepth items =
      (readClause e.inside).bind fun group =>
        if maxDepth < group.depth then .error (.nestingTooDeep maxDepth e.opening.position)
        else tree maxDepth (e.before ++ .group group e.opening.position :: e.after) := by
  rw [tree, run_of_some h]
  cases readClause e.inside with
  | error fault => rfl
  | ok group => by_cases hdepth : maxDepth < group.depth <;> simp [Except.bind, tree, hdepth]

end Reduction

/-- The groups of an expression in the order in which they are put together. -/
def reductions (tokens : List Token) (maxDepth : Nat) : List Reduction :=
  (Reduction.run maxDepth (tokens.map Item.token)).1

/-- The tree of an expression.  Without a single token other than spaces it has no members. -/
def resolve (tokens : List Token) (maxDepth : Nat) : Except ParseError Group :=
  let items := tokens.map Item.token
  if items.all Item.isBlank then .ok {}
  else Reduction.tree maxDepth items

end DocumentFilter
