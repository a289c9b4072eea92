import DocumentFilter.Filter.Grouping

/-!
# Levels

The items between two grouping parentheses form a level: none of their parentheses groups, and the
name of a method starts a call that ends on the same level.  A scan passes a level as a whole, so
a scan that starts again from the front comes back to the state in which the last one stopped.
-/

namespace DocumentFilter

/-- The items that take a scan from a stage inside a call exactly to the end of the call. -/
inductive ClosesCall : Scan.Stage → List Item → Prop
  | blank {item : Item} {rest : List Item} :
      item.isBlank = true → ClosesCall .named rest → ClosesCall .named (item :: rest)
  | opening {item : Item} {rest : List Item} :
      item.isKind .openParen = true → ClosesCall .called rest → ClosesCall .named (item :: rest)
  | argument {item : Item} {rest : List Item} :
      item.isKind .closeParen = false → ClosesCall .called rest →
      ClosesCall .called (item :: rest)
  | closing {item : Item} : item.isKind .closeParen = true → ClosesCall .called [item]

/-- Items without a grouping parenthesis, in which every name of a method starts a whole call. -/
inductive IsLevel : List Item → Prop
  | nil : IsLevel []
  | group {group : Group} {position : Nat} {rest : List Item} :
      IsLevel rest → IsLevel (.group group position :: rest)
  | plain {token : Token} {rest : List Item} :
      token.isMethod = false → token.kind ≠ .openParen → token.kind ≠ .closeParen →
      IsLevel rest → IsLevel (.token token :: rest)
  | call {name : Token} {tail rest : List Item} :
      name.isMethod = true → ClosesCall .named tail → IsLevel rest →
      IsLevel (.token name :: (tail ++ rest))

namespace IsLevel

theorem append {left right : List Item} (hleft : IsLevel left) (hright : IsLevel right) :
    IsLevel (left ++ right) := by
  induction hleft with
  | nil => exact hright
  | group _ ih => exact .group ih
  | plain hname hopen hclose _ ih => exact .plain hname hopen hclose ih
  | call hname htail _ ih =>
      rw [List.cons_append, List.append_assoc]
      exact .call hname htail ih

theorem snoc {level : List Item} {token : Token} (hlevel : IsLevel level)
    (hname : token.isMethod = false) (hopen : token.kind ≠ .openParen)
    (hclose : token.kind ≠ .closeParen) : IsLevel (level ++ [.token token]) :=
  hlevel.append (.plain hname hopen hclose .nil)

end IsLevel

theorem Item.isBlank_eq_false_of_isKind {item : Item} {kind : TokenKind}
    (hkind : item.isKind kind = true) (hne : kind ≠ .whitespace) : item.isBlank = false := by
  cases item with
  | group => rfl
  | token token =>
      simp only [isKind, decide_eq_true_eq] at hkind
      simp [isBlank, isKind, hkind, hne]

namespace Scan

/-- Passes several items. -/
def pass (scan : Scan) (items : List Item) : Scan :=
  { scan with inside := items.reverse ++ scan.inside }

@[simp]
theorem pass_nil (scan : Scan) : scan.pass [] = scan := rfl

@[simp]
theorem pass_push (scan : Scan) (item : Item) (items : List Item) :
    (scan.push item).pass items = scan.pass (item :: items) := by
  simp [pass, push]

@[simp]
theorem pass_pass (scan : Scan) (left right : List Item) :
    (scan.pass left).pass right = scan.pass (left ++ right) := by
  simp [pass]

@[simp]
theorem items_pass (scan : Scan) (passed : List Item) :
    (scan.pass passed).items = scan.items ++ passed := by
  simp [pass, items]

theorem reverse_before_enter (scan : Scan) (opening : Token) :
    (scan.enter opening).before.reverse = scan.items := by
  cases scan with
  | mk before opening? inside => cases opening? <;> simp [enter, items]

/-- A scan passes the rest of a call as a whole. -/
theorem run_closesCall {stage : Stage} {tail : List Item} (htail : ClosesCall stage tail)
    (scan : Scan) (rest : List Item) :
    scan.run stage (tail ++ rest) = (scan.pass tail).run .between rest := by
  induction htail generalizing scan with
  | blank hblank _ ih =>
      rw [List.cons_append, run, if_pos hblank, ih, pass_push]
  | opening hopening _ ih =>
      have hblank := Item.isBlank_eq_false_of_isKind hopening (by decide)
      rw [List.cons_append, run, if_neg (by simp [hblank]), if_pos hopening, ih, pass_push]
  | argument hargument _ ih =>
      rw [List.cons_append, run, if_neg (by simp [hargument]), ih, pass_push]
  | closing hclosing =>
      rw [List.cons_append, run, if_pos hclosing, List.nil_append, ← pass_push, pass_nil]

/-- A scan passes a level as a whole. -/
theorem run_level {level : List Item} (hlevel : IsLevel level) (scan : Scan)
    (rest : List Item) :
    scan.run .between (level ++ rest) = (scan.pass level).run .between rest := by
  induction hlevel generalizing scan with
  | nil => rfl
  | group _ ih => rw [List.cons_append, run, ih, pass_push]
  | plain hname hopen hclose _ ih =>
      rw [List.cons_append, run, if_neg (by simp [hname]), if_neg hopen, if_neg hclose, ih,
        pass_push]
  | call hname htail _ ih =>
      rw [List.cons_append, List.append_assoc, run, if_pos hname, run_closesCall htail, ih,
        pass_pass, pass_push]

end Scan
end DocumentFilter
