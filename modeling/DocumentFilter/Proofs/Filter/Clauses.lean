import DocumentFilter.Proofs.Filter.Locations
import DocumentFilter.Proofs.Filter.Threshold

/-!
# The clauses that are read

Putting the groups of an expression together reads one clause after the other.  A scan that finds
the next clause has passed over whole calls, so every clause is a level; and a reader comes to the
start of a member only where a level starts.  So the name of a method that starts a member is always
followed by its arguments.
-/

namespace DocumentFilter

/-! ## The clauses of an expression -/

/-- The clauses that are read while the groups among items are put together. -/
inductive IsClauseOf (maxDepth : Nat) : List Item → List Item → Prop
  /-- The inside of the next pair of grouping parentheses. -/
  | inside {items : List Item} {e : Enclosure} :
      Item.innermost? items = .ok (some e) → IsClauseOf maxDepth items e.inside
  /-- All items, if there is no pair any more. -/
  | left {items : List Item} : Item.innermost? items = .ok none → IsClauseOf maxDepth items items
  /-- A clause that is read after the next pair has become a group. -/
  | later {items clause : List Item} {e : Enclosure} {group : Group} :
      Item.innermost? items = .ok (some e) → readClause e.inside = .ok group →
      group.depth ≤ maxDepth → IsClauseOf maxDepth (e.reduced group) clause →
      IsClauseOf maxDepth items clause

theorem IsClauseOf.token_mem {maxDepth : Nat} {items clause : List Item} {token : Token}
    (h : IsClauseOf maxDepth items clause) (htoken : .token token ∈ clause) :
    .token token ∈ items := by
  induction h with
  | @inside items e hfound =>
      obtain ⟨closing, hitems⟩ := e.items_eq hfound
      simp [hitems, htoken]
  | left => exact htoken
  | @later items clause e group hfound _ _ _ ih =>
      obtain ⟨closing, hitems⟩ := e.items_eq hfound
      obtain hbefore | hafter : .token token ∈ e.before ∨ .token token ∈ e.after := by
        simpa [Enclosure.reduced] using ih htoken
      · simp [hitems, hbefore]
      · simp [hitems, hafter]

/-- What is wrong with an expression shows in a scan, in the depth of a group or in a clause. -/
theorem Reduction.fault_of_tree {maxDepth : Nat} {items : List Item} {fault : ParseError}
    (h : tree maxDepth items = .error fault) :
    (∃ left, Item.innermost? left = .error fault) ∨
      (∃ position, fault = .nestingTooDeep maxDepth position) ∨
      ∃ clause, IsClauseOf maxDepth items clause ∧ readClause clause = .error fault := by
  cases hfound : Item.innermost? items with
  | error other =>
      rw [tree_of_error hfound] at h
      cases h
      exact .inl ⟨items, hfound⟩
  | ok enclosure? =>
      cases enclosure? with
      | none =>
          rw [tree_of_none hfound] at h
          exact .inr (.inr ⟨items, .left hfound, h⟩)
      | some e =>
          rw [tree_of_some hfound] at h
          cases hread : readClause e.inside with
          | error other =>
              rw [hread] at h
              cases h
              exact .inr (.inr ⟨e.inside, .inside hfound, hread⟩)
          | ok group =>
              rw [hread, Except.bind] at h
              split at h
              · cases h
                exact .inr (.inl ⟨e.opening.position, rfl⟩)
              · next hdepth =>
                  obtain hscan | htooDeep | ⟨clause, hclause, hfault⟩ := fault_of_tree h
                  · exact .inl hscan
                  · exact .inr (.inl htooDeep)
                  · exact .inr (.inr ⟨clause,
                      .later hfound hread (Nat.not_lt.mp hdepth) hclause, hfault⟩)
termination_by items.length
decreasing_by exact e.length_reduced hfound group

/-! ## Scans and levels -/

namespace Scan

/-- The items that take a scan to the end of the call in which it is, if it is in one. -/
def Completes : Stage → List Item → Prop
  | .between, tail => tail = []
  | stage, tail => ClosesCall stage tail

/-- What a scan has passed since the last opening parenthesis is a level, up to the end of the call
in which the scan is. -/
def Sound (scan : Scan) (stage : Stage) : Prop :=
  ∀ tail, Completes stage tail → IsLevel (scan.inside.reverse ++ tail)

variable {scan : Scan} {stage next : Stage} {items : List Item} {item : Item}

theorem Sound.isLevel (h : scan.Sound .between) : IsLevel scan.inside.reverse := by
  simpa using h [] rfl

theorem Sound.push (h : scan.Sound stage)
    (hitem : ∀ tail, Completes next tail → Completes stage (item :: tail)) :
    (scan.push item).Sound next := by
  intro tail htail
  simpa [Scan.push] using h (item :: tail) (hitem tail htail)

theorem Sound.push_level (h : scan.Sound .between)
    (hitem : ∀ tail, Completes next tail → IsLevel (item :: tail)) :
    (scan.push item).Sound next := by
  intro tail htail
  simpa [Scan.push] using h.isLevel.append (hitem tail htail)

theorem Sound.enter (scan : Scan) (opening : Token) : (scan.enter opening).Sound .between := by
  rintro tail ⟨⟩
  exact .nil

theorem sound_start : ({} : Scan).Sound .between := by
  rintro tail ⟨⟩
  exact .nil

/-- The inside of a pair that a scan finds is a level, and so are all items among which it finds
none. -/
theorem Sound.isLevel_of_run {found : Option Enclosure} (hsound : scan.Sound stage)
    (h : scan.run stage items = .ok found) :
    (∀ e ∈ found, IsLevel e.inside) ∧
      (found = none → scan.opening? = none ∧ IsLevel (scan.inside.reverse ++ items)) := by
  fun_induction run scan stage items with
  | case1 => cases h
  | case2 scan hopening =>
      cases h
      exact ⟨by simp, fun _ => ⟨by simpa using hopening, by simpa using hsound.isLevel⟩⟩
  | case3 => cases h
  | case4 scan item rest hblank ih =>
      have hpush : (scan.push item).Sound .named := hsound.push fun _ => .blank hblank
      simpa [Scan.push] using ih hpush h
  | case5 scan item rest _ hopening ih =>
      have hpush : (scan.push item).Sound .called := hsound.push fun _ => .opening hopening
      simpa [Scan.push] using ih hpush h
  | case6 => cases h
  | case7 scan item rest ih =>
      have hpush : (scan.push item).Sound
          (if item.isKind .closeParen then .between else .called) := hsound.push <| by
        intro tail htail
        split at htail
        · next hclosing =>
            obtain rfl : tail = [] := htail
            exact .closing hclosing
        · next hargument => exact .argument (by simpa using hargument) htail
      simpa [Scan.push] using ih hpush h
  | case8 scan group position rest ih =>
      have hpush : (scan.push (.group group position)).Sound .between := hsound.push_level <| by
        rintro tail ⟨⟩
        exact .group .nil
      simpa [Scan.push] using ih hpush h
  | case9 scan token rest hname ih =>
      have hpush : (scan.push (.token token)).Sound .named :=
        hsound.push_level fun tail htail => by simpa using IsLevel.call hname htail .nil
      simpa [Scan.push] using ih hpush h
  | case10 scan token rest _ _ ih =>
      obtain ⟨hfound, hnone⟩ := ih (.enter scan token) h
      exact ⟨hfound, fun hend => absurd (hnone hend).1 (by simp [Scan.enter])⟩
  | case11 scan token rest _ _ _ opening =>
      cases h
      exact ⟨by simpa using hsound.isLevel, by simp⟩
  | case12 => cases h
  | case13 scan token rest hname hopening hclosing ih =>
      have hpush : (scan.push (.token token)).Sound .between := hsound.push_level <| by
        rintro tail ⟨⟩
        exact .plain (by simpa using hname) hopening hclosing .nil
      simpa [Scan.push] using ih hpush h

end Scan

/-- Every clause that is read is a level. -/
theorem IsClauseOf.isLevel {maxDepth : Nat} {items clause : List Item}
    (h : IsClauseOf maxDepth items clause) : IsLevel clause := by
  induction h with
  | inside hfound => exact (Scan.sound_start.isLevel_of_run hfound).1 _ rfl
  | left hfound => simpa using ((Scan.sound_start.isLevel_of_run hfound).2 rfl).2
  | later _ _ _ _ ih => exact ih

open Clause Grammar Item

/-! ## Calls in a level -/

/-- The arguments of a call are next: an opening parenthesis, and later on a closing one. -/
def OpensCall (items : List Item) : Prop :=
  ∃ opening arguments, Item.next? items = some (.token opening, arguments) ∧
    opening.kind = .openParen ∧ ∃ closing, .token closing ∈ arguments ∧ closing.kind = .closeParen

namespace ClosesCall

variable {stage : Scan.Stage} {tail rest left : List Item}

theorem exists_closing (h : ClosesCall stage tail) :
    ∃ closing, .token closing ∈ tail ∧ closing.kind = .closeParen := by
  induction h with
  | closing hclosing =>
      obtain ⟨closing, rfl, hkind⟩ := eq_token_of_isKind hclosing
      exact ⟨closing, List.mem_cons_self, hkind⟩
  | _ =>
      next ih =>
        obtain ⟨closing, hmem, hkind⟩ := ih
        exact ⟨closing, List.mem_cons_of_mem _ hmem, hkind⟩

theorem next?_of_named (h : ClosesCall stage tail) (hstage : stage = .named) (rest : List Item) :
    ∃ opening arguments, Item.next? (tail ++ rest) = some (.token opening, arguments ++ rest) ∧
      opening.kind = .openParen ∧ ClosesCall .called arguments := by
  induction h with
  | blank hblank _ ih =>
      rw [List.cons_append, Item.next?, if_pos hblank]
      exact ih rfl
  | @opening item arguments hopening harguments =>
      obtain ⟨opening, rfl, hkind⟩ := eq_token_of_isKind hopening
      exact ⟨opening, arguments, Item.next?_token (by simp [hkind]) _, hkind, harguments⟩
  | argument => cases hstage
  | closing => cases hstage

theorem opensCall (h : ClosesCall .named tail) (rest : List Item) : OpensCall (tail ++ rest) := by
  obtain ⟨opening, arguments, hnext, hkind, harguments⟩ := h.next?_of_named rfl rest
  obtain ⟨closing, hmem, hclosing⟩ := harguments.exists_closing
  exact ⟨opening, _, hnext, hkind, closing, List.mem_append_left rest hmem, hclosing⟩

theorem next?_of_called (h : ClosesCall stage tail) (hstage : stage = .called) {item : Item}
    (hnext : Item.next? (tail ++ rest) = some (item, left)) :
    item.isKind .closeParen = true ∧ left = rest ∨
      item.isKind .closeParen = false ∧
        ∃ arguments, left = arguments ++ rest ∧ ClosesCall .called arguments := by
  induction h with
  | blank => cases hstage
  | opening => cases hstage
  | argument hargument harguments ih =>
      rw [List.cons_append, Item.next?] at hnext
      split at hnext
      · exact ih rfl hnext
      · cases hnext
        exact .inr ⟨hargument, _, rfl, harguments⟩
  | closing hclosing =>
      have hsolid := Item.isBlank_eq_false_of_isKind hclosing (by decide)
      rw [List.singleton_append, Item.next?, if_neg (by simp [hsolid])] at hnext
      cases hnext
      exact .inl ⟨hclosing, rfl⟩

theorem next?_of_readArgument (h : ClosesCall .called tail) {argument : Argument} {separator : Item}
    (hread : readArgument (tail ++ rest) = .ok ((argument, separator), left)) :
    separator.isKind .closeParen = true ∧ left = rest ∨
      separator.isKind .closeParen = false ∧
        ∃ arguments, left = arguments ++ rest ∧ ClosesCall .called arguments := by
  obtain ⟨value, after, hvalue, hoperand, _, hseparator⟩ := readArgument_eq_ok_iff.mp hread
  obtain ⟨hclosing, _⟩ | ⟨_, arguments, rfl, harguments⟩ := h.next?_of_called rfl hvalue
  · obtain ⟨closing, rfl, hkind⟩ := eq_token_of_isKind hclosing
    exact absurd hkind ((operand_eq_ok_iff.mp hoperand).kind_ne (by decide))
  · exact harguments.next?_of_called rfl hseparator

theorem eq_of_readArguments (h : ClosesCall .called tail) {first : Argument}
    {others : List Argument}
    (hread : readArguments (tail ++ rest) = .ok ((first, others), left)) : left = rest := by
  induction others generalizing tail first with
  | nil =>
      obtain ⟨separator, after, hargument, ⟨hclosing, _, rfl⟩ | ⟨_, _, _, _, _, hothers⟩⟩ :=
        readArguments_eq_ok_iff.mp hread
      · obtain ⟨_, rfl⟩ | ⟨hopen, _⟩ := h.next?_of_readArgument hargument
        · rfl
        · rw [hclosing] at hopen
          cases hopen
      · cases hothers
  | cons next others ih =>
      obtain ⟨separator, after, hargument, ⟨_, hothers, _⟩ | ⟨hopen, _, _, _, hmore, hothers⟩⟩ :=
        readArguments_eq_ok_iff.mp hread
      · cases hothers
      · cases hothers
        obtain ⟨hclosing, _⟩ | ⟨_, arguments, rfl, harguments⟩ := h.next?_of_readArgument hargument
        · rw [hclosing] at hopen
          cases hopen
        · exact ih harguments hmore

theorem eq_of_readMethod (h : ClosesCall .named tail) {method : MethodName} {position : Nat}
    {node : Node} (hread : readMethod method position (tail ++ rest) = .ok (node, left)) :
    left = rest := by
  obtain ⟨opening, after, first, others, hopening, _, _, harguments, _⟩ :=
    readMethod_eq_ok_iff.mp hread
  obtain ⟨_, arguments, hnext, _, hcalled⟩ := h.next?_of_named rfl rest
  rw [hnext] at hopening
  cases hopening
  exact hcalled.eq_of_readArguments harguments

end ClosesCall

/-! ## Members in a level -/

namespace IsLevel

variable {items rest : List Item} {item : Item}

theorem of_next? (h : IsLevel items) (hnext : next? items = some (item, rest)) :
    IsLevel (item :: rest) := by
  induction h with
  | nil => cases hnext
  | group hrest =>
      cases hnext
      exact .group hrest
  | plain hname hopening hclosing hrest ih =>
      rw [next?] at hnext
      split at hnext
      · exact ih hnext
      · cases hnext
        exact .plain hname hopening hclosing hrest
  | call hname htail hrest =>
      rw [next?_token (Token.kind_ne_whitespace_of_isMethod hname)] at hnext
      cases hnext
      exact .call hname htail hrest

theorem tail_cases (h : IsLevel (item :: rest)) :
    IsLevel rest ∨ ∃ name, item = .token name ∧ name.isMethod = true ∧ OpensCall rest := by
  cases h with
  | group hrest => exact .inl hrest
  | plain _ _ _ hrest => exact .inl hrest
  | call hname htail => exact .inr ⟨_, rfl, hname, htail.opensCall _⟩

/-- The name of a method is followed by its arguments. -/
theorem opensCall (h : IsLevel items) {name : Token} (hnext : next? items = some (.token name, rest))
    (hname : name.isMethod = true) : OpensCall rest := by
  cases h.of_next? hnext with
  | plain hplain => simp [hname] at hplain
  | call _ htail => exact htail.opensCall _

theorem of_comparison? {op : ComparisonOp} (h : IsLevel (item :: rest))
    (hop : item.comparison? = some op) : IsLevel rest := by
  obtain hrest | ⟨name, rfl, hname, _⟩ := h.tail_cases
  · exact hrest
  · rw [eq_word_of_comparison? hop, isMethod_comparison] at hname
    cases hname

theorem of_connective? {connective : Connective} (h : IsLevel (item :: rest))
    (hconnective : item.connective? = some connective) : IsLevel rest := by
  obtain hrest | ⟨name, rfl, hname, _⟩ := h.tail_cases
  · exact hrest
  · rw [eq_word_of_connective? hconnective, isMethod_word] at hname
    cases hname

/-- What is left of a level after a member is a level.  Only when the name of a method stands on the
right of a comparison are the arguments left that belong to it. -/
theorem of_readMember {node : Node} (h : IsLevel items)
    (hread : readMember items = .ok (node, rest)) : IsLevel rest ∨ OpensCall rest := by
  obtain ⟨group, position, hgroup, _⟩ | ⟨word, tail, hword, hkind, hleaf⟩ :=
    readMember_eq_ok_iff.mp hread
  · cases h.of_next? hgroup with
    | group hrest => exact .inl hrest
  · obtain ⟨method, hmethod, hcall⟩ | ⟨hnone, hcomparison⟩ := hleaf
    · have hname : word.isMethod = true := by simp [Token.isMethod_eq, hkind, hmethod]
      cases h.of_next? hword with
      | plain hplain => simp [hname] at hplain
      | call _ htail hrest =>
          obtain rfl := htail.eq_of_readMethod hcall
          exact .inl hrest
    · obtain ⟨_, op, right, _, _, hrelation, _⟩ := readComparison_eq_ok_iff.mp hcomparison
      obtain ⟨found, after, value, hfound, hop, hvalue, _⟩ := readRelation_eq_ok_iff.mp hrelation
      have hname : word.isMethod = false := by simp [Token.isMethod_eq, hnone]
      obtain htail | ⟨_, hsame, hother, _⟩ := (h.of_next? hword).tail_cases
      · have hafter := (htail.of_next? hfound).of_comparison? hop
        obtain hrest | ⟨_, _, _, hcall⟩ := (hafter.of_next? hvalue).tail_cases
        · exact .inl hrest
        · exact .inr hcall
      · cases hsame
        rw [hname] at hother
        cases hother

theorem of_readJoined {joint : Option Connective} {node : Node} {connective : Connective}
    (h : IsLevel items) (hread : readJoined joint items = .ok (node, some (connective, rest))) :
    IsLevel rest := by
  obtain ⟨after, hmember, ⟨_, hresult⟩ | ⟨item, left, found, hnext, hfound, _, hresult⟩⟩ :=
    readJoined_eq_ok_iff.mp hread
  · cases hresult
  · cases hresult
    obtain hafter | ⟨opening, arguments, hopening, hkind, _⟩ := h.of_readMember hmember
    · exact (hafter.of_next? hnext).of_connective? hfound
    · rw [hopening] at hnext
      cases hnext
      simp [connective?_eq_some_iff, hkind] at hfound

end IsLevel

/-- Reading items comes to the given ones as the start of a member. -/
inductive StartsMember : Option Connective → List Item → List Item → Prop
  | first {joint : Option Connective} {items : List Item} : StartsMember joint items items
  | next {joint : Option Connective} {items rest member : List Item} {node : Node}
      {connective : Connective} :
      readJoined joint items = .ok (node, some (connective, rest)) →
      StartsMember (some connective) rest member → StartsMember joint items member

/-- Members of a level start where a level does. -/
theorem StartsMember.isLevel {joint : Option Connective} {items member : List Item}
    (h : StartsMember joint items member) (hitems : IsLevel items) : IsLevel member := by
  induction h with
  | first => exact hitems
  | next hjoined _ ih => exact ih (hitems.of_readJoined hjoined)

end DocumentFilter
