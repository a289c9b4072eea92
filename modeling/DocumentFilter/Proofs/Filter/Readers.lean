import DocumentFilter.Filter.Clause

/-!
# When the readers succeed

For every reader of a clause: it succeeds just when the items are found that it looks for, its
result is made from them, and what it leaves are the items behind them.
-/

namespace DocumentFilter

theorem Token.operand_eq_error {token : Token} {fault : ParseError}
    (h : token.operand = .error fault) :
    ∃ expected, expected ≠ .property ∧ expected ≠ .string ∧ expected ≠ .openParen ∧
      fault = .unexpectedToken expected token.sourceText token.position := by
  revert h
  fun_cases Token.operand token <;> rintro ⟨⟩ <;>
    exact ⟨_, by decide, by decide, by decide, rfl⟩

theorem Item.operand_eq_error {item : Item} {fault : ParseError}
    (h : item.operand = .error fault) :
    ∃ expected, expected ≠ .property ∧ expected ≠ .string ∧ expected ≠ .openParen ∧
      fault = .unexpectedToken expected item.messageText item.position := by
  cases item with
  | token token => exact Token.operand_eq_error h
  | group group position =>
      cases h
      exact ⟨.simpleValue, by decide, by decide, by decide, rfl⟩

namespace Clause

open Item

variable {items rest : List Item} {node : Node}

theorem readArgument_eq_ok_iff {argument : Argument} {separator : Item} :
    readArgument items = .ok ((argument, separator), rest) ↔
      ∃ item tail, next? items = some (item, tail) ∧ item.operand = .ok argument.operand ∧
        item.position = argument.position ∧ next? tail = some (separator, rest) := by
  constructor
  · fun_cases readArgument items with
    | case4 item tail hitem operand separator left hseparator hoperand =>
        intro h
        cases h
        exact ⟨item, tail, hitem, hoperand, rfl, hseparator⟩
    | _ =>
        intro h
        cases h
  · rintro ⟨item, tail, hitem, hoperand, hposition, hseparator⟩
    simp [readArgument, hitem, hoperand, hposition, hseparator]

theorem readArguments_eq_ok_iff {first : Argument} {others : List Argument} :
    readArguments items = .ok ((first, others), rest) ↔
      ∃ separator tail, readArgument items = .ok ((first, separator), tail) ∧
        (separator.isKind .closeParen = true ∧ others = [] ∧ rest = tail ∨
          separator.isKind .closeParen = false ∧ separator.isComma = true ∧
            ∃ next more, readArguments tail = .ok ((next, more), rest) ∧
              others = next :: more) := by
  constructor
  · fun_cases readArguments items with
    | case2 argument separator tail hargument hclosing =>
        intro h
        cases h
        exact ⟨separator, _, hargument, .inl ⟨hclosing, rfl, rfl⟩⟩
    | case3 argument separator tail hargument hclosing hcomma =>
        intro h
        obtain ⟨⟨⟨next, more⟩, left⟩, hmore, hresult⟩ := Except.map_eq_ok_iff.mp h
        cases hresult
        exact ⟨separator, tail, hargument,
          .inr ⟨by simpa using hclosing, hcomma, next, more, hmore, rfl⟩⟩
    | _ =>
        intro h
        cases h
  · rintro ⟨separator, tail, hargument, ⟨hclosing, rfl, rfl⟩ |
      ⟨hclosing, hcomma, next, more, hmore, rfl⟩⟩
    · rw [readArguments, hargument]
      simp [hclosing]
    · rw [readArguments, hargument]
      simp [hclosing, hcomma, hmore, Except.map]

theorem readMethod_eq_ok_iff {method : MethodName} {position : Nat} :
    readMethod method position items = .ok (node, rest) ↔
      ∃ opening tail first others, next? items = some (opening, tail) ∧
        opening.isKind .openParen = true ∧
        (next? tail).any (·.1.isKind .closeParen) = false ∧
        readArguments tail = .ok ((first, others), rest) ∧
        checkArguments method position first others = .ok () ∧
        node = .method method (first.operand :: others.map (·.operand)) := by
  constructor
  · fun_cases readMethod method position items with
    | case6 opening tail hopening hparen hempty first others left harguments hcheck =>
        intro h
        cases h
        exact ⟨opening, tail, first, others, hopening, by simpa using hparen,
          by simpa using hempty, harguments, hcheck, rfl⟩
    | _ =>
        intro h
        cases h
  · rintro ⟨opening, tail, first, others, hopening, hparen, hempty, harguments, hcheck, rfl⟩
    simp [readMethod, hopening, hparen, hempty, harguments, hcheck]

theorem readRelation_eq_ok_iff {op : ComparisonOp} {right : Operand} :
    readRelation items = .ok ((op, right), rest) ↔
      ∃ item tail value, next? items = some (item, tail) ∧ item.comparison? = some op ∧
        next? tail = some (value, rest) ∧ value.operand = .ok right := by
  constructor
  · fun_cases readRelation items with
    | case4 item tail hitem op value left hvalue hop =>
        intro h
        obtain ⟨operand, hoperand, hresult⟩ := Except.map_eq_ok_iff.mp h
        cases hresult
        exact ⟨item, tail, value, hitem, hop, hvalue, hoperand⟩
    | _ =>
        intro h
        cases h
  · rintro ⟨item, tail, value, hitem, hop, hvalue, hoperand⟩
    simp [readRelation, hitem, hop, hvalue, hoperand, Except.map]

theorem readComparison_eq_ok_iff {word : Token} :
    readComparison word items = .ok (node, rest) ↔
      ∃ left op right, word.operand = .ok left ∧ left.isProperty = true ∧
        readRelation items = .ok ((op, right), rest) ∧ node = .comparison op left right := by
  constructor
  · fun_cases readComparison word items with
    | case3 left hleft hproperty =>
        intro h
        obtain ⟨⟨⟨op, right⟩, tail⟩, hrelation, hresult⟩ := Except.map_eq_ok_iff.mp h
        cases hresult
        exact ⟨left, op, right, hleft, by simpa using hproperty, hrelation, rfl⟩
    | _ =>
        intro h
        cases h
  · rintro ⟨left, op, right, hleft, hproperty, hrelation, rfl⟩
    simp [readComparison, hleft, hproperty, hrelation, Except.map]

/-- A member is a group that has been put together, a call or a comparison. -/
theorem readMember_eq_ok_iff :
    readMember items = .ok (node, rest) ↔
      (∃ group position, next? items = some (.group group position, rest) ∧
        node = group.toNode) ∨
      ∃ token tail, next? items = some (.token token, tail) ∧ token.kind = .word ∧
        ((∃ method, MethodName.ofWord? token.text = some method ∧
            readMethod method token.position tail = .ok (node, rest)) ∨
          MethodName.ofWord? token.text = none ∧ readComparison token tail = .ok (node, rest)) := by
  constructor
  · fun_cases readMember items with
    | case2 group position tail hgroup =>
        intro h
        cases h
        exact .inl ⟨group, position, hgroup, rfl⟩
    | case3 token tail htoken hword method hmethod =>
        exact fun h => .inr ⟨token, tail, htoken, hword, .inl ⟨method, hmethod, h⟩⟩
    | case4 token tail htoken hword hmethod =>
        exact fun h => .inr ⟨token, tail, htoken, hword, .inr ⟨hmethod, h⟩⟩
    | _ =>
        intro h
        cases h
  · rintro (⟨group, position, hgroup, rfl⟩ |
      ⟨token, tail, htoken, hword, ⟨method, hmethod, hread⟩ | ⟨hmethod, hread⟩⟩)
    · simp [readMember, hgroup]
    · simp [readMember, htoken, hword, hmethod, hread]
    · simp [readMember, htoken, hword, hmethod, hread]

/-- A member is the last one, or a connective follows that has not been another before. -/
theorem readJoined_eq_ok_iff {joint : Option Connective}
    {result : Option (Connective × List Item)} :
    readJoined joint items = .ok (node, result) ↔
      ∃ tail, readMember items = .ok (node, tail) ∧
        (next? tail = none ∧ result = none ∨
          ∃ item left connective, next? tail = some (item, left) ∧
            item.connective? = some connective ∧ (∀ other ∈ joint, other = connective) ∧
            result = some (connective, left)) := by
  constructor
  · fun_cases readJoined joint items with
    | case2 node tail hmember hend =>
        intro h
        cases h
        exact ⟨tail, hmember, .inl ⟨hend, rfl⟩⟩
    | case5 node tail hmember item left hnext connective hconnective hjoint =>
        intro h
        cases h
        refine ⟨tail, hmember, .inr ⟨item, left, connective, hnext, hconnective, ?_, rfl⟩⟩
        intro other hother
        cases hother
        simpa using hjoint
    | _ =>
        intro h
        cases h
  · rintro ⟨tail, hmember, ⟨hend, rfl⟩ | ⟨item, left, connective, hnext, hconnective, hjoint, rfl⟩⟩
    · simp [readJoined, hmember, hend]
    · have hsame : joint.any (· ≠ connective) = false := by
        cases joint with
        | none => rfl
        | some other => simp [hjoint other rfl]
      simp only [readJoined, hmember, hnext, hconnective, hsame]
      rfl

/-- Members are the last one, or one and the members that are joined to it. -/
theorem readMembers_eq_ok_iff {joint result : Option Connective} {nodes : List Node} :
    readMembers joint items = .ok (result, nodes) ↔
      (∃ node, readJoined joint items = .ok (node, none) ∧ result = joint ∧ nodes = [node]) ∨
      ∃ node connective rest others,
        readJoined joint items = .ok (node, some (connective, rest)) ∧
          readMembers (some connective) rest = .ok (result, others) ∧ nodes = node :: others := by
  constructor
  · fun_cases readMembers joint items with
    | case2 node hlast =>
        intro h
        cases h
        exact .inl ⟨node, hlast, rfl, rfl⟩
    | case3 node connective rest hjoined =>
        intro h
        obtain ⟨⟨found, others⟩, hmore, hresult⟩ := Except.map_eq_ok_iff.mp h
        cases hresult
        exact .inr ⟨node, connective, rest, others, hjoined, hmore, rfl⟩
    | _ =>
        intro h
        cases h
  · rintro (⟨node, hlast, rfl, rfl⟩ | ⟨node, connective, rest, others, hjoined, hmore, rfl⟩)
    · rw [readMembers, hlast]
    · rw [readMembers, hjoined]
      simp [hmore, Except.map]

/-! ## What is left -/

theorem suffix_cons_of_next? {item : Item} (h : next? items = some (item, rest)) :
    item :: rest <:+ items := by
  induction items with
  | nil => cases h
  | cons first items ih =>
      rw [next?] at h
      split at h
      · exact (ih h).trans (List.suffix_cons first items)
      · cases h
        exact List.suffix_rfl

theorem mem_of_next? {item : Item} (h : next? items = some (item, rest)) : item ∈ items :=
  (suffix_cons_of_next? h).subset List.mem_cons_self

theorem suffix_of_next? {item : Item} (h : next? items = some (item, rest)) : rest <:+ items :=
  (List.suffix_cons item rest).trans (suffix_cons_of_next? h)

theorem suffix_of_readArgument {argument : Argument × Item}
    (h : readArgument items = .ok (argument, rest)) : rest <:+ items := by
  obtain ⟨argument, separator⟩ := argument
  obtain ⟨_, _, hitem, _, _, hseparator⟩ := readArgument_eq_ok_iff.mp h
  exact (suffix_of_next? hseparator).trans (suffix_of_next? hitem)

theorem suffix_of_readArguments {arguments : Argument × List Argument}
    (h : readArguments items = .ok (arguments, rest)) : rest <:+ items := by
  fun_induction readArguments items generalizing arguments rest with
  | case2 items argument separator tail hargument _ =>
      cases h
      exact suffix_of_readArgument hargument
  | case3 items argument separator tail hargument _ _ ih =>
      obtain ⟨_, hmore, hresult⟩ := Except.map_eq_ok_iff.mp h
      cases hresult
      exact (ih hmore).trans (suffix_of_readArgument hargument)
  | _ => cases h

theorem suffix_of_readRelation {relation : ComparisonOp × Operand}
    (h : readRelation items = .ok (relation, rest)) : rest <:+ items := by
  obtain ⟨op, right⟩ := relation
  obtain ⟨_, _, _, hitem, _, hvalue, _⟩ := readRelation_eq_ok_iff.mp h
  exact (suffix_of_next? hvalue).trans (suffix_of_next? hitem)

theorem suffix_of_readMember (h : readMember items = .ok (node, rest)) : rest <:+ items := by
  obtain ⟨_, _, hgroup, _⟩ | ⟨token, tail, htoken, _, ⟨_, _, hcall⟩ | ⟨_, hcomparison⟩⟩ :=
    readMember_eq_ok_iff.mp h
  · exact suffix_of_next? hgroup
  · obtain ⟨_, _, _, _, hopening, _, _, harguments, _⟩ := readMethod_eq_ok_iff.mp hcall
    exact (suffix_of_readArguments harguments).trans
      ((suffix_of_next? hopening).trans (suffix_of_next? htoken))
  · obtain ⟨_, _, _, _, _, hrelation, _⟩ := readComparison_eq_ok_iff.mp hcomparison
    exact (suffix_of_readRelation hrelation).trans (suffix_of_next? htoken)

theorem suffix_of_readJoined {joint : Option Connective} {connective : Connective}
    (h : readJoined joint items = .ok (node, some (connective, rest))) : rest <:+ items := by
  obtain ⟨tail, hmember, ⟨_, hresult⟩ | ⟨_, _, _, hnext, _, _, hresult⟩⟩ := readJoined_eq_ok_iff.mp h
  · cases hresult
  · cases hresult
    exact (suffix_of_next? hnext).trans (suffix_of_readMember hmember)

end Clause

theorem readClause_eq_ok_iff {items : List Item} {group : Group} :
    readClause items = .ok group ↔
      Clause.readMembers none items = .ok (group.connective, group.members) := by
  rw [readClause, Except.map_eq_ok_iff]
  constructor
  · rintro ⟨⟨connective, members⟩, hmembers, rfl⟩
    exact hmembers
  · intro hmembers
    exact ⟨(group.connective, group.members), hmembers, rfl⟩

end DocumentFilter
