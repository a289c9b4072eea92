import DocumentFilter.Error
import DocumentFilter.Fallible
import DocumentFilter.Filter.Basic
import DocumentFilter.Token.Basic

/-!
# Clauses

A clause is a run of items in which every inner group has been put together already.  Reading it
gives its members, joined by a single connective.  Spaces may stand between any two items and are
passed over.
-/

namespace DocumentFilter

/-- A token, or a group that has been put together. -/
inductive Item where
  | token (token : Token)
  /-- A group, at the place of its opening parenthesis. -/
  | group (group : Group) (position : Nat)

namespace Item

/-- Where the item starts. -/
def position : Item → Nat
  | token t => t.position
  | group _ position => position

/-- The item is a token of a kind. -/
def isKind (kind : TokenKind) : Item → Bool
  | token t => t.kind = kind
  | group _ _ => false

/-- The item is a run of spaces. -/
def isBlank (item : Item) : Bool := item.isKind .whitespace

/-- The item as the messages spell it. -/
def messageText : Item → String
  | token t => t.sourceText
  | group _ _ => "(...)"

/-- The item parts two arguments. -/
def isComma : Item → Bool
  | token t => t.kind = .symbol && t.text = ","
  | group _ _ => false

/-- The connective that the item stands for. -/
def connective? : Item → Option Connective
  | token t => if t.isLogical then Connective.ofWord? t.text else none
  | group _ _ => none

/-- The comparison that the item stands for. -/
def comparison? : Item → Option ComparisonOp
  | token t => if t.isComparison then ComparisonOp.ofWord? t.text else none
  | group _ _ => none

theorem connective?_eq_some_iff {t : Token} {connective : Connective} :
    (token t).connective? = some connective ↔
      t.kind = .word ∧ Connective.ofWord? t.text = some connective := by
  rw [connective?, Token.isLogical_eq]
  by_cases hword : t.kind = .word
  · cases Connective.ofWord? t.text <;> simp [hword]
  · simp [hword]

theorem comparison?_eq_some_iff {t : Token} {op : ComparisonOp} :
    (token t).comparison? = some op ↔
      t.kind = .word ∧ ComparisonOp.ofWord? t.text = some op := by
  rw [comparison?, Token.isComparison_eq]
  by_cases hword : t.kind = .word
  · cases ComparisonOp.ofWord? t.text <;> simp [hword]
  · simp [hword]

/-- The first item that is not a run of spaces, and the items that follow it. -/
def next? : List Item → Option (Item × List Item)
  | [] => none
  | item :: rest => if item.isBlank then next? rest else some (item, rest)

/-- The next item is taken from the front of the items. -/
theorem length_next? {items rest : List Item} {item : Item}
    (h : next? items = some (item, rest)) : rest.length < items.length := by
  induction items with
  | nil => cases h
  | cons first items ih =>
    rw [next?] at h
    split at h
    · have := ih h
      simp only [List.length_cons]
      omega
    · cases h
      simp

end Item

namespace Token

/-- The operand that a word stands for. -/
def wordOperand : String → Operand
  | "true" => .literal (.boolean true)
  | "false" => .literal (.boolean false)
  | "null" => .literal (.string none)
  | name => .property name

/-- The operand that a token stands for. -/
def operand (token : Token) : Except ParseError Operand :=
  let unexpected expected := .error (.unexpectedToken expected token.sourceText token.position)
  match token.kind with
  | .string => .ok (.literal (.string (some token.text)))
  | .word => .ok (wordOperand token.text)
  | .number =>
    match Decimal.signed64? token.text.toList with
    | some n => .ok (.literal (.number n))
    | none => unexpected .number
  | .date =>
    match Instant.ofText? token.text.toList with
    | some instant => .ok (.literal (.date instant))
    | none => unexpected .date
  | _ => unexpected .simpleValue

end Token

namespace Item

/-- The operand that an item stands for; a group stands for none. -/
def operand : Item → Except ParseError Operand
  | token t => t.operand
  | group g position =>
    .error (.unexpectedToken .simpleValue (group g position).messageText position)

end Item

namespace Clause

/-- An argument of a method, and where it stands. -/
structure Argument where
  operand : Operand
  position : Nat

/-- An argument, the item that parts it from what follows, and the items after that. -/
def readArgument (items : List Item) : Except ParseError ((Argument × Item) × List Item) :=
  match Item.next? items with
  | none => .error .unexpectedEndOfExpression
  | some (item, rest) =>
    match item.operand, Item.next? rest with
    | .error e, _ => .error e
    | .ok _, none => .error .unexpectedEndOfExpression
    | .ok operand, some (separator, rest) => .ok ((⟨operand, item.position⟩, separator), rest)

/-- An argument is taken from the front of the items. -/
theorem length_readArgument {items rest : List Item} {argument : Argument × Item}
    (h : readArgument items = .ok (argument, rest)) : rest.length < items.length := by
  revert h
  fun_cases readArgument items with
  | case4 item tail hitem operand separator left hseparator _ =>
    intro h
    cases h
    exact Nat.lt_trans (Item.length_next? hseparator) (Item.length_next? hitem)
  | _ =>
    intro h
    cases h

/-- The arguments up to the closing parenthesis, of which there is a first one, and the items that
follow it. -/
def readArguments (items : List Item) :
    Except ParseError ((Argument × List Argument) × List Item) :=
  match _h : readArgument items with
  | .error e => .error e
  | .ok ((argument, separator), rest) =>
    if separator.isKind .closeParen then .ok ((argument, []), rest)
    else if separator.isComma then
      (readArguments rest).map fun ((next, others), rest) => ((argument, next :: others), rest)
    else .error (.missingArgumentSeparator separator.messageText separator.position)
termination_by items.length
decreasing_by exact length_readArgument ‹readArgument items = _›

/-- Checks the arguments of a method: the first names a property, their number is the method's,
and a method that looks into a text is given one. -/
def checkArguments (method : MethodName) (position : Nat) (first : Argument)
    (others : List Argument) : Except ParseError Unit :=
  if !first.operand.isProperty then
    .error (.unexpectedToken .property first.operand.messageText position)
  else
    match method.arity? with
    | none => .ok ()
    | some arity =>
      if others.length + 1 ≠ arity then
        .error (.wrongArgumentCount method.word arity (others.length + 1) position)
      else
        match others.find? (!·.operand.isText) with
        | none => .ok ()
        | some wrong =>
          .error (.unexpectedToken .string wrong.operand.messageText wrong.position)

/-- The call of a method whose name has been read. -/
def readMethod (method : MethodName) (position : Nat) (items : List Item) :
    Except ParseError (Node × List Item) :=
  match Item.next? items with
  | none => .error .unexpectedEndOfExpression
  | some (opening, rest) =>
    if !opening.isKind .openParen then
      .error (.unexpectedToken .openParen opening.messageText opening.position)
    else if (Item.next? rest).any (·.1.isKind .closeParen) then
      .error (.missingMethodArguments method.word position)
    else
      match readArguments rest with
      | .error e => .error e
      | .ok ((first, others), rest) =>
        match checkArguments method position first others with
        | .error e => .error e
        | .ok () => .ok (.method method (first.operand :: others.map (·.operand)), rest)

/-- The operator and the right side of a comparison. -/
def readRelation (items : List Item) : Except ParseError ((ComparisonOp × Operand) × List Item) :=
  match Item.next? items with
  | none => .error .unexpectedEndOfExpression
  | some (item, rest) =>
    match item.comparison?, Item.next? rest with
    | none, _ => .error (.expectedComparisonOperator item.messageText item.position)
    | some _, none => .error .unexpectedEndOfExpression
    | some op, some (item, rest) => item.operand.map fun right => ((op, right), rest)

/-- The comparison whose first word has been read. -/
def readComparison (word : Token) (items : List Item) : Except ParseError (Node × List Item) :=
  match word.operand with
  | .error e => .error e
  | .ok left =>
    if !left.isProperty then .error (.unexpectedToken .property word.sourceText word.position)
    else (readRelation items).map fun ((op, right), rest) => (.comparison op left right, rest)

/-- One member, and the items that follow it. -/
def readMember (items : List Item) : Except ParseError (Node × List Item) :=
  match Item.next? items with
  | none => .error .unexpectedEndOfExpression
  | some (.group group _, rest) => .ok (group.toNode, rest)
  | some (.token token, rest) =>
    if token.kind = .word then
      match MethodName.ofWord? token.text with
      | some method => readMethod method token.position rest
      | none => readComparison token rest
    else .error (.expectedWord token.sourceText token.position)

/-- Arguments are taken from the front of the items. -/
theorem length_readArguments {items rest : List Item} {arguments : Argument × List Argument}
    (h : readArguments items = .ok (arguments, rest)) : rest.length < items.length := by
  fun_induction readArguments items generalizing arguments rest with
  | case2 items argument separator tail hargument _ =>
    cases h
    exact length_readArgument hargument
  | case3 items argument separator tail hargument _ _ ih =>
    obtain ⟨_, hmore, hresult⟩ := Except.map_eq_ok_iff.mp h
    cases hresult
    exact Nat.lt_trans (ih hmore) (length_readArgument hargument)
  | _ => cases h

/-- A method call is taken from the front of the items. -/
theorem length_readMethod {method : MethodName} {position : Nat} {items rest : List Item}
    {node : Node} (h : readMethod method position items = .ok (node, rest)) :
    rest.length < items.length := by
  revert h
  fun_cases readMethod method position items with
  | case6 opening tail hopening _ _ first others left harguments _ =>
    intro h
    cases h
    exact Nat.lt_trans (length_readArguments harguments) (Item.length_next? hopening)
  | _ =>
    intro h
    cases h

/-- An operator and the right side are taken from the front of the items. -/
theorem length_readRelation {items rest : List Item} {relation : ComparisonOp × Operand}
    (h : readRelation items = .ok (relation, rest)) : rest.length < items.length := by
  revert h
  fun_cases readRelation items with
  | case4 first tail hfirst op item left hitem _ =>
    intro h
    obtain ⟨operand, _, hresult⟩ := Except.map_eq_ok_iff.mp h
    cases hresult
    exact Nat.lt_trans (Item.length_next? hitem) (Item.length_next? hfirst)
  | _ =>
    intro h
    cases h

/-- A comparison is taken from the front of the items. -/
theorem length_readComparison {word : Token} {items rest : List Item} {node : Node}
    (h : readComparison word items = .ok (node, rest)) : rest.length < items.length := by
  revert h
  fun_cases readComparison word items with
  | case3 =>
    intro h
    obtain ⟨⟨relation, tail⟩, hrelation, hresult⟩ := Except.map_eq_ok_iff.mp h
    cases hresult
    exact length_readRelation hrelation
  | _ =>
    intro h
    cases h

/-- A member is taken from the front of the items. -/
theorem length_readMember {items rest : List Item} {node : Node}
    (h : readMember items = .ok (node, rest)) : rest.length < items.length := by
  revert h
  fun_cases readMember items with
  | case2 group position tail hgroup =>
    intro h
    cases h
    exact Item.length_next? hgroup
  | case3 token tail htoken =>
    exact fun h => Nat.lt_trans (length_readMethod h) (Item.length_next? htoken)
  | case4 token tail htoken =>
    exact fun h => Nat.lt_trans (length_readComparison h) (Item.length_next? htoken)
  | _ =>
    intro h
    cases h

/-- A member, and the connective that joins it with more and the items after that, unless the
member is the last.  The connective that joins what has been read before, if any, has to come
again. -/
def readJoined (joint : Option Connective) (items : List Item) :
    Except ParseError (Node × Option (Connective × List Item)) :=
  match readMember items with
  | .error e => .error e
  | .ok (node, rest) =>
    match Item.next? rest with
    | none => .ok (node, none)
    | some (item, rest) =>
      match item.connective? with
      | none => .error (.expectedLogicalOperator item.messageText item.position)
      | some connective =>
        if joint.any (· ≠ connective) then .error (.mixedOperatorsWithoutGrouping item.position)
        else .ok (node, some (connective, rest))

/-- A member with a connective is taken from the front of the items. -/
theorem length_readJoined {joint : Option Connective} {items rest : List Item} {node : Node}
    {connective : Connective}
    (h : readJoined joint items = .ok (node, some (connective, rest))) :
    rest.length < items.length := by
  revert h
  fun_cases readJoined joint items with
  | case5 found tail hmember item left hnext =>
    intro h
    cases h
    exact Nat.lt_trans (Item.length_next? hnext) (length_readMember hmember)
  | _ =>
    intro h
    cases h

/-- Members up to the end of the items, joined by one connective. -/
def readMembers (joint : Option Connective) (items : List Item) :
    Except ParseError (Option Connective × List Node) :=
  match _h : readJoined joint items with
  | .error e => .error e
  | .ok (node, none) => .ok (joint, [node])
  | .ok (node, some (connective, rest)) =>
    (readMembers (some connective) rest).map fun (connective, nodes) => (connective, node :: nodes)
termination_by items.length
decreasing_by exact length_readJoined ‹readJoined joint items = _›

end Clause

/-- Reads a run of items without parentheses for grouping. -/
def readClause (items : List Item) : Except ParseError Group :=
  (Clause.readMembers none items).map fun (connective, members) => ⟨connective, members⟩

end DocumentFilter
