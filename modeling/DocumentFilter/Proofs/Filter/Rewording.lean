import DocumentFilter.Proofs.Filter.Spacing

/-!
# Other texts and other places

Reading looks at the kinds of tokens and at their words, but neither at what is written between
quotes nor at the places of tokens.  If both are changed throughout an expression, its tree has the
changed texts in the same places, or its fault is the same one and shows the changed text and place.
-/

namespace DocumentFilter

/-- A change of the quoted texts of an expression and of its places. -/
structure Rewording where
  text : String → String
  place : Nat → Nat

namespace Operand

/-- The operand with a change made to its text, if it is one. -/
def mapText (f : String → String) : Operand → Operand
  | literal (.string (some text)) => .literal (.string (some (f text)))
  | operand => operand

end Operand

namespace Node

mutual

/-- The node with a change made to every text. -/
def mapText (f : String → String) : Node → Node
  | comparison op left right => .comparison op (left.mapText f) (right.mapText f)
  | method name arguments => .method name (arguments.map (Operand.mapText f))
  | group connective members => .group connective (mapTextOfMembers f members)

/-- The nodes with a change made to every text. -/
def mapTextOfMembers (f : String → String) : List Node → List Node
  | [] => []
  | node :: rest => node.mapText f :: mapTextOfMembers f rest

end

end Node

/-- The group with a change made to every text. -/
def Group.mapText (f : String → String) (group : Group) : Group :=
  ⟨group.connective, Node.mapTextOfMembers f group.members⟩

/-- The reworded token. -/
def Token.reword (r : Rewording) (token : Token) : Token where
  kind := token.kind
  text := if token.kind = .string then r.text token.text else token.text
  position := r.place token.position

/-- The reworded item. -/
def Item.reword (r : Rewording) : Item → Item
  | token t => .token (t.reword r)
  | group g position => .group (g.mapText r.text) (r.place position)

/-- The reworded argument. -/
def Clause.Argument.reword (r : Rewording) (argument : Argument) : Argument :=
  ⟨argument.operand.mapText r.text, r.place argument.position⟩

/-- Two faults with the same cause.  They may differ in what was found and in the place, but only as
the relations allow. -/
inductive ParseError.Alike (found : String → String → Prop) (place : Nat → Nat → Prop) :
    ParseError → ParseError → Prop
  | unexpectedEndOfExpression :
      Alike found place .unexpectedEndOfExpression .unexpectedEndOfExpression
  | expectedWord {text text' : String} {position position' : Nat} :
      found text text' → place position position' →
      Alike found place (.expectedWord text position) (.expectedWord text' position')
  | expectedLogicalOperator {text text' : String} {position position' : Nat} :
      found text text' → place position position' →
      Alike found place (.expectedLogicalOperator text position)
        (.expectedLogicalOperator text' position')
  | expectedComparisonOperator {text text' : String} {position position' : Nat} :
      found text text' → place position position' →
      Alike found place (.expectedComparisonOperator text position)
        (.expectedComparisonOperator text' position')
  | mixedOperatorsWithoutGrouping {position position' : Nat} :
      place position position' →
      Alike found place (.mixedOperatorsWithoutGrouping position)
        (.mixedOperatorsWithoutGrouping position')
  | missingMethodArguments {method : String} {position position' : Nat} :
      place position position' →
      Alike found place (.missingMethodArguments method position)
        (.missingMethodArguments method position')
  | missingArgumentSeparator {text text' : String} {position position' : Nat} :
      found text text' → place position position' →
      Alike found place (.missingArgumentSeparator text position)
        (.missingArgumentSeparator text' position')
  | unexpectedToken {expected : Expectation} {text text' : String} {position position' : Nat} :
      found text text' → place position position' →
      Alike found place (.unexpectedToken expected text position)
        (.unexpectedToken expected text' position')
  | wrongArgumentCount {method : String} {expected count position position' : Nat} :
      place position position' →
      Alike found place (.wrongArgumentCount method expected count position)
        (.wrongArgumentCount method expected count position')
  | nestingTooDeep {limit position position' : Nat} :
      place position position' →
      Alike found place (.nestingTooDeep limit position) (.nestingTooDeep limit position')

namespace Rewording

/-- What a message shows of an item, before and after it is reworded. -/
inductive Found (r : Rewording) : String → String → Prop
  | same (text : String) : Found r text text
  | text (text : String) : Found r text (r.text text)
  | quoted (text : String) :
      Found r (Quoted.quoteString text) (Quoted.quoteString (r.text text))

/-- The outcome of a step, and that of the step on what has been reworded. -/
inductive Follows (r : Rewording) {α β : Type} (f : α → β) :
    Except ParseError α → Except ParseError β → Prop
  | ok (a : α) : Follows r f (.ok a) (.ok (f a))
  | error {e e' : ParseError} :
      e.Alike r.Found (fun position position' => position' = r.place position) e' →
      Follows r f (.error e) (.error e')

namespace Follows

variable {r : Rewording} {α β γ δ : Type}

theorem map {f : α → β} {g : γ → δ} {h : α → γ} {h' : β → δ} {step : Except ParseError α}
    {step' : Except ParseError β} (hstep : r.Follows f step step') (hresult : ∀ a, h' (f a) = g (h a)) :
    r.Follows g (step.map h) (step'.map h') := by
  cases hstep with
  | ok a =>
      simp only [Except.map, hresult]
      exact .ok (h a)
  | error halike => exact .error halike

theorem eq_ok {f : α → β} {a : α} {step' : Except ParseError β}
    (h : r.Follows f (.ok a) step') : step' = .ok (f a) := by
  cases h
  rfl

theorem eq_error {f : α → β} {e : ParseError} {step' : Except ParseError β}
    (h : r.Follows f (.error e) step') :
    ∃ e', step' = .error e' ∧
      e.Alike r.Found (fun position position' => position' = r.place position) e' := by
  cases h with
  | error halike => exact ⟨_, rfl, halike⟩

end Follows

end Rewording

namespace Operand

@[simp]
theorem isProperty_mapText (f : String → String) (operand : Operand) :
    (operand.mapText f).isProperty = operand.isProperty := by
  fun_cases mapText f operand <;> rfl

@[simp]
theorem isText_mapText (f : String → String) (operand : Operand) :
    (operand.mapText f).isText = operand.isText := by
  fun_cases mapText f operand <;> rfl

theorem found_messageText (r : Rewording) (operand : Operand) :
    r.Found operand.messageText (operand.mapText r.text).messageText := by
  fun_cases mapText r.text operand with
  | case1 text => exact .text text
  | case2 => exact .same _

theorem mapText_id (operand : Operand) : operand.mapText id = operand := by
  fun_cases mapText id operand <;> rfl

end Operand

namespace Node

mutual

theorem mapText_id : ∀ node : Node, node.mapText id = node
  | comparison op left right => by
      rw [mapText, left.mapText_id, right.mapText_id]
  | method name arguments => by
      rw [mapText, List.map_congr_left fun operand _ => operand.mapText_id, List.map_id']
  | group connective members => by
      rw [mapText, mapTextOfMembers_id members]

theorem mapTextOfMembers_id : ∀ members : List Node, mapTextOfMembers id members = members
  | [] => rfl
  | node :: rest => by
      rw [mapTextOfMembers, mapText_id node, mapTextOfMembers_id rest]

end

mutual

theorem depth_mapText (f : String → String) : ∀ node : Node, (node.mapText f).depth = node.depth
  | comparison _ _ _ => rfl
  | method _ _ => rfl
  | group connective members => by
      rw [mapText, depth, depth, depthOfMembers_mapText f members]

theorem depthOfMembers_mapText (f : String → String) : ∀ members : List Node,
    depthOfMembers (mapTextOfMembers f members) = depthOfMembers members
  | [] => rfl
  | node :: rest => by
      rw [mapTextOfMembers, depthOfMembers, depthOfMembers, depth_mapText f node,
        depthOfMembers_mapText f rest]

end

end Node

namespace Group

theorem mapText_id (group : Group) : group.mapText id = group := by
  rw [mapText, Node.mapTextOfMembers_id]

@[simp]
theorem depth_mapText (f : String → String) (group : Group) :
    (group.mapText f).depth = group.depth := by
  rw [mapText, depth, depth, Node.depthOfMembers_mapText]

end Group

namespace Token

variable (r : Rewording) (token : Token)

@[simp]
theorem kind_reword : (token.reword r).kind = token.kind := rfl

@[simp]
theorem position_reword : (token.reword r).position = r.place token.position := rfl

theorem text_reword {token : Token} (hkind : token.kind ≠ .string) :
    (token.reword r).text = token.text := by
  rw [reword, if_neg hkind]

theorem word_reword (listed : String → Bool) :
    ((token.reword r).kind = .word && listed (token.reword r).text) =
      (token.kind = .word && listed token.text) := by
  by_cases hword : token.kind = .word
  · rw [kind_reword, text_reword r (by simp [hword])]
  · simp [hword]

@[simp]
theorem isLogical_reword : (token.reword r).isLogical = token.isLogical :=
  word_reword r token Connective.words.contains

@[simp]
theorem isMethod_reword : (token.reword r).isMethod = token.isMethod :=
  word_reword r token MethodName.words.contains

@[simp]
theorem isComparison_reword : (token.reword r).isComparison = token.isComparison :=
  word_reword r token ComparisonOp.words.contains

theorem found_sourceText : r.Found token.sourceText (token.reword r).sourceText := by
  by_cases hstring : token.kind = .string
  · simp only [sourceText, reword, hstring, if_true]
    exact .quoted token.text
  · simp only [sourceText, reword, hstring, if_false]
    exact .same token.text

end Token

namespace Item

variable (r : Rewording) (item : Item)

@[simp]
theorem position_reword : (item.reword r).position = r.place item.position := by
  cases item <;> rfl

@[simp]
theorem isKind_reword (kind : TokenKind) : (item.reword r).isKind kind = item.isKind kind := by
  cases item <;> rfl

@[simp]
theorem isBlank_reword : (item.reword r).isBlank = item.isBlank := isKind_reword r item .whitespace

@[simp]
theorem isComma_reword : (item.reword r).isComma = item.isComma := by
  cases item with
  | group => rfl
  | token token =>
      by_cases hsymbol : token.kind = .symbol
      · rw [reword, isComma, isComma, token.kind_reword, token.text_reword r (by simp [hsymbol])]
      · simp [reword, isComma, hsymbol]

@[simp]
theorem connective?_reword : (item.reword r).connective? = item.connective? := by
  cases item with
  | group => rfl
  | token token =>
      by_cases hword : token.kind = .word
      · simp [reword, connective?, token.text_reword r (by simp [hword])]
      · simp [reword, connective?, Token.isLogical, hword]

@[simp]
theorem comparison?_reword : (item.reword r).comparison? = item.comparison? := by
  cases item with
  | group => rfl
  | token token =>
      by_cases hword : token.kind = .word
      · simp [reword, comparison?, token.text_reword r (by simp [hword])]
      · simp [reword, comparison?, Token.isComparison, hword]

theorem found_messageText : r.Found item.messageText (item.reword r).messageText := by
  cases item with
  | group => exact .same _
  | token token => exact token.found_sourceText r

theorem next?_reword (items : List Item) :
    next? (items.map (reword r)) =
      (next? items).map (Prod.map (reword r) (List.map (reword r))) := by
  induction items with
  | nil => rfl
  | cons item rest ih =>
      rw [List.map_cons, next?, next?, isBlank_reword]
      split
      · exact ih
      · rfl

end Item

theorem Token.mapText_wordOperand (f : String → String) (word : String) :
    (wordOperand word).mapText f = wordOperand word := by
  fun_cases wordOperand word <;> rfl

theorem Token.follows_operand (r : Rewording) (token : Token) :
    r.Follows (Operand.mapText r.text) token.operand (token.reword r).operand := by
  obtain ⟨kind, text, position⟩ := token
  have hunexpected (expected : Expectation) :
      r.Follows (Operand.mapText r.text) (.error (.unexpectedToken expected text position))
        (.error (.unexpectedToken expected text (r.place position))) :=
    .error (.unexpectedToken (.same text) rfl)
  cases kind with
  | string => exact .ok (Operand.literal (.string (some text)))
  | word =>
      have hword := mapText_wordOperand r.text text
      have hfollows := Rewording.Follows.ok (r := r) (f := Operand.mapText r.text) (wordOperand text)
      rwa [hword] at hfollows
  | number =>
      change r.Follows _ (operand ⟨.number, text, position⟩) (operand ⟨.number, text, r.place position⟩)
      simp only [operand]
      cases Decimal.signed64? text.toList with
      | none => exact hunexpected .number
      | some n => exact .ok (Operand.literal (.number n))
  | date =>
      change r.Follows _ (operand ⟨.date, text, position⟩) (operand ⟨.date, text, r.place position⟩)
      simp only [operand]
      cases Instant.ofText? text.toList with
      | none => exact hunexpected .date
      | some instant => exact .ok (Operand.literal (.date instant))
  | whitespace => exact hunexpected .simpleValue
  | openParen => exact hunexpected .simpleValue
  | closeParen => exact hunexpected .simpleValue
  | symbol => exact hunexpected .simpleValue

theorem Item.follows_operand (r : Rewording) (item : Item) :
    r.Follows (Operand.mapText r.text) item.operand (item.reword r).operand := by
  cases item with
  | token token => exact token.follows_operand r
  | group group position => exact .error (.unexpectedToken (.same _) rfl)

end DocumentFilter
