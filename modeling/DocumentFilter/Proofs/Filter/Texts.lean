import DocumentFilter.Proofs.Filter.Leaves
import DocumentFilter.Proofs.Filter.Rewording
import DocumentFilter.Proofs.Filter.Soundness

/-!
# The texts of a tree

The quoted texts of an expression stand in its tree in the same order, each of them once.  A tree is
determined by its texts and by what is left when they are changed to something else, so two trees
that differ in one text only are told apart by the place of that text in the order.
-/

namespace DocumentFilter

namespace Operand

/-- The text of the operand, if it is one. -/
def texts : Operand → List String
  | literal (.string (some text)) => [text]
  | _ => []

/-- The operand with the first of the given texts in the place of its own. -/
def refill : List String → Operand → Operand
  | text :: _, literal (.string (some _)) => .literal (.string (some text))
  | _, operand => operand

/-- The operands with the given texts in the places of their own. -/
def refillAll (texts : List String) : List Operand → List Operand
  | [] => []
  | operand :: rest => operand.refill texts :: refillAll (texts.drop operand.texts.length) rest

end Operand

namespace Node

mutual

/-- The texts in a node, in the order of the expression. -/
def texts : Node → List String
  | comparison _ left right => left.texts ++ right.texts
  | method _ arguments => arguments.flatMap Operand.texts
  | group _ members => textsOfMembers members

/-- The texts in several nodes. -/
def textsOfMembers : List Node → List String
  | [] => []
  | node :: rest => node.texts ++ textsOfMembers rest

end

mutual

/-- The node with the given texts in the places of its own. -/
def refill (texts : List String) : Node → Node
  | comparison op left right =>
    .comparison op (left.refill texts) (right.refill (texts.drop left.texts.length))
  | method name arguments => .method name (Operand.refillAll texts arguments)
  | group connective members => .group connective (refillMembers texts members)

/-- The nodes with the given texts in the places of their own. -/
def refillMembers (texts : List String) : List Node → List Node
  | [] => []
  | node :: rest => node.refill texts :: refillMembers (texts.drop node.texts.length) rest

end

end Node

namespace Group

/-- The texts in a group, in the order of the expression. -/
def texts (group : Group) : List String := Node.textsOfMembers group.members

/-- The group with the given texts in the places of its own. -/
def refill (texts : List String) (group : Group) : Group :=
  ⟨group.connective, Node.refillMembers texts group.members⟩

/-- The group with another text in one place, counted from the first text. -/
def replaceText (place : Nat) (text : String) (group : Group) : Group :=
  group.refill (group.texts.set place text)

end Group

/-! ## What determines a tree -/

section

variable {f : String → String}

namespace Operand

theorem text_cases (operand : Operand) :
    (∃ text, operand = .literal (.string (some text))) ∨
      operand.texts = [] ∧ (∀ f, operand.mapText f = operand) ∧
        ∀ texts, operand.refill texts = operand := by
  match operand with
  | literal (.string (some text)) => exact .inl ⟨text, rfl⟩
  | property _ => exact .inr ⟨rfl, fun _ => rfl, fun texts => by cases texts <;> rfl⟩
  | literal (.string none) => exact .inr ⟨rfl, fun _ => rfl, fun texts => by cases texts <;> rfl⟩
  | literal (.number _) => exact .inr ⟨rfl, fun _ => rfl, fun texts => by cases texts <;> rfl⟩
  | literal (.boolean _) => exact .inr ⟨rfl, fun _ => rfl, fun texts => by cases texts <;> rfl⟩
  | literal (.date _) => exact .inr ⟨rfl, fun _ => rfl, fun texts => by cases texts <;> rfl⟩

theorem length_texts_mapText (f : String → String) (operand : Operand) :
    (operand.mapText f).texts.length = operand.texts.length := by
  obtain ⟨text, rfl⟩ | ⟨_, hmap, _⟩ := operand.text_cases
  · rfl
  · rw [hmap]

theorem refill_of_mapText {operand other : Operand} (h : operand.mapText f = other.mapText f)
    (more : List String) : operand.refill (other.texts ++ more) = other := by
  obtain ⟨text, rfl⟩ | ⟨hnone, hmap, hrefill⟩ := operand.text_cases
  · obtain ⟨text', rfl⟩ | ⟨hnone', hmap', _⟩ := other.text_cases
    · rfl
    · rw [hmap'] at h
      rw [← h] at hnone'
      cases hnone'
  · obtain ⟨text', rfl⟩ | ⟨_, hmap', _⟩ := other.text_cases
    · rw [hmap] at h
      rw [h] at hnone
      cases hnone
    · rw [hmap, hmap'] at h
      rw [hrefill, h]

theorem refillAll_of_mapText {operands others : List Operand}
    (h : operands.map (mapText f) = others.map (mapText f)) (more : List String) :
    refillAll (others.flatMap texts ++ more) operands = others := by
  induction operands generalizing others with
  | nil =>
      obtain rfl := List.map_eq_nil_iff.mp h.symm
      rfl
  | cons operand rest ih =>
      cases others with
      | nil => cases h
      | cons other others =>
          obtain ⟨hfirst, hrest⟩ := List.cons.inj h
          have hlength : operand.texts.length = other.texts.length := by
            rw [← length_texts_mapText f, hfirst, length_texts_mapText]
          rw [List.flatMap_cons, List.append_assoc, refillAll, refill_of_mapText hfirst, hlength,
            List.drop_left, ih hrest]

end Operand

namespace Node

mutual

theorem length_texts_mapText (f : String → String) : ∀ node : Node,
    (node.mapText f).texts.length = node.texts.length
  | comparison op left right => by
      rw [mapText, texts, texts, List.length_append, List.length_append,
        left.length_texts_mapText, right.length_texts_mapText]
  | method name arguments => by
      rw [mapText, texts, texts, List.length_flatMap, List.length_flatMap, List.map_map]
      congr 2
      funext operand
      exact operand.length_texts_mapText f
  | group connective members => by
      rw [mapText, texts, texts, length_textsOfMembers_mapText f members]

theorem length_textsOfMembers_mapText (f : String → String) : ∀ members : List Node,
    (textsOfMembers (mapTextOfMembers f members)).length = (textsOfMembers members).length
  | [] => rfl
  | node :: rest => by
      rw [mapTextOfMembers, textsOfMembers, textsOfMembers, List.length_append, List.length_append,
        length_texts_mapText f node, length_textsOfMembers_mapText f rest]

end

mutual

theorem refill_of_mapText : ∀ (node : Node) {other : Node}, node.mapText f = other.mapText f →
    ∀ more : List String, node.refill (other.texts ++ more) = other
  | comparison op left right, other, h, more => by
      cases other with
      | comparison op' left' right' =>
          obtain ⟨rfl, hleft, hright⟩ := Node.comparison.inj h
          have hlength : left.texts.length = left'.texts.length := by
            rw [← left.length_texts_mapText f, hleft, left'.length_texts_mapText f]
          rw [texts, List.append_assoc, refill, Operand.refill_of_mapText hleft, hlength,
            List.drop_left, Operand.refill_of_mapText hright]
      | method => cases h
      | group => cases h
  | method name arguments, other, h, more => by
      cases other with
      | comparison => cases h
      | method name' arguments' =>
          obtain ⟨rfl, harguments⟩ := Node.method.inj h
          rw [texts, refill, Operand.refillAll_of_mapText harguments]
      | group => cases h
  | group connective members, other, h, more => by
      cases other with
      | comparison => cases h
      | method => cases h
      | group connective' members' =>
          obtain ⟨rfl, hmembers⟩ := Node.group.inj h
          rw [texts, refill, refillMembers_of_mapText members hmembers]

theorem refillMembers_of_mapText : ∀ (members : List Node) {others : List Node},
    mapTextOfMembers f members = mapTextOfMembers f others →
      ∀ more : List String, refillMembers (textsOfMembers others ++ more) members = others
  | [], others, h, more => by
      cases others with
      | nil => rfl
      | cons => cases h
  | node :: rest, others, h, more => by
      cases others with
      | nil => cases h
      | cons other others =>
          obtain ⟨hnode, hrest⟩ := List.cons.inj h
          have hlength : node.texts.length = other.texts.length := by
            rw [← length_texts_mapText f node, hnode, length_texts_mapText f other]
          rw [textsOfMembers, List.append_assoc, refillMembers, refill_of_mapText node hnode,
            hlength, List.drop_left, refillMembers_of_mapText rest hrest]

end

end Node

namespace Group

/-- Two groups that become the same when their texts are changed, and of which the texts differ in
one place, differ in that place only. -/
theorem eq_replaceText_of_mapText {group other : Group} (h : group.mapText f = other.mapText f)
    {before after : List String} {text text' : String}
    (htexts : group.texts = before ++ text :: after)
    (hothers : other.texts = before ++ text' :: after) :
    other = group.replaceText before.length text' := by
  obtain ⟨hconnective, hmembers⟩ := Group.mk.inj h
  have hset : group.texts.set before.length text' = Node.textsOfMembers other.members ++ [] := by
    rw [htexts, List.set_append_right before.length text' (Nat.le_refl _), Nat.sub_self,
      List.set_cons_zero, List.append_nil]
    exact hothers.symm
  rw [replaceText, refill, hset, Node.refillMembers_of_mapText group.members hmembers, hconnective]

end Group

end

/-! ## The texts of what is read -/

namespace Token

/-- The text of a token, if it is a quoted one. -/
def quotedText? (token : Token) : Option String :=
  if token.kind = .string then some token.text else none

/-- The quoted texts of an expression. -/
def quotedTexts (tokens : List Token) : List String := tokens.filterMap quotedText?

theorem quotedText?_of_ne {token : Token} (hkind : token.kind ≠ .string) :
    token.quotedText? = none := if_neg hkind

theorem quotedTexts_append (left right : List Token) :
    quotedTexts (left ++ right) = quotedTexts left ++ quotedTexts right :=
  List.filterMap_append

theorem quotedTexts_cons_of_ne {token : Token} (hkind : token.kind ≠ .string)
    (rest : List Token) : quotedTexts (token :: rest) = quotedTexts rest :=
  List.filterMap_cons_none (quotedText?_of_ne hkind)

theorem quotedTexts_eq_valuesOf (tokens : List Token) :
    quotedTexts tokens = valuesOf .string text tokens := by
  induction tokens with
  | nil => rfl
  | cons token rest ih =>
      by_cases hkind : token.kind = .string
      · have htext : token.quotedText? = some token.text := if_pos hkind
        rw [quotedTexts, List.filterMap_cons_some htext, valuesOf,
          List.filter_cons_of_pos (by simpa using hkind), List.map_cons]
        exact congrArg (token.text :: ·) ih
      · rw [quotedTexts_cons_of_ne hkind, valuesOf_cons_of_ne hkind, ih]

theorem quotedTexts_dropSpaces (tokens : List Token) :
    quotedTexts (dropSpaces tokens) = quotedTexts tokens := by
  rw [quotedTexts_eq_valuesOf, quotedTexts_eq_valuesOf, valuesOf_dropSpaces rfl]

end Token

namespace Grammar

open Token

theorem IsValue.texts {token : Token} {operand : Operand} (h : IsValue token operand) :
    operand.texts = quotedTexts [token] := by
  cases h <;> rfl

theorem IsLeaf.texts {tokens : List Token} {node : Node} (h : IsLeaf tokens node) :
    node.texts = quotedTexts tokens := by
  have htakes : TakesValues .string text Operand.texts tokens := fun token _ operand hvalue => by
    rw [hvalue.texts, quotedTexts_eq_valuesOf]
  rw [quotedTexts_eq_valuesOf, ← h.flatMap_operands rfl htakes]
  cases h with
  | comparison => simp [Node.texts, Node.operands]
  | call => rfl

mutual

theorem IsMember.texts {tokens : List Token} {node : Node} :
    IsMember tokens node → node.texts = quotedTexts tokens
  | .leaf hleaf => hleaf.texts
  | @IsMember.group opening closing tokens group hopening hclosing hinside => by
      have hend : quotedTexts [closing] = [] := quotedTexts_cons_of_ne (by simp [hclosing]) []
      rw [quotedTexts_cons_of_ne (by simp [hopening]), quotedTexts_append, hend, List.append_nil]
      exact hinside.texts

theorem IsJoined.texts {connective : Connective} {tokens : List Token} {nodes : List Node} :
    IsJoined connective tokens nodes → Node.textsOfMembers nodes = quotedTexts tokens
  | .last hmember => by
      rw [quotedTexts_cons_of_ne (by simp), ← hmember.texts, Node.textsOfMembers,
        Node.textsOfMembers, List.append_nil]
  | .more hmember hjoined => by
      rw [quotedTexts_cons_of_ne (by simp), quotedTexts_append, ← hmember.texts, ← hjoined.texts,
        Node.textsOfMembers]

/-- The texts of an expression's tree are its quoted texts. -/
theorem IsExpression.texts {tokens : List Token} {group : Group} :
    IsExpression tokens group → group.texts = quotedTexts tokens
  | .single hmember => by
      rw [← hmember.texts, Group.texts, Node.textsOfMembers, Node.textsOfMembers, List.append_nil]
  | .joined hmember hjoined => by
      rw [quotedTexts_append, ← hmember.texts, ← hjoined.texts, Group.texts, Node.textsOfMembers]

end

end Grammar

/-- The texts of a tree that is read are the quoted texts of the expression. -/
theorem texts_of_resolve {tokens : List Token} {maxDepth : Nat} {root : Group}
    (h : resolve tokens maxDepth = .ok root) : root.texts = Token.quotedTexts tokens := by
  rw [← Token.quotedTexts_dropSpaces]
  obtain ⟨hblank, rfl⟩ | ⟨hroot, _⟩ := isExpression_of_resolve h
  · rw [hblank]
    rfl
  · exact hroot.texts

end DocumentFilter
