import DocumentFilter.Proofs.Calendar
import DocumentFilter.Proofs.Predicate.Contents
import DocumentFilter.Proofs.Predicate.Decoding

/-!
# The dates of a filter

A date is a date of the calendar, and it goes through the predicate into its JSON with the
characters that it has in the filter.  The dates of the JSON are collected on all levels, so that
none of the filter is lost and none comes from anywhere else.
-/

namespace DocumentFilter

namespace Json

/-- The date that a member of an object is, if it is one. -/
def date? : String × Json → Option String
  | ("$date", .string text) => some text
  | _ => none

mutual

/-- The dates in a value on all levels, in order. -/
def dates : Json → List String
  | array items => datesOfItems items
  | object members => datesOfMembers members
  | _ => []

/-- The dates in several items. -/
def datesOfItems : List Json → List String
  | [] => []
  | item :: rest => item.dates ++ datesOfItems rest

/-- The dates among several members and in them. -/
def datesOfMembers : List (String × Json) → List String
  | [] => []
  | (key, value) :: rest => (date? (key, value)).toList ++ (value.dates ++ datesOfMembers rest)

end

/-- A date in its object, from the text of the date. -/
def dateMember (text : String) : List Char := stringText "$date" ++ ':' :: stringText text

end Json

/-- The date that an operand is, if it is one. -/
def Operand.dates : Operand → List String
  | literal (.date instant) => [instant.text]
  | _ => []

/-- The dates of an expression as it spells them. -/
def Token.dateTexts (tokens : List Token) : List String :=
  (tokens.filter (·.kind = .date)).map (·.text)

/-! ## The dates in JSON -/

namespace Json

theorem date?_eq_some_iff {key text : String} {value : Json} :
    date? (key, value) = some text ↔ key = "$date" ∧ value = .string text := by
  constructor
  · intro h
    unfold date? at h
    split at h
    · next hmember =>
        cases hmember
        cases h
        exact ⟨rfl, rfl⟩
    · cases h
  · rintro ⟨rfl, rfl⟩
    rfl

theorem date?_of_ne {key : String} (hkey : key ≠ "$date") (value : Json) :
    date? (key, value) = none :=
  Option.eq_none_iff_forall_ne_some.mpr fun _ h => hkey (date?_eq_some_iff.mp h).1

mutual

theorem dateMember_of_mem_dates {text : String} : ∀ {value : Json}, text ∈ value.dates →
    dateMember text <:+: value.compactText
  | array _, h => (dateMember_of_mem_datesOfItems h).trans (List.suffix_cons _ _).isInfix
  | object _, h => (dateMember_of_mem_datesOfMembers h).trans (List.suffix_cons _ _).isInfix

theorem dateMember_of_mem_datesOfItems {text : String} : ∀ {items : List Json},
    text ∈ datesOfItems items → dateMember text <:+: compactItems items
  | item :: rest, h => by
      rw [compactItems]
      obtain hitem | hrest := List.mem_append.mp h
      · rw [List.append_assoc]
        exact (dateMember_of_mem_dates hitem).trans (List.prefix_append _ _).isInfix
      · exact (dateMember_of_mem_datesOfItems hrest).trans (List.suffix_append _ _).isInfix

theorem dateMember_of_mem_datesOfMembers {text : String} : ∀ {members : List (String × Json)},
    text ∈ datesOfMembers members → dateMember text <:+: compactMembers members
  | (key, value) :: rest, h => by
      rw [compactMembers]
      obtain hmember | hmore := List.mem_append.mp h
      · obtain ⟨rfl, rfl⟩ := date?_eq_some_iff.mp (Option.mem_toList.mp hmember)
        rw [List.append_assoc]
        exact (List.prefix_append _ _).isInfix
      · obtain hvalue | hrest := List.mem_append.mp hmore
        · have hinfix : value.compactText <:+: stringText key ++ ':' :: value.compactText ++
              comma rest ++ compactMembers rest :=
            ⟨stringText key ++ [':'], comma rest ++ compactMembers rest, by simp⟩
          exact (dateMember_of_mem_dates hvalue).trans hinfix
        · exact (dateMember_of_mem_datesOfMembers hrest).trans (List.suffix_append _ _).isInfix

end

theorem escapeChar_of_isWordChar {c : Char} (h : Token.isWordChar c = true) :
    escapeChar c = [c] := by
  have hcontrol : ∀ n < 0x20, Token.isWordChar (Char.ofNat n) = false := by decide
  have hplain : ¬ c.toNat < 0x20 := by
    intro hlt
    have hnot := hcontrol c.toNat hlt
    rw [Char.ofNat_toNat, h] at hnot
    cases hnot
  have hne (special : Char) (hspecial : Token.isWordChar special = false) : c ≠ special := by
    rintro rfl
    rw [h] at hspecial
    cases hspecial
  simp [escapeChar, hplain, hne '"' (by decide), hne '\\' (by decide), hne '\x08' (by decide),
    hne '\x0c' (by decide), hne '\n' (by decide), hne '\r' (by decide), hne '\t' (by decide)]

theorem stringText_instant (instant : Instant) :
    stringText instant.text = '"' :: (instant.text.toList ++ ['"']) := by
  have hform := Instant.hasForm_of_ofText? (Option.isSome_of_mem instant.ofText?_text)
  have hchars := Instant.isWordChar_of_hasForm hform
  have hflat : instant.text.toList.flatMap escapeChar = instant.text.toList.flatMap ([·]) :=
    List.flatMap_congr fun c hc => escapeChar_of_isWordChar (hchars c hc)
  rw [stringText, hflat, List.flatMap_singleton']

theorem dateMember_instant (instant : Instant) :
    dateMember instant.text = ("\"$date\":\"" ++ instant.text ++ "\"").toList := by
  have hkey : stringText "$date" ++ [':', '"'] = "\"$date\":\"".toList := by decide
  rw [dateMember, stringText_instant, String.toList_append, String.toList_append, ← hkey]
  simp

theorem compact_date (instant : Instant) :
    (object [("$date", .string instant.text)]).compact =
      "\x7b\"$date\":\"" ++ instant.text ++ "\"\x7d" := by
  have hkey : '\x7b' :: (stringText "$date" ++ [':', '"']) = "\x7b\"$date\":\"".toList := by decide
  rw [← String.toList_inj, String.toList_append, String.toList_append, ← hkey]
  simp [compact, compactText, compactMembers, stringText_instant, comma]

/-- The date of a value stands in the text of its JSON, without an escape. -/
theorem date_infix_compact {value : Json} {instant : Instant} (h : instant.text ∈ value.dates) :
    ("\"$date\":\"" ++ instant.text ++ "\"").toList <:+: value.compact.toList := by
  rw [compact, String.toList_ofList, ← dateMember_instant]
  exact dateMember_of_mem_dates h

end Json

/-! ## From the statements of a predicate to its JSON -/

theorem Condition.date?_toJson (key : String) (condition : Condition) :
    Json.date? (key, condition.toJson) = none := by
  refine Option.eq_none_iff_forall_ne_some.mpr fun text h => ?_
  obtain ⟨_, hvalue⟩ := Json.date?_eq_some_iff.mp h
  cases condition <;> cases hvalue

theorem Operator.key_ne (op : Operator) : op.key ≠ "$date" := by cases op <;> decide

namespace Condition

/-- The dates in what is stated of fields. -/
def datesOf (statements : List (String × Operator × Value)) : List String :=
  statements.flatMap fun statement => statement.2.2.toJson.dates

mutual

theorem dates_toJson (key : String) : ∀ condition : Condition, condition.toJson.dates =
    datesOf (statementsOf [(key, condition)])
  | operator op value => by
      rw [toJson, Json.dates, Json.datesOfMembers, Json.date?_of_ne op.key_ne]
      simp [Json.datesOfMembers, datesOf, statementsOf, entriesOfObject, entries, statement?]
  | logical objects => by
      rw [toJson, Json.dates, datesOfItems_toJsonPredicates objects]
      simp [statementsOf, entriesOfObject, entries, statement?]

theorem datesOfItems_toJsonPredicates : ∀ objects : List (List (String × Condition)),
    Json.datesOfItems (toJsonPredicates objects) =
      datesOf ((entriesOfObjects objects).filterMap fun entry => entry.2.statement? entry.1)
  | [] => rfl
  | object :: rest => by
      rw [toJsonPredicates, Json.datesOfItems, Json.dates, datesOfMembers_toJsonEntries object,
        datesOfItems_toJsonPredicates rest, entriesOfObjects, List.filterMap_append, datesOf,
        datesOf, datesOf, List.flatMap_append]
      rfl

/-- The dates in the JSON of an object are those in what the object states of fields. -/
theorem datesOfMembers_toJsonEntries : ∀ object : List (String × Condition),
    Json.datesOfMembers (toJsonEntries object) = datesOf (statementsOf object)
  | [] => rfl
  | (key, condition) :: rest => by
      have hsplit : (key, condition) :: rest = [(key, condition)] ++ rest := rfl
      rw [toJsonEntries, Json.datesOfMembers, date?_toJson, dates_toJson key condition,
        datesOfMembers_toJsonEntries rest, hsplit, statementsOf_append]
      exact List.flatMap_append.symm

end

end Condition

/-! ## From the tokens to the statements -/

namespace Token

theorem dateTexts_append (left right : List Token) :
    dateTexts (left ++ right) = dateTexts left ++ dateTexts right :=
  valuesOf_append left right

theorem mem_dateTexts {token : Token} {tokens : List Token} (h : token ∈ tokens)
    (hkind : token.kind = .date) : token.text ∈ dateTexts tokens :=
  List.mem_map_of_mem (List.mem_filter.mpr ⟨h, decide_eq_true hkind⟩)

theorem dateTexts_cons_of_ne {token : Token} (hkind : token.kind ≠ .date) (rest : List Token) :
    dateTexts (token :: rest) = dateTexts rest :=
  valuesOf_cons_of_ne hkind rest

theorem dateTexts_dropSpaces (tokens : List Token) :
    dateTexts (dropSpaces tokens) = dateTexts tokens :=
  valuesOf_dropSpaces rfl tokens

end Token

theorem Operand.dates_toJson (operand : Operand) : operand.value.toJson.dates = operand.dates := by
  match operand with
  | property _ => rfl
  | literal (.string none) => rfl
  | literal (.string (some _)) => rfl
  | literal (.number _) => rfl
  | literal (.boolean _) => rfl
  | literal (.date _) => rfl

theorem Operand.datesOfItems_toJsonList (operands : List Operand) :
    Json.datesOfItems (Value.toJsonList (operands.map value)) = operands.flatMap dates := by
  induction operands with
  | nil => rfl
  | cons operand rest ih =>
      rw [List.map_cons, Value.toJsonList, Json.datesOfItems, operand.dates_toJson, ih,
        List.flatMap_cons]

namespace Grammar

open Token

theorem IsValue.dates {token : Token} {operand : Operand} (h : IsValue token operand) :
    operand.dates = dateTexts [token] := by
  cases h with
  | date hdate =>
      have htext := Instant.ofText?_toList_eq_some_iff.mp hdate
      rw [htext]
      rfl
  | string => rfl
  | number _ => rfl
  | trueWord => rfl
  | falseWord => rfl
  | nullWord => rfl
  | property _ => rfl

theorem IsLeaf.dates_operands {tokens : List Token} {node : Node} (h : IsLeaf tokens node) :
    node.operands.flatMap Operand.dates = dateTexts tokens :=
  h.flatMap_operands rfl fun _ _ _ hvalue => hvalue.dates

theorem TakesArguments.dates {method : MethodName} {operands : List Operand} {op : Operator}
    {value : Value} (htakes : TakesArguments method operands)
    (hcondition : method.condition operands = .operator op value) :
    value.toJson.dates = operands.flatMap Operand.dates := by
  cases method with
  | contains =>
      obtain ⟨text, rfl⟩ := htakes (by simp)
      cases hcondition
      rfl
  | startsWith =>
      obtain ⟨text, rfl⟩ := htakes (by simp)
      cases hcondition
      rfl
  | endsWith =>
      obtain ⟨text, rfl⟩ := htakes (by simp)
      cases hcondition
      rfl
  | isIn =>
      cases hcondition
      exact Operand.datesOfItems_toJsonList operands
  | notIn =>
      cases hcondition
      exact Operand.datesOfItems_toJsonList operands

theorem IsLeaf.dates {tokens : List Token} {node : Node} (h : IsLeaf tokens node) {key : String}
    {op : Operator} {value : Value} (hstatement : node.statement? = some (key, op, value)) :
    value.toJson.dates = dateTexts tokens := by
  rw [← h.dates_operands]
  cases h with
  | comparison =>
      rw [Node.statement?_comparison, ← Operand.value_eq_denotation] at hstatement
      cases hstatement
      rw [Operand.dates_toJson]
      simp [Node.operands, Operand.dates]
  | @call method opening property closing further operands position _ _ _ _ _ htakes =>
      obtain ⟨op', value', hcall, hcondition⟩ := Node.statement?_method property.text htakes
      rw [hcall] at hstatement
      cases hstatement
      exact htakes.dates hcondition

/-- What the leaves of an expression state has the dates of the expression. -/
theorem AreLeaves.dates {tokens : List Token} {nodes : List Node} (h : AreLeaves tokens nodes)
    {statements : List (String × Operator × Value)}
    (hstatements : statements.map some = nodes.map Node.statement?) :
    Condition.datesOf statements = dateTexts tokens := by
  induction h generalizing statements with
  | nil =>
      obtain rfl := List.map_eq_nil_iff.mp hstatements
      rfl
  | @leaf span rest node nodes hleaf _ ih =>
      obtain ⟨⟨key, op, value⟩, more, rfl, hfirst, hmore⟩ := List.map_eq_cons_iff.mp hstatements
      rw [dateTexts_append, ← hleaf.dates hfirst.symm, ← ih hmore]
      rfl
  | paren hparen _ ih =>
      obtain hopening | hclosing := hparen
      · rw [dateTexts_cons_of_ne (by simp [hopening]), ih hstatements]
      · rw [dateTexts_cons_of_ne (by simp [hclosing]), ih hstatements]
  | connective _ ih => rw [dateTexts_cons_of_ne (by simp), ih hstatements]

end Grammar

/-- The JSON of a predicate has the dates of its filter and no other ones, in their order. -/
theorem dates_of_compile {filter : String} {maxDepth : Nat} {predicate : Predicate}
    (h : compile filter maxDepth = .ok predicate) : ∃ tokens, tokenize filter = .ok tokens ∧
      predicate.toJson.dates = Token.dateTexts tokens := by
  obtain ⟨root, hparse, rfl⟩ := Except.map_eq_ok_iff.mp h
  obtain ⟨tokens, htokens, hroot⟩ := parse_eq_ok_iff.mp hparse
  refine ⟨tokens, htokens, ?_⟩
  rw [← Token.dateTexts_dropSpaces]
  obtain ⟨hnone, rfl⟩ | ⟨hexpression, _⟩ := isExpression_of_resolve hroot
  · rw [hnone]
    rfl
  · have hshape := hexpression.wellFormed
    rw [Predicate.toJson, Json.dates, Condition.datesOfMembers_toJsonEntries,
      Group.entries_compile hshape]
    exact hexpression.areLeaves.dates hshape.statementsOf_conditions

/-- Just the texts that name an instant of the calendar are dates.  A date is written as it was
read, as a literal and in its JSON, so different texts are different dates; and the JSON of a
predicate has the dates of its filter, in their order and with the same characters. -/
theorem dates_are_real_and_verbatim :
    (∀ text : String,
      (Instant.ofText? text.toList).isSome = true ↔ Instant.IsWritten text.toList) ∧
    (∀ (text : String) (instant : Instant), Instant.ofText? text.toList = some instant →
      (Literal.date instant).text = text ∧
      (Operand.literal (.date instant)).value.toJson = .object [("$date", .string text)] ∧
      (Operand.literal (.date instant)).value.toJson.compact =
        "\x7b\"$date\":\"" ++ text ++ "\"\x7d") ∧
    (∀ (text other : String) (instant another : Instant),
      Instant.ofText? text.toList = some instant → Instant.ofText? other.toList = some another →
      text ≠ other → instant ≠ another ∧
        (Operand.literal (.date instant)).value ≠ (Operand.literal (.date another)).value) ∧
    ∀ (filter : String) (maxDepth : Nat) (predicate : Predicate),
      compile filter maxDepth = .ok predicate → ∃ tokens, tokenize filter = .ok tokens ∧
        predicate.toJson.dates = Token.dateTexts tokens ∧
        ∀ token ∈ tokens, token.kind = .date →
          ("\"$date\":\"" ++ token.text ++ "\"").toList <:+: predicate.toJson.compact.toList := by
  refine ⟨fun _ => Instant.isSome_ofText?_iff, ?_, ?_, ?_⟩
  · intro text instant h
    obtain rfl : text = instant.text := Instant.ofText?_toList_eq_some_iff.mp h
    exact ⟨rfl, rfl, Json.compact_date instant⟩
  · intro text other instant another h hother hne
    have htext := Instant.ofText?_toList_eq_some_iff.mp h
    have hothertext := Instant.ofText?_toList_eq_some_iff.mp hother
    have hinstant : instant ≠ another := by
      rintro rfl
      exact hne (htext.trans hothertext.symm)
    exact ⟨hinstant, fun hvalue => hinstant (Value.date.inj hvalue)⟩
  · intro filter maxDepth predicate h
    obtain ⟨tokens, htokens, hdates⟩ := dates_of_compile h
    refine ⟨tokens, htokens, hdates, fun token htoken hkind => ?_⟩
    have hmem : token.text ∈ predicate.toJson.dates := by
      rw [hdates]
      exact Token.mem_dateTexts htoken hkind
    have hvalid := Token.valid_of_readAll htokens token htoken
    simp only [Token.Valid, hkind] at hvalid
    obtain ⟨instant, hinstant⟩ := Option.isSome_iff_exists.mp hvalid
    have htext := Instant.ofText?_toList_eq_some_iff.mp hinstant
    rw [htext] at hmem ⊢
    exact Json.date_infix_compact hmem

/-- The last leap second so far, which a filter compares with, and the second after it. -/
theorem dates_are_real_and_verbatim_leap_second :
    ∃ leap new : Instant, (Literal.date leap).text = "2016-12-31T23:59:60.500Z" ∧
      (Operand.literal (.date leap)).value ≠ (Operand.literal (.date new)).value ∧
      ∃ tokens, tokenize "at lt 2016-12-31T23:59:60.500Z" = .ok tokens ∧
        (Predicate.mk [("at", .operator .lt (.date leap))]).toJson.dates =
          Token.dateTexts tokens := by
  have hleapText : "2016-12-31T23:59:60.500Z".toList = ['2', '0', '1', '6', '-', '1', '2', '-', '3',
    '1', 'T', '2', '3', ':', '5', '9', ':', '6', '0', '.', '5', '0', '0', 'Z'] := by decide
  have hnewText : "2017-01-01T00:00:00.500Z".toList = ['2', '0', '1', '7', '-', '0', '1', '-', '0',
    '1', 'T', '0', '0', ':', '0', '0', ':', '0', '0', '.', '5', '0', '0', 'Z'] := by decide
  have htext : "at lt 2016-12-31T23:59:60.500Z".toList = ['a', 't', ' ', 'l', 't', ' ', '2', '0',
    '1', '6', '-', '1', '2', '-', '3', '1', 'T', '2', '3', ':', '5', '9', ':', '6', '0', '.', '5',
    '0', '0', 'Z'] := by decide
  obtain ⟨_, hverbatim, hdifferent, hcompiled⟩ := dates_are_real_and_verbatim
  let leap : Instant := ⟨2016, 12, 31, 23, 59, 60, 500, by decide, by decide, by decide, by decide,
    by decide, by decide, by decide⟩
  let new : Instant := ⟨2017, 1, 1, 0, 0, 0, 500, by decide, by decide, by decide, by decide,
    by decide, by decide, by decide⟩
  have hleap : Instant.ofText? "2016-12-31T23:59:60.500Z".toList = some leap := by
    rw [hleapText]
    with_unfolding_all rfl
  have hnew : Instant.ofText? "2017-01-01T00:00:00.500Z".toList = some new := by
    rw [hnewText]
    with_unfolding_all rfl
  obtain ⟨hliteral, _, _⟩ := hverbatim _ leap hleap
  obtain ⟨_, hvalues⟩ := hdifferent _ _ leap new hleap hnew (by decide)
  have hcompile : compile "at lt 2016-12-31T23:59:60.500Z" 0 =
      .ok ⟨[("at", .operator .lt (.date leap))]⟩ := by
    rw [compile, parse, tokenize, htext]
    with_unfolding_all rfl
  obtain ⟨tokens, htokens, hdates, _⟩ := hcompiled _ 0 _ hcompile
  exact ⟨leap, new, hliteral, hvalues, tokens, htokens, hdates⟩

end DocumentFilter
