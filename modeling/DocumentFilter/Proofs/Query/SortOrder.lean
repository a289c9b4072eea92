import DocumentFilter.Proofs.Query.SortClause

/-!
# Sort orders by words

A clause of an order adds to the sort what its words say: a field alone or with a direction, and
nothing otherwise.  No entry of a sort has a space in it, so the entries can be read back.
-/

namespace DocumentFilter

namespace SortOrder

/-- What the words of a clause add to a sort. -/
def ofWords? : List (List Char) → Option (List Char)
  | [field] => some field
  | [field, direction] =>
    if direction = ['a', 's', 'c'] then some field
    else if direction = ['d', 'e', 's', 'c'] then some ('-' :: field)
    else none
  | _ => none

/-- What the clauses of an order add to the sort. -/
def contributions (order : String) : List (List Char) :=
  (order.toList.splitOn ',').filterMap fun clause => ofWords? (Text.words clause)

/-- What stands between the spaces of the sort, if there is a sort. -/
def entries (order : String) : List (List Char) :=
  ((translate order).map fun sort => sort.toList.splitOn ' ').getD []

theorem ofWords?_cons_words (field : List Char) {direction : List Char}
    (h : Text.IsTrimmed direction) :
    ofWords? (field :: Text.words direction) =
      if direction.isEmpty || direction = ['a', 's', 'c'] then some field
      else if direction = ['d', 'e', 's', 'c'] then some ('-' :: field)
      else none := by
  match hwords : Text.words direction with
  | [] =>
      obtain rfl : direction = [] :=
        @Text.IsTrimmed.eq_nil_of_append [] direction h (Text.words_eq_nil_iff.mp hwords)
      rfl
  | [word] =>
      obtain rfl : direction = word := h.eq_of_words hwords
      have hne : direction ≠ [] := (Text.of_mem_words (hwords ▸ List.mem_singleton_self _)).1
      simp [ofWords?, hne]
  | first :: second :: more =>
      have hnil : direction ≠ [] := by
        rintro rfl
        cases hwords
      have hasc : direction ≠ ['a', 's', 'c'] := by
        rintro rfl
        cases hwords
      have hdesc : direction ≠ ['d', 'e', 's', 'c'] := by
        rintro rfl
        cases hwords
      simp [ofWords?, hnil, hasc, hdesc]

/-- A clause is read by its words. -/
theorem map_text_ofClause? {clause : List Char} (h : Text.IsTrimmed clause) :
    (SortKey.ofClause? clause).map SortKey.text = ofWords? (Text.words clause) := by
  by_cases hclause : clause = []
  · subst hclause
    rfl
  · have hfield := h.takeWhile_ne_nil hclause
    rw [Text.words_of_head hfield, ← Text.words_dropWhile, ofWords?_cons_words _ h.behind_word,
      SortKey.ofClause?]
    simp only [List.isEmpty_iff, hfield, if_false]
    split
    · rfl
    · split
      · rfl
      · rfl

theorem map_text_keys (order : String) :
    (keys order).map SortKey.text = contributions order := by
  rw [keys, clauses, contributions, List.map_filterMap, List.filterMap_map]
  congr 1
  funext clause
  rw [Function.comp_apply, map_text_ofClause? (Text.isTrimmed_trim clause), Text.words_trim]

theorem translate_eq (order : String) :
    translate order = if (contributions order).isEmpty then none
      else some (String.ofList ([' '].intercalate (contributions order))) := by
  rw [translate, ← map_text_keys, List.isEmpty_map]

theorem of_mem_contributions {order : String} {entry : List Char}
    (h : entry ∈ contributions order) : entry ≠ [] ∧ ∀ c ∈ entry, Text.isBlank c = false := by
  obtain ⟨clause, _, hentry⟩ := List.mem_filterMap.mp h
  match hwords : Text.words clause with
  | [] => simp [hwords, ofWords?] at hentry
  | [field] =>
      rw [hwords] at hentry
      obtain rfl : field = entry := Option.some.inj hentry
      exact Text.of_mem_words (hwords ▸ List.mem_singleton_self _)
  | [field, direction] =>
      have hfield := Text.of_mem_words (hwords ▸ List.mem_cons_self : field ∈ Text.words clause)
      rw [hwords, ofWords?] at hentry
      split at hentry
      · obtain rfl : field = entry := Option.some.inj hentry
        exact hfield
      · split at hentry
        · obtain rfl : '-' :: field = entry := Option.some.inj hentry
          exact ⟨List.cons_ne_nil _ _, List.forall_mem_cons.mpr ⟨by decide, hfield.2⟩⟩
        · cases hentry
  | first :: second :: third :: more => simp [hwords, ofWords?] at hentry

/-- The sort can be cut at its spaces again. -/
theorem entries_eq (order : String) : entries order = contributions order := by
  rw [entries, translate_eq]
  cases hempty : (contributions order).isEmpty with
  | true => exact (List.isEmpty_iff.mp hempty).symm
  | false =>
      have hne : contributions order ≠ [] := by
        rwa [ne_eq, ← List.isEmpty_iff, Bool.not_eq_true]
      have hspace : ∀ entry ∈ contributions order, ' ' ∉ entry := by
        intro entry hentry hmem
        have hblank := (of_mem_contributions hentry).2 ' ' hmem
        cases hblank
      rw [if_neg Bool.false_ne_true, Option.map_some, Option.getD_some, String.toList_ofList,
        List.splitOn_intercalate ' ' hspace hne]

/-- There is no sort where no clause matches the pattern. -/
theorem translate_eq_none_iff {order : String} :
    translate order = none ↔
      ∀ clause ∈ clauses order, Pattern.find? SortKey.clausePattern true clause = none := by
  have hkeys : translate order = none ↔ keys order = [] := by simp [translate]
  rw [hkeys, keys, List.filterMap_eq_nil_iff]
  simp only [SortKey.ofClause?_eq_none_iff]

theorem translate_ne_empty (order : String) : translate order ≠ some "" := by
  intro h
  have hcontributions : contributions order = [[]] := by
    rw [← entries_eq, entries, h]
    rfl
  have hmem : [] ∈ contributions order := hcontributions ▸ List.mem_singleton_self _
  exact (of_mem_contributions hmem).1 rfl

theorem contributions_append (left right : String) :
    contributions (left ++ "," ++ right) = contributions left ++ contributions right := by
  have htext : (left ++ "," ++ right).toList = left.toList ++ ',' :: right.toList := by simp
  rw [contributions, htext, List.splitOn_append_cons_self, List.filterMap_append]
  rfl

/-- Whatever an order says, the sort has the entries that the words of its clauses give, in their
order and with a space between two of them; without entries there is no sort.  The entries can be
read back from the sort, and a comma between two orders puts their entries one after the other.
This is what the pattern of a clause says: its first match never cuts the end off a field. -/
theorem translate_by_words (order left right : String) (clause : List Char) :
    (translate order = if (contributions order).isEmpty then none
      else some (String.ofList ([' '].intercalate (contributions order)))) ∧
    entries order = contributions order ∧
    entries (left ++ "," ++ right) = entries left ++ entries right ∧
    SortKey.ofClause? clause =
      (Pattern.find? SortKey.clausePattern true clause).bind SortKey.ofTaken? := by
  refine ⟨translate_eq order, entries_eq order, ?_, SortKey.ofClause?_eq_find? clause⟩
  rw [entries_eq, entries_eq, entries_eq, contributions_append]

/-- A field that ends like a direction is a field, and a clause of three words is none. -/
example : translate " titledesc , a b c,pages\u2003desc" = some "titledesc -pages" := by
  decide

end SortOrder
end DocumentFilter
