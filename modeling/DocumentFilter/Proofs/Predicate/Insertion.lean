import Mathlib.Data.List.Dedup
import Mathlib.Data.Finset.Card
import DocumentFilter.Predicate.Json

/-!
# Conditions inserted one after the other

Whatever is inserted into a predicate, a key stands in it once, in the place of its first insertion,
with the condition of its last one.  An insertion touches nothing but its own key.
-/

namespace DocumentFilter

theorem Condition.toJsonEntries_eq_map (entries : List (String × Condition)) :
    toJsonEntries entries = entries.map fun (key, condition) => (key, condition.toJson) := by
  induction entries with
  | nil => rfl
  | cons entry rest ih => rw [toJsonEntries, ih, List.map_cons]

namespace Predicate

/-! ## One insertion -/

section Insert

variable (p : Predicate) (key : String) (condition other : Condition)

theorem insertEntry_insertEntry (entries : List (String × Condition)) :
    insertEntry key other (insertEntry key condition entries) = insertEntry key other entries := by
  induction entries with
  | nil => simp [insertEntry]
  | cons entry rest ih => by_cases hentry : entry.1 = key <;> simp [insertEntry, hentry, ih]

theorem insert_insert : (p.insert key condition).insert key other = p.insert key other := by
  rw [insert, insert, insertEntry_insertEntry]
  rfl

theorem mem_keys_insert {name : String} :
    name ∈ (p.insert key condition).keys ↔ name ∈ p.keys ∨ name = key := by
  rw [keys_insert]
  split
  · next hkey =>
      refine ⟨.inl, ?_⟩
      rintro (hname | rfl)
      · exact hname
      · exact hkey
  · rw [List.mem_append, List.mem_singleton]

theorem filter_keys_insert :
    (p.insert key condition).keys.filter (· ≠ key) = p.keys.filter (· ≠ key) := by
  rw [keys_insert]
  split
  · rfl
  · rw [List.filter_append, List.filter_cons_of_neg (by simp), List.filter_nil, List.append_nil]

end Insert

/-! ## The condition of a key -/

theorem get?_of_mem {p : Predicate} (hkeys : p.keys.Nodup) {key : String} {condition : Condition}
    (h : (key, condition) ∈ p.entries) : p.get? key = some condition := by
  obtain ⟨before, after, hentries⟩ := List.append_of_mem h
  have hbefore : ∀ entry ∈ before, entry.1 ≠ key := by
    rw [keys, hentries, List.map_append, List.map_cons] at hkeys
    exact fun entry hentry =>
      (List.nodup_append.mp hkeys).2.2 entry.1 (List.mem_map_of_mem hentry) key List.mem_cons_self
  have hnone : before.find? (·.1 = key) = none := by simpa using hbefore
  rw [get?, hentries, List.find?_append, hnone, Option.none_or, List.find?_cons_of_pos (by simp)]
  rfl

/-- Where no key stands twice, the JSON of a predicate has the condition of each key, in order. -/
theorem toJson_of_nodup {p : Predicate} (hkeys : p.keys.Nodup) :
    p.toJson = .object (p.keys.filterMap fun key =>
      (p.get? key).map fun condition => (key, condition.toJson)) := by
  have hentry : ∀ entry ∈ p.entries,
      ((p.get? entry.1).map fun condition => (entry.1, condition.toJson)) =
        some (entry.1, entry.2.toJson) :=
    fun entry hentry => by rw [get?_of_mem hkeys hentry, Option.map_some]
  rw [toJson, Condition.toJsonEntries_eq_map, keys, List.filterMap_map,
    ← List.filterMap_eq_map]
  exact congrArg Json.object (List.filterMap_congr fun entry h => (hentry entry h).symm)

/-! ## A series of insertions -/

section OfList

variable (entries : List (String × Condition))

theorem ofList_concat (key : String) (condition : Condition) :
    ofList (entries ++ [(key, condition)]) = (ofList entries).insert key condition :=
  List.foldl_concat _ _ _ _

theorem mem_keys_ofList {key : String} :
    key ∈ (ofList entries).keys ↔ key ∈ entries.map (·.1) := by
  induction entries using List.reverseRecOn with
  | nil => rfl
  | append_singleton entries entry ih =>
      rw [ofList_concat, mem_keys_insert, ih, List.map_append, List.mem_append, List.map_singleton,
        List.mem_singleton]

/-- The keys stand in the order of their first insertions. -/
theorem pairwise_keys_ofList : (ofList entries).keys.Pairwise fun key later =>
    (entries.map (·.1)).idxOf key < (entries.map (·.1)).idxOf later := by
  induction entries using List.reverseRecOn with
  | nil => exact .nil
  | append_singleton entries entry ih =>
      obtain ⟨key, condition⟩ := entry
      have hmem : ∀ other ∈ (ofList entries).keys, other ∈ entries.map (·.1) :=
        fun other hother => (mem_keys_ofList entries).mp hother
      have hkept : (ofList entries).keys.Pairwise fun key' later =>
          (entries.map (·.1) ++ [key]).idxOf key' < (entries.map (·.1) ++ [key]).idxOf later :=
        ih.imp_of_mem fun hkey' hlater hlt => by
          rwa [List.idxOf_append_of_mem (hmem _ hkey'), List.idxOf_append_of_mem (hmem _ hlater)]
      rw [ofList_concat, keys_insert, List.map_append, List.map_singleton]
      split
      · exact hkept
      · next hnew =>
          rw [mem_keys_ofList] at hnew
          refine List.pairwise_append.mpr ⟨hkept, List.pairwise_singleton _ _, ?_⟩
          intro other hother later hlater
          obtain rfl := List.mem_singleton.mp hlater
          rw [List.idxOf_append_of_mem (hmem other hother), List.idxOf_append_of_notMem hnew]
          exact Nat.lt_add_right _ (List.idxOf_lt_length_iff.mpr (hmem other hother))

theorem nodup_keys_ofList : (ofList entries).keys.Nodup :=
  (pairwise_keys_ofList entries).imp fun hlt =>
    ne_of_apply_ne (entries.map (·.1)).idxOf (Nat.ne_of_lt hlt)

/-- A key has the condition of its last insertion. -/
theorem get?_ofList (key : String) :
    (ofList entries).get? key = (entries.filter (·.1 = key)).getLast?.map (·.2) := by
  induction entries using List.reverseRecOn with
  | nil => rfl
  | append_singleton entries entry ih =>
      rw [ofList_concat, get?_insert, ih, List.filter_append]
      by_cases hkey : entry.1 = key
      · rw [if_pos hkey, List.filter_cons_of_pos (by simpa using hkey), List.filter_nil,
          List.getLast?_concat]
        rfl
      · rw [if_neg hkey, List.filter_cons_of_neg (by simpa using hkey), List.filter_nil,
          List.append_nil]

theorem get?_ofList_eq_none_iff {key : String} :
    (ofList entries).get? key = none ↔ key ∉ entries.map (·.1) := by
  rw [get?_ofList, Option.map_eq_none_iff, List.getLast?_eq_none_iff, List.filter_eq_nil_iff,
    List.mem_map, not_exists]
  simp only [decide_eq_true_eq, not_and]

theorem size_ofList : (ofList entries).size = (entries.map (·.1)).toFinset.card := by
  have hkeys : (entries.map (·.1)).toFinset = (ofList entries).keys.toFinset :=
    Finset.ext fun key => by rw [List.mem_toFinset, List.mem_toFinset, mem_keys_ofList]
  rw [hkeys, List.toFinset_card_of_nodup (nodup_keys_ofList entries), size, keys, List.length_map]

theorem isEmpty_ofList_iff : (ofList entries).isEmpty = true ↔ entries = [] := by
  rw [isEmpty, List.isEmpty_iff, ← List.map_eq_nil_iff (f := Prod.fst), ← keys,
    List.eq_nil_iff_forall_not_mem]
  simp only [mem_keys_ofList]
  rw [← List.eq_nil_iff_forall_not_mem, List.map_eq_nil_iff]

end OfList

/-- A predicate keeps the keys that are inserted in the order of their first insertions, and under
each the condition of its last one; its JSON has these entries in this order.  An insertion leaves
the other keys as they are, with their conditions and in their order, and to repeat it has no
effect. -/
theorem insertions_ordered_last_wins :
    (∀ entries : List (String × Condition),
      (ofList entries).keys.Nodup ∧
      (∀ key, key ∈ (ofList entries).keys ↔ key ∈ entries.map (·.1)) ∧
      ((ofList entries).keys.Pairwise fun key later =>
        (entries.map (·.1)).idxOf key < (entries.map (·.1)).idxOf later) ∧
      (∀ key, (ofList entries).get? key = (entries.filter (·.1 = key)).getLast?.map (·.2)) ∧
      (∀ key, (ofList entries).get? key = none ↔ key ∉ entries.map (·.1)) ∧
      (ofList entries).size = (entries.map (·.1)).toFinset.card ∧
      ((ofList entries).isEmpty = true ↔ entries = []) ∧
      (ofList entries).toJson = .object ((ofList entries).keys.filterMap fun key =>
        ((ofList entries).get? key).map fun condition => (key, condition.toJson))) ∧
    ∀ (p : Predicate) (key : String) (condition : Condition),
      (∀ other, other ≠ key → (p.insert key condition).get? other = p.get? other ∧
        (other ∈ (p.insert key condition).keys ↔ other ∈ p.keys)) ∧
      (p.insert key condition).keys.filter (· ≠ key) = p.keys.filter (· ≠ key) ∧
      (key ∈ p.keys → (p.insert key condition).keys = p.keys) ∧
      (p.insert key condition).insert key condition = p.insert key condition := by
  refine ⟨fun entries => ?_, fun p key condition => ⟨fun other hother => ⟨?_, ?_⟩, ?_, ?_, ?_⟩⟩
  · exact ⟨nodup_keys_ofList entries, fun _ => mem_keys_ofList entries,
      pairwise_keys_ofList entries, get?_ofList entries, fun _ => get?_ofList_eq_none_iff entries,
      size_ofList entries, isEmpty_ofList_iff entries,
      toJson_of_nodup (nodup_keys_ofList entries)⟩
  · rw [get?_insert, if_neg hother.symm]
  · rw [mem_keys_insert, or_iff_left hother]
  · exact p.filter_keys_insert key condition
  · intro hkey
    rw [keys_insert, if_pos hkey]
  · exact p.insert_insert key condition condition

example (first second third : Condition) :
    (ofList [("a", first), ("b", second), ("a", third)]).entries =
      [("a", third), ("b", second)] :=
  rfl

end Predicate
end DocumentFilter
