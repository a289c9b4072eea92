import DocumentFilter.Proofs.Pattern.Matching
import DocumentFilter.Proofs.Text.Words
import DocumentFilter.Query.SortOrder

/-!
# Clauses as a pattern

The form of a clause is a pattern: from the start to the end a field of characters that are not
blank, any number of blank ones, and a direction or nothing.  A field takes as many characters as
it can, so the end of a field is never taken for a direction.
-/

namespace DocumentFilter

namespace SortKey

/-- The directions, and the clause without one. -/
def directions : List (List Char) := [['a', 's', 'c'], ['d', 'e', 's', 'c'], []]

/-- The pattern of a clause: `^(\S+)\s*(asc|desc|)$`. -/
def clausePattern : List Pattern.Piece :=
  [.start, .plus (!Text.isBlank ·), .star Text.isBlank, .oneOf directions, .finish]

/-- The key from what the pieces of the pattern take. -/
def ofTaken? : List (List Char) → Option SortKey
  | [_, field, _, direction, _] => some ⟨field, direction = ['d', 'e', 's', 'c']⟩
  | _ => none

open Pattern

theorem not_isBlank_of_mem_directions {direction : List Char} (h : direction ∈ directions) :
    ∀ c ∈ direction, Text.isBlank c = false := by
  have hall : directions.all (·.all (!Text.isBlank ·)) = true := by decide
  have hdirection := List.all_eq_true.mp (List.all_eq_true.mp hall direction h)
  simpa using hdirection

theorem ways_direction (atStart : Bool) (text : List Char) :
    ways [.oneOf directions, .finish] atStart text =
      if text ∈ directions then [[text, []]] else [] := by
  rw [ways_oneOf_finish]
  split
  · rename_i hdirection
    simp only [directions, List.mem_cons, List.not_mem_nil, or_false] at hdirection
    rcases hdirection with rfl | rfl | rfl <;> rfl
  · rename_i hdirection
    have hnone : directions.filter (· = text) = [] := by
      rw [List.filter_eq_nil_iff]
      intro direction hmem heq
      exact hdirection (of_decide_eq_true heq ▸ hmem)
    rw [hnone, List.map_nil]

theorem ways_gap (atStart : Bool) (text : List Char) :
    ways [.star Text.isBlank, .oneOf directions, .finish] atStart text =
      if text.dropWhile Text.isBlank ∈ directions then
        [[text.takeWhile Text.isBlank, text.dropWhile Text.isBlank, []]]
      else [] := by
  obtain ⟨shorter, hruns, hshorter⟩ := exists_runs_eq Text.isBlank text
  have hrest : ∀ cut ∈ shorter, (ways [.oneOf directions, .finish]
      (atStart && cut.1.isEmpty) cut.2).map (cut.1 :: ·) = [] := by
    intro cut hcut
    obtain ⟨c, more, hleft, hblank⟩ := hshorter cut hcut
    have hdirection : cut.2 ∉ directions := by
      intro hmem
      have hnot := not_isBlank_of_mem_directions hmem c (by rw [hleft]; simp)
      rw [hblank] at hnot
      cases hnot
    rw [ways_direction, if_neg hdirection, List.map_nil]
  rw [ways, Piece.cuts, hruns, List.flatMap_cons, List.flatMap_eq_nil_iff.mpr hrest,
    List.append_nil, ways_direction]
  split <;> rfl

theorem ways_gap_of_not_blank {c : Char} (h : Text.isBlank c = false) (more : List Char)
    {after : List Char} (hafter : after ≠ [])
    (hblank : ∀ blank ∈ after.head?, Text.isBlank blank = true) (atStart : Bool) :
    ways [.star Text.isBlank, .oneOf directions, .finish] atStart (c :: more ++ after) = [] := by
  rw [ways_gap, List.cons_append, List.dropWhile_cons_of_neg (by simp [h]), if_neg]
  intro hdirection
  obtain ⟨blank, rest, rfl⟩ := List.exists_cons_of_ne_nil hafter
  have hnot := not_isBlank_of_mem_directions hdirection blank (by simp)
  rw [hblank blank rfl] at hnot
  cases hnot

/-- If a clause matches, the field takes all characters up to the first blank one. -/
theorem head?_ways_field (atStart : Bool) (clause : List Char) :
    (ways [.plus (!Text.isBlank ·), .star Text.isBlank, .oneOf directions, .finish]
      atStart clause).head? =
      if clause.takeWhile (!Text.isBlank ·) = [] then none
      else ((ways [.star Text.isBlank, .oneOf directions, .finish] false
        (clause.dropWhile (!Text.isBlank ·))).head?).map
          (clause.takeWhile (!Text.isBlank ·) :: ·) := by
  by_cases hfield : clause.takeWhile (!Text.isBlank ·) = []
  · rw [if_pos hfield, ways, Piece.cuts]
    cases clause with
    | nil => rfl
    | cons c clause =>
        cases hblank : Text.isBlank c with
        | true => simp [runs, hblank]
        | false => simp [hblank] at hfield
  · obtain ⟨shorter, hruns, hshorter⟩ := exists_runs_eq (!Text.isBlank ·) clause
    have hfirst : (clause.takeWhile (!Text.isBlank ·)).isEmpty = false := by
      simpa using hfield
    rw [if_neg hfield, ways, Piece.cuts, hruns, List.filter_cons_of_pos (by simp [hfirst]),
      List.flatMap_cons, List.head?_append, List.head?_map, hfirst, Bool.and_false]
    by_cases hafter : clause.dropWhile (!Text.isBlank ·) = []
    · rw [hafter, ways_gap]
      rfl
    · have hshort : ∀ cut ∈ shorter.filter (!·.1.isEmpty),
          (ways [.star Text.isBlank, .oneOf directions, .finish] (atStart && cut.1.isEmpty)
            cut.2).map (cut.1 :: ·) = [] := by
        intro cut hcut
        obtain ⟨c, more, hleft, hnot⟩ := hshorter cut (List.mem_filter.mp hcut).1
        rw [hleft, ways_gap_of_not_blank (by simpa using hnot) more hafter
          (Text.isBlank_of_mem_head?_dropWhile_not clause), List.map_nil]
      rw [List.flatMap_eq_nil_iff.mpr hshort, List.head?_nil, Option.or_none]

/-- A clause is read as its pattern matches it first. -/
theorem ofClause?_eq_find? (clause : List Char) :
    ofClause? clause = (find? clausePattern true clause).bind ofTaken? := by
  rw [clausePattern, find?_start, head?_ways_field, ways_gap, ofClause?]
  by_cases hfield : clause.takeWhile (!Text.isBlank ·) = []
  · simp only [hfield, List.isEmpty_nil, if_true, Option.map_none, Option.bind_none]
  · simp only [hfield, List.isEmpty_iff, if_false]
    generalize (clause.dropWhile (!Text.isBlank ·)).dropWhile Text.isBlank = direction
    by_cases hdirection : direction ∈ directions
    · rw [if_pos hdirection]
      simp only [directions, List.mem_cons, List.not_mem_nil, or_false] at hdirection
      rcases hdirection with rfl | rfl | rfl <;> rfl
    · rw [if_neg hdirection]
      simp only [directions, List.mem_cons, List.not_mem_nil, or_false, not_or] at hdirection
      obtain ⟨hasc, hdesc, hnil⟩ := hdirection
      simp [hasc, hdesc, hnil]

/-- A clause cannot be read where its pattern does not match. -/
theorem ofClause?_eq_none_iff {clause : List Char} :
    ofClause? clause = none ↔ find? clausePattern true clause = none := by
  rw [ofClause?_eq_find?, Option.bind_eq_none_iff]
  constructor
  · intro h
    rw [Option.eq_none_iff_forall_ne_some]
    intro taken htaken
    have hnone := h taken htaken
    rw [clausePattern, find?_start, Option.map_eq_some_iff] at htaken
    obtain ⟨behind, hhead, rfl⟩ := htaken
    have hlength := length_of_mem_ways (List.mem_of_head? hhead)
    match behind, hlength with
    | [_, _, _, _], _ => cases hnone
  · intro h taken htaken
    rw [h] at htaken
    cases htaken

end SortKey
end DocumentFilter
