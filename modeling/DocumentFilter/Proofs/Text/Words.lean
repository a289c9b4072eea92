import DocumentFilter.Text.Blank

/-!
# Words

The words of a text are its maximal runs of characters that are not blank.  A blank character
anywhere cuts the words of a text in two lists, and the blank characters at its ends do not matter.
-/

namespace DocumentFilter
namespace Text

/-- The maximal runs of characters that are not blank. -/
def words (text : List Char) : List (List Char) := (text.splitOnP isBlank).filter (!·.isEmpty)

/-- Neither at its start nor at its end is the text blank. -/
structure IsTrimmed (text : List Char) : Prop where
  head : ∀ c ∈ text.head?, isBlank c = false
  last : ∀ c ∈ text.getLast?, isBlank c = false

/-! ## Trimming -/

theorem not_isBlank_of_mem_head?_dropWhile (text : List Char) :
    ∀ c ∈ (text.dropWhile isBlank).head?, isBlank c = false := by
  intro c hc
  have hhead := List.head?_dropWhile_not isBlank text
  rw [Option.mem_def.mp hc] at hhead
  exact hhead

theorem isBlank_of_mem_takeWhile (text : List Char) :
    ∀ c ∈ text.takeWhile isBlank, isBlank c = true :=
  List.all_eq_true.mp List.all_takeWhile

theorem exists_dropWhile_eq_trim_append (text : List Char) :
    ∃ after, text.dropWhile isBlank = trim text ++ after ∧ ∀ c ∈ after, isBlank c = true := by
  refine ⟨((text.dropWhile isBlank).reverse.takeWhile isBlank).reverse, ?_, ?_⟩
  · rw [trim, ← List.reverse_append, List.takeWhile_append_dropWhile, List.reverse_reverse]
  · intro c hc
    exact isBlank_of_mem_takeWhile _ c (List.mem_reverse.mp hc)

theorem isTrimmed_trim (text : List Char) : IsTrimmed (trim text) where
  head c hc := by
    obtain ⟨after, hdrop, _⟩ := exists_dropWhile_eq_trim_append text
    apply not_isBlank_of_mem_head?_dropWhile text
    rw [hdrop, List.head?_append, Option.mem_def.mp hc]
    rfl
  last c hc := by
    rw [trim, List.getLast?_reverse] at hc
    exact not_isBlank_of_mem_head?_dropWhile _ c hc

/-! ## Cutting into words -/

variable {c : Char} {text : List Char}

/-- A blank character anywhere cuts the words in two lists. -/
theorem words_append_cons (left right : List Char) (h : isBlank c = true) :
    words (left ++ c :: right) = words left ++ words right := by
  rw [words, List.splitOnP_append_cons left right h, List.filter_append]
  rfl

theorem words_cons (right : List Char) (h : isBlank c = true) : words (c :: right) = words right :=
  words_append_cons [] right h

theorem words_append_of_blank (text : List Char) {after : List Char}
    (h : ∀ c ∈ after, isBlank c = true) : words (text ++ after) = words text := by
  induction after generalizing text with
  | nil => rw [List.append_nil]
  | cons c after ih =>
      obtain ⟨hc, hafter⟩ := List.forall_mem_cons.mp h
      have hblank : words after = [] := ih [] hafter
      rw [words_append_cons text after hc, hblank, List.append_nil]

theorem words_dropWhile (text : List Char) : words (text.dropWhile isBlank) = words text := by
  induction text with
  | nil => rfl
  | cons c text ih =>
      rw [List.dropWhile_cons]
      split
      · rename_i hblank
        rw [ih, words_cons text hblank]
      · rfl

/-- Trimming changes no word. -/
theorem words_trim (text : List Char) : words (trim text) = words text := by
  obtain ⟨after, hdrop, hblank⟩ := exists_dropWhile_eq_trim_append text
  rw [← words_dropWhile text, hdrop, words_append_of_blank _ hblank]

theorem words_of_forall_not_blank (hne : text ≠ []) (h : ∀ c ∈ text, isBlank c = false) :
    words text = [text] := by
  rw [words, List.splitOnP_eq_singleton h]
  simp [hne]

theorem words_append {word rest : List Char} (hne : word ≠ [])
    (hword : ∀ c ∈ word, isBlank c = false) (hrest : ∀ c ∈ rest.head?, isBlank c = true) :
    words (word ++ rest) = word :: words rest := by
  have hsingle := words_of_forall_not_blank hne hword
  cases rest with
  | nil =>
      rw [List.append_nil, hsingle]
      rfl
  | cons blank rest =>
      have hblank : isBlank blank = true := hrest blank rfl
      rw [words_append_cons word rest hblank, hsingle, words_cons rest hblank,
        List.singleton_append]

theorem not_isBlank_of_mem_takeWhile (text : List Char) :
    ∀ c ∈ text.takeWhile (!isBlank ·), isBlank c = false := by
  have htaken := List.all_eq_true.mp (@List.all_takeWhile _ (!isBlank ·) text)
  simpa using htaken

theorem isBlank_of_mem_head?_dropWhile_not (text : List Char) :
    ∀ c ∈ (text.dropWhile (!isBlank ·)).head?, isBlank c = true := by
  intro c hc
  have hhead := List.head?_dropWhile_not (!isBlank ·) text
  rw [Option.mem_def.mp hc] at hhead
  simpa using hhead

/-- The characters up to the first blank one are the first word. -/
theorem words_of_head (hne : text.takeWhile (!isBlank ·) ≠ []) :
    words text = text.takeWhile (!isBlank ·) :: words (text.dropWhile (!isBlank ·)) := by
  have hwords := words_append hne (not_isBlank_of_mem_takeWhile text)
    (isBlank_of_mem_head?_dropWhile_not text)
  rwa [List.takeWhile_append_dropWhile] at hwords

theorem words_eq_nil_iff : words text = [] ↔ ∀ c ∈ text, isBlank c = true := by
  constructor
  · intro hwords
    induction text with
    | nil => simp
    | cons c text ih =>
        cases hblank : isBlank c with
        | true => exact List.forall_mem_cons.mpr ⟨hblank, ih (words_cons text hblank ▸ hwords)⟩
        | false =>
            rw [words_of_head (by simp [hblank])] at hwords
            cases hwords
  · intro hblank
    exact words_append_of_blank [] hblank

/-! ## Trimmed texts -/

namespace IsTrimmed

theorem takeWhile_ne_nil (h : IsTrimmed text) (hne : text ≠ []) :
    text.takeWhile (!isBlank ·) ≠ [] := by
  cases text with
  | nil => exact absurd rfl hne
  | cons c text => simp [h.head c rfl]

theorem eq_nil_of_append {front rest : List Char} (h : IsTrimmed (front ++ rest))
    (hblank : ∀ c ∈ rest, isBlank c = true) : rest = [] := by
  rcases List.eq_nil_or_concat rest with hnil | ⟨left, last, rfl⟩
  · exact hnil
  · rw [List.concat_eq_append] at h hblank
    have hlast : isBlank last = false := by
      apply h.last last
      rw [← List.append_assoc, List.getLast?_concat]
      rfl
    rw [hblank last (by simp)] at hlast
    cases hlast

theorem behind_word (h : IsTrimmed text) :
    IsTrimmed ((text.dropWhile (!isBlank ·)).dropWhile isBlank) where
  head := not_isBlank_of_mem_head?_dropWhile _
  last c hc := by
    obtain ⟨front, hfront⟩ : (text.dropWhile (!isBlank ·)).dropWhile isBlank <:+ text :=
      (List.dropWhile_suffix isBlank).trans (List.dropWhile_suffix _)
    apply h.last c
    rw [← hfront, List.getLast?_append, Option.mem_def.mp hc]
    rfl

theorem eq_of_words {word : List Char} (h : IsTrimmed text) (hword : words text = [word]) :
    text = word := by
  have hne : text ≠ [] := by
    rintro rfl
    cases hword
  rw [words_of_head (h.takeWhile_ne_nil hne)] at hword
  obtain ⟨hfirst, hrest⟩ := List.cons.inj hword
  have htext := @List.takeWhile_append_dropWhile _ (!isBlank ·) text
  rw [← htext] at h
  rw [h.eq_nil_of_append (words_eq_nil_iff.mp hrest), List.append_nil] at htext
  exact htext.symm.trans hfirst

end IsTrimmed

/-! ## What words consist of -/

theorem not_isBlank_of_mem_splitOnP {piece : List Char} (h : piece ∈ text.splitOnP isBlank) :
    ∀ c ∈ piece, isBlank c = false := by
  induction text generalizing piece with
  | nil =>
      obtain rfl : piece = [] := by simpa using h
      simp
  | cons first text ih =>
      rw [List.splitOnP_cons_eq_if_modifyHead] at h
      obtain ⟨front, rest, hsplit⟩ := List.exists_cons_of_ne_nil (List.splitOnP_ne_nil isBlank text)
      rw [hsplit] at h ih
      split at h
      · rcases List.mem_cons.mp h with rfl | hrest
        · simp
        · exact ih hrest
      · rename_i hfirst
        rcases List.mem_cons.mp h with rfl | hrest
        · have hfront := ih List.mem_cons_self
          simpa [hfirst] using hfront
        · exact ih (List.mem_cons_of_mem _ hrest)

/-- A word has a character, and none of its characters is blank. -/
theorem of_mem_words {word : List Char} (h : word ∈ words text) :
    word ≠ [] ∧ ∀ c ∈ word, isBlank c = false := by
  obtain ⟨hpiece, hne⟩ := List.mem_filter.mp h
  exact ⟨by simpa using hne, not_isBlank_of_mem_splitOnP hpiece⟩

end Text
end DocumentFilter
