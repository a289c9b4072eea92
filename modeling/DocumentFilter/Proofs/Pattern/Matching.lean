/-!
# Where patterns match

A pattern is a sequence of pieces, and each piece cuts a front part off the subject.  A piece may
have several ways to cut; they stand in the order in which they are tried, and the first way that
lets the rest of the pattern match is the one that counts.  A match may begin anywhere, and an
earlier beginning comes first.
-/

namespace DocumentFilter
namespace Pattern

/-- A piece of a pattern. -/
inductive Piece where
  /-- The very start of the subject. -/
  | start
  /-- The very end of the subject. -/
  | finish
  | char (c : Char)
  /-- Any number of characters of a class, as many as possible. -/
  | star (accepts : Char → Bool)
  /-- At least one character of a class, as many as possible. -/
  | plus (accepts : Char → Bool)
  /-- One of several texts, an earlier one before a later one. -/
  | oneOf (texts : List (List Char))

/-- The ways to cut a text after characters of a class, the longest front part first. -/
def runs (accepts : Char → Bool) : List Char → List (List Char × List Char)
  | [] => [([], [])]
  | c :: rest =>
    if accepts c then
      (runs accepts rest).map (fun (taken, left) => (c :: taken, left)) ++ [([], c :: rest)]
    else [([], c :: rest)]

namespace Piece

/-- The ways in which a piece cuts a text, in the order in which they are tried.  Whether the text
is the whole subject decides about its start. -/
def cuts (atStart : Bool) (text : List Char) : Piece → List (List Char × List Char)
  | start => if atStart then [([], text)] else []
  | finish => if text.isEmpty then [([], text)] else []
  | char c =>
    match text with
    | [] => []
    | first :: rest => if first = c then [([c], rest)] else []
  | star accepts => runs accepts text
  | plus accepts => (runs accepts text).filter (!·.1.isEmpty)
  | oneOf texts =>
    (texts.filter (·.isPrefixOf text)).map fun front => (front, text.drop front.length)

end Piece

/-- The ways in which pieces match at the front of a text, each by what the pieces take. -/
def ways : List Piece → Bool → List Char → List (List (List Char))
  | [], _, _ => [[]]
  | piece :: more, atStart, text =>
    (piece.cuts atStart text).flatMap fun cut =>
      (ways more (atStart && cut.1.isEmpty) cut.2).map (cut.1 :: ·)

/-- What the pieces take where they match first. -/
def find? (pieces : List Piece) (atStart : Bool) : List Char → Option (List (List Char))
  | [] => (ways pieces atStart []).head?
  | c :: rest => (ways pieces atStart (c :: rest)).head?.or (find? pieces false rest)

theorem length_of_mem_ways {pieces : List Piece} {atStart : Bool} {text : List Char}
    {taken : List (List Char)} (h : taken ∈ ways pieces atStart text) :
    taken.length = pieces.length := by
  induction pieces generalizing atStart text taken with
  | nil =>
      rw [ways, List.mem_singleton] at h
      rw [h]
      rfl
  | cons piece more ih =>
      rw [ways, List.mem_flatMap] at h
      obtain ⟨cut, _, hmore⟩ := h
      obtain ⟨behind, hbehind, rfl⟩ := List.mem_map.mp hmore
      rw [List.length_cons, List.length_cons, ih hbehind]

theorem exists_runs_eq (accepts : Char → Bool) (text : List Char) :
    ∃ shorter, runs accepts text = (text.takeWhile accepts, text.dropWhile accepts) :: shorter ∧
      ∀ cut ∈ shorter, ∃ c more, cut.2 = c :: more ++ text.dropWhile accepts ∧
        accepts c = true := by
  induction text with
  | nil => exact ⟨[], rfl, by simp⟩
  | cons c text ih =>
      cases haccepts : accepts c with
      | false => exact ⟨[], by simp [runs, haccepts], by simp⟩
      | true =>
          obtain ⟨shorter, hruns, hshorter⟩ := ih
          refine ⟨shorter.map (fun (taken, left) => (c :: taken, left)) ++ [([], c :: text)],
            ?_, ?_⟩
          · simp [runs, haccepts, hruns]
          · intro cut hcut
            rw [List.dropWhile_cons_of_pos haccepts]
            rcases List.mem_append.mp hcut with hlonger | hlast
            · obtain ⟨inner, hinner, rfl⟩ := List.mem_map.mp hlonger
              exact hshorter inner hinner
            · obtain rfl := List.mem_singleton.mp hlast
              refine ⟨c, text.takeWhile accepts, ?_, haccepts⟩
              rw [List.cons_append, List.takeWhile_append_dropWhile]

/-- A pattern that is anchored at the start matches there or nowhere. -/
theorem find?_start (more : List Piece) (text : List Char) :
    find? (.start :: more) true text = ((ways more true text).head?).map ([] :: ·) := by
  have hlater : ∀ text, find? (.start :: more) false text = none := by
    intro text
    induction text with
    | nil => rfl
    | cons c text ih => exact ih
  cases text with
  | nil => simp [find?, ways, Piece.cuts, List.head?_map]
  | cons c text => simp [find?, ways, Piece.cuts, hlater, List.head?_map]

theorem ways_finish (atStart : Bool) (text : List Char) :
    ways [.finish] atStart text = if text.isEmpty then [[[]]] else [] := by
  cases text with
  | nil => rfl
  | cons c text => rfl

theorem ways_oneOf_finish (texts : List (List Char)) (atStart : Bool) (text : List Char) :
    ways [.oneOf texts, .finish] atStart text =
      (texts.filter (· = text)).map fun front => [front, []] := by
  rw [ways, Piece.cuts]
  induction texts with
  | nil => rfl
  | cons front texts ih =>
      by_cases hfront : front = text
      · subst hfront
        simpa [ways_finish] using ih
      · cases hbegins : front.isPrefixOf text with
        | false => simpa [hbegins, hfront] using ih
        | true =>
            have hleft : ¬ text.length ≤ front.length := fun hlength =>
              hfront ((List.isPrefixOf_iff_prefix.mp hbegins).eq_of_length_le hlength)
            simpa [hbegins, hfront, ways_finish, hleft] using ih

/-- The pieces match at the front of a text. -/
def Fits (pieces : List Piece) (atStart : Bool) (text : List Char) : Prop :=
  ways pieces atStart text ≠ []

variable {atStart : Bool} {text : List Char}

theorem fits_nil : Fits [] atStart text := by simp [Fits, ways]

theorem fits_cons_iff {piece : Piece} {more : List Piece} :
    Fits (piece :: more) atStart text ↔
      ∃ cut ∈ piece.cuts atStart text, Fits more (atStart && cut.1.isEmpty) cut.2 := by
  simp [Fits, ways]

theorem fits_start_iff {more : List Piece} :
    Fits (.start :: more) atStart text ↔ atStart = true ∧ Fits more true text := by
  rw [fits_cons_iff, Piece.cuts]
  cases atStart <;> simp

theorem fits_finish_iff : Fits [.finish] atStart text ↔ text = [] := by
  rw [fits_cons_iff, Piece.cuts]
  cases text <;> simp [fits_nil]

theorem fits_char_iff {c : Char} {more : List Piece} :
    Fits (.char c :: more) atStart text ↔ ∃ rest, text = c :: rest ∧ Fits more false rest := by
  rw [fits_cons_iff]
  cases text with
  | nil => simp [Piece.cuts]
  | cons first rest =>
      by_cases hfirst : first = c
      · simp [Piece.cuts, hfirst]
      · simp [Piece.cuts, hfirst]

theorem fits_chars_iff {chars : List Char} {more : List Piece} :
    Fits (chars.map .char ++ more) atStart text ↔
      ∃ rest, text = chars ++ rest ∧ Fits more (atStart && chars.isEmpty) rest := by
  induction chars generalizing atStart text with
  | nil => simp
  | cons c chars ih =>
      rw [List.map_cons, List.cons_append, fits_char_iff]
      constructor
      · rintro ⟨left, rfl, hleft⟩
        obtain ⟨rest, rfl, hrest⟩ := ih.mp hleft
        exact ⟨rest, rfl, by simpa using hrest⟩
      · rintro ⟨rest, rfl, hrest⟩
        exact ⟨chars ++ rest, rfl, ih.mpr ⟨rest, rfl, by simpa using hrest⟩⟩

theorem isSome_head?_ways_iff {pieces : List Piece} :
    (ways pieces atStart text).head?.isSome = true ↔ Fits pieces atStart text :=
  List.isSome_head?

/-- There is a match if the pieces fit somewhere in the text. -/
theorem isSome_find?_iff {pieces : List Piece} :
    (find? pieces atStart text).isSome = true ↔
      ∃ before rest, text = before ++ rest ∧ Fits pieces (atStart && before.isEmpty) rest := by
  induction text generalizing atStart with
  | nil =>
      rw [find?, isSome_head?_ways_iff]
      constructor
      · intro hhere
        exact ⟨[], [], rfl, by simpa using hhere⟩
      · rintro ⟨before, rest, htext, hrest⟩
        obtain ⟨rfl, rfl⟩ := List.nil_eq_append_iff.mp htext
        simpa using hrest
  | cons c text ih =>
      rw [find?, Option.isSome_or, Bool.or_eq_true, isSome_head?_ways_iff, ih]
      constructor
      · rintro (hhere | ⟨before, rest, rfl, hrest⟩)
        · exact ⟨[], c :: text, rfl, by simpa using hhere⟩
        · exact ⟨c :: before, rest, rfl, by simpa using hrest⟩
      · rintro ⟨before, rest, htext, hrest⟩
        rcases List.cons_eq_append_iff.mp htext with ⟨rfl, rfl⟩ | ⟨front, rfl, rfl⟩
        · exact .inl (by simpa using hrest)
        · exact .inr ⟨front, rest, rfl, by simpa using hrest⟩

variable {chars subject : List Char}

/-- Characters match where the subject contains them. -/
theorem isSome_find?_chars_iff :
    (find? (chars.map .char) true subject).isSome = true ↔ chars <:+: subject := by
  rw [isSome_find?_iff, ← List.append_nil (chars.map Piece.char)]
  constructor
  · rintro ⟨before, rest, rfl, hrest⟩
    obtain ⟨after, rfl, _⟩ := fits_chars_iff.mp hrest
    exact ⟨before, after, List.append_assoc ..⟩
  · rintro ⟨before, after, rfl⟩
    exact ⟨before, chars ++ after, List.append_assoc .., fits_chars_iff.mpr ⟨after, rfl, fits_nil⟩⟩

/-- Characters behind the anchor at the start match where the subject starts with them. -/
theorem isSome_find?_start_iff :
    (find? (.start :: chars.map .char) true subject).isSome = true ↔ chars <+: subject := by
  rw [isSome_find?_iff, ← List.append_nil (chars.map Piece.char)]
  constructor
  · rintro ⟨before, rest, rfl, hrest⟩
    obtain ⟨hstart, hchars⟩ := fits_start_iff.mp hrest
    obtain ⟨after, rfl, _⟩ := fits_chars_iff.mp hchars
    obtain rfl : before = [] := by simpa using hstart
    exact ⟨after, rfl⟩
  · rintro ⟨after, rfl⟩
    refine ⟨[], chars ++ after, rfl, fits_start_iff.mpr ⟨rfl, ?_⟩⟩
    exact fits_chars_iff.mpr ⟨after, rfl, fits_nil⟩

/-- Characters before the anchor at the end match where the subject ends with them. -/
theorem isSome_find?_finish_iff :
    (find? (chars.map .char ++ [.finish]) true subject).isSome = true ↔ chars <:+ subject := by
  rw [isSome_find?_iff]
  constructor
  · rintro ⟨before, rest, rfl, hrest⟩
    obtain ⟨after, rfl, hfinish⟩ := fits_chars_iff.mp hrest
    obtain rfl : after = [] := fits_finish_iff.mp hfinish
    exact ⟨before, by rw [List.append_nil]⟩
  · rintro ⟨before, rfl⟩
    refine ⟨before, chars, rfl, fits_chars_iff.mpr ⟨[], ?_, fits_finish_iff.mpr rfl⟩⟩
    rw [List.append_nil]

end Pattern
end DocumentFilter
