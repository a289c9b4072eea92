import Mathlib.Data.List.Forall2
import DocumentFilter.Proofs.Decimal
import DocumentFilter.Token.Lexer

/-!
# The written form of an instant

What the form says about single characters: it begins with the four digits of a year and a minus,
and all of it could stand in a word.  Field by field it is laid out from digits, so an instant is
read from the text in which it is written and from no other.
-/

namespace DocumentFilter
namespace Instant

theorem hasForm_of_ofText? {text : List Char} (h : (ofText? text).isSome = true) :
    hasForm text = true := by
  unfold ofText? at h
  split at h
  · assumption
  · cases h

/-- The character may stand where the form has the mark. -/
def Suits (mark c : Char) : Prop := if mark = 'd' then c.isDigit = true else c = mark

theorem hasForm_iff {text : List Char} : hasForm text = true ↔ List.Forall₂ Suits form text := by
  rw [hasForm, Bool.and_eq_true, beq_iff_eq, List.all_eq_true, List.forall₂_iff_zip, eq_comm]
  refine and_congr_right fun _ => ?_
  rw [Prod.forall]
  refine forall_congr' fun mark => forall_congr' fun c => forall_congr' fun _ => ?_
  by_cases hmark : mark = 'd' <;> simp [Suits, hmark]

theorem form_eq_cons : form = 'd' :: 'd' :: 'd' :: 'd' :: '-' :: form.drop 5 := by decide

theorem exists_year_of_hasForm {text : List Char} (h : hasForm text = true) :
    ∃ a b c d rest, text = a :: b :: c :: d :: '-' :: rest ∧ a.isDigit = true ∧
      b.isDigit = true ∧ c.isDigit = true ∧ d.isDigit = true := by
  rw [hasForm_iff, form_eq_cons] at h
  simp only [List.forall₂_cons_left_iff] at h
  obtain ⟨a, _, ha, ⟨b, _, hb, ⟨c, _, hc, hlast, rfl⟩, rfl⟩, rfl⟩ := h
  obtain ⟨d, _, hd, ⟨_, rest, rfl, _, rfl⟩, rfl⟩ := hlast
  exact ⟨a, b, c, d, rest, rfl, ha, hb, hc, hd⟩

/-- Digits before anything but a digit or a minus are no instant. -/
theorem hasForm_of_digits {digits tail : List Char} (hdigits : ∀ c ∈ digits, c.isDigit = true)
    (htail : ∀ c ∈ tail.head?, c.isDigit = false ∧ c ≠ '-') : hasForm (digits ++ tail) = false := by
  rw [Bool.eq_false_iff]
  intro hform
  obtain ⟨a, b, c, d, rest, htext, ha, hb, hc, hd⟩ := exists_year_of_hasForm hform
  match digits with
  | [] =>
      obtain rfl : tail = _ := htext
      simp [ha] at htail
  | [_] =>
      obtain ⟨-, rfl⟩ := List.cons.inj htext
      simp [hb] at htail
  | [_, _] =>
      simp only [List.cons_append, List.nil_append, List.cons.injEq] at htext
      obtain ⟨-, -, rfl⟩ := htext
      simp [hc] at htail
  | [_, _, _] =>
      simp only [List.cons_append, List.nil_append, List.cons.injEq] at htext
      obtain ⟨-, -, -, rfl⟩ := htext
      simp [hd] at htail
  | [_, _, _, _] =>
      simp only [List.cons_append, List.nil_append, List.cons.injEq] at htext
      obtain ⟨-, -, -, -, rfl⟩ := htext
      simp at htail
  | _ :: _ :: _ :: _ :: e :: _ =>
      simp only [List.cons_append, List.cons.injEq] at htext
      obtain ⟨-, -, -, -, rfl, -⟩ := htext
      have hminus := hdigits '-' (by simp)
      revert hminus
      decide

theorem isWordChar_of_hasForm {text : List Char} (h : hasForm text = true) :
    ∀ c ∈ text, Token.isWordChar c = true := by
  have hmarks : form.all (fun mark => mark == 'd' || Token.isWordChar mark) = true := by decide
  simp only [List.all_eq_true, Bool.or_eq_true, beq_iff_eq] at hmarks
  have hsuits := hasForm_iff.mp h
  clear h
  generalize form = marks at hmarks hsuits
  induction hsuits with
  | nil => simp
  | @cons mark c marks text hsuits _ ih =>
      obtain ⟨hmark, hmore⟩ := List.forall_mem_cons.mp hmarks
      refine List.forall_mem_cons.mpr ⟨?_, ih hmore⟩
      by_cases hdigit : mark = 'd'
      · rw [Suits, if_pos hdigit] at hsuits
        simp [Token.isWordChar, Char.isAlphanum, hsuits]
      · rw [Suits, if_neg hdigit] at hsuits
        rw [hsuits]
        exact hmark.resolve_left hdigit

/-! ## Fields -/

/-- Digits that fill a field of the form. -/
def IsField (width : Nat) (digits : List Char) : Prop :=
  digits.length = width ∧ ∀ c ∈ digits, c.isDigit = true

theorem IsField.value_lt {width : Nat} {digits : List Char} (h : IsField width digits) :
    Decimal.value digits < 10 ^ width := by
  rw [← h.1]
  exact Decimal.value_lt h.2

theorem IsField.padded_value {width : Nat} {digits : List Char} (h : IsField width digits) :
    Decimal.padded width (Decimal.value digits) = digits := by
  rw [← h.1]
  exact Decimal.padded_value h.2

theorem isField_padded (width n : Nat) : IsField width (Decimal.padded width n) :=
  ⟨Decimal.length_padded width n, fun _ => Decimal.isDigit_of_mem_padded⟩

/-- The written form, from the digits of its fields. -/
def layout (year month day hour minute second millisecond : List Char) : List Char :=
  year ++ '-' :: (month ++ '-' :: (day ++ 'T' :: (hour ++ ':' :: (minute ++ ':' :: (second ++
    '.' :: (millisecond ++ ['Z']))))))

theorem toList_text (instant : Instant) :
    instant.text.toList = layout (Decimal.padded 4 instant.year) (Decimal.padded 2 instant.month)
      (Decimal.padded 2 instant.day) (Decimal.padded 2 instant.hour)
      (Decimal.padded 2 instant.minute) (Decimal.padded 2 instant.second)
      (Decimal.padded 3 instant.millisecond) := by
  simp [text, clockText, layout]

theorem form_eq_layout : form = layout (List.replicate 4 'd') (List.replicate 2 'd')
    (List.replicate 2 'd') (List.replicate 2 'd') (List.replicate 2 'd') (List.replicate 2 'd')
    (List.replicate 3 'd') := by decide

theorem forall₂_field_iff {width : Nat} {mark : Char} (hmark : mark ≠ 'd')
    {marks text : List Char} :
    List.Forall₂ Suits (List.replicate width 'd' ++ mark :: marks) text ↔
      ∃ digits rest, IsField width digits ∧ List.Forall₂ Suits marks rest ∧
        text = digits ++ mark :: rest := by
  induction width generalizing text with
  | zero => simp [List.forall₂_cons_left_iff, Suits, hmark, IsField]
  | succ width ih =>
      rw [List.replicate_succ, List.cons_append, List.forall₂_cons_left_iff]
      constructor
      · rintro ⟨c, _, hc, hmore, rfl⟩
        obtain ⟨digits, rest, ⟨hlength, hdigits⟩, hrest, rfl⟩ := ih.mp hmore
        have hfield : IsField (width + 1) (c :: digits) :=
          ⟨congrArg Nat.succ hlength, List.forall_mem_cons.mpr ⟨hc, hdigits⟩⟩
        exact ⟨c :: digits, rest, hfield, hrest, rfl⟩
      · rintro ⟨_ | ⟨c, digits⟩, rest, ⟨hlength, hdigits⟩, hrest, rfl⟩
        · cases hlength
        · obtain ⟨hc, hmore⟩ := List.forall_mem_cons.mp hdigits
          have hfield : IsField width digits := ⟨Nat.succ.inj hlength, hmore⟩
          exact ⟨c, _, hc, ih.mpr ⟨digits, rest, hfield, hrest, rfl⟩, rfl⟩

/-- A text has the form if it is laid out from digits. -/
theorem hasForm_iff_layout {text : List Char} :
    hasForm text = true ↔ ∃ year month day hour minute second millisecond,
      IsField 4 year ∧ IsField 2 month ∧ IsField 2 day ∧ IsField 2 hour ∧ IsField 2 minute ∧
        IsField 2 second ∧ IsField 3 millisecond ∧
        text = layout year month day hour minute second millisecond := by
  rw [hasForm_iff, form_eq_layout]
  have hminus : '-' ≠ 'd' := by decide
  have hcolon : ':' ≠ 'd' := by decide
  constructor
  · intro h
    obtain ⟨year, _, hyear, hafterYear, rfl⟩ := (forall₂_field_iff hminus).mp h
    obtain ⟨month, _, hmonth, hafterMonth, rfl⟩ := (forall₂_field_iff hminus).mp hafterYear
    obtain ⟨day, _, hday, hafterDay, rfl⟩ := (forall₂_field_iff (by decide)).mp hafterMonth
    obtain ⟨hour, _, hhour, hafterHour, rfl⟩ := (forall₂_field_iff hcolon).mp hafterDay
    obtain ⟨minute, _, hminute, hafterMinute, rfl⟩ := (forall₂_field_iff hcolon).mp hafterHour
    obtain ⟨second, _, hsecond, hafterSecond, rfl⟩ :=
      (forall₂_field_iff (by decide)).mp hafterMinute
    obtain ⟨millisecond, _, hmillisecond, hend, rfl⟩ :=
      (forall₂_field_iff (by decide)).mp hafterSecond
    obtain rfl := List.forall₂_nil_left_iff.mp hend
    exact ⟨year, month, day, hour, minute, second, millisecond, hyear, hmonth, hday, hhour,
      hminute, hsecond, hmillisecond, rfl⟩
  · rintro ⟨year, month, day, hour, minute, second, millisecond, hyear, hmonth, hday, hhour,
      hminute, hsecond, hmillisecond, rfl⟩
    refine (forall₂_field_iff hminus).mpr ⟨year, _, hyear, ?_, rfl⟩
    refine (forall₂_field_iff hminus).mpr ⟨month, _, hmonth, ?_, rfl⟩
    refine (forall₂_field_iff (by decide)).mpr ⟨day, _, hday, ?_, rfl⟩
    refine (forall₂_field_iff hcolon).mpr ⟨hour, _, hhour, ?_, rfl⟩
    refine (forall₂_field_iff hcolon).mpr ⟨minute, _, hminute, ?_, rfl⟩
    refine (forall₂_field_iff (by decide)).mpr ⟨second, _, hsecond, ?_, rfl⟩
    exact (forall₂_field_iff (by decide)).mpr ⟨millisecond, [], hmillisecond, .nil, rfl⟩

theorem ofText?_layout {year month day hour minute second millisecond : List Char}
    (hyear : IsField 4 year) (hmonth : IsField 2 month) (hday : IsField 2 day)
    (hhour : IsField 2 hour) (hminute : IsField 2 minute) (hsecond : IsField 2 second)
    (hmillisecond : IsField 3 millisecond) :
    ofText? (layout year month day hour minute second millisecond) =
      ofFields? (Decimal.value year) (Decimal.value month) (Decimal.value day)
        (Decimal.value hour) (Decimal.value minute) (Decimal.value second)
        (Decimal.value millisecond) := by
  have hform : hasForm (layout year month day hour minute second millisecond) = true :=
    hasForm_iff_layout.mpr ⟨year, month, day, hour, minute, second, millisecond, hyear, hmonth,
      hday, hhour, hminute, hsecond, hmillisecond, rfl⟩
  rw [ofText?, if_pos hform]
  simp only [layout, field, List.drop_append, List.take_append, List.drop_of_length_le,
    List.take_of_length_le, hyear.1, hmonth.1, hday.1, hhour.1, hminute.1, hsecond.1,
    hmillisecond.1, List.drop_succ_cons, List.drop_zero, List.take_zero, List.append_nil,
    List.nil_append, Nat.reduceSub, Nat.reduceLeDiff, Nat.le_refl]

/-! ## Reading the text of an instant -/

theorem month_le (instant : Instant) : instant.month ≤ 12 := by
  have hday := instant.day_le
  have hpos := instant.day_pos
  refine Nat.le_of_not_lt fun hmonth => ?_
  have hdays : daysInMonth instant.year instant.month = 0 := by
    unfold daysInMonth
    split <;> omega
  omega

theorem daysInMonth_le (year month : Nat) : daysInMonth year month ≤ 31 := by
  fun_cases daysInMonth year month <;> decide

/-- An instant is read from its written form. -/
theorem ofText?_text (instant : Instant) : ofText? instant.text.toList = some instant := by
  have hfields : ofFields? instant.year instant.month instant.day instant.hour instant.minute
      instant.second instant.millisecond = some instant :=
    dif_pos ⟨instant.year_le, instant.day_pos, instant.day_le, instant.hour_le,
      instant.minute_le, instant.second_le, instant.millisecond_le⟩
  have hyear := instant.year_le
  have hmonth := instant.month_le
  have hday := Nat.le_trans instant.day_le (daysInMonth_le _ _)
  have hhour := instant.hour_le
  have hminute := instant.minute_le
  have hsecond := instant.second_le
  have hmillisecond := instant.millisecond_le
  rw [toList_text, ofText?_layout (isField_padded 4 _) (isField_padded 2 _) (isField_padded 2 _)
    (isField_padded 2 _) (isField_padded 2 _) (isField_padded 2 _) (isField_padded 3 _), ← hfields]
  simp only [Decimal.value_padded, Nat.reducePow]
  congr 1 <;> omega

theorem ofFields?_eq_some {year month day hour minute second millisecond : Nat} {instant : Instant}
    (h : ofFields? year month day hour minute second millisecond = some instant) :
    instant.year = year ∧ instant.month = month ∧ instant.day = day ∧ instant.hour = hour ∧
      instant.minute = minute ∧ instant.second = second ∧ instant.millisecond = millisecond := by
  unfold ofFields? at h
  split at h
  · cases h
    exact ⟨rfl, rfl, rfl, rfl, rfl, rfl, rfl⟩
  · cases h

/-- An instant is read from its written form only. -/
theorem ofText?_eq_some_iff {text : List Char} {instant : Instant} :
    ofText? text = some instant ↔ text = instant.text.toList := by
  constructor
  · intro h
    have hform := hasForm_of_ofText? (Option.isSome_of_mem h)
    obtain ⟨year, month, day, hour, minute, second, millisecond, hyear, hmonth, hday, hhour,
      hminute, hsecond, hmillisecond, rfl⟩ := hasForm_iff_layout.mp hform
    rw [ofText?_layout hyear hmonth hday hhour hminute hsecond hmillisecond] at h
    obtain ⟨hy, hmo, hd, hh, hmi, hs, hms⟩ := ofFields?_eq_some h
    rw [toList_text, hy, hmo, hd, hh, hmi, hs, hms, hyear.padded_value, hmonth.padded_value,
      hday.padded_value, hhour.padded_value, hminute.padded_value, hsecond.padded_value,
      hmillisecond.padded_value]
  · intro htext
    rw [htext, ofText?_text]

theorem ofText?_toList_eq_some_iff {text : String} {instant : Instant} :
    ofText? text.toList = some instant ↔ text = instant.text := by
  rw [ofText?_eq_some_iff, String.toList_inj]

end Instant
end DocumentFilter
