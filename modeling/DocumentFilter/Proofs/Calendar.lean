import DocumentFilter.Proofs.Instant

/-!
# The calendar

The days that the calendar has, month by month, and the texts that name an instant: the written form
with a day of the calendar and a time of the day in it.
-/

namespace DocumentFilter

/-- The calendar has the day of the month in the year. -/
inductive IsDay (year : Nat) : Nat → Nat → Prop
  | long {month day : Nat} :
      month ∈ [1, 3, 5, 7, 8, 10, 12] → 1 ≤ day → day ≤ 31 → IsDay year month day
  | short {month day : Nat} : month ∈ [4, 6, 9, 11] → 1 ≤ day → day ≤ 30 → IsDay year month day
  | february {day : Nat} : 1 ≤ day → day ≤ 28 → IsDay year 2 day
  /-- A century has its leap day every four hundred years only. -/
  | leapDay : 4 ∣ year → (100 ∣ year → 400 ∣ year) → IsDay year 2 29

theorem isLeapYear_iff {year : Nat} :
    isLeapYear year = true ↔ 4 ∣ year ∧ (100 ∣ year → 400 ∣ year) := by
  rw [isLeapYear, Bool.and_eq_true, Bool.or_eq_true, beq_iff_eq, bne_iff_ne, beq_iff_eq,
    Nat.dvd_iff_mod_eq_zero, Nat.dvd_iff_mod_eq_zero, Nat.dvd_iff_mod_eq_zero, imp_iff_not_or]

/-- Counting the days of the month finds the days of the calendar. -/
theorem isDay_iff {year month day : Nat} :
    IsDay year month day ↔ 1 ≤ day ∧ day ≤ daysInMonth year month := by
  constructor
  · intro h
    cases h with
    | long hmonth hpos hday =>
        have hdays : ∀ month ∈ [1, 3, 5, 7, 8, 10, 12], daysInMonth year month = 31 := by
          simp [daysInMonth]
        exact ⟨hpos, hdays month hmonth ▸ hday⟩
    | short hmonth hpos hday =>
        have hdays : ∀ month ∈ [4, 6, 9, 11], daysInMonth year month = 30 := by
          simp [daysInMonth]
        exact ⟨hpos, hdays month hmonth ▸ hday⟩
    | february hpos hday =>
        refine ⟨hpos, Nat.le_trans hday ?_⟩
        rw [daysInMonth]
        split <;> decide
    | leapDay hfour hcentury =>
        rw [daysInMonth, if_pos (isLeapYear_iff.mpr ⟨hfour, hcentury⟩)]
        decide
  · rintro ⟨hpos, hday⟩
    unfold daysInMonth at hday
    split at hday
    case h_12 =>
      split at hday
      · next hleap =>
          obtain ⟨hfour, hcentury⟩ := isLeapYear_iff.mp hleap
          obtain hday | rfl := Nat.le_succ_iff.mp hday
          · exact .february hpos hday
          · exact .leapDay hfour hcentury
      · exact .february hpos hday
    case h_13 => omega
    all_goals first
      | exact .long (by decide) hpos hday
      | exact .short (by decide) hpos hday

namespace Instant

/-- The text is the written form of a day of the calendar and a time of the day; a minute may have
a second 60. -/
inductive IsWritten : List Char → Prop
  | intro {year month day hour minute second millisecond : List Char} :
      IsField 4 year → IsField 2 month → IsField 2 day → IsField 2 hour → IsField 2 minute →
      IsField 2 second → IsField 3 millisecond →
      IsDay (Decimal.value year) (Decimal.value month) (Decimal.value day) →
      Decimal.value hour ≤ 23 → Decimal.value minute ≤ 59 → Decimal.value second ≤ 60 →
      IsWritten (layout year month day hour minute second millisecond)

/-- Just the texts that name an instant are read. -/
theorem isSome_ofText?_iff {text : List Char} :
    (ofText? text).isSome = true ↔ IsWritten text := by
  constructor
  · intro h
    obtain ⟨year, month, day, hour, minute, second, millisecond, hyear, hmonth, hday, hhour,
      hminute, hsecond, hmillisecond, rfl⟩ := hasForm_iff_layout.mp (hasForm_of_ofText? h)
    rw [ofText?_layout hyear hmonth hday hhour hminute hsecond hmillisecond, ofFields?] at h
    split at h
    · next hfields =>
        obtain ⟨_, hpos, hdays, hhours, hminutes, hseconds, _⟩ := hfields
        exact .intro hyear hmonth hday hhour hminute hsecond hmillisecond
          (isDay_iff.mpr ⟨hpos, hdays⟩) hhours hminutes hseconds
    · cases h
  · rintro ⟨hyear, hmonth, hday, hhour, hminute, hsecond, hmillisecond, hdays, hhours, hminutes,
      hseconds⟩
    obtain ⟨hpos, hdays⟩ := isDay_iff.mp hdays
    have hyears := Nat.le_of_lt_succ hyear.value_lt
    have hmilliseconds := Nat.le_of_lt_succ hmillisecond.value_lt
    rw [ofText?_layout hyear hmonth hday hhour hminute hsecond hmillisecond, ofFields?,
      dif_pos ⟨hyears, hpos, hdays, hhours, hminutes, hseconds, hmilliseconds⟩, Option.isSome_some]

end Instant
end DocumentFilter
