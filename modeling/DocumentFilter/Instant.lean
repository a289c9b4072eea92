import DocumentFilter.Text.Decimal

/-!
# Instants

A point in time as the calendar writes it, in the one form that a filter admits:
`YYYY-MM-DDTHH:MM:SS.mmmZ`.  The calendar is the proleptic Gregorian one, from year 0 to year
9999, and every minute may have a second 60.
-/

namespace DocumentFilter

/-- A leap year has a 29th of February. -/
def isLeapYear (year : Nat) : Bool := year % 4 == 0 && (year % 100 != 0 || year % 400 == 0)

/-- The number of days of a month; an unknown month has none. -/
def daysInMonth (year : Nat) : Nat → Nat
  | 1 | 3 | 5 | 7 | 8 | 10 | 12 => 31
  | 4 | 6 | 9 | 11 => 30
  | 2 => if isLeapYear year then 29 else 28
  | _ => 0

/-- A reading of calendar and clock that exists. -/
structure Instant where
  /-- Year, from 0 to 9999. -/
  year : Nat
  /-- Month of the year, from 1. -/
  month : Nat
  /-- Day of the month, from 1. -/
  day : Nat
  /-- Hour of the day. -/
  hour : Nat
  /-- Minute of the hour. -/
  minute : Nat
  /-- Second of the minute; 60 is a leap second. -/
  second : Nat
  /-- Thousandth of the second. -/
  millisecond : Nat
  year_le : year ≤ 9999
  day_pos : 1 ≤ day
  day_le : day ≤ daysInMonth year month
  hour_le : hour ≤ 23
  minute_le : minute ≤ 59
  second_le : second ≤ 60
  millisecond_le : millisecond ≤ 999
deriving DecidableEq

namespace Instant

/-- The written form, with `d` for a digit. -/
def form : List Char := "dddd-dd-ddTdd:dd:dd.dddZ".toList

/-- The text has the written form, whether or not the calendar has such a day. -/
def hasForm (text : List Char) : Bool :=
  text.length == form.length &&
    (form.zip text).all fun (mark, c) => if mark = 'd' then c.isDigit else c = mark

/-- The number that stands at an offset of a text. -/
def field (text : List Char) (offset width : Nat) : Nat :=
  Decimal.value ((text.drop offset).take width)

/-- The instant with the given fields, if the calendar has it. -/
def ofFields? (year month day hour minute second millisecond : Nat) : Option Instant :=
  if h : year ≤ 9999 ∧ 1 ≤ day ∧ day ≤ daysInMonth year month ∧ hour ≤ 23 ∧ minute ≤ 59 ∧
      second ≤ 60 ∧ millisecond ≤ 999 then
    some ⟨year, month, day, hour, minute, second, millisecond,
      h.1, h.2.1, h.2.2.1, h.2.2.2.1, h.2.2.2.2.1, h.2.2.2.2.2.1, h.2.2.2.2.2.2⟩
  else
    none

/-- Reads the written form; there is none for a day or a time that does not exist. -/
def ofText? (text : List Char) : Option Instant :=
  if hasForm text then
    ofFields? (field text 0 4) (field text 5 2) (field text 8 2) (field text 11 2)
      (field text 14 2) (field text 17 2) (field text 20 3)
  else
    none

/-- Date and time to the second. -/
def clockText (instant : Instant) : List Char :=
  Decimal.padded 4 instant.year ++ '-' :: Decimal.padded 2 instant.month ++
    '-' :: Decimal.padded 2 instant.day ++ 'T' :: Decimal.padded 2 instant.hour ++
    ':' :: Decimal.padded 2 instant.minute ++ ':' :: Decimal.padded 2 instant.second

/-- The written form. -/
def text (instant : Instant) : String :=
  String.ofList (instant.clockText ++ '.' :: Decimal.padded 3 instant.millisecond ++ ['Z'])

/-- The written form without the thousandths when there are none. -/
def shortText (instant : Instant) : String :=
  if instant.millisecond = 0 then String.ofList (instant.clockText ++ ['Z']) else instant.text

/-- Days from the first day of year 0 to the first day of a year. -/
def daysBeforeYear (year : Nat) : Nat :=
  if year = 0 then 0
  else 365 * year + (year - 1) / 4 - (year - 1) / 100 + (year - 1) / 400 + 1

/-- Days from the first day of year 0 to the first day of 1970. -/
def epochDay : Nat := 719528

/-- Days from the first day of a year to the first day of one of its months. -/
def daysBeforeMonth (year month : Nat) : Nat :=
  (List.range (month - 1)).foldl (fun days k => days + daysInMonth year (k + 1)) 0

/-- Days from the first day of 1970. -/
def dayNumber (instant : Instant) : Int :=
  let days := daysBeforeYear instant.year + daysBeforeMonth instant.year instant.month +
    (instant.day - 1)
  Int.ofNat days - Int.ofNat epochDay

/-- Milliseconds from the start of 1970; a leap second runs on past the end of its minute. -/
def unixMilliseconds (instant : Instant) : Int :=
  let seconds := instant.hour * 3600 + instant.minute * 60 + instant.second
  (instant.dayNumber * 86400 + seconds) * 1000 + instant.millisecond

end Instant
end DocumentFilter
