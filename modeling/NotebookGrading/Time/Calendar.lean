/-
  The Gregorian calendar.

  Dates are counted in days from the first of January 1970.
  The year is taken to begin in March, so that the leap day
  is its last, and 400 years make up an era of 146097 days.

  Key definitions include:
    * `CalendarDate`
    * `CalendarDate.isValid`
    * `CalendarDate.dayNumber`
    * `CalendarDate.ofDayNumber`
-/

namespace NotebookGrading

structure CalendarDate where
  year : Int
  month : Nat
  day : Nat
deriving DecidableEq, Repr

namespace CalendarDate

------------------------------------------------------------
-- Valid Dates
------------------------------------------------------------

def isLeapYear
    (year : Int) : Bool :=
  year % 4 = 0 && (year % 100 ≠ 0 || year % 400 = 0)

def monthLength
    (year : Int)
    (month : Nat) : Nat :=
  if month = 2 then
    if isLeapYear year then 29 else 28
  else if month = 4 || month = 6 || month = 9 ||
      month = 11 then
    30
  else
    31

/- The first and the last year of the calendar. -/
def firstYear : Int :=
  -262143

def lastYear : Int :=
  262142

def isValid
    (date : CalendarDate) : Bool :=
  firstYear ≤ date.year && date.year ≤ lastYear &&
    1 ≤ date.month && date.month ≤ 12 &&
    1 ≤ date.day &&
    date.day ≤ monthLength date.year date.month

------------------------------------------------------------
-- Day Numbers
------------------------------------------------------------

/- Days from the first of January 1970 to a date. -/
def dayNumber
    (date : CalendarDate) : Int :=
  let year :=
    if date.month ≤ 2 then date.year - 1 else date.year
  let era := Int.fdiv year 400
  let yearOfEra := year - era * 400
  let monthFromMarch : Int := (date.month + 9) % 12
  let dayOfYear :=
    (153 * monthFromMarch + 2) / 5 + (date.day : Int) - 1
  let dayOfEra :=
    yearOfEra * 365 + yearOfEra / 4 - yearOfEra / 100 +
      dayOfYear
  era * 146097 + dayOfEra - 719468

/- The date that lies a number of days after 1970 began. -/
def ofDayNumber
    (number : Int) : CalendarDate :=
  let shifted := number + 719468
  let era := Int.fdiv shifted 146097
  let dayOfEra := shifted - era * 146097
  let yearOfEra :=
    (dayOfEra - dayOfEra / 1460 + dayOfEra / 36524 -
      dayOfEra / 146096) / 365
  let dayOfYear :=
    dayOfEra -
      (365 * yearOfEra + yearOfEra / 4 - yearOfEra / 100)
  let monthFromMarch := (5 * dayOfYear + 2) / 153
  let day := dayOfYear - (153 * monthFromMarch + 2) / 5 + 1
  let month :=
    if monthFromMarch < 10 then
      monthFromMarch + 3
    else
      monthFromMarch - 9
  let year := yearOfEra + era * 400
  ⟨if month ≤ 2 then year + 1 else year,
    month.toNat, day.toNat⟩

end CalendarDate

end NotebookGrading
