import NotebookGrading.Double.Text
import NotebookGrading.Text.Blank
import NotebookGrading.Time.Instant

/-
  Timestamps: the written form of instants.

  A timestamp is a date, a time of day and an offset from
  universal time. Reading allows blanks around the parts, a
  blank or either case of the letter T between date and
  time, up to nine counted digits of a second, and the
  offset as a letter Z, as the word UTC or as signed hours
  and minutes. Writing always uses universal time, and as
  few of 0, 3, 6 or 9 fraction digits as are exact.

  Key definitions include:
    * `Timestamp.Reading`
    * `Instant.ofText?`
    * `Instant.toText`
-/

namespace NotebookGrading

namespace Timestamp

------------------------------------------------------------
-- Parts
------------------------------------------------------------

def skipBlanks
    (cs : List Char) : List Char :=
  cs.dropWhile Text.isBlank

/-
  A number of at least one and at most the given count of
  digits, and what follows it.
-/
def number?
    (count : Nat)
    (cs : List Char) :
    Option (Nat × List Char) :=
  let digits := (cs.take count).takeWhile Text.isAsciiDigit
  if digits.isEmpty then
    none
  else
    some
      (Text.digitsValue digits, cs.drop digits.length)

/- A number after blanks. -/
def field?
    (count : Nat)
    (cs : List Char) :
    Option (Nat × List Char) :=
  number? count (skipBlanks cs)

/-
  A year: four digits at most, or any number of them after
  a sign.
-/
def year?
    (cs : List Char) : Option (Int × List Char) :=
  match skipBlanks cs with
  | '-' :: rest =>
      (number? rest.length rest).map (fun result =>
        (-(result.1 : Int), result.2))
  | '+' :: rest =>
      (number? rest.length rest).map (fun result =>
        ((result.1 : Int), result.2))
  | rest =>
      (number? 4 rest).map (fun result =>
        ((result.1 : Int), result.2))

/- A separating mark after blanks. -/
def mark?
    (mark : Char)
    (cs : List Char) : Option (List Char) :=
  match skipBlanks cs with
  | c :: rest => if c = mark then some rest else none
  | [] => none

/-
  The nanoseconds of a fraction; digits beyond the ninth
  are skipped.
-/
def fraction? :
    List Char → Option (Nat × List Char)
  | '.' :: rest => do
      let counted :=
        (rest.take 9).takeWhile Text.isAsciiDigit
      if counted.isEmpty then none
      else
        some
          (Text.digitsValue counted *
              Nat.pow 10 (9 - counted.length),
            rest.dropWhile Text.isAsciiDigit)
  | cs => some (0, cs)

------------------------------------------------------------
-- Offsets
------------------------------------------------------------

/- Two digits and what follows them. -/
def twoDigits? :
    List Char → Option (Nat × List Char)
  | a :: b :: rest => do
      let a ← Text.digitValue? a
      let b ← Text.digitValue? b
      some (10 * a + b, rest)
  | _ => none

/- Whether the minutes of an offset are negative. -/
def offsetSign? :
    List Char → Option (Bool × List Char)
  | '+' :: rest => some (false, rest)
  | '-' :: rest => some (true, rest)
  | '\u2212' :: rest => some (true, rest)
  | _ => none

/- The seconds of an offset in hours and minutes. -/
def hoursAndMinutes?
    (cs : List Char) : Option (Int × List Char) := do
  let (negative, cs) ← offsetSign? cs
  let (hours, cs) ← twoDigits? cs
  let cs :=
    cs.dropWhile (fun c => c = ':' || Text.isBlank c)
  let (minutes, cs) ← twoDigits? cs
  if minutes < 60 then
    let seconds : Int := hours * 3600 + minutes * 60
    some (if negative then -seconds else seconds, cs)
  else
    none

/- The seconds of an offset from universal time. -/
def offset? :
    List Char → Option (Int × List Char)
  | a :: b :: c :: rest =>
      if [a, b, c].map Char.toLower = ['u', 't', 'c'] then
        some (0, rest)
      else if a = 'Z' || a = 'z' then
        some (0, b :: c :: rest)
      else
        hoursAndMinutes? (a :: b :: c :: rest)
  | a :: rest =>
      if a = 'Z' || a = 'z' then some (0, rest) else none
  | [] => none

------------------------------------------------------------
-- Reading
------------------------------------------------------------

/- The numbers of a timestamp. -/
structure Reading where
  date : CalendarDate
  hour : Nat
  minute : Nat
  second : Nat
  nano : Nat
  offset : Int
deriving DecidableEq, Repr

/- The character between the date and the time of day. -/
def divider? : List Char → Option (List Char)
  | c :: rest =>
      if c = 't' || c = 'T' || c = ' ' then
        some rest
      else
        none
  | [] => none

/- The numbers that make up all of the characters. -/
def reading?
    (cs : List Char) : Option Reading := do
  let (year, cs) ← year? cs
  let cs ← mark? '-' cs
  let (month, cs) ← field? 2 cs
  let cs ← mark? '-' cs
  let (day, cs) ← field? 2 cs
  let cs ← divider? cs
  let (hour, cs) ← field? 2 cs
  let cs ← mark? ':' cs
  let (minute, cs) ← field? 2 cs
  let cs ← mark? ':' cs
  let (second, cs) ← field? 2 cs
  let (nano, cs) ← fraction? cs
  let (offset, cs) ← offset? (skipBlanks cs)
  if (skipBlanks cs).isEmpty then
    some ⟨⟨year, month, day⟩, hour, minute, second, nano,
      offset⟩
  else
    none

/-
  The numbers lie in their ranges; a second numbered sixty
  is a leap second.
-/
def Reading.isValid
    (r : Reading) : Bool :=
  r.date.isValid && r.hour < 24 && r.minute < 60 &&
    r.second ≤ 60 && r.offset.natAbs < 86400

/- What the clock shows, as if its offset were zero. -/
def Reading.shown
    (r : Reading) : Instant :=
  let minutes := (r.hour * 60 + r.minute) * 60
  if r.second = 60 then
    ⟨r.date.dayNumber, minutes + 59,
      Instant.nanosPerSecond + r.nano⟩
  else
    ⟨r.date.dayNumber, minutes + r.second, r.nano⟩

/- Whether a day lies within the calendar. -/
def isCalendarDay
    (day : Int) : Bool :=
  CalendarDate.dayNumber
      ⟨CalendarDate.firstYear, 1, 1⟩ ≤ day &&
    day ≤ CalendarDate.dayNumber
      ⟨CalendarDate.lastYear, 12, 31⟩

/- The instant of valid numbers. -/
def Reading.instant?
    (r : Reading) : Option Instant :=
  if r.isValid then
    let instant := r.shown.shift (-r.offset)
    if isCalendarDay instant.day then
      some instant
    else
      none
  else
    none

end Timestamp

/- The instant of a timestamp. -/
def Instant.ofText?
    (text : String) : Option Instant :=
  (Timestamp.reading? text.toList).bind
    Timestamp.Reading.instant?

------------------------------------------------------------
-- Writing
------------------------------------------------------------

namespace Timestamp

/- A number with zeros in front up to a width. -/
def paddedNumber
    (width n : Nat) : String :=
  let digits := Nat.toDigits 10 n
  String.ofList
    (List.replicate (width - digits.length) '0' ++ digits)

/-
  A year of four digits; outside of their range it has a
  sign.
-/
def yearText
    (year : Int) : String :=
  if 0 ≤ year && year ≤ 9999 then
    paddedNumber 4 year.natAbs
  else
    (if year < 0 then "-" else "+") ++
      paddedNumber 4 year.natAbs

/- The exact fraction of a second, by thousandths. -/
def fractionText
    (nano : Nat) : String :=
  if nano = 0 then ""
  else if nano % 1000000 = 0 then
    "." ++ paddedNumber 3 (nano / 1000000)
  else if nano % 1000 = 0 then
    "." ++ paddedNumber 6 (nano / 1000)
  else
    "." ++ paddedNumber 9 nano

end Timestamp

/- The timestamp of an instant in universal time. -/
def Instant.toText
    (instant : Instant) : String :=
  let date := CalendarDate.ofDayNumber instant.day
  let leap := instant.isLeapSecond
  let second :=
    instant.second % 60 + (if leap then 1 else 0)
  let nano :=
    if leap then
      instant.nano - nanosPerSecond
    else
      instant.nano
  Timestamp.yearText date.year ++ "-" ++
    Timestamp.paddedNumber 2 date.month ++ "-" ++
    Timestamp.paddedNumber 2 date.day ++ "T" ++
    Timestamp.paddedNumber 2 (instant.second / 3600) ++
    ":" ++
    Timestamp.paddedNumber 2 (instant.second / 60 % 60) ++
    ":" ++ Timestamp.paddedNumber 2 second ++
    Timestamp.fractionText nano ++ "Z"

end NotebookGrading
