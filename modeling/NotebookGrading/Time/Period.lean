import NotebookGrading.Double.Binary
import NotebookGrading.Double.Text
import NotebookGrading.Text.Blank
import NotebookGrading.Text.Digit

/-
  Periods of time in the notation of ISO 8601, such as P1D,
  PT36H and P1W2DT3H.

  A written period is an optional sign, the letter P, date
  components in the order years, months, weeks and days,
  and after a letter T time components in the order hours,
  minutes and seconds. It has at least one component, and
  at least one after a T. A component is a number of
  decimal digits of any script with an optional fraction,
  followed by the letter of its unit. Years count as 365
  days and months as 30.

  Key definitions include:
    * `PeriodUnit`
    * `PeriodComponent`
    * `WrittenPeriod`
    * `WrittenPeriod.ofChars?`
    * `WrittenPeriod.seconds`
    * `PeriodError`
    * `Period.ofText`
    * `Period.nonNegativeOfText`
-/

namespace NotebookGrading

------------------------------------------------------------
-- Units And Components
------------------------------------------------------------

inductive PeriodUnit
  | year
  | month
  | week
  | day
  | hour
  | minute
  | second
deriving DecidableEq, Repr

namespace PeriodUnit

def letter : PeriodUnit → Char
  | .year => 'Y'
  | .month => 'M'
  | .week => 'W'
  | .day => 'D'
  | .hour => 'H'
  | .minute => 'M'
  | .second => 'S'

/- The length of a unit in seconds. -/
def seconds : PeriodUnit → Float
  | .year => 31536000
  | .month => 2592000
  | .week => 604800
  | .day => 86400
  | .hour => 3600
  | .minute => 60
  | .second => 1

/- The units before the letter T. -/
def dateUnits : List PeriodUnit :=
  [.year, .month, .week, .day]

/- The units after the letter T. -/
def timeUnits : List PeriodUnit :=
  [.hour, .minute, .second]

end PeriodUnit

/- A unit and the number that is written before it. -/
structure PeriodComponent where
  unit : PeriodUnit
  number : List Char
deriving DecidableEq, Repr

namespace PeriodComponent

/- A decimal comma as a point. -/
def pointForComma
    (c : Char) : Char :=
  if c = ',' then '.' else c

/-
  The value of the number. Only ASCII digits have one.
-/
def value?
    (component : PeriodComponent) : Option Float :=
  Double.ofChars? (component.number.map pointForComma)

/- The length of a component in seconds. -/
def seconds?
    (component : PeriodComponent) : Option Float :=
  component.value?.map (· * component.unit.seconds)

end PeriodComponent

------------------------------------------------------------
-- Written Periods
------------------------------------------------------------

structure WrittenPeriod where
  negative : Bool
  components : List PeriodComponent
deriving DecidableEq, Repr

namespace WrittenPeriod

/- The leading decimal digits and what follows them. -/
def takeDigits
    (cs : List Char) : List Char × List Char :=
  (cs.takeWhile Text.isDecimalDigit,
    cs.dropWhile Text.isDecimalDigit)

/- A fraction with its mark; there may be none. -/
def takeFraction :
    List Char → List Char × List Char
  | [] => ([], [])
  | mark :: rest =>
      let (digits, after) := takeDigits rest
      if (mark = '.' || mark = ',') && !digits.isEmpty then
        (mark :: digits, after)
      else
        ([], mark :: rest)

/- A number and what follows it. -/
def number?
    (cs : List Char) :
    Option (List Char × List Char) :=
  let (digits, after) := takeDigits cs
  if digits.isEmpty then
    none
  else
    let (fraction, rest) := takeFraction after
    some (digits ++ fraction, rest)

/- A component of a given unit and what follows it. -/
def component?
    (unit : PeriodUnit)
    (cs : List Char) :
    Option (PeriodComponent × List Char) :=
  match number? cs with
  | some (number, c :: rest) =>
      if c = unit.letter then
        some (⟨unit, number⟩, rest)
      else
        none
  | _ => none

/- The components of some units, each at most once. -/
def takeComponents :
    List PeriodUnit → List Char →
      List PeriodComponent × List Char
  | [], cs => ([], cs)
  | unit :: units, cs =>
      match component? unit cs with
      | some (component, after) =>
          let (components, rest) :=
            takeComponents units after
          (component :: components, rest)
      | none => takeComponents units cs

/- The components that make up all of the characters. -/
def components?
    (cs : List Char) : Option (List PeriodComponent) :=
  let (date, afterDate) :=
    takeComponents PeriodUnit.dateUnits cs
  match afterDate with
  | [] => if date.isEmpty then none else some date
  | 'T' :: rest =>
      let (time, afterTime) :=
        takeComponents PeriodUnit.timeUnits rest
      if time.isEmpty || !afterTime.isEmpty then
        none
      else
        some (date ++ time)
  | _ => none

/- The written period that makes up all characters. -/
def ofChars?
    (cs : List Char) : Option WrittenPeriod :=
  match Double.takeSign cs with
  | (negative, 'P' :: rest) =>
      (components? rest).map (fun components =>
        ⟨negative, components⟩)
  | _ => none

/- The sum of the components, without the sign. -/
def magnitude
    (period : WrittenPeriod) : Float :=
  (period.components.filterMap
    PeriodComponent.seconds?).foldl (· + ·) (-0.0)

/- The signed sum of the components in seconds. -/
def seconds
    (period : WrittenPeriod) : Float :=
  if period.negative then
    -period.magnitude
  else
    period.magnitude

/- The period in milliseconds, not yet rounded. -/
def milliseconds
    (period : WrittenPeriod) : Float :=
  period.seconds * 1000

end WrittenPeriod

------------------------------------------------------------
-- Periods In Milliseconds
------------------------------------------------------------

/- Why a text gives no period. -/
inductive PeriodError
  | malformed (input : String)
  | outOfRange (input : String)
  | negative (input : String)
deriving DecidableEq, Repr

def PeriodError.message : PeriodError → String
  | .malformed input =>
      "`" ++ input ++ "` is not an ISO-8601 duration"
  | .outOfRange input =>
      "`" ++ input ++ "` is out of range"
  | .negative input =>
      "`" ++ input ++ "` is negative"

namespace Period

/- The milliseconds of a period lie below this bound. -/
def limit : Nat :=
  9223372036854775808

/-
  The length of time of a 64-bit number of milliseconds. The
  least number has no opposite and stands for none.
-/
def ofMilliseconds?
    (count : Int64) : Option Int :=
  if count < -Int64.maxValue then none else some count.toInt

/-
  The nearest whole number of milliseconds, if it is in
  range; a half is rounded away from zero. A number that did
  not fit 64 bits would become the nearest one that does.
-/
def rounded?
    (milliseconds : Float) : Option Int :=
  if milliseconds.isFinite then
    let n := (Binary.ofFloat milliseconds).roundHalfAway
    if n.natAbs < limit then
      ofMilliseconds? (Int64.ofIntClamp n)
    else
      none
  else
    none

/- The milliseconds of a period, blanks around it aside. -/
def ofText
    (text : String) : Except PeriodError Int :=
  match WrittenPeriod.ofChars?
      (Text.trimChars text.toList) with
  | none => .error (.malformed text)
  | some period =>
      match rounded? period.milliseconds with
      | none => .error (.outOfRange text)
      | some n => .ok n

/- The milliseconds of a period that is not negative. -/
def nonNegativeOfText
    (text : String) : Except PeriodError Int :=
  match ofText text with
  | .error e => .error e
  | .ok n =>
      if n < 0 then .error (.negative text) else .ok n

end Period

end NotebookGrading
