import NotebookGrading.Double.Style
import NotebookGrading.Time.Instant
import NotebookGrading.Time.Period

/-
  Late submission policies.

  A policy is a list of steps, each a period after the
  deadline and the fraction of the score that is kept once
  that period is over. In a valid policy the periods grow
  strictly from above zero, and the fractions shrink
  strictly between one and zero.

  Key definitions include:
    * `Role`
    * `LateStep`
    * `SettingsError`
    * `LatePolicy.validate`
    * `LatePolicy.scaling`
-/

namespace NotebookGrading

------------------------------------------------------------
-- Roles And Steps
------------------------------------------------------------

/- The part a person takes in a course. -/
inductive Role
  | student
  | tutor
  | instructor
deriving DecidableEq, Repr

namespace Role

/- Staff is never late. -/
def isStaff : Role → Bool
  | .student => false
  | .tutor => true
  | .instructor => true

def ofName? : String → Option Role
  | "student" => some .student
  | "tutor" => some .tutor
  | "instructor" => some .instructor
  | _ => none

end Role

/-
  Submissions later than a period keep a fraction of their
  score.
-/
structure LateStep where
  period : String
  scaling : Float
deriving DecidableEq

abbrev LatePolicy :=
  List LateStep

------------------------------------------------------------
-- Rejected Settings
------------------------------------------------------------

inductive SettingsError
  | invalidPeriod (period : String) (cause : PeriodError)
  | periodsNotIncreasing (period previous : String)
  | scalingOutOfRange (scaling : Float)
  | scalingNotDecreasing (scaling previous : Float)
  | maxSubmissions (value : Int)
  | missingSettings
deriving DecidableEq

def SettingsError.message : SettingsError → String
  | .invalidPeriod period _ =>
      "Invalid late submission period `" ++ period ++ "`"
  | .periodsNotIncreasing period previous =>
      "Period lengths are not increasing: `" ++ period ++
        "` does not follow `" ++ previous ++ "`"
  | .scalingOutOfRange scaling =>
      "Score scaling has to be between 0.0 and 1.0 " ++
        "exclusive, got " ++ Double.plain scaling
  | .scalingNotDecreasing scaling previous =>
      "Score scaling is not decreasing: " ++
        Double.plain scaling ++ " does not follow " ++
        Double.plain previous
  | .maxSubmissions value =>
      "Max submissions must be at least 1, got " ++
        toString value
  | .missingSettings => "Assignment settings are missing"

------------------------------------------------------------
-- Validation
------------------------------------------------------------

namespace LateStep

/- The period of a step in milliseconds. -/
def milliseconds
    (step : LateStep) : Except SettingsError Int :=
  match Period.nonNegativeOfText step.period with
  | .ok n => .ok n
  | .error cause => .error (.invalidPeriod step.period cause)

/- A fraction strictly between zero and one. -/
def isFraction
    (x : Float) : Bool :=
  0 < x && x < 1

end LateStep

namespace LatePolicy

/- What the step before a step imposes on it. -/
structure Bound where
  period : Int
  label : String
  scaling : Float

/- The bound in front of the first step. -/
def Bound.first : Bound :=
  ⟨0, "P0D", 1⟩

/- Check one step and return the bound for the next. -/
def Bound.check
    (bound : Bound)
    (step : LateStep) : Except SettingsError Bound :=
  match step.milliseconds with
  | .error e => .error e
  | .ok period =>
      if period ≤ bound.period then
        .error
          (.periodsNotIncreasing step.period bound.label)
      else if !LateStep.isFraction step.scaling then
        .error (.scalingOutOfRange step.scaling)
      else if bound.scaling ≤ step.scaling then
        .error
          (.scalingNotDecreasing step.scaling bound.scaling)
      else
        .ok ⟨period, step.period, step.scaling⟩

/- Check the steps that follow a bound. -/
def validateFrom
    (bound : Bound) :
    LatePolicy → Except SettingsError Unit
  | [] => .ok ()
  | step :: rest =>
      match bound.check step with
      | .error e => .error e
      | .ok next => validateFrom next rest

/- Check that the steps of a policy are in order. -/
def validate
    (policy : LatePolicy) : Except SettingsError Unit :=
  validateFrom Bound.first policy

------------------------------------------------------------
-- Scaling
------------------------------------------------------------

def nanosPerMillisecond : Int :=
  1000000

/-
  The fraction of the last step whose period is over, or
  the given one. The steps after the first period that is
  not over are not looked at.
-/
def scalingFrom
    (elapsed : Int)
    (current : Float) :
    LatePolicy → Except SettingsError Float
  | [] => .ok current
  | step :: rest =>
      match step.milliseconds with
      | .error e => .error e
      | .ok period =>
          if period * nanosPerMillisecond ≤ elapsed then
            scalingFrom elapsed step.scaling rest
          else
            .ok current

/-
  The fraction of the score that a submission keeps. Staff
  and submissions in time keep all of it.
-/
def scaling
    (policy : LatePolicy)
    (due submitted : Instant)
    (role : Role) : Except SettingsError Float :=
  if role.isStaff || policy.isEmpty then
    .ok 1
  else
    let elapsed := submitted.elapsedSince due
    if elapsed ≤ 0 then
      .ok 1
    else
      scalingFrom elapsed 1 policy

end LatePolicy

end NotebookGrading
