import NotebookGrading.Policy.Settings

/-
  Stored submissions and the effect of a late policy on
  their scores.

  Key definitions include:
    * `Submission`
    * `Submission.rescale`
    * `Submission.recalculate`
-/

namespace NotebookGrading

/-
  A submission with its score before scaling, the fraction
  that is kept, and the score that results.
-/
structure Submission where
  date : Instant
  gradingScore : Float
  scaling : Float
  score : Float
deriving DecidableEq

namespace Submission

/- A submission that keeps all of its score. -/
def unscaled
    (date : Instant)
    (gradingScore : Float) : Submission :=
  ⟨date, gradingScore, 1, gradingScore⟩

/-
  Scale a submission anew. When the fraction stays the
  same, the submission stays as it is. The result also says
  whether it changed.
-/
def rescale
    (submission : Submission)
    (settings : Settings)
    (role : Role) :
    Except SettingsError (Submission × Bool) :=
  match settings.scaling submission.date role with
  | .error e => .error e
  | .ok scaling =>
      if scaling == submission.scaling then
        .ok (submission, false)
      else
        .ok
          ({ submission with
              scaling := scaling
              score := scaling * submission.gradingScore },
            true)

/-
  Scale submissions one after the other up to the first
  that fails, and count those that changed.
-/
def rescaleAll
    (settings : Settings)
    (role : Role) :
    List Submission →
      List Submission × Except SettingsError Nat
  | [] => ([], .ok 0)
  | submission :: rest =>
      match submission.rescale settings role with
      | .error e => (submission :: rest, .error e)
      | .ok (scaled, changed) =>
          let (others, count) :=
            rescaleAll settings role rest
          (scaled :: others,
            count.map (· + (if changed then 1 else 0)))

/-
  Scale all submissions after a change of the settings. An
  invalid policy changes nothing.
-/
def recalculate
    (settings : Settings)
    (role : Role)
    (submissions : List Submission) :
    List Submission × Except SettingsError Nat :=
  match LatePolicy.validate settings.policy with
  | .error e => (submissions, .error e)
  | .ok () => rescaleAll settings role submissions

end Submission

end NotebookGrading
