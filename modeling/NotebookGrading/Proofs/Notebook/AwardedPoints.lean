import NotebookGrading.Notebook.Scoring
import NotebookGrading.Proofs.Double.Order
import NotebookGrading.Proofs.Gradebook.FiniteDoubles

/-
  The points that outputs award.

  A cell is worth a finite number of points, which is not
  negative. Whatever its outputs are, they award at least
  nothing and at most all of them: a number that a result
  holds is brought between both, and everything else awards
  one or the other.

  Key definitions include:
    * `Output.IsBetween`

  Main statements:
    * `Cell.zero_le_points`
    * `Output.isBetween_clamp`
    * `Output.isBetween_verdict`
    * `Cell.isBetween_autoScore`
-/

namespace NotebookGrading

open Double (IsNumber)

theorem Double.isNumber_zero :
    IsNumber 0 :=
  Double.isNumber_of_isFinite (by decide +kernel)

/- The points a cell is worth are not negative. -/
theorem Cell.zero_le_points
    (cell : Cell) :
    0 ≤ cell.points := by
  unfold points
  split
  · exact Double.isNumber_zero.le_refl
  · split
    · rename_i hPoints
      have hPositive := (Bool.and_eq_true_iff.1 hPoints).2
      exact Double.le_of_lt (of_decide_eq_true hPositive)
    · exact Double.isNumber_zero.le_refl

------------------------------------------------------------
-- Points Of Outputs
------------------------------------------------------------

namespace Output

/- At least nothing and at most a maximum. -/
structure IsBetween
    (max score : Float) : Prop where
  zero_le : 0 ≤ score
  le_max : score ≤ max

variable {max : Float}

theorem isBetween_zero
    (hMax : 0 ≤ max) :
    IsBetween max 0 :=
  ⟨Double.isNumber_zero.le_refl, hMax⟩

theorem isBetween_max
    (hFinite : max.isFinite = true)
    (hMax : 0 ≤ max) :
    IsBetween max max :=
  ⟨hMax, (Double.isNumber_of_isFinite hFinite).le_refl⟩

/- Any value is brought between nothing and the maximum. -/
theorem isBetween_clamp
    (hFinite : max.isFinite = true)
    (hMax : 0 ≤ max)
    (value : Float) :
    IsBetween max (clamp max value) := by
  unfold clamp
  split
  · exact isBetween_zero hMax
  · rename_i hValue
    have hNumber : IsNumber value :=
      Double.isNumber_of_isFinite (by simpa using hValue)
    split
    · exact isBetween_max hFinite hMax
    · rename_i hNotAbove
      split
      · exact isBetween_zero hMax
      · rename_i hNotBelow
        constructor
        · exact
            Double.isNumber_zero.le_of_not_lt hNumber
              hNotBelow
        · exact
            hNumber.le_of_not_lt
              (Double.isNumber_of_isFinite hFinite)
              hNotAbove

/- So are the points that a deciding output awards. -/
theorem isBetween_verdict
    (hFinite : max.isFinite = true)
    (hMax : 0 ≤ max)
    (output : Output) :
    IsBetween max (output.verdict max) := by
  unfold verdict partialCredit
  split
  · split
    · exact isBetween_max hFinite hMax
    · exact isBetween_clamp hFinite hMax _
  · exact isBetween_zero hMax

end Output

------------------------------------------------------------
-- Automatic Scores
------------------------------------------------------------

namespace Cell

open Output (IsBetween)

theorem isBetween_scoreOfOutputs
    (cell : Cell)
    (outputs : List Output) :
    IsBetween cell.points
      (scoreOfOutputs cell.points outputs) := by
  unfold scoreOfOutputs
  split
  · exact
      Output.isBetween_max cell.isFinite_points
        cell.zero_le_points
  · exact
      Output.isBetween_verdict cell.isFinite_points
        cell.zero_le_points _

/- An automatic score is within the points of its cell. -/
theorem isBetween_autoScore
    {cell : Cell}
    {score : Float}
    (h : cell.autoScore = some score) :
    IsBetween cell.points score := by
  unfold autoScore at h
  split at h
  · split at h
    · rw [← Option.some.inj h]
      exact Output.isBetween_zero cell.zero_le_points
    · cases h
  · split at h
    · cases h
    · rw [← Option.some.inj h]
      exact cell.isBetween_scoreOfOutputs cell.outputList

end Cell

end NotebookGrading
