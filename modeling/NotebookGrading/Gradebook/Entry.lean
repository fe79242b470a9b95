import NotebookGrading.Notebook.Basic

/-
  Grades, comments and registered cells.

  A grade and a comment each have an automatic part and a
  part entered by a human. The human part is never changed
  by automatic grading.

  Key definitions include:
    * `Grade`
    * `Comment`
    * `GradeCell`
    * `SolutionCell`
    * `TaskCell`
    * `upsert`
    * `Grade.update`
    * `Comment.update`
-/

namespace NotebookGrading

------------------------------------------------------------
-- Grades And Comments
------------------------------------------------------------

/- The score of one gradable cell. -/
structure Grade where
  gradeId : String
  autoScore : Option Float := none
  manualScore : Option Float := none
  needsManualGrade : Bool := false
deriving DecidableEq

namespace Grade

/- The score that counts: the manual one, if there is one. -/
def score
    (grade : Grade) : Float :=
  (grade.manualScore.or grade.autoScore).getD 0

/- A new grade that keeps the manual score of the old. -/
def update
    (old new : Grade) : Grade :=
  { new with
    manualScore := old.manualScore.or new.manualScore }

/- Enter a manual score. -/
def withManualScore
    (grade : Grade)
    (score : Float) : Grade :=
  { grade with manualScore := some score }

end Grade

/- The feedback on one gradable cell. -/
structure Comment where
  gradeId : String
  autoComment : Option String := none
  manualComment : Option String := none
deriving DecidableEq

namespace Comment

/- A new comment that keeps the manual part of the old. -/
def update
    (old new : Comment) : Comment :=
  { new with
    manualComment :=
      old.manualComment.or new.manualComment }

/- Enter a manual comment. -/
def withManualComment
    (comment : Comment)
    (text : String) : Comment :=
  { comment with manualComment := some text }

end Comment

------------------------------------------------------------
-- Registered Cells
------------------------------------------------------------

/- A cell whose output is scored. -/
structure GradeCell where
  name : String
  maxScore : Float
  cellType : CellType
deriving DecidableEq

/- A cell that the student writes. -/
structure SolutionCell where
  name : String
  cellType : CellType
deriving DecidableEq

/- A task that is graded by hand. -/
structure TaskCell where
  name : String
  maxScore : Float
  cellType : CellType
deriving DecidableEq

------------------------------------------------------------
-- Updating Lists
------------------------------------------------------------

/-
  Change the first value with a given key, or append a new
  value if there is none.
-/
def upsert
    {α : Type}
    (key : α → String)
    (id : String)
    (change : α → α)
    (new : α) :
    List α → List α
  | [] => [new]
  | value :: rest =>
      if key value = id then
        change value :: rest
      else
        value :: upsert key id change new rest

end NotebookGrading
