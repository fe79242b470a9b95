import NotebookGrading.Proofs.Gradebook.Recording

/-
  Scores and comments entered by a human.

  What a human has entered for a grade id stays through
  everything else that is recorded: changes with arbitrary
  grades and comments, entries of humans for other ids, and
  recordings of whole notebooks.

  Key definitions include:
    * `NotebookRecord.HasManual`
    * `OpenGradebook.Operation`
    * `OpenGradebook.Operation.LeavesManual`

  Main statements:
    * `NotebookRecord.HasManual.apply`
    * `OpenGradebook.HasManual.operations`
    * `OpenGradebook.manual_entries_stay`
-/

namespace NotebookGrading

------------------------------------------------------------
-- Records With Manual Entries
------------------------------------------------------------

namespace NotebookRecord

/- A human has entered a score and a text for a grade id. -/
structure HasManual
    (gradeId : String)
    (score : Float)
    (text : String)
    (record : NotebookRecord) : Prop where
  score_eq :
    (record.gradeOf gradeId).manualScore = some score
  text_eq :
    (record.commentOf gradeId).manualComment = some text

/- Not an entry of a human for a grade id. -/
def Change.LeavesManual
    (gradeId : String) : Change → Prop
  | .setManualScore id _ => id ≠ gradeId
  | .setManualComment id _ => id ≠ gradeId
  | _ => True

theorem Change.IsAutomatic.leavesManual
    {change : Change}
    (h : change.IsAutomatic)
    (gradeId : String) :
    change.LeavesManual gradeId := by
  cases change with
  | setManualScore id score => exact False.elim h
  | setManualComment id text => exact False.elim h
  | _ => trivial

variable {record : NotebookRecord}
variable {gradeId text : String}
variable {score : Float}

/- Only a grade that is there has a manual score. -/
theorem grade?_of_manualScore
    (h :
      (record.gradeOf gradeId).manualScore = some score) :
    ∃ grade,
      record.grade? gradeId = some grade ∧
        grade.manualScore = some score := by
  cases hGrade : record.grade? gradeId with
  | none => simp [gradeOf, hGrade] at h
  | some grade =>
      refine ⟨grade, rfl, ?_⟩
      simpa [gradeOf, hGrade] using h

theorem comment?_of_manualComment
    (h :
      (record.commentOf gradeId).manualComment =
        some text) :
    ∃ comment,
      record.comment? gradeId = some comment ∧
        comment.manualComment = some text := by
  cases hComment : record.comment? gradeId with
  | none => simp [commentOf, hComment] at h
  | some comment =>
      refine ⟨comment, rfl, ?_⟩
      simpa [commentOf, hComment] using h

------------------------------------------------------------
-- Single Changes
------------------------------------------------------------

/- A recorded grade takes the manual score over. -/
theorem manualScore_addGrade
    (h :
      (record.gradeOf gradeId).manualScore = some score)
    (grade : Grade) :
    ((record.addGrade grade).gradeOf gradeId).manualScore =
      some score := by
  rcases grade?_of_manualScore h with ⟨old, hOld, hScore⟩
  rw [gradeOf, grade?_addGrade, hOld]
  by_cases hId : grade.gradeId = gradeId
  · rw [if_pos hId]
    simp [Grade.update, hScore]
  · rw [if_neg hId]
    exact hScore

theorem manualScore_setManualScore
    (h :
      (record.gradeOf gradeId).manualScore = some score)
    {id : String}
    (hNe : id ≠ gradeId)
    (other : Float) :
    ((record.setManualScore id other).gradeOf
      gradeId).manualScore = some score := by
  rw [gradeOf, grade?_setManualScore, if_neg hNe]
  exact h

/- A recorded comment takes the manual part over. -/
theorem manualComment_addComment
    (h :
      (record.commentOf gradeId).manualComment =
        some text)
    (comment : Comment) :
    ((record.addComment comment).commentOf
      gradeId).manualComment = some text := by
  rcases comment?_of_manualComment h with
    ⟨old, hOld, hText⟩
  rw [commentOf, comment?_addComment, hOld]
  by_cases hId : comment.gradeId = gradeId
  · rw [if_pos hId]
    simp [Comment.update, hText]
  · rw [if_neg hId]
    exact hText

theorem manualComment_setManualComment
    (h :
      (record.commentOf gradeId).manualComment =
        some text)
    {id : String}
    (hNe : id ≠ gradeId)
    (other : String) :
    ((record.setManualComment id other).commentOf
      gradeId).manualComment = some text := by
  rw [commentOf, comment?_setManualComment, if_neg hNe]
  exact h

/- Every change but a manual entry leaves the entries. -/
theorem HasManual.apply
    (h : record.HasManual gradeId score text)
    {change : Change}
    (hChange : change.LeavesManual gradeId) :
    (record.apply change).HasManual gradeId score text := by
  cases change with
  | addGrade grade =>
      exact
        ⟨manualScore_addGrade h.score_eq grade, h.text_eq⟩
  | addComment comment =>
      exact
        ⟨h.score_eq,
          manualComment_addComment h.text_eq comment⟩
  | setManualScore id other =>
      exact
        ⟨manualScore_setManualScore h.score_eq hChange
          other, h.text_eq⟩
  | setManualComment id other =>
      exact
        ⟨h.score_eq,
          manualComment_setManualComment h.text_eq hChange
            other⟩
  | registerGradeCell cell =>
      exact ⟨h.score_eq, h.text_eq⟩
  | registerSolutionCell cell =>
      exact ⟨h.score_eq, h.text_eq⟩
  | registerTaskCell cell =>
      exact ⟨h.score_eq, h.text_eq⟩

/- Both entries of a human are there once made. -/
theorem hasManual_setManual
    (record : NotebookRecord)
    (gradeId : String)
    (score : Float)
    (text : String) :
    ((record.setManualScore gradeId
      score).setManualComment gradeId text).HasManual
        gradeId score text := by
  constructor
  · change
      ((record.setManualScore gradeId score).gradeOf
        gradeId).manualScore = some score
    rw [gradeOf, grade?_setManualScore, if_pos rfl]
    rfl
  · rw [commentOf, comment?_setManualComment, if_pos rfl]
    rfl

end NotebookRecord

------------------------------------------------------------
-- Operations On Open Gradebooks
------------------------------------------------------------

namespace OpenGradebook

/-
  What can be done with an open gradebook: a single change,
  or the recording of the cells of a notebook.
-/
inductive Operation
  | change
      (notebookId : String)
      (change : NotebookRecord.Change)
  | record
      (extractor : ScoreExtractor)
      (notebookId : String)
      (cells : List Cell)

/- Nothing is kept of a recording that fails. -/
def operate
    (opened : OpenGradebook) :
    Operation → OpenGradebook
  | .change notebookId change =>
      opened.change notebookId change
  | .record extractor notebookId cells =>
      match
          Recording.cells extractor notebookId cells opened
        with
      | .error _ => opened
      | .ok recorded => recorded

/- Not an entry of a human for a grade id in a notebook. -/
def Operation.LeavesManual
    (notebookId gradeId : String) :
    Operation → Prop
  | .change id entry =>
      id = notebookId → entry.LeavesManual gradeId
  | .record _ _ _ => True

/- A human has graded a cell of a notebook. -/
def HasManual
    (notebookId gradeId : String)
    (score : Float)
    (text : String)
    (opened : OpenGradebook) : Prop :=
  (opened.book.notebook notebookId).HasManual gradeId
    score text

variable {opened : OpenGradebook}
variable {notebookId gradeId text : String}
variable {score : Float}

theorem HasManual.change
    (h : opened.HasManual notebookId gradeId score text)
    {id : String}
    {change : NotebookRecord.Change}
    (hChange :
      id = notebookId → change.LeavesManual gradeId) :
    (opened.change id change).HasManual notebookId gradeId
      score text := by
  unfold HasManual OpenGradebook.change
  rw [opened.book.notebook_apply]
  by_cases hId : id = notebookId
  · subst hId
    rw [if_pos rfl]
    exact NotebookRecord.HasManual.apply h (hChange rfl)
  · rw [if_neg hId]
    exact h

/- Automatic changes in a row leave the entries. -/
theorem HasManual.changes
    (h : opened.HasManual notebookId gradeId score text)
    {id : String}
    {changes : List NotebookRecord.Change}
    (hChanges :
      ∀ change ∈ changes, change.IsAutomatic) :
    (opened.changes id changes).HasManual notebookId
      gradeId score text := by
  induction changes generalizing opened with
  | nil => exact h
  | cons change rest ih =>
      have hFirst : change.IsAutomatic :=
        hChanges change List.mem_cons_self
      have hRest : ∀ c ∈ rest, c.IsAutomatic := by
        intro c hMem
        exact hChanges c (List.mem_cons_of_mem change hMem)
      refine ih (h.change ?_) hRest
      intro _
      exact hFirst.leavesManual gradeId

/- One operation leaves the entries. -/
theorem HasManual.operate
    (h : opened.HasManual notebookId gradeId score text)
    {operation : Operation}
    (hOperation :
      operation.LeavesManual notebookId gradeId) :
    (opened.operate operation).HasManual notebookId gradeId
      score text := by
  cases operation with
  | change id change => exact h.change hOperation
  | record extractor id cells =>
      cases hCells :
          Recording.cells extractor id cells opened with
      | error e =>
          simp only [OpenGradebook.operate, hCells]
          exact h
      | ok recorded =>
          rcases Recording.cells_automatic hCells with
            ⟨changes, hChanges, hEq⟩
          simp only [OpenGradebook.operate, hCells, hEq]
          exact h.changes hChanges

/- Any number of operations leave the entries. -/
theorem HasManual.operations
    (h : opened.HasManual notebookId gradeId score text)
    {operations : List Operation}
    (hOperations :
      ∀ operation ∈ operations,
        operation.LeavesManual notebookId gradeId) :
    (operations.foldl OpenGradebook.operate opened).HasManual
      notebookId gradeId score text := by
  induction operations generalizing opened with
  | nil => exact h
  | cons operation rest ih =>
      have hFirst :=
        hOperations operation List.mem_cons_self
      refine ih (h.operate hFirst) ?_
      intro other hMem
      exact hOperations other
        (List.mem_cons_of_mem operation hMem)

/-
  What a human has entered is not lost: after both entries
  and any operations that are not entries for the same
  cell, the entries and the score that counts are those of
  the human.
-/
theorem manual_entries_stay
    (opened : OpenGradebook)
    (notebookId gradeId : String)
    (score : Float)
    (text : String)
    (operations : List Operation)
    (hOperations :
      ∀ operation ∈ operations,
        operation.LeavesManual notebookId gradeId) :
    let entered :=
      (opened.change notebookId
        (.setManualScore gradeId score)).change notebookId
          (.setManualComment gradeId text)
    let book :=
      (operations.foldl OpenGradebook.operate entered).book
    (book.findGrade notebookId gradeId).manualScore =
        some score ∧
      (book.findGrade notebookId gradeId).score = score ∧
      (book.findComment notebookId gradeId).manualComment =
        some text := by
  intro entered book
  have hEntered :
      entered.HasManual notebookId gradeId score text := by
    unfold HasManual
    simp only [entered, OpenGradebook.change,
      Gradebook.notebook_apply, if_true]
    exact NotebookRecord.hasManual_setManual _ gradeId
      score text
  have hBook := hEntered.operations hOperations
  rw [book.findGrade_eq, book.findComment_eq]
  refine ⟨hBook.score_eq, ?_, hBook.text_eq⟩
  rw [Grade.score, hBook.score_eq]
  rfl

/-
  A grade without a manual score and a recording do not
  take back what was entered.
-/
theorem manual_entries_stay_regraded :
    let cell : Cell :=
      { cellType := .code,
        metadata :=
          { grading :=
              some
                { gradeId := some "q", grade := some true } } }
    let operations : List Operation :=
      [.change "n" (.addGrade { gradeId := "q" }),
       .record Cell.score "n" [cell],
       .change "n" (.setManualScore "r" 1)]
    let entered :=
      (OpenGradebook.change ⟨"g.json", .empty, false⟩ "n"
        (.setManualScore "q" 2)).change "n"
          (.setManualComment "q" "good")
    (∀ operation ∈ operations,
        operation.LeavesManual "n" "q") ∧
      ((operations.foldl OpenGradebook.operate
        entered).book.findGrade "n" "q").score = 2 := by
  intro cell operations entered
  have hLeaves :
      ∀ operation ∈ operations,
        operation.LeavesManual "n" "q" := by
    simp [operations, Operation.LeavesManual,
      NotebookRecord.Change.LeavesManual]
  refine ⟨hLeaves, ?_⟩
  exact
    (manual_entries_stay ⟨"g.json", .empty, false⟩ "n" "q" 2
      "good" operations hLeaves).2.1

end OpenGradebook

end NotebookGrading
