import Mathlib.Data.List.Induction
import NotebookGrading.Proofs.Gradebook.Entries
import NotebookGrading.Proofs.Tables

/-
  What every history of changes keeps in order.

  In a gradebook that grew from an empty one, entries stand
  in the order in which their ids were first recorded, no
  id is given twice, everything is stored under its own
  name, and the maximum of a notebook is that of its
  registered cells.

  Key definitions include:
    * `NotebookRecord.Change.gradeId`
    * `NotebookRecord.firstSeen`
    * `NotebookRecord.IsOrderly`
    * `Gradebook.recordAll`
    * `Gradebook.LeavesOthers`

  Main statements:
    * `NotebookRecord.IsOrderly.apply`
    * `Gradebook.leavesOthers`
    * `Gradebook.orderly_history`
-/

namespace NotebookGrading

------------------------------------------------------------
-- Ids Of Changes
------------------------------------------------------------

namespace NotebookRecord

/- The id that a change is about. -/
def Change.gradeId : Change → String
  | .addGrade grade => grade.gradeId
  | .addComment comment => comment.gradeId
  | .setManualScore gradeId _ => gradeId
  | .setManualComment gradeId _ => gradeId
  | .registerGradeCell cell => cell.name
  | .registerSolutionCell cell => cell.name
  | .registerTaskCell cell => cell.name

/- The id of the grade that a change records. -/
def Change.recordedGrade? : Change → Option String
  | .addGrade grade => some grade.gradeId
  | .setManualScore gradeId _ => some gradeId
  | _ => none

/- The id of the comment that a change records. -/
def Change.recordedComment? : Change → Option String
  | .addComment comment => some comment.gradeId
  | .setManualComment gradeId _ => some gradeId
  | _ => none

/- Ids in the order in which they first occur. -/
def firstSeen
    (ids : List String) : List String :=
  ids.eraseDups

/- A repeated id changes nothing, a new one goes last. -/
theorem firstSeen_concat
    (ids : List String)
    (id : String) :
    firstSeen (ids ++ [id]) =
      if id ∈ firstSeen ids then
        firstSeen ids
      else
        firstSeen ids ++ [id] := by
  simp only [firstSeen, List.eraseDups_append,
    List.mem_eraseDups]
  by_cases hMem : id ∈ ids <;>
    simp [List.removeAll, List.eraseDups_cons, hMem]

/-
  Entries that stand in the order in which their ids were
  first recorded, one for each id.
-/
structure InFirstSeenOrder
    {α : Type}
    (key : α → String)
    (ids : List String)
    (values : List α) : Prop where
  map_eq : values.map key = firstSeen ids
  nodup : (values.map key).Nodup

/- Recording one more id keeps the order. -/
theorem InFirstSeenOrder.upsert
    {α : Type}
    {key : α → String}
    {ids : List String}
    {values : List α}
    (h : InFirstSeenOrder key ids values)
    {id : String}
    {change : α → α}
    {new : α}
    (hKey : ∀ value, key value = id → key (change value) = id)
    (hNew : key new = id) :
    InFirstSeenOrder key (ids ++ [id])
      (upsert key id change new values) where
  map_eq := by
    rw [map_upsert key id change new hKey hNew, h.map_eq,
      firstSeen_concat]
  nodup := nodup_upsert key id change new hKey hNew h.nodup

------------------------------------------------------------
-- Cells Under Their Names
------------------------------------------------------------

/- Every value of a table is stored under its name. -/
def StoredByName
    {α : Type}
    (name : α → String)
    (table : Table α) : Prop :=
  ∀ key value, table.find? key = some value → name value = key

theorem storedByName_empty
    {α : Type}
    (name : α → String) :
    StoredByName name Table.empty := by
  intro key value hFind
  rw [Table.find?_empty] at hFind
  cases hFind

theorem StoredByName.insert
    {α : Type}
    {name : α → String}
    {table : Table α}
    (h : StoredByName name table)
    (value : α) :
    StoredByName name (table.insert (name value) value) := by
  intro key stored hFind
  by_cases hKey : name value = key
  · rw [hKey, Table.find?_insert_self] at hFind
    rw [← Option.some.inj hFind]
    exact hKey
  · rw [Table.find?_insert_ne _ hKey] at hFind
    exact h key stored hFind

------------------------------------------------------------
-- Orderly Records
------------------------------------------------------------

/- A record of a notebook as some changes have to leave it. -/
structure IsOrderly
    (notebookId : String)
    (changes : List Change)
    (record : NotebookRecord) : Prop where
  notebookId_eq : record.notebookId = notebookId
  grades :
    InFirstSeenOrder Grade.gradeId
      (changes.filterMap Change.recordedGrade?)
      record.grades
  comments :
    InFirstSeenOrder Comment.gradeId
      (changes.filterMap Change.recordedComment?)
      record.comments
  gradeCells : StoredByName GradeCell.name record.gradeCells
  solutionCells :
    StoredByName SolutionCell.name record.solutionCells
  taskCells : StoredByName TaskCell.name record.taskCells
  maxScore_eq :
    record.maxScore = record.registeredPoints ∨
      (record.maxScore == 0) = true ∧
        (record.registeredPoints == 0) = true

theorem isOrderly_new
    (notebookId : String) :
    IsOrderly notebookId []
      { notebookId := notebookId } where
  notebookId_eq := rfl
  grades := ⟨rfl, List.nodup_nil⟩
  comments := ⟨rfl, List.nodup_nil⟩
  gradeCells := storedByName_empty GradeCell.name
  solutionCells := storedByName_empty SolutionCell.name
  taskCells := storedByName_empty TaskCell.name
  maxScore_eq := by
    right
    change
      ((0 : Float) == 0) = true ∧
        ((sumScores [] + sumScores []) == 0) = true
    decide +kernel

section Apply

variable {notebookId : String}
variable {changes : List Change}
variable {record : NotebookRecord}
variable (change : Change)

theorem notebookId_apply :
    (record.apply change).notebookId =
      record.notebookId := by
  cases change <;> rfl

theorem grades_apply
    (h :
      InFirstSeenOrder Grade.gradeId
        (changes.filterMap Change.recordedGrade?)
        record.grades) :
    InFirstSeenOrder Grade.gradeId
      ((changes ++ [change]).filterMap Change.recordedGrade?)
      (record.apply change).grades := by
  rw [List.filterMap_append]
  cases change with
  | addGrade grade =>
      exact h.upsert (fun _ _ => rfl) rfl
  | setManualScore gradeId score =>
      exact h.upsert (fun _ hId => hId) rfl
  | _ =>
      rw [← List.append_nil (List.filterMap _ changes)] at h
      exact h

theorem comments_apply
    (h :
      InFirstSeenOrder Comment.gradeId
        (changes.filterMap Change.recordedComment?)
        record.comments) :
    InFirstSeenOrder Comment.gradeId
      ((changes ++ [change]).filterMap
        Change.recordedComment?)
      (record.apply change).comments := by
  rw [List.filterMap_append]
  cases change with
  | addComment comment =>
      exact h.upsert (fun _ _ => rfl) rfl
  | setManualComment gradeId text =>
      exact h.upsert (fun _ hId => hId) rfl
  | _ =>
      rw [← List.append_nil (List.filterMap _ changes)] at h
      exact h

theorem gradeCells_apply
    (h : StoredByName GradeCell.name record.gradeCells) :
    StoredByName GradeCell.name
      (record.apply change).gradeCells := by
  cases change with
  | registerGradeCell cell => exact h.insert cell
  | _ => exact h

theorem solutionCells_apply
    (h :
      StoredByName SolutionCell.name record.solutionCells) :
    StoredByName SolutionCell.name
      (record.apply change).solutionCells := by
  cases change with
  | registerSolutionCell cell => exact h.insert cell
  | _ => exact h

theorem taskCells_apply
    (h : StoredByName TaskCell.name record.taskCells) :
    StoredByName TaskCell.name
      (record.apply change).taskCells := by
  cases change with
  | registerTaskCell cell => exact h.insert cell
  | _ => exact h

/- Registering refreshes the maximum, all else leaves it. -/
theorem maxScore_apply
    (h :
      record.maxScore = record.registeredPoints ∨
        (record.maxScore == 0) = true ∧
          (record.registeredPoints == 0) = true) :
    (record.apply change).maxScore =
        (record.apply change).registeredPoints ∨
      ((record.apply change).maxScore == 0) = true ∧
        ((record.apply change).registeredPoints == 0) =
          true := by
  cases change with
  | registerGradeCell cell => exact .inl rfl
  | registerTaskCell cell => exact .inl rfl
  | _ => exact h

/- Every change leaves an orderly record. -/
theorem IsOrderly.apply
    (h : record.IsOrderly notebookId changes) :
    (record.apply change).IsOrderly notebookId
      (changes ++ [change]) where
  notebookId_eq :=
    (notebookId_apply change).trans h.notebookId_eq
  grades := grades_apply change h.grades
  comments := comments_apply change h.comments
  gradeCells := gradeCells_apply change h.gradeCells
  solutionCells := solutionCells_apply change h.solutionCells
  taskCells := taskCells_apply change h.taskCells
  maxScore_eq := maxScore_apply change h.maxScore_eq

end Apply

end NotebookRecord

------------------------------------------------------------
-- Histories Of Gradebooks
------------------------------------------------------------

namespace Gradebook

/- Changes in turn, each about a notebook. -/
abbrev History :=
  List (String × NotebookRecord.Change)

/- The gradebook after a history of changes. -/
def recordAll
    (book : Gradebook)
    (history : History) : Gradebook :=
  history.foldl
    (fun book entry => book.apply entry.1 entry.2) book

/- The changes of a history that are about a notebook. -/
def History.about
    (history : History)
    (notebookId : String) : List NotebookRecord.Change :=
  (history.filter (fun entry => entry.1 = notebookId)).map
    Prod.snd

/- Every notebook of a history has an orderly record. -/
theorem isOrderly_notebook
    (history : History)
    (notebookId : String) :
    ((Gradebook.empty.recordAll history).notebook
      notebookId).IsOrderly notebookId
        (history.about notebookId) := by
  induction history using List.reverseRecOn with
  | nil => exact NotebookRecord.isOrderly_new notebookId
  | append_singleton earlier last ih =>
      rcases last with ⟨id, change⟩
      have hRecord :
          Gradebook.empty.recordAll (earlier ++ [(id, change)]) =
            (Gradebook.empty.recordAll earlier).apply id
              change := by
        simp [recordAll]
      rw [hRecord, notebook_apply]
      by_cases hId : id = notebookId
      · subst hId
        have hAbout :
            History.about (earlier ++ [(id, change)]) id =
              History.about earlier id ++ [change] := by
          simp [History.about]
        rw [if_pos rfl, hAbout]
        exact ih.apply change
      · have hAbout :
            History.about (earlier ++ [(id, change)])
                notebookId =
              History.about earlier notebookId := by
          simp [History.about, hId]
        rw [if_neg hId, hAbout]
        exact ih

------------------------------------------------------------
-- What A Change Leaves Alone
------------------------------------------------------------

/-
  A change leaves the other notebooks as they are, and in
  its own notebook the grades and comments of other ids.
-/
structure LeavesOthers
    (book : Gradebook)
    (notebookId : String)
    (change : NotebookRecord.Change) : Prop where
  notebooks :
    ∀ other, notebookId ≠ other →
      (book.apply notebookId change).notebook? other =
        book.notebook? other
  grades :
    ((book.apply notebookId change).notebook
        notebookId).grades.filter
        (fun grade => grade.gradeId ≠ change.gradeId) =
      (book.notebook notebookId).grades.filter
        (fun grade => grade.gradeId ≠ change.gradeId)
  comments :
    ((book.apply notebookId change).notebook
        notebookId).comments.filter
        (fun comment => comment.gradeId ≠ change.gradeId) =
      (book.notebook notebookId).comments.filter
        (fun comment => comment.gradeId ≠ change.gradeId)

end Gradebook

namespace NotebookRecord

/- Grades are kept but for those of the id of a change. -/
theorem filter_grades_apply
    (record : NotebookRecord)
    (change : Change)
    (keep : String → Bool)
    (hKeep : keep change.gradeId = false) :
    (record.apply change).grades.filter
        (fun grade => keep grade.gradeId) =
      record.grades.filter
        (fun grade => keep grade.gradeId) := by
  cases change with
  | addGrade grade =>
      exact
        filter_upsert Grade.gradeId grade.gradeId
          (fun old => old.update grade) grade
          (fun _ _ => rfl) rfl hKeep record.grades
  | setManualScore gradeId score =>
      exact
        filter_upsert Grade.gradeId gradeId
          (fun old => old.withManualScore score)
          (Grade.withManualScore { gradeId := gradeId } score)
          (fun _ hId => hId) rfl hKeep record.grades
  | _ => rfl

theorem filter_comments_apply
    (record : NotebookRecord)
    (change : Change)
    (keep : String → Bool)
    (hKeep : keep change.gradeId = false) :
    (record.apply change).comments.filter
        (fun comment => keep comment.gradeId) =
      record.comments.filter
        (fun comment => keep comment.gradeId) := by
  cases change with
  | addComment comment =>
      exact
        filter_upsert Comment.gradeId comment.gradeId
          (fun old => old.update comment) comment
          (fun _ _ => rfl) rfl hKeep record.comments
  | setManualComment gradeId text =>
      exact
        filter_upsert Comment.gradeId gradeId
          (fun old => old.withManualComment text)
          (Comment.withManualComment
            { gradeId := gradeId } text)
          (fun _ hId => hId) rfl hKeep record.comments
  | _ => rfl

end NotebookRecord

namespace Gradebook

theorem leavesOthers
    (book : Gradebook)
    (notebookId : String)
    (change : NotebookRecord.Change) :
    book.LeavesOthers notebookId change where
  notebooks := by
    intro other hNe
    exact book.notebook?_apply_ne hNe change
  grades := by
    rw [notebook_apply, if_pos rfl]
    exact
      (book.notebook notebookId).filter_grades_apply change
        (fun id => id ≠ change.gradeId) (by simp)
  comments := by
    rw [notebook_apply, if_pos rfl]
    exact
      (book.notebook notebookId).filter_comments_apply
        change (fun id => id ≠ change.gradeId) (by simp)

/-
  In a gradebook that grew from an empty one by any history
  of changes, every notebook is stored under its own id and
  has an orderly record, and a further change leaves all
  other notebooks and the entries of all other ids alone.
-/
theorem orderly_history
    (history : History) :
    let book := Gradebook.empty.recordAll history
    (∀ notebookId notebook,
      book.notebook? notebookId = some notebook →
        notebook.IsOrderly notebookId
          (history.about notebookId)) ∧
      ∀ notebookId change,
        book.LeavesOthers notebookId change := by
  intro book
  refine ⟨?_, fun notebookId change =>
    book.leavesOthers notebookId change⟩
  intro notebookId notebook hFind
  have hNotebook : book.notebook notebookId = notebook := by
    rw [Gradebook.notebook, hFind]
    rfl
  rw [← hNotebook]
  exact isOrderly_notebook history notebookId

end Gradebook

end NotebookGrading
