import NotebookGrading.Gradebook.Basic
import NotebookGrading.Json.Reader
import NotebookGrading.Json.Record
import NotebookGrading.Json.Writer

/-
  Documents of gradebooks.

  Every member is written, absent values as null. Members
  other than the ids, and those of registered cells, may be
  left out; members that are not declared are dropped.

  Key definitions include:
    * `Gradebook.ofDocument?`
    * `Gradebook.ofText?`
    * `Gradebook.toDocument`
    * `Gradebook.toText`
-/

namespace NotebookGrading

open Json (Document)

------------------------------------------------------------
-- Grades And Comments
------------------------------------------------------------

namespace Grade

def memberNames : List String :=
  ["grade_id", "auto_score", "manual_score",
   "needs_manual_grade"]

def ofDocument?
    (document : Document) : Option Grade := do
  let record ← document.record? memberNames
  let gradeId ← record.required? "grade_id" Document.text?
  let autoScore ← record.defaulted? "auto_score" none
    (Document.optional? Document.float?)
  let manualScore ← record.defaulted? "manual_score" none
    (Document.optional? Document.float?)
  let needsManualGrade ←
    record.defaulted? "needs_manual_grade" false
      Document.bool?
  some ⟨gradeId, autoScore, manualScore, needsManualGrade⟩

def toDocument
    (grade : Grade) : Document :=
  .ofMembers
    [("grade_id", .ofText grade.gradeId),
     ("auto_score",
        .ofOption Document.ofFloat grade.autoScore),
     ("manual_score",
        .ofOption Document.ofFloat grade.manualScore),
     ("needs_manual_grade", .bool grade.needsManualGrade)]

end Grade

namespace Comment

def memberNames : List String :=
  ["grade_id", "auto_comment", "manual_comment"]

def ofDocument?
    (document : Document) : Option Comment := do
  let record ← document.record? memberNames
  let gradeId ← record.required? "grade_id" Document.text?
  let autoComment ← record.defaulted? "auto_comment" none
    (Document.optional? Document.text?)
  let manualComment ←
    record.defaulted? "manual_comment" none
      (Document.optional? Document.text?)
  some ⟨gradeId, autoComment, manualComment⟩

def toDocument
    (comment : Comment) : Document :=
  .ofMembers
    [("grade_id", .ofText comment.gradeId),
     ("auto_comment",
        .ofOption Document.ofText comment.autoComment),
     ("manual_comment",
        .ofOption Document.ofText comment.manualComment)]

end Comment

------------------------------------------------------------
-- Registered Cells
------------------------------------------------------------

/- A required cell type. -/
def Json.Record.cellType?
    (record : Json.Record) : Option CellType :=
  record.required? "cell_type"
    (Document.choice? CellType.ofName?)

namespace GradeCell

def memberNames : List String :=
  ["name", "max_score", "cell_type"]

def ofDocument?
    (document : Document) : Option GradeCell := do
  let record ← document.record? memberNames
  let name ← record.required? "name" Document.text?
  let maxScore ← record.required? "max_score"
    Document.float?
  let cellType ← record.cellType?
  some ⟨name, maxScore, cellType⟩

def toDocument
    (cell : GradeCell) : Document :=
  .ofMembers
    [("name", .ofText cell.name),
     ("max_score", .ofFloat cell.maxScore),
     ("cell_type", .ofText cell.cellType.name)]

end GradeCell

namespace SolutionCell

def memberNames : List String :=
  ["name", "cell_type"]

def ofDocument?
    (document : Document) : Option SolutionCell := do
  let record ← document.record? memberNames
  let name ← record.required? "name" Document.text?
  let cellType ← record.cellType?
  some ⟨name, cellType⟩

def toDocument
    (cell : SolutionCell) : Document :=
  .ofMembers
    [("name", .ofText cell.name),
     ("cell_type", .ofText cell.cellType.name)]

end SolutionCell

namespace TaskCell

def memberNames : List String :=
  ["name", "max_score", "cell_type"]

def ofDocument?
    (document : Document) : Option TaskCell := do
  let record ← document.record? memberNames
  let name ← record.required? "name" Document.text?
  let maxScore ← record.required? "max_score"
    Document.float?
  let cellType ← record.cellType?
  some ⟨name, maxScore, cellType⟩

def toDocument
    (cell : TaskCell) : Document :=
  .ofMembers
    [("name", .ofText cell.name),
     ("max_score", .ofFloat cell.maxScore),
     ("cell_type", .ofText cell.cellType.name)]

end TaskCell

/- A table as an object. -/
def Table.toDocument
    {α : Type}
    (write : α → Document)
    (table : Table α) : Document :=
  .ofMembers
    (table.entries.map (fun entry =>
      (entry.1, write entry.2)))

------------------------------------------------------------
-- Records And Gradebooks
------------------------------------------------------------

namespace NotebookRecord

def memberNames : List String :=
  ["notebook_id", "max_score", "grade_cells",
   "solution_cells", "task_cells", "grades", "comments"]

def ofDocument?
    (document : Document) : Option NotebookRecord := do
  let record ← document.record? memberNames
  let notebookId ← record.required? "notebook_id"
    Document.text?
  let maxScore ← record.defaulted? "max_score" 0
    Document.float?
  let gradeCells ← record.defaulted? "grade_cells"
    Table.empty (Document.table? GradeCell.ofDocument?)
  let solutionCells ← record.defaulted? "solution_cells"
    Table.empty (Document.table? SolutionCell.ofDocument?)
  let taskCells ← record.defaulted? "task_cells"
    Table.empty (Document.table? TaskCell.ofDocument?)
  let grades ← record.defaulted? "grades" []
    (Document.list? Grade.ofDocument?)
  let comments ← record.defaulted? "comments" []
    (Document.list? Comment.ofDocument?)
  some
    ⟨notebookId, maxScore, gradeCells, solutionCells,
      taskCells, grades, comments⟩

def toDocument
    (record : NotebookRecord) : Document :=
  .ofMembers
    [("notebook_id", .ofText record.notebookId),
     ("max_score", .ofFloat record.maxScore),
     ("grade_cells",
        record.gradeCells.toDocument GradeCell.toDocument),
     ("solution_cells",
        record.solutionCells.toDocument
          SolutionCell.toDocument),
     ("task_cells",
        record.taskCells.toDocument TaskCell.toDocument),
     ("grades", .ofList Grade.toDocument record.grades),
     ("comments",
        .ofList Comment.toDocument record.comments)]

end NotebookRecord

namespace Gradebook

def memberNames : List String :=
  ["notebooks"]

def ofDocument?
    (document : Document) : Option Gradebook := do
  let record ← document.record? memberNames
  let notebooks ← record.defaulted? "notebooks" Table.empty
    (Document.table? NotebookRecord.ofDocument?)
  some ⟨notebooks⟩

/- The gradebook that a text spells. -/
def ofText?
    (text : String) : Option Gradebook :=
  (Document.read? text).bind ofDocument?

def toDocument
    (book : Gradebook) : Document :=
  .ofMembers
    [("notebooks",
        book.notebooks.toDocument
          NotebookRecord.toDocument)]

/- The text in which a gradebook is stored. -/
def toText
    (book : Gradebook) : String :=
  book.toDocument.indented

end Gradebook

end NotebookGrading
