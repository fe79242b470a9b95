import NotebookGrading.Proofs.Gradebook.RecordedNotebooks
import NotebookGrading.Proofs.Gradebook.Transactions
import NotebookGrading.Proofs.Storage.Repetition

/-
  Gradebooks after the cells of a notebook.

  Cells that are scored by their outputs lead from one
  gradebook to another in a single known way: the record of
  the notebook is replaced by the one after the cells, if
  anything is recorded for any of them. Recording the same
  cells in the gradebook that was stored changes nothing in
  it, and it can be stored again.

  Key definitions include:
    * `Cell.anyRecorded`
    * `Gradebook.afterCells`
    * `OpenGradebook.afterCells`

  Main statements:
    * `Recording.changed_cells`
    * `Recording.notebook?_of_updated`
    * `Recording.cells_score_eq`
    * `Gradebook.afterCells_afterCells`
    * `OpenGradebook.commit_again`
    * `OpenGradebook.result_commit_congr`
-/

namespace NotebookGrading

------------------------------------------------------------
-- Whether Anything Is Recorded
------------------------------------------------------------

/- Something is recorded for one of the cells. -/
def Cell.anyRecorded
    (cells : List Cell) : Bool :=
  cells.any (fun cell => cell.recordedId?.isSome)

namespace Recording

variable {extractor : ScoreExtractor}
variable {notebookId id : String}
variable {opened next : OpenGradebook}

theorem changed_gradeCell
    {cell : Cell}
    (h :
      gradeCell extractor notebookId id cell opened =
        .ok next) :
    next.changed = true := by
  unfold gradeCell at h
  cases hScore : extractor cell with
  | error e => simp [hScore] at h
  | ok score =>
      simp only [hScore, Except.ok.injEq] at h
      rw [← h]
      rfl

theorem changed_identifiedCell
    {cell : Cell}
    (h :
      identifiedCell extractor notebookId id cell opened =
        .ok next) :
    next.changed =
      (opened.changed ||
        (cell.isGrade || needsComment cell)) := by
  unfold identifiedCell at h
  by_cases hGrade : cell.isGrade
  · cases hGraded :
        gradeCell extractor notebookId id cell opened with
    | error e => simp [hGrade, hGraded] at h
    | ok graded =>
        have hChanged := changed_gradeCell hGraded
        simp only [hGrade, if_true, hGraded,
          Except.ok.injEq] at h
        rw [← h]
        split
        · simp [hGrade, commentCell, OpenGradebook.change]
        · simp [hGrade, hChanged]
  · simp only [hGrade] at h
    rw [← Except.ok.inj h]
    split
    · rename_i hComment
      simp [hComment, commentCell, OpenGradebook.change]
    · rename_i hComment
      simp [hGrade, hComment]

/- A cell changes a gradebook if something is recorded. -/
theorem changed_cell
    {cell : Cell}
    (h :
      Recording.cell extractor notebookId cell opened =
        .ok next) :
    next.changed =
      (opened.changed || cell.recordedId?.isSome) := by
  unfold Recording.cell at h
  unfold Cell.recordedId?
  cases hId : cell.gradeId with
  | none =>
      simp only [hId, Except.ok.injEq] at h
      simp [← h]
  | some id =>
      simp only [hId] at h
      rw [changed_identifiedCell h]
      cases hRole : cell.isGrade || needsComment cell with
      | true => rfl
      | false => rfl

theorem changed_cells
    {cells : List Cell}
    (h :
      Recording.cells extractor notebookId cells opened =
        .ok next) :
    next.changed =
      (opened.changed || Cell.anyRecorded cells) := by
  induction cells generalizing opened with
  | nil =>
      rw [← Except.ok.inj h]
      simp [Cell.anyRecorded]
  | cons cell rest ih =>
      unfold Recording.cells at h
      cases hCell :
          Recording.cell extractor notebookId cell
            opened with
      | error e => simp [hCell] at h
      | ok recorded =>
          simp only [hCell] at h
          rw [ih h, changed_cell hCell]
          simp [Cell.anyRecorded, Bool.or_assoc]

/-
  After automatic changes there is a record, or else there
  were none.
-/
theorem Automatic.eq_or_isSome
    (h : Automatic notebookId opened next) :
    next = opened ∨
      next.changed = true ∧
        (next.book.notebook? notebookId).isSome = true := by
  rcases h with ⟨changes, -, rfl⟩
  rcases List.eq_nil_or_concat changes with
    rfl | ⟨front, last, rfl⟩
  · exact .inl rfl
  · right
    rw [List.concat_eq_append,
      OpenGradebook.changes_append]
    simp [OpenGradebook.changes, OpenGradebook.change]

end Recording

------------------------------------------------------------
-- Gradebooks
------------------------------------------------------------

/- Gradebooks with the same records are equal. -/
theorem Gradebook.ext_notebook?
    {first second : Gradebook}
    (h :
      ∀ id, first.notebook? id = second.notebook? id) :
    first = second := by
  have hNotebooks := Table.ext_find? h
  cases first
  cases second
  rw [mk.injEq]
  exact hNotebooks

/- The gradebook after the cells of a notebook. -/
def Gradebook.afterCells
    (book : Gradebook)
    (notebookId : String)
    (cells : List Cell) : Gradebook :=
  if Cell.anyRecorded cells then
    { notebooks :=
        book.notebooks.insert notebookId
          ((book.notebook notebookId).afterCells cells) }
  else
    book

/- The open gradebook after the cells of a notebook. -/
def OpenGradebook.afterCells
    (opened : OpenGradebook)
    (notebookId : String)
    (cells : List Cell) : OpenGradebook where
  path := opened.path
  book := opened.book.afterCells notebookId cells
  changed := opened.changed || Cell.anyRecorded cells

/- The records after the cells of a notebook. -/
theorem Gradebook.notebook?_afterCells
    (book : Gradebook)
    (notebookId : String)
    (cells : List Cell)
    (id : String) :
    (book.afterCells notebookId cells).notebook? id =
      if Cell.anyRecorded cells ∧ notebookId = id then
        some ((book.notebook notebookId).afterCells cells)
      else
        book.notebook? id := by
  unfold afterCells
  by_cases hAny : Cell.anyRecorded cells
  · by_cases hId : notebookId = id
    · simp [hAny, hId, notebook?]
    · simp [hAny, hId, notebook?, Table.find?_insert_ne]
  · simp [hAny]

/-
  From a gradebook that has not changed, cells lead to one
  with the record of their notebook, if anything is recorded
  for any of them.
-/
theorem Recording.notebook?_of_updated
    {extractor : ScoreExtractor}
    {notebookId : String}
    {opened next : OpenGradebook}
    {cells : List Cell}
    {record : NotebookRecord}
    (h :
      Recording.cells extractor notebookId cells opened =
        .ok next)
    (hUpdated : Updated notebookId opened record next)
    (hFresh : opened.changed = false)
    (id : String) :
    next.book.notebook? id =
      if Cell.anyRecorded cells ∧ notebookId = id then
        some record
      else
        opened.book.notebook? id := by
  have hChanged := changed_cells h
  rw [hFresh, Bool.false_or] at hChanged
  rcases (cells_automatic h).eq_or_isSome with
    hSame | ⟨hTrue, hSome⟩
  · have hNone : Cell.anyRecorded cells = false := by
      rw [← hChanged, hSame, hFresh]
    simp [hNone, hSame]
  · rw [← hChanged, hTrue]
    by_cases hId : notebookId = id
    · subst hId
      rcases Option.isSome_iff_exists.1 hSome with
        ⟨found, hFound⟩
      have hRecord :
          next.book.notebook notebookId = found := by
        rw [Gradebook.notebook, hFound]
        rfl
      rw [if_pos ⟨rfl, rfl⟩, hFound, ← hRecord,
        hUpdated.notebook_eq]
    · rw [if_neg (fun hBoth => hId hBoth.2)]
      exact hUpdated.notebook?_ne id hId

/-
  Recording cells by their outputs always succeeds and
  leads to the gradebook after the cells.
-/
theorem Recording.cells_score_eq
    (notebookId path : String)
    (book : Gradebook)
    (cells : List Cell) :
    Recording.cells Cell.score notebookId cells
        ⟨path, book, false⟩ =
      .ok
        (OpenGradebook.afterCells ⟨path, book, false⟩
          notebookId cells) := by
  rcases cells_score notebookId ⟨path, book, false⟩ cells
    with ⟨next, hNext, hUpdated⟩
  have hChanged := changed_cells hNext
  rw [Bool.false_or] at hChanged
  have hBook :
      next.book = book.afterCells notebookId cells := by
    apply Gradebook.ext_notebook?
    intro id
    rw [book.notebook?_afterCells]
    exact notebook?_of_updated hNext hUpdated rfl id
  have hEq :
      next =
        OpenGradebook.afterCells ⟨path, book, false⟩
          notebookId cells := by
    rcases next with ⟨nextPath, nextBook, nextChanged⟩
    have hPath : nextPath = path := hUpdated.path_eq
    simp only at hBook hChanged
    rw [hBook, hChanged, hPath, OpenGradebook.afterCells,
      Bool.false_or]
  rw [hNext, hEq]

/- Recording the same cells once more changes nothing. -/
theorem Gradebook.afterCells_afterCells
    (book : Gradebook)
    (notebookId : String)
    (cells : List Cell) :
    (book.afterCells notebookId cells).afterCells notebookId
        cells =
      book.afterCells notebookId cells := by
  unfold afterCells
  by_cases hAny : Cell.anyRecorded cells
  · simp only [hAny, if_true]
    have hRecord :
        (Gradebook.mk
          (book.notebooks.insert notebookId
            ((book.notebook notebookId).afterCells
              cells))).notebook notebookId =
          (book.notebook notebookId).afterCells cells := by
      simp [notebook, notebook?]
    rw [hRecord, NotebookRecord.afterCells_afterCells,
      Table.insert_insert]
  · simp only [hAny]
    rfl

------------------------------------------------------------
-- Commits
------------------------------------------------------------

namespace OpenGradebook

variable {tree next : FileTree}
variable {opened again : OpenGradebook}

/- A commit succeeds when its file operations do. -/
theorem commit_eq_ok_iff :
    opened.commit tree = (next, .ok ()) ↔
      (opened.commitRun tree).failure = none ∧
        (opened.commitRun tree).tree = next := by
  unfold commit
  cases hFailure : (opened.commitRun tree).failure with
  | none => simp [hFailure]
  | some failure => simp [hFailure]

/-
  After a commit the gradebook at the same path can be
  committed again, with any content, if it has not changed
  where it had not before.
-/
theorem commit_again
    (h : opened.commit tree = (next, .ok ()))
    (hPath : again.path = opened.path)
    (hChanged :
      again.changed = true → opened.changed = true) :
    ∃ last, again.commit next = (last, .ok ()) := by
  rcases commit_eq_ok_iff.1 h with ⟨hSuccess, hTree⟩
  refine ⟨_, commit_eq_ok_iff.2 ⟨?_, rfl⟩⟩
  unfold commitRun at hSuccess hTree ⊢
  by_cases hStored :
      (!opened.changed && tree.exists? opened.path) = true
  · rw [if_pos hStored] at hTree
    have hKept :
        (!again.changed && next.exists? again.path) =
          true := by
      rw [← hTree, hPath]
      change
        (!again.changed && tree.exists? opened.path) = true
      rw [Bool.and_eq_true, Bool.not_eq_true'] at hStored ⊢
      refine ⟨?_, hStored.2⟩
      rw [Bool.eq_false_iff]
      intro hAgain
      rw [hStored.1] at hChanged
      cases hChanged hAgain
    rw [if_pos hKept]
    rfl
  · rw [if_neg hStored] at hSuccess hTree
    split
    · rfl
    · rw [← hTree, hPath]
      exact
        (Replacement.isReady_run hSuccess).failure_run _

/- The content of a gradebook does not decide a commit. -/
theorem result_commit_congr
    {first second : OpenGradebook}
    (hPath : first.path = second.path)
    (hChanged : first.changed = second.changed) :
    (first.commit tree).2 = (second.commit tree).2 := by
  have hFailure :
      (first.commitRun tree).failure =
        (second.commitRun tree).failure := by
    unfold commitRun
    rw [hPath, hChanged]
    split
    · rfl
    · exact Replacement.failure_run_eq tree second.path _ _
  unfold commit
  simp only [hFailure]

end OpenGradebook

end NotebookGrading
