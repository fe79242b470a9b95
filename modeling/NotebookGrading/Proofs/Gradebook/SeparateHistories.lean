import NotebookGrading.Proofs.Gradebook.RecordedBooks

/-
  Histories of different notebooks do not get in each
  other's way.

  A change acts on the record of its notebook and looks at
  no other, so histories about different notebooks lead to
  the same gradebook in either order. Recording the cells of
  a notebook makes the same changes in all gradebooks that
  have the same record of it, whatever scores the cells.

  Key definitions include:
    * `Gradebook.History.Apart`
    * `Recording.InStep`

  Main statements:
    * `Gradebook.recordAll_comm`
    * `Gradebook.notebook?_recordAll_congr`
    * `Recording.cells_inStep`
-/

namespace NotebookGrading

------------------------------------------------------------
-- Histories In Either Order
------------------------------------------------------------

namespace Gradebook

variable {book other : Gradebook}
variable {history first second : History}
variable {notebookId : String}

/- Changes of different notebooks can be exchanged. -/
theorem apply_comm
    {firstId secondId : String}
    (hIds : firstId ≠ secondId)
    (book : Gradebook)
    (first second : NotebookRecord.Change) :
    (book.apply firstId first).apply secondId second =
      (book.apply secondId second).apply firstId first := by
  apply ext_notebook?
  intro id
  by_cases hFirst : firstId = id
  · subst hFirst
    rw [notebook?_apply_ne _ hIds.symm, notebook?_apply_self,
      notebook?_apply_self, notebook_apply,
      if_neg hIds.symm]
  · by_cases hSecond : secondId = id
    · subst hSecond
      rw [notebook?_apply_ne _ hIds, notebook?_apply_self,
        notebook?_apply_self, notebook_apply, if_neg hIds]
    · simp only [notebook?_apply_ne _ hFirst,
        notebook?_apply_ne _ hSecond]

/- No notebook is in both histories. -/
def History.Apart
    (first second : History) : Prop :=
  ∀ entry ∈ first, ∀ later ∈ second, entry.1 ≠ later.1

/- A change moves past a history of other notebooks. -/
theorem recordAll_apply
    {change : NotebookRecord.Change}
    (h : ∀ entry ∈ history, notebookId ≠ entry.1) :
    (book.apply notebookId change).recordAll history =
      (book.recordAll history).apply notebookId change := by
  induction history generalizing book with
  | nil => rfl
  | cons entry rest ih =>
      rcases List.forall_mem_cons.1 h with ⟨hEntry, hRest⟩
      simp only [recordAll, List.foldl_cons] at ih ⊢
      rw [apply_comm hEntry, ih hRest]

/- Histories of different notebooks can be exchanged. -/
theorem recordAll_comm
    (h : first.Apart second) :
    (book.recordAll first).recordAll second =
      (book.recordAll second).recordAll first := by
  induction first generalizing book with
  | nil => rfl
  | cons entry rest ih =>
      rcases List.forall_mem_cons.1 h with ⟨hEntry, hRest⟩
      have hMoved :
          (book.apply entry.1 entry.2).recordAll second =
            (book.recordAll second).apply entry.1 entry.2 :=
        recordAll_apply hEntry
      have hTail := @ih (book.apply entry.1 entry.2) hRest
      rw [hMoved] at hTail
      exact hTail

/- A history leaves the notebooks that it is not about. -/
theorem notebook?_recordAll
    (h : ∀ entry ∈ history, entry.1 ≠ notebookId) :
    (book.recordAll history).notebook? notebookId =
      book.notebook? notebookId := by
  induction history generalizing book with
  | nil => rfl
  | cons entry rest ih =>
      rcases List.forall_mem_cons.1 h with ⟨hEntry, hRest⟩
      simp only [recordAll, List.foldl_cons] at ih ⊢
      rw [ih hRest, notebook?_apply_ne _ hEntry]

/- What a history makes of a record rests on the record. -/
theorem notebook?_recordAll_congr
    (hSame :
      book.notebook? notebookId =
        other.notebook? notebookId)
    (history : History) :
    (book.recordAll history).notebook? notebookId =
      (other.recordAll history).notebook? notebookId := by
  induction history generalizing book other with
  | nil => exact hSame
  | cons entry rest ih =>
      simp only [recordAll, List.foldl_cons] at ih ⊢
      apply ih
      by_cases hId : entry.1 = notebookId
      · rw [hId, notebook?_apply_self, notebook?_apply_self,
          notebook, notebook, hSame]
      · rw [notebook?_apply_ne _ hId,
          notebook?_apply_ne _ hId, hSame]

end Gradebook

------------------------------------------------------------
-- The Same Changes In Two Gradebooks
------------------------------------------------------------

namespace Recording

variable {extractor : ScoreExtractor}
variable {notebookId id : String}
variable {opened other next nextOther : OpenGradebook}

/-
  Two gradebooks go on in step: the same history of one
  notebook leads from each of them to its next state.
-/
def InStep
    (notebookId : String)
    (opened other next nextOther : OpenGradebook) : Prop :=
  ∃ history : Gradebook.History,
    (∀ entry ∈ history, entry.1 = notebookId) ∧
      next = opened.recordAll history ∧
      nextOther = other.recordAll history

theorem InStep.refl
    (notebookId : String)
    (opened other : OpenGradebook) :
    InStep notebookId opened other opened other :=
  ⟨[], by simp, rfl, rfl⟩

theorem InStep.trans
    {between betweenOther : OpenGradebook}
    (hFirst :
      InStep notebookId opened other between betweenOther)
    (hSecond :
      InStep notebookId between betweenOther next
        nextOther) :
    InStep notebookId opened other next nextOther := by
  rcases hFirst with ⟨first, hFirst, rfl, rfl⟩
  rcases hSecond with ⟨second, hSecond, rfl, rfl⟩
  refine ⟨first ++ second, ?_, ?_, ?_⟩
  · intro entry hMem
    rcases List.mem_append.1 hMem with hMem | hMem
    · exact hFirst entry hMem
    · exact hSecond entry hMem
  · simp [OpenGradebook.recordAll]
  · simp [OpenGradebook.recordAll]

theorem InStep.single
    (change : NotebookRecord.Change) :
    InStep notebookId opened other
      (opened.change notebookId change)
      (other.change notebookId change) :=
  ⟨[(notebookId, change)], by simp, rfl, rfl⟩

/- Gradebooks in step keep the same record of a notebook. -/
theorem InStep.notebook?_eq
    (h : InStep notebookId opened other next nextOther)
    (hSame :
      opened.book.notebook? id = other.book.notebook? id) :
    next.book.notebook? id =
      nextOther.book.notebook? id := by
  rcases h with ⟨history, -, rfl, rfl⟩
  rw [OpenGradebook.recordAll_eq,
    OpenGradebook.recordAll_eq]
  exact Gradebook.notebook?_recordAll_congr hSame history

theorem taskCell_inStep
    (cell : Cell) :
    InStep notebookId opened other
      (taskCell notebookId id cell opened)
      (taskCell notebookId id cell other) := by
  unfold taskCell
  split
  · exact InStep.single _
  · exact InStep.refl notebookId opened other

theorem solutionCell_inStep
    (cell : Cell) :
    InStep notebookId opened other
      (solutionCell notebookId id cell opened)
      (solutionCell notebookId id cell other) := by
  unfold solutionCell
  split
  · exact InStep.single _
  · exact InStep.refl notebookId opened other

section SameRecord

variable
  (hSame :
    opened.book.notebook? notebookId =
      other.book.notebook? notebookId)

include hSame

theorem gradeCell_inStep
    {cell : Cell}
    (h :
      gradeCell extractor notebookId id cell opened =
        .ok next) :
    ∃ nextOther,
      gradeCell extractor notebookId id cell other =
        .ok nextOther ∧
      InStep notebookId opened other next nextOther := by
  unfold gradeCell at h ⊢
  cases hScore : extractor cell with
  | error e => simp [hScore] at h
  | ok score =>
      simp only [hScore, Except.ok.injEq] at h ⊢
      have hRegistered :
          InStep notebookId opened other
            (opened.change notebookId
              (.registerGradeCell
                ⟨id, cell.points, cell.cellType⟩))
            (other.change notebookId
              (.registerGradeCell
                ⟨id, cell.points, cell.cellType⟩)) :=
        InStep.single _
      refine ⟨_, rfl, hRegistered.trans ?_⟩
      rw [← h, Gradebook.findGrade, Gradebook.findGrade,
        hRegistered.notebook?_eq hSame]
      exact InStep.single _

theorem commentCell_inStep
    (cell : Cell) :
    InStep notebookId opened other
      (commentCell notebookId id cell opened)
      (commentCell notebookId id cell other) := by
  have hRegistered :
      InStep notebookId opened other
        (solutionCell notebookId id cell
          (taskCell notebookId id cell opened))
        (solutionCell notebookId id cell
          (taskCell notebookId id cell other)) :=
    (taskCell_inStep cell).trans (solutionCell_inStep cell)
  apply hRegistered.trans
  rw [commentCell, commentCell, Gradebook.findComment,
    Gradebook.findComment, hRegistered.notebook?_eq hSame]
  exact InStep.single _

theorem identifiedCell_inStep
    {cell : Cell}
    (h :
      identifiedCell extractor notebookId id cell opened =
        .ok next) :
    ∃ nextOther,
      identifiedCell extractor notebookId id cell other =
        .ok nextOther ∧
      InStep notebookId opened other next nextOther := by
  -- The scored gradebooks first, the comments on both next.
  have hCommented :
      ∀ graded gradedOther,
        InStep notebookId opened other graded gradedOther →
          InStep notebookId opened other
            (if needsComment cell then
              commentCell notebookId id cell graded
            else
              graded)
            (if needsComment cell then
              commentCell notebookId id cell gradedOther
            else
              gradedOther) := by
    intro graded gradedOther hGraded
    split
    · exact
        hGraded.trans
          (commentCell_inStep (hGraded.notebook?_eq hSame)
            cell)
    · exact hGraded
  unfold identifiedCell at h ⊢
  by_cases hGrade : cell.isGrade
  · cases hGraded :
        gradeCell extractor notebookId id cell opened with
    | error e => simp [hGrade, hGraded] at h
    | ok graded =>
        rcases gradeCell_inStep hSame hGraded with
          ⟨gradedOther, hGradedOther, hInStep⟩
        simp only [hGrade, if_true, hGraded,
          Except.ok.injEq] at h
        simp only [hGrade, if_true, hGradedOther]
        rw [← h]
        exact ⟨_, rfl, hCommented _ _ hInStep⟩
  · simp only [hGrade] at h ⊢
    rw [← Except.ok.inj h]
    exact
      ⟨_, rfl,
        hCommented _ _
          (InStep.refl notebookId opened other)⟩

theorem cell_inStep
    {cell : Cell}
    (h :
      Recording.cell extractor notebookId cell opened =
        .ok next) :
    ∃ nextOther,
      Recording.cell extractor notebookId cell other =
        .ok nextOther ∧
      InStep notebookId opened other next nextOther := by
  unfold Recording.cell at h ⊢
  cases hId : cell.gradeId with
  | none =>
      simp only [hId, Except.ok.injEq] at h
      rw [← h]
      exact ⟨other, rfl, InStep.refl notebookId opened other⟩
  | some id =>
      simp only [hId] at h ⊢
      exact identifiedCell_inStep hSame h

end SameRecord

/-
  Cells that can be recorded in one gradebook can be
  recorded, by the same changes, in every other that has
  the same record of their notebook.
-/
theorem cells_inStep
    {cells : List Cell}
    (hSame :
      opened.book.notebook? notebookId =
        other.book.notebook? notebookId)
    (h :
      Recording.cells extractor notebookId cells opened =
        .ok next) :
    ∃ nextOther,
      Recording.cells extractor notebookId cells other =
        .ok nextOther ∧
      InStep notebookId opened other next nextOther := by
  induction cells generalizing opened other with
  | nil =>
      rw [← Except.ok.inj h]
      exact ⟨other, rfl, InStep.refl notebookId opened other⟩
  | cons cell rest ih =>
      unfold Recording.cells at h ⊢
      cases hCell :
          Recording.cell extractor notebookId cell
            opened with
      | error e => simp [hCell] at h
      | ok recorded =>
          simp only [hCell] at h
          rcases cell_inStep hSame hCell with
            ⟨recordedOther, hCellOther, hHead⟩
          rcases ih (hHead.notebook?_eq hSame) h with
            ⟨nextOther, hRest, hTail⟩
          simp only [hCellOther]
          exact ⟨nextOther, hRest, hHead.trans hTail⟩

end Recording

end NotebookGrading
