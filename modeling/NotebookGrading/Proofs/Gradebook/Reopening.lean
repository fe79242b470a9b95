import Mathlib.Data.List.TakeWhile
import NotebookGrading.Pipeline.Stage
import NotebookGrading.Proofs.Gradebook.ExtractedScores
import NotebookGrading.Proofs.Gradebook.FiniteDoubles
import NotebookGrading.Proofs.Gradebook.Transactions

/-
  Opening a gradebook again after scores were saved in it.

  The file that a run leaves behind is read as the very
  gradebook that the run committed, unless the maximum of
  the notebook has grown beyond the doubles: it is written
  as null, which is not accepted in its place.

  Main statements:
    * `OpenGradebook.bookOfText_toText`
    * `Gradebook.stored_reads_back_iff`
    * `Recording.isFinite_doubles`
    * `openAt_saveScores`
-/

namespace NotebookGrading

------------------------------------------------------------
-- Texts Of Gradebooks
------------------------------------------------------------

/- A text that starts with no blank is not blank. -/
theorem Text.trimChars_cons_ne_nil
    {c : Char}
    {cs : List Char}
    (h : isBlank c = false) :
    trimChars (c :: cs) ≠ [] := by
  unfold trimChars dropTrailingBlanks
  rw [List.dropWhile_cons_of_neg (by simp [h])]
  intro hNil
  have hAll :=
    List.dropWhile_eq_nil_iff.1 (List.reverse_eq_nil_iff.1 hNil)
  have hBlank := hAll c (by simp)
  rw [h] at hBlank
  cases hBlank

theorem Gradebook.trimChars_toText_ne_nil
    (book : Gradebook) :
    Text.trimChars book.toText.toList ≠ [] := by
  have hHead : book.toText.toList.head? = some '\x7b' := by
    simp [toText, toDocument, Json.Document.ofMembers,
      Json.Document.indented, Json.Document.indentedAt]
  rcases List.head?_eq_some_iff.1 hHead with ⟨rest, hText⟩
  rw [hText]
  exact Text.trimChars_cons_ne_nil (by decide)

namespace OpenGradebook

/- A text that spells a document is read through it. -/
theorem bookOfText_toText
    {book : Gradebook}
    (h : DoublesReadBack book.doubles)
    (path : String) :
    bookOfText path book.toText =
      match Gradebook.ofDocument? book.toDocument with
      | none => .error (.corrupt path)
      | some read => .ok read := by
  unfold bookOfText
  rw [if_neg book.trimChars_toText_ne_nil]
  unfold Gradebook.ofText?
  rw [Gradebook.read?_toText h]
  rfl

------------------------------------------------------------
-- Opened Gradebooks
------------------------------------------------------------

theorem openAt_of_readText
    {tree : FileTree}
    {path text : String}
    (h : tree.readText path = .ok text) :
    openAt tree path =
      (bookOfText path text).map (⟨path, ·, false⟩) := by
  unfold openAt stored
  rw [h]
  cases hBook : bookOfText path text with
  | error e => simp [hBook, Except.map]
  | ok book => simp [hBook, Except.map]

/- All doubles of an opened gradebook are finite. -/
theorem isFinite_of_openAt
    {tree : FileTree}
    {path : String}
    {opened : OpenGradebook}
    (h : openAt tree path = .ok opened) :
    opened.book.IsFinite := by
  unfold openAt at h
  split at h
  · cases h
  · rename_i book hBook
    injection h with h
    rw [← h]
    unfold stored at hBook
    split at hBook
    · unfold bookOfText at hBook
      split at hBook
      · injection hBook with hBook
        rw [← hBook]
        exact Gradebook.isFinite_empty
      · split at hBook
        · cases hBook
        · rename_i read hRead
          injection hBook with hBook
          rw [← hBook]
          exact Gradebook.isFinite_ofText? hRead
    · injection hBook with hBook
      rw [← hBook]
      exact Gradebook.isFinite_empty
    · cases hBook

end OpenGradebook

------------------------------------------------------------
-- Stored Gradebooks
------------------------------------------------------------

namespace Gradebook

theorem IsFinite.doubles
    {book : Gradebook}
    (h : book.IsFinite) :
    ∀ x ∈ book.doubles, x.isFinite = true := by
  intro x hMem
  rcases List.mem_flatMap.1 hMem with ⟨record, hRecord, hX⟩
  rcases h record hRecord with ⟨hEntries, hMax⟩
  exact hEntries.doubles hMax x hX

/-
  The text of a gradebook spells the same gradebook if all
  its doubles are finite, and cannot do so otherwise.
-/
theorem ofText?_toText
    {book : Gradebook}
    (hDoubles : DoublesReadBack book.doubles) :
    ofText? book.toText = some book ↔
      ∀ x ∈ book.doubles, x.isFinite = true := by
  constructor
  · intro hText
    exact (isFinite_ofText? hText).doubles
  · intro hFinite
    rw [ofText?, read?_toText hDoubles, Option.bind_some]
    exact ofDocument?_toDocument hFinite

/-
  A gradebook is read back from the text in which it is
  stored, and from any file in which it was stored by a
  commit, exactly when all its doubles are finite: whatever
  its notebooks, keys and ids are.
-/
theorem stored_reads_back_iff
    {book : Gradebook}
    (hDoubles : DoublesReadBack book.doubles) :
    (ofText? book.toText = some book ↔
        ∀ x ∈ book.doubles, x.isFinite = true) ∧
      ∀ tree next path,
        OpenGradebook.commit ⟨path, book, true⟩ tree =
            (next, .ok ()) →
          next.readText path = .ok book.toText ∧
            (OpenGradebook.openAt next path =
                .ok ⟨path, book, false⟩ ↔
              ∀ x ∈ book.doubles, x.isFinite = true) := by
  refine ⟨ofText?_toText hDoubles, ?_⟩
  intro tree next path hCommit
  have hText : next.readText path = .ok book.toText := by
    rcases OpenGradebook.commit_eq_ok hCommit with
      ⟨⟨hUnchanged, -⟩, -⟩ | ⟨-, hStores⟩
    · cases hUnchanged
    · exact hStores.readText
  refine ⟨hText, ?_, ?_⟩
  · intro hOpen
    exact (OpenGradebook.isFinite_of_openAt hOpen).doubles
  · intro hFinite
    rw [OpenGradebook.openAt_of_readText hText,
      OpenGradebook.bookOfText_toText hDoubles,
      ofDocument?_toDocument hFinite]
    rfl

/-
  A gradebook whose only record is stored under another id
  than its own and holds two grades for one cell.
-/
def misfiled : Gradebook where
  notebooks :=
    Table.empty.insert "n"
      { notebookId := "m"
        maxScore := 2.5
        taskCells :=
          Table.empty.insert "t" ⟨"u", 2.5, .raw⟩
        grades :=
          [⟨"a", some 0.1, none, false⟩,
            ⟨"a", none, some (-0.0), true⟩]
        comments := [⟨"a", none, some "\"ok\"\n"⟩] }

theorem stored_reads_back_misfiled :
    DoublesReadBack misfiled.doubles ∧
      (∀ x ∈ misfiled.doubles, x.isFinite = true) ∧
      ofText? misfiled.toText = some misfiled := by
  have hDoubles : DoublesReadBack misfiled.doubles := by
    decide +kernel
  have hFinite :
      ∀ x ∈ misfiled.doubles, x.isFinite = true := by
    decide +kernel
  exact
    ⟨hDoubles, hFinite,
      (stored_reads_back_iff hDoubles).1.2 hFinite⟩

end Gradebook

------------------------------------------------------------
-- Recorded Gradebooks
------------------------------------------------------------

namespace Recording

variable {key : String}
variable {cells : List Cell}
variable {opened recorded : OpenGradebook}

/- What has not changed is as it was opened. -/
theorem eq_of_unchanged
    (h : Automatic key opened recorded)
    (hUnchanged : recorded.changed = false) :
    recorded = opened := by
  rcases h with ⟨changes, -, hChanges⟩
  rcases List.eq_nil_or_concat changes with
    hNil | ⟨before, last, hLast⟩
  · rw [hChanges, hNil]
    rfl
  · rw [hChanges, hLast, List.concat_eq_append,
      OpenGradebook.changes_append] at hUnchanged
    cases hUnchanged

/-
  Recording cells in a gradebook of finite doubles leaves
  at most the maximum of the notebook infinite.
-/
theorem isFinite_doubles
    (hOpened : opened.book.IsFinite)
    (hCells :
      Recording.cells Cell.score key cells opened =
        .ok recorded)
    (hMax :
      (recorded.book.notebook key).maxScore.isFinite =
        true) :
    ∀ x ∈ recorded.book.doubles, x.isFinite = true := by
  intro x hMem
  rcases List.mem_flatMap.1 hMem with ⟨record, hRecord, hX⟩
  rcases Table.mem_values_iff.1 hRecord with ⟨id, hFind⟩
  rcases cells_score key opened cells with
    ⟨next, hNext, hUpdated⟩
  have hSame : recorded = next := by
    rw [hCells] at hNext
    exact Except.ok.inj hNext
  rw [← hSame] at hUpdated
  by_cases hKey : key = id
  · have hNotebook : recorded.book.notebook key = record := by
      rw [hKey]
      simp only [Gradebook.notebook, Gradebook.notebook?,
        hFind, Option.getD_some]
    have hEntries : record.EntriesFinite := by
      rw [← hNotebook, hUpdated.notebook_eq]
      exact (hOpened.notebook key).1.afterCells cells
    rw [hNotebook] at hMax
    exact hEntries.doubles hMax x hX
  · have hOld : opened.book.notebook? id = some record := by
      rw [← hUpdated.notebook?_ne id hKey]
      exact hFind
    rcases hOpened record
        (Table.mem_values_iff.2 ⟨id, hOld⟩) with
      ⟨hEntries, hFinite⟩
    exact hEntries.doubles hFinite x hX

end Recording

------------------------------------------------------------
-- Reopening
------------------------------------------------------------

/- A run that succeeds has opened, recorded and committed. -/
theorem saveScores_eq_ok
    {tree next : FileTree}
    {notebook : Notebook}
    {key path : String}
    (h :
      saveScores Cell.score tree notebook key path =
        (next, .ok ())) :
    ∃ opened recorded,
      OpenGradebook.openAt tree path = .ok opened ∧
      Recording.cells Cell.score key notebook.cells opened =
        .ok recorded ∧
      recorded.commit tree = (next, .ok ()) := by
  rcases OpenGradebook.transaction_eq_ok h with
    ⟨opened, worked, hOpen, hWorked, hCommit⟩
  rcases Recording.cells_score key opened notebook.cells with
    ⟨recorded, hCells, -⟩
  simp only [hCells, Except.ok.injEq, Prod.mk.injEq]
    at hWorked
  rw [hWorked.1] at hCells
  exact ⟨opened, worked, hOpen, hCells, hCommit⟩

/- A maximum that is not finite stands in a record. -/
theorem Gradebook.notebook_mem_values
    {book : Gradebook}
    {key : String}
    (h :
      (book.notebook key).maxScore.isFinite = false) :
    book.notebook key ∈ book.notebooks.values := by
  cases hFind : book.notebook? key with
  | none =>
      simp only [notebook, hFind, Option.getD_none] at h
      exact absurd h (by decide +kernel)
  | some record =>
      simp only [notebook, hFind, Option.getD_some]
      exact Table.mem_values_iff.2 ⟨key, hFind⟩

/-
  The stored text of a recorded gradebook opens if the
  maximum of the notebook is finite.
-/
theorem openAt_of_committed
    {next : FileTree}
    {committed : OpenGradebook}
    {key : String}
    (hText :
      next.readText committed.path =
        .ok committed.book.toText)
    (hReadBack : DoublesReadBack committed.book.doubles)
    (hFinite :
      (committed.book.notebook key).maxScore.isFinite =
          true →
        ∀ x ∈ committed.book.doubles, x.isFinite = true) :
    OpenGradebook.openAt next committed.path =
      if (committed.book.notebook key).maxScore.isFinite
      then
        .ok ⟨committed.path, committed.book, false⟩
      else
        .error (.corrupt committed.path) := by
  rw [OpenGradebook.openAt_of_readText hText,
    OpenGradebook.bookOfText_toText hReadBack]
  cases hMax :
      (committed.book.notebook key).maxScore.isFinite with
  | true =>
      rw [Gradebook.ofDocument?_toDocument (hFinite hMax)]
      rfl
  | false =>
      rw [Gradebook.ofDocument?_toDocument_eq_none
        (Gradebook.notebook_mem_values hMax) hMax]
      rfl

/- What a committed recording leaves in its file. -/
theorem openAt_of_commit
    {tree next : FileTree}
    {cells : List Cell}
    {key path : String}
    {opened committed : OpenGradebook}
    (hOpen : OpenGradebook.openAt tree path = .ok opened)
    (hCells :
      Recording.cells Cell.score key cells opened =
        .ok committed)
    (hCommit : committed.commit tree = (next, .ok ()))
    (hReadBack : DoublesReadBack committed.book.doubles) :
    OpenGradebook.openAt next path =
      if (committed.book.notebook key).maxScore.isFinite
      then
        .ok ⟨path, committed.book, false⟩
      else
        .error (.corrupt path) := by
  have hOpened := OpenGradebook.isFinite_of_openAt hOpen
  rcases OpenGradebook.commit_eq_ok hCommit with
    ⟨⟨hUnchanged, -⟩, hTree⟩ | ⟨-, hStores⟩
  · have hSame :=
      Recording.eq_of_unchanged
        (Recording.cells_automatic hCells) hUnchanged
    have hMax := (hOpened.notebook key).2
    rw [hSame, if_pos hMax, hTree, hOpen,
      ← OpenGradebook.eq_of_openAt hOpen]
  · have hPath : committed.path = path := by
      rcases Recording.cells_score key opened cells with
        ⟨recorded, hRecorded, hUpdated⟩
      rw [hCells] at hRecorded
      rw [Except.ok.inj hRecorded, hUpdated.path_eq,
        OpenGradebook.eq_of_openAt hOpen]
    rw [← hPath]
    apply openAt_of_committed hStores.readText hReadBack
    exact Recording.isFinite_doubles hOpened hCells

/-
  After a run that succeeds, the file opens as the gradebook
  that the run committed if the maximum of the notebook is
  finite, and is corrupt if it is not. The run may start
  from any tree, so any other runs may have come before.
-/
theorem openAt_saveScores
    {tree next : FileTree}
    {notebook : Notebook}
    {key path : String}
    (hRun :
      saveScores Cell.score tree notebook key path =
        (next, .ok ())) :
    ∃ opened committed,
      OpenGradebook.openAt tree path = .ok opened ∧
      Recording.cells Cell.score key notebook.cells opened =
        .ok committed ∧
      (DoublesReadBack committed.book.doubles →
        OpenGradebook.openAt next path =
          if (committed.book.notebook key).maxScore.isFinite
          then
            .ok ⟨path, committed.book, false⟩
          else
            .error (.corrupt path)) := by
  rcases saveScores_eq_ok hRun with
    ⟨opened, committed, hOpen, hCells, hCommit⟩
  exact ⟨opened, committed, hOpen, hCells,
    openAt_of_commit hOpen hCells hCommit⟩

/- A code cell that is worth some points. -/
def worthCell
    (id : String)
    (points : Float) : Cell where
  cellType := .code
  metadata :=
    { grading :=
        some
          { gradeId := some id
            grade := some true
            points := some points } }

/- Two code cells that are worth the same. -/
def worthTwice
    (points : Float) : Notebook :=
  Notebook.ofCells
    [worthCell "a" points, worthCell "b" points]

/- Two cells worth one point each are read again. -/
theorem openAt_saveScores_small :
    ∃ next book,
      saveScores Cell.score FileTree.empty (worthTwice 1)
          "k" "/srv/gradebook.json" = (next, .ok ()) ∧
        OpenGradebook.openAt next "/srv/gradebook.json" =
          .ok ⟨"/srv/gradebook.json", book, false⟩ ∧
        (book.notebook "k").maxScore = 2 := by
  have hEvaluated :
      (Recording.cells Cell.score "k" (worthTwice 1).cells
          ⟨"/srv/gradebook.json", Gradebook.empty, false⟩).map
        (fun recorded =>
          (decide (DoublesReadBack recorded.book.doubles),
            (recorded.book.notebook "k").maxScore)) =
        .ok (true, 2) := by
    decide +kernel
  rcases hRun :
      saveScores Cell.score FileTree.empty (worthTwice 1)
        "k" "/srv/gradebook.json" with ⟨next, result⟩
  have hResult : result = .ok () :=
    (congrArg Prod.snd hRun).symm.trans rfl
  rw [hResult] at hRun
  rcases openAt_saveScores hRun with
    ⟨opened, committed, hOpen, hCells, hReopen⟩
  cases hOpen
  rw [hCells] at hEvaluated
  injection hEvaluated with hEvaluated
  injection hEvaluated with hReadBack hMax
  refine ⟨next, committed.book, by rw [hResult], ?_, hMax⟩
  rw [hReopen (of_decide_eq_true hReadBack), hMax]
  exact if_pos (by decide +kernel)

/- Two cells worth 1e308 points each spoil the file. -/
theorem openAt_saveScores_large :
    ∃ next,
      saveScores Cell.score FileTree.empty
          (worthTwice 1e308) "k" "gradebook.json" =
        (next, .ok ()) ∧
      OpenGradebook.openAt next "gradebook.json" =
        .error (.corrupt "gradebook.json") := by
  have hEvaluated :
      (Recording.cells Cell.score "k"
          (worthTwice 1e308).cells
          ⟨"gradebook.json", Gradebook.empty, false⟩).map
        (fun recorded =>
          (decide (DoublesReadBack recorded.book.doubles),
            (recorded.book.notebook
              "k").maxScore.isFinite)) =
        .ok (true, false) := by
    decide +kernel
  rcases hRun :
      saveScores Cell.score FileTree.empty
        (worthTwice 1e308) "k" "gradebook.json" with
    ⟨next, result⟩
  have hResult : result = .ok () :=
    (congrArg Prod.snd hRun).symm.trans rfl
  rw [hResult] at hRun
  refine ⟨next, by rw [hResult], ?_⟩
  rcases saveScores_eq_ok hRun with
    ⟨opened, committed, hOpen, hCells, hCommit⟩
  have hReopen := openAt_of_commit hOpen hCells hCommit
  cases hOpen
  rw [hCells] at hEvaluated
  injection hEvaluated with hEvaluated
  injection hEvaluated with hReadBack hMax
  rw [hReopen (of_decide_eq_true hReadBack), hMax]
  rfl

end NotebookGrading
