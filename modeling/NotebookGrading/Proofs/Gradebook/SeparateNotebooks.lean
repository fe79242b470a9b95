import NotebookGrading.Proofs.Gradebook.Reopening
import NotebookGrading.Proofs.Gradebook.SeparateHistories

/-
  Saving the scores of two notebooks in one gradebook.

  Under different keys the two runs can be made in either
  order, from whatever the gradebook held before: if one
  order succeeds then so does the other, both commit the
  same gradebook and leave the same text in its file, and
  each notebook has the record that its run alone commits.

  Key definitions include:
    * `ScoresSaved`

  Main statements:
    * `OpenGradebook.commit_before`
    * `OpenGradebook.commit_after`
    * `OpenGradebook.commit_commit`
    * `scoresSaved_iff`
    * `ScoresSaved.in_either_order`
-/

namespace NotebookGrading

------------------------------------------------------------
-- Commits In Either Order
------------------------------------------------------------

namespace OpenGradebook

variable {tree between beside last : FileTree}
variable {first second other : OpenGradebook}

/- A commit keeps the tree, or replaces the file. -/
theorem commit_cases
    (h : first.commit tree = (between, .ok ())) :
    between = tree ∨
      (Replacement.run tree first.path
          first.book.toText.toUTF8).failure = none ∧
        (Replacement.run tree first.path
          first.book.toText.toUTF8).tree = between := by
  rcases commit_eq_ok_iff.1 h with ⟨hSuccess, hTree⟩
  unfold commitRun at hSuccess hTree
  split at hSuccess
  · rename_i hKept
    rw [if_pos hKept] at hTree
    exact .inl hTree.symm
  · rename_i hStored
    rw [if_neg hStored] at hTree
    exact .inr ⟨hSuccess, hTree⟩

/- Gradebooks that changed alike are committed alike. -/
theorem exists_commit_congr
    (h : first.commit tree = (between, .ok ()))
    (hPath : other.path = first.path)
    (hChanged : other.changed = first.changed) :
    ∃ next, other.commit tree = (next, .ok ()) := by
  have hResult :
      (other.commit tree).2 = (first.commit tree).2 :=
    result_commit_congr hPath hChanged
  rw [h] at hResult
  exact ⟨_, Prod.ext rfl hResult⟩

/- A gradebook is committed wherever its file can be. -/
theorem exists_commit_of_run
    (h :
      ∀ content,
        (Replacement.run tree first.path
          content).failure = none) :
    ∃ next, first.commit tree = (next, .ok ()) := by
  refine ⟨_, commit_eq_ok_iff.2 ⟨?_, rfl⟩⟩
  unfold commitRun
  split
  · rfl
  · exact h _

/-
  What was committed after another gradebook of the same
  path could have been committed before it.
-/
theorem commit_before
    (hFirst : first.commit tree = (between, .ok ()))
    (hSecond : second.commit between = (last, .ok ()))
    (hPath : second.path = first.path)
    (hOther : other.path = second.path)
    (hChanged : other.changed = second.changed) :
    ∃ next, other.commit tree = (next, .ok ()) := by
  rcases commit_cases hFirst with hKept | ⟨hSuccess, -⟩
  · rw [hKept] at hSecond
    exact exists_commit_congr hSecond hOther hChanged
  · apply exists_commit_of_run
    intro content
    rw [hOther, hPath,
      Replacement.failure_run_eq tree first.path content _]
    exact hSuccess

/-
  What was committed in a tree can be committed after any
  other gradebook of the same path.
-/
theorem commit_after
    (hFirst : first.commit tree = (between, .ok ()))
    (hSecond : second.commit tree = (beside, .ok ()))
    (hPath : second.path = first.path)
    (hOther : other.path = first.path)
    (hChanged : other.changed = first.changed) :
    ∃ next, other.commit beside = (next, .ok ()) := by
  rcases commit_cases hSecond with hKept | ⟨hSuccess, hTree⟩
  · rw [hKept]
    exact exists_commit_congr hFirst hOther hChanged
  · apply exists_commit_of_run
    intro content
    rw [hOther, ← hPath, ← hTree]
    exact
      (Replacement.isReady_run hSuccess).failure_run content

/-
  Two commits leave the text of the second gradebook, unless
  there was a file and neither of them has changed.
-/
theorem commit_commit
    (hFirst : first.commit tree = (between, .ok ()))
    (hSecond : second.commit between = (last, .ok ()))
    (hPath : second.path = first.path)
    (hBook :
      second.changed = false → second.book = first.book) :
    (if first.changed = false ∧ second.changed = false ∧
        tree.exists? first.path = true then
      last = tree
    else
      last.readText first.path =
        .ok second.book.toText) := by
  rcases commit_eq_ok hSecond with
    ⟨⟨hUnchanged, hExists⟩, hLast⟩ | ⟨hStored, hStores⟩
  · rw [hLast]
    rcases commit_eq_ok hFirst with
      ⟨⟨hBefore, hFile⟩, hBetween⟩ | ⟨hNot, hStores⟩
    · rw [if_pos ⟨hBefore, hUnchanged, hFile⟩]
      exact hBetween
    · rw [if_neg
        (fun hKept => hNot ⟨hKept.1, hKept.2.2⟩),
        hBook hUnchanged]
      exact hStores.readText
  · rw [if_neg, ← hPath]
    · exact hStores.readText
    · rintro ⟨hBefore, hUnchanged, hFile⟩
      apply hStored
      rcases commit_eq_ok hFirst with
        ⟨-, hBetween⟩ | ⟨hNot, -⟩
      · rw [hBetween, hPath]
        exact ⟨hUnchanged, hFile⟩
      · exact absurd ⟨hBefore, hFile⟩ hNot

/-
  Two gradebooks that were committed in either order leave
  the same text, if both orders end with the same gradebook
  and what has not changed adds nothing.
-/
theorem readText_swapped
    {reached : FileTree}
    {path : String}
    {alone aside both : Gradebook}
    {firstChanged secondChanged : Bool}
    (hFirst :
      commit ⟨path, alone, firstChanged⟩ tree =
        (between, .ok ()))
    (hSecond :
      commit ⟨path, both, secondChanged⟩ between =
        (last, .ok ()))
    (hAside :
      commit ⟨path, aside, secondChanged⟩ tree =
        (beside, .ok ()))
    (hSwapped :
      commit ⟨path, both, firstChanged⟩ beside =
        (reached, .ok ()))
    (hAlone : secondChanged = false → both = alone)
    (hBeside : firstChanged = false → both = aside) :
    reached.readText path = last.readText path := by
  have hOneWay := commit_commit hFirst hSecond rfl hAlone
  have hOtherWay := commit_commit hAside hSwapped rfl hBeside
  by_cases hStill :
      firstChanged = false ∧ secondChanged = false ∧
        tree.exists? path = true
  · rw [if_pos hStill] at hOneWay
    rw [if_pos ⟨hStill.2.1, hStill.1, hStill.2.2⟩]
      at hOtherWay
    rw [hOneWay, hOtherWay]
  · rw [if_neg hStill] at hOneWay
    rw [if_neg
      (fun h => hStill ⟨h.2.1, h.1, h.2.2⟩)] at hOtherWay
    rw [hOneWay, hOtherWay]

end OpenGradebook

------------------------------------------------------------
-- Runs That Save Scores
------------------------------------------------------------

/-
  A run has saved the scores of a notebook under a key, and
  so has led from the gradebook that it opened to the one
  that it committed.
-/
structure ScoresSaved
    (extractor : ScoreExtractor)
    (path : String)
    (tree : FileTree)
    (notebook : Notebook)
    (key : String)
    (before after : Gradebook)
    (next : FileTree) : Prop where
  run_eq :
    saveScores extractor tree notebook key path =
      (next, .ok ())
  opened_eq :
    OpenGradebook.openAt tree path =
      .ok ⟨path, before, false⟩
  recorded_eq :
    ∃ changed,
      Recording.cells extractor key notebook.cells
          ⟨path, before, false⟩ =
        .ok ⟨path, after, changed⟩

section Runs

variable {extractor : ScoreExtractor}
variable {path key : String}
variable {tree next : FileTree}
variable {notebook : Notebook}
variable {before after : Gradebook}

/- An open gradebook after changes of one notebook. -/
theorem OpenGradebook.recordAll_opened
    (path : String)
    (book : Gradebook)
    (history : Gradebook.History) :
    OpenGradebook.recordAll ⟨path, book, false⟩ history =
      ⟨path, book.recordAll history, !history.isEmpty⟩ := by
  rw [recordAll_eq, Bool.false_or]

/- A run opens, records a history of its key and commits. -/
theorem scoresSaved_iff :
    ScoresSaved extractor path tree notebook key before
        after next ↔
      ∃ changed,
        OpenGradebook.openAt tree path =
            .ok ⟨path, before, false⟩ ∧
          Recording.cells extractor key notebook.cells
              ⟨path, before, false⟩ =
            .ok ⟨path, after, changed⟩ ∧
          OpenGradebook.commit ⟨path, after, changed⟩ tree =
            (next, .ok ()) := by
  constructor
  · rintro ⟨hRun, hOpened, changed, hRecorded⟩
    refine ⟨changed, hOpened, hRecorded, ?_⟩
    rcases OpenGradebook.transaction_eq_ok hRun with
      ⟨opened, worked, hOpen, hWorked, hCommit⟩
    rw [hOpened] at hOpen
    rw [← Except.ok.inj hOpen, hRecorded] at hWorked
    rw [(Prod.mk.inj (Except.ok.inj hWorked)).1]
    exact hCommit
  · rintro ⟨changed, hOpened, hRecorded, hCommit⟩
    refine ⟨?_, hOpened, changed, hRecorded⟩
    unfold saveScores OpenGradebook.transaction
    simp only [hOpened, hRecorded, hCommit]

/- Every run that succeeds has saved scores. -/
theorem exists_scoresSaved
    (h :
      saveScores extractor tree notebook key path =
        (next, .ok ())) :
    ∃ before after,
      ScoresSaved extractor path tree notebook key before
        after next := by
  rcases OpenGradebook.transaction_eq_ok h with
    ⟨opened, worked, hOpen, hWorked, -⟩
  rcases opened with ⟨openedPath, before, openedChanged⟩
  have hOpened := OpenGradebook.eq_of_openAt hOpen
  rw [hOpened] at hOpen hWorked
  cases hCells :
      Recording.cells extractor key notebook.cells
        ⟨path, before, false⟩ with
  | error e =>
      simp only [hCells] at hWorked
      cases hWorked
  | ok recorded =>
      rcases Recording.cells_inStep rfl hCells with
        ⟨-, -, history, -, hRecorded, -⟩
      rw [OpenGradebook.recordAll_opened] at hRecorded
      rw [hRecorded] at hCells
      exact ⟨before, _, h, hOpen, _, hCells⟩

/-
  What a run records is a history of its notebook, which can
  be recorded as well in any other gradebook that has the
  same record of the notebook.
-/
theorem ScoresSaved.exists_history
    (h :
      ScoresSaved extractor path tree notebook key before
        after next)
    {other : Gradebook}
    (hSame : before.notebook? key = other.notebook? key) :
    ∃ history : Gradebook.History,
      (∀ entry ∈ history, entry.1 = key) ∧
      after = before.recordAll history ∧
      OpenGradebook.commit
          ⟨path, after, !history.isEmpty⟩ tree =
        (next, .ok ()) ∧
      Recording.cells extractor key notebook.cells
          ⟨path, other, false⟩ =
        .ok
          ⟨path, other.recordAll history,
            !history.isEmpty⟩ := by
  rcases scoresSaved_iff.1 h with
    ⟨changed, -, hRecorded, hCommit⟩
  rcases
      @Recording.cells_inStep _ _ ⟨path, before, false⟩
        ⟨path, other, false⟩ _ _ hSame hRecorded
    with ⟨_, hOther, history, hAbout, hAfter, rfl⟩
  rw [OpenGradebook.recordAll_opened] at hOther hAfter
  rw [OpenGradebook.mk.injEq] at hAfter
  rcases hAfter with ⟨-, hAfter, rfl⟩
  exact ⟨history, hAbout, hAfter, hCommit, hOther⟩

/- Scored by their outputs, the cells are known to lead on. -/
theorem ScoresSaved.after_eq
    (h :
      ScoresSaved Cell.score path tree notebook key before
        after next) :
    after = before.afterCells key notebook.cells := by
  rcases h.recorded_eq with ⟨changed, hRecorded⟩
  rw [Recording.cells_score_eq] at hRecorded
  exact
    (OpenGradebook.mk.inj (Except.ok.inj hRecorded)).2.1.symm

/- A committed gradebook opens if its maximum is finite. -/
theorem ScoresSaved.openAt_eq
    (h :
      ScoresSaved Cell.score path tree notebook key before
        after next)
    (hDoubles : DoublesReadBack after.doubles)
    (hMax : (after.notebook key).maxScore.isFinite = true) :
    OpenGradebook.openAt next path =
      .ok ⟨path, after, false⟩ := by
  rcases scoresSaved_iff.1 h with
    ⟨changed, hOpened, hRecorded, hCommit⟩
  rw [openAt_of_commit hOpened hRecorded hCommit hDoubles,
    if_pos hMax]

/- After a run that recorded something, others can follow. -/
theorem ScoresSaved.exists_next
    (h :
      ScoresSaved Cell.score path tree notebook key before
        after next)
    (hAny : Cell.anyRecorded notebook.cells = true)
    (hOpens :
      OpenGradebook.openAt next path =
        .ok ⟨path, after, false⟩)
    (other : Notebook)
    (otherKey : String) :
    ∃ both last,
      ScoresSaved Cell.score path next other otherKey after
        both last := by
  rcases scoresSaved_iff.1 h with
    ⟨changed, -, hRecorded, hCommit⟩
  have hChanged := Recording.changed_cells hRecorded
  rw [Bool.false_or, hAny] at hChanged
  have hOther :=
    Recording.cells_score_eq otherKey path after other.cells
  rcases
      @OpenGradebook.commit_again _ _ _
        (OpenGradebook.afterCells ⟨path, after, false⟩
          otherKey other.cells)
        hCommit rfl (fun _ => hChanged)
    with ⟨last, hNext⟩
  exact
    ⟨_, last,
      scoresSaved_iff.2 ⟨_, hOpens, hOther, hNext⟩⟩

/- A run leaves the records of all other notebooks. -/
theorem ScoresSaved.notebook?_eq
    (h :
      ScoresSaved extractor path tree notebook key before
        after next)
    {id : String}
    (hId : key ≠ id) :
    after.notebook? id = before.notebook? id := by
  rcases h.exists_history rfl with
    ⟨history, hAbout, hAfter, -⟩
  rw [hAfter]
  apply Gradebook.notebook?_recordAll
  intro entry hMem
  rw [hAbout entry hMem]
  exact hId

/-
  Grading two notebooks under different keys into one
  gradebook commutes. When the run of the first is followed
  by one of the second, which opens what the first has
  committed, the second can also be run before the first.
  If its gradebook opens again, the run of the first on it
  succeeds, commits the same gradebook, and leaves the file
  with the same text. The records of both notebooks are
  those that their runs alone have committed.
-/
theorem ScoresSaved.in_either_order
    {first second : Notebook}
    {firstKey secondKey : String}
    {between last : FileTree}
    {alone both : Gradebook}
    (hKeys : firstKey ≠ secondKey)
    (hFirst :
      ScoresSaved extractor path tree first firstKey before
        alone between)
    (hSecond :
      ScoresSaved extractor path between second secondKey
        alone both last) :
    ∃ aside beside,
      ScoresSaved extractor path tree second secondKey
          before aside beside ∧
        both.notebook? firstKey = alone.notebook? firstKey ∧
        both.notebook? secondKey =
          aside.notebook? secondKey ∧
        (OpenGradebook.openAt beside path =
            .ok ⟨path, aside, false⟩ →
          ∃ reached,
            ScoresSaved extractor path beside first firstKey
                aside both reached ∧
              reached.readText path =
                last.readText path) := by
  -- Each notebook meets the same record in either order.
  have hKept := hFirst.notebook?_eq hKeys
  rcases hSecond.exists_history hKept with
    ⟨later, hLater, hBoth, hCommitSecond, hAside⟩
  rcases scoresSaved_iff.1 hFirst with
    ⟨_, -, -, hCommit⟩
  rcases
      @OpenGradebook.commit_before _ _ _ _ _
        ⟨path, before.recordAll later, !later.isEmpty⟩
        hCommit hCommitSecond rfl rfl rfl
    with ⟨beside, hCommitAside⟩
  have hSavedAside :
      ScoresSaved extractor path tree second secondKey
        before (before.recordAll later) beside :=
    scoresSaved_iff.2
      ⟨_, hFirst.opened_eq, hAside, hCommitAside⟩
  have hKeptAside := hSavedAside.notebook?_eq hKeys.symm
  rcases hFirst.exists_history hKeptAside.symm with
    ⟨earlier, hEarlier, hAlone, hCommitFirst, hSwapped⟩
  have hApart : earlier.Apart later := by
    intro entry hMem other hOther
    rw [hEarlier entry hMem, hLater other hOther]
    exact hKeys
  have hSame :
      (before.recordAll later).recordAll earlier = both := by
    rw [hBoth, hAlone]
    exact (Gradebook.recordAll_comm hApart).symm
  rw [hSame] at hSwapped
  refine
    ⟨before.recordAll later, beside, hSavedAside,
      hSecond.notebook?_eq hKeys.symm, ?_, ?_⟩
  · rw [hBoth]
    exact Gradebook.notebook?_recordAll_congr hKept later
  · intro hReopened
    rcases
        @OpenGradebook.commit_after _ _ _ _ _
          ⟨path, both, !earlier.isEmpty⟩ hCommitFirst
          hCommitAside rfl rfl rfl
      with ⟨reached, hCommitSwapped⟩
    refine
      ⟨reached,
        scoresSaved_iff.2
          ⟨_, hReopened, hSwapped, hCommitSwapped⟩,
        OpenGradebook.readText_swapped hCommitFirst
          hCommitSecond hCommitAside hCommitSwapped ?_ ?_⟩
    · intro hUnchanged
      have hNil : later = [] := by simpa using hUnchanged
      rw [hBoth, hNil]
      rfl
    · intro hUnchanged
      have hNil : earlier = [] := by simpa using hUnchanged
      rw [← hSame, hNil]
      rfl

end Runs

------------------------------------------------------------
-- Two Notebooks
------------------------------------------------------------

/- A notebook with one cell that is worth some points. -/
def worthOnce
    (points : Float) : Notebook :=
  Notebook.ofCells [worthCell "a" points]

/- What a first run commits where there is no file. -/
def Gradebook.afterOnce
    (key : String)
    (points : Float) : Gradebook :=
  Gradebook.empty.afterCells key (worthOnce points).cells

/- A first run starts from an empty gradebook. -/
theorem exists_scoresSaved_new
    {extractor : ScoreExtractor}
    {notebook : Notebook}
    {key : String}
    (hOk :
      (saveScores extractor FileTree.empty notebook key
        "/srv/g.json").2 = .ok ()) :
    ∃ after next,
      ScoresSaved extractor "/srv/g.json" FileTree.empty notebook
        key Gradebook.empty after next := by
  have hRun :
      saveScores extractor FileTree.empty notebook key
          "/srv/g.json" =
        (_, .ok ()) :=
    Prod.ext rfl hOk
  rcases exists_scoresSaved hRun with
    ⟨before, after, hSaved⟩
  have hOpened :
      OpenGradebook.openAt FileTree.empty "/srv/g.json" =
        .ok ⟨"/srv/g.json", Gradebook.empty, false⟩ :=
    rfl
  rw [hSaved.opened_eq] at hOpened
  have hBefore :=
    (OpenGradebook.mk.inj (Except.ok.inj hOpened)).2.1
  rw [hBefore] at hSaved
  exact ⟨after, _, hSaved⟩

/- What it commits opens if its doubles are read back. -/
theorem exists_scoresSaved_once
    {key : String}
    {points : Float}
    (hDoubles :
      DoublesReadBack
        (Gradebook.afterOnce key points).doubles)
    (hMax :
      ((Gradebook.afterOnce key points).notebook
        key).maxScore.isFinite = true)
    (hOk :
      (saveScores Cell.score FileTree.empty
        (worthOnce points) key "/srv/g.json").2 = .ok ()) :
    ∃ next,
      ScoresSaved Cell.score "/srv/g.json" FileTree.empty
          (worthOnce points) key Gradebook.empty
          (Gradebook.afterOnce key points) next ∧
        OpenGradebook.openAt next "/srv/g.json" =
          .ok
            ⟨"/srv/g.json", Gradebook.afterOnce key points,
              false⟩ := by
  rcases exists_scoresSaved_new hOk with
    ⟨after, next, hSaved⟩
  have hAfter :
      after = Gradebook.afterOnce key points :=
    hSaved.after_eq
  rw [hAfter] at hSaved
  exact ⟨next, hSaved, hSaved.openAt_eq hDoubles hMax⟩

/- Two notebooks with cells of one id, in either order. -/
theorem ScoresSaved.in_either_order_once :
    ∃ between last both,
      ScoresSaved Cell.score "/srv/g.json" FileTree.empty
          (worthOnce 1) "k" Gradebook.empty
          (Gradebook.afterOnce "k" 1) between ∧
        ScoresSaved Cell.score "/srv/g.json" between
          (worthOnce 2) "l" (Gradebook.afterOnce "k" 1) both
          last ∧
        ∃ aside beside reached,
          ScoresSaved Cell.score "/srv/g.json" FileTree.empty
              (worthOnce 2) "l" Gradebook.empty aside
              beside ∧
            ScoresSaved Cell.score "/srv/g.json" beside
              (worthOnce 1) "k" aside both reached ∧
            reached.readText "/srv/g.json" =
              last.readText "/srv/g.json" := by
  rcases
      @exists_scoresSaved_once "k" 1 (by decide +kernel)
        (by decide +kernel) rfl
    with ⟨between, hFirst, hOpens⟩
  rcases hFirst.exists_next rfl hOpens (worthOnce 2) "l"
    with ⟨both, last, hSecond⟩
  rcases
      ScoresSaved.in_either_order (by decide) hFirst hSecond
    with ⟨aside, beside, hAside, -, -, hSwap⟩
  have hAsideEq : aside = Gradebook.afterOnce "l" 2 :=
    hAside.after_eq
  rcases hSwap
      (hAside.openAt_eq
        (by
          rw [hAsideEq]
          decide +kernel)
        (by
          rw [hAsideEq]
          decide +kernel))
    with ⟨reached, hReached, hText⟩
  exact
    ⟨between, last, both, hFirst, hSecond, aside, beside,
      reached, hAside, hReached, hText⟩

end NotebookGrading
