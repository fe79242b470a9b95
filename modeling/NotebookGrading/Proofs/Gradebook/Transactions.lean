import NotebookGrading.Gradebook.Store
import NotebookGrading.Proofs.Gradebook.Histories
import NotebookGrading.Proofs.Storage.Phases

/-
  Transactions on gradebooks are all or nothing.

  Work on an open gradebook looks at it, changes it, and may
  fail at any point. A transaction that fails leaves all
  files as they were, and no file more unless its temporary
  file could not be written. One that succeeds stores the
  gradebook with all changes of its work, and leaves even
  the file of the gradebook alone if there were none.

  Key definitions include:
    * `OpenGradebook.recordAll`
    * `OpenGradebook.Work`
    * `OpenGradebook.Commits`
    * `OpenGradebook.AllOrNothing`

  Main statements:
    * `OpenGradebook.Work.run_eq_ok`
    * `OpenGradebook.leavesFiles_commit`
    * `OpenGradebook.sameFiles_commit`
    * `OpenGradebook.commit_eq_ok`
    * `OpenGradebook.commits_commit`
    * `OpenGradebook.isUnderway_of_mem_commitRun`
    * `OpenGradebook.allOrNothing_transaction`
-/

namespace NotebookGrading

namespace OpenGradebook

open FileTree (SameFiles LeavesFiles Stores IsUnderway)
open Replacement (WriteFails)

------------------------------------------------------------
-- Histories Of Open Gradebooks
------------------------------------------------------------

/- An open gradebook after a history of changes. -/
def recordAll
    (opened : OpenGradebook)
    (history : Gradebook.History) : OpenGradebook :=
  history.foldl
    (fun opened entry => opened.change entry.1 entry.2)
    opened

/- Changes are remembered, and so is that there were any. -/
theorem recordAll_eq
    (opened : OpenGradebook)
    (history : Gradebook.History) :
    opened.recordAll history =
      ⟨opened.path, opened.book.recordAll history,
        opened.changed || !history.isEmpty⟩ := by
  induction history generalizing opened with
  | nil => simp [recordAll, Gradebook.recordAll]
  | cons entry rest ih =>
      have hRest := ih (opened.change entry.1 entry.2)
      simp only [recordAll, List.foldl_cons] at hRest ⊢
      rw [hRest]
      simp [change, Gradebook.recordAll]

------------------------------------------------------------
-- Work On Open Gradebooks
------------------------------------------------------------

/-
  Work on an open gradebook: it ends with a value or fails,
  and before that it looks at the gradebook and changes it
  any number of times.
-/
inductive Work (ε α : Type)
  | done (value : α)
  | fail (error : ε)
  | look (next : Gradebook → Work ε α)
  | record
      (notebookId : String)
      (change : NotebookRecord.Change)
      (next : Work ε α)

namespace Work

variable {ε α : Type}

def run :
    Work ε α → OpenGradebook →
      Except ε (OpenGradebook × α)
  | .done value, opened => .ok (opened, value)
  | .fail error, _ => .error error
  | .look next, opened => (next opened.book).run opened
  | .record notebookId change next, opened =>
      next.run (opened.change notebookId change)

/- The changes that work makes in a gradebook. -/
def history :
    Work ε α → Gradebook → Gradebook.History
  | .done _, _ => []
  | .fail _, _ => []
  | .look next, book => (next book).history book
  | .record notebookId change next, book =>
      (notebookId, change) ::
        next.history (book.apply notebookId change)

end Work

------------------------------------------------------------
-- Commits
------------------------------------------------------------

/- What storing a gradebook with its changes does. -/
structure Commits
    (tree : FileTree)
    (path : String)
    (book : Gradebook)
    (history : Gradebook.History)
    (next : FileTree) : Prop where
  kept :
    history = [] → tree.exists? path = true → next = tree
  stored :
    history ≠ [] ∨ tree.exists? path = false →
      Stores tree path
        (book.recordAll history).toText.toUTF8 next

variable {tree next : FileTree}
variable {path : String}
variable {opened : OpenGradebook}

/- A commit that fails is a replacement that has failed. -/
theorem commit_eq_error
    {error : GradebookError}
    (h : opened.commit tree = (next, .error error)) :
    ∃ failure,
      (Replacement.run tree opened.path
        opened.book.toText.toUTF8).failure = some failure ∧
      next =
        (Replacement.run tree opened.path
          opened.book.toText.toUTF8).tree := by
  unfold commit at h
  rcases Prod.mk.inj h with ⟨hTree, hResult⟩
  cases hFailure : (opened.commitRun tree).failure with
  | none =>
      rw [hFailure] at hResult
      cases hResult
  | some failure =>
      unfold commitRun at hFailure hTree
      split at hFailure
      · cases hFailure
      · rename_i hStored
        rw [if_neg hStored] at hTree
        exact ⟨failure, hFailure, hTree.symm⟩

/- A commit that fails leaves the files from before. -/
theorem leavesFiles_commit
    {error : GradebookError}
    (h : opened.commit tree = (next, .error error)) :
    LeavesFiles tree opened.path next := by
  rcases commit_eq_error h with ⟨failure, hFailure, hTree⟩
  rw [hTree]
  exact Replacement.leavesFiles_run hFailure

/- It leaves no other file if it can write at all. -/
theorem sameFiles_commit
    {error : GradebookError}
    (h : opened.commit tree = (next, .error error))
    (hWhole :
      ¬ WriteFails tree opened.path
        opened.book.toText.toUTF8) :
    SameFiles tree next := by
  rcases commit_eq_error h with ⟨failure, hFailure, hTree⟩
  rw [hTree]
  exact Replacement.sameFiles_run hFailure hWhole

/-
  A commit that succeeds leaves everything as it was if
  there is a file and nothing has changed, and stores the
  text of the gradebook otherwise.
-/
theorem commit_eq_ok
    (h : opened.commit tree = (next, .ok ())) :
    (opened.changed = false ∧
        tree.exists? opened.path = true) ∧ next = tree ∨
      ¬ (opened.changed = false ∧
          tree.exists? opened.path = true) ∧
        Stores tree opened.path opened.book.toText.toUTF8
          next := by
  unfold commit at h
  rcases Prod.mk.inj h with ⟨hTree, hResult⟩
  have hSuccess : (opened.commitRun tree).failure = none := by
    split at hResult
    · assumption
    · cases hResult
  have hGuard :
      (!opened.changed && tree.exists? opened.path) = true ↔
        opened.changed = false ∧
          tree.exists? opened.path = true := by
    simp
  rw [← hTree, ← hGuard]
  unfold commitRun at hSuccess ⊢
  split
  · rename_i hKept
    exact .inl ⟨hKept, rfl⟩
  · rename_i hStored
    rw [if_neg hStored] at hSuccess
    exact .inr ⟨hStored, Replacement.stores_run hSuccess⟩

/- Changes are stored, and nothing else is done. -/
theorem commits_commit
    {book : Gradebook}
    {history : Gradebook.History}
    (h :
      ((⟨path, book, false⟩ : OpenGradebook).recordAll
        history).commit tree = (next, .ok ())) :
    Commits tree path book history next := by
  rw [recordAll_eq, Bool.false_or] at h
  rcases commit_eq_ok h with
    ⟨⟨hUnchanged, hExists⟩, hTree⟩ | ⟨hNot, hStores⟩
  · constructor
    · intro _ _
      exact hTree
    · rintro (hChanged | hMissing)
      · simp [hChanged] at hUnchanged
      · rw [hExists] at hMissing
        cases hMissing
  · constructor
    · intro hNil hExists
      exact absurd ⟨by simp [hNil], hExists⟩ hNot
    · intro _
      exact hStores

/- While a gradebook is stored its file is whole. -/
theorem isUnderway_of_mem_commitRun
    (h : next ∈ (opened.commitRun tree).trees) :
    IsUnderway tree opened.path opened.book.toText.toUTF8
      next := by
  unfold commitRun at h
  split at h
  · have hTree := (SameFiles.refl tree).leavesFiles opened.path
    rw [List.mem_singleton.1 h]
    exact hTree.isUnderway _
  · exact (Replacement.phase_of_mem_trees h).isUnderway

------------------------------------------------------------
-- Transactions
------------------------------------------------------------

/-
  The outcome of some work at a path is all or nothing. A
  failure leaves the target and all files from before. It
  leaves everything if the gradebook cannot be opened or the
  work fails, and no file more unless it is the temporary
  file that cannot be written. A success stores the changes
  that the work makes in the gradebook at the path. While
  the gradebook is stored its file is whole.
-/
structure AllOrNothing
    {ε α : Type}
    (tree : FileTree)
    (path : String)
    (work : OpenGradebook → Except ε (OpenGradebook × α))
    (history : Gradebook → Gradebook.History)
    (outcome : FileTree × Except ε α) : Prop where
  failed :
    ∀ next error, outcome = (next, .error error) →
      LeavesFiles tree path next
  unworked :
    (∀ opened worked value,
      openAt tree path = .ok opened →
        work opened ≠ .ok (worked, value)) →
      outcome.1 = tree
  unstored :
    ∀ next error opened worked value,
      outcome = (next, .error error) →
        openAt tree path = .ok opened →
          work opened = .ok (worked, value) →
            ¬ WriteFails tree path
              worked.book.toText.toUTF8 →
              SameFiles tree next
  succeeded :
    ∀ next value, outcome = (next, .ok value) →
      ∃ opened,
        openAt tree path = .ok opened ∧
        work opened =
          .ok
            (opened.recordAll (history opened.book),
              value) ∧
        Commits tree path opened.book (history opened.book)
          next
  underway :
    ∀ opened worked value,
      openAt tree path = .ok opened →
        work opened = .ok (worked, value) →
          ∀ passed ∈ (worked.commitRun tree).trees,
            IsUnderway tree path worked.book.toText.toUTF8
              passed

/- What an opened gradebook looks like. -/
theorem eq_of_openAt
    {tree : FileTree}
    {path : String}
    {opened : OpenGradebook}
    (h : openAt tree path = .ok opened) :
    opened = ⟨path, opened.book, false⟩ := by
  unfold openAt at h
  split at h
  · cases h
  · injection h with h
    rw [← h]

section Transaction

variable {ε α : Type}
variable {wrap : GradebookError → ε}
variable {work : OpenGradebook → Except ε (OpenGradebook × α)}

/- Only a failed commit has touched any file. -/
theorem transaction_eq_error
    {error : ε}
    (h :
      transaction tree path wrap work =
        (next, .error error)) :
    next = tree ∨
      ∃ opened worked value cause,
        openAt tree path = .ok opened ∧
        work opened = .ok (worked, value) ∧
        commit worked tree = (next, .error cause) := by
  unfold transaction at h
  split at h
  · exact .inl (Prod.mk.inj h).1.symm
  · rename_i opened hOpen
    split at h
    · exact .inl (Prod.mk.inj h).1.symm
    · rename_i worked value hWorked
      split at h
      · cases (Prod.mk.inj h).2
      · rename_i reached cause hCommit
        rw [← (Prod.mk.inj h).1]
        exact
          .inr
            ⟨opened, worked, value, cause, hOpen, hWorked,
              hCommit⟩

/- Nothing is done if the work does not come to its end. -/
theorem transaction_of_unworked
    (h :
      ∀ opened worked value,
        openAt tree path = .ok opened →
          work opened ≠ .ok (worked, value)) :
    (transaction tree path wrap work).1 = tree := by
  unfold transaction
  split
  · rfl
  · rename_i opened hOpen
    split
    · rfl
    · rename_i worked value hWorked
      exact absurd hWorked (h opened worked value hOpen)

/- A success has opened, worked and committed. -/
theorem transaction_eq_ok
    {value : α}
    (h :
      transaction tree path wrap work =
        (next, .ok value)) :
    ∃ opened worked,
      openAt tree path = .ok opened ∧
      work opened = .ok (worked, value) ∧
      worked.commit tree = (next, .ok ()) := by
  unfold transaction at h
  split at h
  · cases (Prod.mk.inj h).2
  · rename_i opened hOpen
    split at h
    · cases (Prod.mk.inj h).2
    · rename_i worked result hWorked
      split at h
      · rename_i reached hCommit
        rcases Prod.mk.inj h with ⟨hTree, hValue⟩
        rw [← hTree, ← Except.ok.inj hValue]
        exact ⟨opened, worked, hOpen, hWorked, hCommit⟩
      · cases (Prod.mk.inj h).2

/-
  A transaction is all or nothing if its work does nothing
  to the gradebook but record a history of changes.
-/
theorem allOrNothing_transaction
    {history : Gradebook → Gradebook.History}
    (hWork :
      ∀ opened worked value,
        openAt tree path = .ok opened →
          work opened = .ok (worked, value) →
            worked =
              opened.recordAll (history opened.book)) :
    AllOrNothing tree path work history
      (transaction tree path wrap work) := by
  have hPath :
      ∀ opened worked value,
        openAt tree path = .ok opened →
          work opened = .ok (worked, value) →
            worked.path = path := by
    intro opened worked value hOpen hWorked
    rw [hWork opened worked value hOpen hWorked,
      recordAll_eq, eq_of_openAt hOpen]
  constructor
  case failed =>
    intro next error hError
    rcases transaction_eq_error hError with
      hTree |
        ⟨opened, worked, value, cause, hOpen, hWorked,
          hCommit⟩
    · rw [hTree]
      exact (SameFiles.refl tree).leavesFiles path
    · have hLeaves := leavesFiles_commit hCommit
      rw [hPath opened worked value hOpen hWorked]
        at hLeaves
      exact hLeaves
  case unworked => exact transaction_of_unworked
  case unstored =>
    intro next error opened worked value hError hOpen
      hWorked hWhole
    rcases transaction_eq_error hError with
      hTree |
        ⟨reopened, again, result, cause, hReopen, hAgain,
          hCommit⟩
    · rw [hTree]
      exact SameFiles.refl tree
    · rw [hOpen] at hReopen
      cases hReopen
      rw [hWorked] at hAgain
      cases hAgain
      have hSame := hPath opened worked value hOpen hWorked
      rw [← hSame] at hWhole
      exact sameFiles_commit hCommit hWhole
  case succeeded =>
    intro next value hValue
    rcases transaction_eq_ok hValue with
      ⟨opened, worked, hOpen, hWorked, hCommit⟩
    have hRecorded :=
      hWork opened worked value hOpen hWorked
    rw [hRecorded] at hWorked hCommit
    refine ⟨opened, hOpen, hWorked, commits_commit ?_⟩
    rw [← eq_of_openAt hOpen]
    exact hCommit
  case underway =>
    intro opened worked value hOpen hWorked passed hPassed
    rw [← hPath opened worked value hOpen hWorked]
    exact isUnderway_of_mem_commitRun hPassed

/- A score is stored in a directory that is not there yet. -/
example :
    let work : Work GradebookError Unit :=
      .record "n" (.setManualScore "a" 2) (.done ())
    let outcome :=
      transaction FileTree.empty "/srv/course/g.json" id
        work.run
    outcome.2 = .ok () ∧
      outcome.1.exists? "../../srv/course/g.json" = true :=
  ⟨rfl, rfl⟩

/- A full disk leaves the beginning of a temporary file. -/
example :
    let full : FileTree :=
      ⟨[],
        { FileTree.empty.surroundings with
          disruption? := fun _ => some (.brokenOff 4) }⟩
    let work : Work GradebookError Unit :=
      .record "n" (.setManualScore "a" 2) (.done ())
    let outcome := transaction full "g.json" id work.run
    outcome.1.exists? "g.json" = false ∧
      outcome.1.nodes.length = 1 :=
  ⟨rfl, rfl⟩

end Transaction

end OpenGradebook

end NotebookGrading
