import NotebookGrading.Gradebook.Basic

/-
  Grades and comments after a change.

  A change of one entry is seen by the lookups of its own
  grade id alone. A change of one notebook is seen by the
  lookups of that notebook alone.

  Main statements:
    * `find?_upsert_self`, `find?_upsert_ne`
    * `map_upsert`, `filter_upsert`
    * `NotebookRecord.grade?_addGrade`
    * `NotebookRecord.grade?_setManualScore`
    * `NotebookRecord.comment?_addComment`
    * `NotebookRecord.comment?_setManualComment`
    * `Gradebook.notebook_apply`
    * `Gradebook.findGrade_eq`
-/

namespace NotebookGrading

------------------------------------------------------------
-- Updated Lists
------------------------------------------------------------

section Upsert

variable {α : Type}
variable (key : α → String)
variable (id : String)
variable (change : α → α)
variable (new : α)

/- An entry is new, as before or one that has changed. -/
theorem mem_upsert
    {value : α}
    {values : List α}
    (hMem : value ∈ upsert key id change new values) :
    value = new ∨
      value ∈ values ∨
      ∃ old ∈ values, change old = value := by
  induction values with
  | nil => exact .inl (List.mem_singleton.1 hMem)
  | cons head rest ih =>
      unfold upsert at hMem
      split at hMem
      · rcases List.mem_cons.1 hMem with hHead | hRest
        · exact .inr (.inr
            ⟨head, List.mem_cons_self, hHead.symm⟩)
        · exact .inr (.inl (List.mem_cons_of_mem _ hRest))
      · rcases List.mem_cons.1 hMem with hHead | hRest
        · exact .inr (.inl (hHead ▸ List.mem_cons_self))
        · rcases ih hRest with hNew | hOld | hChanged
          · exact .inl hNew
          · exact .inr (.inl (List.mem_cons_of_mem _ hOld))
          · rcases hChanged with ⟨old, hOld, hEq⟩
            exact .inr (.inr
              ⟨old, List.mem_cons_of_mem _ hOld, hEq⟩)

/- The first entry with the key is the one that changes. -/
theorem find?_upsert_self
    (hKey : ∀ value, key value = id → key (change value) = id)
    (hNew : key new = id)
    (values : List α) :
    (upsert key id change new values).find?
        (fun value => key value == id) =
      some
        (((values.find? (fun value => key value == id)).map
          change).getD new) := by
  induction values with
  | nil => simp [upsert, hNew]
  | cons value rest ih =>
      by_cases hValue : key value = id
      · simp [upsert, hValue, hKey value hValue]
      · simp [upsert, hValue, ih]

/- Entries with other keys are found as before. -/
theorem find?_upsert_ne
    {other : String}
    (hNe : id ≠ other)
    (hKey : ∀ value, key value = id → key (change value) = id)
    (hNew : key new = id)
    (values : List α) :
    (upsert key id change new values).find?
        (fun value => key value == other) =
      values.find? (fun value => key value == other) := by
  induction values with
  | nil => simp [upsert, hNew, hNe]
  | cons value rest ih =>
      by_cases hValue : key value = id
      · simp [upsert, hValue, hKey value hValue, hNe]
      · simp only [upsert, hValue, if_false]
        rw [List.find?_cons, List.find?_cons, ih]

/- A new key goes behind those that are there. -/
theorem map_upsert
    (hKey : ∀ value, key value = id → key (change value) = id)
    (hNew : key new = id)
    (values : List α) :
    (upsert key id change new values).map key =
      if id ∈ values.map key then
        values.map key
      else
        values.map key ++ [id] := by
  induction values with
  | nil => simp [upsert, hNew]
  | cons value rest ih =>
      by_cases hValue : key value = id
      · simp [upsert, hValue, hKey value hValue]
      · have hNe : id ≠ key value := Ne.symm hValue
        by_cases hRest : id ∈ rest.map key
        · simp [upsert, hValue, ih, hRest]
        · simp [upsert, hValue, ih, hRest, hNe]

/- Entries whose keys are told apart from the id stay. -/
theorem filter_upsert
    (hKey : ∀ value, key value = id → key (change value) = id)
    (hNew : key new = id)
    {keep : String → Bool}
    (hKeep : keep id = false)
    (values : List α) :
    (upsert key id change new values).filter
        (fun value => keep (key value)) =
      values.filter (fun value => keep (key value)) := by
  induction values with
  | nil => simp [upsert, hNew, hKeep]
  | cons value rest ih =>
      by_cases hValue : key value = id
      · simp [upsert, hValue, hKey value hValue, hKeep]
      · simp [upsert, hValue, List.filter_cons, ih]

/- No key is given twice. -/
theorem nodup_upsert
    (hKey : ∀ value, key value = id → key (change value) = id)
    (hNew : key new = id)
    {values : List α}
    (hNodup : (values.map key).Nodup) :
    ((upsert key id change new values).map key).Nodup := by
  rw [map_upsert key id change new hKey hNew]
  by_cases hMem : id ∈ values.map key
  · rw [if_pos hMem]
    exact hNodup
  · rw [if_neg hMem, List.nodup_append]
    refine ⟨hNodup, by simp, ?_⟩
    intro other hOther last hLast hEq
    rw [List.mem_singleton.1 hLast] at hEq
    exact hMem (hEq ▸ hOther)

/- Among different keys an entry is found by its own. -/
theorem find?_key_of_mem
    {values : List α}
    {value : α}
    (hNodup : (values.map key).Nodup)
    (hMem : value ∈ values) :
    values.find? (fun other => key other == key value) =
      some value := by
  induction values with
  | nil => simp at hMem
  | cons head rest ih =>
      rw [List.map_cons, List.nodup_cons] at hNodup
      rcases List.mem_cons.1 hMem with hHead | hRest
      · simp [hHead]
      · have hKey : key value ∈ rest.map key :=
          List.mem_map_of_mem hRest
        have hNe : key head ≠ key value := by
          intro hEq
          exact hNodup.1 (hEq ▸ hKey)
        simp [hNe, ih hNodup.2 hRest]

end Upsert

------------------------------------------------------------
-- Entries Of A Record
------------------------------------------------------------

namespace NotebookRecord

variable (record : NotebookRecord)

/- The grade with an id, or a new one. -/
def gradeOf
    (gradeId : String) : Grade :=
  (record.grade? gradeId).getD { gradeId := gradeId }

/- The comment with an id, or a new one. -/
def commentOf
    (gradeId : String) : Comment :=
  (record.comment? gradeId).getD { gradeId := gradeId }

theorem gradeId_of_grade?
    {record : NotebookRecord}
    {gradeId : String}
    {grade : Grade}
    (h : record.grade? gradeId = some grade) :
    grade.gradeId = gradeId := by
  simpa using List.find?_some h

theorem gradeId_of_comment?
    {record : NotebookRecord}
    {gradeId : String}
    {comment : Comment}
    (h : record.comment? gradeId = some comment) :
    comment.gradeId = gradeId := by
  simpa using List.find?_some h

@[simp]
theorem gradeId_gradeOf
    (gradeId : String) :
    (record.gradeOf gradeId).gradeId = gradeId := by
  cases hGrade : record.grade? gradeId with
  | none => simp [gradeOf, hGrade]
  | some grade =>
      simp [gradeOf, hGrade, gradeId_of_grade? hGrade]

@[simp]
theorem gradeId_commentOf
    (gradeId : String) :
    (record.commentOf gradeId).gradeId = gradeId := by
  cases hComment : record.comment? gradeId with
  | none => simp [commentOf, hComment]
  | some comment =>
      simp [commentOf, hComment,
        gradeId_of_comment? hComment]

------------------------------------------------------------
-- Grades After A Change
------------------------------------------------------------

theorem grade?_addGrade
    (grade : Grade)
    (gradeId : String) :
    (record.addGrade grade).grade? gradeId =
      if grade.gradeId = gradeId then
        some
          (((record.grade? gradeId).map
            (fun old => old.update grade)).getD grade)
      else
        record.grade? gradeId := by
  by_cases hId : grade.gradeId = gradeId
  · subst hId
    rw [if_pos rfl]
    exact find?_upsert_self Grade.gradeId grade.gradeId
      (fun old => old.update grade) grade
      (fun _ _ => rfl) rfl record.grades
  · rw [if_neg hId]
    exact find?_upsert_ne Grade.gradeId grade.gradeId
      (fun old => old.update grade) grade hId
      (fun _ _ => rfl) rfl record.grades

theorem grade?_setManualScore
    (id gradeId : String)
    (score : Float) :
    (record.setManualScore id score).grade? gradeId =
      if id = gradeId then
        some
          ((record.gradeOf gradeId).withManualScore score)
      else
        record.grade? gradeId := by
  by_cases hId : id = gradeId
  · subst hId
    rw [if_pos rfl]
    have hUpsert :=
      find?_upsert_self Grade.gradeId id
        (fun old => old.withManualScore score)
        (Grade.withManualScore { gradeId := id } score)
        (fun _ h => h) rfl record.grades
    refine hUpsert.trans ?_
    rw [gradeOf, grade?]
    cases record.grades.find? (fun g => g.gradeId == id) <;>
      rfl
  · rw [if_neg hId]
    exact find?_upsert_ne Grade.gradeId id
      (fun old => old.withManualScore score)
      (Grade.withManualScore { gradeId := id } score) hId
      (fun _ h => h) rfl record.grades

/- No grade id is given twice. -/
theorem nodup_gradeIds_addGrade
    (grade : Grade)
    (h : (record.grades.map Grade.gradeId).Nodup) :
    ((record.addGrade grade).grades.map
      Grade.gradeId).Nodup :=
  nodup_upsert Grade.gradeId grade.gradeId
    (fun old => old.update grade) grade
    (fun _ _ => rfl) rfl h

------------------------------------------------------------
-- Comments After A Change
------------------------------------------------------------

theorem comment?_addComment
    (comment : Comment)
    (gradeId : String) :
    (record.addComment comment).comment? gradeId =
      if comment.gradeId = gradeId then
        some
          (((record.comment? gradeId).map
            (fun old => old.update comment)).getD comment)
      else
        record.comment? gradeId := by
  by_cases hId : comment.gradeId = gradeId
  · subst hId
    rw [if_pos rfl]
    exact find?_upsert_self Comment.gradeId comment.gradeId
      (fun old => old.update comment) comment
      (fun _ _ => rfl) rfl record.comments
  · rw [if_neg hId]
    exact find?_upsert_ne Comment.gradeId comment.gradeId
      (fun old => old.update comment) comment hId
      (fun _ _ => rfl) rfl record.comments

theorem comment?_setManualComment
    (id gradeId text : String) :
    (record.setManualComment id text).comment? gradeId =
      if id = gradeId then
        some
          ((record.commentOf gradeId).withManualComment text)
      else
        record.comment? gradeId := by
  by_cases hId : id = gradeId
  · subst hId
    rw [if_pos rfl]
    have hUpsert :=
      find?_upsert_self Comment.gradeId id
        (fun old => old.withManualComment text)
        (Comment.withManualComment { gradeId := id } text)
        (fun _ h => h) rfl record.comments
    refine hUpsert.trans ?_
    rw [commentOf, comment?]
    cases record.comments.find?
      (fun c => c.gradeId == id) <;> rfl
  · rw [if_neg hId]
    exact find?_upsert_ne Comment.gradeId id
      (fun old => old.withManualComment text)
      (Comment.withManualComment { gradeId := id } text)
      hId (fun _ h => h) rfl record.comments

end NotebookRecord

------------------------------------------------------------
-- Notebooks After A Change
------------------------------------------------------------

namespace Gradebook

variable (book : Gradebook)

@[simp]
theorem notebook?_apply_self
    (notebookId : String)
    (change : NotebookRecord.Change) :
    (book.apply notebookId change).notebook? notebookId =
      some ((book.notebook notebookId).apply change) := by
  simp [apply, notebook?]

theorem notebook?_apply_ne
    {notebookId other : String}
    (hNe : notebookId ≠ other)
    (change : NotebookRecord.Change) :
    (book.apply notebookId change).notebook? other =
      book.notebook? other :=
  book.notebooks.find?_insert_ne hNe _

theorem notebook_apply
    (notebookId other : String)
    (change : NotebookRecord.Change) :
    (book.apply notebookId change).notebook other =
      if notebookId = other then
        (book.notebook notebookId).apply change
      else
        book.notebook other := by
  by_cases hId : notebookId = other
  · subst hId
    simp [notebook]
  · simp [notebook, book.notebook?_apply_ne hId, hId]

/- A look-up goes to the record of the notebook. -/
theorem findGrade_eq
    (notebookId gradeId : String) :
    book.findGrade notebookId gradeId =
      (book.notebook notebookId).gradeOf gradeId := by
  rw [findGrade, notebook]
  cases book.notebook? notebookId <;> rfl

theorem findComment_eq
    (notebookId gradeId : String) :
    book.findComment notebookId gradeId =
      (book.notebook notebookId).commentOf gradeId := by
  rw [findComment, notebook]
  cases book.notebook? notebookId <;> rfl

end Gradebook

end NotebookGrading
