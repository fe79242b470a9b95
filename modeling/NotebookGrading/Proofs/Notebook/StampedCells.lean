import NotebookGrading.Notebook.Checksum
import NotebookGrading.Proofs.Notebook.Documents

/-
  Stamped cells that were written and read back.

  The checksum is made from the content of a cell in memory
  and compared with what is read from a file. The two are
  the same for every cell but one kind: the points of a
  grade cell take part in its checksum even if they are not
  finite, and such points are not written.

  Key definitions include:
    * `Cell.contentText`
    * `Cell.HashesWritten`
    * `Cell.StampedBack`

  Main statements:
    * `Cell.isUnchanged_stamp`
    * `Cell.stamp_eq_self_iff`
    * `Cell.checksumText_withFinitePoints`
    * `Cell.stampedBack`
    * `Notebook.stamped_reads_back`
-/

namespace NotebookGrading

open Json (Document)

------------------------------------------------------------
-- Changes Of Grading Metadata
------------------------------------------------------------

namespace Grading

/- Grading metadata with another checksum. -/
def withChecksum
    (checksum : String)
    (grading : Grading) : Grading :=
  { grading with checksum := some checksum }

/- A change that leaves what a checksum is made from. -/
structure KeepsContent
    (change : Grading → Grading) : Prop where
  grade : ∀ grading, (change grading).grade = grading.grade
  solution :
    ∀ grading, (change grading).solution = grading.solution
  locked :
    ∀ grading, (change grading).locked = grading.locked
  gradeId :
    ∀ grading, (change grading).gradeId = grading.gradeId

theorem keepsContent_withChecksum
    (checksum : String) :
    KeepsContent (withChecksum checksum) := by
  constructor <;> exact fun _ => rfl

theorem keepsContent_withFinitePoints :
    KeepsContent withFinitePoints := by
  constructor <;> exact fun _ => rfl

end Grading

namespace Cell

variable {change : Grading → Grading}

theorem stamp_eq_regrade
    (cell : Cell) :
    cell.stamp =
      cell.regrade (Grading.withChecksum cell.checksum) := by
  rcases cell with
    ⟨_, _, _, ⟨_ | grading, _, _, _⟩, _, _⟩ <;> rfl

theorem grading_regrade
    (cell : Cell) :
    (cell.regrade change).grading =
      cell.grading.map change :=
  rfl

/- A field that a change leaves is read as before. -/
theorem bind_grading_regrade
    {α : Type}
    {pick : Grading → Option α}
    (cell : Cell)
    (hKept :
      ∀ grading, pick (change grading) = pick grading) :
    (cell.regrade change).grading.bind pick =
      cell.grading.bind pick := by
  rw [grading_regrade]
  cases cell.grading with
  | none => rfl
  | some grading => exact hKept grading

/-
  The part of the checksum text before the points: what the
  cell shows and what its author says about it.
-/
def contentText
    (cell : Cell) : String :=
  cell.source ++ cell.cellType.name ++
    flagWord cell.isGrade ++ flagWord cell.isSolution ++
    flagWord cell.isLocked ++ cell.gradeId.getD ""

theorem checksumText_eq
    (cell : Cell) :
    cell.checksumText =
      cell.contentText ++ cell.pointsText :=
  rfl

theorem isGrade_regrade
    (cell : Cell)
    (h : Grading.KeepsContent change) :
    (cell.regrade change).isGrade = cell.isGrade :=
  congrArg (Option.getD · false)
    (cell.bind_grading_regrade h.grade)

theorem contentText_regrade
    (cell : Cell)
    (h : Grading.KeepsContent change) :
    (cell.regrade change).contentText =
      cell.contentText := by
  unfold contentText isGrade isSolution isLocked flag gradeId
  rw [cell.bind_grading_regrade h.grade,
    cell.bind_grading_regrade h.solution,
    cell.bind_grading_regrade h.locked,
    cell.bind_grading_regrade h.gradeId]
  rfl

------------------------------------------------------------
-- Stamping
------------------------------------------------------------

theorem isGrade_stamp
    (cell : Cell) :
    cell.stamp.isGrade = cell.isGrade := by
  rw [stamp_eq_regrade]
  exact
    cell.isGrade_regrade
      (Grading.keepsContent_withChecksum cell.checksum)

theorem givenPoints_stamp
    (cell : Cell) :
    cell.stamp.givenPoints = cell.givenPoints := by
  rw [stamp_eq_regrade]
  exact cell.bind_grading_regrade (fun _ => rfl)

/- The checksum itself takes no part in the checksum. -/
theorem checksumText_stamp
    (cell : Cell) :
    cell.stamp.checksumText = cell.checksumText := by
  have hContent :
      cell.stamp.contentText = cell.contentText := by
    rw [stamp_eq_regrade]
    exact
      cell.contentText_regrade
        (Grading.keepsContent_withChecksum cell.checksum)
  have hPoints :
      cell.stamp.pointsText = cell.pointsText := by
    unfold pointsText
    rw [isGrade_stamp, givenPoints_stamp]
  rw [checksumText_eq, hContent, hPoints, checksumText_eq]

theorem storedChecksum_stamp
    (cell : Cell) :
    cell.stamp.storedChecksum =
      cell.grading.map (fun _ => cell.checksum) := by
  unfold storedChecksum
  rw [stamp_eq_regrade, grading_regrade]
  cases cell.grading <;> rfl

theorem isUnchanged_iff
    (cell : Cell) :
    cell.isUnchanged = true ↔
      cell.storedChecksum = some cell.checksum := by
  unfold isUnchanged
  cases cell.storedChecksum <;> simp

/- A stamped cell is unchanged if it can hold a checksum. -/
theorem isUnchanged_stamp
    (cell : Cell) :
    cell.stamp.isUnchanged = cell.grading.isSome := by
  rw [Bool.eq_iff_iff, isUnchanged_iff,
    storedChecksum_stamp, checksum, checksum,
    checksumText_stamp]
  cases cell.grading <;> simp

/- Stamping changes no cell but those that have changed. -/
theorem stamp_eq_self_iff
    (cell : Cell) :
    cell.stamp = cell ↔
      (cell.grading.isSome = true →
        cell.isUnchanged = true) := by
  constructor
  · intro hStamp hSome
    rw [← hStamp, isUnchanged_stamp]
    exact hSome
  · rw [isUnchanged_iff, stamp_eq_regrade]
    rcases cell with
      ⟨_, _, _, ⟨_ | grading, _, _, _⟩, _, _⟩
    · intro _
      rfl
    · intro hUnchanged
      unfold regrade Grading.withChecksum
      simp only [Option.map_some]
      rw [← hUnchanged rfl]
      rfl

------------------------------------------------------------
-- Points That Are Not Written
------------------------------------------------------------

/-
  The points that take part in the checksum are finite, so
  they are the ones that are written.
-/
def HashesWritten
    (cell : Cell) : Prop :=
  cell.isGrade = true →
    ∀ p ∈ cell.givenPoints, p.isFinite = true

instance (cell : Cell) : Decidable cell.HashesWritten :=
  inferInstanceAs (Decidable (_ → _))

end Cell

/- What is not finite is spelled without digits. -/
theorem Double.checksum_ne_zero
    {x : Float}
    (h : x.isFinite = false) :
    Double.checksum x ≠ Double.checksum 0 := by
  have hZero : Double.checksum 0 = "0.0" := by
    decide +kernel
  rw [hZero]
  unfold checksum write
  simp only [h]
  split
  · decide
  · cases hSign : (Binary.ofFloat x).negative <;>
      simp [String.ext_iff]

namespace Cell

theorem givenPoints_withFinitePoints
    (cell : Cell) :
    cell.withFinitePoints.givenPoints =
      cell.givenPoints.filter Float.isFinite := by
  unfold givenPoints
  rw [withFinitePoints_eq_regrade, grading_regrade]
  cases cell.grading <;> rfl

theorem pointsText_withFinitePoints
    (cell : Cell) :
    cell.withFinitePoints.pointsText = cell.pointsText ↔
      cell.HashesWritten := by
  have hGrade :
      cell.withFinitePoints.isGrade = cell.isGrade :=
    cell.isGrade_regrade
      Grading.keepsContent_withFinitePoints
  unfold pointsText HashesWritten
  rw [hGrade, givenPoints_withFinitePoints]
  cases cell.isGrade with
  | false => simp
  | true =>
      cases cell.givenPoints with
      | none => simp
      | some p =>
          cases hFinite : p.isFinite with
          | true => simp [Option.filter, hFinite]
          | false =>
              simpa [Option.filter, hFinite] using
                (Double.checksum_ne_zero hFinite).symm

/- Writing leaves the content, and nearly all points. -/
theorem checksumText_withFinitePoints
    (cell : Cell) :
    cell.withFinitePoints.checksumText =
        cell.checksumText ↔
      cell.HashesWritten := by
  rw [checksumText_eq, checksumText_eq,
    withFinitePoints_eq_regrade,
    cell.contentText_regrade
      Grading.keepsContent_withFinitePoints,
    ← withFinitePoints_eq_regrade,
    ← cell.pointsText_withFinitePoints]
  exact String.append_right_inj _

theorem storedChecksum_withFinitePoints
    (cell : Cell) :
    cell.withFinitePoints.storedChecksum =
      cell.storedChecksum :=
  cell.bind_grading_regrade (fun _ => rfl)

/-
  How a stamped cell reads when it was written: unchanged,
  unless its checksum was made from points that are absent
  now. Then its checksum is made from another text, and only
  two texts of one digest could hide that.
-/
structure StampedBack
    (cell back : Cell) : Prop where
  isSome_grading :
    back.grading.isSome = cell.grading.isSome
  isUnchanged :
    cell.HashesWritten →
      back.isUnchanged = cell.grading.isSome
  stamp_eq : cell.HashesWritten → back.stamp = back
  checksumText_ne :
    ¬cell.HashesWritten →
      back.checksumText ≠ cell.checksumText
  isUnchanged_iff :
    ¬cell.HashesWritten →
      (back.isUnchanged = true ↔
        MD5.hexOfText back.checksumText =
          MD5.hexOfText cell.checksumText)

theorem hashesWritten_stamp
    (cell : Cell) :
    cell.stamp.HashesWritten ↔ cell.HashesWritten := by
  unfold HashesWritten
  rw [isGrade_stamp, givenPoints_stamp]

/- Only a cell with grading metadata can be a grade cell. -/
theorem hashesWritten_of_none
    {cell : Cell}
    (h : cell.grading = none) :
    cell.HashesWritten := by
  intro hGrade
  unfold isGrade flag at hGrade
  rw [h] at hGrade
  cases hGrade

/- Writing a stamped cell is all that may change it. -/
theorem stampedBack
    (cell : Cell) :
    cell.StampedBack cell.stamp.withFinitePoints := by
  have hStored :
      cell.stamp.withFinitePoints.storedChecksum =
        cell.grading.map (fun _ => cell.checksum) := by
    rw [storedChecksum_withFinitePoints,
      storedChecksum_stamp]
  have hText :
      cell.stamp.withFinitePoints.checksumText =
          cell.checksumText ↔
        cell.HashesWritten := by
    rw [← cell.checksumText_stamp,
      checksumText_withFinitePoints, hashesWritten_stamp]
  have hSome :
      cell.stamp.withFinitePoints.grading.isSome =
        cell.grading.isSome := by
    rw [withFinitePoints_eq_regrade, grading_regrade,
      stamp_eq_regrade, grading_regrade,
      Option.isSome_map, Option.isSome_map]
  have hUnchanged :
      cell.HashesWritten →
        cell.stamp.withFinitePoints.isUnchanged =
          cell.grading.isSome := by
    intro hWritten
    have hChecksum :
        cell.stamp.withFinitePoints.checksum =
          cell.checksum :=
      congrArg MD5.hexOfText (hText.2 hWritten)
    rw [Bool.eq_iff_iff, Cell.isUnchanged_iff, hStored,
      hChecksum]
    cases cell.grading <;> simp
  refine ⟨hSome, hUnchanged, ?_, ?_, ?_⟩
  · intro hWritten
    rw [stamp_eq_self_iff, hSome, hUnchanged hWritten]
    exact fun hGiven => hGiven
  · intro hNot hSame
    exact hNot (hText.1 hSame)
  · intro hNot
    rw [Cell.isUnchanged_iff, hStored]
    cases hGrading : cell.grading with
    | none =>
        exact absurd (hashesWritten_of_none hGrading) hNot
    | some grading =>
        rw [Option.map_some, Option.some_inj]
        exact eq_comm

end Cell

------------------------------------------------------------
-- Stamped Notebooks
------------------------------------------------------------

/- A checksum holds no doubles. -/
theorem Grading.doubles_withChecksum
    (checksum : String)
    (grading : Grading) :
    (grading.withChecksum checksum).toDocument.doubles =
      grading.toDocument.doubles := by
  have hText :
      ∀ text : Option String,
        (text.map Document.ofText).toList.flatMap
          Document.doubles = [] := by
    rintro (_ | text) <;> rfl
  rw [toDocument_eq, toDocument_eq,
    ← List.append_nil (Json.present _),
    ← List.append_nil (Json.present grading.declared),
    Document.doubles_ofMembers_present,
    Document.doubles_ofMembers_present]
  simp only [declared, List.flatMap_cons, hText,
    withChecksum]

theorem Cell.doubles_stamp
    (cell : Cell) :
    cell.stamp.toDocument.doubles =
      cell.toDocument.doubles := by
  rw [stamp_eq_regrade]
  exact
    cell.doubles_regrade
      (Grading.doubles_withChecksum cell.checksum)

/- Stamping leaves all that a cell carries along. -/
theorem Cell.IsReadable.stamp
    {depth : Nat}
    {cell : Cell}
    (h : cell.IsReadable depth) :
    cell.stamp.IsReadable depth := by
  rw [stamp_eq_regrade]
  exact ⟨h.metadata, h.outputs, h.extra⟩

namespace Notebook

variable {notebook : Notebook}

theorem doubles_stamp
    (notebook : Notebook) :
    notebook.stamp.toDocument.doubles =
      notebook.toDocument.doubles := by
  simp only [toDocument, Document.doubles_ofMembers,
    Document.doubles_ofList, List.flatMap_cons, stamp,
    List.flatMap_map, Cell.doubles_stamp]

theorem IsReadable.stamp
    (h : notebook.IsReadable) :
    notebook.stamp.IsReadable := by
  refine ⟨?_, h.metadata⟩
  intro stamped hMem
  rcases List.mem_map.1 hMem with ⟨cell, hCell, rfl⟩
  exact (h.cells cell hCell).stamp

/- A stamped notebook comes back but for its points. -/
theorem ofText_stamp_toText
    {text : String}
    (hRead : ofText text = .ok notebook)
    (hDoubles :
      DoublesReadBack notebook.toDocument.doubles) :
    ofText notebook.stamp.toText =
      .ok notebook.stamp.withFinitePoints := by
  have hReadable :=
    isReadable_of_ofText? (ofText_eq_ok_iff.1 hRead)
  rw [ofText_eq_ok_iff]
  exact
    ofText?_toText hReadable.stamp
      (by rwa [doubles_stamp])

theorem map_isUnchanged_stamp
    (notebook : Notebook) :
    notebook.stamp.cells.map Cell.isUnchanged =
      notebook.cells.map
        (fun cell => cell.grading.isSome) := by
  simp [stamp, Cell.isUnchanged_stamp]

theorem stamp_eq_self_of_cells
    (h : ∀ cell ∈ notebook.cells, cell.stamp = cell) :
    notebook.stamp = notebook := by
  have hCells :
      notebook.cells.map Cell.stamp = notebook.cells := by
    rw [List.map_congr_left h]
    exact List.map_id' notebook.cells
  rw [stamp, hCells]

/-
  A notebook that was read from a text is stamped, written
  and read again. Each of its cells with grading metadata is
  then unchanged, and stamping once more changes no cell:
  except for the grade cells whose points are not finite,
  which are taken as changed.
-/
theorem stamped_reads_back
    {text : String}
    (hRead : ofText text = .ok notebook)
    (hDoubles :
      DoublesReadBack notebook.toDocument.doubles) :
    ∃ back,
      ofText notebook.stamp.toText = .ok back ∧
        List.Forall₂ Cell.StampedBack notebook.cells
          back.cells ∧
        ((∀ cell ∈ notebook.cells, cell.HashesWritten) →
          back.stamp = back) := by
  have hCells :
      notebook.stamp.withFinitePoints.cells =
        notebook.cells.map
          (fun cell => cell.stamp.withFinitePoints) := by
    simp [withFinitePoints, stamp]
  refine
    ⟨_, ofText_stamp_toText hRead hDoubles, ?_, ?_⟩
  · rw [hCells, List.forall₂_map_right_iff,
      List.forall₂_same]
    exact fun cell _ => cell.stampedBack
  · intro hWritten
    apply stamp_eq_self_of_cells
    intro read hMem
    rw [hCells] at hMem
    rcases List.mem_map.1 hMem with ⟨cell, hCell, rfl⟩
    exact cell.stampedBack.stamp_eq (hWritten cell hCell)

/- A grade cell, given its points as they are spelled. -/
def gradeCellText
    (points : String) : String :=
  "\x7b\"cells\": [\x7b\"cell_type\": \"code\", " ++
    "\"source\": [\"a\\n\", \"b\"], \"metadata\": " ++
    "\x7b\"nbgrader\": \x7b\"grade\": true, " ++
    "\"grade_id\": \"g\", \"points\": " ++ points ++
    "\x7d\x7d, \"outputs\": []\x7d]\x7d"

/- Points that a text spells are as good as a number. -/
theorem stamped_reads_back_spelled :
    ∃ notebook back,
      ofText (gradeCellText "\" 2.5\"") = .ok notebook ∧
      DoublesReadBack notebook.toDocument.doubles ∧
      ofText notebook.stamp.toText = .ok back ∧
      back.stamp = back ∧
      notebook.cells.map Cell.isUnchanged = [false] ∧
      back.cells.map Cell.isUnchanged = [true] := by
  have hSample :
      (ofText? (gradeCellText "\" 2.5\"")).map
          (fun notebook =>
            (decide
                (DoublesReadBack
                  notebook.toDocument.doubles),
              decide
                (∀ cell ∈ notebook.cells,
                  cell.HashesWritten),
              notebook.cells.map Cell.isUnchanged,
              notebook.cells.map
                (fun cell => cell.grading.isSome))) =
        some (true, true, [false], [true]) := by
    decide +kernel
  rcases Option.map_eq_some_iff.1 hSample with
    ⟨notebook, hText, hFacts⟩
  rcases Prod.mk.inj hFacts with ⟨hDoubles, hFacts⟩
  rcases Prod.mk.inj hFacts with ⟨hWritten, hFacts⟩
  rcases Prod.mk.inj hFacts with ⟨hBefore, hGraded⟩
  have hDoubles := of_decide_eq_true hDoubles
  have hWritten := of_decide_eq_true hWritten
  have hRead := ofText_eq_ok_iff.2 hText
  rcases stamped_reads_back hRead hDoubles with
    ⟨back, hBack, hCells, hStamp⟩
  refine
    ⟨notebook, back, hRead, hDoubles, hBack,
      hStamp hWritten, hBefore, ?_⟩
  rcases List.map_eq_singleton_iff.1 hGraded with
    ⟨cell, hCell, hSome⟩
  rw [hCell] at hCells hWritten
  rcases List.forall₂_cons_left_iff.1 hCells with
    ⟨read, rest, hStamped, hNil, hReads⟩
  rw [hReads, List.forall₂_nil_left_iff.1 hNil,
    List.map_singleton,
    hStamped.isUnchanged (hWritten cell (by simp)), hSome]

/-
  Points that are infinite take part in the checksum that is
  stored, but are not stored themselves, so the stored cell
  is taken as changed.
-/
theorem stamped_reads_back_changed :
    ∃ notebook back,
      ofText (gradeCellText "\"inf\"") = .ok notebook ∧
      DoublesReadBack notebook.toDocument.doubles ∧
      notebook.stamp.cells.map Cell.isUnchanged = [true] ∧
      ofText notebook.stamp.toText = .ok back ∧
      back.cells.map (fun cell => cell.grading.isSome) =
        [true] ∧
      back.cells.map Cell.isUnchanged = [false] ∧
      back.stamp ≠ back := by
  have hSample :
      (ofText? (gradeCellText "\"inf\"")).map
          (fun notebook =>
            (decide
                (DoublesReadBack
                  notebook.toDocument.doubles),
              notebook.stamp.cells.map Cell.isUnchanged,
              notebook.stamp.withFinitePoints.cells.map
                (fun cell => cell.grading.isSome),
              notebook.stamp.withFinitePoints.cells.map
                Cell.isUnchanged)) =
        some (true, [true], [true], [false]) := by
    decide +kernel
  rcases Option.map_eq_some_iff.1 hSample with
    ⟨notebook, hText, hFacts⟩
  rcases Prod.mk.inj hFacts with ⟨hDoubles, hFacts⟩
  rcases Prod.mk.inj hFacts with ⟨hStamped, hFacts⟩
  rcases Prod.mk.inj hFacts with ⟨hGraded, hChanged⟩
  have hDoubles := of_decide_eq_true hDoubles
  have hRead := ofText_eq_ok_iff.2 hText
  refine
    ⟨notebook, _, hRead, hDoubles, hStamped,
      ofText_stamp_toText hRead hDoubles, hGraded,
      hChanged, ?_⟩
  intro hSame
  rw [← hSame, map_isUnchanged_stamp, hGraded] at hChanged
  cases hChanged

end Notebook

end NotebookGrading
