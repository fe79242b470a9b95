import NotebookGrading.Notebook.Classification
import NotebookGrading.Notebook.Store
import NotebookGrading.Proofs.Json.Reader
import NotebookGrading.Proofs.Notebook.CellDocuments

/-
  Notebooks read back from their texts.

  A notebook that was read is written and read again without
  loss, except for points that are not finite, which become
  absent. Writing such a notebook a second time loses
  nothing further.

  Key definitions include:
    * `Cell.regrade`
    * `Notebook.withFinitePoints`
    * `Notebook.IsReadable`

  Main statements:
    * `Notebook.isReadable_of_ofText?`
    * `Notebook.ofDocument?_toDocument`
    * `Notebook.read?_toText`
    * `Notebook.round_trip`
-/

namespace NotebookGrading

open Json (Document IsCarried IsSpelled Reads)

------------------------------------------------------------
-- Finite Points
------------------------------------------------------------

/- What is written as null holds no doubles. -/
theorem Grading.doubles_withFinitePoints
    (grading : Grading) :
    grading.withFinitePoints.toDocument.doubles =
      grading.toDocument.doubles := by
  have hPoints :
      ((grading.points.filter Float.isFinite).map
          Document.ofFloat).toList.flatMap
            Document.doubles =
        (grading.points.map
          Document.ofFloat).toList.flatMap
            Document.doubles := by
    cases grading.points with
    | none => rfl
    | some p =>
        cases hFinite : p.isFinite <;>
          simp [Option.filter, Document.ofFloat, hFinite,
            Document.doubles]
  rw [toDocument_eq, toDocument_eq,
    ← List.append_nil (Json.present _),
    ← List.append_nil (Json.present grading.declared),
    Document.doubles_ofMembers_present,
    Document.doubles_ofMembers_present]
  simp only [declared, List.flatMap_cons, hPoints,
    withFinitePoints]

namespace Cell

/- A change of the grading metadata, if there is any. -/
def regrade
    (cell : Cell)
    (change : Grading → Grading) : Cell :=
  { cell with
    metadata :=
      { cell.metadata with
        grading := cell.metadata.grading.map change } }

theorem withFinitePoints_eq_regrade
    (cell : Cell) :
    cell.withFinitePoints =
      cell.regrade Grading.withFinitePoints :=
  rfl

/- A change that keeps the doubles keeps those of cells. -/
theorem doubles_regrade
    {change : Grading → Grading}
    (cell : Cell)
    (hDoubles :
      ∀ grading,
        (change grading).toDocument.doubles =
          grading.toDocument.doubles) :
    (cell.regrade change).toDocument.doubles =
      cell.toDocument.doubles := by
  have hGrading :
      ((cell.metadata.grading.map change).map
          Grading.toDocument).toList.flatMap
            Document.doubles =
        (cell.metadata.grading.map
          Grading.toDocument).toList.flatMap
            Document.doubles := by
    cases cell.metadata.grading with
    | none => rfl
    | some grading => simp [hDoubles grading]
  have hMetadata :
      (cell.regrade change).metadata.toDocument.doubles =
        cell.metadata.toDocument.doubles := by
    rw [CellMetadata.toDocument_eq,
      CellMetadata.toDocument_eq,
      Document.doubles_ofMembers_present,
      Document.doubles_ofMembers_present]
    simp only [CellMetadata.declared, List.flatMap_cons,
      regrade, hGrading]
  rw [toDocument_eq, toDocument_eq,
    Document.doubles_ofMembers_present,
    Document.doubles_ofMembers_present]
  simp only [declared, List.flatMap_cons,
    Option.toList_some, hMetadata]
  rfl

theorem doubles_withFinitePoints
    (cell : Cell) :
    cell.withFinitePoints.toDocument.doubles =
      cell.toDocument.doubles :=
  cell.doubles_regrade Grading.doubles_withFinitePoints

end Cell

theorem Grading.withFinitePoints_eq_self
    {grading : Grading}
    (h : ∀ p ∈ grading.points, p.isFinite) :
    grading.withFinitePoints = grading := by
  have hPoints :
      grading.points.filter Float.isFinite =
        grading.points := by
    cases hGiven : grading.points with
    | none => rfl
    | some p => simp [Option.filter, h p hGiven]
  rw [withFinitePoints, hPoints]

theorem Cell.withFinitePoints_eq_self
    {cell : Cell}
    (h : ∀ p ∈ cell.givenPoints, p.isFinite) :
    cell.withFinitePoints = cell := by
  have hGrading :
      cell.metadata.grading.map Grading.withFinitePoints =
        cell.metadata.grading := by
    cases hSome : cell.metadata.grading with
    | none => rfl
    | some grading =>
        rw [Option.map_some,
          Grading.withFinitePoints_eq_self]
        intro p hMem
        apply h p
        simpa [givenPoints, Cell.grading, hSome] using hMem
  rw [withFinitePoints, CellMetadata.withFinitePoints,
    hGrading]

/- Points that are left are finite. -/
theorem Cell.isFinite_of_withFinitePoints
    {cell : Cell}
    {p : Float}
    (h : p ∈ cell.withFinitePoints.givenPoints) :
    p.isFinite := by
  cases hSome : cell.metadata.grading with
  | none =>
      simp [givenPoints, Cell.grading, withFinitePoints,
        CellMetadata.withFinitePoints, hSome] at h
  | some grading =>
      simp [givenPoints, Cell.grading, withFinitePoints,
        CellMetadata.withFinitePoints, hSome,
        Grading.withFinitePoints] at h
      exact h.2

------------------------------------------------------------
-- Notebooks
------------------------------------------------------------

namespace Notebook

variable {notebook : Notebook}

/- A notebook without points that are not finite. -/
def withFinitePoints
    (notebook : Notebook) : Notebook :=
  { notebook with
    cells := notebook.cells.map Cell.withFinitePoints }

theorem withFinitePoints_eq_self
    (h :
      ∀ cell ∈ notebook.cells,
        ∀ p ∈ cell.givenPoints, p.isFinite) :
    notebook.withFinitePoints = notebook := by
  have hCells :
      notebook.cells.map Cell.withFinitePoints =
        notebook.cells := by
    rw [List.map_congr_left
      (fun cell hMem =>
        Cell.withFinitePoints_eq_self (h cell hMem))]
    exact List.map_id' notebook.cells
  rw [withFinitePoints, hCells]

theorem withFinitePoints_withFinitePoints
    (notebook : Notebook) :
    notebook.withFinitePoints.withFinitePoints =
      notebook.withFinitePoints := by
  apply withFinitePoints_eq_self
  intro cell hMem p hPoints
  rcases List.mem_map.1 hMem with ⟨source, -, rfl⟩
  exact Cell.isFinite_of_withFinitePoints hPoints

theorem doubles_withFinitePoints
    (notebook : Notebook) :
    notebook.withFinitePoints.toDocument.doubles =
      notebook.toDocument.doubles := by
  simp only [toDocument, Document.doubles_ofMembers,
    Document.doubles_ofList, List.flatMap_cons,
    withFinitePoints, List.flatMap_map,
    Cell.doubles_withFinitePoints]

------------------------------------------------------------
-- Reading
------------------------------------------------------------

/- What a notebook that was read holds. -/
structure IsReadable
    (notebook : Notebook) : Prop where
  cells :
    ∀ cell ∈ notebook.cells,
      cell.IsReadable (Json.nestingLimit - 1 - 1)
  metadata :
    ∀ value ∈ notebook.metadata.values,
      IsSpelled (Json.nestingLimit - 1 - 1) value

/- Where the parts of a notebook are read from. -/
theorem ofDocument?_eq_some_iff
    {document : Document} :
    ofDocument? document = some notebook ↔
      ∃ record,
        document.record? memberNames = some record ∧
        record.defaulted? "cells" []
            (Document.list?
              (Cell.ofDocument?
                (Json.nestingLimit - 1 - 1))) =
          some notebook.cells ∧
        record.defaulted? "metadata" Table.empty
            (Document.table?
              (Document.value?
                (Json.nestingLimit - 1 - 1))) =
          some notebook.metadata ∧
        record.defaulted? "nbformat" formatVersion
            Document.word? =
          some notebook.format ∧
        record.defaulted? "nbformat_minor"
            formatMinorVersion Document.word? =
          some notebook.formatMinor := by
  unfold ofDocument?
  simp only [Option.bind_eq_bind, Option.bind_eq_some_iff,
    Option.some.injEq]
  constructor
  · rintro ⟨record, hRecord, _, hCells, _, hMetadata, _,
      hFormat, _, hMinor, rfl⟩
    exact
      ⟨record, hRecord, hCells, hMetadata, hFormat, hMinor⟩
  · rintro ⟨record, hRecord, hCells, hMetadata, hFormat,
      hMinor⟩
    exact
      ⟨record, hRecord, _, hCells, _, hMetadata, _,
        hFormat, _, hMinor, rfl⟩

theorem isReadable_of_ofText?
    {text : String}
    (h : ofText? text = some notebook) :
    notebook.IsReadable := by
  rcases Option.bind_eq_some_iff.1 h with
    ⟨document, hText, hNotebook⟩
  have hDocument := Document.numbersFinite_read? hText
  rcases ofDocument?_eq_some_iff.1 hNotebook with
    ⟨record, hRecord, hCells, hMetadata, -⟩
  have hDeclared :=
    Json.Record.numbersFinite_declared hDocument hRecord
  constructor
  · exact
      Json.Record.reads_defaulted? hDeclared
        (Json.reads_list? (Cell.reads_ofDocument? _))
        (by simp) hCells
  · exact
      Json.Record.reads_defaulted? hDeclared
        (Json.reads_table? (Json.reads_value? _))
        (by
          intro value hMem
          cases hMem)
        hMetadata

------------------------------------------------------------
-- Reading Back
------------------------------------------------------------

/- The cells come back but for their points. -/
theorem list?_cells
    (h : notebook.IsReadable) :
    Document.list?
        (Cell.ofDocument? (Json.nestingLimit - 1 - 1))
        (.ofList Cell.toDocument notebook.cells) =
      some
        (notebook.cells.map Cell.withFinitePoints) := by
  apply Document.mapM_map_eq_some_map
  intro cell hMem
  exact
    Cell.ofDocument?_toDocument (by decide)
      (h.cells cell hMem)

theorem ofDocument?_toDocument
    (h : notebook.IsReadable) :
    ofDocument? notebook.toDocument =
      some notebook.withFinitePoints := by
  unfold ofDocument? toDocument
  rw [Document.record?_ofMembers (by simp [memberNames])
    (by simp)]
  simp [Json.Record.defaulted?, Json.Record.find?,
    Entries.find?, list?_cells h,
    Json.table?_tableDocument h.metadata,
    Document.word?_ofInt]
  rfl

theorem complete_toDocument
    (h : notebook.IsReadable) :
    notebook.toDocument.Complete := by
  apply Document.complete_ofMembers
  have hCells :
      (Document.ofList Cell.toDocument
        notebook.cells).Complete :=
    Document.complete_ofList
      (fun cell hMem =>
        Cell.complete_toDocument (h.cells cell hMem))
  have hMetadata :
      (Json.tableDocument notebook.metadata).Complete :=
    Document.complete_ofMembers
      (Json.complete_tableMembers h.metadata)
  simp [hCells, hMetadata, Document.complete_word]

/- The text of a notebook spells its document. -/
theorem read?_toText
    (h : notebook.IsReadable)
    (hDoubles :
      DoublesReadBack notebook.toDocument.doubles) :
    Document.read? notebook.toText =
      some notebook.toDocument :=
  Document.read?_indented
    ((complete_toDocument h).readsBack hDoubles)

/- A notebook that was read is read back from its text. -/
theorem ofText?_toText
    (h : notebook.IsReadable)
    (hDoubles :
      DoublesReadBack notebook.toDocument.doubles) :
    ofText? notebook.toText =
      some notebook.withFinitePoints := by
  rw [ofText?, read?_toText h hDoubles, Option.bind_some]
  exact ofDocument?_toDocument h

theorem ofText_eq_ok_iff
    {text : String} :
    ofText text = .ok notebook ↔
      ofText? text = some notebook := by
  unfold ofText
  cases ofText? text <;> simp

/-
  A notebook that was read from a text is written and read
  again: the second reading succeeds and gives the same
  notebook, only that points which are not finite are
  absent. It is the very same notebook when all points are
  finite, and it is not changed by being written and read
  once more.
-/
theorem round_trip
    {text : String}
    (hRead : ofText text = .ok notebook)
    (hDoubles :
      DoublesReadBack notebook.toDocument.doubles) :
    ofText notebook.toText =
        .ok notebook.withFinitePoints ∧
      ((∀ cell ∈ notebook.cells,
          ∀ p ∈ cell.givenPoints, p.isFinite) →
        ofText notebook.toText = .ok notebook) ∧
      ofText notebook.withFinitePoints.toText =
        .ok notebook.withFinitePoints := by
  have hReadable :=
    isReadable_of_ofText? (ofText_eq_ok_iff.1 hRead)
  have hBack :
      ofText? notebook.toText =
        some notebook.withFinitePoints :=
    ofText?_toText hReadable hDoubles
  have hAgain :
      ofText? notebook.withFinitePoints.toText =
        some notebook.withFinitePoints := by
    have hTwice :=
      ofText?_toText (isReadable_of_ofText? hBack)
        (by rwa [doubles_withFinitePoints])
    rwa [withFinitePoints_withFinitePoints] at hTwice
  refine
    ⟨ofText_eq_ok_iff.2 hBack, ?_,
      ofText_eq_ok_iff.2 hAgain⟩
  intro hFinite
  rw [ofText_eq_ok_iff, hBack,
    withFinitePoints_eq_self hFinite]

/-
  Two cells, one with points that are not a number, with
  texts given line by line and members that are carried
  along.
-/
def carryingText : String :=
  "\x7b\"cells\": [" ++
    "\x7b\"cell_type\": \"code\", " ++
    "\"source\": [\"a\\n\", \"b\"], \"metadata\": " ++
    "\x7b\"nbgrader\": \x7b\"points\": \"nan\"\x7d, " ++
    "\"tags\": [\"x\"]\x7d, \"outputs\": [" ++
    "\x7b\"output_type\": \"stream\", \"order\": 1, " ++
    "\"text\": [\"1\", \"2\"]\x7d]\x7d, " ++
    "\x7b\"cell_type\": \"raw\", \"metadata\": " ++
    "\x7b\"nbgrader\": \x7b\"points\": \"2.5\"\x7d\x7d, " ++
    "\"weight\": \x7b\"b\": 0.5, \"a\": 1\x7d\x7d]\x7d"

/- The points that are not a number become absent. -/
theorem round_trip_carrying :
    ∃ notebook,
      ofText carryingText = .ok notebook ∧
      DoublesReadBack notebook.toDocument.doubles ∧
      ofText notebook.toText =
        .ok notebook.withFinitePoints ∧
      (notebook.cells.map Cell.givenPoints).map
          Option.isSome = [true, true] ∧
      notebook.withFinitePoints.cells.map
          Cell.givenPoints = [none, some 2.5] := by
  have hSample :
      (ofText? carryingText).map
          (fun notebook =>
            (decide
                (DoublesReadBack
                  notebook.toDocument.doubles),
              (notebook.cells.map Cell.givenPoints).map
                Option.isSome,
              notebook.withFinitePoints.cells.map
                Cell.givenPoints)) =
        some (true, [true, true], [none, some 2.5]) := by
    decide +kernel
  rcases Option.map_eq_some_iff.1 hSample with
    ⟨notebook, hText, hFacts⟩
  rcases Prod.mk.inj hFacts with ⟨hDoubles, hPoints⟩
  rcases Prod.mk.inj hPoints with ⟨hGiven, hFinite⟩
  have hRead : ofText carryingText = .ok notebook :=
    ofText_eq_ok_iff.2 hText
  have hDoubles := of_decide_eq_true hDoubles
  exact
    ⟨notebook, hRead, hDoubles,
      (round_trip hRead hDoubles).1, hGiven, hFinite⟩

end Notebook

end NotebookGrading
