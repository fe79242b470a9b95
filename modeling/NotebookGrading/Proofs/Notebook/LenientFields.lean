import NotebookGrading.Notebook.Store
import NotebookGrading.Proofs.Json.Replacements
import NotebookGrading.Proofs.Notebook.UnknownKeys

/-
  Fields of cell metadata that are read leniently.

  Grading metadata, the front end's flags and each field
  inside the grading metadata take any value whatsoever. A
  value that a field does not take leaves it absent, and no
  value that is put there makes a difference to any other
  field or to any other cell.

  Key definitions include:
    * `GradingField`
    * `MetadataField`
    * `MetadataField.set`
    * `MetadataField.Takes`
    * `Notebook.CellPlace`

  Main statements:
    * `GradingField.isAbsent_set_iff`
    * `MetadataField.isAbsent_set_iff`
    * `CellMetadata.ofDocument?_put`
    * `Cell.ofDocument?_put`
    * `Notebook.lenient_fields`
-/

namespace NotebookGrading

open Json (Document)
open Json.Document (Put Step at? step?)

------------------------------------------------------------
-- Fields Of Grading Metadata
------------------------------------------------------------

/- The fields of grading metadata. -/
inductive GradingField
  | gradeId
  | grade
  | solution
  | locked
  | task
  | checksum
  | points
  | schemaVersion
  | cellType
deriving DecidableEq, Repr

namespace GradingField

/- The key under which a field is written. -/
def key : GradingField → String
  | .gradeId => "grade_id"
  | .grade => "grade"
  | .solution => "solution"
  | .locked => "locked"
  | .task => "task"
  | .checksum => "checksum"
  | .points => "points"
  | .schemaVersion => "schema_version"
  | .cellType => "cell_type"

/- Set one field to what a value is read as. -/
def set
    (field : GradingField)
    (value : Json)
    (grading : Grading) : Grading :=
  match field with
  | .gradeId => { grading with gradeId := Json.text? value }
  | .grade => { grading with grade := Json.bool? value }
  | .solution =>
      { grading with solution := Json.bool? value }
  | .locked => { grading with locked := Json.bool? value }
  | .task => { grading with task := Json.bool? value }
  | .checksum =>
      { grading with checksum := Json.text? value }
  | .points => { grading with points := Json.points? value }
  | .schemaVersion =>
      { grading with schemaVersion := Json.word? value }
  | .cellType =>
      { grading with cellType := Json.cellType? value }

def IsAbsent
    (field : GradingField)
    (grading : Grading) : Prop :=
  match field with
  | .gradeId => grading.gradeId = none
  | .grade => grading.grade = none
  | .solution => grading.solution = none
  | .locked => grading.locked = none
  | .task => grading.task = none
  | .checksum => grading.checksum = none
  | .points => grading.points = none
  | .schemaVersion => grading.schemaVersion = none
  | .cellType => grading.cellType = none

/-
  The values of the type of a field. Points may be given as
  a number or as a text that spells one.
-/
def Takes
    (field : GradingField)
    (value : Json) : Prop :=
  match field with
  | .gradeId | .checksum => ∃ text, value = .string text
  | .grade | .solution | .locked | .task =>
      ∃ flag, value = .bool flag
  | .points =>
      (∃ number, value = .number number) ∨
        ∃ text points,
          value = .string text ∧
            Double.ofText? (Text.trim text) = some points
  | .schemaVersion =>
      ∃ word : UInt32,
        value = .number (.whole word.toNat)
  | .cellType =>
      ∃ cellType : CellType,
        value = .string cellType.name ∨
          value = .object [(cellType.name, .null)]

end GradingField

------------------------------------------------------------
-- Values That Are Not Taken
------------------------------------------------------------

namespace Json

/- What has a value is read by its content. -/
theorem Document.lenient?_of_value?
    {α : Type}
    {depth : Nat}
    {item : Document}
    {value : Json}
    {read? : Json → Option α}
    (h : item.value? depth = some value) :
    item.lenient? depth read? = some (read? value) := by
  rw [lenient?, h, Option.map_some]

theorem text?_eq_none_iff
    {value : Json} :
    value.text? = none ↔ ¬∃ text, value = .string text := by
  cases value <;> simp [text?]

theorem bool?_eq_none_iff
    {value : Json} :
    value.bool? = none ↔ ¬∃ flag, value = .bool flag := by
  cases value <;> simp [bool?]

theorem points?_eq_none_iff
    {value : Json} :
    value.points? = none ↔
      ¬GradingField.points.Takes value := by
  cases value <;>
    simp [points?, GradingField.Takes,
      Option.eq_none_iff_forall_ne_some]

theorem word?_eq_none_iff
    {value : Json} :
    value.word? = none ↔
      ¬GradingField.schemaVersion.Takes value := by
  constructor
  · rintro hNone ⟨word, rfl⟩
    rw [word?_whole] at hNone
    cases hNone
  · intro hNot
    unfold word?
    split
    · rename_i number
      rw [if_neg]
      intro hBounds
      simp only [Bool.and_eq_true, decide_eq_true_eq]
        at hBounds
      apply hNot
      refine ⟨UInt32.ofNat number.toNat, ?_⟩
      rw [UInt32.toNat_ofNat_of_lt'
        (by simp only [UInt32.size]; omega)]
      rw [Int.toNat_of_nonneg hBounds.1]
    · rfl

end Json

theorem CellType.ofName?_eq_some_iff
    {name : String}
    {cellType : CellType} :
    ofName? name = some cellType ↔
      name = cellType.name := by
  constructor
  · intro h
    unfold ofName? at h
    split at h <;> cases h <;> rfl
  · rintro rfl
    exact cellType.ofName?_name

theorem Json.cellType?_eq_none_iff
    {value : Json} :
    value.cellType? = none ↔
      ¬GradingField.cellType.Takes value := by
  unfold cellType? GradingField.Takes
  split
  · simp [Option.eq_none_iff_forall_ne_some,
      CellType.ofName?_eq_some_iff]
  · simp [Option.eq_none_iff_forall_ne_some,
      CellType.ofName?_eq_some_iff]
  · rename_i hText hObject
    simp only [true_iff, not_exists, not_or]
    exact
      fun cellType =>
        ⟨hText cellType.name, hObject cellType.name⟩

namespace GradingField

/- A field stays absent for all values of other types. -/
theorem isAbsent_set_iff
    (field : GradingField)
    (value : Json)
    (grading : Grading) :
    field.IsAbsent (field.set value grading) ↔
      ¬field.Takes value := by
  cases field with
  | gradeId => exact Json.text?_eq_none_iff
  | checksum => exact Json.text?_eq_none_iff
  | grade => exact Json.bool?_eq_none_iff
  | solution => exact Json.bool?_eq_none_iff
  | locked => exact Json.bool?_eq_none_iff
  | task => exact Json.bool?_eq_none_iff
  | points => exact Json.points?_eq_none_iff
  | schemaVersion => exact Json.word?_eq_none_iff
  | cellType => exact Json.cellType?_eq_none_iff

/- What changes if one member leads to another value. -/
theorem ofMembers_eq
    {find? changed? : String → Option Json}
    {value : Json}
    (field : GradingField)
    (hOwn : changed? field.key = some value)
    (hOthers :
      ∀ other, other ≠ field.key →
        changed? other = find? other) :
    Grading.ofMembers changed? =
      field.set value (Grading.ofMembers find?) := by
  cases field <;>
    simp only [key] at hOwn hOthers <;>
      simp [Grading.ofMembers, set, hOwn, hOthers]

end GradingField

------------------------------------------------------------
-- Objects That Hold Grading Metadata
------------------------------------------------------------

/- A field is put into the object that holds the others. -/
theorem Grading.exists_value_put
    {field : GradingField}
    {item given changed : Document}
    {value before : Json}
    {grading : Grading}
    {depth : Nat}
    (hGiven : given.value? (depth + 1) = some before)
    (hGrading : ofValue? before = some grading)
    (hPut : Put item [.key field.key] given changed)
    (hItem : item.value? depth = some value) :
    ∃ after,
      changed.value? (depth + 1) = some after ∧
        ofValue? after = some (field.set value grading) := by
  cases hPut with
  | member hReplaces hPart =>
      cases hPart
      rcases Document.exists_object_of_value? hGiven with
        ⟨entries, rfl⟩
      rcases Document.exists_value_of_replaces hGiven hItem
          hReplaces
        with ⟨members, hValue, hOwn, hOthers⟩
      refine ⟨_, hValue, ?_⟩
      cases hGrading
      exact congrArg some (field.ofMembers_eq hOwn hOthers)

/- Grading metadata that a field can be put in. -/
theorem Grading.exists_value_of_put
    {item part : Document}
    {name : String}
    {rest : List Step}
    {record : Json.Record}
    {grading : Option Grading}
    {depth : Nat}
    (hGrading :
      record.defaulted? "nbgrader" none
          (Document.lenient? (depth + 1) ofValue?) =
        some grading)
    (hPut :
      Put item (.key name :: rest)
        ((record.find? "nbgrader").getD (.object [])) part) :
    ∃ before,
      ((record.find? "nbgrader").getD
            (.object [])).value? (depth + 1) =
          some before ∧
        ofValue? before = some (grading.getD {}) := by
  cases hFind : record.find? "nbgrader" with
  | none =>
      rw [Json.Record.defaulted?, hFind] at hGrading
      cases hGrading
      exact ⟨.object [], rfl, rfl⟩
  | some document =>
      rw [Json.Record.defaulted?_of_find? hFind] at hGrading
      rw [hFind] at hPut
      -- Only an object has members under keys.
      cases document with
      | object members =>
          rcases Option.map_eq_some_iff.1 hGrading with
            ⟨before, hValue, rfl⟩
          refine ⟨before, hValue, ?_⟩
          rcases Document.exists_object_of_value? hValue
            with ⟨entries, rfl⟩
          rfl
      | _ => cases hPut

/- Any value in a field leaves grading metadata readable. -/
theorem Grading.lenient?_put
    {field : GradingField}
    {item part : Document}
    {value : Json}
    {record : Json.Record}
    {grading : Option Grading}
    {depth : Nat}
    (hGrading :
      record.defaulted? "nbgrader" none
          (Document.lenient? (depth + 1) ofValue?) =
        some grading)
    (hPut :
      Put item [.key field.key]
        ((record.find? "nbgrader").getD (.object [])) part)
    (hItem : item.value? depth = some value) :
    Document.lenient? (depth + 1) ofValue? part =
      some (some (field.set value (grading.getD {}))) := by
  rcases exists_value_of_put hGrading hPut with
    ⟨before, hBefore, hOld⟩
  rcases exists_value_put hBefore hOld hPut hItem with
    ⟨after, hAfter, hSet⟩
  rw [Document.lenient?, hAfter, Option.map_some, hSet]

------------------------------------------------------------
-- Fields Of Cell Metadata
------------------------------------------------------------

/- The fields of metadata that are read leniently. -/
inductive MetadataField
  | grading
  | deletable
  | editable
  | inside (field : GradingField)
deriving DecidableEq, Repr

namespace MetadataField

/- Where a field stands in metadata. -/
def place : MetadataField → List Step
  | .grading => [.key "nbgrader"]
  | .deletable => [.key "deletable"]
  | .editable => [.key "editable"]
  | .inside field => [.key "nbgrader", .key field.key]

/-
  Set one field to what a value is read as. Grading metadata
  that is absent starts without any fields.
-/
def set
    (field : MetadataField)
    (value : Json)
    (metadata : CellMetadata) : CellMetadata :=
  match field with
  | .grading =>
      { metadata with grading := Grading.ofValue? value }
  | .deletable =>
      { metadata with deletable := Json.bool? value }
  | .editable =>
      { metadata with editable := Json.bool? value }
  | .inside field =>
      { metadata with
        grading :=
          some
            (field.set value
              (metadata.grading.getD {})) }

def IsAbsent
    (field : MetadataField)
    (metadata : CellMetadata) : Prop :=
  match field with
  | .grading => metadata.grading = none
  | .deletable => metadata.deletable = none
  | .editable => metadata.editable = none
  | .inside field =>
      ∀ grading ∈ metadata.grading, field.IsAbsent grading

/-
  The values of the type of a field. Grading metadata may
  also be given by the positions of its fields.
-/
def Takes
    (field : MetadataField)
    (value : Json) : Prop :=
  match field with
  | .grading =>
      (∃ members, value = .object members) ∨
        ∃ items, value = .array items ∧ items.length ≤ 9
  | .deletable | .editable => ∃ flag, value = .bool flag
  | .inside field => field.Takes value

theorem isAbsent_set_iff
    (field : MetadataField)
    (value : Json)
    (metadata : CellMetadata) :
    field.IsAbsent (field.set value metadata) ↔
      ¬field.Takes value := by
  cases field with
  | grading =>
      unfold IsAbsent set Takes Grading.ofValue?
      cases value <;> simp [Grading.memberNames]
  | deletable => exact Json.bool?_eq_none_iff
  | editable => exact Json.bool?_eq_none_iff
  | inside field =>
      rw [IsAbsent, set, Takes,
        ← field.isAbsent_set_iff value
          (metadata.grading.getD {})]
      simp

end MetadataField

namespace CellMetadata

variable {depth : Nat}
variable {metadata : CellMetadata}
variable {field : MetadataField}
variable {item given changed : Document}
variable {value : Json}

/- Any value in a field leaves the other fields alone. -/
theorem ofDocument?_put
    (hRead : ofDocument? depth given = some metadata)
    (hPut : Put item field.place given changed)
    (hItem :
      item.value? (depth - field.place.length) =
        some value)
    (hDepth : 1 < depth) :
    ofDocument? depth changed =
      some (field.set value metadata) := by
  rcases ofDocument?_eq_some_iff.1 hRead with
    ⟨record, hRecord, hGrading, hDeletable, hEditable,
      hExtra⟩
  rcases Nat.exists_eq_add_of_le' hDepth with ⟨inner, rfl⟩
  rw [ofDocument?_eq_some_iff]
  -- The member of the field is read from what was put there,
  -- all others from the same documents as before.
  cases field with
  | grading =>
      rcases hPut.exists_record hRecord (by decide) with
        ⟨part, after, hPart, hAfter, hDiffers⟩
      cases hPart
      exact
        ⟨after, hAfter,
          hDiffers.defaulted?_self.trans
            (Document.lenient?_of_value? hItem),
          (hDiffers.defaulted?_of_ne (by decide)).trans
            hDeletable,
          (hDiffers.defaulted?_of_ne (by decide)).trans
            hEditable,
          (hDiffers.extra?_eq _).trans hExtra⟩
  | deletable =>
      rcases hPut.exists_record hRecord (by decide) with
        ⟨part, after, hPart, hAfter, hDiffers⟩
      cases hPart
      exact
        ⟨after, hAfter,
          (hDiffers.defaulted?_of_ne (by decide)).trans
            hGrading,
          hDiffers.defaulted?_self.trans
            (Document.lenient?_of_value? hItem),
          (hDiffers.defaulted?_of_ne (by decide)).trans
            hEditable,
          (hDiffers.extra?_eq _).trans hExtra⟩
  | editable =>
      rcases hPut.exists_record hRecord (by decide) with
        ⟨part, after, hPart, hAfter, hDiffers⟩
      cases hPart
      exact
        ⟨after, hAfter,
          (hDiffers.defaulted?_of_ne (by decide)).trans
            hGrading,
          (hDiffers.defaulted?_of_ne (by decide)).trans
            hDeletable,
          hDiffers.defaulted?_self.trans
            (Document.lenient?_of_value? hItem),
          (hDiffers.extra?_eq _).trans hExtra⟩
  | inside field =>
      rcases hPut.exists_record hRecord (by decide) with
        ⟨part, after, hPart, hAfter, hDiffers⟩
      exact
        ⟨after, hAfter,
          hDiffers.defaulted?_self.trans
            (Grading.lenient?_put hGrading hPart hItem),
          (hDiffers.defaulted?_of_ne (by decide)).trans
            hDeletable,
          (hDiffers.defaulted?_of_ne (by decide)).trans
            hEditable,
          (hDiffers.extra?_eq _).trans hExtra⟩

end CellMetadata

/- An object holds grading metadata, whatever is in it. -/
theorem CellMetadata.isSome_grading
    {depth : Nat}
    {metadata : CellMetadata}
    {given : Document}
    {members : List (Option String × Document)}
    (hRead : ofDocument? depth given = some metadata)
    (hObject :
      step? (.key "nbgrader") given =
        some (.object members)) :
    metadata.grading.isSome = true := by
  rcases ofDocument?_eq_some_iff.1 hRead with
    ⟨record, hRecord, hGrading, -⟩
  rw [Document.step?_of_mem hRecord (by decide)] at hObject
  rw [Json.Record.defaulted?_of_find? hObject] at hGrading
  rcases Option.map_eq_some_iff.1 hGrading with
    ⟨value, hValue, hSome⟩
  rcases Document.exists_object_of_value? hValue with
    ⟨entries, rfl⟩
  rw [← hSome]
  rfl

------------------------------------------------------------
-- Cells And Notebooks
------------------------------------------------------------

theorem Cell.isSome_grading
    {depth : Nat}
    {cell : Cell}
    {given : Document}
    {members : List (Option String × Document)}
    (hRead : ofDocument? depth given = some cell)
    (hObject :
      at? [.key "metadata", .key "nbgrader"] given =
        some (.object members)) :
    cell.metadata.grading.isSome = true := by
  rcases ofDocument?_eq_some_iff.1 hRead with
    ⟨record, hRecord, -, -, -, hMetadata, -⟩
  rcases Option.bind_eq_some_iff.1 hObject with
    ⟨document, hStep, hNext⟩
  rw [Document.at?_single] at hNext
  rw [Document.step?_of_mem hRecord (by decide)] at hStep
  rw [Json.Record.defaulted?_of_find? hStep] at hMetadata
  exact CellMetadata.isSome_grading hMetadata hNext

/- Metadata that is absent is metadata without members. -/
theorem Cell.ofDocument?_put
    {depth : Nat}
    {cell : Cell}
    {field : MetadataField}
    {item given changed : Document}
    {value : Json}
    (hRead : ofDocument? depth given = some cell)
    (hPut :
      Put item (.key "metadata" :: field.place) given
        changed)
    (hItem :
      item.value? (depth - 1 - field.place.length) =
        some value)
    (hDepth : 2 < depth) :
    ofDocument? depth changed =
      some
        { cell with
          metadata := field.set value cell.metadata } := by
  rcases ofDocument?_eq_some_iff.1 hRead with
    ⟨record, hRecord, hType, hId, hSource, hMetadata,
      hOutputs, hExtra⟩
  rcases hPut.exists_record hRecord (by decide) with
    ⟨part, after, hPart, hAfter, hDiffers⟩
  have hOld := Json.Record.read?_getD hMetadata rfl
  have hNew :=
    CellMetadata.ofDocument?_put hOld hPart hItem (by omega)
  rw [ofDocument?_eq_some_iff]
  refine ⟨after, hAfter, ?_, ?_, ?_, ?_, ?_, ?_⟩
  · rwa [hDiffers.required?_of_ne (by decide)]
  · rwa [hDiffers.defaulted?_of_ne (by decide)]
  · rwa [hDiffers.defaulted?_of_ne (by decide)]
  · rwa [hDiffers.defaulted?_self]
  · rwa [hDiffers.defaulted?_of_ne (by decide)]
  · rwa [hDiffers.extra?_eq]

namespace Notebook

/-
  The place of a cell in a document: the cells of a notebook
  have a name, or stand first.
-/
inductive CellPlace
    (index : Nat) : List Step → Prop
  | named : CellPlace index (cellPlace index)
  | positional : CellPlace index [.index 0, .index index]

variable {notebook : Notebook}
variable {document changed item : Document}

/- A cell is read from the document at its place. -/
theorem ofDocument?_of_place
    {index : Nat}
    {place : List Step}
    {part : Document}
    (hRead : ofDocument? document = some notebook)
    (hPlace : CellPlace index place)
    (hPart : at? place document = some part) :
    ∃ cell,
      notebook.cells[index]? = some cell ∧
        Cell.ofDocument? (Json.nestingLimit - 1 - 1) part =
          some cell := by
  cases hPlace with
  | named =>
      rcases exists_cell_at? hRead hPart with
        ⟨cell, hCell, hCellRead, -⟩
      exact ⟨cell, hCell, hCellRead⟩
  | positional =>
      rcases ofDocument?_eq_some_iff.1 hRead with
        ⟨record, hRecord, hCells, -⟩
      rcases Option.bind_eq_some_iff.1 hPart with
        ⟨list, hList, hItem⟩
      rw [Document.at?_single] at hItem
      -- Only an array has items under indices.
      cases document with
      | array items =>
          have hFind := Document.find?_of_first hRecord
          rw [show items[0]? = some list from hList]
            at hFind
          rw [Json.Record.defaulted?_of_find? hFind]
            at hCells
          exact Document.exists_of_list? hCells hItem
      | _ => cases hList

/- Where a cell is replaced, the list of cells stands. -/
theorem exists_record_put
    {index : Nat}
    {place rest : List Step}
    {record : Json.Record}
    (hRecord : document.record? memberNames = some record)
    (hPlace : CellPlace index place)
    (hPut : Put item (place ++ rest) document changed) :
    ∃ old part after,
      record.find? "cells" = some old ∧
        Put item (.index index :: rest) old part ∧
        changed.record? memberNames = some after ∧
        Json.Record.DiffersAt "cells" part record after := by
  cases hPlace with
  | named =>
      -- Only an object has members under keys.
      cases document with
      | object members =>
          have hOpen :
              (Document.object members).objectRecord?
                  memberNames = some record :=
            hRecord
          rcases hPut.exists_record hOpen (by decide) with
            ⟨part, after, hPart, hAfter, hDiffers⟩
          cases hFind : record.find? "cells" with
          | none =>
              rw [hFind] at hPart
              cases hPart
          | some old =>
              rw [hFind] at hPart
              exact
                ⟨old, part, after, rfl, hPart,
                  Document.record?_of_objectRecord? hAfter,
                  hDiffers⟩
      | _ => cases hPut
  | positional => exact hPut.exists_record_of_first hRecord

theorem exists_cell_put
    {index : Nat}
    {place rest : List Step}
    (hRead : ofDocument? document = some notebook)
    (hPlace : CellPlace index place)
    (hPut : Put item (place ++ rest) document changed) :
    ∃ old part cell,
      Put item rest old part ∧
        Cell.ofDocument? (Json.nestingLimit - 1 - 1) old =
          some cell ∧
        notebook.cells[index]? = some cell ∧
        ∀ other,
          Cell.ofDocument? (Json.nestingLimit - 1 - 1)
              part = some other →
            ofDocument? changed =
              some
                { notebook with
                  cells :=
                    notebook.cells.set index other } := by
  rcases ofDocument?_eq_some_iff.1 hRead with
    ⟨record, hRecord, hCells, hMetadata, hFormat, hMinor⟩
  rcases exists_record_put hRecord hPlace hPut with
    ⟨list, changedList, after, hFind, hList, hAfter,
      hDiffers⟩
  rw [Json.Record.defaulted?_of_find? hFind] at hCells
  rcases hList.exists_list hCells with
    ⟨old, part, cell, hPart, hCell, hIndex, hSet⟩
  refine ⟨old, part, cell, hPart, hCell, hIndex, ?_⟩
  intro other hOther
  rw [ofDocument?_eq_some_iff]
  refine ⟨after, hAfter, ?_, ?_, ?_, ?_⟩
  · rw [hDiffers.defaulted?_self]
    exact hSet other hOther
  · rwa [hDiffers.defaulted?_of_ne (by decide)]
  · rwa [hDiffers.defaulted?_of_ne (by decide)]
  · rwa [hDiffers.defaulted?_of_ne (by decide)]

/-
  Malformed metadata never makes a notebook unreadable and
  never spills over. Put any value in the place of a lenient
  field of any cell of a document that holds a notebook. The
  document that results holds the same notebook but for that
  field of that cell, which is absent exactly when the value
  is not of the type of the field.
-/
theorem lenient_fields
    {index : Nat}
    {place : List Step}
    {field : MetadataField}
    {value : Json}
    (hRead : ofDocument? document = some notebook)
    (hPlace : CellPlace index place)
    (hPut :
      Put item (place ++ .key "metadata" :: field.place)
        document changed)
    (hItem :
      item.value?
          (Json.nestingLimit -
            (place ++
              .key "metadata" :: field.place).length) =
        some value) :
    ∃ cell after,
      notebook.cells[index]? = some cell ∧
        after =
          { notebook with
            cells :=
              notebook.cells.set index
                { cell with
                  metadata :=
                    field.set value cell.metadata } } ∧
        ofDocument? changed = some after ∧
        (∀ text,
          Document.read? text = some changed →
            ofText text = .ok after) ∧
        (field.IsAbsent (field.set value cell.metadata) ↔
          ¬field.Takes value) ∧
        ∀ members,
          at?
              (place ++
                [.key "metadata", .key "nbgrader"])
              document =
            some (.object members) →
          cell.metadata.grading.isSome = true := by
  rcases exists_cell_put hRead hPlace hPut with
    ⟨old, part, cell, hPart, hCell, hIndex, hSet⟩
  have hLength : place.length = 2 := by
    cases hPlace <;> rfl
  have hDepth :
      Json.nestingLimit -
          (place ++ .key "metadata" :: field.place).length =
        Json.nestingLimit - 1 - 1 - 1 -
          field.place.length := by
    rw [List.length_append, List.length_cons, hLength]
    omega
  rw [hDepth] at hItem
  have hAfter :=
    hSet _
      (Cell.ofDocument?_put hCell hPart hItem (by decide))
  refine
    ⟨cell, _, hIndex, rfl, hAfter, ?_,
      field.isAbsent_set_iff value cell.metadata, ?_⟩
  · intro text hText
    rw [ofText_eq_ok_iff, ofText?, hText]
    exact hAfter
  · intro members hObject
    rw [Document.at?_append] at hObject
    rcases Option.bind_eq_some_iff.1 hObject with
      ⟨document, hPart, hInside⟩
    rcases ofDocument?_of_place hRead hPlace hPart with
      ⟨same, hSame, hCellRead⟩
    rw [hIndex] at hSame
    rw [Option.some.inj hSame]
    exact Cell.isSome_grading hCellRead hInside

/- Points that no number spells become absent. -/
theorem lenient_fields_points :
    ∃ document changed notebook after,
      Document.read? carryingText = some document ∧
      Put (.ofText "many")
        (cellPlace 1 ++ .key "metadata" ::
          (MetadataField.inside .points).place)
        document changed ∧
      ofDocument? document = some notebook ∧
      ofDocument? changed = some after ∧
      notebook.cells.map (fun cell =>
        cell.givenPoints.isSome) = [true, true] ∧
      after.cells.map (fun cell =>
        cell.givenPoints.isSome) = [true, false] := by
  have hSample :
      (Document.read? carryingText).bind
          (fun document =>
            (ofDocument? document).map (fun notebook =>
              ((Document.at?
                  (cellPlace 1 ++ .key "metadata" ::
                    (MetadataField.inside .points).place)
                  document).isSome,
                notebook.cells.map (fun cell =>
                  cell.givenPoints.isSome)))) =
        some (true, [true, true]) := by
    decide +kernel
  rcases Option.bind_eq_some_iff.1 hSample with
    ⟨document, hText, hDocument⟩
  rcases Option.map_eq_some_iff.1 hDocument with
    ⟨notebook, hRead, hFacts⟩
  rcases Prod.mk.inj hFacts with ⟨hFound, hGiven⟩
  rcases Document.exists_put (.ofText "many") hFound with
    ⟨changed, hPut⟩
  rcases lenient_fields hRead .named hPut rfl with
    ⟨cell, after, hCell, hAfter, hChanged, -, hAbsent, -⟩
  refine
    ⟨document, changed, notebook, after, hText, hPut, hRead,
      hChanged, hGiven, ?_⟩
  have hNumeral :
      Double.ofText? (Text.trim "many") = none := by
    decide +kernel
  have hPoints :=
    hAbsent.2
      (by
        simp [MetadataField.Takes, GradingField.Takes,
          hNumeral])
      _ rfl
  rw [hAfter, List.map_set, hGiven]
  exact
    congrArg
      (fun points : Option Float => [true, points.isSome])
      hPoints

end Notebook

end NotebookGrading
