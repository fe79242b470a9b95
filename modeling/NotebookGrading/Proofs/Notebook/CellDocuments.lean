import NotebookGrading.Notebook.Reader
import NotebookGrading.Notebook.Writer
import NotebookGrading.Proofs.Json.OpenRecords

/-
  Cells read back from their documents.

  What a cell carries along was read as values under keys
  that are not declared, so it stands apart again when the
  document of the cell is read. All declared members come
  back, except for points that are not finite, which have no
  spelling.

  Key definitions include:
    * `Grading.withFinitePoints`
    * `CellMetadata.withFinitePoints`
    * `Cell.withFinitePoints`
    * `Output.IsReadable`
    * `Cell.IsReadable`

  Main statements:
    * `Grading.lenient?_toDocument`
    * `Output.reads_ofDocument?`
    * `Output.ofDocument?_toDocument`
    * `Cell.reads_ofDocument?`
    * `Cell.ofDocument?_toDocument`
-/

namespace NotebookGrading

open Json (Document IsCarried IsSpelled Reads)

------------------------------------------------------------
-- Leaves
------------------------------------------------------------

theorem CellType.ofName?_name
    (cellType : CellType) :
    ofName? cellType.name = some cellType := by
  cases cellType <;> rfl

theorem OutputType.ofName?_name
    (outputType : OutputType) :
    ofName? outputType.name = some outputType := by
  cases outputType <;> rfl

namespace Json

theorem Document.word?_ofInt
    (word : UInt32) :
    Document.word? (.ofInt word.toNat) = some word := by
  have hLt : word.toNat < 2 ^ 32 := word.toNat_lt
  have hBounds : (word.toNat : Int) ≤ 4294967295 := by
    omega
  simp [Document.word?, Document.whole?, Document.ofInt,
    hBounds]

theorem word?_whole
    (word : UInt32) :
    word? (.number (.whole word.toNat)) = some word := by
  have hLt : word.toNat < 2 ^ 32 := word.toNat_lt
  have hBounds : (word.toNat : Int) ≤ 4294967295 := by
    omega
  simp [word?, hBounds]

/- A member whose value is read back from its document. -/
theorem bind_bind_value?
    {α : Type}
    {depth : Nat}
    {write : α → Document}
    {read? : Json → Option α}
    (hRead :
      ∀ x, ((write x).value? depth).bind read? = some x)
    (value : Option α) :
    ((value.map write).bind (Document.value? depth)).bind
        read? = value := by
  cases value with
  | none => rfl
  | some x => exact hRead x

end Json

------------------------------------------------------------
-- Grading Metadata
------------------------------------------------------------

namespace Grading

/- The members by name, those that are left out included. -/
def declared
    (grading : Grading) :
    List (String × Option Document) :=
  [("grade_id", grading.gradeId.map Document.ofText),
   ("grade", grading.grade.map Document.bool),
   ("solution", grading.solution.map Document.bool),
   ("locked", grading.locked.map Document.bool),
   ("task", grading.task.map Document.bool),
   ("checksum", grading.checksum.map Document.ofText),
   ("points", grading.points.map Document.ofFloat),
   ("schema_version",
      grading.schemaVersion.map (fun n =>
        Document.ofInt n.toNat)),
   ("cell_type",
      grading.cellType.map CellType.toDocument)]

theorem toDocument_eq
    (grading : Grading) :
    grading.toDocument =
      .ofMembers (Json.present grading.declared) := by
  simp only [toDocument, declared, Json.present_map_cons,
    Json.present, List.append_assoc, List.append_nil]

theorem keys_declared
    (grading : Grading) :
    grading.declared.map Prod.fst = memberNames := by
  rfl

/- Grading metadata without points that are not finite. -/
def withFinitePoints
    (grading : Grading) : Grading :=
  { grading with
    points := grading.points.filter Float.isFinite }

/- Every member that is written has a value. -/
theorem isSome_value?_present
    (grading : Grading)
    (depth : Nat) :
    ∀ m ∈ Json.present grading.declared,
      (m.2.value? depth).isSome := by
  apply
    @Json.forall_mem_present grading.declared
      (fun d => (d.value? depth).isSome)
  simp only [declared, List.forall_mem_cons,
    Json.forall_mem_map]
  simp [CellType.toDocument, Json.value?_ofFloat]

/- What the members of a document are read as. -/
theorem ofMembers_declared
    (grading : Grading)
    (depth : Nat) :
    ofMembers
        (fun name =>
          (Entries.find? name grading.declared).join.bind
            (Document.value? depth)) =
      grading.withFinitePoints := by
  have hTexts :=
    @Json.bind_bind_value? _ depth Document.ofText
      Json.text? (by simp [Json.text?])
  have hFlags :=
    @Json.bind_bind_value? _ depth Document.bool
      Json.bool? (by simp [Json.bool?])
  have hVersion :=
    @Json.bind_bind_value? _ depth
      (fun n : UInt32 => Document.ofInt n.toNat) Json.word?
      (by simp [Json.word?_whole])
  have hCellType :=
    @Json.bind_bind_value? _ depth CellType.toDocument
      Json.cellType?
      (by
        simp [CellType.toDocument, Json.cellType?,
          CellType.ofName?_name])
  have hPoints :
      ((grading.points.map Document.ofFloat).bind
          (Document.value? depth)).bind Json.points? =
        grading.points.filter Float.isFinite := by
    cases grading.points with
    | none => rfl
    | some p =>
        cases hFinite : p.isFinite <;>
          simp [Json.value?_ofFloat, hFinite, Json.points?,
            Json.Number.toFloat, Option.filter]
  simp [ofMembers, withFinitePoints, declared,
    Entries.find?, hTexts, hFlags, hVersion, hCellType,
    hPoints]

/- Grading metadata is read back but for its points. -/
theorem lenient?_toDocument
    (grading : Grading)
    {depth : Nat}
    (hDepth : 0 < depth) :
    Document.lenient? depth ofValue? grading.toDocument =
      some (some grading.withFinitePoints) := by
  rcases Nat.exists_eq_add_one.2 hDepth with ⟨inner, rfl⟩
  have hNodup : memberNames.Nodup := by decide
  have hKeys :
      ((Json.present grading.declared).map
        Prod.fst).Nodup :=
    (Json.sublist_keys_present grading.declared).nodup
      (grading.keys_declared ▸ hNodup)
  rcases
      Document.table?_ofMembers hKeys
        (grading.isSome_value?_present inner) with
    ⟨table, hTable, hFind⟩
  have hValue :
      grading.toDocument.value? (inner + 1) =
        some (.object table.entries) := by
    rw [toDocument_eq, Document.ofMembers,
      Json.value?_object]
    rw [Document.ofMembers] at hTable
    rw [hTable]
    rfl
  have hLookups :
      (fun name => Entries.find? name table.entries) =
        fun name =>
          (Entries.find? name grading.declared).join.bind
            (Document.value? inner) := by
    funext name
    rw [← Json.find?_present
      (grading.keys_declared ▸ hNodup)]
    exact hFind name
  rw [Document.lenient?, hValue, Option.map_some, ofValue?,
    hLookups, ofMembers_declared]

theorem complete_toDocument
    (grading : Grading) :
    grading.toDocument.Complete := by
  rw [toDocument_eq]
  apply Document.complete_ofMembers
  apply Json.forall_mem_present
  simp only [declared, List.forall_mem_cons,
    Json.forall_mem_map]
  simp [CellType.toDocument, Document.Complete.bool,
    Document.complete_ofText, Document.complete_ofFloat,
    Document.complete_word]

end Grading

------------------------------------------------------------
-- Cell Metadata
------------------------------------------------------------

namespace CellMetadata

variable {depth : Nat}
variable {metadata : CellMetadata}

def declared
    (metadata : CellMetadata) :
    List (String × Option Document) :=
  [("nbgrader", metadata.grading.map Grading.toDocument),
   ("deletable", metadata.deletable.map Document.bool),
   ("editable", metadata.editable.map Document.bool)]

theorem toDocument_eq
    (metadata : CellMetadata) :
    metadata.toDocument =
      .ofMembers
        (Json.present metadata.declared ++
          Json.tableMembers metadata.extra) := by
  simp only [toDocument, declared, Json.present_map_cons,
    Json.present, List.append_assoc, List.append_nil]

/- Metadata without points that are not finite. -/
def withFinitePoints
    (metadata : CellMetadata) : CellMetadata :=
  { metadata with
    grading :=
      metadata.grading.map Grading.withFinitePoints }

/- Where the parts of metadata are read from. -/
theorem ofDocument?_eq_some_iff
    {document : Document} :
    ofDocument? depth document = some metadata ↔
      ∃ record,
        document.objectRecord? memberNames = some record ∧
        record.defaulted? "nbgrader" none
            (Document.lenient? (depth - 1)
              Grading.ofValue?) =
          some metadata.grading ∧
        record.defaulted? "deletable" none
            (Document.lenient? (depth - 1) Json.bool?) =
          some metadata.deletable ∧
        record.defaulted? "editable" none
            (Document.lenient? (depth - 1) Json.bool?) =
          some metadata.editable ∧
        record.extra? (depth - 1) = some metadata.extra := by
  unfold ofDocument?
  simp only [Option.bind_eq_bind, Option.bind_eq_some_iff,
    Option.some.injEq]
  constructor
  · rintro ⟨record, hRecord, _, hGrading, _, hDeletable, _,
      hEditable, _, hExtra, rfl⟩
    exact
      ⟨record, hRecord, hGrading, hDeletable, hEditable,
        hExtra⟩
  · rintro ⟨record, hRecord, hGrading, hDeletable,
      hEditable, hExtra⟩
    exact
      ⟨record, hRecord, _, hGrading, _, hDeletable, _,
        hEditable, _, hExtra, rfl⟩

/- What is read as metadata is carried along in it. -/
theorem reads_ofDocument?
    (depth : Nat) :
    Reads (ofDocument? depth)
      (fun metadata =>
        IsCarried memberNames (depth - 1)
          metadata.extra) := by
  intro document metadata hDocument h
  rcases ofDocument?_eq_some_iff.1 h with
    ⟨record, hRecord, -, -, -, hExtra⟩
  exact
    Json.Record.isCarried_extra? hDocument hRecord hExtra

/- The record that written metadata is read as. -/
theorem exists_record_toDocument
    (hCarried :
      IsCarried memberNames depth metadata.extra) :
    ∃ record,
      metadata.toDocument.objectRecord? memberNames =
        some record ∧
      record.extra? depth = some metadata.extra ∧
      ∀ key,
        record.find? key =
          (Entries.find? key metadata.declared).join := by
  rw [toDocument_eq]
  exact
    Document.exists_record_ofMembers rfl (by decide)
      hCarried

theorem ofDocument?_toDocument
    (hDepth : 1 < depth)
    (hCarried :
      IsCarried memberNames (depth - 1) metadata.extra) :
    ofDocument? depth metadata.toDocument =
      some metadata.withFinitePoints := by
  rcases exists_record_toDocument hCarried with
    ⟨record, hRecord, hExtra, hFind⟩
  have hGrading :
      record.defaulted? "nbgrader" none
          (Document.lenient? (depth - 1)
            Grading.ofValue?) =
        some
          (metadata.grading.map
            Grading.withFinitePoints) := by
    apply Json.Record.defaulted?_of_find?_map
      (hFind "nbgrader")
    intro grading _
    exact grading.lenient?_toDocument (by omega)
  have hFlag :
      ∀ name (flag : Option Bool),
        record.find? name = flag.map Document.bool →
          record.defaulted? name none
              (Document.lenient? (depth - 1) Json.bool?) =
            some flag := by
    intro name flag hFlag
    apply Json.Record.defaulted?_of_find?_unchanged hFlag
    simp [Document.lenient?, Json.bool?]
  unfold ofDocument?
  simp only [hRecord, hGrading,
    hFlag _ _ (hFind "deletable"),
    hFlag _ _ (hFind "editable"), hExtra,
    Option.bind_eq_bind, Option.bind_some]
  rfl

theorem complete_toDocument
    (hCarried :
      IsCarried memberNames depth metadata.extra) :
    metadata.toDocument.Complete := by
  rw [toDocument_eq]
  refine
    Document.complete_ofMembers_present ?_ hCarried
  simp only [declared, List.forall_mem_cons,
    Json.forall_mem_map]
  simp [Grading.complete_toDocument,
    Document.Complete.bool]

end CellMetadata

------------------------------------------------------------
-- Outputs
------------------------------------------------------------

namespace Output

variable {depth : Nat}
variable {output : Output}

def declared
    (output : Output) : List (String × Option Document) :=
  [("output_type", some (.ofText output.outputType.name)),
   ("name", output.name.map Document.ofText),
   ("text", output.text.map Document.ofText),
   ("data", output.data.map Json.tableDocument),
   ("traceback",
      output.traceback.map
        (Document.ofList Document.ofText))]

theorem toDocument_eq
    (output : Output) :
    output.toDocument =
      .ofMembers
        (Json.present output.declared ++
          Json.tableMembers output.extra) := by
  simp only [toDocument, declared, Json.present_map_cons,
    Json.present, List.append_assoc, List.append_nil,
    List.cons_append]

/- What an output read at a depth holds. -/
structure IsReadable
    (depth : Nat)
    (output : Output) : Prop where
  data :
    ∀ table ∈ output.data,
      ∀ value ∈ table.values,
        IsSpelled (depth - 1 - 1) value
  extra : IsCarried memberNames (depth - 1) output.extra

/- Where the parts of an output are read from. -/
theorem ofDocument?_eq_some
    {document : Document}
    (h : ofDocument? depth document = some output) :
    ∃ record,
      document.objectRecord? memberNames = some record ∧
      record.defaulted? "data" none
          (Document.optional?
            (Document.table?
              (Document.value? (depth - 1 - 1)))) =
        some output.data ∧
      record.extra? (depth - 1) = some output.extra := by
  rcases Option.bind_eq_some_iff.1 h with
    ⟨record, hRecord, h⟩
  rcases Option.bind_eq_some_iff.1 h with ⟨_, -, h⟩
  rcases Option.bind_eq_some_iff.1 h with ⟨_, -, h⟩
  rcases Option.bind_eq_some_iff.1 h with ⟨_, -, h⟩
  rcases Option.bind_eq_some_iff.1 h with ⟨data, hData, h⟩
  rcases Option.bind_eq_some_iff.1 h with ⟨_, -, h⟩
  rcases Option.bind_eq_some_iff.1 h with ⟨extra, hExtra, h⟩
  cases h
  exact ⟨record, hRecord, hData, hExtra⟩

theorem reads_ofDocument?
    (depth : Nat) :
    Reads (ofDocument? depth) (IsReadable depth) := by
  intro document output hDocument h
  rcases ofDocument?_eq_some h with
    ⟨record, hRecord, hData, hExtra⟩
  have hDeclared :=
    Json.Record.numbersFinite_declared hDocument
      (Document.record?_of_objectRecord? hRecord)
  refine
    ⟨?_,
      Json.Record.isCarried_extra? hDocument hRecord
        hExtra⟩
  exact
    Json.Record.reads_defaulted? hDeclared
      (Json.reads_optional?
        (Json.reads_table?
          (Json.reads_value? (depth - 1 - 1))))
      (by simp) hData

/- The record that a written output is read as. -/
theorem exists_record_toDocument
    (h : output.IsReadable depth) :
    ∃ record,
      output.toDocument.objectRecord? memberNames =
        some record ∧
      record.extra? (depth - 1) = some output.extra ∧
      ∀ key,
        record.find? key =
          (Entries.find? key output.declared).join := by
  rw [toDocument_eq]
  exact
    Document.exists_record_ofMembers rfl (by decide) h.extra

theorem ofDocument?_toDocument
    (h : output.IsReadable depth) :
    ofDocument? depth output.toDocument = some output := by
  rcases exists_record_toDocument h with
    ⟨record, hRecord, hExtra, hFind⟩
  have hType :
      record.required? "output_type"
          (Document.choice? OutputType.ofName?) =
        some output.outputType := by
    rw [Json.Record.required?_of_find?
      (hFind "output_type")]
    exact OutputType.ofName?_name output.outputType
  have hName :
      record.defaulted? "name" none
          (Document.optional? Document.text?) =
        some output.name :=
    Json.Record.defaulted?_of_find?_unchanged
      (hFind "name") (fun _ _ => rfl)
  have hText :
      record.defaulted? "text" none
          (Document.optional? Document.multiline?) =
        some output.text :=
    Json.Record.defaulted?_of_find?_unchanged
      (hFind "text") (fun _ _ => rfl)
  have hData :
      record.defaulted? "data" none
          (Document.optional?
            (Document.table?
              (Document.value? (depth - 1 - 1)))) =
        some output.data := by
    apply Json.Record.defaulted?_of_find?_unchanged
      (hFind "data")
    intro table hTable
    exact
      congrArg (Option.map some)
        (Json.table?_tableDocument (h.data table hTable))
  have hTraceback :
      record.defaulted? "traceback" none
          (Document.optional?
            (Document.list? Document.text?)) =
        some output.traceback := by
    apply Json.Record.defaulted?_of_find?_unchanged
      (hFind "traceback")
    intro lines _
    exact
      congrArg (Option.map some)
        (Document.list?_ofList
          (fun line _ => Document.text?_ofText line))
  unfold ofDocument?
  simp only [hRecord, hType, hName, hText, hData,
    hTraceback, hExtra, Option.bind_eq_bind,
    Option.bind_some]

theorem complete_toDocument
    (h : output.IsReadable depth) :
    output.toDocument.Complete := by
  have hData :
      ∀ table ∈ output.data,
        (Json.tableDocument table).Complete := by
    intro table hTable
    exact
      Document.complete_ofMembers
        (Json.complete_tableMembers (h.data table hTable))
  have hTraceback :
      ∀ lines,
        (Document.ofList Document.ofText lines).Complete := by
    intro lines
    exact
      Document.complete_ofList
        (fun line _ => Document.complete_ofText line)
  rw [toDocument_eq]
  refine Document.complete_ofMembers_present ?_ h.extra
  simp only [declared, List.forall_mem_cons,
    Json.forall_mem_map]
  simpa [Document.complete_ofText, hTraceback] using hData

end Output

------------------------------------------------------------
-- Cells
------------------------------------------------------------

namespace Cell

variable {depth : Nat}
variable {cell : Cell}

def declared
    (cell : Cell) : List (String × Option Document) :=
  [("cell_type", some cell.cellType.toDocument),
   ("id", cell.id.map Document.ofText),
   ("source", some (.ofText cell.source)),
   ("metadata", some cell.metadata.toDocument),
   ("outputs",
      cell.outputs.map
        (Document.ofList Output.toDocument))]

theorem toDocument_eq
    (cell : Cell) :
    cell.toDocument =
      .ofMembers
        (Json.present cell.declared ++
          Json.tableMembers cell.extra) := by
  simp only [toDocument, declared, Json.present_map_cons,
    Json.present, List.append_assoc, List.append_nil,
    List.cons_append]

/- A cell without points that are not finite. -/
def withFinitePoints
    (cell : Cell) : Cell :=
  { cell with metadata := cell.metadata.withFinitePoints }

/- What a cell read at a depth holds. -/
structure IsReadable
    (depth : Nat)
    (cell : Cell) : Prop where
  metadata :
    IsCarried CellMetadata.memberNames (depth - 1 - 1)
      cell.metadata.extra
  outputs :
    ∀ outputs ∈ cell.outputs,
      ∀ output ∈ outputs, output.IsReadable (depth - 1 - 1)
  extra : IsCarried memberNames (depth - 1) cell.extra

/- Where the parts of a cell are read from. -/
theorem ofDocument?_eq_some_iff
    {document : Document} :
    ofDocument? depth document = some cell ↔
      ∃ record,
        document.objectRecord? memberNames = some record ∧
        record.required? "cell_type"
            (Document.choice? CellType.ofName?) =
          some cell.cellType ∧
        record.defaulted? "id" none
            (Document.optional? Document.text?) =
          some cell.id ∧
        record.defaulted? "source" "" Document.multiline? =
          some cell.source ∧
        record.defaulted? "metadata" {}
            (CellMetadata.ofDocument? (depth - 1)) =
          some cell.metadata ∧
        record.defaulted? "outputs" none
            (Output.listOfDocument? (depth - 1)) =
          some cell.outputs ∧
        record.extra? (depth - 1) = some cell.extra := by
  unfold ofDocument?
  simp only [Option.bind_eq_bind, Option.bind_eq_some_iff,
    Option.some.injEq]
  constructor
  · rintro ⟨record, hRecord, _, hType, _, hId, _, hSource,
      _, hMetadata, _, hOutputs, _, hExtra, rfl⟩
    exact
      ⟨record, hRecord, hType, hId, hSource, hMetadata,
        hOutputs, hExtra⟩
  · rintro ⟨record, hRecord, hType, hId, hSource,
      hMetadata, hOutputs, hExtra⟩
    exact
      ⟨record, hRecord, _, hType, _, hId, _, hSource, _,
        hMetadata, _, hOutputs, _, hExtra, rfl⟩

theorem reads_ofDocument?
    (depth : Nat) :
    Reads (ofDocument? depth) (IsReadable depth) := by
  intro document cell hDocument h
  rcases ofDocument?_eq_some_iff.1 h with
    ⟨record, hRecord, -, -, -, hMetadata, hOutputs,
      hExtra⟩
  have hDeclared :=
    Json.Record.numbersFinite_declared hDocument
      (Document.record?_of_objectRecord? hRecord)
  have hCarried :=
    Json.Record.reads_defaulted? hDeclared
      (CellMetadata.reads_ofDocument? (depth - 1))
      (Json.isCarried_empty CellMetadata.memberNames _)
      hMetadata
  have hReadable :=
    Json.Record.reads_defaulted? hDeclared
      (Json.reads_optional?
        (Json.reads_list?
          (Output.reads_ofDocument? (depth - 1 - 1))))
      (by simp) hOutputs
  exact
    ⟨hCarried, hReadable,
      Json.Record.isCarried_extra? hDocument hRecord
        hExtra⟩

/- The record that a written cell is read as. -/
theorem exists_record_toDocument
    (h : cell.IsReadable depth) :
    ∃ record,
      cell.toDocument.objectRecord? memberNames =
        some record ∧
      record.extra? (depth - 1) = some cell.extra ∧
      ∀ key,
        record.find? key =
          (Entries.find? key cell.declared).join := by
  rw [toDocument_eq]
  exact
    Document.exists_record_ofMembers rfl (by decide) h.extra

/- A cell is read back but for its points. -/
theorem ofDocument?_toDocument
    (hDepth : 2 < depth)
    (h : cell.IsReadable depth) :
    ofDocument? depth cell.toDocument =
      some cell.withFinitePoints := by
  rcases exists_record_toDocument h with
    ⟨record, hRecord, hExtra, hFind⟩
  have hType :
      record.required? "cell_type"
          (Document.choice? CellType.ofName?) =
        some cell.cellType := by
    rw [Json.Record.required?_of_find? (hFind "cell_type")]
    exact CellType.ofName?_name cell.cellType
  have hId :
      record.defaulted? "id" none
          (Document.optional? Document.text?) =
        some cell.id :=
    Json.Record.defaulted?_of_find?_unchanged
      (hFind "id") (fun _ _ => rfl)
  have hSource :
      record.defaulted? "source" "" Document.multiline? =
        some cell.source := by
    rw [Json.Record.defaulted?_of_find? (hFind "source")]
    rfl
  have hMetadata :
      record.defaulted? "metadata" {}
          (CellMetadata.ofDocument? (depth - 1)) =
        some cell.metadata.withFinitePoints := by
    rw [Json.Record.defaulted?_of_find? (hFind "metadata")]
    exact
      CellMetadata.ofDocument?_toDocument (by omega)
        h.metadata
  have hOutputs :
      record.defaulted? "outputs" none
          (Output.listOfDocument? (depth - 1)) =
        some cell.outputs := by
    apply Json.Record.defaulted?_of_find?_unchanged
      (hFind "outputs")
    intro outputs hSome
    exact
      congrArg (Option.map some)
        (Document.list?_ofList
          (fun output hMem =>
            Output.ofDocument?_toDocument
              (h.outputs outputs hSome output hMem)))
  unfold ofDocument?
  simp only [hRecord, hType, hId, hSource, hMetadata,
    hOutputs, hExtra, Option.bind_eq_bind,
    Option.bind_some]
  rfl

theorem complete_toDocument
    (h : cell.IsReadable depth) :
    cell.toDocument.Complete := by
  have hMetadata : cell.metadata.toDocument.Complete :=
    CellMetadata.complete_toDocument h.metadata
  have hOutputs :
      ∀ outputs ∈ cell.outputs,
        (Document.ofList Output.toDocument
          outputs).Complete := by
    intro outputs hSome
    exact
      Document.complete_ofList
        (fun output hMem =>
          Output.complete_toDocument
            (h.outputs outputs hSome output hMem))
  rw [toDocument_eq]
  refine Document.complete_ofMembers_present ?_ h.extra
  simp only [declared, List.forall_mem_cons,
    Json.forall_mem_map]
  simpa [CellType.toDocument, Document.complete_ofText,
    hMetadata] using hOutputs

end Cell

end NotebookGrading
