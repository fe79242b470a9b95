import NotebookGrading.Proofs.Json.Members
import NotebookGrading.Proofs.Notebook.Documents

/-
  Keys of a notebook's document that are not declared.

  Cells, their metadata and their outputs carry such keys
  along, so they have the same values at the same places in
  the document that is written. A notebook itself carries
  nothing along: of its own keys only the declared ones are
  written.

  Key definitions include:
    * `Notebook.OpenPlace`

  Main statements:
    * `Notebook.exists_cell_at?`
    * `Notebook.keepsUndeclared_at?`
    * `Notebook.unknown_keys`
-/

namespace NotebookGrading

open Json (Document)
open Json.Document (KeepsUndeclared Step at? step?)

------------------------------------------------------------
-- Metadata And Outputs
------------------------------------------------------------

variable {depth : Nat}
variable {given : Document}

theorem CellMetadata.keepsUndeclared
    {metadata : CellMetadata}
    (h : ofDocument? depth given = some metadata)
    (hCarried :
      Json.IsCarried memberNames (depth - 1)
        metadata.extra) :
    KeepsUndeclared memberNames given
      metadata.toDocument := by
  rcases ofDocument?_eq_some_iff.1 h with
    ⟨before, hGiven, -, -, -, hBefore⟩
  rcases exists_record_toDocument hCarried with
    ⟨after, hWritten, hAfter, -⟩
  exact
    Document.keepsUndeclared_of_extra? hGiven hWritten
      hBefore hAfter

theorem Output.keepsUndeclared
    {output : Output}
    (h : ofDocument? depth given = some output)
    (hReadable : output.IsReadable depth) :
    KeepsUndeclared memberNames given
      output.toDocument := by
  rcases ofDocument?_eq_some h with
    ⟨before, hGiven, -, hBefore⟩
  rcases exists_record_toDocument hReadable with
    ⟨after, hWritten, hAfter, -⟩
  exact
    Document.keepsUndeclared_of_extra? hGiven hWritten
      hBefore hAfter

------------------------------------------------------------
-- Cells
------------------------------------------------------------

namespace Cell

variable {cell : Cell}

theorem keepsUndeclared
    (h : ofDocument? depth given = some cell)
    (hReadable : cell.IsReadable depth) :
    KeepsUndeclared memberNames given cell.toDocument := by
  rcases ofDocument?_eq_some_iff.1 h with
    ⟨before, hGiven, -, -, -, -, -, hBefore⟩
  rcases exists_record_toDocument hReadable with
    ⟨after, hWritten, hAfter, -⟩
  exact
    Document.keepsUndeclared_of_extra? hGiven hWritten
      hBefore hAfter

/- Where the metadata of a cell stands. -/
theorem step?_metadata
    {document : Document}
    (h : ofDocument? depth given = some cell)
    (hReadable : cell.IsReadable depth)
    (hStep :
      step? (.key "metadata") given = some document) :
    CellMetadata.ofDocument? (depth - 1) document =
        some cell.metadata ∧
      step? (.key "metadata") cell.toDocument =
        some cell.metadata.toDocument := by
  rcases ofDocument?_eq_some_iff.1 h with
    ⟨before, hGiven, -, -, -, hMetadata, -⟩
  rcases exists_record_toDocument hReadable with
    ⟨after, hWritten, -, hFind⟩
  have hName : "metadata" ∈ memberNames := by decide
  rw [Document.step?_of_mem hGiven hName] at hStep
  rw [Json.Record.defaulted?_of_find? hStep] at hMetadata
  refine ⟨hMetadata, ?_⟩
  rw [Document.step?_of_mem hWritten hName, hFind]
  rfl

/- Where an output of a cell stands. -/
theorem step?_outputs
    {document item : Document}
    {position : Nat}
    (h : ofDocument? depth given = some cell)
    (hReadable : cell.IsReadable depth)
    (hStep :
      step? (.key "outputs") given = some document)
    (hItem :
      step? (.index position) document = some item) :
    ∃ outputs output,
      cell.outputs = some outputs ∧
      outputs[position]? = some output ∧
      Output.ofDocument? (depth - 1 - 1) item =
        some output ∧
      at? [.key "outputs", .index position]
          cell.toDocument =
        some output.toDocument := by
  rcases ofDocument?_eq_some_iff.1 h with
    ⟨before, hGiven, -, -, -, -, hOutputs, -⟩
  rcases exists_record_toDocument hReadable with
    ⟨after, hWritten, -, hFind⟩
  have hName : "outputs" ∈ memberNames := by decide
  rw [Document.step?_of_mem hGiven hName] at hStep
  rw [Json.Record.defaulted?_of_find? hStep] at hOutputs
  -- Only an array has items, so the outputs are not null.
  cases document with
  | array items =>
      rcases Option.map_eq_some_iff.1 hOutputs with
        ⟨outputs, hList, hSome⟩
      rcases Document.exists_of_list? hList hItem with
        ⟨output, hOutput, hRead⟩
      refine
        ⟨outputs, output, hSome.symm, hOutput, hRead, ?_⟩
      have hWrittenStep :
          step? (.key "outputs") cell.toDocument =
            some
              (.ofList Output.toDocument outputs) := by
        rw [Document.step?_of_mem hWritten hName, hFind]
        simp [declared, Entries.find?, ← hSome]
      simp only [at?, hWrittenStep, Option.bind_some,
        Document.step?_index_ofList, hOutput,
        Option.map_some]
  | _ => cases hItem

end Cell

------------------------------------------------------------
-- Notebooks
------------------------------------------------------------

namespace Notebook

/- The place of a cell. -/
def cellPlace
    (index : Nat) : List Step :=
  [.key "cells", .index index]

/-
  The places in a notebook's document at which undeclared
  keys are carried along, with the keys that are declared.
-/
inductive OpenPlace : List Step → List String → Prop
  | cell (index : Nat) :
      OpenPlace (cellPlace index) Cell.memberNames
  | metadata (index : Nat) :
      OpenPlace (cellPlace index ++ [.key "metadata"])
        CellMetadata.memberNames
  | output (index position : Nat) :
      OpenPlace
        (cellPlace index ++
          [.key "outputs", .index position])
        Output.memberNames

variable {notebook : Notebook}
variable {document part : Document}

/- Where a cell of a notebook stands. -/
theorem exists_cell_at?
    {index : Nat}
    (h : ofDocument? document = some notebook)
    (hPart : at? (cellPlace index) document = some part) :
    ∃ cell,
      notebook.cells[index]? = some cell ∧
      Cell.ofDocument? (Json.nestingLimit - 1 - 1) part =
        some cell ∧
      at? (cellPlace index) notebook.toDocument =
        some cell.toDocument := by
  rcases ofDocument?_eq_some_iff.1 h with
    ⟨record, hRecord, hCells, -⟩
  rcases Option.bind_eq_some_iff.1 hPart with
    ⟨list, hList, hIndex⟩
  rw [Document.at?_single] at hIndex
  -- Only an object has members under keys.
  cases document with
  | object members =>
      have hOpen :
          (Document.object members).objectRecord?
              memberNames = some record :=
        hRecord
      rw [Document.step?_of_mem hOpen (by decide)] at hList
      rw [Json.Record.defaulted?_of_find? hList] at hCells
      rcases Document.exists_of_list? hCells hIndex with
        ⟨cell, hCell, hRead⟩
      refine ⟨cell, hCell, hRead, ?_⟩
      have hStep :
          step? (.key "cells") notebook.toDocument =
            some
              (.ofList Cell.toDocument notebook.cells) := by
        rfl
      simp only [cellPlace, at?, hStep, Option.bind_some,
        Document.step?_index_ofList, hCell,
        Option.map_some]
  | _ => cases hList

/- At an open place all undeclared keys are kept. -/
theorem keepsUndeclared_at?
    {place : List Step}
    {names : List String}
    (h : ofDocument? document = some notebook)
    (hReadable : notebook.IsReadable)
    (hPlace : OpenPlace place names)
    (hPart : at? place document = some part) :
    ∃ written,
      at? place notebook.toDocument = some written ∧
      KeepsUndeclared names part written := by
  cases hPlace with
  | cell index =>
      rcases exists_cell_at? h hPart with
        ⟨cell, hCell, hRead, hWritten⟩
      have hMem := List.mem_of_getElem? hCell
      exact
        ⟨cell.toDocument, hWritten,
          Cell.keepsUndeclared hRead
            (hReadable.cells cell hMem)⟩
  | metadata index =>
      rw [Document.at?_append] at hPart
      rcases Option.bind_eq_some_iff.1 hPart with
        ⟨given, hGiven, hStep⟩
      rw [Document.at?_single] at hStep
      rcases exists_cell_at? h hGiven with
        ⟨cell, hCell, hRead, hWritten⟩
      have hCellReadable :=
        hReadable.cells cell (List.mem_of_getElem? hCell)
      rcases Cell.step?_metadata hRead hCellReadable hStep
        with ⟨hMetadata, hWrittenStep⟩
      refine ⟨cell.metadata.toDocument, ?_, ?_⟩
      · rw [Document.at?_append, hWritten,
          Option.bind_some, Document.at?_single]
        exact hWrittenStep
      · exact
          CellMetadata.keepsUndeclared hMetadata
            hCellReadable.metadata
  | output index position =>
      rw [Document.at?_append] at hPart
      rcases Option.bind_eq_some_iff.1 hPart with
        ⟨given, hGiven, hSteps⟩
      rcases Option.bind_eq_some_iff.1 hSteps with
        ⟨list, hList, hItem⟩
      rw [Document.at?_single] at hItem
      rcases exists_cell_at? h hGiven with
        ⟨cell, hCell, hRead, hWritten⟩
      have hCellReadable :=
        hReadable.cells cell (List.mem_of_getElem? hCell)
      rcases
          Cell.step?_outputs hRead hCellReadable hList hItem
        with
        ⟨outputs, output, hSome, hOutput, hOutputRead,
          hWrittenSteps⟩
      refine ⟨output.toDocument, ?_, ?_⟩
      · rw [Document.at?_append, hWritten,
          Option.bind_some]
        exact hWrittenSteps
      · exact
          Output.keepsUndeclared hOutputRead
            (hCellReadable.outputs outputs hSome output
              (List.mem_of_getElem? hOutput))

/- Of its own keys a notebook writes the declared ones. -/
theorem step?_toDocument_of_not_mem
    {key : String}
    (notebook : Notebook)
    (hKey : key ∉ memberNames) :
    step? (.key key) notebook.toDocument = none := by
  simp only [memberNames, List.mem_cons, not_or] at hKey
  rcases hKey with ⟨hCells, hMetadata, hFormat, hMinor, -⟩
  simp [toDocument, Document.ofMembers, step?,
    Document.named, Entries.find?, Ne.symm hCells,
    Ne.symm hMetadata, Ne.symm hFormat, Ne.symm hMinor]

/-
  What becomes of the undeclared keys of a notebook that is
  read and written again. In a cell, in its metadata and in
  an output a key has the same value at the same place. At
  the top level no such key is written, so every one that
  stands there is lost. The text spells this document, as
  far as its doubles are read back.
-/
theorem unknown_keys
    {text : String}
    (hText : Document.read? text = some document)
    (hRead : ofText text = .ok notebook) :
    (∀ place names,
        OpenPlace place names →
          ∀ key ∉ names,
            ∀ value,
              at? (place ++ [.key key]) document =
                  some value →
                ∃ depth meaning written,
                  value.value? depth = some meaning ∧
                  at? (place ++ [.key key])
                      notebook.toDocument =
                    some written ∧
                  written.value? depth = some meaning) ∧
      (∀ key ∉ memberNames,
        at? [.key key] notebook.toDocument = none) ∧
      (DoublesReadBack notebook.toDocument.doubles →
        Document.read? notebook.toText =
          some notebook.toDocument) := by
  have hOfText := ofText_eq_ok_iff.1 hRead
  have hReadable := isReadable_of_ofText? hOfText
  have hDocument : ofDocument? document = some notebook := by
    rw [ofText?, hText] at hOfText
    exact hOfText
  refine ⟨?_, ?_, ?_⟩
  · intro place names hPlace key hKey value hValue
    rw [Document.at?_append] at hValue
    rcases Option.bind_eq_some_iff.1 hValue with
      ⟨part, hPart, hStep⟩
    rw [Document.at?_single] at hStep
    rcases
        keepsUndeclared_at? hDocument hReadable hPlace hPart
      with ⟨after, hAfter, hKeeps⟩
    rcases hKeeps key hKey value hStep with
      ⟨depth, meaning, written, hMeaning, hWritten, hSame⟩
    refine
      ⟨depth, meaning, written, hMeaning, ?_, hSame⟩
    rw [Document.at?_append, hAfter, Option.bind_some,
      Document.at?_single, hWritten]
  · intro key hKey
    rw [Document.at?_single]
    exact step?_toDocument_of_not_mem notebook hKey
  · exact read?_toText hReadable

/- Keys of metadata, of an output and of a cell are kept. -/
theorem unknown_keys_carrying :
    ∃ document notebook,
      Document.read? carryingText = some document ∧
      ofText carryingText = .ok notebook ∧
      (at?
        (cellPlace 0 ++ [.key "metadata"] ++
          [.key "tags"])
        notebook.toDocument).isSome ∧
      (at?
        (cellPlace 0 ++ [.key "outputs", .index 0] ++
          [.key "order"])
        notebook.toDocument).isSome ∧
      (at? (cellPlace 1 ++ [.key "weight"])
        notebook.toDocument).isSome := by
  have hSample :
      (Document.read? carryingText).bind
          (fun document =>
            (ofDocument? document).map (fun _ =>
              ((at?
                  (cellPlace 0 ++ [.key "metadata"] ++
                    [.key "tags"]) document).isSome,
                (at?
                  (cellPlace 0 ++
                      [.key "outputs", .index 0] ++
                    [.key "order"]) document).isSome,
                (at? (cellPlace 1 ++ [.key "weight"])
                  document).isSome))) =
        some (true, true, true) := by
    decide +kernel
  rcases Option.bind_eq_some_iff.1 hSample with
    ⟨document, hText, hDocument⟩
  rcases Option.map_eq_some_iff.1 hDocument with
    ⟨notebook, hNotebook, hFacts⟩
  rcases Prod.mk.inj hFacts with ⟨hTags, hRest⟩
  rcases Prod.mk.inj hRest with ⟨hOrder, hWeight⟩
  have hRead : ofText carryingText = .ok notebook := by
    rw [ofText_eq_ok_iff, ofText?, hText]
    exact hNotebook
  -- A key that stands in the document is written.
  have hKept :
      ∀ place names,
        OpenPlace place names →
          ∀ key ∉ names,
            (at? (place ++ [.key key]) document).isSome →
              (at? (place ++ [.key key])
                notebook.toDocument).isSome := by
    intro place names hPlace key hKey hSome
    rcases Option.isSome_iff_exists.1 hSome with
      ⟨value, hValue⟩
    rcases
        (unknown_keys hText hRead).1 place names hPlace key
          hKey value hValue with
      ⟨depth, meaning, written, -, hWritten, -⟩
    exact Option.isSome_iff_exists.2 ⟨written, hWritten⟩
  exact
    ⟨document, notebook, hText, hRead,
      hKept _ _ (.metadata 0) "tags" (by decide) hTags,
      hKept _ _ (.output 0 0) "order" (by decide) hOrder,
      hKept _ _ (.cell 1) "weight" (by decide) hWeight⟩

/- A notebook without cells and with a key of its own. -/
def customText : String :=
  "\x7b\"cells\": [], \"metadata\": \x7b\x7d, " ++
    "\"nbformat\": 4, \"nbformat_minor\": 5, " ++
    "\"custom\": 1\x7d"

/- A key of the notebook itself is lost. -/
theorem unknown_keys_lost :
    ∃ document notebook written,
      Document.read? customText = some document ∧
      ofText customText = .ok notebook ∧
      (at? [.key "custom"] document).isSome ∧
      Document.read? notebook.toText = some written ∧
      at? [.key "custom"] written = none := by
  have hSample :
      (Document.read? customText).bind
          (fun document =>
            (ofDocument? document).bind (fun notebook =>
              (Document.read? notebook.toText).map
                (fun written =>
                  ((at? [.key "custom"] document).isSome,
                    (at? [.key "custom"]
                      written).isNone)))) =
        some (true, true) := by
    decide +kernel
  rcases Option.bind_eq_some_iff.1 hSample with
    ⟨document, hText, hDocument⟩
  rcases Option.bind_eq_some_iff.1 hDocument with
    ⟨notebook, hNotebook, hWrite⟩
  rcases Option.map_eq_some_iff.1 hWrite with
    ⟨written, hWritten, hFacts⟩
  rcases Prod.mk.inj hFacts with ⟨hGiven, hLost⟩
  refine
    ⟨document, notebook, written, hText, ?_, hGiven,
      hWritten, Option.isNone_iff_eq_none.1 hLost⟩
  rw [ofText_eq_ok_iff, ofText?, hText]
  exact hNotebook

end Notebook

end NotebookGrading
