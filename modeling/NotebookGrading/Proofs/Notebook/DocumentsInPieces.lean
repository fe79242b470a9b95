import NotebookGrading.Notebook.Reader
import NotebookGrading.Proofs.Json.Records
import NotebookGrading.Proofs.Json.Variants

/-
  Notebooks whose texts are given in pieces.

  The source of a cell and the text of an output may be
  given whole or as a list of pieces, and what is read is
  the same text. How the bundles of outputs differ is left
  open: if the tables read from them differ in some way,
  outputs, cells and notebooks differ in just that.

  Key definitions include:
    * `Json.Document.InPieces`
    * `Json.PiecesOr`
    * `Output.InPieces`, `Cell.InPieces`, `Notebook.InPieces`
    * `Output.Varies`, `Cell.Varies`, `Notebook.Varies`

  Main statements:
    * `Json.Document.takesAlike_multiline?`
    * `Output.takesAlike_ofDocument?`
    * `Cell.takesAlike_ofDocument?`
    * `Notebook.takesAlike_ofDocument?`
-/

namespace NotebookGrading

open Json (Document TakesAlike)
open Json.Document (ObjectVaries ItemsVary RecordVaries)

------------------------------------------------------------
-- Pieces
------------------------------------------------------------

namespace Json

/- A text given whole, and the same text in pieces. -/
inductive Document.InPieces : Document → Document → Prop
  | intro
      {text : String}
      {texts : List String}
      (h : String.join texts = text) :
      InPieces (.ofText text) (.ofList .ofText texts)

/- A value that is a text, and one of its pieces. -/
inductive InPieces : Json → Json → Prop
  | intro
      {text : String}
      {texts : List String}
      (h : String.join texts = text) :
      InPieces (.string text) (.array (texts.map .string))

namespace Document

variable {before after : Document}

/- The pieces are put together again. -/
theorem InPieces.multiline?_eq
    (h : InPieces before after) :
    before.multiline? = after.multiline? := by
  rcases h with @⟨text, texts, hText⟩
  have hTexts :
      list? text? (ofList ofText texts) = some texts :=
    list?_ofList (fun _ _ => rfl)
  have hAfter :
      (ofList ofText texts).multiline? =
        (list? text? (ofList ofText texts)).map
          String.join :=
    rfl
  rw [hAfter, hTexts, Option.map_some, hText]
  rfl

theorem takesAlike_multiline? :
    TakesAlike InPieces Eq multiline? :=
  fun _ _ h => rel_eq_iff.2 h.multiline?_eq

/- Neither a text nor its pieces are null. -/
theorem takesAlike_optional?_multiline? :
    TakesAlike InPieces Eq (optional? multiline?) := by
  intro before after h
  have hText := h.multiline?_eq
  rcases h with ⟨-⟩
  exact rel_eq_iff.2 (congrArg (Option.map some) hText)

/- The value is in pieces as well. -/
theorem InPieces.rel_value?
    (h : InPieces before after)
    {depth : Nat}
    (hDepth : 0 < depth) :
    Option.Rel Json.InPieces (before.value? depth)
      (after.value? depth) := by
  rcases h with @⟨text, texts, hText⟩
  cases depth with
  | zero => contradiction
  | succ inner =>
      have hItems :
          (texts.map ofText).mapM (Document.value? inner) =
            some (texts.map .string) := by
        apply mapM_map_eq_some_map
        intro text _
        cases inner <;> rfl
      have hAfter :
          (ofList ofText texts).value? (inner + 1) =
            some (.array (texts.map .string)) := by
        rw [ofList, Document.value?, hItems]
        rfl
      rw [hAfter]
      exact .some (.intro hText)

end Document

------------------------------------------------------------
-- Parts Under A Key
------------------------------------------------------------

/- What stands under one key differs as it is said. -/
def Under
    (key : String)
    (vary : Document → Document → Prop)
    (name : String)
    (before after : Document) : Prop :=
  name = key ∧ vary before after

/-
  Under one key a text is in pieces, and under another key
  documents differ as it is said.
-/
def PiecesOr
    (text key : String)
    (vary : Document → Document → Prop)
    (name : String)
    (before after : Document) : Prop :=
  Under text Document.InPieces name before after ∨
    Under key vary name before after

section Parts

variable {α : Type}
variable {text key name : String}
variable {vary : Document → Document → Prop}
variable {names : List String}
variable {differ : α → α → Prop}
variable {read? : Document → Option α}

theorem not_under
    (h : name ≠ key)
    (before after : Document) :
    ¬ Under key vary name before after :=
  fun hUnder => h hUnder.1

theorem not_piecesOr
    (hText : name ≠ text)
    (hKey : name ≠ key)
    (before after : Document) :
    ¬ PiecesOr text key vary name before after := by
  rintro (hUnder | hUnder)
  · exact not_under hText before after hUnder
  · exact not_under hKey before after hUnder

theorem mem_of_under
    (hMem : key ∈ names)
    (name : String)
    (before after : Document)
    (h : Under key vary name before after) :
    name ∈ names :=
  h.1 ▸ hMem

theorem mem_of_piecesOr
    (hText : text ∈ names)
    (hKey : key ∈ names)
    (name : String)
    (before after : Document)
    (h : PiecesOr text key vary name before after) :
    name ∈ names := by
  rcases h with hUnder | hUnder
  · exact mem_of_under hText name before after hUnder
  · exact mem_of_under hKey name before after hUnder

/- A reader for what stands under a key is used for it. -/
theorem TakesAlike.under
    (h : TakesAlike vary differ read?) :
    TakesAlike (Under key vary key) differ read? :=
  fun before after hUnder => h before after hUnder.2

theorem TakesAlike.piecesOr_text
    (h : TakesAlike Document.InPieces differ read?)
    (hNe : text ≠ key) :
    TakesAlike (PiecesOr text key vary text) differ
      read? := by
  rintro before after (hUnder | hUnder)
  · exact h before after hUnder.2
  · exact absurd hUnder (not_under hNe before after)

theorem TakesAlike.piecesOr_key
    (h : TakesAlike vary differ read?)
    (hNe : key ≠ text) :
    TakesAlike (PiecesOr text key vary key) differ
      read? := by
  rintro before after (hUnder | hUnder)
  · exact absurd hUnder (not_under hNe before after)
  · exact h before after hUnder.2

end Parts

end Json

------------------------------------------------------------
-- Outputs
------------------------------------------------------------

namespace Output

/-
  An output of which the text may be in pieces, and of which
  the bundle may differ as it is said.
-/
def InPieces
    (bundle : Document → Document → Prop) :
    Document → Document → Prop :=
  ObjectVaries (Json.PiecesOr "text" "data" bundle)

/- Outputs that are the same except for their bundles. -/
structure Varies
    (tables : Table Json → Table Json → Prop)
    (before after : Output) : Prop where
  others : after = { before with data := after.data }
  data : Option.Rel tables before.data after.data

variable {bundle : Document → Document → Prop}
variable {tables : Table Json → Table Json → Prop}

theorem Varies.refl
    (hRefl : ∀ table, tables table table)
    (output : Output) :
    Varies tables output output :=
  ⟨rfl, Json.rel_refl hRefl output.data⟩

theorem Varies.eq_of_eq
    (before after : Output)
    (h : Varies Eq before after) :
    before = after := by
  rw [h.others, ← Json.rel_eq_iff.1 h.data]

/-
  Outputs are read alike if their bundles are, whatever the
  pieces of their texts.
-/
theorem takesAlike_ofDocument?
    (depth : Nat)
    (hRefl : ∀ table, tables table table)
    (hBundle :
      TakesAlike bundle (Option.Rel tables)
        (Document.optional?
          (Document.table?
            (Document.value? (depth - 1 - 1))))) :
    TakesAlike (InPieces bundle) (Varies tables)
      (ofDocument? depth) := by
  have hText := Document.takesAlike_optional?_multiline?
  intro before after h
  -- At each member both readings fail or both go on.
  refine
    Json.rel_bind
      (Document.takesAlike_objectRecord?
        (Json.mem_of_piecesOr (by decide) (by decide)) _ _
        h) ?_
  intro record other hRecord
  refine
    Json.rel_bind
      (hRecord.required?_same
        (Json.not_piecesOr (by decide) (by decide))) ?_
  rintro outputType _ rfl
  refine
    Json.rel_bind
      (hRecord.defaulted?_same
        (Json.not_piecesOr (by decide) (by decide))) ?_
  rintro name _ rfl
  refine
    Json.rel_bind
      (hRecord.defaulted? (fun _ => rfl)
        (hText.piecesOr_text (by decide))) ?_
  rintro text _ rfl
  refine
    Json.rel_bind
      (hRecord.defaulted? (Json.rel_refl hRefl)
        (hBundle.piecesOr_key (by decide))) ?_
  intro data data' hTables
  refine
    Json.rel_bind
      (hRecord.defaulted?_same
        (Json.not_piecesOr (by decide) (by decide))) ?_
  rintro traceback _ rfl
  refine Json.rel_bind (hRecord.extra?_same (depth - 1)) ?_
  rintro extra _ rfl
  exact .some ⟨rfl, hTables⟩

end Output

------------------------------------------------------------
-- Cells
------------------------------------------------------------

namespace Cell

/-
  A cell of which the source may be in pieces, as the texts
  of its outputs.
-/
def InPieces
    (bundle : Document → Document → Prop) :
    Document → Document → Prop :=
  ObjectVaries
    (Json.PiecesOr "source" "outputs"
      (ItemsVary (Output.InPieces bundle)))

/- Cells that are the same except for their outputs. -/
structure Varies
    (differ : Output → Output → Prop)
    (before after : Cell) : Prop where
  others : after = { before with outputs := after.outputs }
  outputs :
    Option.Rel (List.Forall₂ differ) before.outputs
      after.outputs

variable {bundle : Document → Document → Prop}
variable {differ : Output → Output → Prop}

theorem Varies.refl
    (hRefl : ∀ output, differ output output)
    (cell : Cell) :
    Varies differ cell cell :=
  ⟨rfl,
    Json.rel_refl (Json.forall₂_refl hRefl) cell.outputs⟩

theorem Varies.eq_of_forall
    (hEq :
      ∀ output other, differ output other → output = other)
    (before after : Cell)
    (h : Varies differ before after) :
    before = after := by
  have hOutputs :=
    Json.eq_of_rel (fun _ _ => Json.eq_of_forall₂ hEq)
      h.outputs
  rw [h.others, ← hOutputs]

/- Cells are read alike if their outputs are. -/
theorem takesAlike_ofDocument?
    (depth : Nat)
    (hRefl : ∀ output, differ output output)
    (hOutput :
      TakesAlike (Output.InPieces bundle) differ
        (Output.ofDocument? (depth - 1 - 1))) :
    TakesAlike (InPieces bundle) (Varies differ)
      (ofDocument? depth) := by
  have hOutputs :
      TakesAlike (ItemsVary (Output.InPieces bundle))
        (Option.Rel (List.Forall₂ differ))
        (Output.listOfDocument? (depth - 1)) :=
    Document.takesAlike_optional?_list? hRefl hOutput
  have hSource := Document.takesAlike_multiline?
  intro before after h
  refine
    Json.rel_bind
      (Document.takesAlike_objectRecord?
        (Json.mem_of_piecesOr (by decide) (by decide)) _ _
        h) ?_
  intro record other hRecord
  refine
    Json.rel_bind
      (hRecord.required?_same
        (Json.not_piecesOr (by decide) (by decide))) ?_
  rintro cellType _ rfl
  refine
    Json.rel_bind
      (hRecord.defaulted?_same
        (Json.not_piecesOr (by decide) (by decide))) ?_
  rintro id _ rfl
  refine
    Json.rel_bind
      (hRecord.defaulted? (fun _ => rfl)
        (hSource.piecesOr_text (by decide))) ?_
  rintro source _ rfl
  refine
    Json.rel_bind
      (hRecord.defaulted?_same
        (Json.not_piecesOr (by decide) (by decide))) ?_
  rintro metadata _ rfl
  refine
    Json.rel_bind
      (hRecord.defaulted?
        (Json.rel_refl (Json.forall₂_refl hRefl))
        (hOutputs.piecesOr_key (by decide))) ?_
  intro outputs outputs' hDiffer
  refine Json.rel_bind (hRecord.extra?_same (depth - 1)) ?_
  rintro extra _ rfl
  exact .some ⟨rfl, hDiffer⟩

end Cell

------------------------------------------------------------
-- Notebooks
------------------------------------------------------------

namespace Notebook

/-
  A notebook of which the sources of cells and the texts of
  outputs may be in pieces, and of which the bundles of
  outputs may differ as it is said.
-/
def InPieces
    (bundle : Document → Document → Prop) :
    Document → Document → Prop :=
  RecordVaries memberNames
    (Json.Under "cells" (ItemsVary (Cell.InPieces bundle)))

/- Notebooks that are the same except for their cells. -/
structure Varies
    (differ : Cell → Cell → Prop)
    (before after : Notebook) : Prop where
  others : after = { before with cells := after.cells }
  cells : List.Forall₂ differ before.cells after.cells

/- How far the values of a bundle may be nested. -/
def bundleNesting : Nat :=
  Json.nestingLimit - 1 - 1 - 1 - 1 - 1 - 1

variable {bundle : Document → Document → Prop}
variable {tables : Table Json → Table Json → Prop}

theorem Varies.eq_of_forall
    {differ : Cell → Cell → Prop}
    (hEq : ∀ cell other, differ cell other → cell = other)
    (before after : Notebook)
    (h : Varies differ before after) :
    before = after := by
  rw [h.others, ← Json.eq_of_forall₂ hEq h.cells]

/-
  Notebooks are read alike if the bundles of their outputs
  are, whatever the pieces of their texts.
-/
theorem takesAlike_ofDocument?
    (hRefl : ∀ table, tables table table)
    (hBundle :
      TakesAlike bundle (Option.Rel tables)
        (Document.optional?
          (Document.table?
            (Document.value? bundleNesting)))) :
    TakesAlike (InPieces bundle)
      (Varies (Cell.Varies (Output.Varies tables)))
      ofDocument? := by
  have hSame :=
    Cell.Varies.refl (Output.Varies.refl hRefl)
  have hCells :
      TakesAlike (ItemsVary (Cell.InPieces bundle))
        (List.Forall₂ (Cell.Varies (Output.Varies tables)))
        (Document.list?
          (Cell.ofDocument? (Json.nestingLimit - 1 - 1))) :=
    Document.takesAlike_list? hSame
      (Cell.takesAlike_ofDocument? _
        (Output.Varies.refl hRefl)
        (Output.takesAlike_ofDocument? _ hRefl hBundle))
  intro before after h
  refine
    Json.rel_bind
      (Document.takesAlike_record?
        (Json.mem_of_under (by decide)) _ _ h) ?_
  intro record other hRecord
  refine
    Json.rel_bind
      (hRecord.defaulted? (Json.forall₂_refl hSame)
        hCells.under) ?_
  intro cells cells' hVary
  refine
    Json.rel_bind
      (hRecord.defaulted?_same
        (Json.not_under (by decide))) ?_
  rintro metadata _ rfl
  refine
    Json.rel_bind
      (hRecord.defaulted?_same
        (Json.not_under (by decide))) ?_
  rintro format _ rfl
  refine
    Json.rel_bind
      (hRecord.defaulted?_same
        (Json.not_under (by decide))) ?_
  rintro formatMinor _ rfl
  exact .some ⟨rfl, hVary⟩

end Notebook

end NotebookGrading
