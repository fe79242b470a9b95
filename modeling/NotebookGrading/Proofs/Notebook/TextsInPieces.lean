import NotebookGrading.Notebook.Store
import NotebookGrading.Proofs.Notebook.DocumentsInPieces
import NotebookGrading.Proofs.Notebook.LimitedScores

/-
  Texts that are given in pieces.

  The pieces of sources and of the texts of outputs are put
  together when a notebook is read. The plain text of a
  result is kept as it is given and put together when it is
  asked for, so it is this text that is the same, and with
  it the score.

  Key definitions include:
    * `Output.PlainInPieces`
    * `Output.TablesInPieces`

  Main statements:
    * `Output.tablesInPieces_insert`
    * `Output.Varies.plainText?_eq`
    * `Cell.Varies.score_eq`
    * `Notebook.ofDocument?_of_inPieces`
    * `Notebook.texts_in_pieces`
-/

namespace NotebookGrading

open Json (Document TakesAlike)
open Json.Document (ObjectVaries ItemsVary)

------------------------------------------------------------
-- Plain Representations
------------------------------------------------------------

namespace Output

/- A bundle of which the plain text may be in pieces. -/
def PlainInPieces : Document → Document → Prop :=
  ObjectVaries
    (Json.Under "text/plain" Document.InPieces)

/- Tables of which the plain text may be in pieces. -/
def TablesInPieces
    (before after : Table Json) : Prop :=
  ∀ name,
    Option.Rel
      (fun value other =>
        value = other ∨
          name = "text/plain" ∧ value.InPieces other)
      (before.find? name) (after.find? name)

theorem TablesInPieces.refl
    (table : Table Json) :
    TablesInPieces table table :=
  fun name =>
    Json.rel_refl (fun _ => .inl rfl) (table.find? name)

/- A plain text can be replaced by any of its pieces. -/
theorem tablesInPieces_insert
    {table : Table Json}
    {texts : List String}
    (h :
      table.find? "text/plain" =
        some (.string (String.join texts))) :
    TablesInPieces table
      (table.insert "text/plain"
        (.array (texts.map .string))) := by
  intro name
  by_cases hName : name = "text/plain"
  · rw [hName, h, Table.find?_insert_self]
    exact .some (.inr ⟨rfl, .intro rfl⟩)
  · rw [Table.find?_insert_ne table (Ne.symm hName)]
    exact TablesInPieces.refl table name

/- The pieces are kept in the table that is read. -/
theorem takesAlike_plainInPieces
    {depth : Nat}
    (hDepth : 0 < depth) :
    TakesAlike PlainInPieces (Option.Rel TablesInPieces)
      (Document.optional?
        (Document.table? (Document.value? depth))) := by
  refine
    Document.takesAlike_optional?_table?
      (fun _ _ => .inl rfl) ?_
  rintro name document other (rfl | ⟨rfl, hPieces⟩)
  · exact Json.rel_refl (fun _ => .inl rfl) _
  · exact
      Json.rel_mono (fun _ _ h => .inr ⟨rfl, h⟩)
        (hPieces.rel_value? hDepth)

variable {before after : Output}

/- The pieces of the plain text are put together again. -/
theorem Varies.plainText?_eq
    (h : Varies TablesInPieces before after) :
    before.plainText? = after.plainText? := by
  have hData := h.data
  unfold plainText?
  generalize before.data = data at hData ⊢
  generalize after.data = data' at hData ⊢
  cases hData with
  | none => rfl
  | @some table other hTables =>
      have hFind := hTables "text/plain"
      simp only [Option.bind_eq_bind, Option.bind_some]
      generalize table.find? "text/plain" = found at hFind ⊢
      generalize other.find? "text/plain" = found' at hFind ⊢
      cases hFind with
      | none => rfl
      | some hValue =>
          rcases hValue with rfl | ⟨-, @⟨text, texts, hText⟩⟩
          · rfl
          · have hTexts :
                (texts.map Json.string).filterMap textOf? =
                  texts := by
              rw [List.filterMap_map]
              exact List.filterMap_some
            simp only [Option.bind_some, hTexts, hText]

theorem Varies.isDeciding_eq
    {tables : Table Json → Table Json → Prop}
    (h : Varies tables before after) :
    before.isDeciding = after.isDeciding := by
  rw [h.others]
  rfl

theorem Varies.verdict_eq
    (max : Float)
    (h : Varies TablesInPieces before after) :
    before.verdict max = after.verdict max := by
  have hType : before.outputType = after.outputType := by
    rw [h.others]
  rw [verdict, verdict, hType, h.plainText?_eq]

/- Outputs decide as before and award as many points. -/
theorem scoreOfOutputs_eq
    (max : Float)
    {outputs others : List Output}
    (h :
      List.Forall₂ (Varies TablesInPieces) outputs others) :
    Cell.scoreOfOutputs max outputs =
      Cell.scoreOfOutputs max others := by
  induction h with
  | nil => rfl
  | cons hOutput _ ih =>
      rw [scoreOfOutputs_cons, scoreOfOutputs_cons,
        hOutput.isDeciding_eq, hOutput.verdict_eq, ih]

end Output

namespace Cell

variable {before after : Cell}

theorem Varies.checksum_eq
    {differ : Output → Output → Prop}
    (h : Varies differ before after) :
    before.checksum = after.checksum := by
  rw [h.others]
  rfl

theorem Varies.score_eq
    (h :
      Varies (Output.Varies Output.TablesInPieces)
        before after) :
    before.score = after.score := by
  have hOutputs :
      scoreOfOutputs before.points
          (before.outputs.getD []) =
        scoreOfOutputs before.points
          (after.outputs.getD []) := by
    have hDiffer := h.outputs
    generalize before.outputs = outputs at hDiffer ⊢
    generalize after.outputs = outputs' at hDiffer ⊢
    cases hDiffer with
    | none => rfl
    | some hAll => exact Output.scoreOfOutputs_eq _ hAll
  rw [h.others]
  exact before.score_withOutputs hOutputs

end Cell

------------------------------------------------------------
-- Notebooks
------------------------------------------------------------

namespace Notebook

/- The pieces of sources and texts never matter. -/
theorem ofDocument?_of_inPieces
    {before after : Document}
    (h : InPieces Eq before after) :
    ofDocument? before = ofDocument? after := by
  have hBundle :
      TakesAlike Eq (Option.Rel Eq)
        (Document.optional?
          (Document.table?
            (Document.value? bundleNesting))) := by
    rintro document _ rfl
    exact Json.rel_refl (Json.rel_refl (fun _ => rfl)) _
  have hRead :=
    takesAlike_ofDocument? (fun _ => rfl) hBundle _ _ h
  exact
    Json.eq_of_rel
      (Varies.eq_of_forall
        (Cell.Varies.eq_of_forall Output.Varies.eq_of_eq))
      hRead

/-
  Texts in pieces. Whether the sources of cells and the
  texts of outputs are whole or in pieces, the same notebook
  is read, or none. If the plain texts of results are in
  pieces as well, the notebooks differ in nothing else, and
  the plain texts, the scores and the checksums that are
  taken from them are the same.
-/
theorem texts_in_pieces :
    (∀ before after,
      InPieces Eq before after →
        ofDocument? before = ofDocument? after) ∧
    (∀ text other before after,
      Document.read? text = some before →
      Document.read? other = some after →
      InPieces Eq before after →
        ofText text = ofText other) ∧
    (∀ before after,
      InPieces Output.PlainInPieces before after →
        Option.Rel
          (Varies
            (Cell.Varies
              (Output.Varies Output.TablesInPieces)))
          (ofDocument? before) (ofDocument? after)) ∧
    (∀ (table : Table Json) texts,
      table.find? "text/plain" =
          some (.string (String.join texts)) →
        Output.TablesInPieces table
          (table.insert "text/plain"
            (.array (texts.map .string)))) ∧
    (∀ before after : Output,
      Output.Varies Output.TablesInPieces before after →
        before.plainText? = after.plainText?) ∧
    ∀ before after : Cell,
      Cell.Varies (Output.Varies Output.TablesInPieces)
          before after →
        before.score = after.score ∧
          before.checksum = after.checksum := by
  refine
    ⟨fun _ _ => ofDocument?_of_inPieces, ?_, ?_,
      fun _ _ => Output.tablesInPieces_insert,
      fun _ _ => Output.Varies.plainText?_eq,
      fun _ _ h => ⟨h.score_eq, h.checksum_eq⟩⟩
  · intro text other before after hText hOther h
    have hRead : ofText? text = ofText? other := by
      rw [ofText?, ofText?, hText, hOther]
      exact ofDocument?_of_inPieces h
    rw [ofText, ofText, hRead]
  · exact
      takesAlike_ofDocument? Output.TablesInPieces.refl
        (Output.takesAlike_plainInPieces (by decide))

/- A stream with a text, as it is written. -/
def streamDocument
    (text : Document) : Document :=
  .ofMembers
    [("output_type", .ofText "stream"), ("text", text)]

/- A result with a plain text, as it is written. -/
def resultDocument
    (plain : Document) : Document :=
  .ofMembers
    [("output_type", .ofText "execute_result"),
      ("data", .ofMembers [("text/plain", plain)])]

/- A notebook of one cell with a stream and a result. -/
def printing
    (source text plain : Document) : Document :=
  .ofMembers
    [("cells",
      .array
        [.ofMembers
          [("cell_type", .ofText "code"),
            ("source", source),
            ("outputs",
              .array
                [streamDocument text,
                  resultDocument plain])]])]

theorem inPieces_printing
    {bundle : Document → Document → Prop}
    {source source' text text' plain plain' : Document}
    (hSource : source.InPieces source')
    (hText : text.InPieces text')
    (hBundle :
      bundle (.ofMembers [("text/plain", plain)])
        (.ofMembers [("text/plain", plain')])) :
    InPieces bundle (printing source text plain)
      (printing source' text' plain') := by
  have hStream :
      Output.InPieces bundle (streamDocument text)
        (streamDocument text') :=
    .members
      (.cons (.same _)
        (.cons (.part (.inl ⟨rfl, hText⟩)) .nil))
  have hResult :
      Output.InPieces bundle (resultDocument plain)
        (resultDocument plain') :=
    .members
      (.cons (.same _)
        (.cons (.part (.inr ⟨rfl, hBundle⟩)) .nil))
  have hOutputs :
      ItemsVary (Output.InPieces bundle)
        (.array [streamDocument text, resultDocument plain])
        (.array
          [streamDocument text', resultDocument plain']) :=
    .items (.cons hStream (.cons hResult .nil))
  refine .named (.members (.cons (.part ⟨rfl, ?_⟩) .nil))
  refine .items (.cons (.members ?_) .nil)
  exact
    .cons (.same _)
      (.cons (.part (.inl ⟨rfl, hSource⟩))
        (.cons (.part (.inr ⟨rfl, hOutputs⟩)) .nil))

/- The cell is read from its texts and from their pieces. -/
theorem texts_in_pieces_printing :
    let whole :=
      printing (.ofText "a\nb") (.ofText "") (.ofText "1.5")
    let pieces (plain : Document) :=
      printing (.ofList .ofText ["a\n", "", "b"])
        (.ofList .ofText []) plain
    (ofDocument? whole).isSome ∧
      ofDocument? whole =
        ofDocument? (pieces (.ofText "1.5")) ∧
      Option.Rel
        (Varies
          (Cell.Varies
            (Output.Varies Output.TablesInPieces)))
        (ofDocument? whole)
        (ofDocument?
          (pieces (.ofList .ofText ["1", ".5"]))) := by
  intro whole pieces
  have hSource :
      Document.InPieces (.ofText "a\nb")
        (.ofList .ofText ["a\n", "", "b"]) :=
    .intro rfl
  have hText :
      Document.InPieces (.ofText "")
        (.ofList .ofText []) :=
    .intro rfl
  have hPlain :
      Document.InPieces (.ofText "1.5")
        (.ofList .ofText ["1", ".5"]) :=
    .intro rfl
  refine ⟨rfl, ?_, ?_⟩
  · exact
      texts_in_pieces.1 _ _
        (inPieces_printing hSource hText rfl)
  · exact
      texts_in_pieces.2.2.1 _ _
        (inPieces_printing hSource hText
          (.members (.cons (.part ⟨rfl, hPlain⟩) .nil)))

end Notebook

end NotebookGrading
