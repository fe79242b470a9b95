import NotebookGrading.Json.Reader
import NotebookGrading.Proofs.Json.Tokens

/-
  Documents read back from their tokens and their texts.

  The machine takes the tokens of a document as one value,
  whatever containers are open around it. A document whose
  texts and numbers read back is therefore what its text
  spells.

  Main statements:
    * `Json.State.run?_tokens`
    * `Json.Document.read?_indented`
-/

namespace NotebookGrading

namespace Json

open Document

namespace State

variable {stack outer : List Frame}
variable {rest : List Token}

------------------------------------------------------------
-- Single Steps
------------------------------------------------------------

theorem run?_cons
    {state next : State}
    {token : Token}
    (h : step? state token = some next) :
    run? state (token :: rest) = run? next rest := by
  rw [run?, h]

/- A value may stand where an item may. -/
theorem run?_itemOrEnd
    (document : Document)
    (stack : List Frame)
    (rest : List Token) :
    run? ⟨.itemOrEnd, stack, none⟩
        (document.tokens ++ rest) =
      run? ⟨.value, stack, none⟩
        (document.tokens ++ rest) := by
  cases document <;>
    simp [tokens, run?, step?]

/- After a key and a colon the value of a member follows. -/
theorem run?_key
    {awaited : Awaited}
    (h : awaited = .key ∨ awaited = .keyOrEnd)
    (members : List (Option String × Document))
    (old key : Option String)
    (outer : List Frame)
    (rest : List Token) :
    run? ⟨awaited, .object members old :: outer, none⟩
        (.string key :: .colon :: rest) =
      run? ⟨.value, .object members key :: outer, none⟩
        rest := by
  rcases h with rfl | rfl
  · rfl
  · simp [run?, step?, key?]

------------------------------------------------------------
-- Whole Documents
------------------------------------------------------------

mutual

/- The tokens of a document put it where it belongs. -/
theorem run?_tokens
    (document : Document)
    (stack : List Frame)
    (rest : List Token) :
    run? ⟨.value, stack, none⟩ (document.tokens ++ rest) =
      run? (finish stack document) rest := by
  cases document with
  | null => exact run?_cons rfl
  | bool value => exact run?_cons rfl
  | number value => exact run?_cons rfl
  | string value => exact run?_cons rfl
  | array items =>
      cases items with
      | nil => rfl
      | cons item items =>
          have hItem :=
            run?_tokens item (.array [] :: stack)
              (itemTokens false items ++ .closeArray :: rest)
          have hItems :=
            run?_itemTokens items [item] stack rest
          simp only [tokens, itemTokens, commaTokens,
            List.cons_append, List.append_assoc,
            List.nil_append, if_true]
          rw [run?_cons rfl, run?_itemOrEnd, hItem]
          exact hItems
  | object members =>
      cases members with
      | nil => rfl
      | cons member members =>
          rcases member with ⟨key, value⟩
          have hValue :=
            run?_tokens value (.object [] key :: stack)
              (memberTokens false members ++
                .closeObject :: rest)
          have hMembers :=
            run?_memberTokens members [(key, value)] key
              stack rest
          simp only [tokens, memberTokens, commaTokens,
            List.cons_append, List.append_assoc,
            List.nil_append, if_true]
          rw [run?_cons rfl, run?_key (Or.inr rfl), hValue]
          exact hMembers

/- The items after the first, up to the end of the array. -/
theorem run?_itemTokens
    (items read : List Document)
    (outer : List Frame)
    (rest : List Token) :
    run? ⟨.separator, .array read :: outer, none⟩
        (itemTokens false items ++ .closeArray :: rest) =
      run? (finish outer (.array (read.reverse ++ items)))
        rest := by
  cases items with
  | nil =>
      rw [List.append_nil]
      rfl
  | cons item items =>
      have hItem :=
        run?_tokens item (.array read :: outer)
          (itemTokens false items ++ .closeArray :: rest)
      have hItems :=
        run?_itemTokens items (item :: read) outer rest
      have hComma :
          step? ⟨.separator, .array read :: outer, none⟩
              .comma =
            some ⟨.value, .array read :: outer, none⟩ := rfl
      simp only [itemTokens, commaTokens,
        List.append_assoc]
      rw [List.reverse_cons, List.append_assoc] at hItems
      exact (run?_cons hComma).trans (hItem.trans hItems)

/- The members after the first, up to the end. -/
theorem run?_memberTokens
    (members read : List (Option String × Document))
    (old : Option String)
    (outer : List Frame)
    (rest : List Token) :
    run? ⟨.separator, .object read old :: outer, none⟩
        (memberTokens false members ++
          .closeObject :: rest) =
      run? (finish outer (.object (read.reverse ++ members)))
        rest := by
  cases members with
  | nil =>
      rw [List.append_nil]
      rfl
  | cons member members =>
      rcases member with ⟨key, value⟩
      have hValue :=
        run?_tokens value (.object read key :: outer)
          (memberTokens false members ++
            .closeObject :: rest)
      have hMembers :=
        run?_memberTokens members ((key, value) :: read) key
          outer rest
      have hComma :
          step? ⟨.separator, .object read old :: outer, none⟩
              .comma =
            some ⟨.key, .object read old :: outer, none⟩ :=
        rfl
      have hKey :=
        run?_key (Or.inl rfl) read old key outer
          (value.tokens ++
            (memberTokens false members ++
              .closeObject :: rest))
      simp only [memberTokens, commaTokens,
        List.cons_append, List.append_assoc]
      rw [List.reverse_cons, List.append_assoc] at hMembers
      exact
        (run?_cons hComma).trans
          (hKey.trans (hValue.trans hMembers))

end

end State

------------------------------------------------------------
-- Texts
------------------------------------------------------------

/-
  The indented text of a document spells the document, if
  its texts and numbers read back.
-/
theorem Document.read?_indented
    {document : Document}
    (h : document.ReadsBack) :
    read? document.indented = some document := by
  have hRun :=
    State.run?_tokens document [] []
  rw [List.append_nil] at hRun
  rw [read?, tokens?_indented h]
  simp only [Option.bind_eq_bind, Option.bind_some,
    State.start]
  rw [hRun]
  rfl

end Json

end NotebookGrading
