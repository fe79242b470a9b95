import NotebookGrading.Proofs.Json.Numerals
import NotebookGrading.Proofs.Json.Quoted

/-
  Tokens of written documents.

  A document is written as a row of tokens with white space
  between them. Cutting up the text of a document whose
  texts and numbers read back gives these tokens again.

  Key definitions include:
    * `Json.Lexed`
    * `Json.Document.ReadsBack`
    * `Json.Document.tokens`

  Main statements:
    * `Json.Lexed.tokens?_eq`
    * `Json.Document.lexed_indentedAt`
    * `Json.Document.tokens?_indented`
-/

namespace NotebookGrading

namespace Json

------------------------------------------------------------
-- Characters Cut Into Tokens
------------------------------------------------------------

/-
  Characters from which some tokens are cut, up to the
  characters that are left.
-/
inductive Lexed :
    List Char → List Token → List Char → Prop
  | done (rest : List Char) : Lexed rest [] rest
  | space
      {c : Char}
      {cs rest : List Char}
      {tokens : List Token}
      (hSpace : isSpace c = true)
      (h : Lexed cs tokens rest) :
      Lexed (c :: cs) tokens rest
  | token
      {c : Char}
      {cs after rest : List Char}
      {token : Token}
      {tokens : List Token}
      (hSpace : isSpace c = false)
      (hToken : token? (c :: cs) = some (token, after))
      (hShorter : after.length ≤ cs.length)
      (h : Lexed after tokens rest) :
      Lexed (c :: cs) (token :: tokens) rest

namespace Lexed

variable {cs between rest : List Char}
variable {tokens : List Token}

theorem trans
    {later : List Token}
    (hFirst : Lexed cs tokens between)
    (hSecond : Lexed between later rest) :
    Lexed cs (tokens ++ later) rest := by
  induction hFirst with
  | done => exact hSecond
  | space hSpace _ ih => exact space hSpace (ih hSecond)
  | token hSpace hToken hShorter _ ih =>
      exact token hSpace hToken hShorter (ih hSecond)

/- The tokens are what the tokenizer finds. -/
theorem tokensFrom?_eq
    (h : Lexed cs tokens rest)
    (before : List Token)
    {fuel : Nat}
    (hFuel : cs.length ≤ fuel) :
    ∃ left,
      rest.length ≤ left ∧
      tokensFrom? fuel before cs =
        tokensFrom? left (tokens.reverse ++ before)
          rest := by
  induction h generalizing before fuel with
  | done rest => exact ⟨fuel, hFuel, rfl⟩
  | @space c cs rest tokens hSpace _ ih =>
      cases fuel with
      | zero => simp at hFuel
      | succ fuel =>
          have hLeft : cs.length ≤ fuel := by
            simpa using hFuel
          rcases ih before hLeft with ⟨left, hRest, hEq⟩
          refine ⟨left, hRest, ?_⟩
          rw [tokensFrom?, if_pos hSpace, hEq]
  | @token c cs after rest token tokens hSpace hToken
      hShorter _ ih =>
      cases fuel with
      | zero => simp at hFuel
      | succ fuel =>
          have hLeft : after.length ≤ fuel := by
            rw [List.length_cons] at hFuel
            omega
          rcases ih (token :: before) hLeft with
            ⟨left, hRest, hEq⟩
          refine ⟨left, hRest, ?_⟩
          rw [tokensFrom?, hSpace, if_neg (by simp), hToken]
          simp only [hEq, List.reverse_cons,
            List.append_assoc, List.singleton_append]

theorem tokens?_eq
    (h : Lexed cs tokens []) :
    tokens? cs = some tokens := by
  rcases h.tokensFrom?_eq [] (Nat.le_refl cs.length) with
    ⟨left, _, hEq⟩
  rw [tokens?, hEq]
  cases left <;> simp [tokensFrom?]

------------------------------------------------------------
-- Single Tokens
------------------------------------------------------------

/- A single token in front of other characters. -/
theorem single
    {c : Char}
    {cs rest : List Char}
    {token : Token}
    (hSpace : isSpace c = false)
    (hToken : token? (c :: cs) = some (token, rest))
    (hShorter : rest.length ≤ cs.length) :
    Lexed (c :: cs) [token] rest :=
  Lexed.token hSpace hToken hShorter (Lexed.done rest)

/- Spaces hold no token. -/
theorem spaces
    (n : Nat)
    (rest : List Char) :
    Lexed (List.replicate n ' ' ++ rest) [] rest := by
  induction n with
  | zero => exact Lexed.done rest
  | succ n ih =>
      rw [List.replicate_succ, List.cons_append]
      exact Lexed.space rfl ih

theorem newLine
    (depth : Nat)
    (rest : List Char) :
    Lexed ((Document.newLine depth).toList ++ rest) []
      rest := by
  simp only [Document.newLine, String.toList_ofList,
    List.cons_append]
  exact Lexed.space rfl (spaces (2 * depth) rest)

theorem quoted
    (text : String)
    (rest : List Char) :
    Lexed ((Json.quoted text).toList ++ rest)
      [.string (some text)] rest := by
  rw [toList_quoted, List.cons_append, List.append_assoc]
  refine Lexed.single rfl ?_ ?_
  · simp only [token?, List.singleton_append]
    rw [quoted?_quoted]
    rfl
  · simp only [List.length_append]
    omega

theorem isSpace_of_isAsciiDigit
    {c : Char}
    (h : Text.isAsciiDigit c) :
    isSpace c = false := by
  cases hSpace : isSpace c with
  | false => rfl
  | true =>
      simp only [isSpace, Bool.or_eq_true,
        decide_eq_true_eq] at hSpace
      rcases hSpace with ((rfl | rfl) | rfl) | rfl <;>
        exact absurd h (by decide)

theorem number
    {n : Number}
    (h : n.ReadsBack)
    (hRest : EndsNumber rest) :
    Lexed (n.text.toList ++ rest) [.number (some n)]
      rest := by
  have hToken := h.token?_append hRest
  rcases Option.map_eq_some_iff.1 h with
    ⟨⟨numeral, after⟩, hNumeral, _⟩
  rcases head?_of_numeral? hNumeral with
    ⟨c, hHead, hFirst⟩
  rcases List.head?_eq_some_iff.1 hHead with ⟨cs, hText⟩
  rw [hText, List.cons_append] at hToken ⊢
  refine Lexed.single ?_ hToken ?_
  · rcases hFirst with rfl | hDigit
    · rfl
    · exact isSpace_of_isAsciiDigit hDigit
  · rw [List.length_append]
    omega

end Lexed

------------------------------------------------------------
-- Tokens Of Documents
------------------------------------------------------------

namespace Document

mutual

/- All texts and numbers are there and read back. -/
def ReadsBack : Document → Prop
  | .null => True
  | .bool _ => True
  | .number none => False
  | .number (some value) => value.ReadsBack
  | .string value => value.isSome
  | .array items => ItemsReadBack items
  | .object members => MembersReadBack members

def ItemsReadBack : List Document → Prop
  | [] => True
  | item :: rest => ReadsBack item ∧ ItemsReadBack rest

def MembersReadBack :
    List (Option String × Document) → Prop
  | [] => True
  | (key, value) :: rest =>
      key.isSome ∧ ReadsBack value ∧ MembersReadBack rest

end

/- A comma in front of every part but the first. -/
def commaTokens
    (first : Bool) : List Token :=
  if first then [] else [.comma]

mutual

/- The tokens of which a document consists. -/
def tokens : Document → List Token
  | .null => [.null]
  | .bool value => [.bool value]
  | .number value => [.number value]
  | .string value => [.string value]
  | .array items =>
      .openArray :: itemTokens true items ++ [.closeArray]
  | .object members =>
      .openObject ::
        memberTokens true members ++ [.closeObject]

def itemTokens
    (first : Bool) :
    List Document → List Token
  | [] => []
  | item :: rest =>
      commaTokens first ++ tokens item ++
        itemTokens false rest

def memberTokens
    (first : Bool) :
    List (Option String × Document) → List Token
  | [] => []
  | (key, value) :: rest =>
      commaTokens first ++ .string key :: .colon ::
        tokens value ++ memberTokens false rest

end

------------------------------------------------------------
-- Indented Documents
------------------------------------------------------------

theorem lexed_comma
    (first : Bool)
    (rest : List Char) :
    Lexed ((comma first).toList ++ rest)
      (commaTokens first) rest := by
  cases first with
  | true => exact Lexed.done rest
  | false => exact Lexed.single rfl rfl (Nat.le_refl _)

theorem lexed_bool
    (value : Bool)
    (rest : List Char) :
    Lexed ((boolText value).toList ++ rest) [.bool value]
      rest := by
  cases value <;>
    exact Lexed.single rfl rfl (by simp; omega)

theorem lexed_null
    (rest : List Char) :
    Lexed ("null".toList ++ rest) [.null] rest :=
  Lexed.single rfl rfl (by simp; omega)

theorem lexed_emptyArray
    (rest : List Char) :
    Lexed ("[]".toList ++ rest) [.openArray, .closeArray]
      rest :=
  Lexed.token rfl rfl (Nat.le_refl (']' :: rest).length)
    (Lexed.single rfl rfl (Nat.le_refl _))

theorem lexed_emptyObject
    (rest : List Char) :
    Lexed ("\x7b\x7d".toList ++ rest)
      [.openObject, .closeObject] rest :=
  Lexed.token rfl rfl (Nat.le_refl ('\x7d' :: rest).length)
    (Lexed.single rfl rfl (Nat.le_refl _))

theorem endsNumber_newLine
    (depth : Nat)
    (rest : List Char) :
    EndsNumber ((newLine depth).toList ++ rest) := by
  intro c hHead
  have hEq : c = '\n' := by
    simpa [newLine] using hHead.symm
  subst hEq
  decide

theorem endsNumber_indentedItems
    {rest : List Char}
    (hRest : EndsNumber rest)
    (depth : Nat)
    (items : List Document) :
    EndsNumber
      ((indentedItems depth false items).toList ++
        rest) := by
  cases items with
  | nil => exact hRest
  | cons item items =>
      intro c hHead
      have hEq : c = ',' := by
        simpa [indentedItems, comma] using hHead.symm
      subst hEq
      decide

theorem endsNumber_indentedMembers
    {rest : List Char}
    (hRest : EndsNumber rest)
    (depth : Nat)
    (members : List (Option String × Document)) :
    EndsNumber
      ((indentedMembers depth false members).toList ++
        rest) := by
  cases members with
  | nil => exact hRest
  | cons member members =>
      intro c hHead
      have hEq : c = ',' := by
        simpa [indentedMembers, comma] using hHead.symm
      subst hEq
      decide

mutual

/- The text of a document is cut into its tokens. -/
theorem lexed_indentedAt
    (depth : Nat)
    (document : Document)
    (h : document.ReadsBack)
    {rest : List Char}
    (hRest : EndsNumber rest) :
    Lexed ((indentedAt depth document).toList ++ rest)
      document.tokens rest := by
  cases document with
  | null => exact lexed_null rest
  | bool value => exact lexed_bool value rest
  | number value =>
      cases value with
      | none => exact False.elim h
      | some value => exact Lexed.number h hRest
  | string value =>
      cases value with
      | none => simp [ReadsBack] at h
      | some text => exact Lexed.quoted text rest
  | array items =>
      cases items with
      | nil => exact lexed_emptyArray rest
      | cons item items =>
          have hItems :=
            lexed_indentedItems (depth + 1) true
              (item :: items) h
              (endsNumber_newLine depth (']' :: rest))
          have hEnd :
              Lexed
                ((newLine depth).toList ++ (']' :: rest))
                [.closeArray] rest :=
            (Lexed.newLine depth _).trans
              (Lexed.single rfl rfl (Nat.le_refl _))
          have hAll := hItems.trans hEnd
          simp only [indentedAt, String.toList_append,
            List.append_assoc, tokens]
          exact
            Lexed.token rfl rfl (Nat.le_refl _) hAll
  | object members =>
      cases members with
      | nil => exact lexed_emptyObject rest
      | cons member members =>
          have hMembers :=
            lexed_indentedMembers (depth + 1) true
              (member :: members) h
              (endsNumber_newLine depth ('\x7d' :: rest))
          have hEnd :
              Lexed
                ((newLine depth).toList ++ ('\x7d' :: rest))
                [.closeObject] rest :=
            (Lexed.newLine depth _).trans
              (Lexed.single rfl rfl (Nat.le_refl _))
          have hAll := hMembers.trans hEnd
          simp only [indentedAt, String.toList_append,
            List.append_assoc, tokens]
          exact
            Lexed.token rfl rfl (Nat.le_refl _) hAll

theorem lexed_indentedItems
    (depth : Nat)
    (first : Bool)
    (items : List Document)
    (h : ItemsReadBack items)
    {rest : List Char}
    (hRest : EndsNumber rest) :
    Lexed ((indentedItems depth first items).toList ++ rest)
      (itemTokens first items) rest := by
  cases items with
  | nil => exact Lexed.done rest
  | cons item items =>
      have hItem :=
        lexed_indentedAt depth item h.1
          (endsNumber_indentedItems hRest depth items)
      have hItems :=
        lexed_indentedItems depth false items h.2 hRest
      simp only [indentedItems, String.toList_append,
        List.append_assoc, itemTokens]
      exact
        (lexed_comma first _).trans
          ((Lexed.newLine depth _).trans
            (hItem.trans hItems))

theorem lexed_indentedMembers
    (depth : Nat)
    (first : Bool)
    (members : List (Option String × Document))
    (h : MembersReadBack members)
    {rest : List Char}
    (hRest : EndsNumber rest) :
    Lexed
      ((indentedMembers depth first members).toList ++ rest)
      (memberTokens first members) rest := by
  cases members with
  | nil => exact Lexed.done rest
  | cons member members =>
      rcases member with ⟨key, value⟩
      rcases h with ⟨hKey, hValue, hMembers⟩
      cases key with
      | none => simp at hKey
      | some key =>
          have hValue :=
            lexed_indentedAt depth value hValue
              (endsNumber_indentedMembers hRest depth
                members)
          have hMembers :=
            lexed_indentedMembers depth false members
              hMembers hRest
          have hColon :
              ∀ cs, Lexed (": ".toList ++ cs) [.colon] cs :=
            fun cs =>
              (Lexed.single rfl rfl (by simp)).trans
                (Lexed.spaces 1 cs)
          simp only [indentedMembers, String.toList_append,
            List.append_assoc, memberTokens]
          exact
            (lexed_comma first _).trans
              ((Lexed.newLine depth _).trans
                ((Lexed.quoted key _).trans
                  ((hColon _).trans
                    (hValue.trans hMembers))))

end

/- An indented document is cut into its tokens. -/
theorem tokens?_indented
    {document : Document}
    (h : document.ReadsBack) :
    tokens? document.indented.toList =
      some document.tokens := by
  have hLexed :
      Lexed (document.indented.toList ++ [])
        document.tokens [] :=
    lexed_indentedAt 0 document h (by simp [EndsNumber])
  rw [List.append_nil] at hLexed
  exact hLexed.tokens?_eq

end Document

end Json

end NotebookGrading
