import NotebookGrading.Json.Token
import NotebookGrading.Json.Writer

/-
  Quoted texts read back.

  Each character inside a quoted text is written as one
  piece, and the pieces up to the closing quote give back
  the characters.

  Key definitions include:
    * `Json.shortEscaped`
    * `Json.pieceOf`

  Main statements:
    * `Json.pieces?_quotedChar`
    * `Json.characters?_map_pieceOf`
    * `Json.quoted?_quoted`
-/

namespace NotebookGrading

namespace Json

------------------------------------------------------------
-- Single Characters
------------------------------------------------------------

/- The characters that have an escape of their own. -/
def shortEscaped : List Char :=
  ['"', '\\', '\x08', '\x0c', '\n', '\r', '\t']

/- The piece that the written form of a character spells. -/
def pieceOf
    (c : Char) : Piece :=
  if c ∉ shortEscaped ∧ c.toNat < 0x20 then
    .unit c.toNat
  else
    .char c

/- Two hexadecimal digits spell a number below U+0020. -/
theorem unit?_hexDigit
    {n : Nat}
    (h : n < 0x20) :
    unit? '0' '0' (hexDigit (n / 16)) (hexDigit n) =
      some n := by
  have hAll :
      ∀ n : Fin 0x20,
        unit? '0' '0' (hexDigit (n / 16)) (hexDigit n) =
          some n.val := by
    decide
  exact hAll ⟨n, h⟩

/- A character that is not escaped is read as it is. -/
theorem pieces?_plain
    (before : List Piece)
    {c : Char}
    (hQuote : c ≠ '"')
    (hBackslash : c ≠ '\\')
    (hControl : ¬ c.toNat < 0x20)
    (rest : List Char) :
    pieces? before (c :: rest) =
      pieces? (.char c :: before) rest := by
  simp [pieces?, hBackslash, hControl]

/- A number of four digits is read as one unit. -/
theorem pieces?_numbered
    (before : List Piece)
    {n : Nat}
    (h : n < 0x20)
    (rest : List Char) :
    pieces? before
        ('\\' :: 'u' :: '0' :: '0' :: hexDigit (n / 16) ::
          hexDigit n :: rest) =
      pieces? (.unit n :: before) rest := by
  simp [pieces?, unit?_hexDigit h]

/- The written form of a character is read as one piece. -/
theorem pieces?_quotedChar
    (before : List Piece)
    (c : Char)
    (rest : List Char) :
    pieces? before (quotedChar c ++ rest) =
      pieces? (pieceOf c :: before) rest := by
  by_cases hShort : c ∈ shortEscaped
  · simp only [shortEscaped, List.mem_cons,
      List.not_mem_nil, or_false] at hShort
    rcases hShort with
      rfl | rfl | rfl | rfl | rfl | rfl | rfl <;> rfl
  · have hNe := hShort
    simp only [shortEscaped, List.mem_cons,
      List.not_mem_nil, or_false, not_or] at hNe
    by_cases hControl : c.toNat < 0x20
    · simp only [quotedChar, pieceOf, hNe, hShort, hControl,
        if_true, if_false]
      exact pieces?_numbered before hControl rest
    · simp only [quotedChar, pieceOf, hNe, hControl,
        if_false, and_false]
      exact
        pieces?_plain before hNe.1 hNe.2.1 hControl rest

------------------------------------------------------------
-- Whole Texts
------------------------------------------------------------

/- The closing quote ends the pieces. -/
theorem pieces?_flatMap_quotedChar
    (before : List Piece)
    (cs rest : List Char) :
    pieces? before
        (cs.flatMap quotedChar ++ '"' :: rest) =
      some (before.reverse ++ cs.map pieceOf, rest) := by
  induction cs generalizing before with
  | nil => simp [pieces?]
  | cons c cs ih =>
      rw [List.flatMap_cons, List.append_assoc,
        pieces?_quotedChar, ih]
      simp

/- A number below U+0020 stands for its own character. -/
theorem loneUnit?_toNat
    {c : Char}
    (h : c.toNat < 0x20) :
    loneUnit? c.toNat = some c := by
  have hHigh : isHighSurrogate c.toNat = false := by
    simp [isHighSurrogate]
    omega
  have hLow : isLowSurrogate c.toNat = false := by
    simp [isLowSurrogate]
    omega
  simp [loneUnit?, hHigh, hLow]

/- The pieces of a text spell its characters. -/
theorem characters?_map_pieceOf
    (cs : List Char) :
    characters? (cs.map pieceOf) = some cs := by
  unfold characters?
  induction cs with
  | nil => rfl
  | cons c cs ih =>
      by_cases hUnit : c ∉ shortEscaped ∧ c.toNat < 0x20
      · have hHigh : isHighSurrogate c.toNat = false := by
          simp [isHighSurrogate]
          omega
        simp [pieceOf, hUnit, charactersAfter?, hHigh,
          loneUnit?_toNat hUnit.2, ih]
      · simp [pieceOf, hUnit, charactersAfter?, ih]

/- The characters of a quoted text. -/
theorem toList_quoted
    (text : String) :
    (quoted text).toList =
      '"' :: (text.toList.flatMap quotedChar ++ ['"']) := by
  simp [quoted]

/- A quoted text is read back in front of anything. -/
theorem quoted?_quoted
    (text : String)
    (rest : List Char) :
    quoted?
        (text.toList.flatMap quotedChar ++ '"' :: rest) =
      some (some text, rest) := by
  unfold quoted?
  rw [pieces?_flatMap_quotedChar]
  simp [characters?_map_pieceOf]

end Json

end NotebookGrading
