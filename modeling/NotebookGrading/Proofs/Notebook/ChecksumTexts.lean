import NotebookGrading.Proofs.Double.WrittenForms
import NotebookGrading.Proofs.Notebook.StampedCells

/-
  Checksum texts of cells with one grade id.

  The parts of a checksum text stand side by side without
  marks between them. Two texts around one grade id can
  therefore be equal only if one is the other, moved along
  by what its points are longer. A flag would then have to
  reach into the points: but the words of the flags end in
  letters that no points hold. The words themselves, and the
  names of the cell types, differ at their ends.

  Key definitions include:
    * `MD5.Collision`
    * `Cell.frontText`
    * `Cell.SameMarks`
    * `Cell.SameCheckedParts`

  Main statements:
    * `MD5.digest_eq_of_hexOfText_eq`
    * `Cell.eq_nil_of_moved`
    * `Cell.checksumText_eq_iff`
    * `Cell.checksumText_unambiguous`
-/

namespace NotebookGrading

------------------------------------------------------------
-- Digests In Hexadecimal
------------------------------------------------------------

namespace MD5

/- The message that is hashed for a text. -/
def bytesOf
    (text : String) : List UInt8 :=
  text.toUTF8.data.toList

/- Two different messages of one digest. -/
structure Collision
    (message other : List UInt8) : Prop where
  ne : message ≠ other
  digest_eq : digest message = digest other

theorem bytesOf_inj
    {text other : String} :
    bytesOf text = bytesOf other ↔ text = other := by
  constructor
  · intro h
    apply String.toByteArray_inj.1
    exact ByteArray.ext (Array.toList_inj.1 h)
  · exact congrArg bytesOf

theorem hexByte_inj
    {byte other : UInt8}
    (h : hexByte byte = hexByte other) :
    byte = other := by
  have hDigits :
      ∀ m < 16, ∀ n < 16,
        Nat.digitChar m = Nat.digitChar n → m = n := by
    decide
  have hByte := byte.toNat_lt
  have hOther := other.toNat_lt
  unfold hexByte at h
  rcases List.cons.inj h with ⟨hHigh, hRest⟩
  have hLow := (List.cons.inj hRest).1
  have hHigh :=
    hDigits _ (by omega) _ (by omega) hHigh
  have hLow := hDigits _ (by omega) _ (by omega) hLow
  apply UInt8.toNat_inj.1
  omega

/- Every byte has two digits, so no two rows are alike. -/
theorem flatMap_hexByte_inj
    {bytes others : List UInt8}
    (h : bytes.flatMap hexByte = others.flatMap hexByte) :
    bytes = others := by
  induction bytes generalizing others with
  | nil =>
      cases others with
      | nil => rfl
      | cons other rest => simp [hexByte] at h
  | cons byte rest ih =>
      cases others with
      | nil => simp [hexByte] at h
      | cons other others =>
          rw [List.flatMap_cons, List.flatMap_cons] at h
          rcases List.append_inj h rfl with ⟨hByte, hRest⟩
          rw [hexByte_inj hByte, ih hRest]

theorem digest_eq_of_hexOfText_eq
    {text other : String}
    (h : hexOfText text = hexOfText other) :
    digest (bytesOf text) = digest (bytesOf other) :=
  flatMap_hexByte_inj (String.ofList_injective h)

end MD5

namespace Cell

------------------------------------------------------------
-- The Words In A Checksum Text
------------------------------------------------------------

/- Words of which none is the end of another. -/
def EndApart
    {α : Type}
    (word : α → String) : Prop :=
  ∀ a b, (word a).toList <:+ (word b).toList → a = b

theorem endApart_flagWord :
    EndApart flagWord := by
  intro flag other
  cases flag <;> cases other <;> decide

theorem endApart_name :
    EndApart CellType.name := by
  intro cellType other
  cases cellType <;> cases other <;> decide

/- Such a word is found again at the end of a text. -/
theorem EndApart.append_inj
    {α : Type}
    {word : α → String}
    (hApart : EndApart word)
    {front other : List Char}
    {a b : α}
    (h : front ++ (word a).toList = other ++ (word b).toList) :
    front = other ∧ a = b := by
  have hFirst :
      (word a).toList <:+ front ++ (word a).toList :=
    List.suffix_append _ _
  have hSecond :
      (word b).toList <:+ front ++ (word a).toList := by
    rw [h]
    exact List.suffix_append _ _
  have hSame : a = b := by
    rcases List.suffix_or_suffix_of_suffix hFirst hSecond with
      hEnd | hEnd
    · exact hApart a b hEnd
    · exact (hApart b a hEnd).symm
  subst hSame
  exact ⟨List.append_cancel_right h, rfl⟩

/- The last letters of a flag. -/
theorem exists_flagWord_eq
    (flag : Bool) :
    ∃ start, ∃ c ∈ ['u', 's'],
      (flagWord flag).toList = start ++ [c, 'e'] := by
  cases flag with
  | true => exact ⟨['T', 'r'], 'u', by decide, by decide⟩
  | false =>
      exact ⟨['F', 'a', 'l'], 's', by decide, by decide⟩

/- The characters that points never hold, or begin with. -/
structure IsPointsText
    (cs : List Char) : Prop where
  not_mem : ∀ c ∈ ['u', 's'], c ∉ cs
  head?_ne : cs.head? ≠ some 'e'

theorem isPointsText_of_isNumeralText
    {sign cs : List Char}
    (hSign : sign ∈ [[], ['-']])
    (h : Double.IsNumeralText cs) :
    IsPointsText (sign ++ cs) := by
  have hLetters :
      ∀ c ∈ ['u', 's'], ¬ Double.IsNumeralChar c := by
    intro c hLetter
    rcases List.mem_pair.1 hLetter with rfl | rfl <;>
      simp [Double.IsNumeralChar, Text.isAsciiDigit]
  rcases h.head with ⟨d, rest, hCs, hDigit⟩
  have hDigitNe : d ≠ 'e' := by
    rintro rfl
    exact absurd hDigit (by decide)
  constructor
  · intro c hLetter hMem
    rcases List.mem_append.1 hMem with hMem | hMem
    · rcases List.mem_pair.1 hSign with rfl | rfl
      · exact absurd hMem List.not_mem_nil
      · rw [List.mem_singleton.1 hMem] at hLetter
        exact absurd hLetter (by decide)
    · exact hLetters c hLetter (h.all c hMem)
  · rw [hCs]
    rcases List.mem_pair.1 hSign with rfl | rfl
    · simpa using hDigitNe
    · simp

theorem isPointsText_pointsText
    (cell : Cell) :
    IsPointsText cell.pointsText.toList := by
  unfold pointsText
  split
  · rcases Double.checksum_cases
        (cell.givenPoints.getD 0) with
      hWord | ⟨sign, cs, hText, hSign, hNumeral⟩
    · revert hWord
      generalize
        (Double.checksum
          (cell.givenPoints.getD 0)).toList = cs
      intro hWord
      have hLetters : 'u' ∉ cs ∧ 's' ∉ cs := by
        revert cs
        decide
      constructor
      · intro c hLetter
        rcases List.mem_pair.1 hLetter with rfl | rfl
        · exact hLetters.1
        · exact hLetters.2
      · revert cs
        decide
    · rw [hText]
      exact isPointsText_of_isNumeralText hSign hNumeral
  · constructor <;> simp

/- A beginning of such a text is one. -/
theorem IsPointsText.of_append
    {cs ds : List Char}
    (h : IsPointsText (cs ++ ds)) :
    IsPointsText cs := by
  constructor
  · intro c hLetter hMem
    exact
      h.not_mem c hLetter (List.mem_append_left ds hMem)
  · intro hHead
    apply h.head?_ne
    rw [List.head?_append, hHead]
    rfl

------------------------------------------------------------
-- Texts Around A Grade Id
------------------------------------------------------------

/- A text that ends in the word of a flag. -/
def EndsInFlag
    (cs : List Char) : Prop :=
  ∃ start flag, cs = start ++ (flagWord flag).toList

/-
  Points that were moved into the text before the grade id
  are no points at all. What the front gains by the move is
  an end of it and holds the letters that the points lose.
  Its last letters are those of a flag: two of them cannot
  be in any points, and one alone cannot begin them.
-/
theorem eq_nil_of_moved
    {front back gradeId moved : List Char}
    (hFront : EndsInFlag front)
    (hMoved : IsPointsText moved)
    (h : front ++ gradeId = back ++ gradeId ++ moved) :
    moved = [] := by
  rcases hFront with ⟨start, flag, hFlag⟩
  rcases exists_flagWord_eq flag with ⟨word, c, hC, hWord⟩
  have hLast : front = start ++ word ++ [c] ++ ['e'] := by
    rw [hFlag, hWord]
    simp
  rw [List.append_assoc] at h
  rcases List.append_eq_append_iff.1 h with
    ⟨gap, -, hId⟩ | ⟨gained, hGained, hId⟩
  · have hLength := congrArg List.length hId
    simp only [List.length_append] at hLength
    exact List.length_eq_zero_iff.1 (by omega)
  · have hPerm : gained.Perm moved := by
      apply (List.perm_append_right_iff gradeId).1
      rw [← hId]
      exact List.perm_append_comm
    rcases List.eq_nil_or_concat' gained with
      rfl | ⟨init, last, rfl⟩
    · exact List.nil_perm.1 hPerm
    · rw [hLast, ← List.append_assoc] at hGained
      rcases List.append_inj' hGained rfl with
        ⟨hInit, hEnd⟩
      rcases List.eq_nil_or_concat' init with
        rfl | ⟨others, letter, rfl⟩
      · have hOne : moved = [last] :=
          (List.singleton_perm.1 hPerm).symm
        rw [hOne, ← hEnd] at hMoved
        exact absurd rfl hMoved.head?_ne
      · rw [← List.append_assoc] at hInit
        have hLetter := (List.append_inj' hInit rfl).2
        have hMem : c ∈ moved := by
          apply hPerm.subset
          rw [List.singleton_inj.1 hLetter]
          simp
        exact absurd hMem (hMoved.not_mem c hC)

/- Both the text before the id and the points are found. -/
theorem append_points_inj
    {front back gradeId points others : List Char}
    (hFront : EndsInFlag front)
    (hBack : EndsInFlag back)
    (hPoints : IsPointsText points)
    (hOthers : IsPointsText others)
    (h :
      front ++ gradeId ++ points =
        back ++ gradeId ++ others) :
    front = back ∧ points = others := by
  rcases List.append_eq_append_iff.1 h with
    ⟨moved, hBackEq, hPointsEq⟩ |
    ⟨moved, hFrontEq, hOthersEq⟩
  · rw [hPointsEq] at hPoints
    have hNil :=
      eq_nil_of_moved hBack hPoints.of_append hBackEq
    rw [hNil, List.append_nil] at hBackEq
    exact
      ⟨(List.append_cancel_right hBackEq).symm,
        by rw [hPointsEq, hNil, List.nil_append]⟩
  · rw [hOthersEq] at hOthers
    have hNil :=
      eq_nil_of_moved hFront hOthers.of_append hFrontEq
    rw [hNil, List.append_nil] at hFrontEq
    exact
      ⟨List.append_cancel_right hFrontEq,
        by rw [hOthersEq, hNil, List.nil_append]⟩

------------------------------------------------------------
-- Cells With One Grade Id
------------------------------------------------------------

/- The part of the checksum text before the grade id. -/
def frontText
    (cell : Cell) : String :=
  cell.source ++ cell.cellType.name ++
    flagWord cell.isGrade ++ flagWord cell.isSolution ++
    flagWord cell.isLocked

theorem checksumText_eq_append
    (cell : Cell) :
    cell.checksumText =
      cell.frontText ++ cell.gradeId.getD "" ++
        cell.pointsText :=
  rfl

theorem endsInFlag_frontText
    (cell : Cell) :
    EndsInFlag cell.frontText.toList := by
  unfold frontText
  rw [String.toList_append]
  exact ⟨_, cell.isLocked, rfl⟩

/- Two cells of one source and type have the same flags. -/
structure SameMarks
    (cell other : Cell) : Prop where
  source : cell.source = other.source
  cellType : cell.cellType = other.cellType
  isGrade : cell.isGrade = other.isGrade
  isSolution : cell.isSolution = other.isSolution
  isLocked : cell.isLocked = other.isLocked

/- If they are scored, their points are also written alike. -/
structure SameCheckedParts
    (cell other : Cell) : Prop
    extends SameMarks cell other where
  points :
    cell.isGrade = true →
      Double.checksum (cell.givenPoints.getD 0) =
        Double.checksum (other.givenPoints.getD 0)

variable {cell other : Cell}

theorem frontText_eq_iff :
    cell.frontText.toList = other.frontText.toList ↔
      cell.SameMarks other := by
  constructor
  · intro h
    unfold frontText at h
    simp only [String.toList_append] at h
    rcases endApart_flagWord.append_inj h with ⟨h, hLocked⟩
    rcases endApart_flagWord.append_inj h with
      ⟨h, hSolution⟩
    rcases endApart_flagWord.append_inj h with ⟨h, hGrade⟩
    rcases endApart_name.append_inj h with ⟨h, hType⟩
    exact
      ⟨String.toList_inj.1 h, hType, hGrade, hSolution,
        hLocked⟩
  · intro h
    unfold frontText
    rw [h.source, h.cellType, h.isGrade, h.isSolution,
      h.isLocked]

theorem pointsText_eq_iff
    (hGrade : cell.isGrade = other.isGrade) :
    cell.pointsText = other.pointsText ↔
      (cell.isGrade = true →
        Double.checksum (cell.givenPoints.getD 0) =
          Double.checksum (other.givenPoints.getD 0)) := by
  unfold pointsText
  rw [← hGrade]
  cases cell.isGrade <;> simp

/- The checksum text says all that it is made from. -/
theorem checksumText_eq_iff
    (hId : cell.gradeId = other.gradeId) :
    cell.checksumText = other.checksumText ↔
      cell.SameCheckedParts other := by
  constructor
  · intro h
    have hList := congrArg String.toList h
    rw [checksumText_eq_append, checksumText_eq_append,
      hId] at hList
    simp only [String.toList_append] at hList
    rcases
        append_points_inj cell.endsInFlag_frontText
          other.endsInFlag_frontText
          cell.isPointsText_pointsText
          other.isPointsText_pointsText hList with
      ⟨hFront, hPoints⟩
    have hMarks := frontText_eq_iff.1 hFront
    exact
      ⟨hMarks,
        (pointsText_eq_iff hMarks.isGrade).1
          (String.toList_inj.1 hPoints)⟩
  · intro h
    have hFront :=
      String.toList_inj.1
        (frontText_eq_iff.2 h.toSameMarks)
    have hPoints :=
      (pointsText_eq_iff h.isGrade).2 h.points
    rw [checksumText_eq_append, checksumText_eq_append,
      hFront, hId, hPoints]

/-
  A cell that passes for another one was given a message
  with the same digest.
-/
theorem digest_eq_of_isUnchanged
    (hStored :
      cell.storedChecksum = other.stamp.storedChecksum)
    (hUnchanged : cell.isUnchanged = true) :
    MD5.digest (MD5.bytesOf cell.checksumText) =
      MD5.digest (MD5.bytesOf other.checksumText) := by
  rw [isUnchanged_iff, hStored, storedChecksum_stamp]
    at hUnchanged
  rcases Option.map_eq_some_iff.1 hUnchanged with
    ⟨_, -, hChecksum⟩
  exact MD5.digest_eq_of_hexOfText_eq hChecksum.symm

/-
  The bytes that are hashed for two cells with one grade id
  are the same exactly if the cells have the same source,
  type and flags and, as grade cells, points that are
  written alike. So let one of them be what became of the
  other after it was stamped, under the grade id it had: a
  change of the source, the type or a flag goes unnoticed
  only for two messages of one digest, whatever became of
  the points.
-/
theorem checksumText_unambiguous
    (edited cell : Cell)
    (hId : edited.gradeId = cell.gradeId) :
    (MD5.bytesOf edited.checksumText =
        MD5.bytesOf cell.checksumText ↔
      edited.SameCheckedParts cell) ∧
    (edited.storedChecksum = cell.stamp.storedChecksum →
      ¬ edited.SameMarks cell →
      edited.isUnchanged = true →
      MD5.Collision (MD5.bytesOf edited.checksumText)
        (MD5.bytesOf cell.checksumText)) := by
  have hBytes :
      MD5.bytesOf edited.checksumText =
          MD5.bytesOf cell.checksumText ↔
        edited.SameCheckedParts cell :=
    MD5.bytesOf_inj.trans (checksumText_eq_iff hId)
  refine ⟨hBytes, ?_⟩
  intro hStored hChanged hUnchanged
  constructor
  · intro hSame
    exact hChanged (hBytes.1 hSame).toSameMarks
  · exact digest_eq_of_isUnchanged hStored hUnchanged

/- A scored code cell. -/
def scoredCode
    (source : String)
    (points : Float) : Cell :=
  (Cell.code source).withGrading
    { gradeId := some "1"
      grade := some true
      points := some points }

/- A cell that was edited with its checksum left in place. -/
def editedAs
    (cell edited : Cell) : Cell :=
  edited.regrade (Grading.withChecksum cell.checksum)

theorem storedChecksum_editedAs
    (cell edited : Cell)
    (hCell : cell.grading.isSome = true)
    (hEdited : edited.grading.isSome = true) :
    (cell.editedAs edited).storedChecksum =
      cell.stamp.storedChecksum := by
  rcases Option.isSome_iff_exists.1 hCell with
    ⟨grading, hGrading⟩
  rcases Option.isSome_iff_exists.1 hEdited with
    ⟨other, hOther⟩
  rw [storedChecksum_stamp, hGrading, storedChecksum,
    editedAs, grading_regrade, hOther]
  rfl

/- Words of the checksum text in the source do not help. -/
theorem checksumText_unambiguous_edited :
    ∃ edited cell : Cell,
      edited.gradeId = cell.gradeId ∧
        edited.storedChecksum = cell.stamp.storedChecksum ∧
        ¬ edited.SameMarks cell ∧
        MD5.bytesOf edited.checksumText ≠
          MD5.bytesOf cell.checksumText ∧
        edited.isUnchanged = false := by
  let cell := scoredCode "x" 12
  let content := scoredCode "xcodeTrueFalseFalse1" 2
  let edited := cell.editedAs content
  have hId : edited.gradeId = cell.gradeId := rfl
  have hStored :
      edited.storedChecksum = cell.stamp.storedChecksum :=
    storedChecksum_editedAs cell content rfl rfl
  have hChanged : ¬ edited.SameMarks cell := by
    intro h
    exact absurd h.source (by decide)
  have hDigest :
      MD5.digest (MD5.bytesOf edited.checksumText) ≠
        MD5.digest (MD5.bytesOf cell.checksumText) := by
    decide +kernel
  rcases checksumText_unambiguous edited cell hId with
    ⟨hBytes, hCollision⟩
  refine ⟨edited, cell, hId, hStored, hChanged, ?_, ?_⟩
  · intro hSame
    exact hChanged (hBytes.1 hSame).toSameMarks
  · rw [← Bool.not_eq_true]
    intro hUnchanged
    exact
      hDigest
        (hCollision hStored hChanged hUnchanged).digest_eq

end Cell

end NotebookGrading
