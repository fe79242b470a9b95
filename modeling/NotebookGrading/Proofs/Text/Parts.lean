import Mathlib.Data.List.TakeWhile
import NotebookGrading.Text.Blank
import NotebookGrading.Text.Lines

/-
  Laws of cutting, joining, searching and trimming texts.

  A text is cut at each of its marks and nowhere else, so
  parts that hold no mark are found again in the text that
  they were joined to. Trimming a text takes the blanks off
  its ends and nothing else.

  Key definitions include:
    * `Text.AllBlank`

  Main statements:
    * `Text.splitOn_append`
    * `Text.mark_not_mem_of_mem_parts`
    * `Text.getLast?_parts`
    * `Text.lines_ofLines`
    * `Text.contains_iff`
    * `Text.exists_trimChars`
    * `Text.trimChars_append`
-/

namespace NotebookGrading

namespace Text

------------------------------------------------------------
-- Cutting
------------------------------------------------------------

/- A text with a mark is cut there. -/
theorem splitOn_append
    (mark : Char)
    (cs ds : List Char) :
    splitOn mark (cs ++ mark :: ds) =
      splitOn mark cs ++ splitOn mark ds := by
  induction cs with
  | nil => simp [splitOn]
  | cons c rest ih =>
      by_cases hMark : c = mark
      · simp [splitOn, hMark, ih]
      · cases hRest : splitOn mark rest with
        | nil => exact absurd hRest (splitOn_ne_nil mark rest)
        | cons part parts =>
            rw [hRest] at ih
            simp [splitOn, hMark, ih, hRest]

/- A text without the mark is not cut. -/
theorem splitOn_of_not_mem
    {mark : Char}
    {cs : List Char}
    (h : mark ∉ cs) :
    splitOn mark cs = [cs] := by
  induction cs with
  | nil => rfl
  | cons c rest ih =>
      rw [List.mem_cons, not_or] at h
      have hMark : c ≠ mark := Ne.symm h.1
      simp [splitOn, hMark, ih h.2]

/- No part holds the mark. -/
theorem mark_not_mem_of_mem_splitOn
    {mark : Char}
    {cs part : List Char}
    (h : part ∈ splitOn mark cs) :
    mark ∉ part := by
  induction cs generalizing part with
  | nil =>
      rw [List.mem_singleton.1 h]
      exact List.not_mem_nil
  | cons c rest ih =>
      unfold splitOn at h
      split at h
      · rcases List.mem_cons.1 h with hNil | hRest
        · rw [hNil]
          exact List.not_mem_nil
        · exact ih hRest
      · rename_i hMark
        cases hSplit : splitOn mark rest with
        | nil =>
            exact absurd hSplit (splitOn_ne_nil mark rest)
        | cons first parts =>
            simp only [hSplit] at h ih
            rcases List.mem_cons.1 h with hFirst | hParts
            · rw [hFirst, List.mem_cons, not_or]
              exact
                ⟨Ne.symm hMark, ih List.mem_cons_self⟩
            · exact ih (List.mem_cons_of_mem first hParts)

theorem mark_not_mem_of_mem_parts
    {mark : Char}
    {text part : String}
    (h : part ∈ parts mark text) :
    mark ∉ part.toList := by
  rcases List.mem_map.1 h with ⟨cs, hMem, rfl⟩
  rw [String.toList_ofList]
  exact mark_not_mem_of_mem_splitOn hMem

/- What comes behind the last mark is the last part. -/
theorem getLast?_parts
    {mark : Char}
    {text last : String}
    {before : List Char}
    (hText : text.toList = before ++ mark :: last.toList)
    (hLast : mark ∉ last.toList) :
    (parts mark text).getLast? = some last := by
  unfold parts
  rw [hText, splitOn_append, splitOn_of_not_mem hLast]
  simp

------------------------------------------------------------
-- Cutting What Was Joined
------------------------------------------------------------

/- A text that was joined from parts has these parts. -/
theorem splitOn_joinWith
    {mark : Char}
    {parts : List (List Char)}
    (hNonempty : parts ≠ [])
    (hMark : ∀ part ∈ parts, mark ∉ part) :
    splitOn mark (joinWith mark parts) = parts := by
  induction parts with
  | nil => exact absurd rfl hNonempty
  | cons part rest ih =>
      have hPart : mark ∉ part :=
        hMark part List.mem_cons_self
      cases rest with
      | nil => exact splitOn_of_not_mem hPart
      | cons next others =>
          rw [joinWith, splitOn_append,
            splitOn_of_not_mem hPart]
          have hRest :=
            ih (List.cons_ne_nil next others)
              (fun other hMem =>
                hMark other (List.mem_cons_of_mem part hMem))
          rw [hRest]
          rfl

theorem parts_ofParts
    {mark : Char}
    {texts : List String}
    (hNonempty : texts ≠ [])
    (hMark : ∀ text ∈ texts, mark ∉ text.toList) :
    parts mark (ofParts mark texts) = texts := by
  unfold parts ofParts
  rw [String.toList_ofList, splitOn_joinWith]
  · simp
  · simpa using hNonempty
  · simpa using hMark

/- Lines that were put together are the lines again. -/
theorem lines_ofLines
    {texts : List String}
    (hNonempty : texts ≠ [])
    (hBreak : ∀ text ∈ texts, '\n' ∉ text.toList) :
    lines (ofLines texts) = texts :=
  parts_ofParts hNonempty hBreak

theorem lines_ne_nil
    (text : String) :
    lines text ≠ [] := by
  simp [lines, parts, splitOn_ne_nil]

------------------------------------------------------------
-- Containment
------------------------------------------------------------

theorem occursIn_iff
    {pattern cs : List Char} :
    occursIn pattern cs = true ↔ pattern <:+: cs := by
  induction cs with
  | nil => simp [occursIn]
  | cons c rest ih =>
      rw [occursIn, Bool.or_eq_true, ih,
        List.isPrefixOf_iff_prefix, List.infix_cons_iff]

/- A text contains what stands somewhere in it. -/
theorem contains_iff
    {text pattern : String} :
    contains text pattern = true ↔
      pattern.toList <:+: text.toList :=
  occursIn_iff

------------------------------------------------------------
-- Rows Of One Kind
------------------------------------------------------------

section Rows

variable {kind : Char → Bool}
variable {cs row rest : List Char}

/- A row of characters of one kind ends before another. -/
theorem row_append
    (hRow : ∀ c ∈ row, kind c = true)
    (hRest : ∀ c ∈ rest.head?, kind c = false) :
    ((row ++ rest).takeWhile kind,
        (row ++ rest).dropWhile kind) =
      (row, rest) := by
  rw [List.takeWhile_append_of_pos hRow,
    List.dropWhile_append_of_pos hRow]
  cases rest with
  | nil => simp
  | cons c rest => simp [hRest c rfl]

theorem eq_row_append
    (h :
      (cs.takeWhile kind, cs.dropWhile kind) =
        (row, rest)) :
    cs = row ++ rest ∧ ∀ c ∈ row, kind c = true := by
  rcases Prod.mk.inj h with ⟨rfl, rfl⟩
  exact
    ⟨List.takeWhile_append_dropWhile.symm,
      fun _ => List.mem_takeWhile_imp⟩

end Rows

------------------------------------------------------------
-- Trimming
------------------------------------------------------------

/- Characters that are all blanks. -/
def AllBlank
    (cs : List Char) : Prop :=
  ∀ c ∈ cs, isBlank c = true

theorem exists_dropTrailingBlanks
    (cs : List Char) :
    ∃ after,
      AllBlank after ∧
        cs = dropTrailingBlanks cs ++ after := by
  refine ⟨(cs.reverse.takeWhile isBlank).reverse, ?_, ?_⟩
  · intro c hMem
    exact List.mem_takeWhile_imp (List.mem_reverse.1 hMem)
  · rw [dropTrailingBlanks, ← List.reverse_append,
      List.takeWhile_append_dropWhile, List.reverse_reverse]

/- Only blanks are trimmed. -/
theorem exists_trimChars
    (cs : List Char) :
    ∃ before after,
      AllBlank before ∧ AllBlank after ∧
        cs = before ++ trimChars cs ++ after := by
  rcases exists_dropTrailingBlanks (cs.dropWhile isBlank) with
    ⟨after, hAfter, hRest⟩
  refine ⟨cs.takeWhile isBlank, after, ?_, hAfter, ?_⟩
  · exact fun c => List.mem_takeWhile_imp
  · rw [trimChars, List.append_assoc, ← hRest,
      List.takeWhile_append_dropWhile]

theorem dropTrailingBlanks_append
    {cs after : List Char}
    {last : Char}
    (hLast : isBlank last = false)
    (hAfter : AllBlank after) :
    dropTrailingBlanks (cs ++ [last] ++ after) =
      cs ++ [last] := by
  have hReverse : AllBlank after.reverse :=
    fun c hMem => hAfter c (List.mem_reverse.1 hMem)
  rw [dropTrailingBlanks, List.reverse_append,
    List.dropWhile_append_of_pos hReverse]
  simp [hLast]

/-
  What begins and ends with other characters is found again
  between blanks.
-/
theorem trimChars_append
    {before cs rest start after : List Char}
    {first last : Char}
    (hBefore : AllBlank before)
    (hFirst : isBlank first = false)
    (hStart : cs = first :: rest)
    (hLast : isBlank last = false)
    (hEnd : cs = start ++ [last])
    (hAfter : AllBlank after) :
    trimChars (before ++ cs ++ after) = cs := by
  have hDrop : (cs ++ after).dropWhile isBlank = cs ++ after := by
    rw [hStart]
    simp [hFirst]
  rw [trimChars, List.append_assoc,
    List.dropWhile_append_of_pos hBefore, hDrop, hEnd]
  exact dropTrailingBlanks_append hLast hAfter

/- Blanks behind another character are dropped as alone. -/
theorem dropTrailingBlanks_cons
    {first : Char}
    (hFirst : isBlank first = false)
    (rest : List Char) :
    dropTrailingBlanks (first :: rest) =
      first :: dropTrailingBlanks rest := by
  rw [dropTrailingBlanks, List.reverse_cons,
    List.dropWhile_append, dropTrailingBlanks]
  split
  · rename_i hNone
    rw [List.isEmpty_iff] at hNone
    simp [hNone, hFirst]
  · rw [List.reverse_append]
    rfl

theorem trimChars_cons
    {first : Char}
    (hFirst : isBlank first = false)
    (rest : List Char) :
    trimChars (first :: rest) =
      first :: dropTrailingBlanks rest := by
  have hDrop :
      (first :: rest).dropWhile isBlank = first :: rest := by
    simp [hFirst]
  rw [trimChars, hDrop, dropTrailingBlanks_cons hFirst]

end Text

end NotebookGrading
