import Mathlib.Data.Nat.Find
import NotebookGrading.Notebook.MarkScheme
import NotebookGrading.Proofs.Tables
import NotebookGrading.Proofs.Text.Parts

/-
  Which lines belong to mark scheme regions.

  Said by positions, a region lies between a begin line and
  the next end line. The scanner knows only whether a region
  is open, that is, whether there was a begin line with no
  end line since. It gets through just when every begin line
  is followed by an end line before any further begin line,
  and then the lines it keeps are those outside of regions.
  What it keeps holds no begin line, so it is kept again.

  Key definitions include:
    * `MarkScheme.Begins`, `MarkScheme.Ends`
    * `MarkScheme.IsPaired`
    * `MarkScheme.LiesWithin`
    * `MarkScheme.remaining`
    * `MarkScheme.OpenAt`
    * `MarkScheme.removeRegions`

  Main statements:
    * `MarkScheme.scan_cons_of_begins`
    * `MarkScheme.scan_cons_of_ends`
    * `MarkScheme.scan_cons_of_plain`
    * `MarkScheme.scan_drop_eq_ok_iff`
    * `MarkScheme.scan_eq_ok_iff`
    * `MarkScheme.clearCell_eq_removeRegions`
    * `MarkScheme.clearCell_eq_ok_iff`
    * `MarkScheme.clearCell_of_clearCell`
    * `MarkScheme.removeRegions_exact`
-/

namespace NotebookGrading

namespace MarkScheme

variable {scheme : MarkScheme}
variable {lines kept : List String}
variable {line : String}
variable {i : Nat}

------------------------------------------------------------
-- Begin And End Lines
------------------------------------------------------------

/- The line contains the text that begins a region. -/
def Begins
    (scheme : MarkScheme)
    (line : String) : Prop :=
  scheme.begins.toList <:+: line.toList

/- The line contains the text that ends a region only. -/
def Ends
    (scheme : MarkScheme)
    (line : String) : Prop :=
  scheme.ends.toList <:+: line.toList ∧
    ¬ scheme.Begins line

theorem isBegin_iff :
    scheme.isBegin line = true ↔ scheme.Begins line :=
  Text.contains_iff

theorem isEnd_iff :
    scheme.isEnd line = true ↔ scheme.Ends line := by
  rw [isEnd, Bool.and_eq_true, Text.contains_iff,
    Bool.not_eq_true', ← Bool.not_eq_true, isBegin_iff]
  exact and_comm

instance
    (scheme : MarkScheme)
    (line : String) :
    Decidable (scheme.Begins line) :=
  decidable_of_iff _ isBegin_iff

instance
    (scheme : MarkScheme)
    (line : String) :
    Decidable (scheme.Ends line) :=
  decidable_of_iff _ isEnd_iff

/- There is a begin line at a position. -/
def BeginsAt
    (scheme : MarkScheme)
    (lines : List String)
    (i : Nat) : Prop :=
  ∃ line ∈ lines[i]?, scheme.Begins line

/- There is an end line at a position. -/
def EndsAt
    (scheme : MarkScheme)
    (lines : List String)
    (i : Nat) : Prop :=
  ∃ line ∈ lines[i]?, scheme.Ends line

instance
    (scheme : MarkScheme)
    (lines : List String)
    (i : Nat) :
    Decidable (scheme.BeginsAt lines i) := by
  unfold BeginsAt
  infer_instance

instance
    (scheme : MarkScheme)
    (lines : List String)
    (i : Nat) :
    Decidable (scheme.EndsAt lines i) := by
  unfold EndsAt
  infer_instance

theorem beginsAt_iff
    (h : lines[i]? = some line) :
    scheme.BeginsAt lines i ↔ scheme.Begins line := by
  simp [BeginsAt, h]

theorem endsAt_iff
    (h : lines[i]? = some line) :
    scheme.EndsAt lines i ↔ scheme.Ends line := by
  simp [EndsAt, h]

theorem BeginsAt.lt_length
    (h : scheme.BeginsAt lines i) :
    i < lines.length := by
  rcases h with ⟨line, hLine, -⟩
  exact (List.getElem?_eq_some_iff.1 hLine).1

theorem EndsAt.lt_length
    (h : scheme.EndsAt lines i) :
    i < lines.length := by
  rcases h with ⟨line, hLine, -⟩
  exact (List.getElem?_eq_some_iff.1 hLine).1

/- No line is both. -/
theorem EndsAt.not_beginsAt
    (h : scheme.EndsAt lines i) :
    ¬ scheme.BeginsAt lines i := by
  rcases h with ⟨line, hLine, hEnds⟩
  rw [beginsAt_iff hLine]
  exact hEnds.2

------------------------------------------------------------
-- Regions
------------------------------------------------------------

/- From a position on, an end line comes before any begin. -/
def ClosesFrom
    (scheme : MarkScheme)
    (lines : List String)
    (i : Nat) : Prop :=
  ∃ e, i ≤ e ∧ scheme.EndsAt lines e ∧
    ∀ k, i ≤ k → k < e → ¬ scheme.BeginsAt lines k

/-
  Every begin line is followed by an end line before any
  further begin line.
-/
def IsPaired
    (scheme : MarkScheme)
    (lines : List String) : Prop :=
  ∀ b, scheme.BeginsAt lines b →
    scheme.ClosesFrom lines (b + 1)

/- A position between a begin line and the next end line. -/
def LiesWithin
    (scheme : MarkScheme)
    (lines : List String)
    (i : Nat) : Prop :=
  ∃ b < i, scheme.BeginsAt lines b ∧
    ∃ e < lines.length, i < e ∧ scheme.EndsAt lines e ∧
      ∀ k < e, b < k → ¬ scheme.EndsAt lines k

/- A line that is no delimiter and in no region. -/
def Stays
    (scheme : MarkScheme)
    (lines : List String)
    (i : Nat) : Prop :=
  ¬ scheme.BeginsAt lines i ∧ ¬ scheme.EndsAt lines i ∧
    ¬ scheme.LiesWithin lines i

instance
    (scheme : MarkScheme)
    (lines : List String)
    (i : Nat) :
    Decidable (scheme.Stays lines i) := by
  unfold Stays LiesWithin
  infer_instance

/- The lines that are no delimiters and in no region. -/
def remaining
    (scheme : MarkScheme)
    (lines : List String) : List String :=
  (lines.zipIdx.filter
    (fun entry => scheme.Stays lines entry.2)).map Prod.fst

------------------------------------------------------------
-- Open Regions
------------------------------------------------------------

/- There was a begin line, and no end line since. -/
def OpenAt
    (scheme : MarkScheme)
    (lines : List String)
    (i : Nat) : Prop :=
  ∃ b < i, scheme.BeginsAt lines b ∧
    ∀ k < i, b < k → ¬ scheme.EndsAt lines k

instance
    (scheme : MarkScheme)
    (lines : List String)
    (i : Nat) :
    Decidable (scheme.OpenAt lines i) := by
  unfold OpenAt
  infer_instance

theorem not_openAt_zero :
    ¬ scheme.OpenAt lines 0 := by
  simp [OpenAt]

/- What one line does to a region. -/
theorem openAt_succ_iff :
    scheme.OpenAt lines (i + 1) ↔
      scheme.BeginsAt lines i ∨
        scheme.OpenAt lines i ∧ ¬ scheme.EndsAt lines i := by
  constructor
  · rintro ⟨b, hLt, hBegins, hNone⟩
    rcases Nat.lt_succ_iff_lt_or_eq.1 hLt with hBefore | rfl
    · refine .inr ⟨⟨b, hBefore, hBegins, ?_⟩, ?_⟩
      · exact fun k hk => hNone k (Nat.lt_succ_of_lt hk)
      · exact hNone i (Nat.lt_succ_self i) hBefore
    · exact .inl hBegins
  · rintro (hBegins | ⟨⟨b, hLt, hBegins, hNone⟩, hNot⟩)
    · refine ⟨i, Nat.lt_succ_self i, hBegins, ?_⟩
      intro k hk hAfter
      omega
    · refine ⟨b, Nat.lt_succ_of_lt hLt, hBegins, ?_⟩
      intro k hk hAfter
      rcases Nat.lt_succ_iff_lt_or_eq.1 hk with hBefore | rfl
      · exact hNone k hBefore hAfter
      · exact hNot

theorem closesFrom_iff :
    scheme.ClosesFrom lines i ↔
      scheme.EndsAt lines i ∨
        ¬ scheme.BeginsAt lines i ∧
          scheme.ClosesFrom lines (i + 1) := by
  constructor
  · rintro ⟨e, hLe, hEnds, hNone⟩
    rcases Nat.eq_or_lt_of_le hLe with rfl | hLt
    · exact .inl hEnds
    · refine
        .inr ⟨hNone i (Nat.le_refl i) hLt, e, hLt, hEnds, ?_⟩
      exact fun k hk => hNone k (Nat.le_of_succ_le hk)
  · rintro (hEnds | ⟨hNot, e, hLe, hEnds, hNone⟩)
    · refine ⟨i, Nat.le_refl i, hEnds, ?_⟩
      intro k hk hBefore
      omega
    · refine ⟨e, Nat.le_of_succ_le hLe, hEnds, ?_⟩
      intro k hk hBefore
      rcases Nat.eq_or_lt_of_le hk with rfl | hLt
      · exact hNot
      · exact hNone k hLt hBefore

/-
  What is left of the pairing at a position: an open region
  closes, and so does each that begins from there on.
-/
def PairedFrom
    (scheme : MarkScheme)
    (lines : List String)
    (i : Nat) : Prop :=
  (scheme.OpenAt lines i → scheme.ClosesFrom lines i) ∧
    ∀ b, i ≤ b → scheme.BeginsAt lines b →
      scheme.ClosesFrom lines (b + 1)

theorem pairedFrom_zero_iff :
    scheme.PairedFrom lines 0 ↔ scheme.IsPaired lines := by
  simp [PairedFrom, IsPaired, not_openAt_zero]

/- One line must not begin a region inside of another. -/
theorem pairedFrom_iff :
    scheme.PairedFrom lines i ↔
      (scheme.BeginsAt lines i → ¬ scheme.OpenAt lines i) ∧
        scheme.PairedFrom lines (i + 1) := by
  have hFirst :
      (∀ b, i ≤ b → scheme.BeginsAt lines b →
        scheme.ClosesFrom lines (b + 1)) ↔
        (scheme.BeginsAt lines i →
          scheme.ClosesFrom lines (i + 1)) ∧
          ∀ b, i + 1 ≤ b → scheme.BeginsAt lines b →
            scheme.ClosesFrom lines (b + 1) := by
    constructor
    · intro h
      exact
        ⟨h i (Nat.le_refl i),
          fun b hb => h b (Nat.le_of_succ_le hb)⟩
    · rintro ⟨hHere, hLater⟩ b hb
      rcases Nat.eq_or_lt_of_le hb with rfl | hLt
      · exact hHere
      · exact hLater b hLt
  have hExclusive :
      scheme.EndsAt lines i → ¬ scheme.BeginsAt lines i :=
    EndsAt.not_beginsAt
  unfold PairedFrom
  rw [hFirst, closesFrom_iff, openAt_succ_iff]
  tauto

/- Behind the last line nothing may be open. -/
theorem pairedFrom_of_length_le
    (h : lines.length ≤ i) :
    scheme.PairedFrom lines i ↔ ¬ scheme.OpenAt lines i := by
  have hNoEnd : ¬ scheme.ClosesFrom lines i := by
    rintro ⟨e, hLe, hEnds, -⟩
    have hLt := hEnds.lt_length
    omega
  constructor
  · exact fun hPaired hOpen => hNoEnd (hPaired.1 hOpen)
  · intro hClosed
    refine ⟨fun hOpen => absurd hOpen hClosed, ?_⟩
    intro b hb hBegins
    have hLt := hBegins.lt_length
    omega

------------------------------------------------------------
-- Lines Outside Of Open Regions
------------------------------------------------------------

/- A line that is no delimiter and in no open region. -/
def IsOutside
    (scheme : MarkScheme)
    (lines : List String)
    (i : Nat) : Prop :=
  ¬ scheme.BeginsAt lines i ∧ ¬ scheme.EndsAt lines i ∧
    ¬ scheme.OpenAt lines i

instance
    (scheme : MarkScheme)
    (lines : List String)
    (i : Nat) :
    Decidable (scheme.IsOutside lines i) := by
  unfold IsOutside
  infer_instance

/- The lines from a position on that are outside. -/
def outsideFrom
    (scheme : MarkScheme)
    (lines : List String)
    (i : Nat) : List String :=
  (((lines.drop i).zipIdx i).filter
    (fun entry => scheme.IsOutside lines entry.2)).map
      Prod.fst

theorem outsideFrom_of_length_le
    (h : lines.length ≤ i) :
    scheme.outsideFrom lines i = [] := by
  simp [outsideFrom, List.drop_of_length_le h]

theorem outsideFrom_of_getElem?
    (h : lines[i]? = some line) :
    scheme.outsideFrom lines i =
      if scheme.IsOutside lines i then
        line :: scheme.outsideFrom lines (i + 1)
      else
        scheme.outsideFrom lines (i + 1) := by
  rcases List.getElem?_eq_some_iff.1 h with ⟨hLt, rfl⟩
  unfold outsideFrom
  rw [List.drop_eq_getElem_cons hLt, List.zipIdx_cons,
    List.filter_cons]
  by_cases hOutside : scheme.IsOutside lines i
  · simp [hOutside]
  · simp [hOutside]

/-
  In paired lines an open region is one that closes, so the
  next end line is there. The region is looked at from a
  line that does not end it.
-/
theorem liesWithin_iff_openAt
    (hPaired : scheme.IsPaired lines)
    (hNot : ¬ scheme.EndsAt lines i) :
    scheme.LiesWithin lines i ↔ scheme.OpenAt lines i := by
  constructor
  · rintro ⟨b, hLt, hBegins, e, -, hBefore, -, hNone⟩
    refine ⟨b, hLt, hBegins, ?_⟩
    exact fun k hk => hNone k (Nat.lt_trans hk hBefore)
  · rintro ⟨b, hLt, hBegins, hNone⟩
    have hExists : ∃ e, b < e ∧ scheme.EndsAt lines e := by
      rcases hPaired b hBegins with ⟨e, hLe, hEnds, -⟩
      exact ⟨e, hLe, hEnds⟩
    have hNext := Nat.find_spec hExists
    have hLeast :
        ∀ k < Nat.find hExists, b < k →
          ¬ scheme.EndsAt lines k := by
      intro k hk hAfter hEnds
      exact Nat.find_min hExists hk ⟨hAfter, hEnds⟩
    refine
      ⟨b, hLt, hBegins, Nat.find hExists,
        hNext.2.lt_length, ?_, hNext.2, hLeast⟩
    by_contra hBefore
    rcases Nat.eq_or_lt_of_le (Nat.le_of_not_lt hBefore) with
      hHere | hEarlier
    · rw [hHere] at hNext
      exact hNot hNext.2
    · exact hNone _ hEarlier hNext.1 hNext.2

theorem outsideFrom_zero
    (hPaired : scheme.IsPaired lines) :
    scheme.outsideFrom lines 0 = scheme.remaining lines := by
  have hIff (i : Nat) :
      scheme.IsOutside lines i ↔ scheme.Stays lines i := by
    unfold IsOutside Stays
    by_cases hEnds : scheme.EndsAt lines i
    · simp [hEnds]
    · rw [liesWithin_iff_openAt hPaired hEnds]
  simp [outsideFrom, remaining, hIff]

------------------------------------------------------------
-- The Scanner
------------------------------------------------------------

/- Nothing may be open behind the last line. -/
theorem scan_nil_eq_ok_iff
    {inRegion : Bool} :
    scheme.scan inRegion [] = .ok kept ↔
      inRegion = false ∧ kept = [] := by
  cases inRegion with
  | true => simp [scan]
  | false => simp [scan, eq_comm]

/- A begin line opens a region where none is open. -/
theorem scan_cons_of_begins
    {inRegion : Bool}
    (hBegins : scheme.Begins line)
    (rest : List String) :
    scheme.scan inRegion (line :: rest) = .ok kept ↔
      inRegion = false ∧
        scheme.scan true rest = .ok kept := by
  rw [scan, if_pos (isBegin_iff.2 hBegins)]
  cases inRegion with
  | true => simp
  | false => simp

/- An end line leaves no region open. -/
theorem scan_cons_of_ends
    (inRegion : Bool)
    (hEnds : scheme.Ends line)
    (rest : List String) :
    scheme.scan inRegion (line :: rest) =
      scheme.scan false rest := by
  have hNotBegin : ¬ scheme.isBegin line = true := by
    rw [isBegin_iff]
    exact hEnds.2
  rw [scan, if_neg hNotBegin, if_pos (isEnd_iff.2 hEnds)]

/- Any other line is kept unless a region is open. -/
theorem scan_cons_of_plain
    {inRegion : Bool}
    (hNotBegin : ¬ scheme.Begins line)
    (hNotEnd : ¬ scheme.Ends line)
    (rest : List String) :
    scheme.scan inRegion (line :: rest) = .ok kept ↔
      ∃ others,
        scheme.scan inRegion rest = .ok others ∧
        kept = if inRegion then others else line :: others := by
  rw [← isBegin_iff] at hNotBegin
  rw [← isEnd_iff] at hNotEnd
  rw [scan, if_neg hNotBegin, if_neg hNotEnd]
  cases scheme.scan inRegion rest with
  | error fault => simp
  | ok others => simp [eq_comm]

/-
  The scanner at a position, given whether a region is open
  there. The induction is over the lines that are left.
-/
theorem scan_drop_eq_ok_iff
    (scheme : MarkScheme)
    (lines : List String)
    (i : Nat)
    (kept : List String) :
    scheme.scan (scheme.OpenAt lines i) (lines.drop i) =
        .ok kept ↔
      scheme.PairedFrom lines i ∧
        kept = scheme.outsideFrom lines i := by
  induction hRest : lines.drop i generalizing i kept with
  | nil =>
      have hLength : lines.length ≤ i :=
        List.drop_eq_nil_iff.1 hRest
      rw [scan_nil_eq_ok_iff, decide_eq_false_iff_not,
        pairedFrom_of_length_le hLength,
        outsideFrom_of_length_le hLength]
  | cons line rest ih =>
      have hLine : lines[i]? = some line := by
        rw [← List.head?_drop, hRest]
        rfl
      have hDrop : lines.drop (i + 1) = rest := by
        rw [← List.tail_drop, hRest]
        rfl
      have hNext := fun kept => ih (i + 1) kept hDrop
      rw [pairedFrom_iff, outsideFrom_of_getElem? hLine]
      by_cases hBegin : scheme.BeginsAt lines i
      · have hOpens : scheme.OpenAt lines (i + 1) :=
          openAt_succ_iff.2 (.inl hBegin)
        have hNotOutside : ¬ scheme.IsOutside lines i :=
          fun h => h.1 hBegin
        rw [scan_cons_of_begins ((beginsAt_iff hLine).1 hBegin),
          decide_eq_false_iff_not, if_neg hNotOutside]
        simp only [hOpens, decide_true] at hNext
        rw [hNext, and_assoc]
        simp only [hBegin, true_implies]
      · by_cases hEnd : scheme.EndsAt lines i
        · have hCloses : ¬ scheme.OpenAt lines (i + 1) := by
            rw [openAt_succ_iff]
            tauto
          have hNotOutside : ¬ scheme.IsOutside lines i :=
            fun h => h.2.1 hEnd
          rw [scan_cons_of_ends _ ((endsAt_iff hLine).1 hEnd),
            if_neg hNotOutside]
          simp only [hCloses, decide_false] at hNext
          rw [hNext]
          simp only [hBegin, false_implies, true_and]
        · have hSame :
              scheme.OpenAt lines (i + 1) ↔
                scheme.OpenAt lines i := by
            rw [openAt_succ_iff]
            tauto
          have hOutside :
              scheme.IsOutside lines i ↔
                ¬ scheme.OpenAt lines i := by
            unfold IsOutside
            tauto
          rw [scan_cons_of_plain
            (mt (beginsAt_iff hLine).2 hBegin)
            (mt (endsAt_iff hLine).2 hEnd)]
          simp only [hSame] at hNext
          simp only [hNext, and_assoc, exists_and_left,
            exists_eq_left, hBegin, false_implies, true_and,
            hOutside, ite_not, decide_eq_true_eq]

/- The scanner of all lines, said by positions. -/
theorem scan_eq_ok_iff :
    scheme.scan false lines = .ok kept ↔
      scheme.IsPaired lines ∧
        kept = scheme.remaining lines := by
  have hStart := scheme.scan_drop_eq_ok_iff lines 0 kept
  simp only [not_openAt_zero, decide_false, List.drop_zero,
    pairedFrom_zero_iff] at hStart
  rw [hStart]
  constructor
  · rintro ⟨hPaired, rfl⟩
    exact ⟨hPaired, outsideFrom_zero hPaired⟩
  · rintro ⟨hPaired, rfl⟩
    exact ⟨hPaired, (outsideFrom_zero hPaired).symm⟩

/- Where the scanner fails some begin line is left open. -/
theorem not_isPaired_of_scan_eq_error
    {fault : MarkSchemeFault}
    (h : scheme.scan false lines = .error fault) :
    ¬ scheme.IsPaired lines := by
  intro hPaired
  have hOk := scan_eq_ok_iff.2 ⟨hPaired, rfl⟩
  rw [h] at hOk
  cases hOk

------------------------------------------------------------
-- Remaining Lines
------------------------------------------------------------

theorem remaining_sublist
    (scheme : MarkScheme)
    (lines : List String) :
    (scheme.remaining lines).Sublist lines := by
  have hFilter :=
    (List.filter_sublist
      (p := fun entry => scheme.Stays lines entry.2)
      (l := lines.zipIdx)).map Prod.fst
  rwa [List.zipIdx_map_fst] at hFilter

/- A line that remains is no delimiter. -/
theorem not_begins_of_mem_remaining
    (h : line ∈ scheme.remaining lines) :
    ¬ scheme.Begins line ∧ ¬ scheme.Ends line := by
  rcases List.mem_map.1 h with ⟨⟨own, i⟩, hEntry, rfl⟩
  rcases List.mem_filter.1 hEntry with ⟨hMem, hStays⟩
  have hLine : lines[i]? = some own :=
    List.mk_mem_zipIdx_iff_getElem?.1 hMem
  have hStaysAt : scheme.Stays lines i :=
    of_decide_eq_true hStays
  rw [Stays, beginsAt_iff hLine, endsAt_iff hLine] at hStaysAt
  exact ⟨hStaysAt.1, hStaysAt.2.1⟩

/- Without delimiters there are no regions. -/
theorem remaining_of_plain
    (h :
      ∀ line ∈ lines,
        ¬ scheme.Begins line ∧ ¬ scheme.Ends line) :
    scheme.remaining lines = lines := by
  have hNone (i : Nat) :
      ¬ scheme.BeginsAt lines i ∧ ¬ scheme.EndsAt lines i := by
    constructor
    · rintro ⟨line, hLine, hBegins⟩
      exact (h line (List.mem_of_getElem? hLine)).1 hBegins
    · rintro ⟨line, hLine, hEnds⟩
      exact (h line (List.mem_of_getElem? hLine)).2 hEnds
  have hStays (i : Nat) : scheme.Stays lines i := by
    refine ⟨(hNone i).1, (hNone i).2, ?_⟩
    rintro ⟨b, -, hBegins, -⟩
    exact (hNone b).1 hBegins
  simp [remaining, hStays, List.zipIdx_map_fst]

theorem isPaired_of_forall_not_begins
    (h : ∀ line ∈ lines, ¬ scheme.Begins line) :
    scheme.IsPaired lines := by
  rintro b ⟨line, hLine, hBegins⟩
  exact absurd hBegins (h line (List.mem_of_getElem? hLine))

/-
  An empty text begins a region in every line, and none ever
  ends.
-/
theorem IsPaired.not_begins_empty
    (h : scheme.IsPaired lines)
    (hNonempty : lines ≠ []) :
    ¬ scheme.Begins "" := by
  intro hEmpty
  have hBegins (line : String) : scheme.Begins line := by
    have hNil : scheme.begins.toList = [] := by
      simpa [Begins] using hEmpty
    rw [Begins, hNil]
    exact List.nil_infix
  cases lines with
  | nil => exact hNonempty rfl
  | cons first rest =>
      rcases h 0 ⟨first, rfl, hBegins first⟩ with
        ⟨e, -, ⟨line, -, hEnds⟩, -⟩
      exact hEnds.2 (hBegins line)

------------------------------------------------------------
-- Texts
------------------------------------------------------------

/- The text without its regions, and whether it had any. -/
def removeRegions
    (scheme : MarkScheme)
    (source : String) :
    Except MarkSchemeFault (String × Bool) :=
  match scheme.scan false (Text.lines source) with
  | .error fault => .error fault
  | .ok kept =>
      .ok
        (Text.ofLines kept,
          scheme.hasRegion (Text.lines source))

/- The text of the lines that remain. -/
def remainingText
    (scheme : MarkScheme)
    (source : String) : String :=
  Text.ofLines (scheme.remaining (Text.lines source))

theorem removeRegions_eq_ok_iff
    {source text : String}
    {removed : Bool} :
    scheme.removeRegions source = .ok (text, removed) ↔
      scheme.IsPaired (Text.lines source) ∧
        text = scheme.remainingText source ∧
        removed = scheme.hasRegion (Text.lines source) := by
  unfold removeRegions remainingText
  cases hScan : scheme.scan false (Text.lines source) with
  | error fault => simp [not_isPaired_of_scan_eq_error hScan]
  | ok kept =>
      rcases scan_eq_ok_iff.1 hScan with ⟨hPaired, rfl⟩
      simp [hPaired, eq_comm]

/-
  The lines of what remains are the lines that remain; if
  there are none, the text has the one empty line.
-/
theorem lines_remainingText
    (scheme : MarkScheme)
    (source : String) :
    Text.lines (scheme.remainingText source) =
      if scheme.remaining (Text.lines source) = [] then
        [""]
      else
        scheme.remaining (Text.lines source) := by
  unfold remainingText
  split
  · rename_i hNone
    rw [hNone]
    rfl
  · rename_i hSome
    apply Text.lines_ofLines hSome
    intro line hMem
    exact
      Text.mark_not_mem_of_mem_parts
        ((scheme.remaining_sublist _).subset hMem)

/- Once the regions are gone no line begins one. -/
theorem not_begins_of_mem_remainingText
    {source : String}
    (hPaired : scheme.IsPaired (Text.lines source))
    (h : line ∈ Text.lines (scheme.remainingText source)) :
    ¬ scheme.Begins line := by
  rw [lines_remainingText] at h
  split at h
  · rw [List.mem_singleton.1 h]
    exact hPaired.not_begins_empty (Text.lines_ne_nil source)
  · exact (not_begins_of_mem_remaining h).1

/-
  What remained remains again. A text of which nothing was
  left is empty, and stays so even if an empty line counts
  as an end line.
-/
theorem remainingText_remainingText
    (scheme : MarkScheme)
    (source : String) :
    scheme.remainingText (scheme.remainingText source) =
      scheme.remainingText source := by
  have hLines := scheme.lines_remainingText source
  conv_lhs => rw [remainingText, hLines]
  split
  · rename_i hNone
    have hEmpty : scheme.remainingText source = "" := by
      rw [remainingText, hNone]
      rfl
    rw [hEmpty]
    rcases List.sublist_singleton.1
      (scheme.remaining_sublist [""]) with hNil | hOne
    · rw [hNil]
      rfl
    · rw [hOne]
      rfl
  · rw [remaining_of_plain
      (fun line => not_begins_of_mem_remaining)]
    rfl

------------------------------------------------------------
-- Cells
------------------------------------------------------------

/-
  A cell gets the text without its regions, unless it had
  any and they are refused there.
-/
theorem clearCell_eq_removeRegions
    (scheme : MarkScheme)
    (cell : Cell) :
    scheme.clearCell cell =
      match scheme.removeRegions cell.source with
      | .error fault => .error fault
      | .ok (text, removed) =>
          if removed && !cell.isTask && scheme.enforced then
            .error .misplaced
          else
            .ok { cell with source := text } := by
  unfold clearCell removeRegions
  simp only
  cases scheme.scan false (Text.lines cell.source) with
  | error fault => rfl
  | ok kept => rfl

/-
  A cell is cleared when its lines are paired and, where
  this is enforced, it is a task or has no begin line.
-/
theorem clearCell_eq_ok_iff
    {cell cleared : Cell} :
    scheme.clearCell cell = .ok cleared ↔
      scheme.IsPaired (Text.lines cell.source) ∧
        (scheme.enforced = true →
          cell.isTask = false →
            scheme.hasRegion (Text.lines cell.source) =
              false) ∧
        cleared =
          { cell with
            source := scheme.remainingText cell.source } := by
  unfold clearCell
  simp only
  cases hScan : scheme.scan false (Text.lines cell.source) with
  | error fault => simp [not_isPaired_of_scan_eq_error hScan]
  | ok kept =>
      rcases scan_eq_ok_iff.1 hScan with ⟨hPaired, rfl⟩
      simp only [hPaired, true_and]
      split
      · rename_i hRefused
        simp only [Bool.and_eq_true, Bool.not_eq_true']
          at hRefused
        simp [hRefused]
      · rename_i hNotRefused
        have hAllowed :
            scheme.enforced = true →
              cell.isTask = false →
                scheme.hasRegion (Text.lines cell.source) =
                  false := by
          intro hEnforced hNoTask
          simpa [hEnforced, hNoTask] using hNotRefused
        rw [and_iff_right hAllowed, Except.ok.injEq, eq_comm]
        rfl

/- A cell that was cleared is cleared again as it is. -/
theorem clearCell_of_clearCell
    {cell cleared : Cell}
    (h : scheme.clearCell cell = .ok cleared) :
    scheme.clearCell cleared = .ok cleared := by
  rcases clearCell_eq_ok_iff.1 h with ⟨hPaired, -, rfl⟩
  have hNone :
      ∀ line ∈ Text.lines (scheme.remainingText cell.source),
        ¬ scheme.Begins line :=
    fun line hMem =>
      not_begins_of_mem_remainingText hPaired hMem
  refine
    clearCell_eq_ok_iff.2
      ⟨isPaired_of_forall_not_begins hNone, ?_, ?_⟩
  · intro _ _
    rw [hasRegion, List.any_eq_false]
    intro line hMem
    rw [isBegin_iff]
    exact hNone line hMem
  · rw [remainingText_remainingText]

------------------------------------------------------------
-- Notebooks
------------------------------------------------------------

theorem clearCells_eq_ok_iff
    (index : Nat)
    {cells cleared : List Cell} :
    scheme.clearCells index cells = .ok cleared ↔
      List.Forall₂
        (fun cell kept => scheme.clearCell cell = .ok kept)
        cells cleared := by
  induction cells generalizing index cleared with
  | nil => simp [clearCells, eq_comm]
  | cons cell rest ih =>
      unfold clearCells
      cases hCell : scheme.clearCell cell with
      | error fault => simp [List.forall₂_cons_left_iff, hCell]
      | ok kept =>
          simp only [List.forall₂_cons_left_iff, hCell,
            ← ih (index + 1)]
          cases hRest : scheme.clearCells (index + 1) rest with
          | error e => simp
          | ok others => simp [eq_comm]

theorem clear_eq_ok_iff
    {notebook cleared : Notebook} :
    scheme.clear notebook = .ok cleared ↔
      List.Forall₂
          (fun cell kept => scheme.clearCell cell = .ok kept)
          notebook.cells cleared.cells ∧
        cleared =
          { notebook with
            cells := cleared.cells
            metadata :=
              notebook.metadata.erase toolbarKey } := by
  rw [← clearCells_eq_ok_iff 0]
  unfold clear
  cases hCells : scheme.clearCells 0 notebook.cells with
  | error e => simp
  | ok cells =>
      simp only [Except.ok.injEq]
      constructor
      · rintro rfl
        exact ⟨rfl, rfl⟩
      · rintro ⟨rfl, hEq⟩
        exact hEq.symm

/- A notebook that was cleared is cleared again as it is. -/
theorem clear_of_clear
    {notebook cleared : Notebook}
    (h : scheme.clear notebook = .ok cleared) :
    scheme.clear cleared = .ok cleared := by
  rcases clear_eq_ok_iff.1 h with ⟨hCells, hEq⟩
  have hAgain :
      List.Forall₂
        (fun cell kept => scheme.clearCell cell = .ok kept)
        cleared.cells cleared.cells := by
    apply List.forall₂_same.2
    intro kept hMem
    rcases List.mem_iff_getElem.1 hMem with ⟨i, hLt, rfl⟩
    have hCell : i < notebook.cells.length := by
      rw [hCells.length_eq]
      exact hLt
    exact clearCell_of_clearCell (hCells.get hCell hLt)
  refine clear_eq_ok_iff.2 ⟨hAgain, ?_⟩
  rw [hEq]
  simp only [Table.erase_erase]

/-
  Removing regions from a text succeeds just when every
  begin line is followed by an end line before any further
  begin line. The text that is returned has the lines that
  are neither begin nor end lines and do not lie between a
  begin line and the next end line, in their order, and is
  empty if there are none. So unless a delimiter is empty no
  line of it contains one. Clearing a cell removes regions
  from its text, and refuses them where they are misplaced.
  A cleared notebook is cleared again as it is.
-/
theorem removeRegions_exact
    (scheme : MarkScheme) :
    (∀ source,
      (∃ result, scheme.removeRegions source = .ok result) ↔
        scheme.IsPaired (Text.lines source)) ∧
      (∀ source text removed,
        scheme.removeRegions source = .ok (text, removed) →
          text =
              Text.ofLines
                (scheme.remaining (Text.lines source)) ∧
            (scheme.remaining (Text.lines source) ≠ [] →
              Text.lines text =
                scheme.remaining (Text.lines source)) ∧
            (scheme.begins ≠ "" →
              scheme.ends ≠ "" →
                ∀ line ∈ Text.lines text,
                  ¬ scheme.begins.toList <:+: line.toList ∧
                    ¬ scheme.ends.toList <:+:
                      line.toList)) ∧
      (∀ cell,
        scheme.clearCell cell =
          match scheme.removeRegions cell.source with
          | .error fault => .error fault
          | .ok (text, removed) =>
              if removed && !cell.isTask &&
                  scheme.enforced then
                .error .misplaced
              else
                .ok { cell with source := text }) ∧
      ∀ notebook cleared,
        scheme.clear notebook = .ok cleared →
          scheme.clear cleared = .ok cleared := by
  refine
    ⟨?_, ?_, scheme.clearCell_eq_removeRegions,
      fun _ _ => clear_of_clear⟩
  · intro source
    constructor
    · rintro ⟨⟨text, removed⟩, hOk⟩
      exact (removeRegions_eq_ok_iff.1 hOk).1
    · intro hPaired
      exact
        ⟨_, removeRegions_eq_ok_iff.2 ⟨hPaired, rfl, rfl⟩⟩
  · intro source text removed hOk
    rcases removeRegions_eq_ok_iff.1 hOk with ⟨-, rfl, -⟩
    have hLines := scheme.lines_remainingText source
    refine ⟨rfl, ?_, ?_⟩
    · intro hSome
      rw [hLines, if_neg hSome]
    · intro hBegins hEnds line hMem
      rw [hLines] at hMem
      split at hMem
      · rw [List.mem_singleton.1 hMem]
        simp [hBegins, hEnds]
      · rcases not_begins_of_mem_remaining hMem with
          ⟨hNoBegin, hNoEnd⟩
        exact
          ⟨hNoBegin, fun hContains =>
            hNoEnd ⟨hContains, hNoBegin⟩⟩

/- A region goes with its delimiters, and so does a stray. -/
example :
    ({} : MarkScheme).removeRegions
        "END MARK SCHEME\na\nBEGIN MARK SCHEME\nb\nEND MARK SCHEME" =
      .ok ("a", true) := by
  rfl

end MarkScheme

end NotebookGrading
