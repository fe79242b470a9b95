import NotebookGrading.Json.Reader
import NotebookGrading.Proofs.Double.FiniteArithmetic

/-
  Every number of a document is finite.

  A numeral too large for a double has no value, so a
  number that was read is a whole number of at most 64 bits
  or a finite double, at whatever depth of a document it
  stands.

  Key definitions include:
    * `Json.Number.IsFinite`
    * `Json.Document.NumbersFinite`

  Main statements:
    * `Json.Numeral.isFinite_number?`
    * `Json.Document.numbersFinite_read?`
-/

namespace NotebookGrading

namespace Json

------------------------------------------------------------
-- Numerals
------------------------------------------------------------

/- Whole numbers of 64 bits and finite doubles. -/
inductive Number.IsFinite : Number → Prop
  | whole
      {value : Int}
      (hLow : -(2 ^ 63) ≤ value)
      (hHigh : value < 2 ^ 64) :
      IsFinite (.whole value)
  | real
      {value : Float}
      (h : value.isFinite = true) :
      IsFinite (.real value)

theorem Number.IsFinite.toFloat
    {n : Number}
    (h : n.IsFinite) :
    n.toFloat.isFinite = true := by
  cases h with
  | whole hLow hHigh =>
      exact Double.isFinite_ofInt (by omega) hHigh
  | real h => exact h

namespace Numeral

/- The divisors, of which every one is a finite double. -/
theorem isAtLeastTwo_powerOfTen :
    ∀ n < 309,
      0 < n →
        Double.IsAtLeastTwo (powerOfTen n) = true := by
  decide +kernel

theorem isFinite_powerOfTen
    {n : Nat}
    (hLe : n ≤ 308) :
    (powerOfTen n).isFinite = true := by
  cases n with
  | zero => decide +kernel
  | succ n =>
      exact Double.IsAtLeastTwo.isFinite
        (isAtLeastTwo_powerOfTen (n + 1) (by omega)
          (Nat.succ_pos n))

/- Dividing by powers of ten in steps stays finite. -/
theorem isFinite_divide
    {fuel n : Nat}
    {f : Float}
    (hPos : 0 < n)
    (hFinite : f.isFinite = true) :
    (divide fuel f n).isFinite = true := by
  induction fuel generalizing n f with
  | zero => exact hFinite
  | succ fuel ih =>
      unfold divide
      split
      · exact Double.isFinite_div hFinite
          (isAtLeastTwo_powerOfTen n (by omega) hPos)
      · split
        · exact hFinite
        · apply ih (by omega)
          exact Double.isFinite_div hFinite
            (isAtLeastTwo_powerOfTen 308 (by decide)
              (by decide))

/- A significand has 64 bits. -/
theorem extend_le
    {significand : Nat}
    {digits : List Char}
    (hLe : significand ≤ significandLimit) :
    (extend significand digits).1 ≤ significandLimit := by
  induction digits generalizing significand with
  | nil => exact hLe
  | cons d rest ih =>
      simp only [extend]
      split
      · rename_i hNext
        exact ih hNext
      · exact hLe

theorem lt_of_le_significandLimit
    {significand : Nat}
    (hLe : significand ≤ significandLimit) :
    significand < 2 ^ 64 := by
  have hLimit : significandLimit = 2 ^ 64 - 1 := rfl
  omega

theorem isFinite_scale?
    {significand : Nat}
    {exponent : Int}
    {f : Float}
    (hLe : significand ≤ significandLimit)
    (h : scale? significand exponent = some f) :
    f.isFinite = true := by
  have hStart :
      (Double.ofDecimal significand 0).isFinite = true :=
    Double.isFinite_ofDecimal (lt_of_le_significandLimit hLe)
  cases exponent with
  | ofNat up =>
      simp only [scale?] at h
      split at h
      · rename_i hUp
        split at h
        · cases h
        · rename_i hInf
          injection h with h
          rw [← h]
          apply Double.isFinite_mul hStart
            (isFinite_powerOfTen hUp)
          simpa using hInf
      · split at h
        · injection h with h
          rw [← h]
          exact hStart
        · cases h
  | negSucc down =>
      simp only [scale?] at h
      injection h with h
      rw [← h]
      exact isFinite_divide (Nat.succ_pos down) hStart

theorem isFinite_signed
    (n : Numeral)
    {magnitude : Float}
    (h : magnitude.isFinite = true) :
    (n.signed magnitude).IsFinite := by
  apply Number.IsFinite.real
  split
  · exact Double.isFinite_neg h
  · exact h

theorem isFinite_wholeNumber
    (n : Numeral)
    {significand : Nat}
    (hLe : significand ≤ significandLimit) :
    (n.wholeNumber significand).IsFinite := by
  have hLt := lt_of_le_significandLimit hLe
  unfold wholeNumber
  split
  · split
    · exact .real
        (Double.isFinite_neg (Double.isFinite_ofDecimal hLt))
    · rename_i hBounds
      simp only [gt_iff_lt, Bool.or_eq_true,
        decide_eq_true_eq, not_or] at hBounds
      exact .whole (by omega) (by omega)
  · exact .whole (by omega) (by omega)

/- A numeral with a value has a finite one. -/
theorem isFinite_number?
    {n : Numeral}
    {value : Number}
    (h : n.number? = some value) :
    value.IsFinite := by
  have hHead :
      (extend 0 n.whole).1 ≤ significandLimit :=
    extend_le (Nat.zero_le _)
  have hSignificand :
      (extend (extend 0 n.whole).1 n.fraction).1 ≤
        significandLimit :=
    extend_le hHead
  have hScaled :
      ∀ exponent,
        (scale?
            (extend (extend 0 n.whole).1 n.fraction).1
            exponent).map n.signed = some value →
          value.IsFinite := by
    intro exponent hMap
    rcases Option.map_eq_some_iff.1 hMap with
      ⟨f, hScale, hValue⟩
    rw [← hValue]
    exact isFinite_signed n
      (isFinite_scale? hSignificand hScale)
  unfold number? at h
  simp only at h
  split at h
  · injection h with h
    rw [← h]
    exact isFinite_wholeNumber n hHead
  · split at h
    · exact hScaled _ h
    · split at h
      · split at h
        · injection h with h
          rw [← h]
          exact isFinite_signed n (by decide +kernel)
        · cases h
      · exact hScaled _ h

end Numeral

------------------------------------------------------------
-- Documents
------------------------------------------------------------

/- Whether every number of a document is finite. -/
inductive Document.NumbersFinite : Document → Prop
  | null : NumbersFinite .null
  | bool (value : Bool) : NumbersFinite (.bool value)
  | number
      {value : Option Number}
      (h : ∀ n, value = some n → n.IsFinite) :
      NumbersFinite (.number value)
  | string (value : Option String) :
      NumbersFinite (.string value)
  | array
      {items : List Document}
      (h : ∀ item ∈ items, NumbersFinite item) :
      NumbersFinite (.array items)
  | object
      {members : List (Option String × Document)}
      (h : ∀ member ∈ members, NumbersFinite member.2) :
      NumbersFinite (.object members)

def Token.NumberFinite
    (token : Token) : Prop :=
  ∀ n, token = .number (some n) → n.IsFinite

/- The documents gathered in an open container. -/
def Frame.documents : Frame → List Document
  | .array items => items
  | .object members _ => members.map Prod.snd

def StackFinite
    (stack : List Frame) : Prop :=
  ∀ frame ∈ stack,
    ∀ document ∈ frame.documents, document.NumbersFinite

/- Whether all documents gathered so far are finite. -/
structure State.NumbersFinite
    (state : State) : Prop where
  stack : StackFinite state.stack
  result :
    ∀ document,
      state.result = some document → document.NumbersFinite

namespace State

variable {stack : List Frame}
variable {next : State}
variable {token : Token}

theorem numbersFinite_of_stack
    {awaited : Awaited}
    (hStack : StackFinite stack) :
    NumbersFinite ⟨awaited, stack, none⟩ :=
  ⟨hStack, fun _ h => by cases h⟩

theorem numbersFinite_finish
    {value : Document}
    (hStack : StackFinite stack)
    (hValue : value.NumbersFinite) :
    (finish stack value).NumbersFinite := by
  cases stack with
  | nil =>
      refine ⟨hStack, ?_⟩
      intro document hResult
      injection hResult with hResult
      rw [← hResult]
      exact hValue
  | cons frame outer =>
      rcases List.forall_mem_cons.1 hStack with
        ⟨hFrame, hOuter⟩
      cases frame with
      | array items =>
          apply numbersFinite_of_stack
          apply List.forall_mem_cons.2 ⟨?_, hOuter⟩
          exact List.forall_mem_cons.2 ⟨hValue, hFrame⟩
      | object members key =>
          apply numbersFinite_of_stack
          apply List.forall_mem_cons.2 ⟨?_, hOuter⟩
          exact List.forall_mem_cons.2 ⟨hValue, hFrame⟩

theorem numbersFinite_value?
    (hStack : StackFinite stack)
    (hToken : token.NumberFinite)
    (h : value? stack token = some next) :
    next.NumbersFinite := by
  cases token with
  | openArray =>
      injection h with h
      rw [← h]
      apply numbersFinite_of_stack
      exact List.forall_mem_cons.2
        ⟨by simp [Frame.documents], hStack⟩
  | openObject =>
      injection h with h
      rw [← h]
      apply numbersFinite_of_stack
      exact List.forall_mem_cons.2
        ⟨by simp [Frame.documents], hStack⟩
  | null =>
      injection h with h
      rw [← h]
      exact numbersFinite_finish hStack .null
  | bool value =>
      injection h with h
      rw [← h]
      exact numbersFinite_finish hStack (.bool value)
  | number value =>
      injection h with h
      rw [← h]
      apply numbersFinite_finish hStack
      apply Document.NumbersFinite.number
      intro n hValue
      apply hToken
      rw [hValue]
  | string value =>
      injection h with h
      rw [← h]
      exact numbersFinite_finish hStack (.string value)
  | closeArray => cases h
  | closeObject => cases h
  | comma => cases h
  | colon => cases h

theorem numbersFinite_close?
    (hStack : StackFinite stack)
    (h : close? token stack = some next) :
    next.NumbersFinite := by
  cases stack with
  | nil => cases h
  | cons frame outer =>
      rcases List.forall_mem_cons.1 hStack with
        ⟨hFrame, hOuter⟩
      cases frame with
      | array items =>
          simp only [close?] at h
          split at h
          · injection h with h
            rw [← h]
            apply numbersFinite_finish hOuter
            apply Document.NumbersFinite.array
            intro item hMem
            exact hFrame item (List.mem_reverse.1 hMem)
          · cases h
      | object members key =>
          simp only [close?] at h
          split at h
          · injection h with h
            rw [← h]
            apply numbersFinite_finish hOuter
            apply Document.NumbersFinite.object
            intro member hMem
            apply hFrame
            exact List.mem_map_of_mem
              (List.mem_reverse.1 hMem)
          · cases h

theorem numbersFinite_key?
    (hStack : StackFinite stack)
    (h : key? stack token = some next) :
    next.NumbersFinite := by
  unfold key? at h
  split at h
  · injection h with h
    rw [← h]
    apply numbersFinite_of_stack
    rcases List.forall_mem_cons.1 hStack with
      ⟨hFrame, hOuter⟩
    exact List.forall_mem_cons.2 ⟨hFrame, hOuter⟩
  · cases h

theorem numbersFinite_next?
    (hStack : StackFinite stack)
    (h : next? stack = some next) :
    next.NumbersFinite := by
  unfold next? at h
  split at h
  · injection h with h
    rw [← h]
    exact numbersFinite_of_stack hStack
  · injection h with h
    rw [← h]
    exact numbersFinite_of_stack hStack
  · cases h

/- Taking a token keeps all documents finite. -/
theorem numbersFinite_step?
    {state : State}
    (hState : state.NumbersFinite)
    (hToken : token.NumberFinite)
    (h : step? state token = some next) :
    next.NumbersFinite := by
  unfold step? at h
  split at h
  · exact numbersFinite_value? hState.stack hToken h
  · split at h
    · exact numbersFinite_close? hState.stack h
    · exact numbersFinite_value? hState.stack hToken h
  · split at h
    · exact numbersFinite_close? hState.stack h
    · exact numbersFinite_key? hState.stack h
  · exact numbersFinite_key? hState.stack h
  · split at h
    · injection h with h
      rw [← h]
      exact numbersFinite_of_stack hState.stack
    · cases h
  · split at h
    · exact numbersFinite_next? hState.stack h
    · exact numbersFinite_close? hState.stack h
  · cases h

theorem numbersFinite_run?
    {state : State}
    {tokens : List Token}
    (hState : state.NumbersFinite)
    (hTokens : ∀ token ∈ tokens, token.NumberFinite)
    (h : run? state tokens = some next) :
    next.NumbersFinite := by
  induction tokens generalizing state with
  | nil =>
      injection h with h
      rw [← h]
      exact hState
  | cons token rest ih =>
      rcases List.forall_mem_cons.1 hTokens with
        ⟨hToken, hRest⟩
      simp only [run?] at h
      split at h
      · rename_i middle hStep
        exact ih (numbersFinite_step? hState hToken hStep)
          hRest h
      · cases h

end State

------------------------------------------------------------
-- Texts
------------------------------------------------------------

theorem numberFinite_token?
    {cs rest : List Char}
    {token : Token}
    (h : token? cs = some (token, rest)) :
    token.NumberFinite := by
  intro n hToken
  rw [hToken] at h
  unfold token? at h
  split at h
  all_goals try cases h
  · rcases Option.map_eq_some_iff.1 h with
      ⟨result, -, hEq⟩
    cases hEq
  · rcases Option.map_eq_some_iff.1 h with
      ⟨result, -, hEq⟩
    injection hEq with hNumber
    injection hNumber with hNumber
    exact Numeral.isFinite_number? hNumber

theorem numberFinite_tokensFrom?
    {fuel : Nat}
    {before tokens : List Token}
    {cs : List Char}
    (hBefore : ∀ token ∈ before, token.NumberFinite)
    (h : tokensFrom? fuel before cs = some tokens) :
    ∀ token ∈ tokens, token.NumberFinite := by
  induction fuel generalizing before cs with
  | zero =>
      cases cs with
      | nil =>
          injection h with h
          rw [← h]
          intro token hMem
          exact hBefore token (List.mem_reverse.1 hMem)
      | cons c rest => cases h
  | succ fuel ih =>
      cases cs with
      | nil =>
          injection h with h
          rw [← h]
          intro token hMem
          exact hBefore token (List.mem_reverse.1 hMem)
      | cons c rest =>
          simp only [tokensFrom?] at h
          split at h
          · exact ih hBefore h
          · split at h
            · rename_i token after hToken
              apply ih _ h
              exact List.forall_mem_cons.2
                ⟨numberFinite_token? hToken, hBefore⟩
            · cases h

/- All numbers of a document that was read are finite. -/
theorem Document.numbersFinite_read?
    {text : String}
    {document : Document}
    (h : read? text = some document) :
    document.NumbersFinite := by
  rcases Option.bind_eq_some_iff.1 h with
    ⟨tokens, hTokens, hRun⟩
  rcases Option.bind_eq_some_iff.1 hRun with
    ⟨state, hState, hResult⟩
  have hStart : State.start.NumbersFinite :=
    State.numbersFinite_of_stack (by simp [StackFinite])
  have hFinite : ∀ token ∈ tokens, token.NumberFinite :=
    numberFinite_tokensFrom? (by simp) hTokens
  exact (State.numbersFinite_run? hStart hFinite
    hState).result document hResult

end Json

end NotebookGrading
