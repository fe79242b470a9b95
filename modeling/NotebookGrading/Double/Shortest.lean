import NotebookGrading.Double.Binary

/-
  The shortest decimal that reads back as a given double.

  Every real number between the midpoints to the two
  neighbouring doubles rounds to the double between them,
  and so do the midpoints themselves when the significand
  is even. Among the decimals in that interval the coarsest
  power-of-ten grid that has a point there is chosen, and on
  that grid the point nearest to the exact value.

  Key definitions include:
    * `Tie`
    * `Decimal`
    * `Decimal.Interval`
    * `Decimal.Interval.ofBinary`
    * `Decimal.shortest`
-/

namespace NotebookGrading

/- Which of two equally near grid points is chosen. -/
inductive Tie
  | up
  | even
deriving DecidableEq, Repr

/- The number digits · 10 ^ scale. -/
structure Decimal where
  digits : Nat
  scale : Int
deriving DecidableEq, Repr

namespace Decimal

------------------------------------------------------------
-- Rounding Intervals
------------------------------------------------------------

/-
  A value between two bounds, all three as numerators over
  one denominator, and whether the bounds belong to it.
-/
structure Interval where
  low : Nat
  value : Nat
  high : Nat
  denominator : Nat
  closed : Bool

/-
  The numbers that round to a double. The gap below a power
  of two is half as wide as the gap above it.
-/
def Interval.ofBinary
    (b : Binary) : Interval :=
  let value := 4 * b.significand
  let narrow :=
    b.significand = Nat.pow 2 52 && b.exponent > -1074
  let low := if narrow then value - 1 else value - 2
  let high := value + 2
  let closed := b.significand % 2 = 0
  match b.exponent - 2 with
  | .ofNat up =>
      let unit := Nat.pow 2 up
      ⟨low * unit, value * unit, high * unit, 1, closed⟩
  | .negSucc down =>
      ⟨low, value, high, Nat.pow 2 (down + 1), closed⟩

/- Refine the denominator so that the grid has unit steps. -/
def Interval.onGrid
    (i : Interval)
    (scale : Int) : Interval :=
  match scale with
  | .ofNat up =>
      { i with
        denominator := i.denominator * Nat.pow 10 up }
  | .negSucc down =>
      let factor := Nat.pow 10 (down + 1)
      { i with
        low := i.low * factor
        value := i.value * factor
        high := i.high * factor }

/- Whether a multiple of the denominator lies inside. -/
def Interval.holds
    (i : Interval)
    (multiple : Nat) : Bool :=
  let point := multiple * i.denominator
  if i.closed then
    i.low ≤ point && point ≤ i.high
  else
    i.low < point && point < i.high

/-
  The multiple of the denominator inside the interval that
  is nearest to the value.
-/
def Interval.nearest?
    (i : Interval)
    (tie : Tie) : Option Nat :=
  let below := i.value / i.denominator
  let above := below + 1
  match i.holds below, i.holds above with
  | false, false => none
  | true, false => some below
  | false, true => some above
  | true, true =>
      let down := i.value - below * i.denominator
      let up := above * i.denominator - i.value
      if down < up then some below
      else if up < down then some above
      else
        match tie with
        | .up => some above
        | .even =>
            if below % 2 = 0 then
              some below
            else
              some above

------------------------------------------------------------
-- The Search For The Coarsest Grid
------------------------------------------------------------

/- Try ever finer grids, at most as often as allowed. -/
def search
    (i : Interval)
    (tie : Tie) :
    Nat → Int → Decimal
  | 0, scale => ⟨0, scale⟩
  | fuel + 1, scale =>
      match (i.onGrid scale).nearest? tie with
      | some digits => ⟨digits, scale⟩
      | none => search i tie fuel (scale - 1)

/-
  A scale above the leading decimal digit: a number below
  2 ^ n is below 10 ^ (0.30103 · n).
-/
def startScale
    (b : Binary) : Int :=
  let bits : Int := b.significand.log2 + 1 + b.exponent
  Int.fdiv (bits * 30103) 100000 + 1

/- Move trailing zeros of the digits into the scale. -/
def strip :
    Nat → Decimal → Decimal
  | 0, d => d
  | fuel + 1, d =>
      if d.digits ≠ 0 && d.digits % 10 = 0 then
        strip fuel ⟨d.digits / 10, d.scale + 1⟩
      else
        d

/-
  The shortest decimal that reads back as a nonzero double.
  Seventeen digits always suffice.
-/
def shortest
    (tie : Tie)
    (b : Binary) : Decimal :=
  strip 20
    (search (Interval.ofBinary b) tie 24 (startScale b))

end Decimal

end NotebookGrading
