/-
  The exact value of a finite double.

  A finite double is a sign and a magnitude of the form
  significand · 2 ^ exponent, both read off its bits. Exact
  arithmetic on that form decides what floating-point
  arithmetic cannot: rounding to a whole number and the
  choice of decimal digits.

  Key definitions include:
    * `Binary`
    * `Binary.ofFloat`
    * `Binary.roundHalfAway`
-/

namespace NotebookGrading

/- A sign and the magnitude significand · 2 ^ exponent. -/
structure Binary where
  negative : Bool
  significand : Nat
  exponent : Int
deriving DecidableEq, Repr

namespace Binary

/-
  The parts of a double. A zero exponent field marks zero
  and the subnormal numbers, which have no hidden bit.
-/
def ofFloat
    (x : Float) : Binary :=
  let bits := x.toBits.toNat
  let hidden := Nat.pow 2 52
  let negative := bits ≥ Nat.pow 2 63
  let field := bits / hidden % 2048
  let fraction := bits % hidden
  if field = 0 then
    ⟨negative, fraction, -1074⟩
  else
    ⟨negative, fraction + hidden, (field : Int) - 1075⟩

/-
  The nearest whole number to the magnitude; a half is
  rounded up.
-/
def roundedMagnitude
    (b : Binary) : Nat :=
  match b.exponent with
  | .ofNat up => b.significand * Nat.pow 2 up
  | .negSucc down =>
      (2 * b.significand + Nat.pow 2 (down + 1)) /
        Nat.pow 2 (down + 2)

/-
  The nearest whole number; a half is rounded away from
  zero.
-/
def roundHalfAway
    (b : Binary) : Int :=
  if b.negative then
    -(b.roundedMagnitude : Int)
  else
    b.roundedMagnitude

end Binary

end NotebookGrading
