import NotebookGrading.Double.Text

/-
  Numbers of a document.

  A number without a point and an exponent that fits 64
  bits is kept as a whole number. Any other number is a
  double, computed from at most 64 bits of its digits and
  one power of ten: digits that no longer fit are left out,
  and the significand is multiplied or divided once, so the
  result may differ from the nearest double in its last
  bits. Minus zero is a double.

  Key definitions include:
    * `Json.Number`
    * `Json.Number.toFloat`
    * `Json.Numeral`
    * `Json.Numeral.number?`
-/

namespace NotebookGrading

namespace Json

------------------------------------------------------------
-- Values
------------------------------------------------------------

/- A whole number or a finite double. -/
inductive Number
  | whole (value : Int)
  | real (value : Float)
deriving DecidableEq

/- The nearest double. -/
def Number.toFloat : Number → Float
  | .whole value => Double.ofInt value
  | .real value => value

/-
  Two numbers are the same when they are of one kind and
  equal in value; the two zeros among the doubles are.
-/
def Number.same : Number → Number → Bool
  | .whole a, .whole b => a == b
  | .real a, .real b => a == b
  | _, _ => false

------------------------------------------------------------
-- Written Numbers
------------------------------------------------------------

/-
  The parts of a written number: its sign, the digits before
  and after the point, and the exponent with its sign.
-/
structure Numeral where
  negative : Bool
  whole : List Char
  fraction : List Char
  exponent : Option (Bool × List Char)
deriving DecidableEq, Repr

namespace Numeral

/- The greatest significand. -/
def significandLimit : Nat :=
  UInt64.size - 1

/- The greatest exponent that is read digit by digit. -/
def exponentLimit : Nat :=
  2147483647

/-
  Extend a significand by digits as long as it fits, and
  return it with the digits that are left.
-/
def extend :
    Nat → List Char → Nat × List Char
  | significand, [] => (significand, [])
  | significand, d :: rest =>
      let next :=
        10 * significand + (d.toNat - '0'.toNat)
      if next ≤ significandLimit then
        extend next rest
      else
        (significand, d :: rest)

/- A power of ten as a double. -/
def powerOfTen
    (n : Nat) : Float :=
  Float.ofScientific 1 false n

/-
  Divide by a power of ten. Beyond 308 the division is done
  in steps, which soon reach zero.
-/
def divide :
    Nat → Float → Nat → Float
  | 0, f, _ => f
  | fuel + 1, f, n =>
      if n ≤ 308 then
        f / powerOfTen n
      else if f == 0 then
        f
      else
        divide fuel (f / powerOfTen 308) (n - 308)

/-
  The double significand · 10 ^ exponent, if it is not too
  large.
-/
def scale?
    (significand : Nat)
    (exponent : Int) : Option Float :=
  let f := Double.ofDecimal significand 0
  match exponent with
  | .ofNat up =>
      if up ≤ 308 then
        let scaled := f * powerOfTen up
        if scaled.isInf then none else some scaled
      else if f == 0 then
        some f
      else
        none
  | .negSucc down => some (divide 4 f (down + 1))

/- A magnitude with the sign of the numeral. -/
def signed
    (n : Numeral)
    (magnitude : Float) : Number :=
  .real (if n.negative then -magnitude else magnitude)

/-
  The value of a numeral without point and exponent whose
  digits fit.
-/
def wholeNumber
    (n : Numeral)
    (significand : Nat) : Number :=
  if n.negative then
    if significand = 0 ||
        significand > 9223372036854775808 then
      .real (-(Double.ofDecimal significand 0))
    else
      .whole (-(significand : Int))
  else
    .whole significand

/- The value of a numeral, unless it is too large. -/
def number?
    (n : Numeral) : Option Number :=
  let (head, uncounted) := extend 0 n.whole
  if uncounted.isEmpty && n.fraction.isEmpty &&
      n.exponent.isNone then
    some (n.wholeNumber head)
  else
    let (significand, left) := extend head n.fraction
    let shift : Int :=
      uncounted.length -
        ((n.fraction.length - left.length : Nat) : Int)
    match n.exponent with
    | none =>
        (scale? significand shift).map n.signed
    | some (down, digits) =>
        let size := Text.digitsValue digits
        if size > exponentLimit then
          if significand = 0 || down then
            some (n.signed 0)
          else
            none
        else
          let exponent : Int :=
            if down then shift - size else shift + size
          (scale? significand exponent).map n.signed

end Numeral

end Json

end NotebookGrading
