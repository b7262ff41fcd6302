/-!
# Numbers to weigh samples with

A picture is stretched by weighing the samples of neighbouring rows. The rule is the same for every
kind of number that can be added, multiplied and divided and that has a next lower and a next higher
integer. The rationals compute it exactly; numbers of a fixed precision round after every step.

## Main definitions

* `Scalar`: what the numbers have to offer.
* `Scalar.clamped`: the number within a range.
-/

namespace AstCompare

/-- Numbers that can be used as weights. -/
class Scalar (K : Type) extends Add K, Sub K, Mul K, Div K, NatCast K where
  /-- The first number is less than the second. -/
  isLess : K → K → Bool
  /-- The greatest integer that is not greater than the number. -/
  floor : K → Int
  /-- The least integer that is not less than the number. -/
  ceil : K → Int
  /-- The nearest integer, the greater one if there are two. -/
  nearest : K → Int

namespace Scalar

variable {K : Type} [Scalar K]

/-- The half of one. -/
def half : K :=
  ((1 : Nat) : K) / ((2 : Nat) : K)

/-- The number without its sign. -/
def magnitude (x : K) : K :=
  let zero : K := ((0 : Nat) : K)
  if isLess x zero then zero - x else x

/-- The sum of numbers, from the first one on. -/
def total (xs : List K) : K :=
  xs.foldl (· + ·) ((0 : Nat) : K)

/-- The integer nearest to a number, or the end of the range from zero to `n` that is nearest to
it. -/
def clamped (n : Nat) (x : K) : Nat :=
  min (nearest x).toNat n

end Scalar

/-- The rationals compute exactly. -/
instance : Scalar Rat where
  isLess x y := decide (x < y)
  floor := Rat.floor
  ceil := Rat.ceil
  nearest x := (x + 1 / 2).floor

end AstCompare
