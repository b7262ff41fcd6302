import AstCompare.Picture.Scalar

/-!
# Numbers in single precision

A number of single precision is a multiple of a power of two by an integer of at most 24 binary
digits. The result of every operation is the nearest such number to the exact result; if there are
two, the one whose last digit is zero. Exponents are not limited: what is computed here stays far
away from the ends of the range of 32 bits.

## Main definitions

* `Binary32`: the numbers, by sign, magnitude and exponent.
* `Binary32.rounded`: the number nearest to a multiple of a power of two.
-/

namespace AstCompare

/-- The number `± magnitude · 2 ^ exponent`. -/
structure Binary32 where
  negative : Bool
  magnitude : Nat
  exponent : Int
  deriving DecidableEq, Repr

namespace Binary32

/-- The number of binary digits. -/
def digits : Nat := 24

/-- The quotient by a power of two, rounded to the nearest integer, a half to the even one. -/
def shiftedToEven (n shift : Nat) : Nat :=
  let quotient := n >>> shift
  let rest := n - quotient <<< shift
  let half := 1 <<< (shift - 1)
  if shift = 0 ∨ rest < half ∨ (rest = half ∧ quotient % 2 = 0) then quotient else quotient + 1

/-- The number nearest to `± n · 2 ^ e`. -/
def rounded (negative : Bool) (n : Nat) (e : Int) : Binary32 :=
  let shift := n.log2 + 1 - digits
  if shift = 0 then ⟨negative, n, e⟩ else ⟨negative, shiftedToEven n shift, e + shift⟩

/-- The magnitude in units of `2 ^ e`, for an exponent that is not greater. -/
def unitsOf (e : Int) (x : Binary32) : Nat :=
  x.magnitude <<< (x.exponent - e).toNat

/-- The nearest number to a sum; the sign of the second number is given apart. -/
def sum (x y : Binary32) (negative : Bool) : Binary32 :=
  let e := min x.exponent y.exponent
  let m := unitsOf e x
  let n := unitsOf e y
  if x.negative = negative then rounded negative (m + n) e
  else if n ≤ m then rounded x.negative (m - n) e
  else rounded negative (n - m) e

/-- The nearest number to a product. -/
def product (x y : Binary32) : Binary32 :=
  rounded (x.negative != y.negative) (x.magnitude * y.magnitude) (x.exponent + y.exponent)

/-- The nearest number to a quotient. Two binary digits more than needed are computed, and one for
what is left, so that rounding sees on which side of a half the exact quotient lies. -/
def quotient (x y : Binary32) : Binary32 :=
  let shift := digits + 2 + y.magnitude.log2 - x.magnitude.log2
  let n := x.magnitude <<< shift
  let q := n / y.magnitude
  let rest := if n % y.magnitude = 0 then 0 else 1
  rounded (x.negative != y.negative) (2 * q + rest) (x.exponent - y.exponent - shift - 1)

/-- The greatest integer that is not greater than `n · 2 ^ e`. -/
def floorOf (n e : Int) : Int :=
  if 0 ≤ e then n * Nat.pow 2 e.toNat else n / Nat.pow 2 (-e).toNat

/-- The integer that the magnitude and the sign make. -/
def signed (x : Binary32) : Int :=
  if x.negative then -x.magnitude else x.magnitude

/-- The first number is less than the second. -/
def isLess (x y : Binary32) : Bool :=
  let e := min x.exponent y.exponent
  let m : Int := unitsOf e x
  let n : Int := unitsOf e y
  (if x.negative then -m else m) < (if y.negative then -n else n)

instance : Scalar Binary32 where
  add x y := sum x y y.negative
  sub x y := sum x y !y.negative
  mul := product
  div := quotient
  natCast n := rounded false n 0
  isLess := isLess
  floor x := floorOf x.signed x.exponent
  ceil x := -floorOf (-x.signed) x.exponent
  nearest x :=
    floorOf (2 * x.signed + (if x.exponent < 0 then Nat.pow 2 (-x.exponent).toNat else 0))
      (x.exponent - 1)

end Binary32

end AstCompare
