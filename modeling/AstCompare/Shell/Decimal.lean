/-!
# Numbers in decimals

A number with a fraction is a whole number times a power of two. It is printed with a given number
of decimals, or with a given number of digits and a power of ten, and a half goes to the even
neighbour.

## Main definitions

* `Decimal.ofText?`: the number that a text starts with.
* `Decimal.fixed`, `Decimal.scientific`, `Decimal.general`: the ways to print it.
-/

namespace AstCompare.Shell

/-- A number as a fraction of whole numbers, or one of those that are none. -/
inductive Decimal where
  | finite (negative : Bool) (numerator denominator : Nat)
  | infinite (negative : Bool)
  | undefined
  deriving DecidableEq, Repr

namespace Decimal

/-- The fraction that a number of double precision stands for. -/
def ofFloat (f : Float) : Decimal :=
  let bits : Nat := f.toBits.toNat
  let negative := bits / 0x8000000000000000 == 1
  let exponent : Nat := bits / 0x10000000000000 % 0x800
  let fraction : Nat := bits % 0x10000000000000
  if exponent == 2047 then if fraction == 0 then .infinite negative else .undefined
  else
    let (mantissa, power) : Nat × Int :=
      if exponent == 0 then (fraction, -1074)
      else (fraction + 0x10000000000000, (exponent : Int) - 1075)
    if 0 ≤ power then .finite negative (mantissa * Nat.pow 2 power.toNat) 1
    else .finite negative mantissa (Nat.pow 2 (-power).toNat)

/-- The number of double precision next to a whole number times a power of ten. -/
def ofDecimal (negative : Bool) (digits : Nat) (power : Int) : Decimal :=
  let f := if power < 0 then Float.ofScientific digits true (-power).toNat
    else Float.ofScientific digits false power.toNat
  match ofFloat f with
  | .finite _ n d => .finite negative n d
  | .infinite _ => .infinite negative
  | .undefined => .undefined

/-- The value of decimal digits. -/
def digitsValue (cs : List Char) : Nat :=
  cs.foldl (fun n c => n * 10 + (c.toNat - 48)) 0

/-- The exponent that a text starts with, and what follows it. -/
def readExponent (cs : List Char) : Int × List Char :=
  match cs with
  | e :: rest =>
    if e = 'e' ∨ e = 'E' then
      let (negative, digits) := match rest with
        | '-' :: ds => (true, ds)
        | '+' :: ds => (false, ds)
        | ds => (false, ds)
      let taken := digits.takeWhile Char.isDigit
      if taken.isEmpty then (0, cs)
      else
        let n : Int := min (digitsValue taken) 100000
        (if negative then -n else n, digits.drop taken.length)
    else (0, cs)
  | [] => (0, [])

/-- The number that a text starts with, and what follows it. -/
def ofText? (cs : List Char) : Option (Decimal × List Char) :=
  let cs := cs.dropWhile fun c => c == ' ' || (9 ≤ c.toNat && c.toNat ≤ 13)
  let (negative, cs) := match cs with
    | '-' :: rest => (true, rest)
    | '+' :: rest => (false, rest)
    | cs => (false, cs)
  let lower := cs.map Char.toLower
  if "infinity".toList.isPrefixOf lower then some (.infinite negative, cs.drop 8)
  else if "inf".toList.isPrefixOf lower then some (.infinite negative, cs.drop 3)
  else if "nan".toList.isPrefixOf lower then some (.undefined, cs.drop 3)
  else
    let whole := cs.takeWhile Char.isDigit
    let rest := cs.drop whole.length
    let (fraction, rest) := match rest with
      | '.' :: more =>
        let taken := more.takeWhile Char.isDigit
        if whole.isEmpty && taken.isEmpty then ([], rest) else (taken, more.drop taken.length)
      | rest => ([], rest)
    if whole.isEmpty && fraction.isEmpty then none
    else
      let (power, rest) := readExponent rest
      some (ofDecimal negative (digitsValue (whole ++ fraction)) (power - fraction.length), rest)

/-- The quotient next to a fraction; of two the even one. -/
def nearest (n d : Nat) : Nat :=
  let q := n / d
  let twice := 2 * (n % d)
  if d < twice ∨ (twice = d ∧ q % 2 = 1) then q + 1 else q

/-- The digits of a number, with zeros in front up to a length. -/
def padded (length n : Nat) : List Char :=
  let ds := (toString n).toList
  List.replicate (length - ds.length) '0' ++ ds

/-- The digits with a point before the last `places` of them. With `point` it is there in any
case. -/
def withPoint (point : Bool) (places n : Nat) : List Char :=
  let ds := padded (places + 1) n
  let whole := ds.take (ds.length - places)
  if places = 0 then if point then whole ++ ['.'] else whole
  else whole ++ '.' :: ds.drop (ds.length - places)

/-- A fraction with a number of decimals. -/
def fixed (point : Bool) (places n d : Nat) : List Char :=
  withPoint point places (nearest (n * Nat.pow 10 places) d)

/-- The fraction times a power of ten, rounded. -/
def scaled (n d : Nat) (power : Int) : Nat :=
  if 0 ≤ power then nearest (n * Nat.pow 10 power.toNat) d
  else nearest n (d * Nat.pow 10 (-power).toNat)

/-- The power of ten of the first digit of a fraction that is not zero. -/
def magnitude (n d : Nat) : Int :=
  let guess : Int := (toString n).length - (toString d).length
  -- The guess is right or one too high.
  let reaches (p : Int) : Bool :=
    if 0 ≤ p then d * Nat.pow 10 p.toNat ≤ n else d ≤ n * Nat.pow 10 (-p).toNat
  if reaches guess then guess else guess - 1

/-- A fraction as digits, one of them before the point, and a power of ten. -/
def mantissa (places n d : Nat) : Nat × Int :=
  if n = 0 then (0, 0)
  else
    let power := magnitude n d
    let digits := scaled n d (places - power)
    if digits < Nat.pow 10 (places + 1) then (digits, power) else (digits / 10, power + 1)

/-- A power of ten as it is printed. -/
def exponentText (letter : Char) (power : Int) : List Char :=
  letter :: (if power < 0 then '-' else '+') :: padded 2 power.natAbs

/-- A fraction with one digit before the point and a power of ten. -/
def scientific (letter : Char) (point : Bool) (places n d : Nat) : List Char :=
  let (digits, power) := mantissa places n d
  withPoint point places digits ++ exponentText letter power

/-- The text without zeros at the end of its decimals. -/
def withoutZeros (cs : List Char) : List Char :=
  if cs.contains '.' then
    match (cs.reverse.dropWhile (· == '0')) with
    | '.' :: rest => rest.reverse
    | rest => rest.reverse
  else cs

/-- A fraction with a number of digits, with a power of ten if that is shorter. -/
def general (letter : Char) (point : Bool) (digits n d : Nat) : List Char :=
  let digits := max 1 digits
  let (m, power) := mantissa (digits - 1) n d
  let trim (cs : List Char) : List Char := if point then cs else withoutZeros cs
  if -4 ≤ power ∧ power < digits then trim (fixed point (digits - 1 - power).toNat n d)
  else trim (withPoint point (digits - 1) m) ++ exponentText letter power

end Decimal

end AstCompare.Shell
