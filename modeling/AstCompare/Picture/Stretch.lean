import AstCompare.Picture.Basic
import AstCompare.Picture.Scalar

/-!
# Stretching a picture in height

A grid of height `h` is stretched to a greater height `H` column by column and channel by channel.
The middle of the target row `y` lies at `(y + 1/2) h / H` on the scale of the source rows, and
source rows are weighted by the cubic of Catmull and Rom at the distance of their middles from that
point:

* `(9 a³ - 15 a² + 6) / 6` for a distance `a` below one,
* `(-3 a³ + 15 a² - 24 a + 12) / 6` below two, and nothing beyond.

Only rows in a window of two rows to either side are looked at, cut off at the edges, and the
weights are divided by their sum. The sum of the weighted samples is brought into the range of the
samples and rounded to the nearest integer.

All of this is stated for any kind of numbers. With the rationals the rule is carried out exactly,
with numbers of a fixed precision it is rounded after every step, in the order in which the steps
are written down here.

A source without rows stretches to samples of zero, because its sums are empty.

## Main definitions

* `Stretch.window`, `Stretch.weight`: which source rows count, and how much.
* `Stretch.blend`: one sample of the stretched grid.
* `Grid.stretch`: the stretched grid.
-/

namespace AstCompare

namespace Stretch

variable (K : Type) [Scalar K]

/-- The middle of target row `y` on the scale of the source rows. -/
def middle (h H y : Nat) : K :=
  ((y : K) + Scalar.half) * ((h : K) / (H : K))

/-- The cubic at a distance. -/
def cubic (a : K) : K :=
  let n (k : Nat) : K := (k : K)
  if Scalar.isLess a (n 1) then (n 9 * (a * (a * a)) - n 15 * (a * a) + n 6) / n 6
  else if Scalar.isLess a (n 2) then
    (n 15 * (a * a) - n 3 * (a * (a * a)) - n 24 * a + n 12) / n 6
  else n 0

/-- The weight of source row `i` in target row `y`. -/
def weight (h H y i : Nat) : K :=
  cubic K (Scalar.magnitude ((i : K) - (middle K h H y - Scalar.half)))

/-- The first source row that counts for target row `y`. -/
def windowStart (h H y : Nat) : Nat :=
  min (Scalar.floor (middle K h H y - ((2 : Nat) : K))).toNat (h - 1)

/-- The source row after the last that counts for target row `y`. -/
def windowEnd (h H y : Nat) : Nat :=
  max (windowStart K h H y + 1) (min (Scalar.ceil (middle K h H y + ((2 : Nat) : K))).toNat h)

/-- The source rows that count for target row `y`. -/
def window (h H y : Nat) : List (Fin h) :=
  let first := windowStart K h H y
  (List.range' first (windowEnd K h H y - first)).filterMap fun i =>
    if bound : i < h then some ⟨i, bound⟩ else none

/-- The source rows of target row `y` with their shares. -/
def shares (h H y : Nat) : List (Fin h × K) :=
  let rows := window K h H y
  let total := Scalar.total (rows.map fun i => weight K h H y i.val)
  rows.map fun i => (i, weight K h H y i.val / total)

variable {K}

/-- The sum of the values of source rows by their shares, within the range of the samples. -/
def blend (f : PixelFormat) {h : Nat} (shares : List (Fin h × K)) (value : Fin h → Nat) :
    Sample f :=
  .clamp f
    (Scalar.clamped (f.depth.levels - 1) (Scalar.total (shares.map fun e => (value e.1 : K) * e.2)))

end Stretch

/-- The grid stretched to another height; a grid of that height stays as it is. -/
def Grid.stretch (K : Type) [Scalar K] {f : PixelFormat} {w h : Nat} (g : Grid f w h) (H : Nat) :
    Grid f w H :=
  if e : h = H then
    Vector.ofFn fun y => g.get ⟨y.val, e ▸ y.isLt⟩
  else
    Vector.ofFn fun y =>
      let shares := Stretch.shares K h H y
      Vector.ofFn fun x => Vector.ofFn fun c =>
        Stretch.blend f shares fun i => (((g.get i).get x).get c).val

end AstCompare
