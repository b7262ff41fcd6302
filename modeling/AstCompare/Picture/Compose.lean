import AstCompare.Picture.Binary32
import AstCompare.Picture.Stretch

/-!
# Pictures side by side

Two pictures are put next to each other on a white canvas after both have been stretched to the
greater of their heights. Stretching happens in a picture's own format, the conversion to eight-bit
colors after it. The weights are numbers of single precision.

## Main definitions

* `Grid.solid`, `Grid.covered`: a canvas of one color, and a canvas with a grid put over a part of
  it.
* `Picture.besideOn`: the two pictures as one, on a canvas of any color and with weights of any
  kind.
* `Picture.beside`: the two pictures as one.
-/

namespace AstCompare

/-- White. -/
def Pixel.white : Pixel .rgb8 :=
  Vector.replicate _ (.clamp .rgb8 255)

/-- A grid of one color. -/
def Grid.solid {f : PixelFormat} (w h : Nat) (color : Pixel f) : Grid f w h :=
  Vector.replicate h (Vector.replicate w color)

/-- The canvas with a grid put over it, the upper left corner in column `x` and row `y`. What stands
out over the edges of the canvas is cut off. -/
def Grid.covered {f : PixelFormat} {W H w h : Nat} (canvas : Grid f W H) (g : Grid f w h)
    (x y : Nat) : Grid f W H :=
  Vector.ofFn fun Y => Vector.ofFn fun X =>
    if inside : (x ≤ X.val ∧ X.val - x < w) ∧ y ≤ Y.val ∧ Y.val - y < h then
      (g.get ⟨Y.val - y, inside.2.2⟩).get ⟨X.val - x, inside.1.2⟩
    else (canvas.get Y).get X

/-- The picture stretched to a height, in eight-bit colors. -/
def Picture.fitted (K : Type) [Scalar K] (p : Picture) (H : Nat) : Grid .rgb8 p.width H :=
  Grid.toRgb (Grid.stretch K p.grid H)

/-- The two pictures side by side on a canvas of some color, both stretched to the greater
height. -/
def Picture.besideOn (K : Type) [Scalar K] (background : Pixel .rgb8)
    (left right : Picture) : Picture :=
  let H := max left.height right.height
  let canvas := Grid.solid (left.width + right.width) H background
  ⟨.rgb8, left.width + right.width, H,
    (canvas.covered (left.fitted K H) 0 0).covered (right.fitted K H) left.width 0⟩

/-- The two pictures side by side on white. -/
def Picture.besideIn (K : Type) [Scalar K] (left right : Picture) : Picture :=
  besideOn K Pixel.white left right

/-- The two pictures side by side, stretched in single precision. -/
def Picture.beside (left right : Picture) : Picture :=
  left.besideIn Binary32 right

end AstCompare
