import AstCompare.Picture.Compose

/-!
# What stands where in two pictures side by side

The two pictures are put onto the canvas one after the other, each as a rectangle with its corner at
a given place. The two rectangles are as high as the canvas, they meet at the width of the first
one, and together they are as wide as the canvas; so each place of the canvas is covered once,
whatever the sizes are, and nothing of the canvas itself is left.

`Grid.beside` says this without a canvas: the rows of the two grids are strung together.

## Main definitions

* `Grid.pixel?`: the pixel in a column and a row, if there is one.
* `Grid.beside`: two grids of one height, row by row.

## Main results

* `Grid.covered_covered`: two grids of the height of the canvas that fill its width hide it.
* `Picture.besideIn_pixels`: which pixel stands where, and what it depends on.
-/

namespace AstCompare

namespace Grid

variable {f : PixelFormat} {W H w h w₁ w₂ : Nat}

/-- The pixel in column `x` and row `y`, if the grid reaches that far. -/
def pixel? (g : Grid f w h) (x y : Nat) : Option (Pixel f) :=
  g[y]?.bind fun row => row[x]?

theorem pixel?_of_lt (g : Grid f w h) {x y : Nat} (hx : x < w) (hy : y < h) :
    g.pixel? x y = some g[y][x] := by
  simp [pixel?, hx, hy]

/-- A grid has a pixel at every place within its size and at no other. -/
theorem isSome_pixel?_iff (g : Grid f w h) (x y : Nat) :
    (g.pixel? x y).isSome ↔ x < w ∧ y < h := by
  by_cases hy : y < h
  · by_cases hx : x < w
    · simp [pixel?_of_lt g hx hy, hx, hy]
    · simp [pixel?, hx, hy]
  · simp [pixel?, hy]

/-- Grids with the same pixels are the same. -/
theorem ext_pixel? {a b : Grid f w h} (hab : ∀ x y, a.pixel? x y = b.pixel? x y) : a = b := by
  ext y hy x hx : 2
  have hpixel := hab x y
  rw [pixel?_of_lt a hx hy, pixel?_of_lt b hx hy] at hpixel
  exact Option.some.inj hpixel

/-- Both grids row by row, the first on the left. -/
def beside (a : Grid f w₁ h) (b : Grid f w₂ h) : Grid f (w₁ + w₂) h :=
  Vector.ofFn fun y => a.get y ++ b.get y

theorem pixel?_beside (a : Grid f w₁ h) (b : Grid f w₂ h) (x y : Nat) :
    (a.beside b).pixel? x y = if x < w₁ then a.pixel? x y else b.pixel? (x - w₁) y := by
  by_cases hy : y < h
  · simp [pixel?, beside, hy, Vector.get, Vector.getElem?_append]
  · simp [pixel?, hy]

theorem pixel?_toRgb (g : Grid f w h) (x y : Nat) :
    g.toRgb.pixel? x y = (g.pixel? x y).map Pixel.toRgb := by
  by_cases hy : y < h
  · simp [pixel?, toRgb, hy]
  · simp [pixel?, hy]

/-! ## Covering the canvas -/

/-- Of a canvas that has been covered, a place shows the grid where the grid lies and the canvas
elsewhere. -/
theorem pixel?_covered (canvas : Grid f W H) (g : Grid f w h) {x y X Y : Nat} (hX : X < W)
    (hY : Y < H) :
    (canvas.covered g x y).pixel? X Y =
      if (x ≤ X ∧ X - x < w) ∧ y ≤ Y ∧ Y - y < h then g.pixel? (X - x) (Y - y)
      else canvas.pixel? X Y := by
  rw [pixel?_of_lt _ hX hY]
  split
  next hinside =>
    rw [pixel?_of_lt g hinside.1.2 hinside.2.2, covered, Vector.getElem_ofFn, Vector.getElem_ofFn,
      dif_pos hinside]
    rfl
  next houtside =>
    rw [pixel?_of_lt canvas hX hY, covered, Vector.getElem_ofFn, Vector.getElem_ofFn,
      dif_neg houtside]
    rfl

/-- **Nothing of the canvas is left.** Two grids of the height of the canvas, the second where the
first one ends, hide a canvas that is as wide as both together. -/
theorem covered_covered (canvas : Grid f (w₁ + w₂) h) (a : Grid f w₁ h) (b : Grid f w₂ h) :
    (canvas.covered a 0 0).covered b w₁ 0 = a.beside b := by
  apply ext_pixel?
  intro x y
  by_cases hin : x < w₁ + w₂ ∧ y < h
  · obtain ⟨hx, hy⟩ := hin
    rw [pixel?_covered _ _ hx hy, pixel?_covered _ _ hx hy, pixel?_beside]
    by_cases hleft : x < w₁
    · have hnot : ¬ w₁ ≤ x := by omega
      simp [hleft, hnot, hy]
    · have hright : w₁ ≤ x ∧ x - w₁ < w₂ := by omega
      simp [hleft, hright, hy]
  · have hnone : ∀ g : Grid f (w₁ + w₂) h, g.pixel? x y = none := by
      intro g
      rw [← Option.not_isSome_iff_eq_none, isSome_pixel?_iff]
      exact hin
    rw [hnone, hnone]

/-- At its own height a grid is copied. -/
theorem stretch_self (K : Type) [Scalar K] (g : Grid f w h) : g.stretch K h = g := by
  ext y hy : 1
  rw [stretch, dif_pos rfl, Vector.getElem_ofFn]
  rfl

theorem pixel?_stretch_of_eq (K : Type) [Scalar K] (g : Grid f w h) (hH : h = H) (x y : Nat) :
    (g.stretch K H).pixel? x y = g.pixel? x y := by
  subst hH
  rw [stretch_self]

end Grid

namespace Picture

variable (K : Type) [Scalar K]

/-- The canvas does not matter: the two pictures hide all of it. -/
theorem besideOn_eq (background : Pixel .rgb8) (left right : Picture) :
    left.besideOn K background right =
      ⟨.rgb8, left.width + right.width, max left.height right.height,
        (left.fitted K _).beside (right.fitted K _)⟩ := by
  rw [besideOn, Grid.covered_covered]

theorem pixel?_besideIn (left right : Picture) (x y : Nat) :
    (left.besideIn K right).grid.pixel? x y =
      if x < left.width then
        ((left.grid.stretch K (max left.height right.height)).pixel? x y).map Pixel.toRgb
      else
        ((right.grid.stretch K (max left.height right.height)).pixel? (x - left.width) y).map
          Pixel.toRgb := by
  have hgrid : (left.besideIn K right).grid = (left.fitted K _).beside (right.fitted K _) :=
    Grid.covered_covered _ _ _
  rw [← Grid.pixel?_toRgb, ← Grid.pixel?_toRgb, hgrid]
  exact Grid.pixel?_beside _ _ x y

theorem pixel?_besideIn_left (left right : Picture) {x : Nat} (hx : x < left.width) (y : Nat) :
    (left.besideIn K right).grid.pixel? x y =
      ((left.grid.stretch K (max left.height right.height)).pixel? x y).map Pixel.toRgb := by
  rw [pixel?_besideIn, if_pos hx]

theorem pixel?_besideIn_right (left right : Picture) (x y : Nat) :
    (left.besideIn K right).grid.pixel? (left.width + x) y =
      ((right.grid.stretch K (max left.height right.height)).pixel? x y).map Pixel.toRgb := by
  rw [pixel?_besideIn, if_neg (by omega), Nat.add_sub_cancel_left]

/-- **Two pictures side by side.** The result has the width of both and the greater height. Its
pixels up to the width of the left picture are those of the left picture stretched to that height,
the others those of the right picture stretched to that height, in eight-bit colors; a picture that
has the height already is copied pixel by pixel. The color of the canvas does not show anywhere, and
of the other picture only the height matters. -/
theorem besideIn_pixels (left right : Picture) :
    ((left.besideIn K right).format = .rgb8 ∧
      (left.besideIn K right).width = left.width + right.width ∧
      (left.besideIn K right).height = max left.height right.height) ∧
    (∀ x y, (left.besideIn K right).grid.pixel? x y =
      if x < left.width then
        ((left.grid.stretch K (max left.height right.height)).pixel? x y).map Pixel.toRgb
      else
        ((right.grid.stretch K (max left.height right.height)).pixel? (x - left.width) y).map
          Pixel.toRgb) ∧
    (left.height = max left.height right.height → ∀ x < left.width, ∀ y,
      (left.besideIn K right).grid.pixel? x y = (left.grid.pixel? x y).map Pixel.toRgb) ∧
    (right.height = max left.height right.height → ∀ x y,
      (left.besideIn K right).grid.pixel? (left.width + x) y =
        (right.grid.pixel? x y).map Pixel.toRgb) ∧
    (∀ background, left.besideOn K background right = left.besideIn K right) ∧
    (∀ right' : Picture, right'.height = right.height → ∀ x < left.width, ∀ y,
      (left.besideIn K right').grid.pixel? x y = (left.besideIn K right).grid.pixel? x y) ∧
    ∀ left' : Picture, left'.height = left.height → ∀ x y,
      (left'.besideIn K right).grid.pixel? (left'.width + x) y =
        (left.besideIn K right).grid.pixel? (left.width + x) y := by
  refine ⟨⟨rfl, rfl, rfl⟩, pixel?_besideIn K left right, ?_, ?_, ?_, ?_, ?_⟩
  · intro hleft x hx y
    rw [pixel?_besideIn_left K left right hx, Grid.pixel?_stretch_of_eq K _ hleft]
  · intro hright x y
    rw [pixel?_besideIn_right, Grid.pixel?_stretch_of_eq K _ hright]
  · intro background
    rw [besideIn, besideOn_eq, besideOn_eq]
  · intro right' hheight x hx y
    rw [pixel?_besideIn_left K left right' hx, pixel?_besideIn_left K left right hx, hheight]
  · intro left' hheight x y
    rw [pixel?_besideIn_right, pixel?_besideIn_right, hheight]

/-- Two gray rows beside a picture that has a column but no rows: the rows are copied, the column is
filled with black, and the canvas does not show. -/
theorem besideIn_pixels_noRows :
    let rows := ofBytes ⟨.gray, .eight⟩ 1 2 ⟨#[7, 255]⟩
    let noRows := ofBytes ⟨.rgb, .sixteen⟩ 1 0 .empty
    ((rows.beside noRows).grid.pixel? 0 0).map (·.toList.map Fin.val) = some [7, 7, 7] ∧
      ((rows.beside noRows).grid.pixel? 1 0).map (·.toList.map Fin.val) = some [0, 0, 0] ∧
      ∀ background, rows.besideOn Binary32 background noRows = rows.beside noRows := by
  intro rows noRows
  obtain ⟨-, hpixel, hcopied, -, hcanvas, -, -⟩ := besideIn_pixels Binary32 rows noRows
  refine ⟨?_, ?_, hcanvas⟩
  · exact (congrArg _ (hcopied (by decide) 0 (by decide) 0)).trans (by decide)
  · exact (congrArg _ (hpixel 1 0)).trans (by decide)

end Picture

end AstCompare
