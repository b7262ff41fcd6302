import AstCompare.Proofs.SideBySide
import AstCompare.Proofs.StretchWeights

/-!
# Pictures turned upside down

Stretching does not know which end of a picture is up. The middles of the target rows lie
symmetrically in the source, so a target row counted from the bottom has the same distances to the
source rows counted from the bottom, and with the distances the weights are the same
(`Stretch.weight_rev`). The ends of the windows are cut off at one edge by a lower bound and at the
other by an upper bound; this does not show, since a sum over the window is a sum over all rows.

The sums are the same rational numbers, so they are brought into the range of the samples and
rounded in the same way, and two pictures can be turned upside down before they are put side by side
or after it.

## Main definitions

* `Picture.upsideDown`: the picture with its rows in reverse order.

## Main results

* `Grid.stretch_reverse`: stretching a grid that has been turned upside down.
* `Picture.besideIn_upsideDown`: two pictures that have both been turned upside down.
-/

namespace AstCompare

namespace Stretch

theorem cast_rev {n : Nat} (i : Fin n) : (i.rev.val : Rat) = n - 1 - i.val := by
  rw [Fin.val_rev, Nat.cast_sub i.isLt]
  push_cast
  ring

/-- The middles of the target rows are symmetric within the source. -/
theorem center_rev (h : Nat) {H : Nat} (y : Fin H) : center h H y.rev = h - 1 - center h H y := by
  have hH : (H : Rat) ≠ 0 := Nat.cast_ne_zero.mpr (by have := y.isLt; omega)
  rw [center, center, cast_rev]
  field_simp
  ring

/-- Rows counted from the bottom have the same weights. -/
theorem weight_rev {h H : Nat} (y : Fin H) (i : Fin h) :
    weight Rat h H y.rev i.rev = weight Rat h H y i := by
  rw [weight_rat, weight_rat, center_rev, cast_rev, ← kernel_neg]
  congr 1
  ring

/-- The value of a row counted from the bottom, if the source rows are counted from there too. -/
theorem blend_rev (f : PixelFormat) {h H : Nat} (y : Fin H) (value : Fin h → Nat) :
    blend f (shares Rat h H y.rev) (fun i => value i.rev) = blend f (shares Rat h H y) value := by
  have htotal : ∑ j : Fin h, weight Rat h H y.rev j = ∑ j : Fin h, weight Rat h H y j := by
    rw [← Equiv.sum_comp Fin.revPerm]
    exact Finset.sum_congr rfl fun j _ => weight_rev y j
  rw [blend_shares, blend_shares, htotal, ← Equiv.sum_comp Fin.revPerm]
  congr 2
  refine Finset.sum_congr rfl fun i _ => ?_
  rw [Fin.revPerm_apply, Fin.rev_rev, weight_rev]

end Stretch

namespace Grid

variable {f : PixelFormat} {w h w₁ w₂ : Nat}

theorem get_reverse (g : Grid f w h) (y : Fin h) : Vector.get g.reverse y = g.get y.rev := by
  show g.reverse[y.val] = g[y.rev.val]
  rw [Vector.getElem_reverse]
  congr 1
  rw [Fin.val_rev]
  omega

/-- Stretching a grid that has been turned upside down. -/
theorem stretch_reverse (g : Grid f w h) (H : Nat) :
    Grid.stretch Rat g.reverse H = (g.stretch Rat H).reverse := by
  by_cases hH : h = H
  · subst hH
    rw [stretch_self, stretch_self]
  · ext y hy x hx k hk : 3
    show ((Vector.get (Grid.stretch Rat g.reverse H) ⟨y, hy⟩).get ⟨x, hx⟩).get ⟨k, hk⟩ =
      ((Vector.get (g.stretch Rat H).reverse ⟨y, hy⟩).get ⟨x, hx⟩).get ⟨k, hk⟩
    have hrow := Stretch.blend_rev f (Fin.rev ⟨y, hy⟩)
      fun i : Fin h => (((g.get i).get ⟨x, hx⟩).get ⟨k, hk⟩).val
    rw [Fin.rev_rev] at hrow
    rw [get_reverse, get_stretch Rat _ hH, get_stretch Rat _ hH, ← hrow]
    simp only [get_reverse]

theorem toRgb_reverse (g : Grid f w h) : Grid.toRgb g.reverse = g.toRgb.reverse :=
  Vector.map_reverse ..

theorem beside_reverse (a : Grid f w₁ h) (b : Grid f w₂ h) :
    Grid.beside a.reverse b.reverse = (a.beside b).reverse := by
  ext y hy : 1
  have hrow : Fin.rev ⟨y, hy⟩ = ⟨h - 1 - y, by omega⟩ := Fin.ext (by simp only [Fin.val_rev]; omega)
  rw [Vector.getElem_reverse, beside, beside, Vector.getElem_ofFn, Vector.getElem_ofFn, get_reverse,
    get_reverse, hrow]

end Grid

namespace Picture

/-- The picture with its rows in reverse order. -/
def upsideDown (p : Picture) : Picture :=
  { p with grid := p.grid.reverse }

theorem fitted_upsideDown (p : Picture) (H : Nat) :
    p.upsideDown.fitted Rat H = (p.fitted Rat H).reverse := by
  rw [fitted, fitted, ← Grid.toRgb_reverse, ← Grid.stretch_reverse]
  rfl

/-- **Pictures upside down.** Two pictures that are turned upside down and then put side by side, in
exact numbers, are the two pictures side by side turned upside down. -/
theorem besideIn_upsideDown (left right : Picture) :
    left.upsideDown.besideIn Rat right.upsideDown = (left.besideIn Rat right).upsideDown := by
  rw [besideIn, besideIn, besideOn_eq, besideOn_eq, fitted_upsideDown, fitted_upsideDown]
  exact congrArg (mk .rgb8 (left.width + right.width) (max left.height right.height))
    (Grid.beside_reverse _ _)

end Picture

end AstCompare
