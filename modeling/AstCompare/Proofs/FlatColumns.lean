import AstCompare.Proofs.SideBySide
import AstCompare.Proofs.StretchWeights
import Mathlib.Tactic.FinCases

/-!
# Flat areas stay flat

A column of a picture may have the same value in one channel all the way down: the background of a
drawing, or the side of a box. The shares of the source rows add up to one, so every row of the
stretched column is that value again, exactly, and rounding finds nothing to do. This is the reason
why the sum of the weights has to be known: were it zero for a single row of a single pair of
heights, the shares of that row would be worth nothing.

The two pictures side by side show the value in eight bits, in the channels that the channel of the
picture goes to (`Channels.shown`): a gray value in all three, a color in its own place.

## Main definitions

* `Stretch.WellPosed`: what the window and the weights of a row have to be.
* `Grid.FlatAt`: a column that has one value in a channel.

## Main results

* `Grid.FlatAt.stretch`: a flat column stays flat.
* `Picture.besideIn_flat`: windows and weights are as they should be, so flat columns show in the
  pictures side by side.
-/

namespace AstCompare

namespace Stretch

/-- The rows of a window follow each other within the source, no other row has a weight, and the
weights can be divided by their sum. -/
structure WellPosed (h H y : Nat) : Prop where
  nonempty : window Rat h H y ≠ []
  consecutive : (window Rat h H y).map Fin.val =
    List.range' (windowStart Rat h H y) (windowEnd Rat h H y - windowStart Rat h H y)
  within : windowEnd Rat h H y ≤ h
  complete : ∀ i : Fin h, weight Rat h H y i ≠ 0 → i ∈ window Rat h H y
  positive : 0 < Scalar.total ((window Rat h H y).map fun i => weight Rat h H y i.val)

theorem wellPosed {h H y : Nat} (hh : 0 < h) (hy : y < H) : WellPosed h H y where
  nonempty := by
    have hlt := windowStart_lt_windowEnd Rat h H y
    have hend := windowEnd_le Rat H y hh
    have hfirst : (⟨windowStart Rat h H y, by omega⟩ : Fin h) ∈ window Rat h H y :=
      (mem_window Rat h H y _).mpr ⟨le_rfl, hlt⟩
    exact List.ne_nil_of_mem hfirst
  consecutive := map_val_window Rat h H y hh
  within := windowEnd_le Rat H y hh
  complete _ hi := mem_window_of_weight_ne_zero hi
  positive := by
    rw [total_window fun _ hi => hi]
    exact sum_weight_pos hh hy

/-- A value that all source rows have is the value of the stretched row. -/
theorem blend_const (f : PixelFormat) {h H y : Nat} (hh : 0 < h) (hy : y < H) (v : Sample f) :
    blend f (shares Rat h H y) (fun _ => v.val) = v := by
  have hsum := sum_weight_pos hh hy
  have hmean : ∑ i : Fin h, (v.val : Rat) * (weight Rat h H y i / ∑ j : Fin h, weight Rat h H y j) =
      v.val := by
    rw [← Finset.mul_sum, ← Finset.sum_div, div_self hsum.ne', mul_one]
  have hv : v.val ≤ f.depth.levels - 1 := Nat.le_sub_one_of_lt v.isLt
  rw [blend_shares, hmean, Scalar.clamped_natCast hv]
  exact Fin.ext (min_eq_left hv)

end Stretch

/-- Which channel of a pixel goes to a channel of its eight-bit colors. -/
def Channels.shown : (c : Channels) → Fin 3 → Fin c.count
  | gray, _ => (0 : Fin 1)
  | grayAlpha, _ => (0 : Fin 2)
  | rgb, i => (i : Fin 3)
  | rgba, i => (i.castSucc : Fin 4)

/-- Red, green or blue. -/
def Pixel.color (p : Pixel .rgb8) (i : Fin 3) : Sample .rgb8 :=
  Vector.get p i

theorem Pixel.color_toRgb {f : PixelFormat} (p : Pixel f) (i : Fin 3) :
    p.toRgb.color i = (p.get (f.channels.shown i)).toEight := by
  obtain ⟨channels, depth⟩ := f
  cases channels <;> fin_cases i <;> rfl

namespace Grid

variable {f : PixelFormat} {w h : Nat}

/-- The samples of a channel have one value all the way down a column. -/
def FlatAt (g : Grid f w h) (x : Fin w) (k : Fin f.channels.count) (v : Sample f) : Prop :=
  ∀ i : Fin h, ((g.get i).get x).get k = v

instance (g : Grid f w h) (x : Fin w) (k : Fin f.channels.count) (v : Sample f) :
    Decidable (g.FlatAt x k v) :=
  inferInstanceAs (Decidable (∀ i : Fin h, ((g.get i).get x).get k = v))

/-- **A flat column stays flat.** -/
theorem FlatAt.stretch {g : Grid f w h} {x : Fin w} {k : Fin f.channels.count} {v : Sample f}
    (hg : g.FlatAt x k v) (hh : 0 < h) (H : Nat) : (g.stretch Rat H).FlatAt x k v := by
  intro y
  by_cases hH : h = H
  · subst hH
    rw [stretch_self]
    exact hg y
  · rw [get_stretch Rat g hH, funext fun i => congrArg Fin.val (hg i)]
    exact Stretch.blend_const f hh y.isLt v

/-- What a flat column shows in eight-bit colors. -/
theorem FlatAt.pixel? {g : Grid f w h} {x : Fin w} {v : Sample f} {i : Fin 3}
    (hg : g.FlatAt x (f.channels.shown i) v) {y : Nat} (hy : y < h) :
    ((g.pixel? x y).map Pixel.toRgb).map (Pixel.color · i) = some v.toEight := by
  rw [pixel?_of_lt g x.isLt hy, Option.map_some, Option.map_some, Pixel.color_toRgb]
  exact congrArg (fun s => some (Sample.toEight s)) (hg ⟨y, hy⟩)

end Grid

namespace Picture

/-- **Stretching is well posed, and flat areas stay flat.** For every height and every greater one
each row has a window of rows within the source that leaves out no weight, and weights with a
positive sum. So if a column of one of two pictures has one value in a channel, then in every row of
the two pictures side by side the channels that show it have that value in eight bits. -/
theorem besideIn_flat :
    (∀ h H y, 0 < h → h < H → y < H → Stretch.WellPosed h H y) ∧
    ∀ (left right : Picture) (i : Fin 3) (y : Nat), y < max left.height right.height →
      (0 < left.height → ∀ x v, left.grid.FlatAt x (left.format.channels.shown i) v →
        ((left.besideIn Rat right).grid.pixel? x y).map (Pixel.color · i) = some v.toEight) ∧
      (0 < right.height → ∀ x v, right.grid.FlatAt x (right.format.channels.shown i) v →
        ((left.besideIn Rat right).grid.pixel? (left.width + x) y).map (Pixel.color · i) =
          some v.toEight) := by
  refine ⟨fun h H y hh _ hy => Stretch.wellPosed hh hy, ?_⟩
  intro left right i y hy
  constructor
  · intro hh x v hflat
    rw [pixel?_besideIn_left Rat left right x.isLt]
    exact (hflat.stretch hh _).pixel? hy
  · intro hh x v hflat
    rw [pixel?_besideIn_right]
    exact (hflat.stretch hh _).pixel? hy

/-- The second channel of a column of two rows is flat, the others are not: stretched to five rows
beside a gray picture the channel has its value in all of them. -/
theorem besideIn_flat_green :
    let column := ofBytes .rgb8 1 2 ⟨#[0, 10, 255, 200, 10, 7]⟩
    let gray := ofBytes ⟨.gray, .sixteen⟩ 1 5 .empty
    Stretch.WellPosed 2 5 0 ∧
      ∀ y < 5, ((column.besideIn Rat gray).grid.pixel? 0 y).map (Pixel.color · 1) =
        some (.clamp .rgb8 10) := by
  intro column gray
  refine ⟨besideIn_flat.1 2 5 0 (by decide) (by decide) (by decide), ?_⟩
  have hflat : column.grid.FlatAt ⟨0, by decide⟩ (column.format.channels.shown 1)
      (.clamp column.format 10) := by decide
  intro y hy
  exact (besideIn_flat.2 column gray 1 y hy).1 (by decide) _ _ hflat

end Picture

end AstCompare
