import AstCompare.Picture.Stretch
import Mathlib.Algebra.BigOperators.Fin
import Mathlib.Algebra.BigOperators.Field
import Mathlib.Algebra.BigOperators.Intervals
import Mathlib.Algebra.Order.BigOperators.Group.Finset
import Mathlib.Algebra.Order.Floor.Semiring
import Mathlib.Data.Rat.Floor
import Mathlib.Tactic.Linarith
import Mathlib.Tactic.Ring

/-!
# The weights of the source rows, in exact numbers

A row of a stretched grid is a weighted mean of source rows. The weights come from a cubic with
negative lobes, only the rows of a window are looked at, and the window is cut off at the edges. So
three things have to hold before the mean means anything: the window has rows, no row with a weight
is outside of it, and the weights do not add up to zero.

## The window

That the window is not empty and does not reach beyond the rows is a matter of its ends alone and
holds for numbers of every kind. That it leaves out no weight holds for the rationals, for which the
ends are where they should be; so a sum over the window is the sum over all rows
(`Stretch.total_window`).

## The sum of the weights

On either side of the middle of the target row the source rows stand at distances `s`, `s + 1`,
`s + 2` and so on, where `s` is at most one. All weights from the third on are zero, the second is
negative, and the first one outweighs it. So each side has a sum that is not negative, however many
rows the edge leaves there, and the side that has the nearest row has a positive one. The sum of all
weights at a middle that is not near the edge (it is one) is not needed.

## Main definitions

* `Stretch.center`: the middle of a target row, where source row `i` has its middle at `i`.
* `Stretch.kernel`: the weight of a row by its distance, with a sign, from that place.

## Main results

* `Stretch.mem_window_of_weight_ne_zero`: no weight is outside of the window.
* `Stretch.sum_weight_pos`: the weights have a positive sum.
* `Stretch.blend_shares`: a sample of the stretched grid as a sum over all source rows.
-/

namespace AstCompare

namespace Scalar

theorem half_rat : (half : Rat) = 1 / 2 := by
  show ((1 : Nat) : Rat) / ((2 : Nat) : Rat) = 1 / 2
  norm_num

theorem magnitude_rat (x : Rat) : magnitude x = |x| := by
  show (if decide (x < ((0 : Nat) : Rat)) then ((0 : Nat) : Rat) - x else x) = |x|
  rw [Nat.cast_zero, zero_sub]
  split
  next hneg => rw [abs_of_neg (of_decide_eq_true hneg)]
  next hpos => rw [abs_of_nonneg (not_lt.mp (of_decide_eq_false (by simpa using hpos)))]

theorem total_rat (xs : List Rat) : total xs = xs.sum := by
  rw [List.sum_eq_foldl]
  rfl

/-- An integer is within the range already. -/
theorem clamped_natCast {v n : Nat} (hv : v ≤ n) : clamped n (v : Rat) = v := by
  have hnearest : nearest (v : Rat) = v := by
    show ⌊(v : Rat) + 1 / 2⌋ = v
    rw [Int.floor_eq_iff]
    constructor <;> push_cast <;> linarith
  rw [clamped, hnearest, Int.toNat_natCast, min_eq_left hv]

end Scalar

namespace Stretch

/-! ## The window -/

section Window

variable (K : Type) [Scalar K] (h H y : Nat)

theorem windowStart_lt_windowEnd : windowStart K h H y < windowEnd K h H y :=
  Nat.lt_of_lt_of_le (Nat.lt_succ_self _) (le_max_left _ _)

variable {h} in
theorem windowEnd_le (hh : 0 < h) : windowEnd K h H y ≤ h := by
  have hstart : windowStart K h H y ≤ h - 1 := min_le_right _ _
  rw [windowEnd]
  omega

theorem mem_window (i : Fin h) :
    i ∈ window K h H y ↔ windowStart K h H y ≤ i.val ∧ i.val < windowEnd K h H y := by
  have hlt := windowStart_lt_windowEnd K h H y
  simp only [window, List.mem_filterMap, List.mem_range'_1]
  constructor
  · rintro ⟨j, hj, hi⟩
    split at hi
    · obtain rfl := Option.some.inj hi
      dsimp only
      omega
    · cases hi
  · intro hi
    exact ⟨i.val, by omega, by simp⟩

/-- The rows of the window, one after the other: none is cut off. -/
theorem map_val_window (hh : 0 < h) : (window K h H y).map Fin.val =
    List.range' (windowStart K h H y) (windowEnd K h H y - windowStart K h H y) := by
  have hend := windowEnd_le K H y hh
  have hlt := windowStart_lt_windowEnd K h H y
  rw [window, List.map_filterMap]
  refine (List.filterMap_congr fun i hi => ?_).trans (List.filterMap_some)
  rw [List.mem_range'_1] at hi
  rw [dif_pos (by omega), Option.map_some]

theorem nodup_window : (window K h H y).Nodup := by
  refine List.Nodup.filterMap ?_ List.nodup_range'
  intro i j k hi hj
  rw [Option.mem_def] at hi hj
  split at hi
  · split at hj
    · exact congrArg Fin.val ((Option.some.inj hi).trans (Option.some.inj hj).symm)
    · cases hj
  · cases hi

end Window

/-! ## Weights by distance -/

/-- The middle of target row `y`, if source row `i` has its middle at `i`. -/
def center (h H y : Nat) : Rat :=
  (y + 1 / 2) * (h / H) - 1 / 2

/-- The weight at a distance, which may have a sign. -/
def kernel (d : Rat) : Rat :=
  cubic Rat |d|

theorem middle_rat (h H y : Nat) : middle Rat h H y = center h H y + 1 / 2 := by
  rw [center, sub_add_cancel, ← Scalar.half_rat]
  rfl

theorem weight_rat (h H y i : Nat) : weight Rat h H y i = kernel (i - center h H y) := by
  have hcenter : middle Rat h H y - 1 / 2 = center h H y := by
    rw [middle_rat, add_sub_cancel_right]
  rw [kernel, ← hcenter, ← Scalar.half_rat, ← Scalar.magnitude_rat]
  rfl

theorem cubic_rat (a : Rat) : cubic Rat a =
    if a < 1 then (9 * a ^ 3 - 15 * a ^ 2 + 6) / 6
    else if a < 2 then (15 * a ^ 2 - 3 * a ^ 3 - 24 * a + 12) / 6
    else 0 := by
  show (if decide (a < ((1 : Nat) : Rat)) then
      (((9 : Nat) : Rat) * (a * (a * a)) - ((15 : Nat) : Rat) * (a * a) + ((6 : Nat) : Rat)) /
        ((6 : Nat) : Rat)
    else if decide (a < ((2 : Nat) : Rat)) then
      (((15 : Nat) : Rat) * (a * a) - ((3 : Nat) : Rat) * (a * (a * a)) - ((24 : Nat) : Rat) * a +
        ((12 : Nat) : Rat)) / ((6 : Nat) : Rat)
    else ((0 : Nat) : Rat)) = _
  simp only [decide_eq_true_eq]
  push_cast
  ring_nf

theorem kernel_neg (d : Rat) : kernel (-d) = kernel d := by
  rw [kernel, kernel, abs_neg]

theorem kernel_of_lt_one {s : Rat} (hs : 0 ≤ s) (hs' : s < 1) :
    kernel s = (1 - s) * (2 + 2 * s - 3 * s ^ 2) / 2 := by
  rw [kernel, abs_of_nonneg hs, cubic_rat, if_pos hs']
  ring

theorem kernel_of_lt_two {s : Rat} (hs : 1 ≤ s) (hs' : s < 2) :
    kernel s = (1 - s) * (2 - s) ^ 2 / 2 := by
  rw [kernel, abs_of_nonneg (by linarith), cubic_rat, if_neg (by linarith), if_pos hs']
  ring

theorem kernel_of_two_le {d : Rat} (hd : 2 ≤ |d|) : kernel d = 0 := by
  rw [kernel, cubic_rat, if_neg (by linarith), if_neg (by linarith)]

/-! ## Sums of weights -/

/-- The nearest row of a side has a positive weight. -/
theorem kernel_pos {s : Rat} (hs : 0 ≤ s) (hs' : s < 1) : 0 < kernel s := by
  rw [kernel_of_lt_one hs hs']
  have hfactor : 0 < 2 + 2 * s - 3 * s ^ 2 := by nlinarith
  have hrest : 0 < 1 - s := by linarith
  positivity

/-- The nearest row of a side outweighs the second nearest. -/
theorem kernel_add_pos {s : Rat} (hs : 0 ≤ s) (hs' : s < 1) : 0 < kernel s + kernel (s + 1) := by
  have hsum : kernel s + kernel (s + 1) = (1 - s) * (2 + s - 2 * s ^ 2) / 2 := by
    rw [kernel_of_lt_one hs hs', kernel_of_lt_two (by linarith) (by linarith)]
    ring
  have hfactor : 0 < 2 + s - 2 * s ^ 2 := by nlinarith
  have hrest : 0 < 1 - s := by linarith
  rw [hsum]
  positivity

/-- From the third nearest row on there is no weight, so a side counts for one row or for two. -/
theorem sum_kernel_cases {s : Rat} (hs : 0 ≤ s) {m : Nat} (hm : 0 < m) :
    ∑ k ∈ Finset.range m, kernel (s + k) = kernel s ∨
      ∑ k ∈ Finset.range m, kernel (s + k) = kernel s + kernel (s + 1) := by
  obtain _ | _ | n := m
  · exact absurd hm (lt_irrefl 0)
  · left
    rw [Finset.sum_range_one, Nat.cast_zero, add_zero]
  · right
    have hfar : ∀ k ∈ Finset.range n, kernel (s + ((2 + k : Nat) : Rat)) = 0 := by
      intro k _
      have hk : (0 : Rat) ≤ k := Nat.cast_nonneg k
      refine kernel_of_two_le (le_trans ?_ (le_abs_self _))
      push_cast
      linarith
    rw [Nat.add_assoc, Nat.add_comm n, Finset.sum_range_add, Finset.sum_eq_zero hfar,
      Finset.sum_range_succ, Finset.sum_range_one, Nat.cast_zero, Nat.cast_one, add_zero, add_zero]

/-- A side that has its nearest row. -/
theorem sum_kernel_pos {s : Rat} (hs : 0 ≤ s) (hs' : s < 1) {m : Nat} (hm : 0 < m) :
    0 < ∑ k ∈ Finset.range m, kernel (s + k) := by
  obtain hone | htwo := sum_kernel_cases hs hm
  · rw [hone]
    exact kernel_pos hs hs'
  · rw [htwo]
    exact kernel_add_pos hs hs'

/-- A side, however many rows it has. -/
theorem sum_kernel_nonneg {s : Rat} (hs : 0 ≤ s) (hs' : s ≤ 1) (m : Nat) :
    0 ≤ ∑ k ∈ Finset.range m, kernel (s + k) := by
  obtain rfl | hm := Nat.eq_zero_or_pos m
  · rw [Finset.sum_range_zero]
  obtain hlt | rfl := lt_or_eq_of_le hs'
  · exact (sum_kernel_pos hs hlt hm).le
  · -- the middle is on a row of the other side, and the rows of this one have no weight at all
    have hfirst : kernel 1 = 0 := by
      rw [kernel_of_lt_two le_rfl (by norm_num), sub_self, zero_mul, zero_div]
    have hsecond : kernel (1 + 1) = 0 := kernel_of_two_le (by norm_num)
    obtain hone | htwo := sum_kernel_cases hs hm
    · rw [hone, hfirst]
    · rw [htwo, hfirst, hsecond, add_zero]

/-- **The weights of all rows have a positive sum,** at every place between the outer edges of the
first and the last row. -/
theorem sum_kernel_sub_pos {h : Nat} {u : Rat} (hlow : -(1 / 2) < u) (hhigh : u < h - 1 / 2) :
    0 < ∑ i ∈ Finset.range h, kernel (i - u) := by
  -- `m` rows have their middles at `u` or before it, the nearest of them at the distance
  -- `u + 1 - m`
  obtain ⟨m, hm⟩ : ∃ m, m = ⌊u + 1⌋₊ := ⟨_, rfl⟩
  have hle : (m : Rat) ≤ u + 1 := hm ▸ Nat.floor_le (by linarith)
  have hlt : u < m := by
    have := hm ▸ Nat.lt_floor_add_one (u + 1)
    linarith
  have hmh : m ≤ h := by
    rw [← Nat.lt_succ_iff, ← Nat.cast_lt (α := Rat)]
    push_cast
    linarith
  obtain ⟨n, rfl⟩ := Nat.exists_eq_add_of_le hmh
  have hbefore : ∑ i ∈ Finset.range m, kernel (i - u) =
      ∑ k ∈ Finset.range m, kernel (u + 1 - m + k) := by
    rw [← Finset.sum_range_reflect]
    refine Finset.sum_congr rfl fun k hk => ?_
    rw [← kernel_neg, Nat.cast_sub (by have := Finset.mem_range.mp hk; omega),
      Nat.cast_sub (by have := Finset.mem_range.mp hk; omega)]
    congr 1
    push_cast
    ring
  have hafter : ∑ k ∈ Finset.range n, kernel ((m + k : Nat) - u) =
      ∑ k ∈ Finset.range n, kernel (m - u + k) := by
    refine Finset.sum_congr rfl fun k _ => congrArg kernel ?_
    push_cast
    ring
  rw [Finset.sum_range_add, hbefore, hafter]
  obtain rfl | hpos := Nat.eq_zero_or_pos m
  · -- the place is above the middle of the first row, so the nearest row comes after it
    push_cast at hlt hhigh
    have hn : 0 < n := by
      rw [← Nat.cast_pos (α := Rat)]
      linarith
    rw [Finset.sum_range_zero, zero_add, Nat.cast_zero]
    exact sum_kernel_pos (by linarith) (by linarith) hn
  · have hfirst := sum_kernel_pos (s := u + 1 - m) (by linarith) (by linarith) hpos
    have hsecond := sum_kernel_nonneg (s := m - u) (by linarith) (by linarith) n
    linarith

/-! ## The rows that count -/

/-- **No weight is outside of the window.** -/
theorem mem_window_of_weight_ne_zero {h H y : Nat} {i : Fin h} (hi : weight Rat h H y i ≠ 0) :
    i ∈ window Rat h H y := by
  have hnear : |(i.val : Rat) - center h H y| < 2 := by
    by_contra hfar
    exact hi ((weight_rat h H y i).trans (kernel_of_two_le (not_lt.mp hfar)))
  obtain ⟨hlow, hhigh⟩ := abs_lt.mp hnear
  have hfirst : ⌊middle Rat h H y - 2⌋ ≤ (i.val : Int) := by
    rw [← Int.lt_add_one_iff, Int.floor_lt, middle_rat]
    push_cast
    linarith
  have hlast : (i.val : Int) < (middle Rat h H y + 2).ceil := by
    rw [← Int.cast_lt (R := Rat)]
    refine lt_of_lt_of_le ?_ Rat.le_ceil
    rw [middle_rat, Int.cast_natCast]
    linarith
  have hstart : windowStart Rat h H y ≤ ⌊middle Rat h H y - 2⌋.toNat := min_le_left _ _
  have hend : min (middle Rat h H y + 2).ceil.toNat h ≤ windowEnd Rat h H y := le_max_right _ _
  rw [mem_window]
  have hh := i.isLt
  omega

/-- Sums over the window, of terms that vanish with the weight, are sums over all rows. -/
theorem total_window {h H y : Nat} {g : Fin h → Rat}
    (hg : ∀ i : Fin h, weight Rat h H y i = 0 → g i = 0) :
    Scalar.total ((window Rat h H y).map g) = ∑ i, g i := by
  rw [Scalar.total_rat, ← List.sum_toFinset _ (nodup_window Rat h H y)]
  refine Finset.sum_subset (Finset.subset_univ _) fun i _ hi => hg i ?_
  by_contra hweight
  exact hi (List.mem_toFinset.mpr (mem_window_of_weight_ne_zero hweight))

/-- The weights have a positive sum in every row of the stretched grid. -/
theorem sum_weight_pos {h H y : Nat} (hh : 0 < h) (hy : y < H) :
    0 < ∑ i : Fin h, weight Rat h H y i := by
  have hh' : (0 : Rat) < h := Nat.cast_pos.mpr hh
  have hH : (0 : Rat) < H := Nat.cast_pos.mpr (by omega)
  have hy' : (y : Rat) + 1 ≤ H := by exact_mod_cast hy
  have hy₀ : (0 : Rat) ≤ y := Nat.cast_nonneg y
  have hratio : (0 : Rat) < h / H := div_pos hh' hH
  have hlow : -(1 / 2) < center h H y := by
    rw [center]
    nlinarith
  have hhigh : center h H y < h - 1 / 2 := by
    have hlast : ((y : Rat) + 1 / 2) * (h / H) < H * (h / H) :=
      mul_lt_mul_of_pos_right (by linarith) hratio
    rw [mul_div_cancel₀ _ hH.ne'] at hlast
    rw [center]
    linarith
  simp only [weight_rat]
  rw [Fin.sum_univ_eq_sum_range fun i => kernel (i - center h H y)]
  exact sum_kernel_sub_pos hlow hhigh

/-- **One sample of the stretched grid,** without the window. -/
theorem blend_shares (f : PixelFormat) {h H y : Nat} (value : Fin h → Nat) :
    blend f (shares Rat h H y) value = .clamp f (Scalar.clamped (f.depth.levels - 1)
      (∑ i : Fin h, (value i : Rat) * (weight Rat h H y i / ∑ j : Fin h, weight Rat h H y j))) := by
  have htotal : Scalar.total ((window Rat h H y).map fun i => weight Rat h H y i.val) =
      ∑ j : Fin h, weight Rat h H y j := total_window fun i hi => hi
  rw [blend, shares, htotal, List.map_map]
  congr 2
  refine total_window fun i hi => ?_
  show (value i : Rat) * (weight Rat h H y i / _) = 0
  rw [hi, zero_div, mul_zero]

end Stretch

/-- A sample of a grid that has been stretched. -/
theorem Grid.get_stretch (K : Type) [Scalar K] {f : PixelFormat} {w h H : Nat} (g : Grid f w h)
    (hH : h ≠ H) (y : Fin H) (x : Fin w) (k : Fin f.channels.count) :
    (((g.stretch K H).get y).get x).get k = Stretch.blend f (Stretch.shares K h H y)
      fun i => (((g.get i).get x).get k).val := by
  show (g.stretch K H)[y.val][x.val][k.val] = _
  rw [stretch, dif_neg hH, Vector.getElem_ofFn, Vector.getElem_ofFn, Vector.getElem_ofFn]

end AstCompare
