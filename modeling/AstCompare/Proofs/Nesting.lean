import AstCompare.Proofs.Rose
import Mathlib.Data.List.TakeWhile

/-!
# Nesting by depth

A list of values with depths is a forest: a value stands under the nearest earlier value that is
less deep. `Rose.ofDepths` says so by recursion. The first value takes everything deeper that
follows it directly, and the rest of the list starts the next tree beside it. There is no stack in
this definition, and nothing is assumed of the depths: they may rise by any amount and fall back to
a depth that never occurred before.

The other direction is `Rose.levels`, the pre-order listing in which every value carries its level.

## Main results

* `Rose.forestValues_ofDepths`: nothing is lost, repeated or moved.
* `Rose.map_fst_forestPreorder_ofDepths`: the parent of a value is the nearest earlier value that is
  less deep.
* `Rose.ofDepths_forestLevels`: levels, widened by any positive factor, nest to the forest they
  come from.
-/

namespace AstCompare

namespace Rose

variable {α β : Type}

/-! ## Forests from depths -/

/-- The forest of values with depths: a value takes the deeper ones that follow it directly. -/
def ofDepths : List (Nat × α) → List (Rose α)
  | [] => []
  | (d, a) :: rest =>
    node a (ofDepths (rest.takeWhile (d < ·.1))) :: ofDepths (rest.dropWhile (d < ·.1))
termination_by es => es.length
decreasing_by
  · exact Nat.lt_succ_of_le (List.takeWhile_sublist _).length_le
  · exact Nat.lt_succ_of_le (List.dropWhile_sublist _).length_le

@[simp] theorem ofDepths_nil : ofDepths ([] : List (Nat × α)) = [] := by
  rw [ofDepths]

theorem ofDepths_cons (d : Nat) (a : α) (rest : List (Nat × α)) :
    ofDepths ((d, a) :: rest) =
      node a (ofDepths (rest.takeWhile (d < ·.1))) :: ofDepths (rest.dropWhile (d < ·.1)) := by
  rw [ofDepths]

/-- Every value of the list is one node, in the order of the list. -/
theorem forestValues_ofDepths (es : List (Nat × α)) :
    forestValues (ofDepths es) = es.map Prod.snd := by
  fun_induction ofDepths es with
  | case1 => simp
  | case2 d a rest ihin ihout =>
    rw [forestValues_cons, values_node, ihin, ihout, List.cons_append, ← List.map_append,
      List.takeWhile_append_dropWhile, List.map_cons]

/-- Nesting looks at the depths only, so it commutes with any change of the values. -/
theorem forestMap_ofDepths (f : α → β) (es : List (Nat × α)) :
    forestMap f (ofDepths es) = ofDepths (es.map fun e => (e.1, f e.2)) := by
  fun_induction ofDepths es with
  | case1 => simp
  | case2 d a rest ihin ihout =>
    rw [forestMap_cons, map_node, ihin, ihout, List.map_cons, ofDepths_cons, List.takeWhile_map,
      List.dropWhile_map]
    rfl

/-! ## Parents -/

/-- The nearest of the earlier values that is less deep. The earlier values stand latest first. -/
def nearestShallower (earlier : List (Nat × α)) (d : Nat) : Option α :=
  (earlier.find? (·.1 < d)).map Prod.snd

/-- For each value the nearest earlier one that is less deep. -/
def parents (earlier : List (Nat × α)) : List (Nat × α) → List (Option α)
  | [] => []
  | e :: es => nearestShallower earlier e.1 :: parents (e :: earlier) es

theorem parents_append (earlier xs ys : List (Nat × α)) :
    parents earlier (xs ++ ys) = parents earlier xs ++ parents (xs.reverse ++ earlier) ys := by
  induction xs generalizing earlier with
  | nil => rfl
  | cons x xs ih => simp [parents, ih]

theorem getElem?_parents (earlier es : List (Nat × α)) (i : Nat) :
    (parents earlier es)[i]? =
      es[i]?.map fun e => nearestShallower ((es.take i).reverse ++ earlier) e.1 := by
  induction es generalizing earlier i with
  | nil => simp [parents]
  | cons x xs ih =>
    cases i with
    | zero => simp [parents]
    | succ i => simp [parents, ih]

theorem nearestShallower_cons_of_lt {earlier : List (Nat × α)} {e : Nat × α} {d : Nat}
    (h : e.1 < d) : nearestShallower (e :: earlier) d = some e.2 := by
  simp [nearestShallower, h]

/-- Earlier values that are at least as deep do not matter. -/
theorem nearestShallower_append_of_le {xs earlier : List (Nat × α)} {d : Nat}
    (h : ∀ x ∈ xs, d ≤ x.1) :
    nearestShallower (xs ++ earlier) d = nearestShallower earlier d := by
  have hnone : xs.find? (·.1 < d) = none := by
    rw [List.find?_eq_none]
    intro x hx
    simpa using h x hx
  rw [nearestShallower, List.find?_append, hnone, Option.none_or, nearestShallower]

/-- The nearest earlier value by its place in the list: no place between it and the present one is
less deep. -/
theorem exists_nearestShallower {es : List (Nat × α)} {i d : Nat}
    (h : ∃ e ∈ es.take i, e.1 < d) :
    ∃ j e, j < i ∧ es[j]? = some e ∧ e.1 < d ∧
      (∀ k e', j < k → k < i → es[k]? = some e' → d ≤ e'.1) ∧
      nearestShallower (es.take i).reverse d = some e.2 := by
  induction i with
  | zero => simp at h
  | succ i ih =>
    rw [List.take_add_one] at h ⊢
    cases hx : es[i]? with
    | none =>
      rw [hx, Option.toList_none, List.append_nil] at h
      obtain ⟨j, e, hj, he, hed, hbetween, hnear⟩ := ih h
      refine ⟨j, e, Nat.lt_succ_of_lt hj, he, hed, fun k e' hjk hki hk => ?_, by simpa using hnear⟩
      rcases Nat.lt_succ_iff_lt_or_eq.mp hki with hki | rfl
      · exact hbetween k e' hjk hki hk
      · exact absurd (hx.symm.trans hk) (by simp)
    | some x =>
      rw [hx, Option.toList_some] at h
      rw [Option.toList_some, List.reverse_append, List.reverse_singleton]
      by_cases hxd : x.1 < d
      · refine ⟨i, x, Nat.lt_succ_self i, hx, hxd, fun k e' hik hki _ => ?_,
          nearestShallower_cons_of_lt hxd⟩
        omega
      · have h' : ∃ e ∈ es.take i, e.1 < d := by
          obtain ⟨e, he, hed⟩ := h
          rcases List.mem_append.mp he with he | he
          · exact ⟨e, he, hed⟩
          · rw [List.mem_singleton.mp he] at hed
            exact absurd hed hxd
        obtain ⟨j, e, hj, he, hed, hbetween, hnear⟩ := ih h'
        refine ⟨j, e, Nat.lt_succ_of_lt hj, he, hed, fun k e' hjk hki hk => ?_, ?_⟩
        · rcases Nat.lt_succ_iff_lt_or_eq.mp hki with hki | rfl
          · exact hbetween k e' hjk hki hk
          · obtain rfl : x = e' := Option.some.inj (hx.symm.trans hk)
            exact Nat.not_lt.mp hxd
        · rw [nearestShallower_append_of_le (by simpa using hxd), hnear]

/-- **Parents.** In the forest of a list, the parent of a value is the nearest earlier value that is
less deep.

The trees of the forest itself all stand under `p`. Their roots are the values that are no deeper
than the first one, which is why the hypothesis asks about those only. -/
theorem map_fst_forestPreorder_ofDepths (es earlier : List (Nat × α)) (p : Option α)
    (h : ∀ e ∈ es, (∀ x ∈ es.head?, e.1 ≤ x.1) → nearestShallower earlier e.1 = p) :
    (forestPreorder p (ofDepths es)).map Prod.fst = parents earlier es := by
  fun_induction ofDepths es generalizing earlier p with
  | case1 => simp [parents]
  | case2 d a rest ihin ihout =>
    have hhead : nearestShallower earlier d = p := h (d, a) List.mem_cons_self (by simp)
    have hin := ihin ((d, a) :: earlier) (some a) fun e he _ =>
      nearestShallower_cons_of_lt (by simpa using List.mem_takeWhile_imp he)
    have hout := ihout ((rest.takeWhile (d < ·.1)).reverse ++ (d, a) :: earlier) p ?_
    · rw [forestPreorder_cons, preorder_node, List.map_append, List.map_cons, hin, hout, parents,
        hhead, List.cons_append, ← parents_append, List.takeWhile_append_dropWhile]
    · intro e he hle
      -- the first value that is not deeper than `d` bounds the roots that follow
      have hd : e.1 ≤ d := by
        cases hx : (rest.dropWhile (d < ·.1)).head? with
        | none =>
          rw [List.head?_eq_none_iff.mp hx] at he
          exact absurd he List.not_mem_nil
        | some x =>
          have hxd := List.head?_dropWhile_not (d < ·.1) rest
          rw [hx] at hxd
          have hxd : x.1 ≤ d := by simpa using hxd
          exact Nat.le_trans (hle x hx) hxd
      rw [nearestShallower_append_of_le, ← List.singleton_append, nearestShallower_append_of_le]
      · exact h e (List.mem_cons_of_mem _ (List.dropWhile_subset _ he)) (by simpa using hd)
      · simpa using hd
      · intro x hx
        have hdx : d < x.1 := by simpa using List.mem_takeWhile_imp (List.mem_reverse.mp hx)
        omega

/-! ## Levels -/

mutual

/-- The values in pre-order, each with its level; the root has level `l`. -/
def levels (l : Nat) : Rose α → List (Nat × α)
  | node a ts => (l, a) :: forestLevels (l + 1) ts

/-- The values of a list of trees whose roots have level `l`. -/
def forestLevels (l : Nat) : List (Rose α) → List (Nat × α)
  | [] => []
  | t :: ts => levels l t ++ forestLevels l ts

end

@[simp] theorem levels_node (l : Nat) (a : α) (ts : List (Rose α)) :
    levels l (node a ts) = (l, a) :: forestLevels (l + 1) ts := by
  rw [levels]

@[simp] theorem forestLevels_nil (l : Nat) : forestLevels l ([] : List (Rose α)) = [] := by
  rw [forestLevels]

@[simp] theorem forestLevels_cons (l : Nat) (t : Rose α) (ts : List (Rose α)) :
    forestLevels l (t :: ts) = levels l t ++ forestLevels l ts := by
  rw [forestLevels]

theorem forestLevels_eq_flatMap (l : Nat) (ts : List (Rose α)) :
    forestLevels l ts = ts.flatMap (levels l) := by
  induction ts with
  | nil => simp
  | cons t ts ih => simp [ih]

theorem map_snd_forestLevels (l : Nat) (ts : List (Rose α)) :
    (forestLevels l ts).map Prod.snd = forestValues ts := by
  induction ts using forest_induction generalizing l with
  | nil => simp
  | cons a cs ts ihc iht => simp [ihc, iht]

theorem le_of_mem_forestLevels {l : Nat} {ts : List (Rose α)} {e : Nat × α}
    (h : e ∈ forestLevels l ts) : l ≤ e.1 := by
  induction ts using forest_induction generalizing l with
  | nil => simp at h
  | cons a cs ts ihc iht =>
    simp only [forestLevels_cons, levels_node, List.cons_append, List.mem_cons,
      List.mem_append] at h
    rcases h with rfl | h | h
    · exact Nat.le_refl _
    · exact Nat.le_of_succ_le (ihc h)
    · exact iht h

/-- **Levels nest back.** Widening every level by the same factor does not matter as long as the
factor is positive. -/
theorem ofDepths_forestLevels {w : Nat} (hw : 0 < w) (l : Nat) (ts : List (Rose α)) :
    ofDepths ((forestLevels l ts).map fun e => (e.1 * w, e.2)) = ts := by
  induction ts using forest_induction generalizing l with
  | nil => simp
  | cons a cs ts ihc iht =>
    have hin : ∀ e ∈ (forestLevels (l + 1) cs).map (fun e => (e.1 * w, e.2)),
        decide (l * w < e.1) = true := by
      simp only [List.mem_map, decide_eq_true_eq]
      rintro _ ⟨e, he, rfl⟩
      have hle : (l + 1) * w ≤ e.1 * w := Nat.mul_le_mul_right w (le_of_mem_forestLevels he)
      rw [Nat.succ_mul] at hle
      exact Nat.lt_of_lt_of_le (Nat.lt_add_of_pos_right hw) hle
    -- what follows starts at level `l` again, so it is not taken
    have hout : ((forestLevels l ts).map fun e => (e.1 * w, e.2)).takeWhile (l * w < ·.1) = [] ∧
        ((forestLevels l ts).map fun e => (e.1 * w, e.2)).dropWhile (l * w < ·.1) =
          (forestLevels l ts).map fun e => (e.1 * w, e.2) := by
      cases ts with
      | nil => simp
      | cons t ts =>
        obtain ⟨b, us⟩ := t
        simp
    rw [forestLevels_cons, levels_node, List.cons_append, List.map_cons, List.map_append,
      ofDepths_cons, List.takeWhile_append_of_pos hin, List.dropWhile_append_of_pos hin, hout.1,
      hout.2, List.append_nil, ihc, iht]

end Rose

end AstCompare
