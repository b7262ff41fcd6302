import AstCompare.Proofs.RoundTrip
import AstCompare.Proofs.Traversal

/-!
# Trees of one shape

Two trees are compared by a loop over pairs of subtrees. The pairs of the children of two nodes are
made by laying the one list beside the other, which would silently drop the rest of the longer one;
the loop compares the lengths before. It takes the last pair first, so the nodes are compared in an
order that is neither pre-order nor post-order. All that matters of this is said by one invariant,
that a turn does not change whether the pending pairs are equal once the numbers are forgotten
(`Rose.forall_iff_of_agreeTurn`).

Writing by indentation forgets the numbers too, and nothing else: a tree can be read back up to
them. So the texts of two trees can be compared in place of the trees.

## Main results

* `Rose.outcome_agreeTurn`: the comparison ends from every list of pairs.
* `Tree.equivalence_sameShape`: having the same shape is an equivalence relation.
* `Tree.toIndented_eq_of_sameShape`, `Tree.sameShape_of_toIndented_eq`: trees of one shape and no
  others are written alike.
* `Tree.sameShape_decides_shape`: all of it together.
-/

namespace AstCompare

namespace Rose

variable {α β : Type}

theorem agreeFrom_of_inl {eq : α → β → Bool} {stack : List (Rose α × Rose β)} {result : Bool}
    (h : agreeTurn eq stack = .inl result) : agreeFrom eq stack = result := by
  rw [agreeFrom]
  split
  · rename_i result' h'
    exact Sum.inl.inj (h'.symm.trans h)
  · rename_i rest h'
    cases h.symm.trans h'

theorem agreeFrom_of_inr {eq : α → β → Bool} {stack rest : List (Rose α × Rose β)}
    (h : agreeTurn eq stack = .inr rest) : agreeFrom eq stack = agreeFrom eq rest := by
  rw [agreeFrom]
  split
  · rename_i result h'
    cases h.symm.trans h'
  · rename_i rest' h'
    rw [Sum.inr.inj (h.symm.trans h')]

/-- **The comparison ends,** whatever is pending: every turn that goes on takes a node off the
pending trees. -/
theorem outcome_agreeTurn (eq : α → β → Bool) (stack : List (Rose α × Rose β)) :
    Loop.outcome (agreeTurn eq) stack = Part.some (agreeFrom eq stack) := by
  refine Loop.outcome_eq_some (agreeFrom eq) (fun s => forestSize (s.map Prod.fst)) ?_ ?_ stack
  · intro s result hturn
    exact agreeFrom_of_inl hturn
  · intro s rest hturn
    exact ⟨forestSize_lt_of_agreeTurn hturn, agreeFrom_of_inr hturn⟩

/-- A change of the values leaves the levels as they are. -/
theorem forestLevels_forestMap (f : α → β) (l : Nat) (ts : List (Rose α)) :
    forestLevels l (forestMap f ts) = (forestLevels l ts).map fun e => (e.1, f e.2) := by
  induction ts using forest_induction generalizing l with
  | nil => simp
  | cons a cs ts ihc iht => simp [ihc, iht]

theorem levels_map (f : α → β) (l : Nat) (t : Rose α) :
    levels l (t.map f) = (levels l t).map fun e => (e.1, f e.2) := by
  cases t with
  | node a ts => simp [forestLevels_forestMap]

end Rose

namespace Tree

theorem equivalence_sameShape : Equivalence fun a b : Tree => a.sameShape b = true where
  refl a := (sameShape_iff a a).mpr rfl
  symm h := (sameShape_iff _ _).mpr ((sameShape_iff _ _).mp h).symm
  trans hab hbc :=
    (sameShape_iff _ _).mpr (((sameShape_iff _ _).mp hab).trans ((sameShape_iff _ _).mp hbc))

/-- The lines of a tree are made of levels and labels alone. -/
theorem indentedLines_eq_levels_map (unit : String) (t : Tree) :
    t.indentedLines unit =
      ((t.map Node.label).levels 0).map fun e => String.join (List.replicate e.1 unit) ++ e.2 := by
  rw [Rose.levels_map, List.map_map]
  rfl

/-- Trees of one shape are written alike, with any unit and any labels. -/
theorem toIndented_eq_of_sameShape {a b : Tree} (h : a.sameShape b = true) (unit : String) :
    a.toIndented unit = b.toIndented unit := by
  rw [toIndented_eq_unlines, toIndented_eq_unlines, indentedLines_eq_levels_map,
    indentedLines_eq_levels_map, (sameShape_iff a b).mp h]

/-- **Writing can be undone,** so trees that are written alike have the same shape. -/
theorem sameShape_of_toIndented_eq {a b : Tree} (ha : a.WellLabelled) (hb : b.WellLabelled)
    {unit : String} (hne : unit ≠ "") (hblank : ∀ c ∈ unit.toList, Text.isBlank c = true)
    (hunit : '\n' ∉ unit.toList) (h : a.toIndented unit = b.toIndented unit) :
    a.sameShape b = true := by
  obtain ⟨t, hread, hat⟩ := read_toIndented_of_blank ha hunit hne hblank {}
  obtain ⟨u, hread', hbu⟩ := read_toIndented_of_blank hb hunit hne hblank {}
  -- the same text is read twice
  obtain rfl : t = u := by
    rw [h, hread'] at hread
    exact (Except.ok.inj hread).symm
  exact equivalence_sameShape.trans hat (equivalence_sameShape.symm hbu)

/-- **The loop decides the shape.** For any two trees, whatever their labels and numbers, the loop
over pairs ends with the answer whether they are equal once the numbers are forgotten; so having the
same shape is an equivalence relation. For well labelled trees and a unit of one or more blanks it
is the answer whether they are written alike. -/
theorem sameShape_decides_shape :
    (∀ a b : Tree,
      Loop.outcome (Rose.agreeTurn fun x y : Node => x.label == y.label) [(a, b)] =
        Part.some (a.sameShape b) ∧
      (a.sameShape b = true ↔ a.map Node.label = b.map Node.label)) ∧
    (Equivalence fun a b : Tree => a.sameShape b = true) ∧
    ∀ (a b : Tree) (unit : String), a.WellLabelled → b.WellLabelled → unit ≠ "" →
      (∀ c ∈ unit.toList, Text.isBlank c = true) → '\n' ∉ unit.toList →
      (a.sameShape b = true ↔ a.toIndented unit = b.toIndented unit) := by
  refine ⟨fun a b => ⟨Rose.outcome_agreeTurn _ _, sameShape_iff a b⟩, equivalence_sameShape, ?_⟩
  intro a b unit ha hb hne hblank hunit
  exact ⟨fun h => toIndented_eq_of_sameShape h unit,
    sameShape_of_toIndented_eq ha hb hne hblank hunit⟩

namespace Example

/-- A node with a child and a grandchild. -/
def chain : Tree :=
  .node ⟨0, "a b"⟩ [.node ⟨1, "c"⟩ [.node ⟨2, "c"⟩ []]]

/-- The same labels in the same order, side by side. -/
def fork : Tree :=
  .node ⟨0, "a b"⟩ [.node ⟨1, "c"⟩ [], .node ⟨2, "c"⟩ []]

theorem wellLabelled_of_labelList {t : Tree} (h : t.labelList = ["a b", "c", "c"]) :
    t.WellLabelled := by
  rw [wellLabelled_iff, h]
  decide

end Example

open Example in
/-- Equal labels in equal order do not make equal texts if they nest differently. -/
theorem toIndented_chain_ne_fork :
    chain.WellLabelled ∧ fork.WellLabelled ∧ chain.toIndented "\t\r" ≠ fork.toIndented "\t\r" := by
  have hchain : chain.WellLabelled := wellLabelled_of_labelList (by simp [labelList_eq, chain])
  have hfork : fork.WellLabelled := wellLabelled_of_labelList (by simp [labelList_eq, fork])
  have hiff := sameShape_decides_shape.2.2 chain fork "\t\r" hchain hfork (by decide)
    (List.all_eq_true.mp (by decide)) (by decide)
  refine ⟨hchain, hfork, fun htext => ?_⟩
  have hmap := (sameShape_decides_shape.1 chain fork).2.mp (hiff.mpr htext)
  simp [chain, fork] at hmap

end Tree

end AstCompare
