import AstCompare.Tree.Basic

/-!
# The loops over ordered trees, and the recursive definitions

`Rose.walk` and `Rose.agree` run over a list of pending trees. What they compute is said by the
recursive definitions `Rose.preorder` and `Rose.map`, and this file proves that they do.

## Induction over forests

Every recursive definition on `Rose` comes as a pair, one half for trees and one for lists of trees.
A list of trees is either empty or a root, the trees below it and the trees beside it, so one
induction over lists with two hypotheses serves both halves at once; `forest_induction` is that
principle, and statements about a tree are read off at the list that holds it alone.

## Main results

* `Rose.walk_eq_preorder`: the walk lists the nodes as the recursion does.
* `Rose.agree_iff`: two trees agree exactly when they become equal once their values are compared
  through the same view.
* `Tree.sameShape_iff`: having the same shape is equality after forgetting the numbers.
-/

namespace AstCompare

namespace Rose

variable {α β γ : Type}

/-- Induction over lists of trees: a root comes with the trees below it and those beside it. -/
@[elab_as_elim]
theorem forest_induction {P : List (Rose α) → Prop} (nil : P [])
    (cons : ∀ a cs ts, P cs → P ts → P (node a cs :: ts)) : ∀ ts, P ts
  | [] => nil
  | node a cs :: ts =>
    cons a cs ts (forest_induction nil cons cs) (forest_induction nil cons ts)

/-! ## Lists of trees as lists -/

@[simp] theorem values_node (a : α) (ts : List (Rose α)) :
    (node a ts).values = a :: forestValues ts := by
  rw [values]

@[simp] theorem forestValues_nil : forestValues ([] : List (Rose α)) = [] := by
  rw [forestValues]

@[simp] theorem forestValues_cons (t : Rose α) (ts : List (Rose α)) :
    forestValues (t :: ts) = t.values ++ forestValues ts := by
  rw [forestValues]

@[simp] theorem map_node (f : α → β) (a : α) (ts : List (Rose α)) :
    (node a ts).map f = node (f a) (forestMap f ts) := by
  rw [map]

@[simp] theorem forestMap_nil (f : α → β) : forestMap f [] = [] := by
  rw [forestMap]

@[simp] theorem forestMap_cons (f : α → β) (t : Rose α) (ts : List (Rose α)) :
    forestMap f (t :: ts) = t.map f :: forestMap f ts := by
  rw [forestMap]

theorem forestMap_append (f : α → β) (ts us : List (Rose α)) :
    forestMap f (ts ++ us) = forestMap f ts ++ forestMap f us := by
  induction ts with
  | nil => simp
  | cons t ts ih => simp [ih]

@[simp] theorem preorder_node (p : Option α) (a : α) (ts : List (Rose α)) :
    (node a ts).preorder p = (p, node a ts) :: forestPreorder (some a) ts := by
  rw [preorder]

@[simp] theorem forestPreorder_nil (p : Option α) : forestPreorder p [] = [] := by
  rw [forestPreorder]

@[simp] theorem forestPreorder_cons (p : Option α) (t : Rose α) (ts : List (Rose α)) :
    forestPreorder p (t :: ts) = t.preorder p ++ forestPreorder p ts := by
  rw [forestPreorder]

theorem forestPreorder_eq_flatMap (p : Option α) (ts : List (Rose α)) :
    forestPreorder p ts = ts.flatMap (preorder p) := by
  induction ts with
  | nil => simp
  | cons t ts ih => simp [ih]

/-! ## Values, sizes and views -/

theorem length_forestValues (ts : List (Rose α)) : (forestValues ts).length = forestSize ts := by
  induction ts using forest_induction with
  | nil => simp [forestSize]
  | cons a cs ts ihc iht =>
    simp [forestSize, size, ihc, iht]
    omega

theorem length_values (t : Rose α) : t.values.length = t.size := by
  cases t with
  | node a ts => simp [size, length_forestValues, Nat.add_comm]

theorem forestValues_forestMap (f : α → β) (ts : List (Rose α)) :
    forestValues (forestMap f ts) = (forestValues ts).map f := by
  induction ts using forest_induction with
  | nil => simp
  | cons a cs ts ihc iht => simp [ihc, iht]

theorem values_map (f : α → β) (t : Rose α) : (t.map f).values = t.values.map f := by
  cases t with
  | node a ts => simp [forestValues_forestMap]

/-- The nodes that the listing names are those of the tree, in the same order. -/
theorem map_value_forestPreorder (p : Option α) (ts : List (Rose α)) :
    (forestPreorder p ts).map (fun e => e.2.value) = forestValues ts := by
  induction ts using forest_induction generalizing p with
  | nil => simp
  | cons a cs ts ihc iht => simp [ihc, iht]

theorem map_value_preorder (p : Option α) (t : Rose α) :
    (t.preorder p).map (fun e => e.2.value) = t.values := by
  cases t with
  | node a ts => simp [map_value_forestPreorder]

/-! ## The walk -/

theorem eq_nil_of_next {stack : List (Option α × Rose α)} (h : next stack = none) : stack = [] := by
  cases stack with
  | nil => rfl
  | cons e rest => cases h

/-- **One call** takes the first node off the listing of what is pending. -/
theorem flatMap_preorder_of_next {stack rest : List (Option α × Rose α)} {e : Option α × Rose α}
    (h : next stack = some (e, rest)) :
    stack.flatMap (fun e => e.2.preorder e.1) = e :: rest.flatMap fun e => e.2.preorder e.1 := by
  cases stack with
  | nil => cases h
  | cons e' rest' =>
    obtain ⟨p, a, ts⟩ := e'
    cases h
    rw [List.flatMap_append, List.flatMap_map]
    simp [forestPreorder_eq_flatMap]

/-- The loop lists what is done and then every pending tree with the parent that is kept for it. -/
theorem walkFrom_eq (stack done : List (Option α × Rose α)) :
    walkFrom stack done = done.reverse ++ stack.flatMap fun e => e.2.preorder e.1 := by
  fun_induction walkFrom stack done with
  | case1 stack done h => simp [eq_nil_of_next h]
  | case2 stack done e rest h _ ih =>
    rw [ih, flatMap_preorder_of_next h]
    simp

/-- **The walk is the pre-order listing.** -/
theorem walk_eq_preorder (t : Rose α) : t.walk = t.preorder none := by
  simp [walk, walkFrom_eq]

/-- The walk counts every node once. -/
theorem count_eq_size (t : Rose α) : t.count = t.size := by
  rw [count, walk_eq_preorder, ← length_values, ← map_value_preorder none, List.length_map]

/-! ## Agreement -/

/-- Pairing the children of two nodes loses nothing when there are equally many. -/
theorem forestMap_eq_iff_zip (f : α → γ) (g : β → γ) :
    ∀ (ts : List (Rose α)) (us : List (Rose β)),
      forestMap f ts = forestMap g us ↔
        ts.length = us.length ∧ ∀ p ∈ ts.zip us, p.1.map f = p.2.map g
  | [], [] => by simp
  | [], _ :: _ => by simp
  | _ :: _, [] => by simp
  | t :: ts, u :: us => by
    have ih := forestMap_eq_iff_zip f g ts us
    simp only [forestMap_cons, List.cons.injEq, ih, List.length_cons, Nat.add_right_cancel_iff,
      List.zip_cons_cons, List.forall_mem_cons]
    exact and_left_comm

variable [DecidableEq γ]

/-- **One turn** does not change whether the pairs of trees are equal through their views. The
children are paired one by one, so nothing is left out as long as there are equally many. -/
theorem forall_iff_of_agreeTurn {f : α → γ} {g : β → γ} {stack rest : List (Rose α × Rose β)}
    (h : agreeTurn (fun x y => f x == g y) stack = .inr rest) :
    (∀ p ∈ stack, p.1.map f = p.2.map g) ↔ ∀ p ∈ rest, p.1.map f = p.2.map g := by
  cases stack with
  | nil => cases h
  | cons p pairs =>
    obtain ⟨⟨x, xs⟩, ⟨y, ys⟩⟩ := p
    simp only [agreeTurn, value_node, children_node, Bool.and_eq_true, beq_iff_eq] at h
    split at h
    · rename_i halike
      cases h
      rw [List.forall_mem_append, List.forall_mem_cons, map_node, map_node, halike.1, node.injEq,
        forestMap_eq_iff_zip]
      simp [halike.2]
    · cases h

/-- The turn that decides is right about the pairs of trees. -/
theorem forall_iff_of_agreeTurn_eq_inl {f : α → γ} {g : β → γ} {stack : List (Rose α × Rose β)}
    {result : Bool} (h : agreeTurn (fun x y => f x == g y) stack = .inl result) :
    result = true ↔ ∀ p ∈ stack, p.1.map f = p.2.map g := by
  cases stack with
  | nil =>
    cases h
    simp
  | cons p pairs =>
    obtain ⟨⟨x, xs⟩, ⟨y, ys⟩⟩ := p
    simp only [agreeTurn, value_node, children_node, Bool.and_eq_true, beq_iff_eq] at h
    split at h
    · cases h
    · rename_i halike
      cases h
      rw [List.forall_mem_cons, map_node, map_node, node.injEq, forestMap_eq_iff_zip]
      constructor
      · intro hf
        exact absurd hf (by simp)
      · rintro ⟨⟨hv, hl, -⟩, -⟩
        exact absurd ⟨hv, hl⟩ halike

theorem agreeFrom_iff (f : α → γ) (g : β → γ) (stack : List (Rose α × Rose β)) :
    agreeFrom (fun x y => f x == g y) stack = true ↔ ∀ p ∈ stack, p.1.map f = p.2.map g := by
  fun_induction agreeFrom (fun x y => f x == g y) stack with
  | case1 stack result h => exact forall_iff_of_agreeTurn_eq_inl h
  | case2 stack rest h _ ih => rw [ih, forall_iff_of_agreeTurn h]

/-- **Agreement is equality of views.** The loop compares node by node, in an order that is neither
pre-order nor post-order; what it decides is one equality between trees. -/
theorem agree_iff (f : α → γ) (g : β → γ) (a : Rose α) (b : Rose β) :
    a.agree (fun x y => f x == g y) b = true ↔ a.map f = b.map g := by
  rw [agree, agreeFrom_iff]
  simp

end Rose

/-! ## Labelled trees -/

namespace Tree

theorem nodeList_eq_values (t : Tree) : t.nodeList = t.values := by
  rw [nodeList, Rose.walk_eq_preorder, Rose.map_value_preorder]

theorem labelList_eq (t : Tree) : t.labelList = t.values.map Node.label := by
  rw [labelList, nodeList_eq_values]

/-- **Same shape.** Two trees have the same shape exactly when they are equal once the numbers are
forgotten. -/
theorem sameShape_iff (a b : Tree) :
    a.sameShape b = true ↔ a.map Node.label = b.map Node.label :=
  Rose.agree_iff Node.label Node.label a b

/-- Trees of the same shape carry the same labels in the same order. -/
theorem labelList_eq_of_sameShape {a b : Tree} (h : a.sameShape b = true) :
    a.labelList = b.labelList := by
  have hmap := (sameShape_iff a b).mp h
  rw [labelList_eq, labelList_eq, ← Rose.values_map, ← Rose.values_map, hmap]

end Tree

end AstCompare
