import AstCompare.Proofs.Rose
import Mathlib.Algebra.GroupWithZero.Nat
import Mathlib.Data.PFun

/-!
# The walk over a tree, call by call

The walk gives one node at a call. Between the calls it keeps a single stack of trees that are still
to come, siblings from all levels one behind the other, each with the parent that it was found
under. The listing that is meant is recursive and has no stack: a node, and then the listings of its
children in their order.

## Loops that end

A loop is given by what one turn does: it goes on with another state, or it ends with a result. Such
a loop need not end, so its outcome is a partial function, `PFun.fix`. `Loop.outcome_eq_some` is the
rule by which a loop is shown to end: a number falls with every turn, and what is to come out is the
same before and after the turn.

## Main definitions

* `Loop.outcome`: what a loop ends with, if it ends.
* `Loop.drain`: the loop that asks for items until there are no more.
* `Tree.visits`: the nodes depth first, each with the number of its parent.

## Main results

* `Rose.outcome_drain_next`: the walk ends from every stack.
* `Tree.walk_visits_depth_first`: it gives the nodes depth first, and as many as the children's
  walks and one.
-/

namespace AstCompare

/-! ## Loops -/

namespace Loop

variable {σ ρ ι : Type}

/-- What a loop ends with, if it ends. A turn goes on with another state or ends with a result. -/
def outcome (turn : σ → ρ ⊕ σ) : σ →. ρ :=
  PFun.fix (PFun.lift turn)

theorem outcome_of_inl {turn : σ → ρ ⊕ σ} {s : σ} {r : ρ} (h : turn s = .inl r) :
    outcome turn s = Part.some r := by
  refine Part.eq_some_iff.mpr (PFun.fix_stop ?_)
  rw [PFun.coe_val, h]
  exact Part.mem_some _

theorem outcome_of_inr {turn : σ → ρ ⊕ σ} {s s' : σ} (h : turn s = .inr s') :
    outcome turn s = outcome turn s' := by
  refine PFun.fix_fwd_eq ?_
  rw [PFun.coe_val, h]
  exact Part.mem_some _

/-- **A loop ends** if a number falls with every turn that goes on. It ends with a given value of
the state if going on keeps that value and ending returns it. -/
theorem outcome_eq_some {turn : σ → ρ ⊕ σ} (value : σ → ρ) (work : σ → Nat)
    (stop : ∀ s r, turn s = .inl r → value s = r)
    (goOn : ∀ s s', turn s = .inr s' → work s' < work s ∧ value s = value s') (s : σ) :
    outcome turn s = Part.some (value s) := by
  induction hwork : work s using Nat.strong_induction_on generalizing s with
  | h n ih =>
    cases hturn : turn s with
    | inl r => rw [outcome_of_inl hturn, stop s r hturn]
    | inr s' =>
      obtain ⟨hless, hvalue⟩ := goOn s s' hturn
      rw [outcome_of_inr hturn, hvalue]
      exact ih (work s') (hwork ▸ hless) s' rfl

/-- A turn of the loop that asks for the next item until there is none. The items that were given
stand latest first. -/
def drain (next : σ → Option (ι × σ)) (s : σ × List ι) : List ι ⊕ σ × List ι :=
  match next s.1 with
  | none => .inl s.2.reverse
  | some (item, rest) => .inr (rest, item :: s.2)

theorem drain_of_none {next : σ → Option (ι × σ)} {s : σ × List ι} (h : next s.1 = none) :
    drain next s = .inl s.2.reverse := by
  rw [drain, h]

theorem drain_of_some {next : σ → Option (ι × σ)} {s : σ × List ι} {item : ι} {rest : σ}
    (h : next s.1 = some (item, rest)) : drain next s = .inr (rest, item :: s.2) := by
  rw [drain, h]

end Loop

/-! ## The walk -/

namespace Rose

variable {α : Type}

theorem walkFrom_of_next_none {stack done : List (Option α × Rose α)} (h : next stack = none) :
    walkFrom stack done = done.reverse := by
  rw [walkFrom_eq, eq_nil_of_next h, List.flatMap_nil, List.append_nil]

theorem walkFrom_of_next_some {stack rest done : List (Option α × Rose α)} {e : Option α × Rose α}
    (h : next stack = some (e, rest)) : walkFrom stack done = walkFrom rest (e :: done) := by
  rw [walkFrom_eq, walkFrom_eq, flatMap_preorder_of_next h, List.reverse_cons, List.append_assoc,
    List.singleton_append]

/-- **The walk ends,** whatever is pending: every call takes one node off the pending trees. -/
theorem outcome_drain_next (stack done : List (Option α × Rose α)) :
    Loop.outcome (Loop.drain next) (stack, done) = Part.some (walkFrom stack done) := by
  refine Loop.outcome_eq_some (fun s => walkFrom s.1 s.2) (fun s => pendingSize s.1) ?_ ?_
    (stack, done)
  · rintro ⟨stack, done⟩ r hturn
    rcases hnext : next stack with _ | ⟨e, rest⟩
    · rw [Loop.drain_of_none hnext] at hturn
      rw [walkFrom_of_next_none hnext]
      exact Sum.inl.inj hturn
    · rw [Loop.drain_of_some hnext] at hturn
      cases hturn
  · rintro ⟨stack, done⟩ s' hturn
    rcases hnext : next stack with _ | ⟨e, rest⟩
    · rw [Loop.drain_of_none hnext] at hturn
      cases hturn
    · rw [Loop.drain_of_some hnext] at hturn
      cases hturn
      exact ⟨pendingSize_lt_of_next hnext, walkFrom_of_next_some hnext⟩

theorem forestSize_eq_sum (ts : List (Rose α)) : forestSize ts = (ts.map size).sum := by
  induction ts with
  | nil => rfl
  | cons t ts ih => rw [forestSize, ih, List.map_cons, List.sum_cons]

/-- The number of nodes, by the children. -/
theorem count_eq_one_add_sum (t : Rose α) : t.count = 1 + (t.children.map count).sum := by
  rw [count_eq_size, size_eq, forestSize_eq_sum]
  congr 2
  exact List.map_congr_left fun c _ => (count_eq_size c).symm

end Rose

/-! ## Numbered nodes -/

namespace Tree

mutual

/-- The nodes of a tree depth first, each with the number of its parent: the root, and then the
children in order, every one with all that is below it. -/
def visits (parent : Option Nat) : Tree → List (Option Nat × Tree)
  | .node n ts => (parent, .node n ts) :: forestVisits (some n.id) ts

/-- The nodes of the trees under one parent, tree after tree. -/
def forestVisits (parent : Option Nat) : List Tree → List (Option Nat × Tree)
  | [] => []
  | t :: ts => visits parent t ++ forestVisits parent ts

end

/-- Numbers may be repeated: the parent of a node is carried along, and not looked up. -/
theorem map_forestPreorder (parent : Option Node) (ts : List Tree) :
    (Rose.forestPreorder parent ts).map (fun e => (e.1.map Node.id, e.2)) =
      forestVisits (parent.map Node.id) ts := by
  induction ts using Rose.forest_induction generalizing parent with
  | nil => simp [forestVisits]
  | cons n cs ts ihc iht => simp [forestVisits, visits, ihc, iht]

/-- **The walk goes depth first.** Asking for the next node until there is none ends for every tree,
whatever its numbers are, with the list of its walk. It gives the root without a parent and then for
each child in order all that is below it, every node with the number of its own parent. The number
of nodes is one more than those of the children together. -/
theorem walk_visits_depth_first (t : Tree) :
    Loop.outcome (Loop.drain Rose.next) ([(none, t)], []) = Part.some t.walk ∧
      t.walk.map (fun e => (e.1.map Node.id, e.2)) = t.visits none ∧
      t.count = 1 + (t.children.map Rose.count).sum := by
  refine ⟨Rose.outcome_drain_next _ _, ?_, t.count_eq_one_add_sum⟩
  rw [Rose.walk_eq_preorder]
  cases t with
  | node n ts =>
    rw [Rose.preorder_node, List.map_cons, map_forestPreorder, visits]
    rfl

end Tree

end AstCompare
