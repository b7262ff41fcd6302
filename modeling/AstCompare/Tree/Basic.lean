import AstCompare.Tree.Rose

/-!
# Labelled trees

A node carries a label and a number that identifies it within one pass over a dump. Two trees have
the same shape when they are equal once the numbers are forgotten.

## Main definitions

* `Node`, `Tree`: labelled, numbered nodes, and trees of them.
* `Tree.sameShape`: equality up to the numbers, as a loop.
* `Tree.labelList`: the labels in pre-order.
-/

namespace AstCompare

/-- A node of a tree: its number within the pass and the text of its line. -/
structure Node where
  id : Nat
  label : String
  deriving DecidableEq, Repr

namespace Node

/-- The name by which a graph refers to the node. -/
def name (id : Nat) : String :=
  "n" ++ toString id

end Node

/-- Ordered trees of numbered, labelled nodes. -/
abbrev Tree := Rose Node

namespace Tree

/-- The number of the root. -/
def id (t : Tree) : Nat := t.value.id

/-- The label of the root. -/
def label (t : Tree) : String := t.value.label

/-- A tree of one node. -/
def leaf (id : Nat) (label : String) : Tree :=
  .node ⟨id, label⟩ []

/-- The tree with one more subtree under its root, after the others. -/
def attach (t child : Tree) : Tree :=
  .node t.value (t.children ++ [child])

/-- The nodes in pre-order. -/
def nodeList (t : Tree) : List Node :=
  t.walk.map fun e => e.2.value

/-- The labels in pre-order. -/
def labelList (t : Tree) : List String :=
  t.nodeList.map Node.label

/-- The trees nest alike and carry the same labels; numbers do not matter. -/
def sameShape (a b : Tree) : Bool :=
  a.agree (fun x y => x.label == y.label) b

/-- The trees are equal, numbers included. -/
def same (a b : Tree) : Bool :=
  a.agree (fun x y => x == y) b

end Tree

end AstCompare
