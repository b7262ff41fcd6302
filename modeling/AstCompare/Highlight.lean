import AstCompare.LabelSet

/-!
# Highlighting

A node is highlighted by its label alone: against a reference set it counts as changed when the set
does not hold its label. Without a reference nothing is changed.

## Main definitions

* `Status`: changed or unchanged.
* `Coloring`: no reference, or a reference set.
* `Palette`: the fill color of each status.
-/

namespace AstCompare

/-- Whether a node's label is new. -/
inductive Status where
  | unchanged
  | changed
  deriving DecidableEq, Repr

/-- How the nodes of a tree are colored: all alike, or against the labels of another tree. -/
inductive Coloring where
  | uniform
  | against (reference : LabelSet)

/-- The status of a label. -/
def Coloring.status : Coloring → String → Status
  | uniform, _ => .unchanged
  | against reference, label => if reference.contains label then .unchanged else .changed

/-- The fill colors. -/
structure Palette where
  unchanged : String := "lightgray"
  changed : String := "lightgreen"
  deriving DecidableEq, Repr

/-- The fill color of a status. -/
def Palette.fill (p : Palette) : Status → String
  | .unchanged => p.unchanged
  | .changed => p.changed

end AstCompare
