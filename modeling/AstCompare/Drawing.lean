import AstCompare.Highlight

/-!
# Drawn trees

A tree is drawn with one line per node in pre-order. The root stands alone on the first line. Below
it a line starts with one cell of four characters for each ancestor other than the root, a rule if
that ancestor has a later sibling and blanks if not; then comes the branch cell, which differs for a
last child; then the label as it is.

## Main definitions

* `Drawing`: trees of finished labels.
* `Drawing.ofTree`: the labels of a tree, each worded by its status.
* `Drawing.text`: the drawn text.
-/

namespace AstCompare

/-- Trees whose labels are ready to be printed. -/
abbrev Drawing := Rose String

namespace Drawing

/-- The tree with every label worded according to its status. -/
def ofTree (t : Tree) (coloring : Coloring) (format : String → Status → String) : Drawing :=
  t.transform fun n => format n.label (coloring.status n.label)

/-- The cell under an ancestor. -/
def continuation (last : Bool) : String :=
  if last then "    " else "│   "

/-- The cell in front of a label. -/
def branch (last : Bool) : String :=
  if last then "└── " else "├── "

/-- The children of a node with the cells that stand before their branch cell, the last one
marked. -/
def marked (lead : String) : List Drawing → List (String × Bool × Drawing)
  | [] => []
  | [d] => [(lead, true, d)]
  | d :: ds => (lead, false, d) :: marked lead ds

theorem map_marked (lead : String) (ds : List Drawing) :
    (marked lead ds).map (fun e => e.2.2) = ds := by
  fun_induction marked lead ds with
  | case1 => rfl
  | case2 => rfl
  | case3 d ds h ih => simp [ih]

/-- The number of nodes below the pending ones, themselves included. -/
def pendingSize (stack : List (String × Bool × Drawing)) : Nat :=
  Rose.forestSize (stack.map fun e => e.2.2)

/-- The loop of `text`: pending nodes with their leading cells, and the text so far. -/
def textFrom (stack : List (String × Bool × Drawing)) (out : String) : String :=
  match stack with
  | [] => out
  | (lead, last, d) :: rest =>
    textFrom (marked (lead ++ continuation last) d.children ++ rest)
      (out ++ lead ++ branch last ++ d.value ++ "\n")
termination_by pendingSize stack
decreasing_by
  simp [pendingSize, Rose.forestSize_append, Rose.forestSize, Rose.size_eq d, map_marked]

/-- The drawn text. -/
def text (d : Drawing) : String :=
  textFrom (marked "" d.children) (d.value ++ "\n")

end Drawing

end AstCompare
