import AstCompare.Dump
import AstCompare.Failure
import AstCompare.Graph.Basic
import AstCompare.Tree.Indented

/-!
# Analysis of a dump

Both trees of a dump are read in one pass, so that no number occurs twice, and compared by the
labels that occur in them. Everything that the program shows about a dump is a function of the two
trees: the reference set, the added and the removed labels, and a graph for each section.

## Main definitions

* `Analysis.ofDump`, `Analysis.ofText`: both trees, or the first failure.
* `Analysis.reference`, `Analysis.added`, `Analysis.removed`: the label sets.
* `Analysis.coloring`: how the tree of a section is colored.
* `Analysis.graph`: the graph of a section.

## Main results

* `Analysis.graph_eq_ofTree`: the coloring of a graph is that of its section.
-/

namespace AstCompare

/-- The two trees of a dump. -/
structure Analysis where
  before : Tree
  after : Tree

namespace Analysis

/-- Reads the tree of one section. -/
def readSection (d : Dump) (s : Section) (r : Reader) : Except Failure (Tree × Reader) :=
  match r.read (d.lines s) with
  | (.ok t, r) => .ok (t, r)
  | (.error e, _) => .error (.malformedTree s.name e.reason)

/-- Reads both trees of a dump, the first section first. -/
def ofDump (d : Dump) : Except Failure Analysis := do
  let (before, r) ← readSection d .before {}
  let (after, _) ← readSection d .after r
  return ⟨before, after⟩

/-- Splits a text into its sections and reads both trees. -/
def ofText (s : String) : Except Failure Analysis :=
  match Dump.ofText s with
  | .error missing => .error (.missingMarker missing.marker)
  | .ok d => ofDump d

/-- The tree of a section. -/
def tree (a : Analysis) : Section → Tree
  | .before => a.before
  | .after => a.after

/-- The labels that count as known. -/
def reference (a : Analysis) : LabelSet :=
  a.before.labels

/-- The labels of the second tree that the first has not. -/
def added (a : Analysis) : LabelSet :=
  a.after.labels.difference a.reference

/-- The labels of the first tree that the second has not. -/
def removed (a : Analysis) : LabelSet :=
  a.reference.difference a.after.labels

/-- The first tree is colored alike throughout, the second against the first. -/
def coloring (a : Analysis) : Section → Coloring
  | .before => .uniform
  | .after => .against a.reference

/-- The graph of a section. -/
def graph (a : Analysis) (palette : Palette) : Section → Graph
  | .before => .ofTree a.before "OriginalAST" .uniform palette
  | .after => .ofTree a.after "OptimizedAST" (.against a.reference) palette

/-- The name of a section's graph. -/
def graphName : Section → String
  | .before => "OriginalAST"
  | .after => "OptimizedAST"

/-- **Graphs and drawn trees are colored alike.** The graph of a section is that of its tree under
the coloring of the section, though it is not made from it. -/
theorem graph_eq_ofTree (a : Analysis) (palette : Palette) (s : Section) :
    a.graph palette s = .ofTree (a.tree s) (graphName s) (a.coloring s) palette := by
  cases s <;> rfl

end Analysis

end AstCompare
