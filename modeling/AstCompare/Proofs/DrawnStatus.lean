import AstCompare.CommandLine.Commands
import AstCompare.Proofs.Arborescence
import AstCompare.Proofs.DrawnTrees
import AstCompare.Proofs.Provenance

/-!
# What the drawn tree and the graph say of a node

A section is shown in two ways. The tree command words the labels in a loop that closes a node after
its children and prints them afterwards; the graph is listed by the walk, which meets a node before
its children. Both take the status of a label from the coloring of the section, once for every node.
The file puts the labels with their statuses into one tree, `Analysis.shown`, and finds it in both.

## Main definitions

* `Analysis.shown`: the tree of a section with the status of every label.

## Main results

* `Drawing.forestRows_eq_zipWith`: the rows of a drawing are the values in pre-order, each behind
  some cells.
* `CommandLine.withAnalysis_of_read`: what a command prints about a dump that can be read.
* `CommandLine.drawn_statuses_eq_graph`: the drawn tree and the graph agree on what has changed.
-/

namespace AstCompare

/-- The tree of a section, every label with its status. -/
def Analysis.shown (a : Analysis) (s : Section) : Rose (String × Status) :=
  (a.tree s).map fun n => (n.label, (a.coloring s).status n.label)

namespace Rose

variable {α β γ : Type}

theorem forestMap_forestMap (f : α → β) (g : β → γ) (ts : List (Rose α)) :
    forestMap g (forestMap f ts) = forestMap (g ∘ f) ts := by
  induction ts using forest_induction with
  | nil => simp
  | cons a cs ts ihc iht => simp [ihc, iht]

theorem map_map (f : α → β) (g : β → γ) (t : Rose α) : (t.map f).map g = t.map (g ∘ f) := by
  obtain ⟨a, ts⟩ := t
  simp [forestMap_forestMap]

end Rose

namespace Drawing

/-- What is drawn is the tree of labels with statuses, each pair worded by the format. -/
theorem ofTree_eq_map_shown (a : Analysis) (s : Section) (format : String → Status → String) :
    ofTree (a.tree s) (a.coloring s) format = (a.shown s).map fun x => format x.1 x.2 := by
  rw [ofTree_eq_map, Analysis.shown, Rose.map_map]
  rfl

/-- Each row is the next value in pre-order behind some cells. -/
theorem forestRows_eq_zipWith (lead : String) (ds : List Drawing) :
    ∃ cells : List String, cells.length = (Rose.forestValues ds).length ∧
      forestRows lead ds = List.zipWith (· ++ ·) cells (Rose.forestValues ds) := by
  induction ds using Rose.forest_induction generalizing lead with
  | nil => exact ⟨[], by simp⟩
  | cons a cs ds ihc ihd =>
    obtain ⟨below, hbelow, hcs⟩ := ihc (lead ++ continuation ds.isEmpty)
    obtain ⟨beside, hbeside, hds⟩ := ihd lead
    refine ⟨(lead ++ branch ds.isEmpty) :: (below ++ beside), by simp [hbelow, hbeside], ?_⟩
    rw [forestRows_cons, hcs, hds, Rose.forestValues_cons, Rose.values_node, List.cons_append,
      List.zipWith_cons_cons, List.zipWith_append hbelow]

/-- Each line of a drawing is the next value in pre-order behind some cells, of which the root has
none. -/
theorem text_eq_zipWith (d : Drawing) :
    ∃ cells : List String, cells.length = d.values.length ∧
      d.text = Text.unlines (List.zipWith (· ++ ·) cells d.values) := by
  obtain ⟨a, ds⟩ := d
  obtain ⟨cells, hlength, hrows⟩ := forestRows_eq_zipWith "" ds
  refine ⟨"" :: cells, by simp [hlength], ?_⟩
  rw [text_eq_unlines, Rose.value_node, Rose.children_node, hrows, Rose.values_node,
    List.zipWith_cons_cons, String.empty_append]

end Drawing

/-- The graph lists the labels with their statuses in the order of the tree. -/
theorem Analysis.values_shown (a : Analysis) (s : Section) (palette : Palette) :
    (a.shown s).values = (a.graph palette s).nodes.map fun n => (n.label, n.status) := by
  rw [shown, Rose.values_map, graph_eq_ofTree, Graph.nodes_ofTree, List.map_map]
  rfl

namespace CommandLine

/-- What a command prints about a dump that can be read. -/
theorem withAnalysis_of_read {w : World} {input text : String} {a : Analysis}
    (hread : w.disk.readText input = .ok text) (ha : Analysis.ofText text = .ok a)
    (b : Layout.Backend) (print : Analysis → Output) :
    withAnalysis w b input print = .printed w.disk (print a) := by
  have hperform : (Host.perform { backend := b } [] (.readText input) w.disk).1 = .ok text := hread
  rw [withAnalysis, Comparison.run_analysisPlan, hperform]
  simp only [Comparison.analyse, ha]

/-- **The drawn tree and the graph agree on what has changed.** The loop that words the labels ends
for every tree, with the tree of the same nesting and order; so for every analysis the drawing is a
tree of labels with statuses, worded by the format, and these are the labels and statuses of the
graph's nodes in their order. What the tree command prints has, line by line, the nodes of the graph
that the other command prints. -/
theorem drawn_statuses_eq_graph :
    (∀ (t : Tree) (coloring : Coloring) (format : String → Status → String),
      Rose.transformFrom (fun n => format n.label (coloring.status n.label))
          [⟨t, #[]⟩] none =
        some (t.map fun n => format n.label (coloring.status n.label)) ∧
      Drawing.ofTree t coloring format =
        t.map fun n => format n.label (coloring.status n.label)) ∧
    (∀ (a : Analysis) (s : Section),
      (∀ format, Drawing.ofTree (a.tree s) (a.coloring s) format =
        (a.shown s).map fun x => format x.1 x.2) ∧
      ∀ palette, (a.shown s).values =
        (a.graph palette s).nodes.map fun n => (n.label, n.status)) ∧
    ∀ (w : World) (b : Layout.Backend) (st : Settings) (localDir input text : String) (a : Analysis)
      (s : Section), w.disk.readText input = .ok text → Analysis.ofText text = .ok a →
      ∃ cells : List String, cells.length = (a.graph st.colors s).nodes.length ∧
        execute w b st localDir (.tree input s false) = .printed w.disk (.line (Text.unlines
          (List.zipWith (fun c n => c ++ drawnLabel w.colors n.label n.status) cells
            (a.graph st.colors s).nodes))) ∧
        execute w b st localDir (.dot input s) =
          .printed w.disk (.text (a.graph st.colors s).text) := by
  refine ⟨fun t coloring format =>
      ⟨Rose.transformFrom_root _ t none, Drawing.ofTree_eq_map t coloring format⟩,
    fun a s => ⟨Drawing.ofTree_eq_map_shown a s, Analysis.values_shown a s⟩, ?_⟩
  intro w b st localDir input text a s hread ha
  obtain ⟨cells, hlength, htext⟩ := Drawing.text_eq_zipWith
    (Drawing.ofTree (a.tree s) (a.coloring s) (drawnLabel w.colors))
  have hvalues : (Drawing.ofTree (a.tree s) (a.coloring s) (drawnLabel w.colors)).values =
      (a.graph st.colors s).nodes.map fun n => drawnLabel w.colors n.label n.status := by
    rw [Drawing.ofTree_eq_map_shown, Rose.values_map, Analysis.values_shown a s st.colors,
      List.map_map]
    rfl
  rw [hvalues, List.length_map] at hlength
  rw [hvalues, List.zipWith_map_right] at htext
  refine ⟨cells, hlength, ?_, withAnalysis_of_read hread ha b _⟩
  rw [← htext]
  exact withAnalysis_of_read hread ha b _

open Session.Example in
/-- The only label of the second tree is new, so the command shows it as changed, on a line of its
own. -/
theorem drawn_statuses_dump :
    (analysis.shown .after).values = [("B", .changed)] ∧
      ∃ cell, execute ⟨{}, disk start, false, "1"⟩ drawing.backend {} ""
          (.tree "dump" .after false) =
        .printed (disk start) (.line (cell ++ "B +\n")) := by
  have hnodes : (analysis.graph {} .after).nodes = [⟨1, "B", .changed, "lightgreen"⟩] := by
    have hnew : (analysis.coloring .after).status "B" = .changed := by
      simp [Analysis.coloring, Coloring.status, Analysis.reference, Tree.labels, Tree.labelList_eq,
        analysis]
    have hvalues : (analysis.tree .after).values = [⟨1, "B"⟩] := by
      simp [Analysis.tree, analysis]
    rw [Analysis.graph_eq_ofTree, Graph.nodes_ofTree, hvalues, List.map_singleton,
      Graph.nodeOf, hnew]
    rfl
  obtain ⟨-, hshown, hcommand⟩ := drawn_statuses_eq_graph
  obtain ⟨cells, hlength, htree, -⟩ := hcommand ⟨{}, disk start, false, "1"⟩ drawing.backend {} ""
    "dump" dump analysis .after (Disk.readText_of_read rfl) ofText_dump
  refine ⟨by rw [(hshown analysis .after).2 {}, hnodes]; rfl, ?_⟩
  rw [hnodes, List.length_singleton, List.length_eq_one_iff] at hlength
  obtain ⟨cell, rfl⟩ := hlength
  refine ⟨cell, htree.trans ?_⟩
  rw [hnodes]
  simp [Text.unlines, drawnLabel, Ink.paint, String.append_assoc]

end CommandLine

end AstCompare
