import AstCompare.Proofs.LineDifference
import AstCompare.Proofs.Numbering
import Mathlib.Data.List.Forall2

/-!
# What the second tree takes from the first

Both trees of a dump are read by one reader, so the second one starts to count where the first one
has ended. That is one way in which the first section reaches the second graph; the other is the set
of its labels, against which the second tree is colored. There is no third way.

The counter does no more than it seems to do. Reading with a counter that is further on gives the
same outcome with all numbers moved by the same amount (`Reader.read_add`), and the graph of a tree
whose numbers have moved is the graph of the tree with its numbers moved (`Graph.ofTree_shift`). So
the second tree of every analysis is the tree that a fresh reader makes of the second section, moved
by the size of the first tree.

## Main definitions

* `Tree.shift`, `Graph.shift`: all numbers moved by some amount.
* `Graph.ShiftedBy`: two graphs that are the same node by node and edge by edge but for a constant
  difference of their numbers.

## Main results

* `Reader.read_add`: reading from a later count.
* `Analysis.exists_after_eq_shift`: the second tree of an analysis, told without the first one.
* `Analysis.after_depends_on_labels`: what two analyses with the same second section have in common.
-/

namespace AstCompare

/-! ## Trees with other numbers -/

/-- The node with its number moved by `k`. -/
def Node.shift (k : Nat) (n : Node) : Node :=
  { n with id := n.id + k }

namespace Tree

/-- The tree with all numbers moved by `k`. -/
def shift (k : Nat) (t : Tree) : Tree :=
  t.map (Node.shift k)

theorem values_shift (k : Nat) (t : Tree) : (t.shift k).values = t.values.map (Node.shift k) :=
  Rose.values_map _ t

theorem labels_shift (k : Nat) (t : Tree) : (t.shift k).labels = t.labels := by
  rw [labels, labels, labelList_eq, labelList_eq, values_shift, List.map_map]
  rfl

/-- The links between nodes whose numbers have moved. -/
theorem forestLinks_shift (k : Nat) (p : Node) (ts : List Tree) :
    forestLinks (p.shift k) (Rose.forestMap (Node.shift k) ts) =
      (forestLinks p ts).map fun e => (e.1 + k, e.2.shift k) := by
  induction ts using Rose.forest_induction generalizing p with
  | nil => simp
  | cons a cs ts ihc iht =>
    rw [Rose.forestMap_cons, Rose.map_node, forestLinks_cons, ihc, iht, forestLinks_cons,
      List.map_cons, List.map_append]
    rfl

end Tree

/-! ## Reading from a later count -/

namespace Reading

/-- Entries that are numbered from a later number on. -/
theorem number_add (id k : Nat) (es : List (Nat × String)) :
    number (id + k) es = (number id es).map fun e => (e.1, e.2.shift k) := by
  induction es generalizing id with
  | nil => rfl
  | cons e es ih =>
    rw [number, number, List.map_cons, ← ih, Nat.add_right_comm]
    rfl

end Reading

namespace Reader

/-- **The counter matters for the numbers only.** Reading from a later count gives the same tree
with all numbers moved, or the same complaint, and the counter ends as much later. -/
theorem read_add (r : Reader) (k : Nat) (ls : List String) :
    (⟨r.nextId + k⟩ : Reader).read ls =
      ((r.read ls).1.map (Tree.shift k), ⟨(r.read ls).2.nextId + k⟩) := by
  have hcounter : ∀ n, r.nextId + k + 1 + n = r.nextId + 1 + n + k := by omega
  obtain hls | ⟨d, label, es, hls, hes⟩ |
      ⟨front, s, rest, d, label, es, rfl, hfront, hes, hs, hd⟩ := cases_outline ls
  · rw [read_of_blank _ hls, read_of_blank _ hls]
    rfl
  · have hforest : Rose.ofDepths (Reading.number (r.nextId + k + 1) es) =
        Rose.forestMap (Node.shift k) (Rose.ofDepths (Reading.number (r.nextId + 1) es)) := by
      rw [Rose.forestMap_ofDepths, ← Reading.number_add, Nat.add_right_comm]
    rw [read_of_deeper _ hls hes, read_of_deeper _ hls hes, hforest, hcounter]
    simp [Except.map, Tree.shift, Node.shift]
  · rw [read_of_shallow _ hfront hes hs hd, read_of_shallow _ hfront hes hs hd, hcounter]
    rfl

/-- After a tree has been read the counter has moved by its size. -/
theorem nextId_of_read {r r' : Reader} {ls : List String} {t : Tree} (h : r.read ls = (.ok t, r')) :
    r'.nextId = r.nextId + t.count := by
  have houtcome : (Attempt.make r ls).outcome = .ok t := congrArg Prod.fst h
  have hafter : (Attempt.make r ls).after = r' := congrArg Prod.snd h
  rw [← hafter, Attempt.nextId_after, (Attempt.ids_of_ok houtcome).2]

end Reader

/-! ## Graphs with other numbers -/

namespace Graph

/-- The graph with all numbers moved by `k`. -/
def shift (k : Nat) (g : Graph) : Graph where
  name := g.name
  nodes := g.nodes.map fun n => { n with id := n.id + k }
  edges := g.edges.map fun e => (e.1 + k, e.2 + k)

/-- Moving the numbers of a tree moves those of its graph. -/
theorem ofTree_shift (k : Nat) (t : Tree) (name : String) (coloring : Coloring)
    (palette : Palette) :
    ofTree (t.shift k) name coloring palette = (ofTree t name coloring palette).shift k := by
  obtain ⟨a, ts⟩ := t
  have hnodes : (ofTree (Tree.shift k (.node a ts)) name coloring palette).nodes =
      ((ofTree (.node a ts) name coloring palette).shift k).nodes := by
    rw [shift, nodes_ofTree, nodes_ofTree, Tree.values_shift, List.map_map, List.map_map]
    rfl
  have hedges : (ofTree (Tree.shift k (.node a ts)) name coloring palette).edges =
      ((ofTree (.node a ts) name coloring palette).shift k).edges := by
    rw [shift, Tree.shift, Rose.map_node, edges_ofTree, edges_ofTree, Tree.forestLinks_shift,
      List.map_map, List.map_map]
    rfl
  exact congrArg₂ (Graph.mk (legalName name)) hnodes hedges

/-- The second graph is the first one node by node and edge by edge, in the same order, with the
same labels, statuses and fills, and every number in it is by `k` larger. -/
structure ShiftedBy (k : Int) (g g' : Graph) : Prop where
  name : g'.name = g.name
  nodes : List.Forall₂ (fun n n' : GraphNode => (n'.id : Int) = n.id + k ∧ n'.label = n.label ∧
    n'.status = n.status ∧ n'.fill = n.fill) g.nodes g'.nodes
  edges : List.Forall₂ (fun e e' : Nat × Nat => (e'.1 : Int) = e.1 + k ∧ (e'.2 : Int) = e.2 + k)
    g.edges g'.edges

/-- A graph that has been moved by two amounts. -/
theorem shiftedBy_shift (g : Graph) (k m : Nat) :
    (g.shift k).ShiftedBy ((m : Int) - k) (g.shift m) where
  name := rfl
  nodes := by
    rw [shift, shift, List.forall₂_map_left_iff, List.forall₂_map_right_iff, List.forall₂_same]
    intro n _
    exact ⟨by push_cast; omega, rfl, rfl, rfl⟩
  edges := by
    rw [shift, shift, List.forall₂_map_left_iff, List.forall₂_map_right_iff, List.forall₂_same]
    intro e _
    exact ⟨by push_cast; omega, by push_cast; omega⟩

/-- Graphs whose numbers do not differ are equal. -/
theorem ShiftedBy.eq_of_zero {g g' : Graph} (h : g.ShiftedBy 0 g') : g' = g := by
  have hnodes : g.nodes = g'.nodes := by
    rw [← List.forall₂_eq_eq_eq]
    refine h.nodes.imp fun n n' hn => ?_
    obtain ⟨hid, hlabel, hstatus, hfill⟩ := hn
    have hsame : n'.id = n.id := by omega
    calc n = ⟨n.id, n.label, n.status, n.fill⟩ := rfl
      _ = n' := by rw [← hsame, ← hlabel, ← hstatus, ← hfill]
  have hedges : g.edges = g'.edges := by
    rw [← List.forall₂_eq_eq_eq]
    refine h.edges.imp fun e e' he => Prod.ext ?_ ?_
    · have := he.1
      omega
    · have := he.2
      omega
  calc g' = ⟨g'.name, g'.nodes, g'.edges⟩ := rfl
    _ = g := by rw [h.name, ← hnodes, ← hedges]

end Graph

/-! ## Analyses with the same second section -/

namespace Analysis

/-- **The second tree without the first.** It is what a fresh reader makes of the second section,
moved by the size of the first tree. -/
theorem exists_after_eq_shift {d : Dump} {a : Analysis} (h : ofDump d = .ok a) :
    ∃ t, (({} : Reader).read d.after).1 = .ok t ∧ a.after = t.shift a.before.count := by
  obtain ⟨r, hbefore, hafter⟩ := read_of_ofDump h
  have hcount : r = ⟨({} : Reader).nextId + a.before.count⟩ := by
    rw [← Reader.nextId_of_read hbefore]
  rw [hcount, Reader.read_add] at hafter
  cases hfresh : (({} : Reader).read d.after).1 with
  | error e =>
    rw [hfresh] at hafter
    cases hafter
  | ok t =>
    rw [hfresh] at hafter
    exact ⟨t, rfl, (Except.ok.inj hafter).symm⟩

/-- **Of the first tree only the labels and the size matter.** Take two dumps with the same second
section whose first trees have the same labels, in whatever nesting, order, number and repetition.
Then the same labels are added and removed, and the second graphs are the same node by node and edge
by edge once the numbers of one have been moved by the difference of the sizes of the first trees.
If the sizes are equal too, the texts of these graphs are equal. -/
theorem after_depends_on_labels (d d' : Dump) (a a' : Analysis) (palette : Palette)
    (h : ofDump d = .ok a) (h' : ofDump d' = .ok a') (hsection : d'.after = d.after)
    (hlabels : a'.before.labels = a.before.labels) :
    a'.added = a.added ∧ a'.removed = a.removed ∧
      (a.graph palette .after).ShiftedBy ((a'.before.count : Int) - a.before.count)
        (a'.graph palette .after) ∧
      (a'.before.count = a.before.count →
        (a'.graph palette .after).text = (a.graph palette .after).text) := by
  obtain ⟨t, hread, hafter⟩ := exists_after_eq_shift h
  obtain ⟨t', hread', hafter'⟩ := exists_after_eq_shift h'
  rw [hsection, hread] at hread'
  obtain rfl : t = t' := Except.ok.inj hread'
  have hcurrent : a'.after.labels = a.after.labels := by
    rw [hafter, hafter', Tree.labels_shift, Tree.labels_shift]
  have hshifted : (a.graph palette .after).ShiftedBy ((a'.before.count : Int) - a.before.count)
      (a'.graph palette .after) := by
    rw [graph, graph, reference, reference, hlabels, hafter, hafter',
      Graph.ofTree_shift, Graph.ofTree_shift]
    exact Graph.shiftedBy_shift _ _ _
  refine ⟨?_, ?_, hshifted, fun hcount => ?_⟩
  · rw [added, added, reference, reference, hcurrent, hlabels]
  · rw [removed, removed, reference, reference, hcurrent, hlabels]
  · rw [hcount, Int.sub_self] at hshifted
    rw [hshifted.eq_of_zero]

/-- First trees with the same texts have the same labels. -/
theorem labels_before_congr {d d' : Dump} {a a' : Analysis} (h : ofDump d = .ok a)
    (h' : ofDump d' = .ok a') (htexts : ∀ x, x ∈ d'.texts .before ↔ x ∈ d.texts .before) :
    a'.before.labels = a.before.labels := by
  refine LabelSet.ext fun x => ?_
  rw [show a'.before = a'.tree .before from rfl, show a.before = a.tree .before from rfl,
    labels_tree h, labels_tree h', LabelSet.mem_ofList, LabelSet.mem_ofList, htexts]

namespace Example

/-- Dumps with one and the same second section. -/
def dumpOf (before : List String) : Dump :=
  ⟨before, ["Y", "  N", "  X"]⟩

theorem exists_ofDump_dumpOf {before : List String} {e : Nat × String} {es : List (Nat × String)}
    (h : Text.outline before = e :: es) (hes : ∀ x ∈ es, e.1 < x.1) :
    ∃ a, ofDump (dumpOf before) = .ok a :=
  have hafter : Text.outline ["Y", "  N", "  X"] = (0, "Y") :: [(2, "N"), (2, "X")] := by decide
  exists_ofDump_of_outline h hes hafter (by decide)

/-- A chain in which one label occurs twice. -/
def chain : List String :=
  ["R", " X", "  Y", "   X"]

/-- The same labels once each, under another root. -/
def flat : List String :=
  ["", "\tY", "\t X ", "\t R"]

/-- The same labels, with another one twice, under a third root. -/
def bushy : List String :=
  ["X", "    Y", "  R", " ", "     Y"]

end Example

open Example in
/-- A chain of four nodes, a flat tree of three and another tree of four, all with the same labels:
in the graph behind the flat tree all numbers are smaller by one, and the other two texts are the
same. -/
theorem after_depends_on_labels_chain :
    ∃ a a' a'', ofDump (dumpOf chain) = .ok a ∧ ofDump (dumpOf flat) = .ok a' ∧
      ofDump (dumpOf bushy) = .ok a'' ∧ a'.before.labels = a.before.labels ∧ a'.added = a.added ∧
      (a.graph ⟨"gray", "red"⟩ .after).ShiftedBy (-1) (a'.graph ⟨"gray", "red"⟩ .after) ∧
      (a''.graph ⟨"gray", "red"⟩ .after).text = (a.graph ⟨"gray", "red"⟩ .after).text := by
  have houtline : Text.outline chain = (0, "R") :: [(1, "X"), (2, "Y"), (3, "X")] := by decide
  have houtline' : Text.outline flat = (1, "Y") :: [(2, "X"), (2, "R")] := by decide
  have houtline'' : Text.outline bushy = (0, "X") :: [(4, "Y"), (2, "R"), (5, "Y")] := by decide
  obtain ⟨a, h⟩ := exists_ofDump_dumpOf houtline (by decide)
  obtain ⟨a', h'⟩ := exists_ofDump_dumpOf houtline' (by decide)
  obtain ⟨a'', h''⟩ := exists_ofDump_dumpOf houtline'' (by decide)
  have htexts : (dumpOf chain).texts .before = ["R", "X", "Y", "X"] := by decide
  have htexts' : (dumpOf flat).texts .before = ["Y", "X", "R"] := by decide
  have htexts'' : (dumpOf bushy).texts .before = ["X", "Y", "R", "Y"] := by decide
  have hlabels' : a'.before.labels = a.before.labels :=
    labels_before_congr h h' fun x => by rw [htexts, htexts']; grind
  have hlabels'' : a''.before.labels = a.before.labels :=
    labels_before_congr h h'' fun x => by rw [htexts, htexts'']; grind
  have hcount : a.before.count = 4 := (count_tree h .before).trans (by rw [htexts]; rfl)
  have hcount' : a'.before.count = 3 := (count_tree h' .before).trans (by rw [htexts']; rfl)
  have hcount'' : a''.before.count = 4 := (count_tree h'' .before).trans (by rw [htexts'']; rfl)
  obtain ⟨hadded, -, hshifted, -⟩ :=
    after_depends_on_labels _ _ a a' ⟨"gray", "red"⟩ h h' rfl hlabels'
  obtain ⟨-, -, -, htext⟩ := after_depends_on_labels _ _ a a'' ⟨"gray", "red"⟩ h h'' rfl hlabels''
  rw [hcount, hcount'] at hshifted
  exact ⟨a, a', a'', h, h', h'', hlabels', hadded, hshifted, htext (hcount''.trans hcount.symm)⟩

end Analysis

end AstCompare
