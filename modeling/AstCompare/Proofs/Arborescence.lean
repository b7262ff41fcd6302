import AstCompare.Graph.Basic
import AstCompare.Proofs.Reading

/-!
# The graph of a tree

The edges of a graph are collected by a loop that carries the parent along with every pending tree.
What comes out is an arborescence: one edge into every node but the root, and it comes from the
parent. All this is read off one list, `Tree.links`, which gives every node below the root together
with the number of its parent.

## The tree can be had back

As long as no number occurs twice, the nodes and the edges determine the tree, order of children
included. Below a node the listing first gives the subtree of its first child, whose links never
start from the node itself, and then goes on with a link that does. So the links of the first
subtree are those up to the next link that starts from the node, and there is only one way to cut
the list.

## Main definitions

* `Rose.HasChild`: one value stands right below another one, somewhere in a tree.
* `Tree.DistinctIds`: no number occurs twice.

## Main results

* `Tree.eq_of_forestLinks_eq`: the links determine the trees.
* `Graph.ofTree_arborescence`: the graph represents the tree.
-/

namespace AstCompare

/-! ## Parents and children -/

namespace Rose

variable {α : Type}

/-- Somewhere in the tree, a node with the second value is a child of one with the first value. -/
inductive HasChild : Rose α → α → α → Prop where
  | here {t u : Rose α} (hu : u ∈ t.children) : HasChild t t.value u.value
  | deeper {t u : Rose α} {p c : α} (hu : u ∈ t.children) (h : HasChild u p c) : HasChild t p c

theorem values_sublist_of_mem {t : Rose α} {ts : List (Rose α)} (h : t ∈ ts) :
    t.values.Sublist (forestValues ts) := by
  induction ts with
  | nil => cases h
  | cons u us ih =>
    rw [forestValues_cons]
    obtain rfl | h := List.mem_cons.mp h
    · exact List.sublist_append_left _ _
    · exact (ih h).trans (List.sublist_append_right _ _)

theorem forestValues_children_sublist (t : Rose α) :
    (forestValues t.children).Sublist t.values := by
  cases t with
  | node a ts =>
    rw [values_node, children_node]
    exact List.sublist_cons_self _ _

theorem value_mem_values (t : Rose α) : t.value ∈ t.values := by
  cases t with
  | node a ts => simp

/-- A parent is listed before its children. -/
theorem HasChild.sublist {t : Rose α} {p c : α} (h : HasChild t p c) : [p, c].Sublist t.values := by
  induction h with
  | @here t u hu =>
    have hmem : u.value ∈ forestValues t.children :=
      (values_sublist_of_mem hu).subset u.value_mem_values
    cases t with
    | node a ts =>
      rw [values_node]
      exact (List.singleton_sublist.mpr hmem).cons_cons a
  | @deeper t u p c hu _ ih =>
    exact ih.trans ((values_sublist_of_mem hu).trans t.forestValues_children_sublist)

/-- What the listing of the trees under one parent names as a parent is that parent, or a parent
inside one of the trees. -/
theorem hasChild_of_mem_forestPreorder {ts : List (Rose α)} {a : α} {q : Option α} {s : Rose α}
    (h : (q, s) ∈ forestPreorder (some a) ts) :
    (q = some a ∧ s ∈ ts) ∨ ∃ u ∈ ts, ∃ p, q = some p ∧ HasChild u p s.value := by
  induction ts using forest_induction generalizing a with
  | nil => simp at h
  | cons b cs ts ihc iht =>
    rw [forestPreorder_cons, preorder_node, List.cons_append, List.mem_cons, List.mem_append] at h
    obtain h | h | h := h
    · cases h
      exact .inl ⟨rfl, List.mem_cons_self⟩
    · refine .inr ⟨node b cs, List.mem_cons_self, ?_⟩
      obtain ⟨rfl, hs⟩ | ⟨u, hu, p, rfl, hp⟩ := ihc h
      · exact ⟨b, rfl, .here (t := node b cs) hs⟩
      · exact ⟨p, rfl, .deeper (t := node b cs) hu hp⟩
    · obtain ⟨rfl, hs⟩ | ⟨u, hu, p, rfl, hp⟩ := iht h
      · exact .inl ⟨rfl, List.mem_cons_of_mem _ hs⟩
      · exact .inr ⟨u, List.mem_cons_of_mem _ hu, p, rfl, hp⟩

end Rose

/-! ## Links -/

namespace Tree

/-- No number occurs twice. -/
def DistinctIds (t : Tree) : Prop :=
  (t.values.map Node.id).Nodup

/-- The nodes of the trees under one parent in pre-order, each after the number of its own
parent. -/
def forestLinks (parent : Node) (ts : List Tree) : List (Nat × Node) :=
  (Rose.forestPreorder (some parent) ts).filterMap fun e => e.1.map fun p => (p.id, e.2.value)

@[simp] theorem forestLinks_nil (p : Node) : forestLinks p [] = [] := by
  simp [forestLinks]

@[simp] theorem forestLinks_cons (p a : Node) (cs ts : List Tree) :
    forestLinks p (.node a cs :: ts) = (p.id, a) :: (forestLinks a cs ++ forestLinks p ts) := by
  simp [forestLinks]

/-- Every node is linked once, in pre-order. -/
theorem map_snd_forestLinks (p : Node) (ts : List Tree) :
    (forestLinks p ts).map Prod.snd = Rose.forestValues ts := by
  induction ts using Rose.forest_induction generalizing p with
  | nil => simp
  | cons a cs ts ihc iht => simp [ihc, iht]

/-- Links start from the parent or from a node among the trees. -/
theorem fst_mem_of_mem_forestLinks {p : Node} {ts : List Tree} {e : Nat × Node}
    (h : e ∈ forestLinks p ts) : e.1 = p.id ∨ e.1 ∈ (Rose.forestValues ts).map Node.id := by
  induction ts using Rose.forest_induction generalizing p with
  | nil => simp at h
  | cons a cs ts ihc iht =>
    rw [forestLinks_cons, List.mem_cons, List.mem_append] at h
    obtain rfl | h | h := h
    · exact .inl rfl
    · have hin := ihc h
      simp only [Rose.forestValues_cons, Rose.values_node, List.cons_append, List.map_cons,
        List.map_append, List.mem_cons, List.mem_append]
      exact .inr (hin.imp_right .inl)
    · refine (iht h).imp_right fun hin => ?_
      simp only [Rose.forestValues_cons, List.map_append, List.mem_append]
      exact .inr hin

/-- The links of the trees begin with one that starts from their parent. -/
theorem head?_forestLinks (p : Node) (ts : List Tree) :
    ∀ e ∈ (forestLinks p ts).head?, e.1 = p.id := by
  intro e he
  cases ts with
  | nil => simp at he
  | cons t ts =>
    cases t with
    | node a cs =>
      rw [forestLinks_cons, List.head?_cons, Option.mem_some_iff] at he
      rw [← he]

/-- A list is cut where its first part ends: the condition holds throughout the first part and fails
at the beginning of the second one. -/
theorem append_inj_of_takeWhile {β : Type} {q : β → Bool} {xs ys xs' ys' : List β}
    (hx : ∀ e ∈ xs, q e = true) (hy : ∀ e ∈ ys.head?, q e = false) (hx' : ∀ e ∈ xs', q e = true)
    (hy' : ∀ e ∈ ys'.head?, q e = false) (h : xs ++ ys = xs' ++ ys') : xs = xs' ∧ ys = ys' := by
  have htake : ∀ {us vs : List β}, (∀ e ∈ us, q e = true) → (∀ e ∈ vs.head?, q e = false) →
      (us ++ vs).takeWhile q = us := by
    intro us vs hu hv
    rw [List.takeWhile_append_of_pos hu]
    cases vs with
    | nil => simp
    | cons v vs => simp [hv v rfl]
  have hxs : xs = xs' := by
    rw [← htake hx hy, h, htake hx' hy']
  subst hxs
  exact ⟨rfl, List.append_cancel_left h⟩

/-- Links among the trees below a node do not start from a node elsewhere. -/
theorem fst_ne_of_mem_forestLinks {p a : Node} {cs : List Tree} {e : Nat × Node}
    (hp : p.id ∉ a.id :: (Rose.forestValues cs).map Node.id) (h : e ∈ forestLinks a cs) :
    e.1 ≠ p.id := by
  rintro heq
  refine hp (List.mem_cons.mpr ?_)
  rw [← heq]
  exact fst_mem_of_mem_forestLinks h

/-- What distinct numbers under a parent mean for its first tree and for the others. -/
theorem nodup_forest_cons {p a : Node} {cs ts : List Tree}
    (h : (p.id :: (Rose.forestValues (.node a cs :: ts)).map Node.id).Nodup) :
    p.id ∉ a.id :: (Rose.forestValues cs).map Node.id ∧
      (a.id :: (Rose.forestValues cs).map Node.id).Nodup ∧
      (p.id :: (Rose.forestValues ts).map Node.id).Nodup := by
  rw [Rose.forestValues_cons, Rose.values_node, List.map_append, List.map_cons, List.nodup_cons,
    List.mem_append, not_or] at h
  obtain ⟨⟨hfirst, hrest⟩, hnodup⟩ := h
  obtain ⟨hcs, hts, -⟩ := List.nodup_append.mp hnodup
  exact ⟨hfirst, hcs, List.nodup_cons.mpr ⟨hrest, hts⟩⟩

/-- **The links determine the trees.** -/
theorem eq_of_forestLinks_eq {p : Node} {ts us : List Tree}
    (hts : (p.id :: (Rose.forestValues ts).map Node.id).Nodup)
    (h : forestLinks p ts = forestLinks p us) : ts = us := by
  have hus : (p.id :: (Rose.forestValues us).map Node.id).Nodup := by
    rwa [← map_snd_forestLinks p us, ← h, map_snd_forestLinks]
  induction ts using Rose.forest_induction generalizing p us with
  | nil =>
    cases us with
    | nil => rfl
    | cons u us =>
      obtain ⟨a, cs⟩ := u
      simp at h
  | cons a cs ts ihc iht =>
    cases us with
    | nil => simp at h
    | cons u us =>
      obtain ⟨a', cs'⟩ := u
      rw [forestLinks_cons, forestLinks_cons, List.cons.injEq] at h
      obtain ⟨hhead, htail⟩ := h
      obtain ⟨-, rfl⟩ := Prod.mk.inj hhead
      obtain ⟨hp, hcs, hts⟩ := nodup_forest_cons hts
      obtain ⟨hp', hcs', hus⟩ := nodup_forest_cons hus
      -- the links of the first subtree are those before the next one that starts from `p`
      obtain ⟨hfirst, hrest⟩ := append_inj_of_takeWhile (q := fun e => e.1 != p.id)
        (fun e he => bne_iff_ne.mpr (fst_ne_of_mem_forestLinks hp he))
        (fun e he => by simpa using head?_forestLinks p ts e he)
        (fun e he => bne_iff_ne.mpr (fst_ne_of_mem_forestLinks hp' he))
        (fun e he => by simpa using head?_forestLinks p us e he) htail
      rw [ihc hcs hfirst hcs', iht hts hrest hus]

theorem DistinctIds.nodup {a : Node} {ts : List Tree} (h : DistinctIds (.node a ts)) :
    (a.id :: (Rose.forestValues ts).map Node.id).Nodup := by
  rwa [DistinctIds, Rose.values_node, List.map_cons] at h

/-- The numbers that reading gives out are distinct. -/
theorem distinctIds_of_read {r : Reader} {lines : List String} {t : Tree}
    (h : (r.read lines).1 = .ok t) : t.DistinctIds := by
  rw [DistinctIds, Reader.map_id_values_of_read h]
  exact List.nodup_range'

end Tree

/-! ## Graphs -/

namespace Graph

/-- The node of a graph for a node of a tree. -/
def nodeOf (coloring : Coloring) (palette : Palette) (v : Node) : GraphNode :=
  ⟨v.id, v.label, coloring.status v.label, palette.fill (coloring.status v.label)⟩

variable (name : String) (coloring : Coloring) (palette : Palette)

/-- One node per node of the tree, in pre-order. -/
theorem nodes_ofTree (t : Tree) :
    (ofTree t name coloring palette).nodes = t.values.map (nodeOf coloring palette) := by
  rw [ofTree, Rose.walk_eq_preorder, ← Rose.map_value_preorder none, List.map_map]
  rfl

/-- One edge per link, in pre-order. -/
theorem edges_ofTree (a : Node) (ts : List Tree) :
    (ofTree (.node a ts) name coloring palette).edges =
      (Tree.forestLinks a ts).map fun e => (e.1, e.2.id) := by
  rw [ofTree, Rose.walk_eq_preorder, Tree.forestLinks, List.map_filterMap]
  simp only [Rose.preorder_node, List.filterMap_cons, Option.map_none, Option.map_map]
  rfl

theorem map_snd_edges_ofTree (a : Node) (ts : List Tree) :
    (ofTree (.node a ts) name coloring palette).edges.map Prod.snd =
      (Rose.forestValues ts).map Node.id := by
  rw [edges_ofTree, ← Tree.map_snd_forestLinks a, List.map_map, List.map_map]
  rfl

theorem length_edges_ofTree (t : Tree) :
    (ofTree t name coloring palette).edges.length = t.count - 1 := by
  obtain ⟨a, ts⟩ := t
  have hlength := congrArg List.length
    (map_snd_edges_ofTree name coloring palette a ts)
  rw [List.length_map, List.length_map, Rose.length_forestValues] at hlength
  rw [hlength, Rose.count_eq_size, Rose.size_eq, Rose.children_node, Nat.add_sub_cancel_left]

/-- Below the root, every node is linked with its parent. -/
theorem exists_hasChild {a v : Node} {ts : List Tree} (hv : v ∈ Rose.forestValues ts) :
    ∃ p, Rose.HasChild (.node a ts) p v ∧ (p.id, v) ∈ Tree.forestLinks a ts := by
  rw [← Tree.map_snd_forestLinks a, List.mem_map] at hv
  obtain ⟨e, he, rfl⟩ := hv
  obtain ⟨⟨q, s⟩, hmem, hlink⟩ := List.mem_filterMap.mp he
  obtain ⟨rfl, hs⟩ | ⟨u, hu, p, rfl, hp⟩ := Rose.hasChild_of_mem_forestPreorder hmem
  · cases hlink
    exact ⟨a, .here (t := .node a ts) hs, he⟩
  · cases hlink
    exact ⟨p, .deeper (t := .node a ts) hu hp, he⟩

/-- Where no target occurs twice, an edge is the only one with its target. -/
theorem filter_target_eq {es : List (Nat × Nat)} {e : Nat × Nat} (h : (es.map Prod.snd).Nodup)
    (he : e ∈ es) : es.filter (fun x => x.2 == e.2) = [e] := by
  induction es with
  | nil => cases he
  | cons x xs ih =>
    rw [List.map_cons, List.nodup_cons] at h
    obtain rfl | he := List.mem_cons.mp he
    · have hnone : xs.filter (fun y => y.2 == e.2) = [] := by
        rw [List.filter_eq_nil_iff]
        intro y hy heq
        exact h.1 (eq_of_beq heq ▸ List.mem_map_of_mem hy)
      rw [List.filter_cons_of_pos (by simp), hnone]
    · have hne : (x.2 == e.2) = false := by
        refine beq_eq_false_iff_ne.mpr fun heq => h.1 ?_
        rw [heq]
        exact List.mem_map_of_mem he
      rw [List.filter_cons_of_neg (by simp [hne]), ih h.2 he]

/-- The nodes and the edges of a graph determine the tree. -/
theorem eq_of_ofTree_eq {name name' : String} {coloring coloring' : Coloring}
    {palette palette' : Palette} {t t' : Tree} (ht : t.DistinctIds)
    (hnodes : (ofTree t name coloring palette).nodes = (ofTree t' name' coloring' palette').nodes)
    (hedges : (ofTree t name coloring palette).edges = (ofTree t' name' coloring' palette').edges) :
    t = t' := by
  obtain ⟨a, ts⟩ := t
  obtain ⟨a', ts'⟩ := t'
  have hvalues : Rose.values (.node a ts) = Rose.values (.node a' ts') := by
    have hback := congrArg (List.map fun n : GraphNode => (⟨n.id, n.label⟩ : Node)) hnodes
    rw [nodes_ofTree, nodes_ofTree, List.map_map, List.map_map] at hback
    exact (List.map_id _).symm.trans (hback.trans (List.map_id _))
  rw [Rose.values_node, Rose.values_node, List.cons.injEq] at hvalues
  obtain ⟨rfl, hvalues⟩ := hvalues
  have hlinks : Tree.forestLinks a ts = Tree.forestLinks a ts' := by
    rw [edges_ofTree, edges_ofTree] at hedges
    have hfst := congrArg (List.map Prod.fst) hedges
    rw [List.map_map, List.map_map] at hfst
    exact (List.zip_of_prod hfst ((Tree.map_snd_forestLinks a ts).trans hvalues)).trans
      (List.zip_of_prod rfl (Tree.map_snd_forestLinks a ts')).symm
  rw [Tree.eq_of_forestLinks_eq ht.nodup hlinks]

/-- **The graph represents the tree.** Trees that are read have distinct numbers. The graph of a
tree with distinct numbers has one node per node of the tree, in pre-order, and one edge less. No
edge leads to the root; every other number is the target of exactly one edge, which comes from the
parent in the tree, and the parent is listed earlier. Nodes and edges together determine the
tree. -/
theorem ofTree_arborescence :
    (∀ (r : Reader) (lines : List String) (t : Tree), (r.read lines).1 = .ok t → t.DistinctIds) ∧
      ∀ (t : Tree), t.DistinctIds → ∀ (name : String) (coloring : Coloring) (palette : Palette),
        let g := ofTree t name coloring palette
        g.nodes = t.values.map (nodeOf coloring palette) ∧
        g.edges.length = t.count - 1 ∧
        (∀ p, (p, t.id) ∉ g.edges) ∧
        (∀ v ∈ t.values, v ≠ t.value → ∃ p, t.HasChild p v ∧
          g.edges.filter (fun e => e.2 == v.id) = [(p.id, v.id)] ∧
          [p.id, v.id].Sublist (g.nodes.map GraphNode.id)) ∧
        ∀ (t' : Tree), t'.DistinctIds →
          ∀ (name' : String) (coloring' : Coloring) (palette' : Palette),
            (ofTree t' name' coloring' palette').nodes = g.nodes →
            (ofTree t' name' coloring' palette').edges = g.edges → t' = t := by
  refine ⟨fun r lines t h => Tree.distinctIds_of_read h,
    fun t ht name coloring palette => ⟨nodes_ofTree _ _ _ t, length_edges_ofTree _ _ _ t, ?_, ?_,
      fun t' ht' name' coloring' palette' hnodes hedges => eq_of_ofTree_eq ht' hnodes hedges⟩⟩
  · obtain ⟨a, ts⟩ := t
    intro p hp
    refine (List.nodup_cons.mp ht.nodup).1 ?_
    rw [← map_snd_edges_ofTree name coloring palette a]
    exact List.mem_map_of_mem hp
  · intro v hv hroot
    obtain ⟨a, ts⟩ := t
    rw [Rose.values_node, List.mem_cons] at hv
    obtain ⟨p, hchild, hlink⟩ := exists_hasChild (a := a) (hv.resolve_left hroot)
    refine ⟨p, hchild, filter_target_eq (e := (p.id, v.id)) ?_ ?_, ?_⟩
    · rw [map_snd_edges_ofTree]
      exact (List.nodup_cons.mp ht.nodup).2
    · rw [edges_ofTree]
      exact List.mem_map_of_mem hlink
    · rw [nodes_ofTree, List.map_map]
      exact hchild.sublist.map Node.id

/-- Three lines with one text are read as three nodes, and the second child is told from the
first. -/
theorem ofTree_arborescence_alike :
    let t : Tree := .node ⟨4, "X"⟩ [.node ⟨5, "X"⟩ [], .node ⟨6, "X"⟩ []]
    let g := ofTree t "g" .uniform {}
    ((⟨4⟩ : Reader).read ["X", "  X", "  X"]).1 = .ok t ∧ g.edges.length = 2 ∧
      (∃ p, t.HasChild p ⟨6, "X"⟩ ∧ g.edges.filter (fun e => e.2 == 6) = [(p.id, 6)]) ∧
      ∀ t' : Tree, t'.DistinctIds → (ofTree t' "g" .uniform {}).nodes = g.nodes →
        (ofTree t' "g" .uniform {}).edges = g.edges → t' = t := by
  intro t g
  have hls : Text.outline ["X", "  X", "  X"] = (0, "X") :: [(2, "X"), (2, "X")] := by decide
  have hread : ((⟨4⟩ : Reader).read ["X", "  X", "  X"]).1 = .ok t := by
    rw [Reader.read_of_deeper ⟨4⟩ hls (by decide)]
    simp [Reading.number, Rose.ofDepths_cons, t]
  obtain ⟨-, hlength, -, hparent, hback⟩ :=
    ofTree_arborescence.2 t (ofTree_arborescence.1 _ _ _ hread) "g" .uniform {}
  obtain ⟨p, hchild, hedge, -⟩ := hparent ⟨6, "X"⟩ (by simp [t]) (by simp [t])
  exact ⟨hread, hlength.trans (by simp [Rose.count_eq_size, Rose.size, Rose.forestSize, t]),
    ⟨p, hchild, hedge⟩, fun t' ht' => hback t' ht' _ _ _⟩

end Graph

end AstCompare
