import AstCompare.Drawing
import AstCompare.Proofs.Lines
import AstCompare.Proofs.Nesting

/-!
# Drawn trees read back

A drawing is made by two loops. `Rose.transform` words the labels, keeping the nodes that are not
finished on a stack, and `Drawing.text` prints the result from a stack of pending nodes with the
cells that lead to them. This file says what each of them computes and then reads the text back.

## Why labels cannot imitate the drawing

Labels are printed as they are, and a label may begin with blanks or with the glyphs of a branch.
The reader never looks into it. A line below the root is a row of cells of four characters, and only
the last of them is a branch; so the first branch cell from the left is the one that the drawing put
there, whatever follows. The number of cells before it is the level of the node, and levels nest
back to the forest they come from (`Rose.ofDepths_forestLevels`). A line feed in a label is the one
thing that would end a line too early.

## Main definitions

* `Rose.Opened`: the open nodes of a tree, each the next child of the one around it.
* `Drawing.rows`, `Drawing.forestRows`: the lines below the root, by recursion.
* `Drawing.read?`: the tree that a text draws.

## Main results

* `Rose.Opened.turn`: the number of finished children is always the place of the next one.
* `Rose.transform_eq_map`: wording the labels keeps the nesting and the order of the children.
* `Drawing.text_eq_unlines`: the lines of a drawing.
* `Drawing.read?_text`: a drawing whose labels are single lines is read back from its text.
* `Drawing.text_eq_iff_sameShape`: two trees are drawn alike exactly if they have the same shape.
-/

namespace AstCompare

/-! ## The loop that words the labels -/

namespace Rose

variable {α β : Type}

/-- The finished children of an open node are the first ones, so that their number is the place of
the next. -/
def Frame.Counted (f : α → β) (fr : Frame α β) : Prop :=
  fr.built.toList = forestMap f (fr.tree.children.take fr.built.size)

/-- The nodes that are open while `t` is transformed, the innermost first: each is the next child of
the one around it by that one's count. -/
inductive Opened (f : α → β) (t : Rose α) : List (Frame α β) → Prop where
  | root {fr : Frame α β} (htree : fr.tree = t) (hcount : fr.Counted f) : Opened f t [fr]
  | child {fr up : Frame α β} {outer : List (Frame α β)}
      (hnext : up.tree.children[up.built.size]? = some fr.tree) (hcount : fr.Counted f)
      (houter : Opened f t (up :: outer)) : Opened f t (fr :: up :: outer)

namespace Frame

variable {f : α → β} {fr : Frame α β}

theorem counted_new (f : α → β) (t : Rose α) : Frame.Counted f ⟨t, #[]⟩ := by
  rw [Counted, Array.size_empty, List.take_zero, forestMap_nil]

/-- A node is closed only when the count has passed all its children. -/
theorem Counted.closed (h : fr.Counted f) (hnone : fr.tree.children[fr.built.size]? = none) :
    node (f fr.tree.value) fr.built.toList = fr.tree.map f := by
  rw [h, List.take_of_length_le (List.getElem?_eq_none_iff.mp hnone)]
  cases fr.tree
  rw [map, value_node, children_node]

/-- The child that is handed in is the one that was next. -/
theorem Counted.push {c : Rose α} (h : fr.Counted f)
    (hnext : fr.tree.children[fr.built.size]? = some c) :
    { fr with built := fr.built.push (c.map f) }.Counted f := by
  rw [Counted, Array.toList_push, Array.size_push, List.take_add_one, hnext, forestMap_append, h]
  simp

end Frame

theorem Opened.counted {f : α → β} {t : Rose α} {fr : Frame α β} {outer : List (Frame α β)}
    (h : Opened f t (fr :: outer)) : fr.Counted f := by
  cases h <;> assumption

/-- **The count of finished children.** Every turn keeps the open nodes in step with the tree, and
the turn that leaves none gives the recursive tree. -/
theorem Opened.turn {f : α → β} {t : Rose α} {fr : Frame α β} {outer : List (Frame α β)}
    (h : Opened f t (fr :: outer)) :
    fr.turn f outer = .inl (t.map f) ∨
      ∃ stack, fr.turn f outer = .inr stack ∧ Opened f t stack := by
  rw [Frame.turn]
  cases hnext : fr.tree.children[fr.built.size]? with
  | some c => exact .inr ⟨_, rfl, .child hnext (Frame.counted_new f c) h⟩
  | none =>
    have hclosed := h.counted.closed hnext
    cases h with
    | root htree hcount =>
      left
      rw [← htree, ← hclosed]
    | child hup hcount houter =>
      right
      simp only [hclosed]
      -- The node around it gets the child that its own count asked for.
      refine ⟨_, rfl, ?_⟩
      cases houter with
      | root htree hcount => exact .root htree (hcount.push hup)
      | child hnext hcount houter => exact .child hnext (hcount.push hup) houter

/-- The loop may be met at any of its turns. -/
theorem Opened.transformFrom {f : α → β} {t : Rose α} {stack : List (Frame α β)}
    (h : Opened f t stack) (finished : Option (Rose β)) :
    Rose.transformFrom f stack finished = some (t.map f) := by
  fun_induction Rose.transformFrom f stack finished with
  | case1 => cases h
  | case2 finished fr outer u hturn ih =>
    obtain hlast | ⟨stack, hmore, _⟩ := h.turn
    · rw [hturn] at hlast
      rw [Rose.transformFrom, Sum.inl.inj hlast]
    · rw [hturn] at hmore
      cases hmore
  | case3 finished fr outer stack hturn _ ih =>
    obtain hlast | ⟨stack', hmore, hopened⟩ := h.turn
    · rw [hturn] at hlast
      cases hlast
    · rw [hturn] at hmore
      cases hmore
      exact ih hopened

/-- The loop always ends with a tree, which is the recursive one. -/
theorem transformFrom_root (f : α → β) (t : Rose α) (finished : Option (Rose β)) :
    transformFrom f [⟨t, #[]⟩] finished = some (t.map f) :=
  Opened.transformFrom (.root rfl (Frame.counted_new f t)) finished

/-- **Wording the labels keeps the nesting.** -/
theorem transform_eq_map (f : α → β) (t : Rose α) : t.transform f = t.map f := by
  rw [transform, transformFrom_root, Option.getD_some]

end Rose

/-! ## The lines of a drawing -/

namespace Text

/-- Splitting at line feeds gives the lines back, and nothing after the last one. -/
theorem splitOn_unlines {ls : List String} (h : ∀ l ∈ ls, '\n' ∉ l.toList) :
    (unlines ls).toList.splitOn '\n' = ls.map String.toList ++ [[]] := by
  have hinter : (unlines ls).toList = ['\n'].intercalate (ls.map String.toList ++ [[]]) := by
    clear h
    induction ls with
    | nil => rfl
    | cons l ls ih =>
      rw [unlines_cons, String.toList_append, String.toList_append, ih]
      cases ls with
      | nil => simp
      | cons l' ls => simp
  rw [hinter]
  refine List.splitOn_intercalate '\n' ?_ (by simp)
  simpa [or_imp, forall_and] using h

end Text

namespace Drawing

mutual

/-- The lines of a tree, its own with the given cells before the branch. -/
def rows (lead : String) (last : Bool) : Drawing → List String
  | .node a ds => (lead ++ branch last ++ a) :: forestRows (lead ++ continuation last) ds

/-- The lines of the children of one node. -/
def forestRows (lead : String) : List Drawing → List String
  | [] => []
  | d :: ds => rows lead ds.isEmpty d ++ forestRows lead ds

end

@[simp] theorem forestRows_nil (lead : String) : forestRows lead [] = [] := by
  rw [forestRows]

@[simp] theorem forestRows_cons (lead a : String) (cs ds : List Drawing) :
    forestRows lead (.node a cs :: ds) =
      (lead ++ branch ds.isEmpty ++ a) ::
        (forestRows (lead ++ continuation ds.isEmpty) cs ++ forestRows lead ds) := by
  rw [forestRows, rows, List.cons_append]

theorem flatMap_marked (lead : String) (ds : List Drawing) :
    (marked lead ds).flatMap (fun e => rows e.1 e.2.1 e.2.2) = forestRows lead ds := by
  fun_induction marked lead ds with
  | case1 => simp
  | case2 d => simp [forestRows]
  | case3 d ds hne ih =>
    have hlast : ds.isEmpty = false := by
      cases ds with
      | nil => exact absurd rfl hne
      | cons => rfl
    rw [List.flatMap_cons, ih, forestRows, hlast]

theorem textFrom_eq (stack : List (String × Bool × Drawing)) (out : String) :
    textFrom stack out =
      out ++ Text.unlines (stack.flatMap fun e => rows e.1 e.2.1 e.2.2) := by
  fun_induction textFrom stack out with
  | case1 out => simp [Text.unlines]
  | case2 out lead last d rest ih =>
    obtain ⟨a, ds⟩ := d
    rw [ih, List.flatMap_append, Rose.children_node, flatMap_marked, List.flatMap_cons, rows,
      List.cons_append, Text.unlines_cons]
    simp [String.append_assoc]

/-- **The lines of a drawing.** The root stands alone, and below it come the rows. -/
theorem text_eq_unlines (d : Drawing) :
    d.text = Text.unlines (d.value :: forestRows "" d.children) := by
  rw [text, textFrom_eq, flatMap_marked, Text.unlines_cons]

/-- A row holds no line feed but those of its label. -/
theorem newline_notMem_forestRows {ds : List Drawing}
    (h : ∀ a ∈ Rose.forestValues ds, '\n' ∉ a.toList) {lead : String} (hlead : '\n' ∉ lead.toList) :
    ∀ r ∈ forestRows lead ds, '\n' ∉ r.toList := by
  induction ds using Rose.forest_induction generalizing lead with
  | nil => simp
  | cons a cs ds ihc ihd =>
    simp only [Rose.forestValues_cons, Rose.values_node, List.cons_append, List.forall_mem_cons,
      List.forall_mem_append] at h
    obtain ⟨ha, hcs, hds⟩ := h
    have hbranch : '\n' ∉ (branch ds.isEmpty).toList := by
      cases ds.isEmpty <;> decide
    have hcont : '\n' ∉ (continuation ds.isEmpty).toList := by
      cases ds.isEmpty <;> decide
    rw [forestRows_cons, List.forall_mem_cons, List.forall_mem_append]
    refine ⟨by simp [hlead, hbranch, ha], ihc hcs ?_, ihd hds hlead⟩
    simp [hlead, hcont]

/-! ## Reading a drawing -/

/-- The level and the label of a row: cells under ancestors are counted until the branch is met, and
the rest is the label. -/
def readRow : List Char → Option (Nat × String)
  | '│' :: ' ' :: ' ' :: ' ' :: cs => (readRow cs).map fun e => (e.1 + 1, e.2)
  | ' ' :: ' ' :: ' ' :: ' ' :: cs => (readRow cs).map fun e => (e.1 + 1, e.2)
  | '├' :: '─' :: '─' :: ' ' :: cs => some (0, String.ofList cs)
  | '└' :: '─' :: '─' :: ' ' :: cs => some (0, String.ofList cs)
  | _ => none

/-- The tree that a text draws: the first line is the root, and every other one is put below it by
its level. -/
def read? (s : String) : Option Drawing :=
  match (s.toList.splitOn '\n').dropLast with
  | [] => none
  | root :: rs =>
    (rs.mapM readRow).map fun es => .node (String.ofList root) (Rose.ofDepths es)

theorem readRow_continuation (last : Bool) (cs : List Char) :
    readRow ((continuation last).toList ++ cs) = (readRow cs).map fun e => (e.1 + 1, e.2) := by
  cases last <;> rfl

theorem readRow_branch (last : Bool) (a : String) :
    readRow ((branch last).toList ++ a.toList) = some (0, a) := by
  cases last <;> simp [branch, readRow]

/-- The text is made of cells under ancestors, so many of them. -/
def Cells (n : Nat) (lead : String) : Prop :=
  ∀ cs, readRow (lead.toList ++ cs) = (readRow cs).map fun e => (e.1 + n, e.2)

theorem cells_empty : Cells 0 "" := by
  intro cs
  simp

theorem Cells.append_continuation {n : Nat} {lead : String} (h : Cells n lead) (last : Bool) :
    Cells (n + 1) (lead ++ continuation last) := by
  intro cs
  rw [String.toList_append, List.append_assoc, h, readRow_continuation, Option.map_map]
  congr 1
  funext e
  simp only [Function.comp_apply, Prod.mk.injEq, and_true]
  omega

/-- Each row says at which level its label stands. The induction goes down a level with one more
cell in front, and stays on the level with the same cells. -/
theorem mapM_readRow_forestRows (ds : List Drawing) {n : Nat} {lead : String} (h : Cells n lead) :
    (forestRows lead ds).mapM (fun r => readRow r.toList) = some (Rose.forestLevels n ds) := by
  induction ds using Rose.forest_induction generalizing n lead with
  | nil => simp
  | cons a cs ds ihc ihd =>
    have hrow : readRow (lead ++ branch ds.isEmpty ++ a).toList = some (n, a) := by
      rw [String.toList_append, String.toList_append, List.append_assoc, h, readRow_branch]
      simp
    rw [forestRows_cons, List.mapM_cons, hrow, List.mapM_append,
      ihc (h.append_continuation ds.isEmpty), ihd h]
    simp

/-- **Reading a drawing back.** -/
theorem read?_text {d : Drawing} (h : ∀ a ∈ d.values, '\n' ∉ a.toList) : read? d.text = some d := by
  obtain ⟨a, ds⟩ := d
  rw [Rose.values_node, List.forall_mem_cons] at h
  have hlines : ∀ l ∈ a :: forestRows "" ds, '\n' ∉ l.toList :=
    List.forall_mem_cons.mpr ⟨h.1, newline_notMem_forestRows h.2 (by simp)⟩
  have hnest : Rose.ofDepths (Rose.forestLevels 0 ds) = ds := by
    simpa using Rose.ofDepths_forestLevels Nat.one_pos 0 ds
  have hrows : ((forestRows "" ds).map String.toList).mapM readRow =
      some (Rose.forestLevels 0 ds) := by
    rw [List.mapM_map]
    exact mapM_readRow_forestRows ds cells_empty
  rw [read?, text_eq_unlines, Rose.value_node, Rose.children_node, Text.splitOn_unlines hlines,
    List.dropLast_concat, List.map_cons]
  simp [hrows, hnest]

/-! ## Trees drawn with their own labels -/

theorem ofTree_eq_map (t : Tree) (coloring : Coloring) (format : String → Status → String) :
    ofTree t coloring format = t.map fun n => format n.label (coloring.status n.label) :=
  Rose.transform_eq_map _ t

/-- **Drawn trees are faithful.** Two trees whose labels are single lines are drawn alike exactly if
they have the same shape, and the nesting, the order of the children and the labels are read from
the text, whatever the labels look like. -/
theorem text_eq_iff_sameShape {t u : Tree} (ht : ∀ l ∈ t.labelList, '\n' ∉ l.toList)
    (hu : ∀ l ∈ u.labelList, '\n' ∉ l.toList) :
    ((ofTree t .uniform fun label _ => label).text = (ofTree u .uniform fun label _ => label).text ↔
        t.sameShape u = true) ∧
      read? (ofTree t .uniform fun label _ => label).text = some (t.map Node.label) := by
  have hread : ∀ v : Tree, (∀ l ∈ v.labelList, '\n' ∉ l.toList) →
      read? (ofTree v .uniform fun label _ => label).text = some (v.map Node.label) := by
    intro v hv
    rw [Tree.labelList_eq, ← Rose.values_map] at hv
    rw [ofTree_eq_map]
    exact read?_text hv
  refine ⟨⟨fun htext => ?_, fun hshape => ?_⟩, hread t ht⟩
  · -- equal texts are read as equal trees
    rw [Tree.sameShape_iff, ← Option.some.injEq, ← hread t ht, ← hread u hu, htext]
  · rw [ofTree_eq_map, ofTree_eq_map]
    exact congrArg text ((Tree.sameShape_iff t u).mp hshape)

namespace Example

/-- Two children with labels that start like drawn lines. -/
def imitating : Tree :=
  .node ⟨0, ""⟩ [.node ⟨1, "├── x"⟩ [], .node ⟨2, "    └── "⟩ []]

/-- The same texts, one below the other. -/
def nested : Tree :=
  .node ⟨0, ""⟩ [.node ⟨1, ""⟩ [.node ⟨2, "x"⟩ [.node ⟨3, ""⟩ []]]]

/-- Labels that are empty, or that begin with blanks or with a branch, are told from drawn cells. -/
theorem text_imitating_ne_nested :
    ((ofTree imitating .uniform fun label _ => label).text ≠
        (ofTree nested .uniform fun label _ => label).text) ∧
      read? (ofTree imitating .uniform fun label _ => label).text =
        some (.node "" [.node "├── x" [], .node "    └── " []]) := by
  have himitating : imitating.labelList = ["", "├── x", "    └── "] := by
    simp [Tree.labelList_eq, imitating]
  have hnested : nested.labelList = ["", "", "x", ""] := by
    simp [Tree.labelList_eq, nested]
  obtain ⟨hiff, hread⟩ := text_eq_iff_sameShape (t := imitating) (u := nested)
    (by rw [himitating]; decide) (by rw [hnested]; decide)
  refine ⟨fun htext => ?_, by simpa [imitating] using hread⟩
  have hshape := (Tree.sameShape_iff _ _).mp (hiff.mp htext)
  simp [imitating, nested] at hshape

end Example

end Drawing

end AstCompare
