import AstCompare.Proofs.Lines
import AstCompare.Proofs.Reading

/-!
# Writing by indentation and reading back

`Tree.toIndented` writes a tree from a stack of pending trees with levels; `Reader.read` builds one
from a stack of open nodes with depths. Neither stack is related to the other here. Writing is the
listing by levels, one line each (`Tree.toIndented_eq_unlines`), reading is nesting by depths
(`Reader.read_eq_ok_iff`), and levels nest back (`Rose.ofDepths_forestLevels`).

## Which units work

The unit that is written once per level is a setting, and any text can be set. A tree of one node
never shows it. In a larger tree the second line is the unit and a label, and everything is decided
there: an empty unit leaves that line at the depth of the root, and a unit with a character that is
not blank becomes part of the label.

## Main results

* `Tree.read_toIndented_of_blank`: what is written with a unit of blanks is read back.
* `Tree.blank_of_read_toIndented`: no other unit gives a larger tree back.
* `Tree.read_toIndented_iff`: the two together, with the numbers of the tree that is read.
-/

namespace AstCompare

/-! ## Writing -/

namespace Tree

/-- The line of a node: the unit once per level, then the label. -/
def indentedLine (unit : String) (e : Nat × Node) : String :=
  String.join (List.replicate e.1 unit) ++ e.2.label

/-- The lines of a tree in pre-order. -/
def indentedLines (unit : String) (t : Tree) : List String :=
  (t.levels 0).map (indentedLine unit)

theorem toIndentedFrom_eq (unit : String) (stack : List (Nat × Tree)) (out : String) :
    toIndentedFrom unit stack out =
      out ++ Text.unlines ((stack.flatMap fun e => e.2.levels e.1).map (indentedLine unit)) := by
  fun_induction toIndentedFrom unit stack out with
  | case1 out => simp [Text.unlines]
  | case2 out level t rest ih =>
    obtain ⟨n, cs⟩ := t
    rw [ih, List.flatMap_append, List.flatMap_map, List.flatMap_cons, Rose.levels_node,
      Rose.forestLevels_eq_flatMap, List.cons_append, List.map_cons, Text.unlines_cons,
      indentedLine]
    simp [Tree.label, String.append_assoc]

/-- **Writing is the listing by levels.** -/
theorem toIndented_eq_unlines (unit : String) (t : Tree) :
    t.toIndented unit = Text.unlines (t.indentedLines unit) := by
  rw [toIndented, toIndentedFrom_eq, String.empty_append, indentedLines, List.flatMap_singleton]

theorem indentedLines_node (unit : String) (n : Node) (cs : List Tree) :
    indentedLines unit (.node n cs) =
      n.label :: (Rose.forestLevels 1 cs).map (indentedLine unit) := by
  simp [indentedLines, indentedLine]

/-- Every node of the tree carries a text that a line can give it. -/
def WellLabelled (t : Tree) : Prop :=
  ∀ n ∈ t.values, Text.IsLabel n.label

theorem wellLabelled_iff {t : Tree} : t.WellLabelled ↔ ∀ l ∈ t.labelList, Text.IsLabel l := by
  rw [labelList_eq, List.forall_mem_map, WellLabelled]

/-- The trees that are read from the lines of a text are well labelled. -/
theorem wellLabelled_of_read_lines {r : Reader} {text : String} {t : Tree}
    (h : (r.read (Text.lines text)).1 = .ok t) : t.WellLabelled := by
  rw [wellLabelled_iff, Reader.labelList_of_read h, List.forall_mem_map]
  intro s hs
  obtain ⟨hmem, hblank⟩ := List.mem_filter.mp hs
  exact Text.isLabel_trimmed (Text.newline_notMem_of_mem_lines hmem) (by simpa using hblank)

theorem WellLabelled.of_mem_levels {t : Tree} (h : t.WellLabelled) {e : Nat × Node}
    (he : e ∈ t.levels 0) : Text.IsLabel e.2.label := by
  refine h e.2 ?_
  obtain ⟨n, cs⟩ := t
  rw [Rose.levels_node, List.mem_cons] at he
  rw [Rose.values_node, ← Rose.map_snd_forestLevels 1, List.mem_cons]
  rcases he with rfl | he
  · exact .inl rfl
  · exact .inr (List.mem_map_of_mem he)

/-- The text that is written is cut into the lines that were written. -/
theorem WellLabelled.lines_toIndented {t : Tree} (h : t.WellLabelled) {unit : String}
    (hunit : '\n' ∉ unit.toList) : Text.lines (t.toIndented unit) = t.indentedLines unit := by
  rw [toIndented_eq_unlines]
  refine Text.lines_unlines fun l hl => ?_
  obtain ⟨e, he, rfl⟩ := List.mem_map.mp hl
  have hlabel := h.of_mem_levels he
  refine ⟨?_, hlabel.getLast?_append_ne _⟩
  rw [indentedLine, String.toList_append, String.toList_join, List.mem_append, not_or]
  refine ⟨fun hm => ?_, hlabel.one_line⟩
  obtain ⟨u, hu, hm⟩ := List.mem_flatMap.mp hm
  exact hunit ((List.eq_of_mem_replicate hu) ▸ hm)

/-- No written line is blank. -/
theorem WellLabelled.outline_indentedLines {t : Tree} (h : t.WellLabelled) (unit : String) :
    Text.outline (t.indentedLines unit) =
      (t.indentedLines unit).map fun s => (Text.indentation s, Text.trimmed s) := by
  have hall : Text.nonBlank (t.indentedLines unit) = t.indentedLines unit := by
    refine List.filter_eq_self.mpr fun l hl => ?_
    obtain ⟨e, he, rfl⟩ := List.mem_map.mp hl
    rw [indentedLine, (h.of_mem_levels he).trimmed_append_isEmpty]
    rfl
  rw [Text.outline, hall]

/-! ## Reading back -/

/-- The line of a node is its level and its label, if the unit is made of blanks. -/
theorem entry_indentedLine {unit : String} (hunit : ∀ c ∈ unit.toList, Text.isBlank c = true)
    {e : Nat × Node} (he : Text.IsLabel e.2.label) :
    (Text.indentation (indentedLine unit e), Text.trimmed (indentedLine unit e)) =
      (e.1 * unit.toList.length, e.2.label) := by
  have hblank : ∀ c ∈ (String.join (List.replicate e.1 unit)).toList, Text.isBlank c = true := by
    rw [String.toList_join]
    intro c hc
    obtain ⟨u, hu, hcu⟩ := List.mem_flatMap.mp hc
    exact hunit c ((List.eq_of_mem_replicate hu) ▸ hcu)
  rw [indentedLine, he.indentation_append hblank, he.trimmed_append hblank]
  simp

/-- **A tree of one node is read back,** whatever the unit. -/
theorem read_toIndented_of_leaf {t : Tree} (h : t.WellLabelled) {unit : String}
    (hunit : '\n' ∉ unit.toList) (hleaf : t.count = 1) (r : Reader) :
    ∃ t', (r.read (Text.lines (t.toIndented unit))).1 = .ok t' ∧ t.sameShape t' = true := by
  obtain ⟨n, cs⟩ := t
  obtain rfl : cs = [] := by
    rw [Rose.count_eq_size, Rose.size_eq, Rose.children_node] at hleaf
    cases cs with
    | nil => rfl
    | cons c cs =>
      have hpos := c.size_pos
      rw [Rose.forestSize] at hleaf
      omega
  have hlabel : Text.IsLabel n.label := h n (by simp)
  have houtline : Text.outline (Text.lines (Tree.toIndented unit (.node n []))) =
      [(0, n.label)] := by
    rw [h.lines_toIndented hunit, h.outline_indentedLines, indentedLines_node]
    simp [hlabel.trimmed_eq, hlabel.indentation_eq]
  refine ⟨_, congrArg Prod.fst (r.read_of_deeper houtline (by simp)), ?_⟩
  rw [sameShape_iff]
  simp [Reading.number]

/-- **A unit of blanks is undone.** -/
theorem read_toIndented_of_blank {t : Tree} (h : t.WellLabelled) {unit : String}
    (hunit : '\n' ∉ unit.toList) (hne : unit ≠ "")
    (hblank : ∀ c ∈ unit.toList, Text.isBlank c = true) (r : Reader) :
    ∃ t', (r.read (Text.lines (t.toIndented unit))).1 = .ok t' ∧ t.sameShape t' = true := by
  have hw : 0 < unit.toList.length := List.length_pos_iff.mpr (by simpa using hne)
  have houtline : Text.outline (Text.lines (t.toIndented unit)) =
      (t.levels 0).map fun e => (e.1 * unit.toList.length, e.2.label) := by
    rw [h.lines_toIndented hunit, h.outline_indentedLines, indentedLines, List.map_map]
    exact List.map_congr_left fun e he => entry_indentedLine hblank (h.of_mem_levels he)
  obtain ⟨n, cs⟩ := t
  rw [Rose.levels_node, List.map_cons, Nat.zero_mul] at houtline
  have hdeeper : ∀ e ∈ (Rose.forestLevels 1 cs).map
      (fun e => (e.1 * unit.toList.length, e.2.label)), 0 < e.1 := by
    intro e he
    obtain ⟨x, hx, rfl⟩ := List.mem_map.mp he
    exact Nat.mul_pos (Rose.le_of_mem_forestLevels hx) hw
  refine ⟨_, congrArg Prod.fst (r.read_of_deeper houtline hdeeper), ?_⟩
  have hforest := congrArg (Rose.forestMap Node.label) (Rose.ofDepths_forestLevels hw 1 cs)
  rw [Rose.forestMap_ofDepths, List.map_map] at hforest
  rw [sameShape_iff, Rose.map_node, Rose.map_node, Rose.forestMap_ofDepths,
    Reading.map_label_number, ← hforest]
  rfl

/-- **No other unit is undone.** The second line is the unit and a label. It is deeper than the
first, so the unit is not empty, and its label comes back, so the unit is blank. -/
theorem blank_of_read_toIndented {t : Tree} (h : t.WellLabelled) {unit : String}
    (hunit : '\n' ∉ unit.toList) (hnodes : t.count ≠ 1) {r : Reader} {t' : Tree}
    (hread : (r.read (Text.lines (t.toIndented unit))).1 = .ok t')
    (hshape : t.sameShape t' = true) :
    unit ≠ "" ∧ ∀ c ∈ unit.toList, Text.isBlank c = true := by
  obtain ⟨n, cs⟩ := t
  cases cs with
  | nil =>
    rw [Rose.count_eq_size] at hnodes
    exact absurd (by simp [Rose.size, Rose.forestSize]) hnodes
  | cons c cs =>
    obtain ⟨m, ds⟩ := c
    have hn : Text.IsLabel n.label := h n (by simp)
    have hm : Text.IsLabel m.label := h m (by simp)
    obtain ⟨rest, houtline⟩ : ∃ rest,
        Text.outline (Text.lines (Tree.toIndented unit (.node n (.node m ds :: cs)))) =
          (0, n.label) :: (Text.indentation (unit ++ m.label), Text.trimmed (unit ++ m.label)) ::
            rest := by
      rw [h.lines_toIndented hunit, h.outline_indentedLines, indentedLines_node]
      simp [indentedLine, hn.trimmed_eq, hn.indentation_eq]
    constructor
    · rintro rfl
      obtain ⟨d, label, es, hes, hdeeper, -⟩ := (Reader.read_eq_ok_iff _ _ _).mp hread
      rw [houtline] at hes
      obtain ⟨he, rfl⟩ := List.cons.inj hes
      have hlt := hdeeper _ List.mem_cons_self
      rw [← (Prod.mk.inj he).1, String.empty_append, hm.indentation_eq] at hlt
      exact Nat.lt_irrefl 0 hlt
    · have hlabels := labelList_eq_of_sameShape hshape
      have htrimmed := congrArg (List.map Prod.snd) houtline
      rw [Text.outline, List.map_map] at htrimmed
      rw [Reader.labelList_of_read hread, labelList_eq] at hlabels
      refine hm.forall_isBlank_of_trimmed_append ?_
      have hsecond := congrArg (fun l => l[1]?) (hlabels.trans htrimmed)
      simpa [eq_comm] using hsecond

/-- **Round trip.** The trees that are read from the lines of a text are well labelled. What is
written of a well labelled tree is read back to a tree of the same shape exactly when the tree has
one node or the unit is one or more blanks, and then the nodes are numbered in pre-order from the
counter on. -/
theorem read_toIndented_iff :
    (∀ (r : Reader) (text : String) (t : Tree),
      (r.read (Text.lines text)).1 = .ok t → t.WellLabelled) ∧
    ∀ (r : Reader) (t : Tree) (unit : String), t.WellLabelled → '\n' ∉ unit.toList →
      ((∃ t', (r.read (Text.lines (t.toIndented unit))).1 = .ok t' ∧ t.sameShape t' = true) ↔
        t.count = 1 ∨ (unit ≠ "" ∧ ∀ c ∈ unit.toList, Text.isBlank c = true)) ∧
      ∀ t', (r.read (Text.lines (t.toIndented unit))).1 = .ok t' → t.sameShape t' = true →
        t'.nodeList.map Node.id = List.range' r.nextId t.count := by
  refine ⟨fun r text t => wellLabelled_of_read_lines, fun r t unit h hunit => ⟨⟨?_, ?_⟩, ?_⟩⟩
  · rintro ⟨t', hread, hshape⟩
    by_cases hnodes : t.count = 1
    · exact .inl hnodes
    · exact .inr (blank_of_read_toIndented h hunit hnodes hread hshape)
  · rintro (hleaf | ⟨hne, hblank⟩)
    · exact read_toIndented_of_leaf h hunit hleaf r
    · exact read_toIndented_of_blank h hunit hne hblank r
  · intro t' hread hshape
    have hsize : t'.size = t.size := by
      rw [← Rose.length_values, ← Rose.length_values, ← List.length_map Node.label,
        ← labelList_eq, ← labelList_eq_of_sameShape hshape, labelList_eq, List.length_map]
    rw [nodeList_eq_values, Reader.map_id_values_of_read hread, hsize, Rose.count_eq_size]

/-- Equal labels at several places and a unit of a tabulator and a carriage return. -/
theorem read_toIndented_iff_tabulator :
    Tree.WellLabelled (.node ⟨3, "a b"⟩ [.node ⟨3, "c"⟩ [.node ⟨0, "a b"⟩ []], .node ⟨1, "c"⟩ []]) ∧
      '\n' ∉ "\t\r".toList ∧
      ∃ t', ((⟨5⟩ : Reader).read (Text.lines (Tree.toIndented "\t\r"
            (.node ⟨3, "a b"⟩ [.node ⟨3, "c"⟩ [.node ⟨0, "a b"⟩ []], .node ⟨1, "c"⟩ []])))).1 =
          .ok t' ∧
        t'.nodeList.map Node.id = [5, 6, 7, 8] := by
  have hlabels : Tree.WellLabelled
      (.node ⟨3, "a b"⟩ [.node ⟨3, "c"⟩ [.node ⟨0, "a b"⟩ []], .node ⟨1, "c"⟩ []]) := by
    intro n hn
    simp only [Rose.values_node, Rose.forestValues_cons, Rose.forestValues_nil, List.append_nil,
      List.cons_append, List.nil_append, List.mem_cons, List.not_mem_nil, or_false] at hn
    rcases hn with rfl | rfl | rfl | rfl <;> decide
  have hunit : '\n' ∉ "\t\r".toList := by decide
  obtain ⟨hiff, hids⟩ := read_toIndented_iff.2 ⟨5⟩ _ _ hlabels hunit
  obtain ⟨t', hread, hshape⟩ := hiff.mpr (.inr ⟨by decide, List.all_eq_true.mp (by decide)⟩)
  refine ⟨hlabels, hunit, t', hread, ?_⟩
  rw [hids t' hread hshape, Rose.count_eq_size]
  rfl

end Tree

end AstCompare
