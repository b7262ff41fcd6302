import AstCompare.Proofs.Arborescence
import AstCompare.Proofs.DumpRoundTrip
import AstCompare.Proofs.Provenance
import AstCompare.Proofs.TextOrder

/-!
# The comparison of two trees as a comparison of lines

A label is the trimmed text of a line, and nothing but labels is compared. So the outcome can be
told without any tree: take the trimmed lines of both sections that are not blank, as two lists.
What the program calls added and removed are the two differences of these lists as sets, and a node
of the second graph is changed exactly if its own line is not in the first list. Where a line is
nested, how often it occurs and where it has moved to makes no difference.

## Main definitions

* `Dump.texts`: the trimmed lines of a section that are not blank.
* `Text.OnlyIn`: a list gives the texts of one list that are not in another one, each once and in
  order.
* `Analysis.ComparesLines`: the analysis says of two trees what is to be said of two lists of lines.

## Main results

* `Analysis.comparesLines_of_ofDump`: every analysis of a dump compares its lines.
* `Comparison.endsIn_drawingPlan`: the report of a comparison does not depend on the host.
* `Analysis.analysis_is_line_difference`: analyses and reports compare the lines of the dump.
-/

namespace AstCompare

/-! ## Ordered lists of texts -/

namespace Text

/-- The list gives the texts of `xs` that are not in `ys`, each once and in the order of code
points. -/
structure OnlyIn (l xs ys : List String) : Prop where
  ascending : l.Pairwise fun s t => codePoints s < codePoints t
  mem_iff : ∀ x, x ∈ l ↔ x ∈ xs ∧ x ∉ ys

end Text

theorem LabelSet.onlyIn_difference (xs ys : List String) :
    Text.OnlyIn ((ofList xs).difference (ofList ys)).labels xs ys where
  ascending := (LabelSet.ascending _).imp fun h => (Text.lt_iff_codePoints_lt _ _).mp h
  mem_iff x := by
    rw [← LabelSet.mem_iff, mem_difference, mem_ofList, mem_ofList]

/-! ## Analyses -/

/-- The trimmed lines of a section that are not blank. -/
def Dump.texts (d : Dump) (s : Section) : List String :=
  (Text.nonBlank (d.lines s)).map Text.trimmed

namespace Analysis

variable {d : Dump} {a : Analysis} {s : Section} {r : Reader}

theorem read_of_readSection {out : Tree × Reader} (h : readSection d s r = .ok out) :
    r.read (d.lines s) = (.ok out.1, out.2) := by
  rw [readSection] at h
  split at h
  · rename_i t r' hread
    rw [hread, ← Except.ok.inj h]
  · cases h

/-- Both trees of an analysis have been read from their sections, the second one where the counter
stood after the first. -/
theorem read_of_ofDump (h : ofDump d = .ok a) :
    ∃ r : Reader, ({} : Reader).read d.before = (.ok a.before, r) ∧
      (r.read d.after).1 = .ok a.after := by
  obtain ⟨s, r, e, -, hdump⟩ | ⟨before, after, hb, ha, hdump⟩ := ofDump_cases d
  · rw [hdump] at h
    cases h
  · rw [hdump] at h
    obtain rfl : (⟨before.1, after.1⟩ : Analysis) = a := Except.ok.inj h
    exact ⟨before.2, read_of_readSection hb, congrArg Prod.fst (read_of_readSection ha)⟩

theorem exists_read_of_ofDump (h : ofDump d = .ok a) (s : Section) :
    ∃ r : Reader, (r.read (d.lines s)).1 = .ok (a.tree s) := by
  obtain ⟨r, hb, ha⟩ := read_of_ofDump h
  cases s with
  | before => exact ⟨{}, congrArg Prod.fst hb⟩
  | after => exact ⟨r, ha⟩

theorem exists_dump_of_ofText {text : String} (h : ofText text = .ok a) :
    ∃ d, Dump.ofText text = .ok d ∧ ofDump d = .ok a := by
  rw [ofText] at h
  split at h
  · cases h
  · rename_i d hsplit
    exact ⟨d, hsplit, h⟩

/-- The labels of a tree in pre-order are the texts of its section. -/
theorem labelList_tree (h : ofDump d = .ok a) (s : Section) : (a.tree s).labelList = d.texts s := by
  obtain ⟨r, hread⟩ := exists_read_of_ofDump h s
  exact Reader.labelList_of_read hread

theorem labels_tree (h : ofDump d = .ok a) (s : Section) :
    (a.tree s).labels = .ofList (d.texts s) := by
  rw [Tree.labels, labelList_tree h]

theorem count_tree (h : ofDump d = .ok a) (s : Section) :
    (a.tree s).count = (d.texts s).length := by
  rw [← labelList_tree h, Tree.labelList_eq, List.length_map, Rose.length_values,
    Rose.count_eq_size]

/-- What a graph shows of its nodes, told by the texts of the section. -/
theorem map_nodes_graph (h : ofDump d = .ok a) (palette : Palette) (s : Section) :
    (a.graph palette s).nodes.map (fun n => (n.label, n.status, n.fill)) =
      (d.texts s).map fun x =>
        (x, (a.coloring s).status x, palette.fill ((a.coloring s).status x)) := by
  rw [graph_eq_ofTree, Graph.nodes_ofTree, ← labelList_tree h, Tree.labelList_eq, List.map_map,
    List.map_map]
  rfl

/-- The status of a label in the second tree. -/
theorem status_after (h : ofDump d = .ok a) (x : String) :
    (a.coloring .after).status x = if x ∈ d.texts .before then .unchanged else .changed := by
  have hknown : a.reference.contains x = true ↔ x ∈ d.texts .before := by
    rw [LabelSet.contains_iff, reference, show a.before = a.tree .before from rfl, labels_tree h,
      LabelSet.mem_ofList]
  rw [coloring, Coloring.status]
  simp only [hknown]

/-- The analysis says of two trees what is to be said of the lists of their lines. -/
structure ComparesLines (a : Analysis) (before after : List String) : Prop where
  /-- The reference is the set of the first list. -/
  reference : ∀ x, x ∈ a.reference ↔ x ∈ before
  /-- The added labels are the texts of the second list that are not in the first one. -/
  added : Text.OnlyIn a.added.labels after before
  /-- The removed labels are the texts of the first list that are not in the second one. -/
  removed : Text.OnlyIn a.removed.labels before after
  /-- The nodes of the second graph are the texts of the second list, and new texts are changed. -/
  highlighted : ∀ palette : Palette,
    (a.graph palette .after).nodes.map (fun n => (n.label, n.status, n.fill)) =
      after.map fun x =>
        if x ∈ before then (x, .unchanged, palette.unchanged) else (x, .changed, palette.changed)
  /-- The nodes of the first graph are the texts of the first list, all of them unchanged. -/
  plain : ∀ palette : Palette,
    (a.graph palette .before).nodes.map (fun n => (n.label, n.status, n.fill)) =
      before.map fun x => (x, .unchanged, palette.unchanged)

/-- **An analysis compares lines.** -/
theorem comparesLines_of_ofDump (h : ofDump d = .ok a) :
    a.ComparesLines (d.texts .before) (d.texts .after) := by
  have hbefore : a.reference = .ofList (d.texts .before) := labels_tree h .before
  have hafter : a.after.labels = .ofList (d.texts .after) := labels_tree h .after
  refine ⟨fun x => ?_, ?_, ?_, fun palette => ?_, fun palette => map_nodes_graph h palette .before⟩
  · rw [hbefore, LabelSet.mem_ofList]
  · rw [Analysis.added, hbefore, hafter]
    exact LabelSet.onlyIn_difference _ _
  · rw [Analysis.removed, hbefore, hafter]
    exact LabelSet.onlyIn_difference _ _
  · rw [map_nodes_graph h]
    refine List.map_congr_left fun x _ => ?_
    rw [status_after h]
    split <;> rfl

/-- The number of changed nodes is that of the lines whose text is new. -/
theorem changedCount_graph (h : ofDump d = .ok a) (palette : Palette) :
    (a.graph palette .after).changedCount =
      (d.texts .after).countP fun x => x ∉ d.texts .before := by
  have hstatus := congrArg (List.map fun e : String × Status × String => e.2.1)
    (map_nodes_graph h palette .after)
  rw [List.map_map, List.map_map] at hstatus
  rw [Graph.changedCount, ← List.countP_eq_length_filter]
  calc (a.graph palette .after).nodes.countP (fun n => n.status == .changed)
      = ((a.graph palette .after).nodes.map GraphNode.status).countP (· == .changed) := by
        rw [List.countP_map]
        rfl
    _ = ((d.texts .after).map (a.coloring .after).status).countP (· == .changed) := by
        exact congrArg _ hstatus
    _ = (d.texts .after).countP fun x => x ∉ d.texts .before := by
        rw [List.countP_map]
        refine List.countP_congr fun x _ => ?_
        rw [Function.comp_apply, status_after h]
        split <;> simp_all

end Analysis

/-! ## Reports -/

/-- Whatever is replied, the plan ends in a result with the property. -/
inductive Plan.EndsIn {α : Type} (P : α → Prop) : Plan α → Prop where
  | done {a : α} (holds : P a) : EndsIn P (.done a)
  | call {c : Call} {next : c.Reply → Plan α} (on : ∀ r, EndsIn P (next r)) :
      EndsIn P (.call c next)

theorem Plan.EndsIn.runFrom {α : Type} {P : α → Prop} {plan : Plan α} (h : plan.EndsIn P)
    (host : Host) (past : List Call) (d : Disk) : P (plan.runFrom host past d).result := by
  induction h generalizing past d with
  | done holds => exact holds
  | call _ ih => exact ih _ _ _

namespace Comparison

variable {j : Job} {a : Analysis} {s : Section} {P : Except Failure Report → Prop}

theorem endsIn_orFail {ε α : Type} {fail : ε → Failure} {r : Except ε α}
    {next : α → Plan (Except Failure Report)} (hfail : ∀ e, P (.error e))
    (hnext : ∀ x, (next x).EndsIn P) : (orFail fail r next).EndsIn P := by
  cases r with
  | error e => exact .done (hfail _)
  | ok x => exact hnext x

theorem endsIn_drawSection {next : Plan (Except Failure Report)} (hfail : ∀ e, P (.error e))
    (hnext : next.EndsIn P) : (drawSection j a s next).EndsIn P := by
  have hdraw : (renderSection j a s next).EndsIn P :=
    .call fun _ => endsIn_orFail hfail fun _ => hnext
  unfold drawSection
  split
  · exact .call fun _ => endsIn_orFail hfail fun _ => hdraw
  · exact hdraw

/-- **The report is that of the analysis,** whatever the host replies. -/
theorem endsIn_drawingPlan (j : Job) (a : Analysis) :
    (drawingPlan j a).EndsIn fun r => ∀ report, r = .ok report → report = .ofAnalysis j a := by
  have hfail : ∀ (e : Failure) (report : Report), Except.error e = .ok report →
      report = .ofAnalysis j a := by
    intro e report h
    cases h
  have hcompose : (composePictures j a).EndsIn fun r =>
      ∀ report, r = .ok report → report = .ofAnalysis j a :=
    .call fun _ => endsIn_orFail hfail fun _ => .call fun _ => endsIn_orFail hfail fun _ =>
      .call fun _ => endsIn_orFail hfail fun _ => .done fun _ h => (Except.ok.inj h).symm
  have hdraw := endsIn_drawSection (j := j) (a := a) (s := .before) hfail
    (endsIn_drawSection (j := j) (a := a) (s := .after) hfail hcompose)
  refine .call fun _ => endsIn_orFail hfail fun _ => .call fun there => ?_
  split
  · exact .call fun _ => endsIn_orFail hfail fun _ => hdraw
  · exact hdraw

/-- A comparison that succeeds has read a text and analysed it, and reports about that analysis. -/
theorem exists_report {h : Host} {d : Disk} {report : Report}
    (hok : ((plan j).run h d).result = .ok report) :
    ∃ text a, d.readText j.input = .ok text ∧ Analysis.ofText text = .ok a ∧
      report = .ofAnalysis j a := by
  obtain ⟨text, a, hread, hanalyse, hgoes⟩ := exists_of_plan hok
  rw [Plan.run, hgoes.run] at hok
  exact ⟨text, a, hread, hanalyse, (endsIn_drawingPlan j a).runFrom h _ _ report hok⟩

end Comparison

/-! ## The difference of the lines -/

namespace Analysis

/-- **The trees are compared by their lines.** Let the two lists be the trimmed lines of the two
sections that are not blank. Every analysis has the first list as its reference, the two differences
of the lists as its added and removed labels, and graphs whose nodes are the texts of the lists in
order, where a node of the second graph is changed exactly if its text is not in the first list. A
comparison that succeeds reports the lengths of the lists, the number of new texts in the second
list, and the same labels. -/
theorem analysis_is_line_difference :
    (∀ (d : Dump) (a : Analysis), ofDump d = .ok a →
      a.ComparesLines (d.texts .before) (d.texts .after)) ∧
    ∀ (h : Host) (j : Comparison.Job) (disk : Disk) (report : Comparison.Report),
      ((Comparison.plan j).run h disk).result = .ok report →
        ∃ text d a, disk.readText j.input = .ok text ∧ Dump.ofText text = .ok d ∧ ofDump d = .ok a ∧
          report.nodesBefore = (d.texts .before).length ∧
          report.nodesAfter = (d.texts .after).length ∧
          report.changed = (d.texts .after).countP (fun x => x ∉ d.texts .before) ∧
          report.added = a.added ∧ report.removed = a.removed := by
  refine ⟨fun d a h => comparesLines_of_ofDump h, fun h j disk report hok => ?_⟩
  obtain ⟨text, a, hread, hanalyse, rfl⟩ := Comparison.exists_report hok
  obtain ⟨d, hsplit, hdump⟩ := exists_dump_of_ofText hanalyse
  exact ⟨text, d, a, hread, hsplit, hdump, count_tree hdump .before, count_tree hdump .after,
    changedCount_graph hdump j.palette, rfl, rfl⟩

namespace Example

/-- A dump with lines that are repeated, moved, nested elsewhere, new and gone. -/
def moved : Dump :=
  ⟨["R", "  X", "    Y", "  X", " ", "  Z"], ["Y", "\tX ", "\t\tN", "\tN", "\tM"]⟩

theorem exists_ofDump_moved : ∃ a, ofDump moved = .ok a := by
  have hbefore : Text.outline moved.before =
      (0, "R") :: [(2, "X"), (4, "Y"), (2, "X"), (2, "Z")] := by decide
  have hafter : Text.outline moved.after =
      (0, "Y") :: [(1, "X"), (2, "N"), (1, "N"), (1, "M")] := by decide
  exact exists_ofDump_of_outline hbefore (by decide) hafter (by decide)

end Example

open Example Session.Example in
/-- A line that is repeated, one that has moved to the root and one that is nested elsewhere are not
changed. Of the new lines each is changed, and each text is added once. -/
theorem analysis_is_line_difference_moved :
    (∃ a, ofDump moved = .ok a ∧ (∀ x, x ∈ a.added.labels ↔ x = "M" ∨ x = "N") ∧
      (∀ x, x ∈ a.removed.labels ↔ x = "R" ∨ x = "Z") ∧
      (a.graph ⟨"gray", "red"⟩ .after).nodes.map (fun n => (n.label, n.status, n.fill)) =
        [("Y", .unchanged, "gray"), ("X", .unchanged, "gray"), ("N", .changed, "red"),
          ("N", .changed, "red"), ("M", .changed, "red")]) ∧
    ∃ report, ((Comparison.plan job).run drawing.host (disk start)).result = .ok report ∧
      report.nodesBefore = 1 ∧ report.changed = 1 := by
  constructor
  · obtain ⟨a, hdump⟩ := exists_ofDump_moved
    have hlines := analysis_is_line_difference.1 _ _ hdump
    rw [show moved.texts .before = ["R", "X", "Y", "X", "Z"] by decide,
      show moved.texts .after = ["Y", "X", "N", "N", "M"] by decide] at hlines
    refine ⟨a, hdump, fun x => ?_, fun x => ?_, (hlines.highlighted _).trans (by decide)⟩
    · rw [hlines.added.mem_iff]
      grind
    · rw [hlines.removed.mem_iff]
      grind
  · have hrun := (drawingCourse.run_eq rfl).1
    obtain ⟨text, d, a, hread, hsplit, -, hnodes, -, hchanged, -⟩ :=
      analysis_is_line_difference.2 _ _ _ _ hrun
    obtain rfl : dump = text := Except.ok.inj (drawingCourse.read.symm.trans hread)
    obtain rfl : ⟨["A"], ["B"]⟩ = d := Except.ok.inj (Eq.trans (by decide) hsplit)
    exact ⟨_, hrun, hnodes.trans (by decide), hchanged.trans (by decide)⟩

end Analysis

end AstCompare
